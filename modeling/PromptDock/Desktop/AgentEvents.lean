import PromptDock.Desktop.DesktopText

/-!
# Agent events

The envelope an agent event arrives in, and the check it passes before it is
stored (`agent/event_v2.rs`, `source.rs`).  The check is written as the program
makes it, field by field with the error of each; `validate_eq_ok` reads off it
what an accepted envelope satisfies.
-/

namespace PromptDock.Desktop

open UnicodeText

/-- `AGENT_EVENT_SCHEMA_VERSION`. -/
def agentEventSchemaVersion : Nat := 4

def maxKeyChars : Nat := 256
def maxLabelChars : Nat := 256
def maxPathChars : Nat := 32768
def maxSafeSummaryChars : Nat := 4096
def maxResultContentBytes : Nat := 262144
def maxSourceComponentChars : Nat := 128

/-- How much of a result is captured. -/
inductive ResultContentMode where
  | statusOnly | redactedExcerpt | fullFinal
deriving DecidableEq

namespace ResultContentMode

def capturesText : ResultContentMode → Bool
  | .statusOnly => false
  | .redactedExcerpt | .fullFinal => true

def rank : ResultContentMode → Nat
  | .statusOnly => 0
  | .redactedExcerpt => 1
  | .fullFinal => 2

end ResultContentMode

/-! ## Sources -/

structure SourceDescriptor where
  (agentKind sourceId sourceKind instanceId : Text)
deriving DecidableEq

inductive SourceDescriptorError where
  | empty (name : String)
  | tooLong (name : String)
  | containsControl (name : String)
deriving DecidableEq

/-- `validate_component` of `source.rs`. -/
def validateComponent (name : String) (value : Text) : Except SourceDescriptorError Unit :=
  if blank value then .error (.empty name)
  else if maxSourceComponentChars < value.length then .error (.tooLong name)
  else if !plain value then .error (.containsControl name)
  else .ok ()

def SourceDescriptor.validate (source : SourceDescriptor) : Except SourceDescriptorError Unit := do
  validateComponent "agent_kind" source.agentKind
  validateComponent "source_id" source.sourceId
  validateComponent "source_kind" source.sourceKind
  validateComponent "instance_id" source.instanceId

/-- `SourceDescriptor::source_key`. -/
def SourceDescriptor.sourceKey (hashes : Hashes) (source : SourceDescriptor) : Text :=
  deriveStableKey hashes (text "agent-source-v1")
    [source.agentKind, source.sourceId, source.sourceKind, source.instanceId]

/-! ## Payloads -/

inductive PromptOrigin where
  | human | system | agentGenerated | imported | unknown
deriving DecidableEq

structure PromptSubmittedV2 where
  text : Text
  (workspacePath modelName : Option Text)
  origin : PromptOrigin
deriving DecidableEq

structure RunStartedV2 where
  agentLabel : Text
  (workspacePath modelName task reasoningEffort : Option Text)
deriving DecidableEq

inductive SettlingReason where
  | agentStopHook | adapterSettled | workflowIdle
deriving DecidableEq

structure CodexUsageSnapshot where
  usedPercent : Option Nat
  windowDurationMins : Option Int
  resetsAt : Option Timestamp
deriving DecidableEq

structure RunSettlingV2 where
  reason : SettlingReason
  codexUsage : Option CodexUsageSnapshot
deriving DecidableEq

inductive CompletionConfidence where
  | authoritative | definitiveAdapter | inferred | provisional
deriving DecidableEq

inductive AgentOutcome where
  | success | failure | interrupted | cancelled | unknown
deriving DecidableEq

inductive OutputKind where
  | assistantFinal | assistantCandidate | errorSummary | systemSummary
deriving DecidableEq

structure OutputProducedV2 where
  outputKind : OutputKind
  text : Text
  contentMode : ResultContentMode
  contentAvailable : Bool
  sourceHash : Option Text
  captureGeneration : Option Int
deriving DecidableEq

inductive AttentionKind where
  | permission | userInput | confirmation
deriving DecidableEq

structure AttentionRequiredV2 where
  attentionKind : AttentionKind
  safeSummary : Text
  expiresAt : Option Timestamp
deriving DecidableEq

/-- `AgentEventPayloadV2`.  The four ends of a run carry only how sure the
adapter is of them. -/
inductive AgentEventPayloadV2 where
  | promptSubmitted (event : PromptSubmittedV2)
  | runStarted (event : RunStartedV2)
  | runSettling (event : RunSettlingV2)
  | runCompleted (completionConfidence : CompletionConfidence)
  | runFailed (completionConfidence : CompletionConfidence)
  | runInterrupted (completionConfidence : CompletionConfidence)
  | runCancelled (completionConfidence : CompletionConfidence)
  | outputProduced (event : OutputProducedV2)
  | attentionRequired (event : AttentionRequiredV2)
deriving DecidableEq

inductive AgentEventKind where
  | promptSubmitted | runStarted | runSettling | runCompleted | runFailed | runInterrupted
  | runCancelled | outputProduced | attentionRequired
deriving DecidableEq

namespace AgentEventPayloadV2

def kind : AgentEventPayloadV2 → AgentEventKind
  | .promptSubmitted _ => .promptSubmitted
  | .runStarted _ => .runStarted
  | .runSettling _ => .runSettling
  | .runCompleted _ => .runCompleted
  | .runFailed _ => .runFailed
  | .runInterrupted _ => .runInterrupted
  | .runCancelled _ => .runCancelled
  | .outputProduced _ => .outputProduced
  | .attentionRequired _ => .attentionRequired

def outcome : AgentEventPayloadV2 → Option AgentOutcome
  | .runCompleted _ => some .success
  | .runFailed _ => some .failure
  | .runInterrupted _ => some .interrupted
  | .runCancelled _ => some .cancelled
  | _ => none

def completionConfidence : AgentEventPayloadV2 → Option CompletionConfidence
  | .runCompleted confidence => some confidence
  | .runFailed confidence => some confidence
  | .runInterrupted confidence => some confidence
  | .runCancelled confidence => some confidence
  | _ => none

end AgentEventPayloadV2

/-! ## Envelopes -/

inductive SourceClassification where
  | userTurn | explicitNonTarget | unknown | verification

structure CaptureMetadata where
  helperBuild : Text
  policyRevision : Int
  sourceClassification : SourceClassification
  sourceReason : Text

structure AgentCorrelationV2 where
  (conversationKey runKey parentRunKey agentId agentRole : Option Text)
deriving DecidableEq

structure AgentEventEnvelopeV2 where
  schemaVersion : Nat
  source : SourceDescriptor
  eventId : Text
  (occurredAt observedAt : Timestamp)
  correlation : AgentCorrelationV2
  payload : AgentEventPayloadV2
  metadata : Option CaptureMetadata

inductive AgentEventV2Error where
  | invalidCaptureMetadata
  | unsupportedSchema (version : Nat)
  | invalidSource (error : SourceDescriptorError)
  | missingField (name : String)
  | fieldTooLong (name : String)
  | contentTooLarge (name : String)
  | containsControl (name : String)
  | invalidResultContent
  | invalidResultHash
  | invalidTimestamp
  | missingCorrelation (name : String)
  | invalidExpiry | invalidUsage
deriving DecidableEq

/-! ## The check -/

def validateBoundedText (name : String) (value : Text) (maxChars : Nat)
    (allowLineControls : Bool) : Except AgentEventV2Error Unit :=
  if blank value then .error (.missingField name)
  else if maxChars < value.length then .error (.fieldTooLong name)
  else if value.any fun c => isControl c && !(allowLineControls && isLineControl c) then
    .error (.containsControl name)
  else .ok ()

def validateKey (name : String) (value : Text) : Except AgentEventV2Error Unit :=
  validateBoundedText name value maxKeyChars false

def validateLabel (name : String) (value : Text) : Except AgentEventV2Error Unit :=
  validateBoundedText name value maxLabelChars false

/-- `value.map_or(Ok(()), check)`. -/
def validateOptional (check : Text → Except AgentEventV2Error Unit) :
    Option Text → Except AgentEventV2Error Unit
  | none => .ok ()
  | some value => check value

def validateOptionalLabel (name : String) (value : Option Text) : Except AgentEventV2Error Unit :=
  validateOptional (validateLabel name) value

def validateOptionalPath (value : Option Text) : Except AgentEventV2Error Unit :=
  validateOptional (fun path => validateBoundedText "workspace_path" path maxPathChars false) value

def validateContentBytes (name : String) (value : Text) : Except AgentEventV2Error Unit :=
  if maxResultContentBytes < byteLength value then .error (.contentTooLarge name)
  else if value.any fun c => isControl c && !isLineControl c then .error (.containsControl name)
  else .ok ()

def validateContent (name : String) (value : Text) : Except AgentEventV2Error Unit :=
  if blank value then .error (.missingField name)
  else validateContentBytes name value

def validateSummary (value : Text) : Except AgentEventV2Error Unit :=
  validateBoundedText "safe_summary" value maxSafeSummaryChars false

def validateOutput (hashes : Hashes) (event : OutputProducedV2) : Except AgentEventV2Error Unit :=
  match event.contentMode with
  | .statusOnly =>
    if event.contentAvailable || !event.text.isEmpty || event.sourceHash.isSome then
      .error .invalidResultContent
    else .ok ()
  | .redactedExcerpt | .fullFinal =>
    if !event.contentAvailable then
      if !event.text.isEmpty || event.sourceHash.isSome then .error .invalidResultContent
      else .ok ()
    else do
      validateContentBytes "text" event.text
      if event.sourceHash ≠ some (sourceHashSha256 hashes event.text) then
        .error .invalidResultHash
      else .ok ()

def validateUsage (usage : CodexUsageSnapshot) : Except AgentEventV2Error Unit :=
  if usage.usedPercent.any (100 < ·) || usage.windowDurationMins.any (· ≤ 0) ||
      usage.resetsAt.any (· < 0) then
    .error .invalidUsage
  else .ok ()

def AgentEventPayloadV2.validate (hashes : Hashes) :
    AgentEventPayloadV2 → Except AgentEventV2Error Unit
  | .promptSubmitted event => do
    validateContent "text" event.text
    validateOptionalPath event.workspacePath
    validateOptionalLabel "model_name" event.modelName
  | .runStarted event => do
    validateLabel "agent_label" event.agentLabel
    validateOptionalPath event.workspacePath
    validateOptionalLabel "model_name" event.modelName
    validateOptional (fun task => validateBoundedText "task" task maxSafeSummaryChars true)
      event.task
    validateOptionalLabel "reasoning_effort" event.reasoningEffort
  | .runSettling event =>
    match event.codexUsage with
    | none => .ok ()
    | some usage => validateUsage usage
  | .runCompleted _ | .runFailed _ | .runInterrupted _ | .runCancelled _ => .ok ()
  | .outputProduced event => validateOutput hashes event
  | .attentionRequired event => validateSummary event.safeSummary

def AgentCorrelationV2.validate (correlation : AgentCorrelationV2) :
    Except AgentEventV2Error Unit := do
  validateOptional (validateKey "conversation_key") correlation.conversationKey
  validateOptional (validateKey "run_key") correlation.runKey
  validateOptional (validateKey "parent_run_key") correlation.parentRunKey
  validateOptional (validateKey "agent_id") correlation.agentId
  validateOptional (validateKey "agent_role") correlation.agentRole

def requiresRunKey : AgentEventKind → Bool
  | .runStarted | .runSettling | .runCompleted | .runFailed | .runInterrupted | .runCancelled
  | .outputProduced => true
  | .promptSubmitted | .attentionRequired => false

/-- `b.is_ascii_alphanumeric() || b == b'_'` for every byte. -/
def isReasonCode (t : Text) : Bool :=
  t.all fun c =>
    ('0' ≤ c && c ≤ '9') || ('A' ≤ c && c ≤ 'Z') || ('a' ≤ c && c ≤ 'z') || c == '_'

def CaptureMetadata.validate (metadata : CaptureMetadata) : Except AgentEventV2Error Unit :=
  if 128 < byteLength metadata.helperBuild || !metadata.helperBuild.all (·.toNat < 128) ||
      !plain metadata.helperBuild then
    .error .invalidCaptureMetadata
  else if metadata.policyRevision < 0 || metadata.sourceReason.isEmpty ||
      128 < byteLength metadata.sourceReason || !isReasonCode metadata.sourceReason then
    .error .invalidCaptureMetadata
  else .ok ()

/-- An expiry of an attention request is later than the request. -/
def AgentEventEnvelopeV2.validateExpiry (e : AgentEventEnvelopeV2) :
    Except AgentEventV2Error Unit :=
  match e.payload with
  | .attentionRequired event =>
    if event.expiresAt.any (· ≤ e.occurredAt) then .error .invalidExpiry else .ok ()
  | _ => .ok ()

def AgentEventEnvelopeV2.validate (hashes : Hashes) (e : AgentEventEnvelopeV2) :
    Except AgentEventV2Error Unit :=
  if e.schemaVersion ≠ agentEventSchemaVersion then .error (.unsupportedSchema e.schemaVersion)
  else do
    e.source.validate.mapError .invalidSource
    match e.metadata with
    | none => .ok ()
    | some metadata => metadata.validate
    validateKey "event_id" e.eventId
    if e.occurredAt < 0 || e.observedAt < e.occurredAt then .error .invalidTimestamp
    else do
      e.correlation.validate
      if e.correlation.parentRunKey.isSome && e.correlation.runKey.isNone then
        .error (.missingCorrelation "run_key")
      else if requiresRunKey e.payload.kind && e.correlation.runKey.isNone then
        .error (.missingCorrelation "run_key")
      else do
        e.payload.validate hashes
        e.validateExpiry

def AgentEventEnvelopeV2.sourceKey (hashes : Hashes) (e : AgentEventEnvelopeV2) : Text :=
  e.source.sourceKey hashes

/-! ## What an accepted envelope satisfies -/

/-- A key, label or path: not blank, bounded, and without control characters. -/
def BoundedText (maxChars : Nat) (t : Text) : Prop :=
  blank t = false ∧ t.length ≤ maxChars ∧ plain t = true

variable {maxChars : Nat}

/-- Bounded text is present for the database as well. -/
theorem sqlPresent_of_bounded {t : Text} (h : BoundedText maxChars t) : sqlPresent t = true :=
  sqlPresent_of_not_blank h.1 h.2.2

variable {name : String} {value : Text}

/-- What the check of a text accepts. -/
theorem validateBoundedText_eq_ok :
    validateBoundedText name value maxChars false = .ok () ↔ BoundedText maxChars value := by
  have hplain : (value.any fun c => isControl c && !(false && isLineControl c)) = !plain value := by
    simp [plain, List.any_eq_not_all_not]
  rw [validateBoundedText, BoundedText, hplain]
  by_cases h : maxChars < value.length
  · cases blank value <;> cases plain value <;> simp [h]
  · cases blank value <;> cases plain value <;> simp [h, Nat.le_of_not_lt h]

/-- A sequence of checks passes if each of them does. -/
theorem checks_eq_ok {ε : Type} {first second : Except ε Unit} :
    (first >>= fun _ => second) = .ok () ↔ first = .ok () ∧ second = .ok () := by
  rw [except_bind_eq_ok]
  constructor
  · rintro ⟨u, hfst, hsnd⟩
    exact ⟨hfst, hsnd⟩
  · rintro ⟨hfst, hsnd⟩
    exact ⟨(), hfst, hsnd⟩

/-- An absent value passes. -/
theorem validateOptional_eq_ok {check : Text → Except AgentEventV2Error Unit}
    {value : Option Text} :
    validateOptional check value = .ok () ↔ ∀ t, value = some t → check t = .ok () := by
  cases value <;> simp [validateOptional]

theorem validateComponent_eq_ok :
    validateComponent name value = .ok () ↔ BoundedText maxSourceComponentChars value := by
  rw [validateComponent, BoundedText]
  by_cases h : maxSourceComponentChars < value.length
  · cases blank value <;> cases plain value <;> simp [h]
  · cases blank value <;> cases plain value <;> simp [h, Nat.le_of_not_lt h]

/-- All four components are bounded. -/
theorem SourceDescriptor.validate_eq_ok {source : SourceDescriptor} : source.validate = .ok () ↔
      BoundedText maxSourceComponentChars source.agentKind ∧
      BoundedText maxSourceComponentChars source.sourceId ∧
      BoundedText maxSourceComponentChars source.sourceKind ∧
      BoundedText maxSourceComponentChars source.instanceId := by
  unfold SourceDescriptor.validate
  simp [checks_eq_ok, validateComponent_eq_ok]

/-- What an accepted envelope satisfies. -/
structure AcceptedEnvelope (hashes : Hashes) (e : AgentEventEnvelopeV2) : Prop where
  source : e.source.validate = .ok ()
  eventId : BoundedText maxKeyChars e.eventId
  occurredAt : 0 ≤ e.occurredAt
  runKey : ∀ key, e.correlation.runKey = some key → BoundedText maxKeyChars key
  named : requiresRunKey e.payload.kind = true → ∃ key, e.correlation.runKey = some key
  payload : e.payload.validate hashes = .ok ()
  expiry : e.validateExpiry = .ok ()

/-- What comes after the check of the metadata. -/
theorem after_metadata {metadata : Option CaptureMetadata}
    {rest : Unit → Except AgentEventV2Error Unit} (h : (match metadata with
      | none => (Except.ok () >>= rest)
      | some metadata => (metadata.validate >>= rest)) = .ok ()) : rest () = .ok () := by
  cases metadata with
  | none => exact h
  | some =>
    obtain ⟨_, _, hrest⟩ := except_bind_eq_ok.mp h
    exact hrest

/-- What an accepted envelope satisfies. -/
theorem AgentEventEnvelopeV2.validate_eq_ok {hashes : Hashes} {e : AgentEventEnvelopeV2}
    (h : e.validate hashes = .ok ()) : AcceptedEnvelope hashes e := by
  unfold AgentEventEnvelopeV2.validate at h
  split at h
  · cases h
  obtain ⟨_, hsrc, h⟩ := except_bind_eq_ok.mp h
  replace h := after_metadata h
  obtain ⟨_, heventId, h⟩ := except_bind_eq_ok.mp h
  split at h
  · cases h
  rename_i htime
  obtain ⟨⟨⟩, hcorrelation, h⟩ := except_bind_eq_ok.mp h
  split at h
  · cases h
  split at h
  · cases h
  rename_i hnamed
  obtain ⟨_, hload, hexpiry⟩ := except_bind_eq_ok.mp h
  simp only [Bool.or_eq_true, decide_eq_true_eq, not_or] at htime
  unfold AgentCorrelationV2.validate at hcorrelation
  simp only [checks_eq_ok, validateOptional_eq_ok] at hcorrelation
  refine ⟨?_, validateBoundedText_eq_ok.mp heventId, Int.not_lt.mp htime.1, ?_, ?_, hload, hexpiry⟩
  · cases hvalid : e.source.validate with
    | ok => rfl
    | error =>
      rw [hvalid] at hsrc
      cases hsrc
  · exact fun key hkey => validateBoundedText_eq_ok.mp (hcorrelation.2.1 key hkey)
  · intro hrequires
    rw [hrequires, Bool.true_and, Bool.not_eq_true, Option.isNone_eq_false_iff] at hnamed
    exact Option.isSome_iff_exists.mp hnamed

end PromptDock.Desktop
