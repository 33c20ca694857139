import PromptDock.Desktop.AgentEvents

/-!
# The run reducer

How the events of a run change its stored record (`agent/run_reducer.rs`).  A
run that only settled is completed by inference when its quiet window is over
(`finalizeDueRun`); such a completion is withdrawn by any later sign of life,
and every other end absorbs later events.

The text columns of `agent_runs` with a closed set of values are enumerations.
-/

namespace PromptDock.Desktop

/-- `agent_runs.status`. -/
inductive RunStatus where
  | running | settling | completed | failed | interrupted | cancelled | abandoned | unknown
deriving DecidableEq

/-- One row of `agent_runs`. -/
structure AgentRunRecord where
  (runKey agentKind instanceId : Text)
  (conversationKey parentRunKey agentId agentRole : Option Text)
  agentLabel : Text
  status : RunStatus
  outcome : AgentOutcome
  completionConfidence : CompletionConfidence
  (startedAt settlingAt settleNotBefore : Option Timestamp)
  settleGeneration : Int
  (completedAt failedAt interruptedAt cancelledAt : Option Timestamp)
  lastEventAt : Timestamp
deriving DecidableEq

structure RunTransition where
  run : AgentRunRecord
  (terminalApplied reopenedInferredCompletion replacedInferredCompletion : Bool)

inductive RunStateError where
  | missingRunCorrelation
  | identityConflict
  | correlationConflict (field : String)
  | unsupportedEvent

/-- `confidence_rank`, and `stored_confidence_rank` of a stored value. -/
def confidenceRank : CompletionConfidence → Nat
  | .authoritative => 4
  | .definitiveAdapter => 3
  | .inferred => 2
  | .provisional => 1

def isTerminal : RunStatus → Bool
  | .completed | .failed | .interrupted | .cancelled | .abandoned => true
  | .running | .settling | .unknown => false

def canReopenInferred (run : AgentRunRecord) : Bool :=
  run.status == .completed && run.completionConfidence == .inferred

def isAbsorbingTerminal (run : AgentRunRecord) : Bool :=
  isTerminal run.status && !canReopenInferred run

def terminalAt (run : AgentRunRecord) : Option Timestamp :=
  match run.status with
  | .completed => run.completedAt
  | .failed => run.failedAt
  | .interrupted => run.interruptedAt
  | .cancelled => run.cancelledAt
  | _ => none

/-- `stored.map_or(value, |stored| f(stored, value))`. -/
def mergeTime (f : Timestamp → Timestamp → Timestamp) (stored : Option Timestamp)
    (value : Timestamp) : Option Timestamp :=
  some (stored.elim value fun stored => f stored value)

def reopenRunning (run : AgentRunRecord) : AgentRunRecord :=
  { run with
    status := .running, outcome := .unknown, completionConfidence := .provisional,
    settlingAt := none, settleNotBefore := none, completedAt := none, failedAt := none,
    interruptedAt := none, cancelledAt := none }

def applyRunStarted (run : AgentRunRecord) (event : AgentEventEnvelopeV2)
    (started : RunStartedV2) : AgentRunRecord :=
  if !isAbsorbingTerminal run then
    { reopenRunning run with
      agentLabel := started.agentLabel, startedAt := mergeTime min run.startedAt event.occurredAt,
      lastEventAt := max run.lastEventAt event.occurredAt }
  else
    { run with
      agentLabel := if run.agentLabel = run.agentKind then started.agentLabel else run.agentLabel
      startedAt :=
        -- a late start only moves the beginning of a run that it could have begun
        if (terminalAt run).any (event.occurredAt ≤ ·) then
          mergeTime min run.startedAt event.occurredAt
        else run.startedAt }

def applyRunSettling (run : AgentRunRecord) (event : AgentEventEnvelopeV2)
    (completionQuietMs : Int) : AgentRunRecord :=
  if isAbsorbingTerminal run then run
  else
    { run with
      settleGeneration :=
        if run.status ≠ .settling then saturatingAdd run.settleGeneration 1
        else run.settleGeneration
      settlingAt :=
        if run.status ≠ .settling then some event.occurredAt
        else mergeTime min run.settlingAt event.occurredAt
      status := .settling
      outcome := .unknown
      completionConfidence := .provisional
      completedAt := none
      failedAt := none
      interruptedAt := none
      cancelledAt := none
      settleNotBefore :=
        mergeTime max run.settleNotBefore (saturatingAdd event.observedAt completionQuietMs)
      lastEventAt := max run.lastEventAt event.occurredAt }

def applyActivity (run : AgentRunRecord) (event : AgentEventEnvelopeV2) : AgentRunRecord :=
  if isAbsorbingTerminal run then run
  else { reopenRunning run with lastEventAt := max run.lastEventAt event.occurredAt }

/-- Whether an end of a run takes effect. -/
def terminalApplies (run : AgentRunRecord) (status : RunStatus)
    (confidence : CompletionConfidence) : Bool :=
  !(status == .completed && confidence != .authoritative) &&
    (!isTerminal run.status ||
      confidenceRank run.completionConfidence < confidenceRank confidence)

def applyTerminal (run : AgentRunRecord) (event : AgentEventEnvelopeV2) (status : RunStatus)
    (outcome : AgentOutcome) (confidence : CompletionConfidence) : AgentRunRecord :=
  if !terminalApplies run status confidence then run
  else
    { run with
      status := status
      outcome := outcome
      completionConfidence := confidence
      settlingAt := none
      settleNotBefore := none
      completedAt := if status = .completed then some event.occurredAt else none
      failedAt := if status = .failed then some event.occurredAt else none
      interruptedAt := if status = .interrupted then some event.occurredAt else none
      cancelledAt := if status = .cancelled then some event.occurredAt else none
      lastEventAt := max run.lastEventAt event.occurredAt }

def mergeCorrelation (field : String) (stored incoming : Option Text) :
    Except RunStateError (Option Text) :=
  match stored, incoming with
  | some stored, some incoming =>
    if stored ≠ incoming then .error (.correlationConflict field) else .ok (some stored)
  | some stored, none => .ok (some stored)
  | none, incoming => .ok incoming

/-- The record a run starts with. -/
def freshRun (runKey : Text) (event : AgentEventEnvelopeV2) : AgentRunRecord where
  runKey := runKey
  agentKind := event.source.agentKind
  instanceId := event.source.instanceId
  conversationKey := event.correlation.conversationKey
  parentRunKey := event.correlation.parentRunKey
  agentId := nonBlank event.correlation.agentId
  agentRole := nonBlank event.correlation.agentRole
  agentLabel := event.source.agentKind
  status := .running
  outcome := .unknown
  completionConfidence := .provisional
  startedAt := none
  settlingAt := none
  settleNotBefore := none
  settleGeneration := 0
  completedAt := none
  failedAt := none
  interruptedAt := none
  cancelledAt := none
  lastEventAt := event.occurredAt

/-- The part of `merge_run_identity` for a run that is stored. -/
def mergeStoredIdentity (run : AgentRunRecord) (event : AgentEventEnvelopeV2) :
    Except RunStateError AgentRunRecord :=
  if run.agentKind ≠ event.source.agentKind ∨ run.instanceId ≠ event.source.instanceId then
    .error .identityConflict
  else do
    let conversationKey ← mergeCorrelation "conversation_key" run.conversationKey
      event.correlation.conversationKey
    let parentRunKey ← mergeCorrelation "parent_run_key" run.parentRunKey
      event.correlation.parentRunKey
    let agentId ← mergeCorrelation "agent_id" run.agentId (nonBlank event.correlation.agentId)
    let agentRole ← mergeCorrelation "agent_role" run.agentRole
      (nonBlank event.correlation.agentRole)
    pure { run with conversationKey, parentRunKey, agentId, agentRole }

def mergeRunIdentity (current : Option AgentRunRecord) (event : AgentEventEnvelopeV2) :
    Except RunStateError AgentRunRecord :=
  match event.correlation.runKey with
  | none => .error .missingRunCorrelation
  | some runKey =>
    match current with
    | none => .ok (freshRun runKey event)
    | some run => mergeStoredIdentity run event

/-- An end of a run: which completion it replaces, and whether it applied. -/
def terminalTransition (run : AgentRunRecord) (event : AgentEventEnvelopeV2) (status : RunStatus)
    (outcome : AgentOutcome) (confidence : CompletionConfidence) : RunTransition where
  run := applyTerminal run event status outcome confidence
  terminalApplied := terminalApplies run status confidence
  reopenedInferredCompletion := false
  replacedInferredCompletion := canReopenInferred run && terminalApplies run status confidence

/-- What an event does to a run whose identity it matches. -/
def reduceMerged (run : AgentRunRecord) (event : AgentEventEnvelopeV2) (completionQuietMs : Int) :
    Except RunStateError RunTransition :=
  match event.payload with
  | .runStarted started =>
    .ok { run := applyRunStarted run event started, terminalApplied := false,
          reopenedInferredCompletion := canReopenInferred run,
          replacedInferredCompletion := false }
  | .runSettling _ =>
    .ok { run := applyRunSettling run event completionQuietMs, terminalApplied := false,
          reopenedInferredCompletion := false, replacedInferredCompletion := false }
  | .runCompleted confidence =>
    .ok (terminalTransition run event .completed .success confidence)
  | .runFailed confidence =>
    .ok (terminalTransition run event .failed .failure confidence)
  | .runInterrupted confidence =>
    .ok (terminalTransition run event .interrupted .interrupted confidence)
  | .runCancelled confidence =>
    .ok (terminalTransition run event .cancelled .cancelled confidence)
  | .outputProduced _ =>
    .ok { run := applyActivity run event, terminalApplied := false,
          reopenedInferredCompletion := canReopenInferred run,
          replacedInferredCompletion := false }
  | .promptSubmitted _ | .attentionRequired _ => .error .unsupportedEvent

def reduceRunWithQuiet (current : Option AgentRunRecord) (event : AgentEventEnvelopeV2)
    (completionQuietMs : Int) : Except RunStateError RunTransition := do
  let run ← mergeRunIdentity current event
  reduceMerged run event completionQuietMs

/-- Whether the quiet window of a settling run is over. -/
def dueSettling (now : Timestamp) (run : AgentRunRecord) : Bool :=
  run.status == .settling && run.settleNotBefore.any (· ≤ now)

def finalizeDueRun (run : AgentRunRecord) (now : Timestamp) : Option AgentRunRecord :=
  if !dueSettling now run then none
  else
    some { run with
      status := .completed
      -- the quiet window proves that the turn ended, not that it succeeded
      outcome := .unknown
      completionConfidence := .inferred
      completedAt := some (max (run.settlingAt.getD run.lastEventAt) run.lastEventAt)
      failedAt := none
      interruptedAt := none
      cancelledAt := none
      settleNotBefore := none }

/-! ## What reduction keeps -/

/-- Two correlation values that do not contradict each other. -/
def Agree (stored incoming : Option Text) : Prop :=
  ∀ a b, stored = some a → incoming = some b → a = b

instance (stored incoming : Option Text) : Decidable (Agree stored incoming) :=
  decidable_of_iff (∀ a ∈ stored, ∀ b ∈ incoming, a = b)
    ⟨fun h a b ha hb => h a ha b hb, fun h a ha b hb => h a b ha hb⟩

/-- An event that belongs to a stored run as far as identities tell. -/
@[mk_iff]
structure Matches (run : AgentRunRecord) (event : AgentEventEnvelopeV2) : Prop where
  agentKind : run.agentKind = event.source.agentKind
  instanceId : run.instanceId = event.source.instanceId
  conversationKey : Agree run.conversationKey event.correlation.conversationKey
  parentRunKey : Agree run.parentRunKey event.correlation.parentRunKey
  agentId : Agree run.agentId (nonBlank event.correlation.agentId)
  agentRole : Agree run.agentRole (nonBlank event.correlation.agentRole)

instance (run : AgentRunRecord) (event : AgentEventEnvelopeV2) : Decidable (Matches run event) :=
  decidable_of_iff' _ (matches_iff run event)

/-- A stored run with the correlation that an event adds. -/
def correlated (run : AgentRunRecord) (event : AgentEventEnvelopeV2) : AgentRunRecord :=
  { run with
    conversationKey := run.conversationKey.or event.correlation.conversationKey
    parentRunKey := run.parentRunKey.or event.correlation.parentRunKey
    agentId := run.agentId.or (nonBlank event.correlation.agentId)
    agentRole := run.agentRole.or (nonBlank event.correlation.agentRole) }

theorem mergeCorrelation_eq_ok {field : String} {stored incoming merged : Option Text} :
    mergeCorrelation field stored incoming = .ok merged ↔
      Agree stored incoming ∧ merged = stored.or incoming := by
  rcases stored with _ | a <;> rcases incoming with _ | b
  case some.some => by_cases h : a = b <;> simp [mergeCorrelation, Agree, h, eq_comm]
  all_goals simp [mergeCorrelation, Agree, eq_comm]

variable {merged : AgentRunRecord} {event : AgentEventEnvelopeV2}
  {current : Option AgentRunRecord}

/-- A merge succeeds exactly with what the run and the event agree on. -/
theorem mergeStoredIdentity_eq_ok {run : AgentRunRecord} :
    mergeStoredIdentity run event = .ok merged ↔
      Matches run event ∧ merged = correlated run event := by
  unfold mergeStoredIdentity
  split
  · rename_i hid
    constructor
    · intro h
      cases h
    rintro ⟨hmatch, _⟩
    rcases hid with h | h
    · exact absurd hmatch.agentKind h
    · exact absurd hmatch.instanceId h
  · rename_i hid
    obtain ⟨hkind, hinst⟩ := not_or.mp hid
    simp only [except_bind_eq_ok, mergeCorrelation_eq_ok]
    constructor
    · rintro ⟨_, ⟨hc, rfl⟩, _, ⟨hp, rfl⟩, _, ⟨hi, rfl⟩, _, ⟨hr, rfl⟩, hmerge⟩
      exact ⟨⟨not_not.mp hkind, not_not.mp hinst, hc, hp, hi, hr⟩, (Except.ok.inj hmerge).symm⟩
    rintro ⟨hmatch, rfl⟩
    exact ⟨_, ⟨hmatch.conversationKey, rfl⟩, _, ⟨hmatch.parentRunKey, rfl⟩, _,
      ⟨hmatch.agentId, rfl⟩, _, ⟨hmatch.agentRole, rfl⟩, rfl⟩

/-- What an event finds before it is reduced: the run it belongs to, with the
correlation it adds, or a fresh run. -/
theorem mergeRunIdentity_eq_ok : mergeRunIdentity current event = .ok merged ↔
      ∃ runKey, event.correlation.runKey = some runKey ∧
        ((current = none ∧ merged = freshRun runKey event) ∨
          ∃ run, current = some run ∧ Matches run event ∧ merged = correlated run event) := by
  unfold mergeRunIdentity
  cases event.correlation.runKey with
  | none => simp
  | some =>
    cases current with
    | none => simp [eq_comm]
    | some => simp [mergeStoredIdentity_eq_ok]

theorem reduceRunWithQuiet_eq_ok {quiet : Int} {transition : RunTransition} :
    reduceRunWithQuiet current event quiet = .ok transition ↔
      ∃ merged, mergeRunIdentity current event = .ok merged ∧
        reduceMerged merged event quiet = .ok transition :=
  except_bind_eq_ok

end PromptDock.Desktop
