import PromptDock.Desktop.EventRepositories

/-!
# Event ingestion

How an agent event becomes rows (`agent/event_ingestor.rs`).  One transaction
appends the event, reduces its run, stores an output or an attention request,
keeps the notices of the run in step, and moves the checkpoint of the source.  An
error leaves the checkpoint where it was.
-/

namespace PromptDock.Desktop

open StoreAction.Action TableStatement

/-! ## The ingestor -/

structure AgentNotificationPolicy where
  notifications : NotificationSettings
  resultContentMode : ResultContentMode

/-- What a transaction has to wake afterwards. -/
structure CommittedOutcome where
  (outboxChanged finalizerChanged : Bool)

def terminalNotificationDebounceMs : Int := 3000

/-- `run_state_error`. -/
def runStateError : RunStateError → AppError
  | .missingRunCorrelation => ⟨"MISSING_RUN_CORRELATION", "Agent 事件缺少 Run 关联"⟩
  | .identityConflict => ⟨"AGENT_RUN_IDENTITY_CONFLICT", "Run 标识已属于另一个 Agent 实例"⟩
  | .correlationConflict _ => ⟨"AGENT_RUN_CORRELATION_CONFLICT", "Run 关联身份冲突"⟩
  | .unsupportedEvent => ⟨"UNSUPPORTED_RUN_EVENT", "该 Agent 事件不能更新 Run 投影"⟩

/-- `require_applied` of `desktop_policy.rs`. -/
def requireApplied (revision : Int) : Desk Unit := do
  let s ← read
  if s.desktopPrivacy.policyRevision ≠ revision then
    fail "POLICY_PENDING_APPLY" "正在应用新的内容策略，事件保留等待重试"
  else pure ()

namespace AgentEventIngestor

variable (engine : DesktopEngine) (tools : Tools)

/-- `cancel_start`. -/
def cancelStart (runKey : Text) (now : Timestamp) (reason : String) : Desk Unit := do
  let _ ← OutboxRepository.cancelPendingRunStartedTx engine runKey now reason
    "Run changed state before start notification delivery"
  pure ()

/-- `apply_reopen_side_effects`. -/
def applyReopenSideEffects (e : AgentEventEnvelopeV2) (transition : RunTransition) : Desk Unit :=
  onlyIf transition.reopenedInferredCompletion do
    let _ ← OutboxRepository.cancelPendingRunCompletedTx engine transition.run.runKey e.observedAt
      "RUN_REOPENED" "Run resumed after inferred completion"
    pure ()

/-- `cancel_replaced_inferred_completion`. -/
def cancelReplacedInferredCompletion (e : AgentEventEnvelopeV2) (transition : RunTransition) :
    Desk Unit :=
  onlyIf transition.replacedInferredCompletion do
    let _ ← OutboxRepository.cancelPendingRunCompletedTx engine transition.run.runKey e.observedAt
      "RUN_TERMINAL_CORRECTED" "Authoritative terminal state replaced inferred completion"
    pure ()

/-- `reduce_and_store`. -/
def reduceAndStore (e : AgentEventEnvelopeV2) (completionQuietMs : Int) : Desk RunTransition :=
  match e.correlation.runKey with
  | none => fail "MISSING_RUN_CORRELATION" "Agent 事件缺少 Run 关联"
  | some runKey => do
    let s ← read
    let transition ← lift ((reduceRunWithQuiet (RunRepository.find runKey s) e
      completionQuietMs).mapError runStateError)
    RunRepository.upsert engine transition.run
    ActivityProjection.recordRun engine tools e
    onlyIf (transition.run.status != .running)
      (ActivityProjection.cancelUnsentAttention engine runKey e.observedAt)
    pure transition

/-- The result that a notice shows: none at the start of a run. -/
def noticeOutput (run : AgentRunRecord) (kind : NotificationEventKind) :
    Desk (Option StoredResultContent) :=
  if kind = .runStarted then pure none
  else do
    let s ← read
    OutputRepository.latestResultForRun tools run.runKey s.desktopPrivacy.excerptFloor

/-- `build_notification_payload`. -/
def buildNotificationPayload (settings : NotificationSettings) (run : AgentRunRecord)
    (kind : NotificationEventKind) (startContext : Option RunStartedV2) :
    Desk NotificationPayloadV2 := do
  let output ← noticeOutput tools run kind
  let usage ← EventStore.latestCodexUsage tools run.runKey
  lift (NotificationContentBuilder.build tools.hashes tools.platform
    { eventKind := kind, run, output, startContext, usage, settings })

/-- The notice of the start of a run. -/
def projectStart (e : AgentEventEnvelopeV2) (policy : AgentNotificationPolicy)
    (run : AgentRunRecord) (started : RunStartedV2) : Desk Bool := do
  let payload ← buildNotificationPayload tools policy.notifications run .runStarted (some started)
  OutboxRepository.insertTx engine tools
    { agentRunKey := run.runKey
      kind := .runStarted
      dedupeKey := text "run_started:" ++ run.runKey
      payload
      contentPolicyHash := startedNotificationPolicyFingerprint tools.hashes
      createdAt := e.occurredAt
      notBefore := e.occurredAt }

/-- `project_terminal_notification`. -/
def projectTerminalNotification (e : AgentEventEnvelopeV2) (policy : AgentNotificationPolicy)
    (transition : RunTransition) (kind : NotificationEventKind) : Desk Bool :=
  if !transition.terminalApplied then pure false
  else do
    cancelStart engine transition.run.runKey e.occurredAt "RUN_TERMINAL"
    if !policy.notifications.enabled || !policy.notifications.notifyEnded ||
        e.payload.completionConfidence ≠ some .authoritative then
      pure false
    else do
      let payload ← buildNotificationPayload tools policy.notifications transition.run kind none
      OutboxRepository.insertTx engine tools
        { agentRunKey := transition.run.runKey
          kind
          dedupeKey := kind.asStr ++ text ":" ++ transition.run.runKey
          payload
          contentPolicyHash := runNotificationPolicyFingerprint tools.hashes policy.notifications
          createdAt := e.occurredAt
          notBefore := saturatingAdd ((terminalAt transition.run).getD e.occurredAt)
            terminalNotificationDebounceMs }

/-- `output_capture_allowed`. -/
def outputCaptureAllowed (s : DesktopStore) (eventGeneration : Option Int)
    (eventMode : ResultContentMode) : Bool :=
  eventGeneration == some s.desktopPrivacy.contentEpoch &&
    eventMode.rank ≤ s.desktopPrivacy.captureMode.rank

/-- `display_agent_kind`. -/
def displayAgentKind (agentKind : Text) : Text :=
  match agentKind with
  | first :: rest => tools.platform.upperCase first ++ rest
  | [] => text "Agent"

/-- The notice of an attention request. -/
def projectAttention (e : AgentEventEnvelopeV2) (sourceKey : Text)
    (settings : NotificationSettings) (attention : AttentionRequiredV2) (ingestedAt : Timestamp) :
    Desk Bool := do
  let s ← read
  let run := e.correlation.runKey.bind fun key => RunRepository.find key s
  let agentLabel :=
    match run with
    | some run => run.agentLabel
    | none => displayAgentKind tools e.source.agentKind
  let payload ← lift (NotificationContentBuilder.buildAttention tools.hashes tools.platform
    { attentionKind := attention.attentionKind
      agentLabel
      safeSummary := attention.safeSummary
      occurredAt := e.occurredAt
      settings })
  let created ← OutboxRepository.insertAttentionTx engine tools
    { agentRunKey := run.map (·.runKey)
      dedupeKey := text "attention_required:" ++ sourceKey ++ text ":" ++ e.eventId
      payload
      contentPolicyHash := attentionNotificationPolicyFingerprint tools.hashes settings
      createdAt := e.occurredAt
      observedAt := ingestedAt
      expiresAt := attention.expiresAt }
  if created then do
    ActivityProjection.noticeCreated engine e.correlation.runKey ingestedAt
    pure true
  else pure false

/-- The row of an attention request. -/
def attentionRow (e : AgentEventEnvelopeV2) (eventRowId : Text)
    (attention : AttentionRequiredV2) : AttentionRow where
  id := eventRowId
  runKey := e.correlation.runKey
  kind := attention.attentionKind
  safeSummary := attention.safeSummary
  occurredAt := e.occurredAt
  expiresAt := attention.expiresAt.or (checkedAdd e.occurredAt 1800000)
  resolution := none

/-- Events that are stored and not projected: not the user's turns, or of
unknown origin and about no known run. -/
def suppressed (s : DesktopStore) (e : AgentEventEnvelopeV2) : Bool :=
  match e.metadata.map CaptureMetadata.sourceClassification with
  | some .explicitNonTarget | some .verification => true
  | some .unknown => (e.correlation.runKey.bind fun key => RunRepository.find key s).isNone
  | some .userTurn | none => false

/-- The part of `project_event` for each kind of event. -/
def projectPayload (eventRowId sourceKey : Text) (e : AgentEventEnvelopeV2)
    (policy : AgentNotificationPolicy) (ingestedAt : Timestamp) : Desk CommittedOutcome :=
  let settings := policy.notifications
  let reduce := reduceAndStore engine tools e settings.completionQuietMs
  match e.payload with
  -- prompts are kept as events only
  | .promptSubmitted _ => pure ⟨false, false⟩
  | .runStarted started => do
    let transition ← reduce
    applyReopenSideEffects engine e transition
    if settings.enabled && settings.mode != .completionOnly &&
        transition.run.status == .running then do
      let changed ← projectStart engine tools e policy transition.run started
      pure ⟨changed, true⟩
    else pure ⟨false, true⟩
  | .runSettling _ => do
    let transition ← reduce
    cancelStart engine transition.run.runKey e.occurredAt "RUN_SETTLING"
    pure ⟨false, true⟩
  | .runCompleted _ => do
    let transition ← reduce
    if transition.replacedInferredCompletion && transition.terminalApplied then
      pure ⟨false, true⟩
    else do
      let changed ← projectTerminalNotification engine tools e policy transition .runCompleted
      pure ⟨changed, true⟩
  | .runFailed _ => do
    let transition ← reduce
    cancelReplacedInferredCompletion engine e transition
    let changed ← projectTerminalNotification engine tools e policy transition .runFailed
    pure ⟨changed, true⟩
  | .runInterrupted _ => do
    let transition ← reduce
    cancelReplacedInferredCompletion engine e transition
    let changed ← projectTerminalNotification engine tools e policy transition .runInterrupted
    pure ⟨changed, true⟩
  | .runCancelled _ => do
    let transition ← reduce
    cancelReplacedInferredCompletion engine e transition
    if transition.terminalApplied then do
      cancelStart engine transition.run.runKey e.occurredAt "RUN_CANCELLED"
      pure ⟨false, true⟩
    else pure ⟨false, true⟩
  | .outputProduced output => do
    let transition ← reduce
    applyReopenSideEffects engine e transition
    let s ← read
    if outputCaptureAllowed s output.captureGeneration output.contentMode then do
      OutputRepository.append engine tools sourceKey e output
      pure ⟨false, true⟩
    else pure ⟨false, true⟩
  | .attentionRequired attention => do
    insert engine DesktopStore.attentionTable (attentionRow e eventRowId attention)
    let mayNotify ← ActivityProjection.recordAttention engine e eventRowId ingestedAt
    if settings.enabled && settings.attentionEnabled && mayNotify then do
      let changed ← projectAttention engine tools e sourceKey settings attention ingestedAt
      pure ⟨changed, false⟩
    else pure ⟨false, false⟩

/-- `project_event`. -/
def projectEvent (eventRowId sourceKey : Text) (e : AgentEventEnvelopeV2)
    (policy : AgentNotificationPolicy) (ingestedAt : Timestamp) : Desk CommittedOutcome := do
  let s ← read
  if suppressed s e then pure ⟨false, false⟩
  else projectPayload engine tools eventRowId sourceKey e policy ingestedAt

/-- What follows the append: an event that was stored already is not projected
again. -/
def projectAppended (e : AgentEventEnvelopeV2) (policy : AgentNotificationPolicy)
    (ingestedAt : Timestamp) : EventAppendResult → Desk CommittedOutcome
  | .replay .. => pure ⟨false, false⟩
  | .inserted eventRowId sourceKey =>
    projectEvent engine tools eventRowId sourceKey e policy ingestedAt

/-- The transaction of `process`. -/
def ingest (e : AgentEventEnvelopeV2) (policy : AgentNotificationPolicy)
    (checkpoint : SourceCheckpointUpdate) : Desk CommittedOutcome := do
  requireApplied policy.notifications.policyRevision
  let appended ← EventStore.append engine tools e
  let result ← projectAppended engine tools e policy checkpoint.updatedAt appended
  let _ ← SourceRepository.checkpoint engine tools e.source checkpoint
  pure result

/-- `AgentEventIngestor::process`.  The policy is read before the transaction. -/
def process (policy : Except AppError AgentNotificationPolicy) (e : AgentEventEnvelopeV2)
    (checkpoint : SourceCheckpointUpdate) : Desk CommittedOutcome :=
  match e.validate tools.hashes with
  | .error _ => fail "INVALID_AGENT_EVENT" "Agent 事件无效"
  | .ok () =>
    if e.source ≠ checkpoint.source then
      fail "SOURCE_IDENTITY_CONFLICT" "Agent 事件与 checkpoint 的来源身份不一致"
    else do
      let policy ← lift policy
      if !policy.notifications.validate then
        fail "INVALID_NOTIFICATION_SETTINGS" "通知设置无效"
      else allOrNothing (ingest engine tools e policy checkpoint)

/-- `checkpoint_policy_skip`. -/
def checkpointPolicySkip (checkpoint : SourceCheckpointUpdate) : Desk Unit :=
  allOrNothing do
    let _ ← SourceRepository.checkpoint engine tools checkpoint.source checkpoint
    pure ()

end AgentEventIngestor

end PromptDock.Desktop
