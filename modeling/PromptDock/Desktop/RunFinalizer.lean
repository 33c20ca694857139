import PromptDock.Desktop.EventIngestor

/-!
# The run finalizer

When the quiet window of a settling run is over, the run is completed by
inference and its completion announced (`agent/run_finalizer.rs`).  One
transaction takes the first hundred due runs in the order of their deadlines.
-/

namespace PromptDock.Desktop

open StoreAction

/-- `FINALIZER_BATCH_SIZE`. -/
def finalizerBatchSize : Nat := 100

structure FinalizeBatchOutcome where
  finalized : Nat
  nextDeadline : Option Timestamp
  outboxChanged : Bool

/-- `RunRepository::next_settle_deadline`. -/
def RunRepository.nextSettleDeadline (s : DesktopStore) : Option Timestamp :=
  ((s.agentRuns.filter fun r => r.status == .settling).filterMap (·.settleNotBefore)).min?

namespace RunFinalizer

variable (engine : DesktopEngine) (tools : Tools)

/-- `build_notification_payload` of `run_finalizer.rs`.  The usage comes from the
quota runtime. -/
def buildNotificationPayload (policy : AgentNotificationPolicy)
    (quota : Option CodexUsageSnapshot) (run : AgentRunRecord) : Desk NotificationPayloadV2 := do
  let s ← Action.read
  let output ← OutputRepository.latestResultForRun tools run.runKey s.desktopPrivacy.excerptFloor
  lift (NotificationContentBuilder.build tools.hashes tools.platform
    { eventKind := .runCompleted
      run
      output
      startContext := none
      usage := quota
      settings := policy.notifications })

/-- The notice of an inferred completion. -/
def announceCompletion (policy : AgentNotificationPolicy) (quota : Option CodexUsageSnapshot)
    (run : AgentRunRecord) (now : Timestamp) : Desk Bool :=
  if policy.notifications.enabled && policy.notifications.notifyEnded then do
    let payload ← buildNotificationPayload tools policy quota run
    OutboxRepository.insertTx engine tools
      { agentRunKey := run.runKey
        kind := .runCompleted
        dedupeKey := text "run_completed:" ++ run.runKey ++ text ":settle:" ++
          decimal run.settleGeneration
        payload
        contentPolicyHash := runNotificationPolicyFingerprint tools.hashes policy.notifications
        createdAt := now
        notBefore := now }
  else pure false

/-- What the loop does with a run that is due. -/
def finalizeRun (policy : AgentNotificationPolicy) (quota : Option CodexUsageSnapshot)
    (run : AgentRunRecord) (now : Timestamp) : Desk Bool := do
  RunRepository.upsert engine run
  ActivityProjection.advance engine run.runKey now
  ActivityProjection.cancelUnsentAttention engine run.runKey now
  let _ ← OutboxRepository.cancelPendingRunStartedTx engine run.runKey now "RUN_FINALIZED"
    "Run completed before start notification delivery"
  announceCompletion engine tools policy quota run now

/-- The loop of `finalize_batch`: how many runs were finalized, and whether the
outbox changed. -/
def finalizeAll (policy : AgentNotificationPolicy) (quota : Option CodexUsageSnapshot)
    (now : Timestamp) : List AgentRunRecord → Desk (Nat × Bool)
  | [] => pure (0, false)
  | current :: rest =>
    match finalizeDueRun current now with
    | none => finalizeAll policy quota now rest
    | some run => do
      let changed ← finalizeRun engine tools policy quota run now
      let (finalized, restChanged) ← finalizeAll policy quota now rest
      pure (finalized + 1, changed || restChanged)

/-- `finalize_batch`. -/
def finalizeBatch (policy : AgentNotificationPolicy) (quota : Option CodexUsageSnapshot)
    (now : Timestamp) : Desk FinalizeBatchOutcome :=
  Action.allOrNothing do
    let s ← Action.read
    let due := RunRepository.findDueSettling now finalizerBatchSize s
    requireApplied policy.notifications.policyRevision
    let (finalized, outboxChanged) ← finalizeAll engine tools policy quota now due
    let s ← Action.read
    pure ⟨finalized, RunRepository.nextSettleDeadline s, outboxChanged⟩

end RunFinalizer

end PromptDock.Desktop
