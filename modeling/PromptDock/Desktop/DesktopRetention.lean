import PromptDock.Desktop.ResultStore

/-!
# Retention on the desktop

Two passes keep the database bounded.  `pruneRetained` (`notification/outbox.rs`)
deletes notices that are closed and old enough for their status.  `pruneBatch`
(`storage/retention.rs`) clears content a week after a run ended and deletes
outputs, events and runs after a month; the schema deletes the notices, the
publications and the presentation of a deleted run with it.

Each statement is a function on the database together with the triggers it
fires: `retention_counters` follows every row that enters, leaves or is cleared.
-/

namespace PromptDock.Desktop

open RowTable StoreAction.Action DesktopDatabase RetentionCounters

def bodyRetentionMs : Int := 7 * 24 * 60 * 60 * 1000
def historyRetentionMs : Int := 30 * 24 * 60 * 60 * 1000
def retentionBatchSize : Nat := 200
def outboxTerminalRetentionMs : Int := 30 * 24 * 60 * 60 * 1000
def outboxDeadLetterRetentionMs : Int := 90 * 24 * 60 * 60 * 1000
def outboxRetentionBatchSize : Nat := 500

/-! ## Counters -/

namespace RetentionCounters

/-- `retention_events_delete`. -/
def dropEvent (c : RetentionCounters) (_ : AgentEventRow) : RetentionCounters :=
  { c with eventCount := c.eventCount - 1 }

/-- `retention_outputs_delete`. -/
def dropOutput (c : RetentionCounters) (r : AgentOutputRow) : RetentionCounters :=
  { c with outputCount := c.outputCount - 1, contentBytes := c.contentBytes - r.contentBytes }

/-- `retention_outputs_scrub`, for an output whose content becomes empty. -/
def scrubOutput (c : RetentionCounters) (r : AgentOutputRow) : RetentionCounters :=
  { c with contentBytes := c.contentBytes + 0 - r.contentBytes }

/-- `retention_outbox_delete`. -/
def dropNotice (c : RetentionCounters) (r : OutboxRow) : RetentionCounters :=
  { c with
    outboxCount := c.outboxCount - 1
    contentBytes :=
      c.contentBytes - if r.contentScrubbedAt.isNone then (r.listContentBytes : Int) else 0 }

/-- `retention_outbox_scrub`. -/
def scrubNotice (c : RetentionCounters) (r : OutboxRow) : RetentionCounters :=
  if r.contentScrubbedAt.isNone then
    { c with contentBytes := c.contentBytes - r.listContentBytes }
  else c

end RetentionCounters

/-! ## Statements -/

namespace DesktopDatabase

/-- `DELETE FROM agent_outputs WHERE p`. -/
def dropOutputs (p : AgentOutputRow → Bool) (d : DesktopDatabase) : DesktopDatabase :=
  { d with
    store :=
      { d.store with
        agentOutputs := deleteWhere p d.store.agentOutputs
        retentionCounters :=
          (d.store.agentOutputs.filter p).foldl dropOutput
            d.store.retentionCounters } }

/-- An output without its content. -/
def clearedOutput (r : AgentOutputRow) : AgentOutputRow :=
  { r with rawText := [], contentAvailable := false, contentBytes := 0 }

/-- `UPDATE agent_outputs SET raw_text = '', content_available = 0, content_bytes = 0
WHERE p`. -/
def scrubOutputs (p : AgentOutputRow → Bool) (d : DesktopDatabase) : DesktopDatabase :=
  { d with
    store :=
      { d.store with
        agentOutputs := updateWhere p clearedOutput d.store.agentOutputs
        retentionCounters :=
          (d.store.agentOutputs.filter p).foldl scrubOutput
            d.store.retentionCounters } }

/-- `DELETE FROM agent_events WHERE p`.  The attention entries of the events go
with them. -/
def dropEvents (p : AgentEventRow → Bool) (d : DesktopDatabase) : DesktopDatabase :=
  let kept := deleteWhere p d.store.agentEvents
  { d with
    store :=
      { d.store with
        agentEvents := kept
        attentionEvents :=
          d.store.attentionEvents.filter fun a => (kept.map AgentEventRow.id).contains a.id
        retentionCounters :=
          (d.store.agentEvents.filter p).foldl dropEvent
            d.store.retentionCounters } }

/-- `DELETE FROM notification_outbox WHERE p`.  The publications of the notices
go with them. -/
def dropNotices (p : OutboxRow → Bool) (d : DesktopDatabase) : DesktopDatabase :=
  let kept := deleteWhere p d.store.notificationOutbox
  { store :=
      { d.store with
        notificationOutbox := kept
        retentionCounters :=
          (d.store.notificationOutbox.filter p).foldl dropNotice
            d.store.retentionCounters }
    publications :=
      d.publications.filter fun p => (kept.map OutboxRow.id).contains p.outboxId }

/-- A notice about one of the runs that satisfy `p`. -/
def namesRunIn (p : AgentRunRecord → Bool) (runs : List AgentRunRecord) (r : OutboxRow) : Bool :=
  r.agentRunKey.any fun key => runs.any fun run => p run && run.runKey == key

/-- `DELETE FROM agent_runs WHERE p`.  The notices and the presentation of the
runs go with them. -/
def dropRuns (p : AgentRunRecord → Bool) (d : DesktopDatabase) : DesktopDatabase :=
  let kept := deleteWhere p d.store.agentRuns
  let d' := dropNotices (namesRunIn p d.store.agentRuns) d
  { d' with
    store :=
      { d'.store with
        agentRuns := kept
        runPresentation :=
          d.store.runPresentation.filter fun r =>
            (kept.map AgentRunRecord.runKey).contains r.runKey } }

/-- What a scrub leaves of a notice. -/
def clearedNotice (payloadJson : Text) (now : Timestamp) (r : OutboxRow) : OutboxRow :=
  { r with payloadJson := payloadJson, listBodyAvailable := false, contentScrubbedAt := some now }

/-- `UPDATE notification_outbox SET payload_json = ?, list_body_available = 0,
content_scrubbed_at = ? WHERE p`. -/
def scrubNotices (p : OutboxRow → Bool) (payloadJson : Text) (now : Timestamp)
    (d : DesktopDatabase) : DesktopDatabase :=
  { d with
    store :=
      { d.store with
        notificationOutbox := updateWhere p (clearedNotice payloadJson now)
          d.store.notificationOutbox
        retentionCounters :=
          (d.store.notificationOutbox.filter p).foldl scrubNotice
            d.store.retentionCounters } }

/-- `UPDATE agent_events SET metadata_json = ?, content_scrubbed_at = ? WHERE id = ?`. -/
def scrubEvent (id : Text) (metadataJson : Text) (now : Timestamp) (d : DesktopDatabase) :
    DesktopDatabase :=
  { d with
    store :=
      { d.store with
        agentEvents := updateWhere (fun r => r.id == id)
          (fun r => { r with metadataJson := metadataJson, contentScrubbedAt := some now })
          d.store.agentEvents } }

/-! ## What is due -/

variable (d : DesktopDatabase)

/-- A notice that keeps its run: a delivery may still be made, its remote status
is not final, or an action on its page waits. -/
def unfinished (r : OutboxRow) : Bool :=
  !r.status.closed || (r.status == .delivered && r.acceptedByRelay && r.remotelyUnsettled) ||
    d.actionPending r

/-- `NOT EXISTS` an unfinished notice of the run, negated. -/
def runHeld (runKey : Text) : Bool :=
  d.store.notificationOutbox.any fun r => r.agentRunKey == some runKey && d.unfinished r

/-- The run that a left join finds. -/
def runOf (runKey : Text) : Option AgentRunRecord :=
  d.store.agentRuns.find? fun run => run.runKey == runKey

end DesktopDatabase

/-- When a run ended, as the retention counts it. -/
def AgentRunRecord.endedAt (run : AgentRunRecord) : Timestamp :=
  match run.status with
  | .completed => max (run.completedAt.getD run.lastEventAt) run.lastEventAt
  | .failed => max (run.failedAt.getD run.lastEventAt) run.lastEventAt
  | .interrupted => max (run.interruptedAt.getD run.lastEventAt) run.lastEventAt
  | .cancelled => max (run.cancelledAt.getD run.lastEventAt) run.lastEventAt
  | _ => run.lastEventAt

/-- The run has ended, and it and the row observed at `observedAt` are old
enough. -/
def AgentRunRecord.pastWith (run : AgentRunRecord) (observedAt cutoff : Timestamp) : Bool :=
  isTerminal run.status && max observedAt run.endedAt ≤ cutoff

namespace Retention

variable (d : DesktopDatabase)

/-- An output whose content is cleared. -/
def outputBodyDue (cutoff : Timestamp) (r : AgentOutputRow) : Bool :=
  r.contentAvailable && (d.runOf r.runKey).any (·.pastWith r.observedAt cutoff) &&
    !d.runHeld r.runKey

/-- An output that is deleted. -/
def outputDue (cutoff : Timestamp) (r : AgentOutputRow) : Bool :=
  (match d.runOf r.runKey with
    | none => r.observedAt ≤ cutoff
    | some run => run.pastWith r.observedAt cutoff) &&
    !d.runHeld r.runKey

/-- An event whose run, if it has one, is old enough and not held. -/
def eventPast (cutoff : Timestamp) (r : AgentEventRow) : Bool :=
  (match r.correlation.runKey.bind d.runOf with
    | none => r.observedAt ≤ cutoff
    | some run => run.pastWith r.observedAt cutoff) &&
    r.correlation.runKey.all fun key => !d.runHeld key

/-- An event that is deleted. -/
def eventDue (cutoff : Timestamp) (r : AgentEventRow) : Bool :=
  (r.retentionClass == .normal || r.retentionClass == .verification) && eventPast d cutoff r

/-- An event whose metadata are cleared. -/
def eventMetadataDue (cutoff : Timestamp) (r : AgentEventRow) : Bool :=
  r.retentionClass == .normal && r.contentScrubbedAt.isNone && eventPast d cutoff r

/-- A run that is deleted. -/
def runDue (cutoff : Timestamp) (run : AgentRunRecord) : Bool :=
  isTerminal run.status && run.endedAt ≤ cutoff &&
    !(d.store.agentOutputs.any fun r => r.runKey == run.runKey) && !d.runHeld run.runKey

/-- A notice whose payload is cleared. -/
def noticePayloadDue (cutoff : Timestamp) (r : OutboxRow) : Bool :=
  r.updatedAt ≤ cutoff && r.contentScrubbedAt.isNone && r.status.closed &&
    !(r.status == .delivered && r.acceptedByRelay && r.remotelyUnsettled) && !d.actionPending r

/-- `ORDER BY observed_at ASC, id ASC`, of outputs. -/
def outputBefore (a b : AgentOutputRow) : Bool :=
  a.observedAt < b.observedAt || (a.observedAt == b.observedAt && a.id ≤ b.id)

/-- `ORDER BY observed_at ASC, id ASC`, of events. -/
def eventBefore (a b : AgentEventRow) : Bool :=
  a.observedAt < b.observedAt || (a.observedAt == b.observedAt && a.id ≤ b.id)

/-- `ORDER BY last_event_at ASC, run_key ASC`. -/
def runBefore (a b : AgentRunRecord) : Bool :=
  a.lastEventAt < b.lastEventAt || (a.lastEventAt == b.lastEventAt && a.runKey ≤ b.runKey)

/-- `ORDER BY updated_at ASC, id ASC`. -/
def noticeBefore (a b : OutboxRow) : Bool :=
  a.updatedAt < b.updatedAt || (a.updatedAt == b.updatedAt && a.id ≤ b.id)

end Retention

/-! ## Pruning the outbox -/

/-- The rule by which `prune_retained` deletes a notice of its own accord. -/
def OutboxRow.retainedLongEnough (now : Timestamp) (r : OutboxRow) : Bool :=
  let terminalCutoff := saturatingSub now outboxTerminalRetentionMs
  let deadLetterCutoff := saturatingSub now outboxDeadLetterRetentionMs
  (r.status == .delivered && r.deliveredAt.any (· ≤ terminalCutoff) &&
      (!r.acceptedByRelay || r.remoteStatus.any settledRemotely)) ||
    ((r.status == .cancelled || r.status == .expired) && r.updatedAt ≤ terminalCutoff) ||
    (r.status == .deadLetter && r.updatedAt ≤ deadLetterCutoff)

/-- The rows that `prune_retained` selects. -/
def DesktopDatabase.noticeDue (d : DesktopDatabase) (now : Timestamp) (r : OutboxRow) : Bool :=
  !d.actionPending r && r.retainedLongEnough now

/-- `prune_retained`. -/
def OutboxRepository.pruneRetained (engine : DatabaseEngine) (now : Timestamp) : Base Nat :=
  allOrNothing do
    let d ← read
    let due := inBatch OutboxRow.id Retention.noticeBefore (d.noticeDue now)
      outboxRetentionBatchSize d.store.notificationOutbox
    execute engine (dropNotices due)
    pure (affected due d.store.notificationOutbox)

/-! ## The retention batch -/

structure RetentionPruneResult where
  (scrubbedOutputs scrubbedOutboxPayloads scrubbedEventMetadata deletedOutputs deletedEvents : Nat)
  deletedRuns : Nat

namespace Retention

variable (engine : DatabaseEngine) (tools : Tools)

/-- One statement on the rows of a batch, which it counts. -/
def onBatch {ρ κ : Type} [BEq κ] (rows : DesktopDatabase → List ρ) (key : ρ → κ)
    (before : ρ → ρ → Bool) (due : DesktopDatabase → ρ → Bool)
    (statement : (ρ → Bool) → DesktopDatabase → DesktopDatabase) : Base Nat := do
  let d ← read
  let batch := inBatch key before (due d) retentionBatchSize (rows d)
  execute engine (statement batch)
  pure (affected batch (rows d))

/-- What stands in the place of a cleared payload. -/
def clearedPayload : NotificationPayloadV2 :=
  { NotificationPayloadV2.forRun (text "PromptDock") none none none none none with
    title := text "本地正文已清除", body := text "本地保留期已结束；投递元数据仍可查看。" }

/-- The loop of `scrub_outbox_payloads`. -/
def scrubPayloadsOf (now : Timestamp) : List Text → Base Nat
  | [] => pure 0
  | id :: rest => do
    match tools.crypto.protectPayload clearedPayload with
    | .error error => reject error
    | .ok payloadJson => do
      let d ← read
      execute engine (scrubNotices (fun r => r.id == id) payloadJson now)
      let scrubbed ← scrubPayloadsOf now rest
      pure (affected (fun r => r.id == id) d.store.notificationOutbox + scrubbed)

/-- `scrub_outbox_payloads`. -/
def scrubOutboxPayloads (bodyCutoff now : Timestamp) : Base Nat := do
  let d ← read
  scrubPayloadsOf engine tools now
    ((batchBy noticeBefore (noticePayloadDue d bodyCutoff) retentionBatchSize
      d.store.notificationOutbox).map OutboxRow.id)

/-- What is kept of an event's metadata. -/
def retainedMetadata (metadata : EventMetadata) : EventMetadata :=
  ⟨.none, metadata.captureMetadata⟩

/-- The loop of `scrub_event_metadata`: metadata that cannot be read are passed
over. -/
def scrubMetadataOf (now : Timestamp) : List AgentEventRow → Base Nat
  | [] => pure 0
  | row :: rest =>
    match tools.crypto.unprotectMetadata row.metadataJson with
    | .error _ => scrubMetadataOf now rest
    | .ok metadata =>
      match tools.crypto.protectMetadata (retainedMetadata metadata) with
      | .error error => reject error
      | .ok metadataJson => do
        let d ← read
        execute engine (scrubEvent row.id metadataJson now)
        let scrubbed ← scrubMetadataOf now rest
        pure (affected (fun r => r.id == row.id) d.store.agentEvents + scrubbed)

/-- `scrub_event_metadata`. -/
def scrubEventMetadata (bodyCutoff now : Timestamp) : Base Nat := do
  let d ← read
  scrubMetadataOf engine tools now
    (batchBy eventBefore (eventMetadataDue d bodyCutoff) retentionBatchSize d.store.agentEvents)

/-- `prune_batch`. -/
def pruneBatch (now : Timestamp) : Base RetentionPruneResult :=
  let bodyCutoff := saturatingSub now bodyRetentionMs
  let historyCutoff := saturatingSub now historyRetentionMs
  allOrNothing do
    let scrubbedOutputs ← onBatch engine (·.store.agentOutputs) AgentOutputRow.id outputBefore
      (outputBodyDue · bodyCutoff) scrubOutputs
    let scrubbedOutboxPayloads ← scrubOutboxPayloads engine tools bodyCutoff now
    let scrubbedEventMetadata ← scrubEventMetadata engine tools bodyCutoff now
    let deletedOutputs ← onBatch engine (·.store.agentOutputs) AgentOutputRow.id outputBefore
      (outputDue · historyCutoff) dropOutputs
    let deletedEvents ← onBatch engine (·.store.agentEvents) AgentEventRow.id eventBefore
      (eventDue · historyCutoff) dropEvents
    let deletedRuns ← onBatch engine (·.store.agentRuns) AgentRunRecord.runKey runBefore
      (runDue · historyCutoff) dropRuns
    pure
      { scrubbedOutputs
        scrubbedOutboxPayloads
        scrubbedEventMetadata
        deletedOutputs
        deletedEvents
        deletedRuns }

end Retention

end PromptDock.Desktop
