import PromptDock.Desktop.OutboxRepository

/-!
# The repositories of event ingestion

The statements that one ingestion puts together (`storage/`): the streams and
checkpoints of sources, the runs, the events, the outputs with their protected
text, and the activity projection that the reading list shows.  Each runs inside
the transaction of its caller.
-/

namespace PromptDock.Desktop

open RowTable StoreAction.Action TableStatement DesktopStore

structure SourceCheckpointUpdate where
  source : SourceDescriptor
  cursorJson : Text
  sourceRevision : Option Text
  status : CheckpointStatus
  lastErrorCode : Option String
  updatedAt : Timestamp

/-! ## Sources -/

namespace SourceRepository

variable (engine : DesktopEngine) (tools : Tools)

/-- `SourceRepository::ensure`. -/
def ensure (source : SourceDescriptor) (observedAt : Timestamp) : Desk Text :=
  match source.validate with
  | .error _ => fail "INVALID_SOURCE_DESCRIPTOR" "采集来源身份无效"
  | .ok () => do
    let sourceKey := source.sourceKey tools.hashes
    let s ← read
    match s.sourceStreams.find? fun r => r.sourceKey == sourceKey with
    | none =>
      insert engine streamTable ⟨sourceKey, source, observedAt, some observedAt⟩
      pure sourceKey
    | some stored =>
      if stored.source ≠ source then
        fail "SOURCE_IDENTITY_CONFLICT" "采集来源哈希与已存来源身份不一致"
      else do
        let _ ← update engine streamTable (fun _ r => r.sourceKey == sourceKey)
          fun r => { r with lastSeenAt := mergeTime max r.lastSeenAt observedAt }
        pure sourceKey

/-- `SourceRepository::checkpoint`. -/
def checkpoint (expectedSource : SourceDescriptor) (change : SourceCheckpointUpdate) : Desk Text :=
  if change.source ≠ expectedSource then
    fail "SOURCE_IDENTITY_CONFLICT" "Agent 事件与 checkpoint 的来源身份不一致"
  else do
    let sourceKey ← ensure engine tools change.source change.updatedAt
    let row : CheckpointRow :=
      { sourceKey
        cursorJson := change.cursorJson
        sourceRevision := change.sourceRevision
        status := change.status
        lastErrorCode := change.lastErrorCode
        updatedAt := change.updatedAt }
    upsert engine checkpointTable (fun r => r.sourceKey == sourceKey) row
      fun _ => row
    pure sourceKey

end SourceRepository

/-! ## Runs -/

namespace RunRepository

variable (engine : DesktopEngine)

/-- `RunRepository::find`. -/
def find (runKey : Text) (s : DesktopStore) : Option AgentRunRecord :=
  s.agentRuns.find? fun r => r.runKey == runKey

/-- `RunRepository::find_due_settling`: the due runs in the order of their
deadlines. -/
def findDueSettling (now : Timestamp) (limit : Nat) (s : DesktopStore) : List AgentRunRecord :=
  batchBy
    (fun a b =>
      let deadline (r : AgentRunRecord) := r.settleNotBefore.getD 0
      deadline a < deadline b || (deadline a == deadline b && a.runKey ≤ b.runKey))
    (dueSettling now) limit s.agentRuns

/-- `RunRepository::upsert`. -/
def upsert (run : AgentRunRecord) : Desk Unit := do
  let s ← read
  if s.agentRuns.any fun r => r.runKey == run.runKey then do
    let changed ← update engine runTable
      (fun _ r => r.runKey == run.runKey && r.agentKind == run.agentKind &&
        r.instanceId == run.instanceId)
      fun _ => run
    if changed ≠ 1 then
      fail "AGENT_RUN_IDENTITY_CONFLICT" "Run 标识已属于另一个 Agent 实例"
    else pure ()
  else insert engine runTable run

end RunRepository

/-! ## Events -/

inductive EventAppendResult where
  | inserted (eventRowId sourceKey : Text)
  | replay (eventRowId sourceKey : Text) (observationAdvanced : Bool)

namespace EventStore

variable (engine : DesktopEngine) (tools : Tools)

/-- `AgentEventEnvelopeV2::payload_hash`. -/
def payloadHash (e : AgentEventEnvelopeV2) : Text :=
  deriveStableKey tools.hashes (text "agent-event-payload-v2")
    [tools.encodeMeaning (e.schemaVersion, e.correlation, e.payload, e.metadata)]

/-- `content_hash` of `keys.rs`. -/
def contentHash (t : Text) : Text :=
  deriveStableKey tools.hashes (text "agent-content-v1") [t]

/-- The identifier of an event's row. -/
def eventRowId (sourceKey eventId : Text) : Text :=
  deriveStableKey tools.hashes (text "agent-event-row-v1") [sourceKey, eventId]

/-- `retention_class`. -/
def retentionClass (s : DesktopStore) (e : AgentEventEnvelopeV2) : RetentionClass :=
  match e.metadata.map CaptureMetadata.sourceClassification with
  | some .unknown =>
    let run := e.correlation.runKey.bind fun key => RunRepository.find key s
    if run.any fun run => run.parentRunKey.isNone then .normal else .unknown
  | some .verification => .verification
  | _ => .normal

/-- `event_metadata`. -/
def eventMetadata (e : AgentEventEnvelopeV2) : EventMetadata where
  facts :=
    match e.payload with
    | .runStarted event => .started event.agentLabel
    | .runSettling event => .settling event.reason event.codexUsage
    | .outputProduced event => .output event.outputKind (contentHash tools event.text)
    | .attentionRequired event =>
      .attention event.attentionKind event.safeSummary event.expiresAt
    | .promptSubmitted _ | .runCompleted _ | .runFailed _ | .runInterrupted _
    | .runCancelled _ => .none
  captureMetadata := e.metadata

/-- The row of an event. -/
def eventRow (s : DesktopStore) (sourceKey metadataJson : Text) (e : AgentEventEnvelopeV2) :
    AgentEventRow where
  id := eventRowId tools sourceKey e.eventId
  sourceKey := sourceKey
  eventId := e.eventId
  eventKind := e.payload.kind
  correlation := e.correlation
  outcome := e.payload.outcome
  completionConfidence := e.payload.completionConfidence
  occurredAt := e.occurredAt
  observedAt := e.observedAt
  lastObservedAt := e.observedAt
  retentionClass := retentionClass s e
  contentScrubbedAt := none
  metadataJson := metadataJson
  payloadHash := payloadHash tools e

/-- What `append` does with an event that is stored already. -/
def replay (stored : AgentEventRow) (sourceKey : Text) (e : AgentEventEnvelopeV2) :
    Desk EventAppendResult :=
  if stored.payloadHash ≠ payloadHash tools e then
    fail "AGENT_EVENT_ID_CONFLICT" "同一来源中的 Agent 事件 ID 对应了不同内容"
  else if stored.lastObservedAt < e.observedAt then do
    let _ ← update engine eventTable (fun _ r => r.id == stored.id)
      fun r => { r with lastObservedAt := e.observedAt }
    pure (.replay stored.id sourceKey true)
  else pure (.replay stored.id sourceKey false)

/-- `EventStore::append`. -/
def append (e : AgentEventEnvelopeV2) : Desk EventAppendResult :=
  match e.validate tools.hashes with
  | .error _ => fail "INVALID_AGENT_EVENT" "Agent 事件无效"
  | .ok () => do
    let sourceKey ← SourceRepository.ensure engine tools e.source e.observedAt
    let s ← read
    match s.agentEvents.find? fun r => r.sourceKey == sourceKey && r.eventId == e.eventId with
    | some stored => replay engine tools stored sourceKey e
    | none => do
      checkCapacity 0
      let metadataJson ← lift (tools.crypto.protectMetadata (eventMetadata tools e))
      recordEvent engine (eventRow tools s sourceKey metadataJson e)
      pure (.inserted (eventRowId tools sourceKey e.eventId) sourceKey)

/-- `EventStore::latest_codex_usage`. -/
def latestCodexUsage (runKey : Text) : Desk (Option CodexUsageSnapshot) := do
  let s ← read
  let latest := firstBy
    (fun a b => b.occurredAt < a.occurredAt || (a.occurredAt == b.occurredAt && b.id < a.id))
    (fun r => r.correlation.runKey == some runKey && r.eventKind == .runSettling) s.agentEvents
  match latest with
  | none => pure none
  | some row => do
    let metadata ← lift (tools.crypto.unprotectMetadata row.metadataJson)
    pure metadata.codexUsage

end EventStore

/-! ## Outputs -/

namespace OutputRepository

variable (engine : DesktopEngine) (tools : Tools)

/-- The bytes of content that an output counts for. -/
def outputBytes (output : OutputProducedV2) : Nat :=
  if output.contentAvailable then byteLength output.text else 0

/-- `SELECT COALESCE(MAX(result_revision), 0) + 1`. -/
def nextRevision (runKey : Text) (s : DesktopStore) : Int :=
  (((s.agentOutputs.filter fun r => r.runKey == runKey).map (·.resultRevision)).max?).getD 0 + 1

/-- The row of an output. -/
def outputRow (sourceKey runKey protectedText : Text) (resultRevision : Int)
    (e : AgentEventEnvelopeV2) (output : OutputProducedV2) : AgentOutputRow where
  id := deriveStableKey tools.hashes (text "agent-output-row-v1") [sourceKey, e.eventId]
  runKey := runKey
  sourceKey := sourceKey
  eventId := e.eventId
  outputKind := output.outputKind
  rawText := protectedText
  contentHash := sourceHashSha256 tools.hashes output.text
  contentMode := output.contentMode
  contentAvailable := output.contentAvailable
  contentBytes := outputBytes output
  resultRevision := resultRevision
  isFinal := output.outputKind == .assistantFinal
  occurredAt := e.occurredAt
  observedAt := e.observedAt

/-- `OutputRepository::append`. -/
def append (sourceKey : Text) (e : AgentEventEnvelopeV2) (output : OutputProducedV2) : Desk Unit :=
  match e.correlation.runKey with
  | none => fail "MISSING_RUN_CORRELATION" "Agent 输出事件缺少 Run 关联"
  | some runKey => do
    let s ← read
    match s.agentOutputs.find? fun r => r.sourceKey == sourceKey && r.eventId == e.eventId with
    | some stored =>
      if stored.runKey ≠ runKey ∨ stored.outputKind ≠ output.outputKind ∨
          stored.contentHash ≠ sourceHashSha256 tools.hashes output.text then
        fail "AGENT_OUTPUT_ID_CONFLICT" "同一来源中的 Agent 输出事件 ID 对应了不同内容"
      else pure ()
    | none => do
      checkCapacity (outputBytes output)
      let protectedText ← lift (tools.crypto.protectOutput output.text)
      recordOutput engine
        (outputRow tools sourceKey runKey protectedText (nextRevision runKey s) e output)

/-- The newest result of a run. -/
def latestOutput (runKey : Text) (observedAfter : Timestamp) (s : DesktopStore) :
    Option AgentOutputRow :=
  firstBy (fun a b => b.resultRevision < a.resultRevision)
    (fun r => r.runKey == runKey &&
      (r.outputKind == .assistantFinal || r.outputKind == .assistantCandidate) &&
      observedAfter < r.observedAt)
    s.agentOutputs

/-- The content of a stored output. -/
def readOutput (row : AgentOutputRow) : Except AppError StoredResultContent :=
  if !row.contentAvailable then
    -- retention scrubs the text and leaves the revision
    .ok
      { text := [], contentMode := row.contentMode, contentAvailable := false,
        contentBytes := row.contentBytes, resultRevision := row.resultRevision,
        sourceHash := none }
  else do
    let plaintext ← tools.crypto.unprotectOutput row.rawText
    match plaintext with
    | none => .error ⟨"AGENT_OUTPUT_CORRUPT", "Agent 输出正文不是有效 UTF-8"⟩
    | some text =>
      if byteLength text ≠ row.contentBytes ∨
          sourceHashSha256 tools.hashes text ≠ row.contentHash then
        .error ⟨"AGENT_OUTPUT_CORRUPT", "Agent 输出正文校验失败"⟩
      else
        .ok
          { text
            contentMode := row.contentMode
            contentAvailable := true
            contentBytes := row.contentBytes
            resultRevision := row.resultRevision
            sourceHash := some row.contentHash }

/-- `OutputRepository::latest_result_for_run`. -/
def latestResultForRun (runKey : Text) (observedAfter : Timestamp) :
    Desk (Option StoredResultContent) := do
  let s ← read
  match latestOutput runKey observedAfter s with
  | none => pure none
  | some row => do
    let content ← lift (readOutput tools row)
    pure (some content)

end OutputRepository

/-! ## The activity projection -/

namespace ActivityProjection

variable (engine : DesktopEngine) (tools : Tools)

/-- `ensure` of `activity_projection.rs`. -/
def ensure (runKey : Text) (now : Timestamp) : Desk Unit := do
  let _ ← insertUnless engine presentationTable (fun r => r.runKey == runKey)
    { runKey
      workspaceLabel := []
      activityRevision := 0
      attentionRevision := 0
      acknowledgedAttentionRevision := 0
      lastAttentionEventId := none
      lastAttentionAt := none
      lastNoticeAt := none
      seenResultRevision := 0
      updatedAt := now }
  pure ()

/-- An update of one presentation row that must find it. -/
def advanceWhere (guard : PresentationRow → Bool) (change : PresentationRow → PresentationRow)
    (code message : String) : Desk Unit := do
  let applied ← updateOne engine presentationTable (fun _ => guard) change
  if !applied then fail code message else pure ()

/-- `advance`. -/
def advance (runKey : Text) (now : Timestamp) : Desk Unit := do
  ensure engine runKey now
  advanceWhere engine (fun r => r.runKey == runKey && r.activityRevision < maxRevision)
    (fun r =>
      { r with activityRevision := r.activityRevision + 1, updatedAt := max r.updatedAt now })
    "ACTIVITY_REVISION_OVERFLOW" "活动版本已达上限"

/-- A path separator. -/
def isSeparator (c : Char) : Bool :=
  c == '/' || c == '\\'

/-- The last component of a path. -/
def basename (path : Text) : Text :=
  ((path.reverse.dropWhile isSeparator).takeWhile fun c => !isSeparator c).reverse

/-- `workspace_label`. -/
def workspaceLabel (path : Option Text) : Text :=
  match path with
  | none => []
  | some path =>
    let name := basename path
    if name = text "." ∨ name = text ".." ∨ name.contains ':' ∨ name.contains '@' then []
    else ((tools.platform.redactSecrets name).filter fun c => !UnicodeText.isControl c).take 120

/-- `record_run`. -/
def recordRun (e : AgentEventEnvelopeV2) : Desk Unit :=
  match e.correlation.runKey with
  | none => pure ()
  | some key => do
    advance engine key e.observedAt
    match e.payload with
    | .runStarted start =>
      let label := workspaceLabel tools start.workspacePath
      if label.isEmpty then pure ()
      else do
        let _ ← update engine presentationTable (fun _ r => r.runKey == key)
          fun r => { r with workspaceLabel := label }
        pure ()
    | _ => pure ()

def attentionCooldownMs : Int := 60000

/-- `record_attention`: whether the request may create a notice. -/
def recordAttention (e : AgentEventEnvelopeV2) (eventRowId : Text) (now : Timestamp) : Desk Bool :=
  match e.correlation.runKey with
  | none => pure true
  | some key => do
    let s ← read
    match RunRepository.find key s with
    | none => pure true
    | some run => do
      advance engine key now
      advanceWhere engine (fun r => r.runKey == key && r.attentionRevision < maxRevision)
        (fun r =>
          { r with
            attentionRevision := r.attentionRevision + 1, lastAttentionEventId := some eventRowId,
            lastAttentionAt := some now })
        "ATTENTION_REVISION_OVERFLOW" "提醒版本已达上限"
      let s ← read
      let previous :=
        (s.runPresentation.find? fun r => r.runKey == key).bind (·.lastNoticeAt)
      pure (run.status == .running &&
        previous.all fun at_ => attentionCooldownMs ≤ saturatingSub now at_)

/-- `notice_created`. -/
def noticeCreated (key : Option Text) (now : Timestamp) : Desk Unit :=
  match key with
  | none => pure ()
  | some key => do
    let _ ← update engine presentationTable (fun _ r => r.runKey == key)
      fun r => { r with lastNoticeAt := some now }
    pure ()

/-- The attention notices of a run that never obtained a sending claim. -/
def unsentAttention (runKey : Text) (r : OutboxRow) : Bool :=
  r.agentRunKey == some runKey && r.eventKind == .attentionRequired && r.status.claimable &&
    r.attemptCount == 0 && r.relayNotificationId.isNone && r.acceptanceStage.isNone

/-- `cancel_unsent_attention`. -/
def cancelUnsentAttention (runKey : Text) (now : Timestamp) : Desk Unit := do
  let _ ← update engine outboxTable (fun _ => unsentAttention runKey)
    fun r =>
      { r with
        status := .cancelled, updatedAt := now, lastErrorCode := some "ATTENTION_HISTORICAL",
        lastErrorMessage := some "该轮已结束或正在确认结束；旧权限观察仅保留历史" }
  pure ()

end ActivityProjection

end PromptDock.Desktop
