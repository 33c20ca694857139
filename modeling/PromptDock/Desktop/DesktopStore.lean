import PromptDock.TableStatement
import PromptDock.Desktop.NotificationContent

/-!
# The desktop store

The tables of `001_init.sql` that event ingestion, the finalizer, the policy
projection and the delivery worker share, with the row checks, unique columns
and references of the schema.  The triggers that keep `retention_counters` are
part of the statements that fire them (`recordEvent`, `recordOutput`,
`recordNotice`, `forgetOutputs`).

The one row of `app_metadata` that is read here is the hold document.
-/

namespace PromptDock.Desktop

open RowTable StoreAction Action TableStatement

/-! ## Rows -/

/-- One row of `source_streams`. -/
structure SourceStreamRow where
  sourceKey : Text
  source : SourceDescriptor
  createdAt : Timestamp
  lastSeenAt : Option Timestamp
deriving DecidableEq

def SourceStreamRow.check (r : SourceStreamRow) : Bool :=
  sqlPresent r.sourceKey && sqlPresent r.source.agentKind && sqlPresent r.source.sourceId &&
    sqlPresent r.source.sourceKind && sqlPresent r.source.instanceId

/-- `source_checkpoints.status`. -/
inductive CheckpointStatus where
  | configured | active | degraded | unsupported
deriving DecidableEq

/-- One row of `source_checkpoints`.  The program writes only cursors that it
serialized itself, so their JSON is valid. -/
structure CheckpointRow where
  (sourceKey cursorJson : Text)
  sourceRevision : Option Text
  status : CheckpointStatus
  lastErrorCode : Option String
  updatedAt : Timestamp
deriving DecidableEq

/-- `agent_events.retention_class`. -/
inductive RetentionClass where
  | normal | unknown | verification
deriving DecidableEq

/-- One row of `agent_events`. -/
structure AgentEventRow where
  (id sourceKey eventId : Text)
  eventKind : AgentEventKind
  correlation : AgentCorrelationV2
  outcome : Option AgentOutcome
  completionConfidence : Option CompletionConfidence
  (occurredAt observedAt lastObservedAt : Timestamp)
  retentionClass : RetentionClass
  contentScrubbedAt : Option Timestamp
  (metadataJson payloadHash : Text)
deriving DecidableEq

def AgentEventRow.check (r : AgentEventRow) : Bool :=
  sqlPresent r.eventId && sqlPresent r.payloadHash

/-- The row checks of `agent_runs`. -/
def AgentRunRecord.check (r : AgentRunRecord) : Bool :=
  sqlPresent r.runKey && sqlPresent r.agentKind && sqlPresent r.instanceId &&
    sqlPresent r.agentLabel && 0 ≤ r.settleGeneration &&
    r.completedAt.all fun completed => r.startedAt.all (· ≤ completed)

/-- One row of `agent_outputs`. -/
structure AgentOutputRow where
  (id runKey sourceKey eventId : Text)
  outputKind : OutputKind
  (rawText contentHash : Text)
  contentMode : ResultContentMode
  contentAvailable : Bool
  contentBytes : Nat
  resultRevision : Int
  isFinal : Bool
  (occurredAt observedAt : Timestamp)
deriving DecidableEq

def AgentOutputRow.check (r : AgentOutputRow) : Bool :=
  sqlPresent r.runKey && sqlPresent r.eventId && sqlPresent r.contentHash &&
    r.contentBytes ≤ maxResultContentBytes && 0 < r.resultRevision

/-- One row of `attention_events`. -/
structure AttentionRow where
  id : Text
  runKey : Option Text
  kind : AttentionKind
  safeSummary : Text
  occurredAt : Timestamp
  expiresAt : Option Timestamp
  resolution : Option Text
deriving DecidableEq

def AttentionRow.check (r : AttentionRow) : Bool :=
  1 ≤ sqlLength (sqlTrim r.safeSummary) && sqlLength (sqlTrim r.safeSummary) ≤ 512 &&
    0 ≤ r.occurredAt && (r.expiresAt.all (r.occurredAt < ·)) &&
    r.resolution.all fun t => 1 ≤ sqlLength (sqlTrim t) && sqlLength (sqlTrim t) ≤ 128

/-- `notification_outbox.status`. -/
inductive OutboxRowStatus where
  | pending | sending | retryWait | blockedActivation | blockedReconnect | delivered | expired
  | cancelled | deadLetter
deriving DecidableEq

namespace OutboxRowStatus

/-- The statuses from which a row may still be claimed: at once, later, or when
what blocks it is gone. -/
def claimable : OutboxRowStatus → Bool
  | .pending | .retryWait | .blockedActivation | .blockedReconnect => true
  | .sending | .delivered | .expired | .cancelled | .deadLetter => false

/-- The statuses of a row that a delivery may still be made for. -/
def live (s : OutboxRowStatus) : Bool :=
  s.claimable || s == .sending

end OutboxRowStatus

inductive TransportAcceptanceStage where
  | provider | relay
deriving DecidableEq

/-- One row of `notification_outbox`.  The delivery backend is always the
relay. -/
structure OutboxRow where
  id : Text
  agentRunKey : Option Text
  eventKind : NotificationEventKind
  (dedupeKey clientId payloadJson : Text)
  contentPolicyHash : Option Text
  listTitle : Text
  listContentMode : ResultContentMode
  listContentBytes : Nat
  listResultRevision : Option Int
  listBodyAvailable : Bool
  contentScrubbedAt : Option Timestamp
  priority : Int
  status : OutboxRowStatus
  (notBefore expiresAt : Timestamp)
  attemptCount : Int
  (claimedAt nextAttemptAt : Option Timestamp)
  (lastErrorCode lastErrorMessage : Option String)
  providerMessageId : Option Text
  acceptanceStage : Option TransportAcceptanceStage
  relayNotificationId : Option Text
  relayAcceptedAt : Option Timestamp
  remoteStatus : Option String
  remoteUpdatedAt : Option Timestamp
  remoteProviderMessageId : Option Text
  (createdAt updatedAt : Timestamp)
  deliveredAt : Option Timestamp
deriving DecidableEq

/-- A notice about a run names its run, a test names none. -/
def OutboxRow.namesRun (r : OutboxRow) : Bool :=
  match r.eventKind with
  | .test => r.agentRunKey.isNone
  | .attentionRequired => true
  | _ => r.agentRunKey.isSome

def OutboxRow.check (r : OutboxRow) : Bool :=
  1 ≤ sqlLength r.listTitle && sqlLength r.listTitle ≤ 160 &&
    r.listContentBytes ≤ maxResultContentBytes &&
    (r.listResultRevision.all fun revision => 1 ≤ revision && revision ≤ maxRevision) &&
    0 ≤ r.attemptCount && r.namesRun

/-- The row of `desktop_privacy`. -/
structure PrivacyRow where
  captureMode : ResultContentMode
  (contentEpoch policyRevision : Int)
  taskInputEnabled : Bool
  excerptFloor : Int
deriving DecidableEq

def PrivacyRow.check (r : PrivacyRow) : Bool :=
  0 ≤ r.contentEpoch && 0 ≤ r.policyRevision && 0 ≤ r.excerptFloor

/-- The row of `retention_counters`. -/
structure RetentionCounters where
  (eventCount outputCount outboxCount contentBytes : Int)
deriving DecidableEq

def RetentionCounters.check (c : RetentionCounters) : Bool :=
  0 ≤ c.eventCount && 0 ≤ c.outputCount && 0 ≤ c.outboxCount && 0 ≤ c.contentBytes

/-- One row of `run_presentation`. -/
structure PresentationRow where
  (runKey workspaceLabel : Text)
  (activityRevision attentionRevision acknowledgedAttentionRevision : Int)
  lastAttentionEventId : Option Text
  (lastAttentionAt lastNoticeAt : Option Timestamp)
  seenResultRevision : Int
  updatedAt : Timestamp
deriving DecidableEq

def PresentationRow.check (r : PresentationRow) : Bool :=
  sqlLength r.workspaceLabel ≤ 120 &&
    0 ≤ r.activityRevision && r.activityRevision ≤ maxRevision &&
    0 ≤ r.attentionRevision && r.attentionRevision ≤ maxRevision &&
    0 ≤ r.acknowledgedAttentionRevision && r.acknowledgedAttentionRevision ≤ r.attentionRevision &&
    0 ≤ r.seenResultRevision && r.seenResultRevision ≤ maxRevision

/-- `HoldDocument`. -/
structure HoldDocument where
  revision : Nat
  (startedAt untilAt : Option Timestamp)
  requestedDuration : Option Int
deriving DecidableEq

/-- The stored text of the hold document: one that reads as a document, or
another. -/
inductive HoldText where
  | document (document : HoldDocument)
  | unreadable
deriving DecidableEq

/-! ## The store -/

structure DesktopStore where
  sourceStreams : List SourceStreamRow
  sourceCheckpoints : List CheckpointRow
  agentEvents : List AgentEventRow
  agentRuns : List AgentRunRecord
  agentOutputs : List AgentOutputRow
  attentionEvents : List AttentionRow
  notificationOutbox : List OutboxRow
  desktopPrivacy : PrivacyRow
  retentionCounters : RetentionCounters
  runPresentation : List PresentationRow
  hold : Option HoldText
deriving DecidableEq

namespace DesktopStore

/-- The store that the migration leaves. -/
def initial : DesktopStore where
  sourceStreams := []
  sourceCheckpoints := []
  agentEvents := []
  agentRuns := []
  agentOutputs := []
  attentionEvents := []
  notificationOutbox := []
  desktopPrivacy := ⟨.statusOnly, 0, 0, false, 0⟩
  retentionCounters := ⟨0, 0, 0, 0⟩
  runPresentation := []
  hold := none

def streamTable : Table DesktopStore SourceStreamRow where
  rows s := s.sourceStreams
  put s rows := { s with sourceStreams := rows }

def checkpointTable : Table DesktopStore CheckpointRow where
  rows s := s.sourceCheckpoints
  put s rows := { s with sourceCheckpoints := rows }

def eventTable : Table DesktopStore AgentEventRow where
  rows s := s.agentEvents
  put s rows := { s with agentEvents := rows }

def runTable : Table DesktopStore AgentRunRecord where
  rows s := s.agentRuns
  put s rows := { s with agentRuns := rows }

def attentionTable : Table DesktopStore AttentionRow where
  rows s := s.attentionEvents
  put s rows := { s with attentionEvents := rows }

def outboxTable : Table DesktopStore OutboxRow where
  rows s := s.notificationOutbox
  put s rows := { s with notificationOutbox := rows }

def presentationTable : Table DesktopStore PresentationRow where
  rows s := s.runPresentation
  put s rows := { s with runPresentation := rows }

/-! ## The schema -/

/-- The keys and checks of one table. -/
def tableCheck {ρ κ : Type} [DecidableEq κ] (key : ρ → κ) (check : ρ → Bool)
    (rows : List ρ) : Bool :=
  rows.all check && distinct (rows.map key)

def checkSources (s : DesktopStore) : Bool :=
  tableCheck SourceStreamRow.sourceKey SourceStreamRow.check s.sourceStreams &&
    distinct (s.sourceStreams.map SourceStreamRow.source) &&
    tableCheck CheckpointRow.sourceKey
      (fun r => (s.sourceStreams.map SourceStreamRow.sourceKey).contains r.sourceKey)
      s.sourceCheckpoints

def checkEvents (s : DesktopStore) : Bool :=
  tableCheck AgentEventRow.id
    (fun r => r.check && (s.sourceStreams.map SourceStreamRow.sourceKey).contains r.sourceKey)
    s.agentEvents &&
    distinct (s.agentEvents.map fun r => (r.sourceKey, r.eventId)) &&
    tableCheck AttentionRow.id
      (fun r => r.check && (s.agentEvents.map AgentEventRow.id).contains r.id) s.attentionEvents

def checkRuns (s : DesktopStore) : Bool :=
  tableCheck AgentRunRecord.runKey AgentRunRecord.check s.agentRuns &&
    tableCheck PresentationRow.runKey
      (fun r => r.check && (s.agentRuns.map AgentRunRecord.runKey).contains r.runKey)
      s.runPresentation

def checkOutputs (s : DesktopStore) : Bool :=
  tableCheck AgentOutputRow.id
    (fun r => r.check && (s.sourceStreams.map SourceStreamRow.sourceKey).contains r.sourceKey)
    s.agentOutputs &&
    distinct (s.agentOutputs.map fun r => (r.sourceKey, r.eventId)) &&
    distinct (s.agentOutputs.map fun r => (r.runKey, r.resultRevision))

def checkOutbox (s : DesktopStore) : Bool :=
  tableCheck OutboxRow.id
    (fun r => r.check &&
      r.agentRunKey.all fun key => (s.agentRuns.map AgentRunRecord.runKey).contains key)
    s.notificationOutbox &&
    distinct (s.notificationOutbox.map OutboxRow.dedupeKey) &&
    distinct (s.notificationOutbox.map OutboxRow.clientId)

/-- The schema of the store. -/
def check (s : DesktopStore) : Bool :=
  s.checkSources && s.checkEvents && s.checkRuns && s.checkOutputs && s.checkOutbox &&
    s.desktopPrivacy.check && s.retentionCounters.check

example : DesktopStore.initial.check = true := by decide

end DesktopStore

/-- What carries out the desktop's statements. -/
abbrev DesktopEngine := Engine DesktopStore.check

/-- SQLite without faults of its own. -/
def desktopSqlite : DesktopEngine := Engine.faultless DesktopStore.check

/-- A program on the desktop store. -/
abbrev Desk (α : Type) := Action DesktopStore AppError α

/-- `Err(AppError::new(code, message))`. -/
def fail {α : Type} (code message : String) : Desk α :=
  reject ⟨code, message⟩

/-- A fallible computation that touches no table. -/
def lift {α : Type} : Except AppError α → Desk α
  | .ok a => pure a
  | .error e => reject e

namespace DesktopStore

/-! ## Statements that fire triggers -/

/-- `INSERT INTO agent_events`, with `retention_events_insert`. -/
def recordEvent (engine : DesktopEngine) (row : AgentEventRow) : Desk Unit :=
  execute engine fun s =>
    { s with
      agentEvents := s.agentEvents ++ [row]
      retentionCounters :=
        { s.retentionCounters with eventCount := s.retentionCounters.eventCount + 1 } }

/-- `INSERT INTO agent_outputs`, with `retention_outputs_insert`. -/
def recordOutput (engine : DesktopEngine) (row : AgentOutputRow) : Desk Unit :=
  execute engine fun s =>
    { s with
      agentOutputs := s.agentOutputs ++ [row]
      retentionCounters :=
        { s.retentionCounters with
          outputCount := s.retentionCounters.outputCount + 1
          contentBytes := s.retentionCounters.contentBytes + row.contentBytes } }

/-- `DELETE FROM agent_outputs`, with `retention_outputs_delete` for each row. -/
def forgetOutputs (engine : DesktopEngine) : Desk Unit :=
  execute engine fun s =>
    { s with
      agentOutputs := []
      retentionCounters :=
        s.agentOutputs.foldl
          (fun c r =>
            { c with
              outputCount := c.outputCount - 1, contentBytes := c.contentBytes - r.contentBytes })
          s.retentionCounters }

/-- Whether `INSERT OR IGNORE` passes over a row: a unique column is taken, or a
check fails. -/
def ignoresNotice (s : DesktopStore) (row : OutboxRow) : Bool :=
  !row.check || s.notificationOutbox.any fun r =>
    r.id == row.id || r.dedupeKey == row.dedupeKey || r.clientId == row.clientId

/-- The store with one more notice, as `retention_outbox_insert` leaves it. -/
def withNotice (row : OutboxRow) (s : DesktopStore) : DesktopStore :=
  { s with
    notificationOutbox := s.notificationOutbox ++ [row]
    retentionCounters :=
      { s.retentionCounters with
        outboxCount := s.retentionCounters.outboxCount + 1
        contentBytes := s.retentionCounters.contentBytes + row.listContentBytes } }

/-- `INSERT OR IGNORE INTO notification_outbox`; tells whether a row was
inserted. -/
def recordNotice (engine : DesktopEngine) (row : OutboxRow) : Desk Bool := do
  let s ← read
  if s.ignoresNotice row then pure false
  else do
    execute engine (withNotice row)
    pure true

/-! ## Capacity -/

def maxRetainedRecords : Int := 50000
def maxRetainedContentBytes : Int := 67108864

/-- Whether one more record with so many bytes of content may be kept. -/
def hasCapacity (c : RetentionCounters) (incomingContentBytes : Nat) : Bool :=
  saturatingAdd (saturatingAdd (saturatingAdd c.eventCount c.outputCount) c.outboxCount) 1
      ≤ maxRetainedRecords &&
    saturatingAdd c.contentBytes incomingContentBytes ≤ maxRetainedContentBytes

/-- `retention::check_capacity`. -/
def checkCapacity (incomingContentBytes : Nat) : Desk Unit := do
  let s ← read
  if i64Max < incomingContentBytes then
    fail "RETENTION_CAPACITY_EXCEEDED" "接管内容超过本地容量上限"
  else if !hasCapacity s.retentionCounters incomingContentBytes then
    fail "RETENTION_CAPACITY_EXCEEDED" "本地保留容量已满；请等待安全清理完成后再接管新事件"
  else pure ()

end DesktopStore

/-! ## Protected content -/

/-- The part of an event that its stored metadata keeps. -/
inductive EventFacts where
  | none
  | started (agentLabel : Text)
  | settling (reason : SettlingReason) (codexUsage : Option CodexUsageSnapshot)
  | output (outputKind : OutputKind) (contentHash : Text)
  | attention (attentionKind : AttentionKind) (safeSummary : Text) (expiresAt : Option Timestamp)

structure EventMetadata where
  facts : EventFacts
  captureMetadata : Option CaptureMetadata

def EventMetadata.codexUsage (m : EventMetadata) : Option CodexUsageSnapshot :=
  match m.facts with
  | .settling _ usage => usage
  | _ => none

/-- The operating system's protection of stored content, and the serialization
under it.  Each direction may fail. -/
structure ContentCrypto where
  protectMetadata : EventMetadata → Except AppError Text
  unprotectMetadata : Text → Except AppError EventMetadata
  protectPayload : NotificationPayloadV2 → Except AppError Text
  unprotectPayload : Text → Except AppError NotificationPayloadV2
  protectOutput : Text → Except AppError Text
  /-- The stored bytes, or none where they are not UTF-8. -/
  unprotectOutput : Text → Except AppError (Option Text)

/-- Everything the desktop takes from libraries and the platform. -/
structure Tools where
  hashes : Hashes
  platform : Platform
  crypto : ContentCrypto
  /-- `serde_json::to_string` of what an event means. -/
  encodeMeaning :
    Nat × AgentCorrelationV2 × AgentEventPayloadV2 × Option CaptureMetadata → Text

end PromptDock.Desktop
