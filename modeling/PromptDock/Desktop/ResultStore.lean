import PromptDock.Desktop.RelayConnection

/-!
# Published results and remote receipts

A completed run whose result is sent in full is published as a page on the
relay.  `relay_result_publications` keeps, for each such notice, the identity of
the submission and the newest receipt (`relay/result_store.rs`); the outbox keeps
the remote status of every notice that the relay accepted.  The background
refresh asks for the status of the notices that
`relayReconciliationCandidatesAfter` returns.

The database is the desktop's store with this table beside it.
-/

namespace PromptDock.Desktop

open UnicodeText RowTable StoreAction TableStatement Action

/-! ## Receipts -/

inductive RelayResultPageState where
  | available | revoked | expired | contentUnavailable
deriving DecidableEq

/-- `is_terminal_page`. -/
def RelayResultPageState.terminal : RelayResultPageState → Bool
  | .available => false
  | .revoked | .expired | .contentUnavailable => true

/-- The remote statuses that `RelayRemoteNotificationState` has. -/
inductive RelayRemoteNotificationState where
  | queued | delivering | partialFailed | blockedTargetChanged | deliveryUnknown | pendingChannel
  | sendingChannel | retryWait | blockedActivation | blockedReconnect | providerAccepted
  | deadLetter | expired | cancelled

def RelayRemoteNotificationState.asStr : RelayRemoteNotificationState → String
  | .queued => "queued"
  | .delivering => "delivering"
  | .partialFailed => "partial_failed"
  | .blockedTargetChanged => "blocked_target_changed"
  | .deliveryUnknown => "delivery_unknown"
  | .pendingChannel => "pending_channel"
  | .sendingChannel => "sending_channel"
  | .retryWait => "retry_wait"
  | .blockedActivation => "blocked_activation"
  | .blockedReconnect => "blocked_reconnect"
  | .providerAccepted => "provider_accepted"
  | .deadLetter => "dead_letter"
  | .expired => "expired"
  | .cancelled => "cancelled"

/-- The statuses that the guard of a destination change, the pruning of the
outbox and the retention batch take for final. -/
def settledRemotely (status : String) : Bool :=
  ["provider_accepted", "dead_letter", "expired", "cancelled", "blocked_target_changed"].contains
    status

/-- The statuses that the refresh does not ask about again;
`is_terminal_notification`. -/
def isTerminalNotification (status : String) : Bool :=
  ["provider_accepted", "dead_letter", "expired", "cancelled", "blocked_target_changed",
    "delivery_unknown"].contains status

/-- `valid_bounded_identifier`, which is also `valid_id` of the result
protocol. -/
def validBoundedIdentifier (value : Text) (maxBytes : Nat) : Bool :=
  trim value == value && !value.isEmpty && byteLength value ≤ maxBytes && plain value

/-- `valid_status` of the result protocol. -/
def validStatus (status : String) : Bool :=
  ["pending_channel", "sending_channel", "retry_wait", "provider_accepted", "blocked_activation",
    "blocked_reconnect", "dead_letter", "expired", "cancelled", "blocked_target_changed",
    "delivery_unknown"].contains status

structure RelayResultReceipt where
  schemaVersion : Nat
  (resultId sourceHash : Text)
  (acceptedAt updatedAt : Timestamp)
  pageState : RelayResultPageState
  pageExpiresAt : Timestamp
  notificationId : Text
  notificationStatus : String

/-- `is_valid_for`. -/
def RelayResultReceipt.isValidFor (receipt : RelayResultReceipt) (id hash : Text) : Bool :=
  receipt.schemaVersion == 1 && receipt.resultId == id && receipt.sourceHash == hash &&
    isDigest hash && 0 ≤ receipt.acceptedAt && receipt.acceptedAt ≤ receipt.updatedAt &&
    receipt.acceptedAt ≤ receipt.pageExpiresAt &&
    validBoundedIdentifier receipt.notificationId 128 && validStatus receipt.notificationStatus

/-! ## The table -/

/-- One row of `relay_result_publications`. -/
structure PublicationRow where
  (outboxId sourceHash : Text)
  resultRevision : Int
  (destinationIdentity requestDigest : Text)
  acceptedAt : Option Timestamp
  pageState : Option RelayResultPageState
  pageExpiresAt : Option Timestamp
  notificationId : Option Text
  notificationStatus : Option String
  updatedAt : Option Timestamp
  (pendingResendRequestId pendingResendNotificationId pendingRevokeRequestId : Option Text)

namespace PublicationRow

/-- Nothing was accepted yet. -/
def unaccepted (p : PublicationRow) : Bool :=
  p.acceptedAt.isNone && p.pageState.isNone && p.pageExpiresAt.isNone && p.notificationId.isNone &&
    p.notificationStatus.isNone && p.updatedAt.isNone

/-- Every column of the receipt is there. -/
def accepted (p : PublicationRow) : Bool :=
  p.acceptedAt.isSome && p.pageState.isSome && p.pageExpiresAt.isSome && p.notificationId.isSome &&
    p.notificationStatus.isSome && p.updatedAt.isSome

def check (p : PublicationRow) : Bool :=
  sqlLength p.sourceHash == 64 && 0 < p.resultRevision &&
    1 ≤ sqlLength p.destinationIdentity && sqlLength p.destinationIdentity ≤ 128 &&
    sqlLength p.requestDigest == 64 && (p.unaccepted || p.accepted)

/-- An action of the user on the page waits for its receipt. -/
def pendingAction (p : PublicationRow) : Bool :=
  p.pendingResendRequestId.isSome || p.pendingRevokeRequestId.isSome

end PublicationRow

structure DesktopDatabase where
  store : DesktopStore
  publications : List PublicationRow

namespace DesktopDatabase

def publicationTable : Table DesktopDatabase PublicationRow where
  rows d := d.publications
  put d rows := { d with publications := rows }

/-- The outbox, as a table of the whole database. -/
def outboxTable : Table DesktopDatabase OutboxRow where
  rows d := d.store.notificationOutbox
  put d rows := { d with store := { d.store with notificationOutbox := rows } }

def checkPublications (d : DesktopDatabase) : Bool :=
  DesktopStore.tableCheck PublicationRow.outboxId
    (fun p => p.check && (d.store.notificationOutbox.map OutboxRow.id).contains p.outboxId)
    d.publications

/-- The schema of the whole database. -/
def check (d : DesktopDatabase) : Bool :=
  d.store.check && d.checkPublications

/-- The publication of a notice: the row that a left join finds. -/
def publication (d : DesktopDatabase) (outboxId : Text) : Option PublicationRow :=
  d.publications.find? fun p => p.outboxId == outboxId

end DesktopDatabase

abbrev DatabaseEngine := Engine DesktopDatabase.check

/-- The database without faults of its own. -/
def databaseSqlite : DatabaseEngine := Engine.faultless DesktopDatabase.check

/-- A program on the database. -/
abbrev Base (α : Type) := Action DesktopDatabase AppError α

/-! ## Submitting -/

/-- The identity of a submission: the columns that `register` writes. -/
structure Submission where
  (outboxId sourceHash : Text)
  resultRevision : Int
  (destinationIdentity requestDigest : Text)
deriving DecidableEq

/-- The row that `register` inserts. -/
def Submission.row (s : Submission) : PublicationRow where
  outboxId := s.outboxId
  sourceHash := s.sourceHash
  resultRevision := s.resultRevision
  destinationIdentity := s.destinationIdentity
  requestDigest := s.requestDigest
  acceptedAt := none
  pageState := none
  pageExpiresAt := none
  notificationId := none
  notificationStatus := none
  updatedAt := none
  pendingResendRequestId := none
  pendingResendNotificationId := none
  pendingRevokeRequestId := none

/-- The identity that a row was registered with. -/
def PublicationRow.submission (p : PublicationRow) : Submission :=
  ⟨p.outboxId, p.sourceHash, p.resultRevision, p.destinationIdentity, p.requestDigest⟩

/-- What the user may do with a published result. -/
inductive ResultAction where
  | resend | revoke
deriving DecidableEq

inductive ResultReceiptApply where
  | applied | alreadyApplied | stale
deriving DecidableEq

namespace ResultStore

/-- `register`. -/
def register (engine : DatabaseEngine) (s : Submission) : Base Unit :=
  allOrNothing do
    let _ ← insertUnless engine DesktopDatabase.publicationTable
      (fun p => p.outboxId == s.outboxId) s.row
    let d ← read
    match d.publication s.outboxId with
    | none => reject ⟨"RESULT_METADATA_UNAVAILABLE", "结果发布登记不可用"⟩
    | some current =>
      if current.submission ≠ s then
        reject ⟨"RESULT_IDEMPOTENCY_CONFLICT", "结果发布身份与首次尝试不一致"⟩
      else pure ()

/-! ## Applying a receipt -/

/-- Whether a receipt may name another notification than the row: the caller
allows it, or a resend of the notification on record waits. -/
def mayChangeNotification (current : PublicationRow) (allowed : Bool) : Bool :=
  allowed || (current.pendingResendRequestId.isSome &&
    current.pendingResendNotificationId == current.notificationId)

/-- The checks of `apply_inner`, in order. -/
def judgeReceipt (current : PublicationRow) (outboxId : Text) (receipt : RelayResultReceipt)
    (allowNotificationChange : Bool) (completion : Option (ResultAction × Text)) :
    Except AppError ResultReceiptApply :=
  if !receipt.isValidFor outboxId current.sourceHash then
    .error ⟨"RESULT_RECEIPT_INVALID", "结果回执与已冻结身份不一致"⟩
  else if current.updatedAt.any (receipt.updatedAt < ·) then .ok .stale
  else if completion.any (fun c => c.1 == .resend) && current.pendingResendRequestId.isSome &&
      current.pendingResendNotificationId == some receipt.notificationId then
    .error ⟨"RESULT_RESEND_UNCONFIRMED", "重发回执尚未确认新的通知身份"⟩
  else if current.notificationId.any (· != receipt.notificationId) &&
      !mayChangeNotification current allowNotificationChange then
    .error ⟨"RESULT_NOTIFICATION_CONFLICT", "结果回执试图替换首次通知身份"⟩
  else if current.acceptedAt.any (· != receipt.acceptedAt) ||
      current.pageExpiresAt.any (· != receipt.pageExpiresAt) then
    .error ⟨"RESULT_RECEIPT_CONFLICT", "结果回执试图更改冻结的时间事实"⟩
  else if current.pageState.any RelayResultPageState.terminal &&
      receipt.pageState == .available then
    .error ⟨"RESULT_PAGE_STATE_CONFLICT", "结果页终态不能回退为可访问"⟩
  else if current.notificationStatus.any isTerminalNotification &&
      !isTerminalNotification receipt.notificationStatus &&
      !(mayChangeNotification current allowNotificationChange &&
        current.notificationId != some receipt.notificationId) then
    .error ⟨"RESULT_NOTIFICATION_STATE_CONFLICT", "终态通知只能通过显式重发创建新身份"⟩
  else if current.updatedAt == some receipt.updatedAt then
    if current.pageState == some receipt.pageState &&
        current.pageExpiresAt == some receipt.pageExpiresAt &&
        current.notificationId == some receipt.notificationId &&
        current.notificationStatus == some receipt.notificationStatus then
      .ok .alreadyApplied
    else .error ⟨"RESULT_RECEIPT_CONFLICT", "相同结果回执版本包含冲突事实"⟩
  else .ok .applied

/-- The row with the facts of a receipt. -/
def withReceipt (receipt : RelayResultReceipt) (p : PublicationRow) : PublicationRow :=
  { p with
    acceptedAt := some receipt.acceptedAt, pageState := some receipt.pageState,
    pageExpiresAt := some receipt.pageExpiresAt, notificationId := some receipt.notificationId,
    notificationStatus := some receipt.notificationStatus, updatedAt := some receipt.updatedAt }

/-- The row after its resend was confirmed. -/
def withoutResend (p : PublicationRow) : PublicationRow :=
  { p with pendingResendRequestId := none, pendingResendNotificationId := none }

/-- The row after its page was revoked. -/
def withoutRevoke (p : PublicationRow) : PublicationRow :=
  { p with pendingRevokeRequestId := none }

/-- `complete_action_tx`. -/
def completeActionTx (engine : DatabaseEngine) (outboxId : Text) (action : ResultAction)
    (requestId : Text) : Base Unit := do
  let _ ← match action with
    | .resend =>
      update engine DesktopDatabase.publicationTable
        (fun _ p => p.outboxId == outboxId && p.pendingResendRequestId == some requestId)
        withoutResend
    | .revoke =>
      update engine DesktopDatabase.publicationTable
        (fun _ p => p.outboxId == outboxId && p.pendingRevokeRequestId == some requestId)
        withoutRevoke
  pure ()

/-- Complete the action that a receipt answers, if it answers one. -/
def completeIfAny (engine : DatabaseEngine) (outboxId : Text)
    (completion : Option (ResultAction × Text)) : Base Unit :=
  match completion with
  | none => pure ()
  | some (action, requestId) => completeActionTx engine outboxId action requestId

/-- The background poll observes the durable resend intent without an action
response: it clears the intent that still names the notification on record when
the receipt replaces that notification. -/
def confirmsResend (current : PublicationRow) (receipt : RelayResultReceipt)
    (completion : Option (ResultAction × Text)) : Bool :=
  completion.isNone && current.pendingResendRequestId.isSome &&
    current.pendingResendNotificationId == current.notificationId &&
    current.pendingResendNotificationId != some receipt.notificationId

/-- The rows from which that intent is cleared.  The comparison with a NULL
column finds none. -/
def resendOf (current : PublicationRow) (outboxId : Text) (receipt : RelayResultReceipt)
    (p : PublicationRow) : Bool :=
  p.outboxId == outboxId && p.pendingResendRequestId == current.pendingResendRequestId &&
    p.pendingResendNotificationId == current.pendingResendNotificationId &&
    p.pendingResendNotificationId.isSome && p.notificationId == some receipt.notificationId

/-- The remote status that a receipt gives its notice. -/
def remoteFrom (receipt : RelayResultReceipt) (r : OutboxRow) : OutboxRow :=
  { r with
    remoteStatus := some receipt.notificationStatus, remoteUpdatedAt := some receipt.updatedAt }

/-- The statements of `apply_inner` for a receipt that is newer. -/
def storeReceipt (engine : DatabaseEngine) (current : PublicationRow) (outboxId : Text)
    (receipt : RelayResultReceipt) (completion : Option (ResultAction × Text)) : Base Unit := do
  let _ ← update engine DesktopDatabase.publicationTable (fun _ p => p.outboxId == outboxId)
    (withReceipt receipt)
  onlyIf (confirmsResend current receipt completion) do
    let _ ← update engine DesktopDatabase.publicationTable
      (fun _ => resendOf current outboxId receipt) withoutResend
    pure ()
  let _ ← update engine DesktopDatabase.outboxTable (fun _ r => r.id == outboxId)
    (remoteFrom receipt)
  onlyIf (receipt.pageState == .revoked) do
    let _ ← update engine DesktopDatabase.publicationTable (fun _ p => p.outboxId == outboxId)
      withoutRevoke
    pure ()
  completeIfAny engine outboxId completion

/-- `apply_inner`. -/
def applyInner (engine : DatabaseEngine) (outboxId : Text) (receipt : RelayResultReceipt)
    (allowNotificationChange : Bool) (completion : Option (ResultAction × Text)) :
    Base ResultReceiptApply :=
  allOrNothing do
    let d ← read
    match d.publication outboxId with
    | none => reject ⟨"RESULT_METADATA_UNAVAILABLE", "结果发布登记缺失"⟩
    | some current =>
      match judgeReceipt current outboxId receipt allowNotificationChange completion with
      | .error error => reject error
      | .ok .stale => pure .stale
      | .ok .alreadyApplied => do
        completeIfAny engine outboxId completion
        pure .alreadyApplied
      | .ok .applied => do
        storeReceipt engine current outboxId receipt completion
        pure .applied

/-- `apply`. -/
def apply (engine : DatabaseEngine) (outboxId : Text) (receipt : RelayResultReceipt)
    (allowNotificationChange : Bool) : Base ResultReceiptApply :=
  applyInner engine outboxId receipt allowNotificationChange none

/-- `apply_action`. -/
def applyAction (engine : DatabaseEngine) (outboxId : Text) (receipt : RelayResultReceipt)
    (action : ResultAction) (requestId : Text) : Base ResultReceiptApply :=
  applyInner engine outboxId receipt (action == .resend) (some (action, requestId))

/-! ## Registering an action -/

/-- The row with the intent of the user, kept where one waits already. -/
def withAction (action : ResultAction) (requestId : Text) (p : PublicationRow) : PublicationRow :=
  match action with
  | .resend =>
    { p with
      pendingResendRequestId := p.pendingResendRequestId.or (some requestId)
      pendingResendNotificationId := p.pendingResendNotificationId.or p.notificationId }
  | .revoke =>
    { p with pendingRevokeRequestId := p.pendingRevokeRequestId.or (some requestId) }

/-- The request that waits for its receipt. -/
def pendingRequest (action : ResultAction) (p : PublicationRow) : Option Text :=
  match action with
  | .resend => p.pendingResendRequestId
  | .revoke => p.pendingRevokeRequestId

/-- `register_action`. -/
def registerAction (engine : DatabaseEngine) (outboxId : Text) (action : ResultAction)
    (requestId : Text) : Base Text :=
  allOrNothing do
    let changed ← update engine DesktopDatabase.publicationTable
      (fun _ p => p.outboxId == outboxId && p.acceptedAt.isSome) (withAction action requestId)
    if changed ≠ 1 then reject ⟨"RESULT_NOT_PUBLISHED", "结果尚未被服务器接管"⟩
    else do
      let d ← read
      pure (((d.publication outboxId).bind (pendingRequest action)).getD requestId)

end ResultStore

/-! ## Remote receipts of the outbox -/

structure RelayReconciliationCandidate where
  (outboxId notificationId : Text)

structure RelayRemoteStatusUpdate where
  (outboxId notificationId : Text)
  status : String
  updatedAt : Timestamp
  providerMessageId : Option Text

/-- The relay took the notice over. -/
def OutboxRow.acceptedByRelay (r : OutboxRow) : Bool :=
  r.acceptanceStage == some .relay

/-- The remote status is none of those that the guard and the retention take for
final. -/
def OutboxRow.remotelyUnsettled (r : OutboxRow) : Bool :=
  !r.remoteStatus.any settledRemotely

/-- `status NOT IN ('cancelled', 'expired', 'dead_letter', 'delivered')`. -/
def OutboxRowStatus.closed : OutboxRowStatus → Bool
  | .cancelled | .expired | .deadLetter | .delivered => true
  | .pending | .sending | .retryWait | .blockedActivation | .blockedReconnect => false

namespace DesktopDatabase

variable (d : DesktopDatabase)

/-- An action on the notice's page waits. -/
def actionPending (r : OutboxRow) : Bool :=
  (d.publication r.id).any PublicationRow.pendingAction

/-- The condition of `relay_reconciliation_candidates_after` on one notice. -/
def reconcilable (r : OutboxRow) : Bool :=
  r.acceptedByRelay && r.relayNotificationId.isSome &&
    match d.publication r.id with
    | some p =>
      p.acceptedAt.isNone || !p.notificationStatus.any isTerminalNotification || p.pendingAction
    | none => !r.remoteStatus.any isTerminalNotification

/-- A notice that the guard of a destination change holds to be unfinished. -/
def holdsDestination (r : OutboxRow) : Bool :=
  !r.status.closed ||
    (r.status == .delivered && r.acceptedByRelay && (r.remotelyUnsettled || d.actionPending r))

/-- `guard_destination_change` finds an unfinished delivery. -/
def blocksDestinationChange : Bool :=
  d.store.notificationOutbox.any d.holdsDestination

end DesktopDatabase

namespace OutboxRepository

/-- The rows of `relay_reconciliation_candidates_after`. -/
def reconciliationPage (d : DesktopDatabase) (limit : Nat) (after : Option Text) : List OutboxRow :=
  batchBy (fun a b => a.id ≤ b.id) (fun r => d.reconcilable r && after.all (· < r.id)) limit
    d.store.notificationOutbox

/-- `relay_reconciliation_candidates_after`. -/
def relayReconciliationCandidatesAfter (limit : Nat) (after : Option Text) :
    Base (List RelayReconciliationCandidate) :=
  if limit < 1 || 50 < limit then
    reject ⟨"INVALID_RECONCILIATION_LIMIT", "Relay 回执刷新数量必须在 1 到 50 之间"⟩
  else do
    let d ← read
    pure ((reconciliationPage d limit after).filterMap fun r =>
      r.relayNotificationId.map (⟨r.id, ·⟩))

/-- The notice that a remote status is for, while its own is not final and not
newer. -/
def takesRemoteStatus (u : RelayRemoteStatusUpdate) (r : OutboxRow) : Bool :=
  r.id == u.outboxId && r.acceptedByRelay && r.relayNotificationId == some u.notificationId &&
    !r.remoteStatus.any isTerminalNotification && r.remoteUpdatedAt.all (· < u.updatedAt)

/-- `valid_relay_remote_status`. -/
def validRelayRemoteStatus (status : String) : Bool :=
  [RelayRemoteNotificationState.queued, .delivering, .partialFailed, .blockedTargetChanged,
    .deliveryUnknown, .pendingChannel, .sendingChannel, .retryWait, .blockedActivation,
    .blockedReconnect, .providerAccepted, .deadLetter, .expired, .cancelled].any
    fun state => state.asStr == status

/-- `apply_relay_remote_status`. -/
def applyRelayRemoteStatus (engine : DatabaseEngine) (u : RelayRemoteStatusUpdate) : Base Bool :=
  if u.updatedAt < 0 || !validBoundedIdentifier u.outboxId 128 ||
      !validBoundedIdentifier u.notificationId 128 || !validRelayRemoteStatus u.status ||
      u.providerMessageId.any fun value => !validBoundedIdentifier value 512 then
    reject ⟨"INVALID_RELAY_NOTIFICATION_STATUS", "Relay 通知状态无效"⟩
  else
    updateOne engine DesktopDatabase.outboxTable (fun _ => takesRemoteStatus u) fun r =>
      { r with
        remoteStatus := some u.status, remoteUpdatedAt := some u.updatedAt,
        remoteProviderMessageId := u.providerMessageId }

/-- `guard_destination_change`, around what saves the profile. -/
def guardDestinationChange {α : Type} (save : Base α) : Base α := do
  let d ← read
  if d.blocksDestinationChange then
    reject ⟨"RELAY_DESTINATION_HAS_PENDING",
      "旧目的地仍有未完成投递，请保留配置直到投递结束或明确取消旧队列"⟩
  else save

end OutboxRepository

end PromptDock.Desktop
