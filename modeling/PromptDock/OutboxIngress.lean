import PromptDock.RelayStore

/-!
# Entering notifications into the outbox

`outbox/validation.rs`, `outbox/ingress.rs` and the two statements of
`results.rs` that insert a result notice.  Every way in writes a row that waits
for the channel: `pending_channel`, unclaimed, with no attempt made.
-/

namespace PromptDock

open StoreAction.Action TableStatement

/-- `MAX_TTL_MS`. -/
def maxTtlMs : Int := 30 * 24 * 60 * 60 * 1000

/-- `ALLOWED_KINDS`. -/
def allowedKinds : List String :=
  ["run_started", "run_completed", "run_failed", "run_interrupted", "attention_required",
    "test", "generic", "interactive_reply"]

/-- `byte_length_between`. -/
def byteLengthBetween (value : String) (minimum maximum : Nat) : Bool :=
  minimum ≤ value.utf8ByteSize && value.utf8ByteSize ≤ maximum

/-- `char_length_between`. -/
def charLengthBetween (value : String) (minimum maximum : Nat) : Bool :=
  minimum ≤ value.length && value.length ≤ maximum

/-- `validate_notification`. -/
def validateNotification (n : RelayNotificationV1) (acceptedAt : Timestamp) : Bool :=
  n.schemaVersion == 1 &&
  byteLengthBetween n.notificationId 1 128 &&
  byteLengthBetween n.dedupeKey 1 256 &&
  allowedKinds.contains n.kind &&
  0 ≤ n.priority && n.priority ≤ 255 &&
  charLengthBetween n.title 1 128 &&
  charLengthBetween n.body 1 6000 &&
  n.correlationKey.all (byteLengthBetween · 1 128) &&
  0 ≤ n.createdAt && n.createdAt < n.expiresAt && acceptedAt < n.expiresAt &&
  n.expiresAt - acceptedAt ≤ maxTtlMs

/-- `OutboxOrigin`. -/
inductive OutboxOrigin where
  | device (deviceId : Uuid)
  | systemInteractive | admin

/-- `OutboxOrigin::kind`. -/
def OutboxOrigin.kind : OutboxOrigin → OriginKind
  | .device _ => .device
  | .systemInteractive => .system
  | .admin => .admin

/-- `SYSTEM_INTERACTIVE_ORIGIN_KEY`. -/
def systemInteractiveOriginKey : String := "system:interactive"

/-- `OutboxOrigin::key`. -/
def OutboxOrigin.key : OutboxOrigin → String
  | .device deviceId => "device:" ++ deviceId.hyphenated
  | .systemInteractive => systemInteractiveOriginKey
  | .admin => "admin:singleton"

/-- `OutboxOrigin::device_id`. -/
def OutboxOrigin.deviceId : OutboxOrigin → Option Uuid
  | .device deviceId => some deviceId
  | .systemInteractive | .admin => none

/-- `payload_hash_with_target`. -/
def payloadHashWithTarget (blake3 : Blake3) (n : RelayNotificationV1)
    (target : Option String) : String :=
  blake3.deriveKey "promptdock-relay/notification-payload/v1"
    (frame (beBytes n.schemaVersion) ++ frame (utf8 n.kind) ++ frame (utf8 n.title) ++
      frame (utf8 n.body) ++ frame (beBytes n.priority) ++
      (match n.correlationKey with
        | some value => frame [1] ++ frame (utf8 value)
        | none => frame [0]) ++
      frame (beBytes n.createdAt) ++ frame (beBytes n.expiresAt) ++
      (match target with
        | some value => frame (utf8 "target_account_fingerprint") ++ frame (utf8 value)
        | none => []))

/-- The row that `stage_origin_in` inserts. -/
def stagedRow (blake3 : Blake3) (rowId : Uuid) (origin : OutboxOrigin)
    (n : RelayNotificationV1) (target : Option String) (sensitiveBody : Bool)
    (acceptedAt : Timestamp) : OutboxRow where
  id := rowId
  originKind := origin.kind
  originKey := origin.key
  originDeviceId := origin.deviceId
  notificationId := n.notificationId
  dedupeKey := n.dedupeKey
  payloadHash := payloadHashWithTarget blake3 n target
  kind := n.kind
  targetAccountFingerprint := target
  title := n.title
  body := n.body
  bodyKind := .plain
  protectedBodyCiphertext := none
  protectedBodyNonce := none
  resultRowId := none
  correlationKey := n.correlationKey
  priority := n.priority
  status := .pendingChannel
  notBefore := acceptedAt
  expiresAt := n.expiresAt
  attemptCount := 0
  claimToken := none
  claimedAt := none
  nextAttemptAt := none
  lastErrorCode := none
  lastErrorMessage := none
  providerMessageId := none
  providerAcceptedAt := none
  createdAt := acceptedAt
  updatedAt := acceptedAt
  sensitiveBody := sensitiveBody

/-- The rows a notification of this origin collides with. -/
def collides (origin : OutboxOrigin) (n : RelayNotificationV1) (r : OutboxRow) : Bool :=
  r.originKey == origin.key && (r.notificationId == n.notificationId || r.dedupeKey == n.dedupeKey)

/-- `stage_origin_in`: insert the notification, or recognise it as one that was
accepted before. -/
def stageOriginIn (engine : RelayEngine) (blake3 : Blake3) (rowId : Uuid)
    (origin : OutboxOrigin) (n : RelayNotificationV1) (target : Option String)
    (sensitiveBody : Bool) (acceptedAt : Timestamp) : Relay OutboxError AcceptedNotification := do
  if !validateNotification n acceptedAt then
    reject .validation
  else
    let row := stagedRow blake3 rowId origin n target sensitiveBody acceptedAt
    let inserted ← insertUnless engine RelayStore.outboxTable (collides origin n) row
    if inserted == 1 then
      pure ⟨n.notificationId, "accepted", false, acceptedAt⟩
    else
      let s ← read
      match s.notificationOutbox.filter (collides origin n) with
      | [existing] =>
        if existing.notificationId == n.notificationId && existing.dedupeKey == n.dedupeKey &&
            existing.payloadHash == row.payloadHash then
          pure ⟨n.notificationId, "accepted", true, existing.createdAt⟩
        else
          reject .idempotencyConflict
      | _ => reject .idempotencyConflict

/-- `enqueue_device_at`. -/
def OutboxService.enqueueDeviceAt (engine : RelayEngine) (blake3 : Blake3) (rowId deviceId : Uuid)
    (n : RelayNotificationV1) (acceptedAt : Timestamp) :
    Relay OutboxError AcceptedNotification := do
  if n.kind == "interactive_reply" then
    reject .validation
  else
    transaction do
      let accepted ← stageOriginIn engine blake3 rowId (.device deviceId) n none false acceptedAt
      pure (.commit accepted)

/-- `stage_system_reply_in`. -/
def OutboxService.stageSystemReplyIn (engine : RelayEngine) (blake3 : Blake3) (rowId : Uuid)
    (reply : InteractiveReplyV1) (acceptedAt : Timestamp) :
    Relay OutboxError AcceptedNotification := do
  -- `validate_target_account_fingerprint`
  if !isAccountFingerprint reply.targetAccountFingerprint then
    reject .validation
  else
    stageOriginIn engine blake3 rowId .systemInteractive reply.notification
      (some reply.targetAccountFingerprint) reply.sensitiveBody acceptedAt

/-- `enqueue_system_reply_at`. -/
def OutboxService.enqueueSystemReplyAt (engine : RelayEngine) (blake3 : Blake3) (rowId : Uuid)
    (reply : InteractiveReplyV1) (acceptedAt : Timestamp) :
    Relay OutboxError AcceptedNotification :=
  transaction do
    let accepted ← OutboxService.stageSystemReplyIn engine blake3 rowId reply acceptedAt
    pure (.commit accepted)

/-- The notification of `enqueue_admin_test_at`. -/
def adminTestNotification (testId : Uuid) (acceptedAt : Timestamp) : RelayNotificationV1 where
  schemaVersion := 1
  notificationId := "admin-test-" ++ testId.hyphenated
  dedupeKey := "admin-test-" ++ testId.hyphenated
  kind := "test"
  priority := 100
  title := "PromptDock Relay 测试"
  body := "✅ PromptDock Relay 测试通知"
  correlationKey := none
  createdAt := acceptedAt
  expiresAt := saturatingAdd acceptedAt (5 * 60 * 1000)

/-- `enqueue_admin_test_at`. -/
def OutboxService.enqueueAdminTestAt (engine : RelayEngine) (blake3 : Blake3) (rowId testId : Uuid)
    (acceptedAt : Timestamp) : Relay OutboxError AcceptedNotification :=
  transaction do
    let accepted ← stageOriginIn engine blake3 rowId .admin
      (adminTestNotification testId acceptedAt) none false acceptedAt
    pure (.commit accepted)

/-! ## Result notices -/

/-- What a result notice is made of.  The link it carries is encrypted. -/
structure ResultNotice where
  (deviceId resultRowId notificationId : Uuid)
  (dedupeKey payloadHash target title : String)
  (ciphertext nonce : List UInt8)
  expiresAt : Timestamp

/-- The row of a result notice. -/
def ResultNotice.row (notice : ResultNotice) (rowId : Uuid) (now : Timestamp) : OutboxRow where
  id := rowId
  originKind := .device
  originKey := "device:" ++ notice.deviceId.hyphenated
  originDeviceId := some notice.deviceId
  notificationId := notice.notificationId.hyphenated
  dedupeKey := notice.dedupeKey
  payloadHash := notice.payloadHash
  kind := "result_link"
  targetAccountFingerprint := some notice.target
  title := notice.title
  body := protectedResultLinkBody
  bodyKind := .protectedResultLink
  protectedBodyCiphertext := some notice.ciphertext
  protectedBodyNonce := some notice.nonce
  resultRowId := some notice.resultRowId
  correlationKey := some notice.resultRowId.hyphenated
  priority := 80
  status := .pendingChannel
  notBefore := now
  expiresAt := notice.expiresAt
  attemptCount := 0
  claimToken := none
  claimedAt := none
  nextAttemptAt := none
  lastErrorCode := none
  lastErrorMessage := none
  providerMessageId := none
  providerAcceptedAt := none
  createdAt := now
  updatedAt := now
  sensitiveBody := false

/-- The `INSERT` of `publish_once`. -/
def ResultService.insertPublishedNotice (engine : RelayEngine) (rowId : Uuid)
    (notice : ResultNotice)
    (now : Timestamp) : Relay OutboxError Unit :=
  insert engine RelayStore.outboxTable (notice.row rowId now)

/-- The `INSERT OR IGNORE` of `resend`: a row that breaks a check or a unique
index is skipped. -/
def ResultService.insertResendNotice (engine : RelayEngine) (rowId : Uuid) (notice : ResultNotice)
    (now : Timestamp) : Relay OutboxError Nat :=
  let row := notice.row rowId now
  if row.check then
    insertUnless engine RelayStore.outboxTable
      (fun r => r.id == row.id ||
        (r.originKey == row.originKey &&
          (r.notificationId == row.notificationId || r.dedupeKey == row.dedupeKey)))
      row
  else
    pure 0

end PromptDock
