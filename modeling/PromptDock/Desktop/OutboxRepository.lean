import PromptDock.Desktop.DesktopStore

/-!
# The desktop's notification outbox

The statements of `notification/outbox.rs`: how a notice enters the queue, how
it is cancelled, claimed, completed, recovered and retried.  Each definition is
one statement or one transaction; a claim is three of them in a row
(`expireDue`, `claimTx`, and `refuseClaim` where the content cannot be read).
-/

namespace PromptDock.Desktop

open RowTable StoreAction.Action TableStatement DesktopStore

/-! ## Inserting -/

structure NotificationInsert where
  agentRunKey : Option Text
  kind : NotificationEventKind
  dedupeKey : Text
  payload : NotificationPayloadV2
  contentPolicyHash : Option Text
  (createdAt notBefore : Timestamp)
  expiresAt : Option Timestamp

structure RunNotificationInsert where
  agentRunKey : Text
  kind : NotificationEventKind
  dedupeKey : Text
  payload : NotificationPayloadV2
  contentPolicyHash : Text
  (createdAt notBefore : Timestamp)

structure AttentionNotificationInsert where
  agentRunKey : Option Text
  dedupeKey : Text
  payload : NotificationPayloadV2
  contentPolicyHash : Text
  (createdAt observedAt : Timestamp)
  expiresAt : Option Timestamp

/-- `hash.len() == 64 && hash.bytes().all(|byte| byte.is_ascii_hexdigit())`. -/
def isPolicyHash (t : Text) : Bool :=
  byteLength t == 64 && t.all fun c =>
    ('0' ≤ c && c ≤ '9') || ('a' ≤ c && c ≤ 'f') || ('A' ≤ c && c ≤ 'F')

/-- `deterministic_id`. -/
def deterministicId (hashes : Hashes) (domain value : Text) : Text :=
  hashes.blake3 (textBytes domain ++ [0] ++ textBytes value)

/-- The row that an insertion stores. -/
def NotificationInsert.row (hashes : Hashes) (input : NotificationInsert) (payloadJson : Text) :
    OutboxRow where
  id := deterministicId hashes (text "outbox") input.dedupeKey
  agentRunKey := input.agentRunKey
  eventKind := input.kind
  dedupeKey := input.dedupeKey
  clientId := text "promptdock-" ++ deterministicId hashes (text "client") input.dedupeKey
  payloadJson := payloadJson
  contentPolicyHash := input.contentPolicyHash
  listTitle := input.payload.title
  listContentMode := input.payload.contentMode
  listContentBytes := input.payload.contentBytes
  listResultRevision := input.payload.resultRevision
  listBodyAvailable := input.payload.sourceHash.isSome
  contentScrubbedAt := none
  priority := input.kind.priority
  status := .pending
  notBefore := input.notBefore
  expiresAt := input.expiresAt.getD (saturatingAdd input.createdAt input.kind.ttlMs)
  attemptCount := 0
  claimedAt := none
  nextAttemptAt := none
  lastErrorCode := none
  lastErrorMessage := none
  providerMessageId := none
  acceptanceStage := none
  relayNotificationId := none
  relayAcceptedAt := none
  remoteStatus := none
  remoteUpdatedAt := none
  remoteProviderMessageId := none
  createdAt := input.createdAt
  updatedAt := input.createdAt
  deliveredAt := none

/-! ## Delivery results -/

structure TransportAcceptance where
  stage : TransportAcceptanceStage
  (transportMessageId providerMessageId : Option Text)
  acceptedAt : Option Timestamp
deriving DecidableEq

inductive TransportRetryPolicy where
  | networkBackoff
  | rateLimitBackoff
  | limited (attempts delayMs : Int)
deriving DecidableEq

structure TransportRetry where
  policy : TransportRetryPolicy
  (errorCode errorMessage : String)
deriving DecidableEq

structure TransportFailure where
  (errorCode errorMessage : String)
deriving DecidableEq

/-- `DeliveryResult`.  A block has one kind, for missing credentials. -/
inductive DeliveryResult where
  | accepted (acceptance : TransportAcceptance)
  | retryable (retry : TransportRetry)
  | blocked (block : TransportFailure)
  | permanentFailure (failure : TransportFailure)
  | cancelled | policyRevoked | held
deriving DecidableEq

structure OutboxClaim where
  id : Text
  agentRunKey : Option Text
  eventKind : NotificationEventKind
  dedupeKey : Text
  priority : Int
  createdAt : Timestamp
  clientId : Text
  payload : NotificationPayloadV2
  contentPolicyHash : Option Text
  attemptCount : Int
  (claimedAt expiresAt : Timestamp)
  lastErrorCode : Option String
deriving DecidableEq

def staleClaimMs : Int := 300000
def delayedDeliveryGraceMs : Int := 60000
def networkBackoffMs : List Int := [5000, 30000, 120000, 600000, 1800000]
def rateLimitBackoffMs : List Int := [30000, 120000, 600000]

namespace OutboxRepository

variable (engine : DesktopEngine)

/-- `insert_outbox`. -/
def insertOutbox (tools : Tools) (input : NotificationInsert) : Desk Bool := do
  lift (input.payload.validateForKind tools.hashes input.kind)
  let s ← read
  onlyIf (!s.notificationOutbox.any fun r => r.dedupeKey == input.dedupeKey)
    (checkCapacity input.payload.contentBytes)
  if input.kind.policyProtected != input.contentPolicyHash.any isPolicyHash then
    fail "INVALID_NOTIFICATION_POLICY" "通知隐私策略标识无效"
  else do
    let payloadJson ← lift (tools.crypto.protectPayload input.payload)
    recordNotice engine (input.row tools.hashes payloadJson)

/-- `insert_tx`. -/
def insertTx (tools : Tools) (input : RunNotificationInsert) : Desk Bool :=
  insertOutbox engine tools
    { agentRunKey := some input.agentRunKey, kind := input.kind, dedupeKey := input.dedupeKey,
      payload := input.payload, contentPolicyHash := some input.contentPolicyHash,
      createdAt := input.createdAt, notBefore := input.notBefore, expiresAt := none }

/-- `insert_attention_tx`. -/
def insertAttentionTx (tools : Tools) (input : AttentionNotificationInsert) : Desk Bool := do
  let expiresAt :=
    input.expiresAt.getD
      (saturatingAdd input.createdAt NotificationEventKind.attentionRequired.ttlMs)
  if expiresAt ≤ input.createdAt then
    fail "INVALID_NOTIFICATION_EXPIRY" "操作提醒的有效期无效"
  else do
    let inserted ← insertOutbox engine tools
      { agentRunKey := input.agentRunKey, kind := .attentionRequired, dedupeKey := input.dedupeKey,
        payload := input.payload, contentPolicyHash := some input.contentPolicyHash,
        createdAt := input.createdAt, notBefore := input.createdAt, expiresAt := some expiresAt }
    if inserted && expiresAt ≤ input.observedAt then do
      let _ ← update engine outboxTable
        (fun _ r => r.dedupeKey == input.dedupeKey && r.status == .pending)
        fun r =>
          { r with
            status := .expired, lastErrorCode := some "NOTIFICATION_EXPIRED",
            lastErrorMessage := some "Attention request expired before ingestion",
            updatedAt := input.observedAt }
      pure false
    else pure inserted

/-- `enqueue_control`. -/
def enqueueControl (tools : Tools) (kind : NotificationEventKind) (dedupeKey : Text)
    (payload : NotificationPayloadV2) (now : Timestamp) : Desk Bool :=
  if kind ≠ .test then fail "INVALID_NOTIFICATION_KIND" "控制通知类型无效"
  else do
    lift (payload.validateForKind tools.hashes kind)
    allOrNothing
      (insertOutbox engine tools
        { agentRunKey := none, kind := kind, dedupeKey := dedupeKey, payload := payload,
          contentPolicyHash := none, createdAt := now, notBefore := now, expiresAt := none })

/-! ## Cancelling -/

/-- A row that is cancelled for a reason. -/
def cancelledFor (now : Timestamp) (code message : String) (r : OutboxRow) : OutboxRow :=
  { r with
    status := .cancelled, claimedAt := none, nextAttemptAt := none, lastErrorCode := some code,
    lastErrorMessage := some message, updatedAt := now }

/-- The notices of one kind about a run that may still be claimed. -/
def unsentOf (kind : NotificationEventKind) (runKey : Text) (r : OutboxRow) : Bool :=
  r.agentRunKey == some runKey && r.eventKind == kind && r.status.claimable

/-- Cancel the unsent notices of one kind about a run. -/
def cancelPendingTx (kind : NotificationEventKind) (runKey : Text) (now : Timestamp)
    (reasonCode reasonMessage : String) : Desk Nat :=
  update engine outboxTable (fun _ => unsentOf kind runKey)
    (cancelledFor now reasonCode reasonMessage)

/-- `cancel_pending_run_started_tx`. -/
def cancelPendingRunStartedTx (runKey : Text) (now : Timestamp)
    (reasonCode reasonMessage : String) : Desk Nat :=
  cancelPendingTx engine .runStarted runKey now reasonCode reasonMessage

/-- `cancel_pending_run_completed_tx`. -/
def cancelPendingRunCompletedTx (runKey : Text) (now : Timestamp)
    (reasonCode reasonMessage : String) : Desk Nat :=
  cancelPendingTx engine .runCompleted runKey now reasonCode reasonMessage

/-! ## Claiming -/

/-- `expire_due`. -/
def expireDue (now : Timestamp) : Desk Nat :=
  update engine outboxTable
    (fun _ r => r.expiresAt ≤ now && r.status.claimable)
    fun r =>
      { r with
        status := .expired, claimedAt := none, nextAttemptAt := none,
        lastErrorCode := some "NOTIFICATION_EXPIRED",
        lastErrorMessage := some "Notification delivery window expired", updatedAt := now }

/-- The rows a claim may take. -/
def ready (now : Timestamp) (r : OutboxRow) : Bool :=
  (r.status == .pending || r.status == .retryWait) && r.notBefore ≤ now &&
    r.nextAttemptAt.getD r.notBefore ≤ now && now < r.expiresAt

/-- `ORDER BY priority DESC, created_at ASC, id ASC`. -/
def claimsBefore (a b : OutboxRow) : Bool :=
  b.priority < a.priority || (a.priority == b.priority &&
    (a.createdAt < b.createdAt || (a.createdAt == b.createdAt && a.id < b.id)))

/-- A row under a new claim. -/
def claimedAtNow (now : Timestamp) (r : OutboxRow) : OutboxRow :=
  { r with
    status := .sending, claimedAt := some now, attemptCount := r.attemptCount + 1,
    updatedAt := now }

/-- The transaction of a claim: the first ready row, marked as being sent, where
the gate permits. -/
def claimTx (gate : Desk Bool) (now : Timestamp) : Desk (Option OutboxRow) :=
  allOrNothing do
    let permitted ← gate
    if !permitted then pure none
    else do
      let s ← read
      match firstBy claimsBefore (ready now) s.notificationOutbox with
      | none => pure none
      | some chosen => do
        let _ ← update engine outboxTable
          (fun _ r => r.id == chosen.id && ready now r) (claimedAtNow now)
        pure (some (claimedAtNow now chosen))

/-- `RawClaim::into_claim_with_decoder`. -/
def intoClaim (hashes : Hashes) (decode : Text → Except AppError NotificationPayloadV2)
    (now : Timestamp) (raw : OutboxRow) : Except AppError OutboxClaim := do
  if raw.eventKind.policyProtected && !raw.contentPolicyHash.any isPolicyHash then
    .error ⟨"OUTBOX_PAYLOAD_CORRUPT", "通知隐私策略标识损坏"⟩
  else if !raw.eventKind.policyProtected && raw.contentPolicyHash.isSome then
    .error ⟨"OUTBOX_PAYLOAD_CORRUPT", "控制通知包含无效隐私策略标识"⟩
  else do
    let payload ← decode raw.payloadJson
    payload.validateForKind hashes raw.eventKind
    let delayed := raw.eventKind.terminal &&
      (1 < raw.attemptCount || saturatingAdd raw.notBefore delayedDeliveryGraceMs < now)
    pure
      { id := raw.id
        agentRunKey := raw.agentRunKey
        eventKind := raw.eventKind
        dedupeKey := raw.dedupeKey
        priority := raw.priority
        createdAt := raw.createdAt
        clientId := raw.clientId
        payload := if delayed then { payload with delayedDelivery := true } else payload
        contentPolicyHash := raw.contentPolicyHash
        attemptCount := raw.attemptCount
        claimedAt := raw.claimedAt.getD now
        expiresAt := raw.expiresAt
        lastErrorCode := raw.lastErrorCode }

/-! ## Completing -/

/-- `NULLIF(value, '')`. -/
def nullIfEmpty (value : String) : Option String :=
  if value = "" then none else some value

/-- A row taken out of sending. -/
def finishedAs (status : OutboxRowStatus) (now : Timestamp) (nextAttemptAt : Option Timestamp)
    (errorCode errorMessage : String) (r : OutboxRow) : OutboxRow :=
  { r with
    status := status
    claimedAt := none
    nextAttemptAt := nextAttemptAt
    lastErrorCode := nullIfEmpty errorCode
    lastErrorMessage := nullIfEmpty errorMessage
    deliveredAt := if status = .delivered then some now else r.deliveredAt
    updatedAt := now }

/-- The guard of `finish_sending` and `finish_accepted`: the row, while it is
being sent. -/
def sendingRow (id : Text) (r : OutboxRow) : Bool :=
  r.id == id && r.status == .sending

/-- An update that must find its row. -/
def finishWhere (guard : OutboxRow → Bool) (change : OutboxRow → OutboxRow) : Desk Unit := do
  let changed ← update engine outboxTable (fun _ => guard) change
  if changed = 0 then fail "OUTBOX_CLAIM_LOST" "通知发送 Claim 已失效" else pure ()

/-- `finish_sending`. -/
def finishSending (id : Text) (status : OutboxRowStatus) (now : Timestamp)
    (nextAttemptAt : Option Timestamp) (errorCode errorMessage : String) : Desk Unit :=
  finishWhere engine (sendingRow id) (finishedAs status now nextAttemptAt errorCode errorMessage)

/-- A row that a transport accepted. -/
def acceptedAs (acceptance : TransportAcceptance) (completedAt : Timestamp) (r : OutboxRow) :
    OutboxRow :=
  let acceptedAt := acceptance.acceptedAt.getD completedAt
  { r with
    status := .delivered
    claimedAt := none
    nextAttemptAt := none
    lastErrorCode := none
    lastErrorMessage := none
    acceptanceStage := some acceptance.stage
    providerMessageId :=
      match acceptance.stage with
      | .provider => acceptance.providerMessageId
      | .relay => none
    relayNotificationId :=
      match acceptance.stage with
      | .provider => none
      | .relay => acceptance.transportMessageId
    relayAcceptedAt :=
      match acceptance.stage with
      | .provider => none
      | .relay => some acceptedAt
    deliveredAt := some acceptedAt
    updatedAt := completedAt }

/-- `finish_accepted`. -/
def finishAccepted (id : Text) (acceptance : TransportAcceptance) (completedAt : Timestamp) :
    Desk Unit :=
  finishWhere engine (sendingRow id) (acceptedAs acceptance completedAt)

/-- The guard of `release_held_claim`: the row under exactly this claim. -/
def heldUnder (claim : OutboxClaim) (r : OutboxRow) : Bool :=
  r.id == claim.id && r.status == .sending && r.claimedAt == some claim.claimedAt &&
    r.attemptCount == claim.attemptCount && 0 < r.attemptCount

/-- A row whose claim was undone. -/
def releasedRow (now : Timestamp) (r : OutboxRow) : OutboxRow :=
  { r with
    status := if r.expiresAt ≤ now then .expired else .pending
    claimedAt := none
    nextAttemptAt := none
    attemptCount := r.attemptCount - 1
    lastErrorCode := if r.expiresAt ≤ now then some "NOTIFICATION_EXPIRED" else r.lastErrorCode
    updatedAt := now }

/-- `release_held_claim`. -/
def releaseHeldClaim (claim : OutboxClaim) (now : Timestamp) : Desk Unit :=
  finishWhere engine (heldUnder claim) (releasedRow now)

/-- `retry_with_schedule`. -/
def retryWithSchedule (claim : OutboxClaim) (now : Timestamp) (schedule : List Int)
    (code message : String) : Desk Unit :=
  -- a count below one wraps to an index past every schedule
  match if claim.attemptCount < 1 then none else schedule[(claim.attemptCount - 1).toNat]? with
  | some delay =>
    finishSending engine claim.id .retryWait now (some (saturatingAdd now delay)) code message
  | none => finishSending engine claim.id .deadLetter now none code message

/-- `retry_with_limit`. -/
def retryWithLimit (claim : OutboxClaim) (now : Timestamp) (limit delay : Int)
    (code message : String) : Desk Unit :=
  if claim.attemptCount < limit then
    finishSending engine claim.id .retryWait now (some (saturatingAdd now delay)) code message
  else finishSending engine claim.id .deadLetter now none code message

/-- `complete_delivery`. -/
def completeDelivery (claim : OutboxClaim) (result : DeliveryResult) (now : Timestamp) :
    Desk Unit :=
  match result with
  | .accepted acceptance => finishAccepted engine claim.id acceptance now
  | .held => releaseHeldClaim engine claim now
  | result =>
    if claim.expiresAt ≤ now then
      finishSending engine claim.id .expired now none "NOTIFICATION_EXPIRED"
        "Notification delivery window expired"
    else
      match result with
      | .retryable retry =>
        match retry.policy with
        | .networkBackoff =>
          retryWithSchedule engine claim now networkBackoffMs retry.errorCode
            retry.errorMessage
        | .rateLimitBackoff =>
          retryWithSchedule engine claim now rateLimitBackoffMs retry.errorCode
            retry.errorMessage
        | .limited attempts delayMs =>
          retryWithLimit engine claim now attempts delayMs retry.errorCode retry.errorMessage
      | .blocked block =>
        finishSending engine claim.id .blockedReconnect now none block.errorCode
          block.errorMessage
      | .permanentFailure failure =>
        finishSending engine claim.id .deadLetter now none failure.errorCode
          failure.errorMessage
      | .cancelled =>
        finishSending engine claim.id .retryWait now (some now) "WORKER_CANCELLED"
          "Notification worker stopped before completion"
      | .policyRevoked =>
        finishSending engine claim.id .cancelled now none "NOTIFICATION_POLICY_CHANGED"
          "Notification privacy policy changed"
      -- the two results that are finished before the lifetime is looked at
      | .accepted _ | .held => pure ()

/-- What a claim does with a row whose content cannot be read. -/
def refuseClaim (id : Text) (error : AppError) (now : Timestamp) : Desk Unit :=
  if error.code = "PROTECTED_CONTENT_UNAVAILABLE" then
    finishSending engine id .retryWait now (some (saturatingAdd now 5000))
      "PROTECTED_CONTENT_UNAVAILABLE" "Stored notification content is temporarily unavailable"
  else
    finishSending engine id .deadLetter now none "OUTBOX_PAYLOAD_CORRUPT"
      "Stored notification metadata is invalid"

/-! ## Recovery -/

/-- The claims that a recovery takes back. -/
def staleClaim (now : Timestamp) (r : OutboxRow) : Bool :=
  r.status == .sending && r.claimedAt.any (· ≤ saturatingSub now staleClaimMs)

/-- A row whose claim was taken back. -/
def recoveredRow (now : Timestamp) (r : OutboxRow) : OutboxRow :=
  { r with
    status := if r.expiresAt ≤ now then .expired else .retryWait
    claimedAt := none
    nextAttemptAt := if r.expiresAt ≤ now then none else some now
    lastErrorCode := some "STALE_CLAIM_RECOVERED"
    lastErrorMessage := some "Recovered an interrupted delivery claim"
    updatedAt := now }

/-- `recover_stale_claims`. -/
def recoverStaleClaims (now : Timestamp) : Desk Nat :=
  update engine outboxTable (fun _ => staleClaim now) (recoveredRow now)

/-- The rows that a missing prerequisite blocks. -/
def blockedBy (code : String) (r : OutboxRow) : Bool :=
  r.status == .blockedReconnect && r.lastErrorCode == some code

/-- One prerequisite of `retry_blocked_for_relay` that became true. -/
def retryBlockedBy (now : Timestamp) (code : String) : Desk Nat := do
  let _ ← update engine outboxTable
    (fun _ r => r.expiresAt ≤ now && blockedBy code r)
    fun r =>
      { r with
        status := .expired, nextAttemptAt := none, lastErrorCode := some "NOTIFICATION_EXPIRED",
        lastErrorMessage := some "Notification delivery window expired", updatedAt := now }
  update engine outboxTable
    (fun _ r => now < r.expiresAt && blockedBy code r)
    fun r =>
      { r with
        status := .retryWait, claimedAt := none, nextAttemptAt := some now, lastErrorCode := none,
        lastErrorMessage := none, updatedAt := now }

/-- The body of the loop of `retry_blocked_for_relay`. -/
def retryBlockedIf (now : Timestamp) (enabled : Bool) (code : String) : Desk Nat :=
  if enabled then retryBlockedBy engine now code else pure 0

/-- `retry_blocked_for_relay`. -/
def retryBlockedForRelay (now : Timestamp) (credentialsReady resultPagesReady targetReady : Bool) :
    Desk Nat :=
  allOrNothing do
    let credentials ← retryBlockedIf engine now credentialsReady "RELAY_CREDENTIALS_REQUIRED"
    let pages ← retryBlockedIf engine now resultPagesReady "RELAY_RESULT_PAGES_UNAVAILABLE"
    let target ← retryBlockedIf engine now targetReady "RELAY_TARGET_UNAVAILABLE"
    pure (credentials + pages + target)

end OutboxRepository

end PromptDock.Desktop
