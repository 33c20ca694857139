import PromptDock.OutboxIngress

/-!
# Delivering notifications

`outbox/claim.rs` and `outbox/retry.rs`, and the statement of
`ResultService::admin_revoke` that cancels a result's notices.  A worker claims
one ready row under a fresh token, sends it, and settles the claim with what
the channel answered; a row whose worker disappeared is recovered after five
minutes.  The change that each statement makes to a row is a definition of its
own, so that the row's life can be followed apart from the table.
-/

namespace PromptDock

open RowTable StoreAction TableStatement

/-- `STALE_CLAIM_MS`. -/
def staleClaimMs : Int := 5 * 60 * 1000

/-- `NETWORK_RETRY_MS`. -/
def networkRetryMs : List Int := [5000, 30000, 120000, 600000, 1800000]

/-- `RATE_LIMIT_RETRY_MS`. -/
def rateLimitRetryMs : List Int := [30000, 120000, 600000]

namespace OutboxRow

/-- `CASE WHEN sensitive_body = 1 THEN '[REDACTED]' ELSE body END`. -/
def terminalBody (r : OutboxRow) : String :=
  if r.sensitiveBody then redactedBody else r.body

/-- The statuses from which a row may be claimed. -/
def claimable (r : OutboxRow) : Bool :=
  r.status = .pendingChannel || r.status = .retryWait

/-- The statuses of a row that waits, unclaimed, for something to happen. -/
def waiting (r : OutboxRow) : Bool :=
  r.claimable || r.status = .blockedActivation || r.status = .blockedReconnect

/-- The row is due for delivery. -/
def ready (now : Timestamp) (r : OutboxRow) : Bool :=
  ((r.status = .pendingChannel && r.notBefore ≤ now) ||
    (r.status = .retryWait && r.nextAttemptAt.any (· ≤ now))) &&
  now < r.expiresAt

/-- `ORDER BY priority DESC, COALESCE(next_attempt_at, not_before), created_at,
id`. -/
def readyBefore (a b : OutboxRow) : Bool :=
  let due (r : OutboxRow) := r.nextAttemptAt.getD r.notBefore
  b.priority < a.priority || (a.priority == b.priority && (due a < due b ||
    (due a == due b && (a.createdAt < b.createdAt ||
      (a.createdAt == b.createdAt && a.id.toNat < b.id.toNat)))))

/-- The claim that `token` names holds the row. -/
def heldBy (rowId token : Uuid) (r : OutboxRow) : Bool :=
  r.id == rowId && r.status = .sendingChannel && r.claimToken == some token

/-- What claiming does to a row. -/
def claim (token : Uuid) (now : Timestamp) (r : OutboxRow) : OutboxRow :=
  { r with
    status := .sendingChannel, claimToken := some token, claimedAt := some now
    attemptCount := r.attemptCount + 1, updatedAt := now }

/-- What expiry does to a row. -/
def expire (now : Timestamp) (r : OutboxRow) : OutboxRow :=
  { r with
    status := .expired, claimToken := none, claimedAt := none, nextAttemptAt := none
    body := r.terminalBody, updatedAt := now }

/-- What recovery does to a row whose claim went stale. -/
def recover (now : Timestamp) (r : OutboxRow) : OutboxRow :=
  { r with
    status := .retryWait, claimToken := none, claimedAt := none, nextAttemptAt := some now
    lastErrorCode := some "STALE_CLAIM_RECOVERED", lastErrorMessage := none, updatedAt := now }

/-- What giving a claim back does to a row. -/
def release (now : Timestamp) (r : OutboxRow) : OutboxRow :=
  { r with
    status := if r.expiresAt ≤ now then .expired else .retryWait
    nextAttemptAt := if r.expiresAt ≤ now then none else some now
    attemptCount := if 0 < r.attemptCount then r.attemptCount - 1 else 0
    claimToken := none, claimedAt := none
    lastErrorCode := some "SEND_CANCELLED", lastErrorMessage := none
    body := if r.sensitiveBody && r.expiresAt ≤ now then redactedBody else r.body
    updatedAt := now }

/-- What the provider's acceptance does to a row. -/
def accept (providerMessageId : Option String) (now : Timestamp) (r : OutboxRow) : OutboxRow :=
  { r with
    status := .providerAccepted, providerMessageId, providerAcceptedAt := some now,
    claimToken := none, claimedAt := none, nextAttemptAt := none,
    lastErrorCode := none, lastErrorMessage := none, body := r.terminalBody, updatedAt := now }

/-- What a failed attempt does to a row. -/
def fail (status : OutboxStatus) (nextAttemptAt : Option Timestamp) (errorCode : Option String)
    (now : Timestamp) (r : OutboxRow) : OutboxRow :=
  { r with
    status, nextAttemptAt, lastErrorCode := errorCode, lastErrorMessage := none
    claimToken := none, claimedAt := none
    body :=
      if r.sensitiveBody && (status = .expired || status = .deadLetter || status = .cancelled) then
        redactedBody
      else r.body
    updatedAt := now }

/-- What unblocking does to a row. -/
def unblock (now : Timestamp) (r : OutboxRow) : OutboxRow :=
  { r with
    status := .retryWait, nextAttemptAt := some now
    lastErrorCode := none, lastErrorMessage := none, updatedAt := now }

/-- What the revocation of its result does to a row. -/
def revoke (now : Timestamp) (r : OutboxRow) : OutboxRow :=
  { r with
    status := .cancelled, claimedAt := none, nextAttemptAt := none
    updatedAt := max (r.updatedAt + 1) now }

end OutboxRow

/-! ## Claiming -/

/-- `expire_due_at`. -/
def OutboxService.expireDueAt (engine : RelayEngine) (now : Timestamp) : Relay OutboxError Nat :=
  update engine RelayStore.outboxTable (fun _ r => r.expiresAt ≤ now && r.waiting)
    (OutboxRow.expire now)

/-- `claimed_from_row`, with the token the row was claimed under. -/
def claimedFromRow (token : Uuid) (r : OutboxRow) : ClaimedNotification where
  rowId := r.id
  claimToken := token
  originKey := r.originKey
  targetAccountFingerprint := r.targetAccountFingerprint
  notificationId := r.notificationId
  dedupeKey := r.dedupeKey
  kind := r.kind
  title := r.title
  body := r.body
  correlationKey := r.correlationKey
  priority := r.priority
  expiresAt := r.expiresAt
  attemptCount := r.attemptCount

/-- The row that the claiming statement picks. -/
def nextReady (now : Timestamp) (s : RelayStore) (r : OutboxRow) : Bool :=
  (firstBy OutboxRow.readyBefore (OutboxRow.ready now) s.notificationOutbox).any
    (fun first => r.id == first.id) && r.claimable

/-- The claiming statement of `claim_next_at`. -/
def OutboxService.claimReadyAt (engine : RelayEngine) (token : Uuid) (now : Timestamp) :
    Relay OutboxError (Option ClaimedNotification) := do
  let s ← Action.read
  let _ ← update engine RelayStore.outboxTable (nextReady now) (OutboxRow.claim token now)
  pure ((s.notificationOutbox.find? (nextReady now s)).map fun r =>
    claimedFromRow token (r.claim token now))

/-- `claim_next_at`. -/
def OutboxService.claimNextAt (engine : RelayEngine) (token : Uuid) (now : Timestamp) :
    Relay OutboxError (Option ClaimedNotification) := do
  let _ ← OutboxService.expireDueAt engine now
  OutboxService.claimReadyAt engine token now

/-- The first statement of `recover_stale_claims_at`. -/
def OutboxService.expireClaimedAt (engine : RelayEngine) (now : Timestamp) :
    Relay OutboxError Nat :=
  update engine RelayStore.outboxTable
    (fun _ r => r.status = .sendingChannel && r.expiresAt ≤ now) (OutboxRow.expire now)

/-- The second statement of `recover_stale_claims_at`. -/
def OutboxService.requeueStaleAt (engine : RelayEngine) (now : Timestamp) : Relay OutboxError Nat :=
  update engine RelayStore.outboxTable
    (fun _ r => r.status = .sendingChannel && now < r.expiresAt &&
      r.claimedAt.all (· < now - staleClaimMs))
    (OutboxRow.recover now)

/-- `recover_stale_claims_at`. -/
def OutboxService.recoverStaleClaimsAt (engine : RelayEngine) (now : Timestamp) :
    Relay OutboxError Nat := do
  let expired ← OutboxService.expireClaimedAt engine now
  let retryable ← OutboxService.requeueStaleAt engine now
  pure (expired + retryable)

/-! ## Settling a claim -/

/-- Change the row that the claim still holds, if it does; tells whether it
did. -/
def OutboxService.settleClaim (engine : RelayEngine) (claim : ClaimedNotification)
    (change : OutboxRow → OutboxRow) : Relay OutboxError Bool :=
  updateOne engine RelayStore.outboxTable (fun _ r => r.heldBy claim.rowId claim.claimToken) change

/-- `release_claim_at`. -/
def OutboxService.releaseClaimAt (engine : RelayEngine) (claim : ClaimedNotification)
    (now : Timestamp) : Relay OutboxError Bool :=
  OutboxService.settleClaim engine claim (OutboxRow.release now)

/-- `retry_delay`. -/
def retryDelay (schedule : List Int) (attemptCount : Int) : Option Int :=
  let index := saturatingSub attemptCount 1
  if index < 0 then none else schedule[index.toNat]?

/-- `failure_transition`: the status, the time of the next attempt and the
error code. -/
def failureTransition (reason : ChannelFailure) (attemptCount : Int) (now : Timestamp) :
    OutboxStatus × Option Timestamp × Option String :=
  match reason with
  | .retryable retryClass =>
    let retry :=
      match retryClass with
      | .network => retryDelay networkRetryMs attemptCount
      | .rateLimited => retryDelay rateLimitRetryMs attemptCount
      | .contextChanged => if attemptCount ≤ 1 then some 0 else none
      | .contextRejected | .ambiguousMinusTwo => if attemptCount ≤ 1 then some 30000 else none
    match retry with
    | some delay => (.retryWait, some (now + delay), some retryClass.errorCode)
    | none =>
      match retryClass with
      | .contextChanged | .contextRejected | .ambiguousMinusTwo =>
        (.blockedActivation, none, some retryClass.errorCode)
      | .network | .rateLimited => (.deadLetter, none, some retryClass.errorCode)
  | .blockedActivation => (.blockedActivation, none, some "ACTIVATION_REQUIRED")
  | .blockedReconnect => (.blockedReconnect, none, some "RECONNECT_REQUIRED")
  | .blockedTargetChanged => (.deadLetter, none, some "TARGET_ACCOUNT_CHANGED")
  | .permanentFailure => (.deadLetter, none, some "PERMANENT_FAILURE")
  | .cancelled => (.cancelled, none, none)

/-- The transition of `finish_claim_at`: a claim past its expiry, or whose next
attempt would be, expires. -/
def finishTransition (claim : ClaimedNotification) (reason : ChannelFailure) (now : Timestamp) :
    OutboxStatus × Option Timestamp × Option String :=
  if claim.expiresAt ≤ now then (.expired, none, none)
  else
    let transition := failureTransition reason claim.attemptCount now
    if transition.2.1.any (claim.expiresAt ≤ ·) then (.expired, none, none) else transition

/-- What `finish_claim_at` does to the row it settles. -/
def finishChange (claim : ClaimedNotification) (outcome : ChannelOutcome) (now : Timestamp) :
    OutboxRow → OutboxRow :=
  match outcome with
  | .accepted providerMessageId => OutboxRow.accept providerMessageId now
  | .failure reason =>
    let (status, nextAttemptAt, errorCode) := finishTransition claim reason now
    OutboxRow.fail status nextAttemptAt errorCode now

/-- `finish_claim_at`. -/
def OutboxService.finishClaimAt (engine : RelayEngine) (claim : ClaimedNotification)
    (outcome : ChannelOutcome) (now : Timestamp) : Relay OutboxError Bool :=
  OutboxService.settleClaim engine claim (finishChange claim outcome now)

/-- What the channel may be blocked on. -/
inductive ChannelBlock where
  | activation | reconnect

/-- The status of a row blocked on this. -/
def ChannelBlock.status : ChannelBlock → OutboxStatus
  | .activation => .blockedActivation
  | .reconnect => .blockedReconnect

/-- `unblock_at`, on `notification_outbox`. -/
def OutboxService.unblockAt (engine : RelayEngine) (block : ChannelBlock) (now : Timestamp) :
    Relay OutboxError Nat :=
  update engine RelayStore.outboxTable (fun _ r => r.status = block.status && now < r.expiresAt)
    (OutboxRow.unblock now)

/-- The statement of `admin_revoke` on `notification_outbox`. -/
def ResultService.cancelResultNotices (engine : RelayEngine) (resultRowId : Uuid)
    (now : Timestamp) :
    Relay OutboxError Nat :=
  update engine RelayStore.outboxTable
    (fun _ r => r.resultRowId == some resultRowId && r.claimToken.isNone &&
      r.kind == "result_link" && r.waiting)
    (OutboxRow.revoke now)

end PromptDock
