import PromptDock.OutboxIngress

/-!
# The queue of inbound commands

The operations of `InboundCommandService` on `inbound_commands`: accepting a
message once, claiming, giving a claim back in its various ways, and queueing
the reply that ends a command.  The change each statement makes to a row is a
definition of its own.
-/

namespace PromptDock

open RowTable StoreAction.Action TableStatement RelayStore

/-- `INBOUND_COMMAND_TTL_MS`. -/
def inboundCommandTtlMs : Int := 24 * 60 * 60 * 1000

/-- `STALE_COMMAND_CLAIM_MS`. -/
def staleCommandClaimMs : Int := 5 * 60 * 1000

namespace InboundRow

/-- The claim that `token` names holds the command. -/
def heldBy (messageKey : String) (token : Uuid) (r : InboundRow) : Bool :=
  r.messageKey == messageKey && r.status.claimed && r.claimToken == some token

/-- The claim holds the command, in this status, and the command has not
expired. -/
def heldLive (messageKey : String) (token : Uuid) (status : InboundStatus) (now : Timestamp)
    (r : InboundRow) : Bool :=
  r.messageKey == messageKey && r.status = status && r.claimToken == some token &&
    now < r.expiresAt

/-- The command waits to be claimed and is due. -/
def ready (now : Timestamp) (r : InboundRow) : Bool :=
  r.status = .received && now < r.expiresAt && r.nextAttemptAt.all (· ≤ now)

/-- `ORDER BY created_at ASC, message_key ASC`. -/
def readyBefore (a b : InboundRow) : Bool :=
  a.createdAt < b.createdAt || (a.createdAt == b.createdAt && decide (a.messageKey < b.messageKey))

/-- What claiming does to a command. -/
def claim (token : Uuid) (now : Timestamp) (r : InboundRow) : InboundRow :=
  { r with
    status := .dispatching, claimToken := some token, claimedAt := some now
    nextAttemptAt := none, attemptCount := r.attemptCount + 1, updatedAt := now }

/-- What marking it as waiting for the gateway does to a claimed command. -/
def waitGateway (now : Timestamp) (r : InboundRow) : InboundRow :=
  { r with status := .waitingGateway, nextAttemptAt := none, updatedAt := now }

/-- Give the claim up and return the command to the queue. -/
def requeue (nextAttemptAt : Option Timestamp) (lastErrorCode : Option String) (now : Timestamp)
    (r : InboundRow) : InboundRow :=
  { r with
    status := .received, claimToken := none, claimedAt := none
    nextAttemptAt, lastErrorCode, updatedAt := now }

/-- What expiry does to a command. -/
def expire (now : Timestamp) (r : InboundRow) : InboundRow :=
  { r with
    status := .expired, claimToken := none, claimedAt := none, nextAttemptAt := none
    updatedAt := now }

/-- What giving a claim back does to a command. -/
def release (now : Timestamp) (r : InboundRow) : InboundRow :=
  { r with
    status := if r.expiresAt ≤ now then .expired else .received
    claimToken := none, claimedAt := none, nextAttemptAt := none
    attemptCount := if 0 < r.attemptCount then r.attemptCount - 1 else 0
    updatedAt := now }

/-- What giving up on a command does to it. -/
def deadLetter (errorCode : String) (now : Timestamp) (r : InboundRow) : InboundRow :=
  { r with
    status := .deadLetter, claimToken := none, claimedAt := none, nextAttemptAt := none
    lastErrorCode := some errorCode, updatedAt := now }

/-- What queueing its reply does to a command. -/
def queueReply (notificationId : String) (now : Timestamp) (r : InboundRow) : InboundRow :=
  { r with
    status := .replyQueued, replyNotificationId := some notificationId
    claimToken := none, claimedAt := none, nextAttemptAt := none, updatedAt := now }

end InboundRow

/-- `GATEWAY_INTERRUPTED_RESTART`. -/
def gatewayInterruptedRestart : String := "GATEWAY_INTERRUPTED_RESTART"

/-- A control dispatch is bound to the command: `EXISTS` a confirmation whose
`dispatch_state` is `pending`, `outcome` or `failed`. -/
def RelayStore.hasDispatch (s : RelayStore) (messageKey : String) : Bool :=
  s.controlConfirmations.any fun c =>
    c.dispatchMessageKey == some messageKey &&
      (c.dispatchState = .pending || c.dispatchState = .outcome || c.dispatchState = .failed)

/-- `DurableInboundCommand`. -/
structure DurableInboundCommand where
  (messageKey senderFingerprint : String)
  command : InboundCommandV5
  payloadHash : String
  receivedAt : Timestamp
  lastErrorCode : Option String

/-- The row that `accept_with_status` inserts. -/
def DurableInboundCommand.row (durable : DurableInboundCommand) (status : InboundStatus) :
    InboundRow where
  messageKey := durable.messageKey
  senderFingerprint := durable.senderFingerprint
  commandKind := durable.command.kind
  commandJson := .closed durable.command
  payloadHash := durable.payloadHash
  status
  claimToken := none
  claimedAt := none
  replyNotificationId := none
  nextAttemptAt := none
  expiresAt := saturatingAdd durable.receivedAt inboundCommandTtlMs
  attemptCount := 0
  lastErrorCode := durable.lastErrorCode
  createdAt := durable.receivedAt
  updatedAt := durable.receivedAt

/-- When the cancellation of an acceptance is noticed. -/
inductive CancelPoint where
  | never | entry | beforeInsert | beforeCommit
deriving DecidableEq

namespace InboundCommandService

/-- The command under this key is the same message, or another. -/
def recogniseReplay (durable : DurableInboundCommand) :
    Relay InboundMessageError InboundAcceptOutcome := do
  let s ← read
  match s.inboundCommands.find? fun r => r.messageKey == durable.messageKey with
  | none => reject .database
  | some existing =>
    if existing.senderFingerprint == durable.senderFingerprint &&
        existing.payloadHash == durable.payloadHash then
      pure .exactReplay
    else
      reject .idempotencyConflict

/-- `accept_with_status`. -/
def acceptWithStatus (engine : RelayEngine) (durable : DurableInboundCommand)
    (initialStatus : InboundStatus) (cancellation : CancelPoint) :
    Relay InboundMessageError InboundAcceptOutcome :=
  if cancellation = .entry || cancellation = .beforeInsert then
    reject .cancelled
  else
    transaction do
      let inserted ← insertUnless engine inboundTable
        (fun r => r.messageKey == durable.messageKey) (durable.row initialStatus)
      let outcome ← (if inserted == 1 then pure .fresh else recogniseReplay durable)
      if cancellation = .beforeCommit then reject .cancelled
      else pure (.commit outcome)

/-- `accept`. -/
def accept (engine : RelayEngine) (durable : DurableInboundCommand) (cancellation : CancelPoint) :
    Relay InboundMessageError InboundAcceptOutcome :=
  acceptWithStatus engine durable .received cancellation

/-- `discard`. -/
def discard (engine : RelayEngine) (durable : DurableInboundCommand) (cancellation : CancelPoint) :
    Relay InboundMessageError InboundAcceptOutcome :=
  acceptWithStatus engine durable .expired cancellation

/-- `recover_stale_claims_at`. -/
def recoverStaleClaimsAt (engine : RelayEngine) (now : Timestamp) : Relay InboundWorkerError Nat :=
  transaction do
    let expired ← update engine inboundTable
      (fun _ r => !r.status.terminal && r.expiresAt ≤ now) (InboundRow.expire now)
    let interrupted ← update engine inboundTable
      (fun s r => r.status = .waitingGateway && now < r.expiresAt && !s.hasDispatch r.messageKey)
      (InboundRow.requeue none (some gatewayInterruptedRestart) now)
    let controlResumed ← update engine inboundTable
      (fun s r => r.status = .waitingGateway && now < r.expiresAt && s.hasDispatch r.messageKey)
      (fun r => r.requeue none
        (if r.lastErrorCode == some gatewayInterruptedRestart then none else r.lastErrorCode) now)
    let s ← read
    let recovered ← update engine inboundTable
      (fun _ r => r.status = .dispatching && now < r.expiresAt &&
        r.claimedAt.all (· < saturatingSub now staleCommandClaimMs))
      (fun r => r.requeue none
        (if r.lastErrorCode == some gatewayInterruptedRestart && s.hasDispatch r.messageKey
          then none
          else some (r.lastErrorCode.getD "STALE_CLAIM_RECOVERED")) now)
    pure (.commit (expired + interrupted + controlResumed + recovered))

/-- The command that the claiming statement picks. -/
def nextReady (now : Timestamp) (s : RelayStore) (r : InboundRow) : Bool :=
  (firstBy InboundRow.readyBefore (InboundRow.ready now) s.inboundCommands).any
    (fun first => r.messageKey == first.messageKey) && r.status = .received

/-- What the worker holds of a command it claimed. -/
def claimedFromRow (token : Uuid) (r : InboundRow) : ClaimedInboundCommand where
  messageKey := r.messageKey
  claimToken := token
  senderFingerprint := r.senderFingerprint
  commandKind := r.commandKind
  commandJson := r.commandJson
  lastErrorCode := r.lastErrorCode
  expiresAt := r.expiresAt

/-- `claim_next_at`.  A cancelled worker claims nothing. -/
def claimNextAt (engine : RelayEngine) (token : Uuid) (now : Timestamp) (cancelled : Bool) :
    Relay InboundWorkerError (Option ClaimedInboundCommand) :=
  if cancelled then pure none
  else do
    let s ← read
    let _ ← update engine inboundTable (nextReady now) (InboundRow.claim token now)
    pure ((s.inboundCommands.find? (nextReady now s)).map fun r =>
      claimedFromRow token (r.claim token now))

/-- `release_claim_at`. -/
def releaseClaimAt (engine : RelayEngine) (claim : ClaimedInboundCommand) (now : Timestamp) :
    Relay InboundWorkerError Bool :=
  updateOne engine inboundTable (fun _ r => r.heldBy claim.messageKey claim.claimToken)
    (InboundRow.release now)

/-- `dead_letter_at`. -/
def deadLetterAt (engine : RelayEngine) (claim : ClaimedInboundCommand) (errorCode : String)
    (now : Timestamp) : Relay InboundWorkerError Bool :=
  updateOne engine inboundTable (fun _ r => r.heldBy claim.messageKey claim.claimToken)
    (InboundRow.deadLetter errorCode now)

/-- The statement that marks a claimed command as waiting for the gateway. -/
def waitGateway {ε : Type} (engine : RelayEngine) (claim : ClaimedInboundCommand)
    (now : Timestamp) : Relay ε Bool :=
  updateOne engine inboundTable
    (fun _ r => r.heldLive claim.messageKey claim.claimToken .dispatching now)
    (InboundRow.waitGateway now)

/-- `mark_waiting_gateway_at`. -/
def markWaitingGatewayAt (engine : RelayEngine) (claim : ClaimedInboundCommand)
    (now : Timestamp) : Relay InboundWorkerError Bool :=
  waitGateway engine claim now

/-- `interrupt_claim_at`. -/
def interruptClaimAt (engine : RelayEngine) (claim : ClaimedInboundCommand) (now : Timestamp) :
    Relay InboundWorkerError Bool := do
  let s ← read
  updateOne engine inboundTable (fun _ r => r.heldBy claim.messageKey claim.claimToken)
    (fun r => r.requeue none
      (if r.status = .waitingGateway && !s.hasDispatch r.messageKey then
        some gatewayInterruptedRestart
      else r.lastErrorCode) now)

/-- `retry_control_dispatch_at`. -/
def retryControlDispatchAt (engine : RelayEngine) (claim : ClaimedInboundCommand)
    (now : Timestamp) : Relay InboundWorkerError Bool :=
  updateOne engine inboundTable
    (fun _ r => r.heldLive claim.messageKey claim.claimToken .waitingGateway now)
    (InboundRow.requeue (some (saturatingAdd now 1000)) (some "CONTROL_RETRY_PENDING") now)

/-! ## Replies -/

/-- The statement that ends a command with its reply. -/
def endWithReply (engine : RelayEngine) (claim : ClaimedInboundCommand) (notificationId : String)
    (now : Timestamp) : Relay InboundWorkerError Bool :=
  updateOne engine inboundTable
    (fun _ r => r.heldBy claim.messageKey claim.claimToken && now < r.expiresAt)
    (InboundRow.queueReply notificationId now)

/-- `queue_reply_at`: stage the reply and end the command, or do neither. -/
def queueReplyAt (engine : RelayEngine) (blake3 : Blake3) (rowId : Uuid)
    (claim : ClaimedInboundCommand) (reply : InteractiveReplyV1) (now : Timestamp) :
    Relay InboundWorkerError Bool :=
  if reply.targetAccountFingerprint != claim.senderFingerprint ||
      claim.expiresAt < reply.expiresAt then
    reject .outbox
  else
    transaction do
      let accepted ← orReject .outbox
        (OutboxService.stageSystemReplyIn engine blake3 rowId reply now)
      let updated ← endWithReply engine claim accepted.notificationId now
      if updated then pure (.commit true) else pure (.rollback false)

end InboundCommandService

/-- `reply_identity`. -/
def replyIdentity (blake3 : Blake3) (messageKey : String) : String :=
  blake3.deriveKey "promptdock-relay/inbound-reply/v1" (frame (utf8 messageKey))

/-- The notification id of the reply to a message. -/
def replyNotificationId (blake3 : Blake3) (messageKey : String) : String :=
  "interactive:" ++ replyIdentity blake3 messageKey

/-- The reply that the worker's `queue_reply` makes of a rendered answer. -/
def interactiveReply (blake3 : Blake3) (claim : ClaimedInboundCommand) (title body : String)
    (sensitiveBody : Bool) (queuedAt expiresAt : Timestamp) : InteractiveReplyV1 where
  schemaVersion := 1
  notificationId := replyNotificationId blake3 claim.messageKey
  dedupeKey := "inbound:" ++ replyIdentity blake3 claim.messageKey
  priority := 200
  targetAccountFingerprint := claim.senderFingerprint
  title
  body
  sensitiveBody
  correlationKey :=
    some ("inbound:" ++ String.ofList ((replyIdentity blake3 claim.messageKey).toList.take 32))
  createdAt := queuedAt
  expiresAt

end PromptDock
