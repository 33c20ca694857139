import PromptDock.InboundRepository

/-!
# Control confirmations

The operations of `InboundCommandService` on `control_confirmations`.  A
confirmation is stored with the prompt that carries its code.  The sink checks
a code against it when the message arrives; the worker consumes it later, when
it executes the resulting command, and binds it to that command; the outcome of
the control request is stored on it.  Expired confirmations are cleaned up
along the way.
-/

namespace PromptDock

open HexText TableStatement StoreAction.Action

/-- `CONTROL_CONFIRMATION_TTL_MS`. -/
def controlConfirmationTtlMs : Int := 2 * 60 * 1000

/-- `ConfirmationVerifier`: the secret key and the hash library. -/
structure ConfirmationVerifier where
  blake3 : Blake3
  key : List UInt8

/-- One part of the digest: a marker, and the framed value if there is one. -/
def digestPart : Option String → List UInt8
  | some value => 1 :: frame (utf8 value)
  | none => [0]

/-- `digest_parts`: binds a code to everything its confirmation is about. -/
def ConfirmationVerifier.digestParts (verifier : ConfirmationVerifier)
    (confirmationId nonce : String)
    (scope : ConfirmationScope) (code : String) : String :=
  verifier.blake3.keyed verifier.key
    (utf8 "promptdock-relay/control-confirmation/v2" ++
      ([some scope.senderFingerprint, some confirmationId, some nonce,
        some scope.deviceId.hyphenated, some scope.actionKind.asStr, scope.runtimeHandle,
        scope.workspaceHandle, scope.harnessProfileHandle, scope.taskPresetHandle,
        scope.runHandle, some scope.intentId].flatMap digestPart) ++
      beBytes scope.expiresAt ++ frame (utf8 code))

/-- `ConfirmationVerifier::matches`, on a stored confirmation. -/
def ConfirmationVerifier.accepts (verifier : ConfirmationVerifier) (row : ConfirmationRow)
    (code : String) : Bool :=
  verifier.digestParts row.confirmationId row.confirmationNonce row.scope code ==
    row.confirmationDigest

/-- The row that a new confirmation is stored as. -/
def PendingConfirmation.row (confirmation : PendingConfirmation) : ConfirmationRow where
  confirmationId := confirmation.confirmationId
  scope := confirmation.scope
  confirmationDigest := confirmation.confirmationDigest
  confirmationNonce := confirmation.confirmationNonce
  maxAttempts := 5
  attemptCount := 0
  lockedAt := none
  consumedAt := none
  dispatchState := .awaitingConfirmation
  dispatchMessageKey := none
  outcomeAccepted := none
  outcomeRunHandle := none
  outcomeStatus := none
  outcomeErrorCode := none

namespace ConfirmationRow

/-- The sender's confirmation that awaits its code. -/
def awaits (sender : String) (r : ConfirmationRow) : Bool :=
  r.scope.senderFingerprint == sender && r.dispatchState = .awaitingConfirmation

/-- The confirmation with this id. -/
def isFor (sender confirmationId : String) (r : ConfirmationRow) : Bool :=
  r.scope.senderFingerprint == sender && r.confirmationId == confirmationId

/-- Past its lifetime, and no control request is under way for it. -/
def expiredAt (now : Timestamp) (r : ConfirmationRow) : Bool :=
  r.scope.expiresAt ≤ now && r.dispatchState ≠ .pending

/-- What cancelling does to a confirmation. -/
def cancel (r : ConfirmationRow) : ConfirmationRow :=
  { r with dispatchState := .cancelled }

/-- What a wrong code does to a confirmation: the last attempt locks it. -/
def failAttempt (now : Timestamp) (r : ConfirmationRow) : ConfirmationRow :=
  { r with
    attemptCount := r.attemptCount + 1
    lockedAt := if r.maxAttempts ≤ r.attemptCount + 1 then some now else none
    dispatchState := if r.maxAttempts ≤ r.attemptCount + 1 then .locked else r.dispatchState }

/-- What consuming does to a confirmation: it is bound to a command. -/
def consume (messageKey : String) (now : Timestamp) (r : ConfirmationRow) : ConfirmationRow :=
  { r with
    consumedAt := some now, dispatchState := .pending, dispatchMessageKey := some messageKey }

/-- What the answer to the control request does to a confirmation. -/
def storeOutcome (outcome : ControlDispatchOutcome) (r : ConfirmationRow) : ConfirmationRow :=
  { r with
    dispatchState := .outcome, outcomeAccepted := some outcome.accepted
    outcomeRunHandle := some outcome.runHandle, outcomeStatus := some outcome.status
    outcomeErrorCode := none }

/-- What the failure of the control request does to a confirmation. -/
def storeFailure (errorCode : String) (r : ConfirmationRow) : ConfirmationRow :=
  { r with
    dispatchState := .failed, outcomeErrorCode := some errorCode
    outcomeAccepted := none, outcomeRunHandle := none, outcomeStatus := none }

/-- `confirmation_record_from_row`. -/
def record (r : ConfirmationRow) : ConfirmationRecord :=
  ⟨r.confirmationId, r.scope⟩

/-- `control_dispatch_record_from_row`. -/
def dispatchRecord (r : ConfirmationRow) : Option ControlDispatchRecord :=
  match r.dispatchState with
  | .pending => some ⟨r.record, none, none⟩
  | .outcome => do
    let accepted ← r.outcomeAccepted
    let runHandle ← r.outcomeRunHandle
    let status ← r.outcomeStatus
    some ⟨r.record, some ⟨accepted, runHandle, status⟩, none⟩
  | .failed => do
    let errorCode ← r.outcomeErrorCode
    some ⟨r.record, none, some errorCode⟩
  | .awaitingConfirmation | .locked | .cancelled => none

end ConfirmationRow

namespace InboundCommandService

/-! ## The code -/

/-- `resolve_confirmation_code`.  What the source returns as an error after it
committed is a value here; a refused statement is `CONFIRMATION_UNAVAILABLE`
to the caller. -/
def resolveConfirmationCode (engine : RelayEngine) (verifier : ConfirmationVerifier)
    (sender code : String) (now : Timestamp) : Relay Empty (Except String String) :=
  transaction do
    let s ← read
    match s.controlConfirmations.find? (ConfirmationRow.awaits sender) with
    | none => pure (.rollback (.error "CONFIRMATION_MISSING"))
    | some row =>
      if row.scope.expiresAt ≤ now then
        let _ ← update engine RelayStore.confirmationTable
          (fun _ r => r.confirmationId == row.confirmationId &&
            r.dispatchState = .awaitingConfirmation)
          ConfirmationRow.cancel
        pure (.commit (.error "CONFIRMATION_EXPIRED"))
      else if row.lockedAt.isSome then
        pure (.rollback (.error "CONFIRMATION_LOCKED"))
      else if verifier.accepts row code then
        pure (.commit (.ok row.confirmationId))
      else
        let changed ← updateOne engine RelayStore.confirmationTable
          (fun _ r => r.confirmationId == row.confirmationId &&
            r.dispatchState = .awaitingConfirmation && r.lockedAt.isNone &&
            r.attemptCount < r.maxAttempts)
          (ConfirmationRow.failAttempt now)
        if changed then pure (.commit (.error "CONFIRMATION_REJECTED"))
        else pure (.rollback (.error "CONFIRMATION_LOCKED"))

/-! ## Storing and withdrawing -/

/-- `delete_expired_confirmations_in`. -/
def deleteExpiredConfirmationsIn (engine : RelayEngine) (now : Timestamp) :
    Relay InboundWorkerError Nat :=
  delete engine RelayStore.confirmationTable (fun _ r => r.expiredAt now) id

/-- `delete_expired_confirmations`. -/
def deleteExpiredConfirmations (engine : RelayEngine) (sender : String) (now : Timestamp) :
    Relay InboundWorkerError Nat :=
  delete engine RelayStore.confirmationTable
    (fun _ r => r.scope.senderFingerprint == sender && r.expiredAt now) id

/-- The guard of `queue_reply_with_confirmation_at`. -/
def confirmationFits (claim : ClaimedInboundCommand) (reply : InteractiveReplyV1)
    (confirmation : PendingConfirmation) : Bool :=
  reply.targetAccountFingerprint == claim.senderFingerprint &&
  reply.expiresAt ≤ claim.expiresAt &&
  confirmation.scope.senderFingerprint == claim.senderFingerprint &&
  confirmation.scope.expiresAt ≤ claim.expiresAt &&
  byteLengthBetween confirmation.confirmationId 1 128 &&
  confirmation.confirmationDigest.utf8ByteSize == 64 &&
  confirmation.confirmationNonce.utf8ByteSize == 32 &&
  (utf8 confirmation.confirmationDigest).all isHex

/-- `queue_reply_with_confirmation_at`: store the confirmation, stage the prompt
that carries its code and end the command, or do none of these.  The sender's
former confirmation is cancelled. -/
def queueReplyWithConfirmationAt (engine : RelayEngine) (blake3 : Blake3) (rowId : Uuid)
    (claim : ClaimedInboundCommand) (reply : InteractiveReplyV1)
    (confirmation : PendingConfirmation) (now : Timestamp) : Relay InboundWorkerError Bool :=
  if !confirmationFits claim reply confirmation then
    reject .outbox
  else
    transaction do
      let _ ← deleteExpiredConfirmationsIn engine now
      let _ ← update engine RelayStore.confirmationTable
        (fun _ r => r.awaits confirmation.scope.senderFingerprint) ConfirmationRow.cancel
      insert engine RelayStore.confirmationTable confirmation.row
      let accepted ← orReject .outbox
        (OutboxService.stageSystemReplyIn engine blake3 rowId reply now)
      let updated ← endWithReply engine claim accepted.notificationId now
      if updated then pure (.commit true) else pure (.rollback false)

/-- The second statement of `cancel_confirmations_at`. -/
def deleteUnconsumedConfirmations (engine : RelayEngine) (sender : String) :
    Relay InboundWorkerError Nat :=
  delete engine RelayStore.confirmationTable
    (fun _ r => r.scope.senderFingerprint == sender && r.consumedAt.isNone) id

/-- `cancel_confirmations_at`: two statements, each of which `atomic` carries
out. -/
def cancelConfirmationsAt.{u} {m : Type → Type u} [Monad m]
    (atomic : ∀ {α : Type}, (RelayEngine → Relay InboundWorkerError α) → m α)
    (sender : String) (now : Timestamp) : m Nat := do
  let _ ← atomic fun engine => deleteExpiredConfirmations engine sender now
  atomic fun engine => deleteUnconsumedConfirmations engine sender

/-! ## The control dispatch -/

/-- `prepare_control_dispatch_at`. -/
def prepareControlDispatchAt (engine : RelayEngine) (claim : ClaimedInboundCommand)
    (confirmationId : String) (now : Timestamp) :
    Relay ConfirmationConsumeError ControlDispatchRecord :=
  transaction do
    let s ← read
    match s.controlConfirmations.find?
        (ConfirmationRow.isFor claim.senderFingerprint confirmationId) with
    | none => reject .missing
    | some row =>
      match row.dispatchMessageKey with
      | some messageKey =>
        if messageKey != claim.messageKey then reject .wrongScope
        else
          let live ←
            (if row.dispatchState = .pending then waitGateway engine claim now else pure true)
          if !live then reject .missing
          else
            match row.dispatchRecord with
            | some record => pure (.commit record)
            | none => reject .missing
      | none =>
        if row.scope.expiresAt ≤ now then reject .expired
        else if row.consumedAt.isSome then reject .replay
        else
          let changed ← updateOne engine RelayStore.confirmationTable
            (fun _ r => r.isFor claim.senderFingerprint confirmationId &&
              r.consumedAt.isNone && r.dispatchMessageKey.isNone && now < r.scope.expiresAt)
            (ConfirmationRow.consume claim.messageKey now)
          if !changed then reject .replay
          else
            let claimChanged ← waitGateway engine claim now
            if !claimChanged then reject .missing
            else pure (.commit ⟨row.record, none, none⟩)

/-- The confirmation is under way for the claim's command, and the claim still
holds that command, unexpired. -/
def dispatchHeld (claim : ClaimedInboundCommand) (confirmationId : String) (now : Timestamp)
    (s : RelayStore) (r : ConfirmationRow) : Bool :=
  r.isFor claim.senderFingerprint confirmationId &&
  r.dispatchMessageKey == some claim.messageKey && r.dispatchState = .pending &&
  s.inboundCommands.any (InboundRow.heldLive claim.messageKey claim.claimToken .waitingGateway now)

/-- Settle a control dispatch that is under way; tells whether it did. -/
def settleDispatch (engine : RelayEngine) (claim : ClaimedInboundCommand)
    (confirmationId : String) (change : ConfirmationRow → ConfirmationRow) (now : Timestamp) :
    Relay InboundWorkerError Bool :=
  transaction do
    let changed ← updateOne engine RelayStore.confirmationTable
      (dispatchHeld claim confirmationId now) change
    if changed then pure (.commit true) else pure (.rollback false)

/-- `persist_control_outcome_at`. -/
def persistControlOutcomeAt (engine : RelayEngine) (claim : ClaimedInboundCommand)
    (confirmationId : String) (outcome : ControlDispatchOutcome) (now : Timestamp) :
    Relay InboundWorkerError Bool :=
  settleDispatch engine claim confirmationId (ConfirmationRow.storeOutcome outcome) now

/-- `fail_control_dispatch_at`. -/
def failControlDispatchAt (engine : RelayEngine) (claim : ClaimedInboundCommand)
    (confirmationId : String) (errorCode : String) (now : Timestamp) :
    Relay InboundWorkerError Bool :=
  settleDispatch engine claim confirmationId (ConfirmationRow.storeFailure errorCode) now

end InboundCommandService

end PromptDock
