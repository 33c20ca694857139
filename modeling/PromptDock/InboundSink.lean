import PromptDock.ConfirmationRepository
import PromptDock.InboundParser

/-!
# The message sinks

`inbound/sink.rs`.  The durable sink turns a text into a command and accepts it
under its message key.  A confirmation code is checked first, in a transaction
of its own, and never stored; only the id of the confirmation it matched is.
The discarding sink keeps a terminal row, so that the message cannot become a
command later.
-/

namespace PromptDock

open StoreAction

/-- `EphemeralInboundText`. -/
structure EphemeralInboundText where
  (messageKey senderFingerprint text : String)
  receivedAt : Timestamp

/-- `payload_hash`. -/
def payloadHash (blake3 : Blake3) (text : String) : String :=
  blake3.deriveKey "promptdock-relay/inbound-message-payload/v1" (frame (utf8 text))

/-- `confirmation_payload_hash`. -/
def confirmationPayloadHash (blake3 : Blake3) (messageKey sender : String) : String :=
  blake3.deriveKey "promptdock-relay/inbound-confirmation-envelope/v1"
    (frame (utf8 messageKey) ++ frame (utf8 sender))

/-- The hash a message is deduplicated by: of its text, or of its envelope when
the text is a confirmation code. -/
def EphemeralInboundText.payloadHash (blake3 : Blake3) (message : EphemeralInboundText) : String :=
  if (parseConfirmationCode message.text).isSome then
    confirmationPayloadHash blake3 message.messageKey message.senderFingerprint
  else
    PromptDock.payloadHash blake3 message.text

/-- The command that a resolved code becomes. -/
def confirmCommand : Except (Failure Empty) (Except String String) → ParsedInboundCommand
  | .ok (.ok confirmationId) => ⟨.confirm confirmationId, none⟩
  | .ok (.error errorCode) => ⟨.unknown, some errorCode⟩
  | .error _ => ⟨.unknown, some "CONFIRMATION_UNAVAILABLE"⟩

/-- The command of a message; resolving a code may change the confirmation. -/
def resolveMessage (engine : RelayEngine) (verifier : ConfirmationVerifier)
    (message : EphemeralInboundText) : Relay InboundMessageError ParsedInboundCommand :=
  match parseConfirmationCode message.text with
  | some code => do
    let resolved ← Action.attempt (InboundCommandService.resolveConfirmationCode engine verifier
      message.senderFingerprint code message.receivedAt)
    pure (confirmCommand resolved)
  | none => pure (parseInboundCommand message.text)

/-- What the durable sink hands to the queue. -/
def durableCommand (blake3 : Blake3) (message : EphemeralInboundText)
    (parsed : ParsedInboundCommand) : DurableInboundCommand where
  messageKey := message.messageKey
  senderFingerprint := message.senderFingerprint
  command := parsed.command
  payloadHash := message.payloadHash blake3
  receivedAt := message.receivedAt
  lastErrorCode := parsed.errorCode

/-- `DurableInboundMessageSink::accept`.  Others may act on the store between
the check of the code and the acceptance. -/
def DurableInboundMessageSink.accept {m : Type → Type} [Monad m]
    (atomic : ∀ {α : Type}, Relay InboundMessageError α → m α) (engine : RelayEngine)
    (verifier : ConfirmationVerifier) (message : EphemeralInboundText)
    (cancellation : CancelPoint) : m InboundAcceptOutcome := do
  if cancellation = .entry then
    atomic (Action.reject .cancelled)
  else
    let parsed ← atomic (resolveMessage engine verifier message)
    atomic (InboundCommandService.accept engine
      (durableCommand verifier.blake3 message parsed) cancellation)

/-- `DiscardingInboundMessageSink::accept`. -/
def DiscardingInboundMessageSink.accept (engine : RelayEngine) (blake3 : Blake3)
    (message : EphemeralInboundText) (cancellation : CancelPoint) :
    Relay InboundMessageError InboundAcceptOutcome := do
  let outcome ← InboundCommandService.discard engine
    { messageKey := message.messageKey, senderFingerprint := message.senderFingerprint
      command := .unknown, payloadHash := message.payloadHash blake3
      receivedAt := message.receivedAt, lastErrorCode := some "NOTIFICATION_ONLY" }
    cancellation
  pure (if outcome = .fresh then .discarded else outcome)

end PromptDock
