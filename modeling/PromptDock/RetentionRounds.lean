import PromptDock.SelectionRepository

/-!
# Retention

The statements of `retention.rs` on the tables of the relay store: each drops
at most one batch of rows that are past their retention.  Which results still
have an open page is read from a table outside this store and stands as a
parameter.
-/

namespace PromptDock

open RowTable TableStatement

/-- `RetentionConfig`. -/
structure RetentionConfig where
  (acceptedDays deadLetterDays inboundTerminalDays inboundExpiredDays : Nat)

/-- `RETENTION_BATCH`. -/
def retentionBatch : Nat := 500

/-- `days_to_milliseconds`. -/
def daysToMilliseconds (days : Nat) : Int :=
  days * 24 * 60 * 60 * 1000

/-- `ON DELETE CASCADE` from a command to the confirmation bound to it. -/
def RelayStore.dropOrphanConfirmations (s : RelayStore) : RelayStore :=
  { s with
    controlConfirmations :=
      s.controlConfirmations.filter fun c => c.dispatchMessageKey.all s.hasInbound }

namespace RetentionService

/-- A notification that `delete_outbox_at` may drop. -/
def outboxDue (config : RetentionConfig) (pageOpen : Uuid → Bool) (now : Timestamp)
    (r : OutboxRow) : Bool :=
  r.resultRowId.all (fun id => !pageOpen id) &&
  (((r.status = .providerAccepted || r.status = .cancelled || r.status = .expired) &&
      r.updatedAt < now - daysToMilliseconds config.acceptedDays) ||
    (r.status = .deadLetter && r.updatedAt < now - daysToMilliseconds config.deadLetterDays))

/-- `delete_outbox_at`, on `notification_outbox`. -/
def deleteOutboxAt (engine : RelayEngine) (config : RetentionConfig) (pageOpen : Uuid → Bool)
    (now : Timestamp) : Relay Empty Nat :=
  delete engine RelayStore.outboxTable
    (fun s r =>
      (batchBy (fun a b => a.updatedAt < b.updatedAt ||
          (a.updatedAt == b.updatedAt && decide (a.id.toNat ≤ b.id.toNat)))
        (outboxDue config pageOpen now) retentionBatch s.notificationOutbox).any
      fun due => r.id == due.id)
    id

/-- A command that `delete_inbound_at` may drop. -/
def inboundDue (config : RetentionConfig) (now : Timestamp) (r : InboundRow) : Bool :=
  ((r.status = .replyQueued || r.status = .deadLetter) &&
      r.updatedAt < now - daysToMilliseconds config.inboundTerminalDays) ||
    (r.status = .expired && r.updatedAt < now - daysToMilliseconds config.inboundExpiredDays)

/-- `ORDER BY updated_at, message_key`. -/
def inboundBefore (a b : InboundRow) : Bool :=
  a.updatedAt < b.updatedAt ||
    (a.updatedAt == b.updatedAt && decide (a.messageKey ≤ b.messageKey))

/-- `delete_inbound_at`. -/
def deleteInboundAt (engine : RelayEngine) (config : RetentionConfig) (now : Timestamp) :
    Relay Empty Nat :=
  delete engine RelayStore.inboundTable
    (fun s r =>
      (batchBy inboundBefore (inboundDue config now) retentionBatch s.inboundCommands).any
      fun due => r.messageKey == due.messageKey)
    RelayStore.dropOrphanConfirmations

/-- The first statement of `delete_selections_at`. -/
def deleteExpiredContextsAt (engine : RelayEngine) (now : Timestamp) : Relay Empty Nat :=
  delete engine RelayStore.contextTable
    (fun s c =>
      (batchBy (fun a b => !b.expiresBefore a) (fun c => c.expiresAt ≤ now) retentionBatch
        s.selectionContexts).any
      fun due => c.senderFingerprint == due.senderFingerprint)
    RelayStore.dropOrphanEntries

/-- `ORDER BY expires_at, sender_fingerprint, confirmation_id`. -/
def confirmationBefore (a b : ConfirmationRow) : Bool :=
  a.scope.expiresAt < b.scope.expiresAt ||
    (a.scope.expiresAt == b.scope.expiresAt &&
      (decide (a.scope.senderFingerprint < b.scope.senderFingerprint) ||
        (a.scope.senderFingerprint == b.scope.senderFingerprint &&
          decide (a.confirmationId ≤ b.confirmationId))))

/-- The second statement of `delete_selections_at`. -/
def deleteExpiredConfirmationsAt (engine : RelayEngine) (now : Timestamp) : Relay Empty Nat :=
  delete engine RelayStore.confirmationTable
    (fun s r =>
      (batchBy confirmationBefore (ConfirmationRow.expiredAt now) retentionBatch
        s.controlConfirmations).any
      fun due => r.confirmationId == due.confirmationId)
    id

end RetentionService

end PromptDock
