import PromptDock.OutboxModel
import PromptDock.InboundModel
import PromptDock.TableStatement

/-!
# The relay store

The tables that the inbound worker, the sink and the notification outbox share,
with the schema of `001_init.sql`: the row checks, the primary keys and unique
indexes, and the references between tables.  SQLite keeps the schema on every
statement, so each statement runs under an `Engine` for `RelayStore.check`.
-/

namespace PromptDock

open RowTable StoreAction TableStatement

/-- `DeviceScope`. -/
inductive DeviceScope where
  | notifyWrite | notifyReadOwn | channelRead | channelManage | gatewayConnect | runQuery
  | runControl
deriving DecidableEq

/-- One row of `devices`, with the scopes that `device_scopes` lists for it. -/
structure DeviceRow where
  id : Uuid
  name : String
  enabled : Bool
  createdAt : Timestamp
  revokedAt : Option Timestamp
  scopes : List DeviceScope
deriving DecidableEq

/-- The tables. -/
structure RelayStore where
  devices : List DeviceRow
  notificationOutbox : List OutboxRow
  inboundCommands : List InboundRow
  controlConfirmations : List ConfirmationRow
  selectionContexts : List SelectionContextRow
  selectionEntries : List SelectionEntryRow
deriving DecidableEq

namespace RelayStore

/-- A store with no rows. -/
def empty : RelayStore := ⟨[], [], [], [], [], []⟩

def outboxTable : Table RelayStore OutboxRow where
  rows s := s.notificationOutbox
  put s rows := { s with notificationOutbox := rows }

def inboundTable : Table RelayStore InboundRow where
  rows s := s.inboundCommands
  put s rows := { s with inboundCommands := rows }

def confirmationTable : Table RelayStore ConfirmationRow where
  rows s := s.controlConfirmations
  put s rows := { s with controlConfirmations := rows }

def contextTable : Table RelayStore SelectionContextRow where
  rows s := s.selectionContexts
  put s rows := { s with selectionContexts := rows }

def entryTable : Table RelayStore SelectionEntryRow where
  rows s := s.selectionEntries
  put s rows := { s with selectionEntries := rows }

/-! ## The schema -/

/-- A device of the store. -/
def hasDevice (s : RelayStore) (id : Uuid) : Bool :=
  s.devices.any fun d => d.id == id

/-- A command of the store. -/
def hasInbound (s : RelayStore) (messageKey : String) : Bool :=
  s.inboundCommands.any fun c => c.messageKey == messageKey

/-- A selection context of the store. -/
def hasContext (s : RelayStore) (sender : String) : Bool :=
  s.selectionContexts.any fun c => c.senderFingerprint == sender

/-- Primary key and unique indexes of `notification_outbox`, and its reference
to `devices`. -/
def checkOutbox (s : RelayStore) : Bool :=
  s.notificationOutbox.all OutboxRow.check &&
  distinct (s.notificationOutbox.map OutboxRow.id) &&
  distinct (s.notificationOutbox.map fun r => (r.originKey, r.notificationId)) &&
  distinct (s.notificationOutbox.map fun r => (r.originKey, r.dedupeKey)) &&
  s.notificationOutbox.all fun r => r.originDeviceId.all s.hasDevice

/-- Primary key of `inbound_commands`. -/
def checkInbound (s : RelayStore) : Bool :=
  s.inboundCommands.all InboundRow.check &&
  distinct (s.inboundCommands.map InboundRow.messageKey)

/-- Primary key, unique columns and references of `control_confirmations`.  At
most one confirmation of a sender awaits its code. -/
def checkConfirmations (s : RelayStore) : Bool :=
  s.controlConfirmations.all ConfirmationRow.check &&
  distinct (s.controlConfirmations.map ConfirmationRow.confirmationId) &&
  distinct (s.controlConfirmations.filterMap ConfirmationRow.dispatchMessageKey) &&
  distinct ((s.controlConfirmations.filter fun r =>
    r.dispatchState = .awaitingConfirmation).map fun r => r.scope.senderFingerprint) &&
  s.controlConfirmations.all fun r =>
    s.hasDevice r.scope.deviceId && r.dispatchMessageKey.all s.hasInbound

/-- Primary keys and references of the two selection tables. -/
def checkSelections (s : RelayStore) : Bool :=
  s.selectionContexts.all SelectionContextRow.check &&
  distinct (s.selectionContexts.map SelectionContextRow.senderFingerprint) &&
  (s.selectionContexts.all fun c => c.selectedDevice.all s.hasDevice) &&
  s.selectionEntries.all SelectionEntryRow.check &&
  distinct (s.selectionEntries.map fun e => (e.senderFingerprint, e.entry.slot)) &&
  s.selectionEntries.all fun e => s.hasContext e.senderFingerprint && s.hasDevice e.entry.deviceId

/-- The schema of the store. -/
def check (s : RelayStore) : Bool :=
  distinct (s.devices.map DeviceRow.id) && s.checkOutbox && s.checkInbound &&
    s.checkConfirmations && s.checkSelections

end RelayStore

/-- What carries out the relay's statements. -/
abbrev RelayEngine := Engine RelayStore.check

/-- SQLite without faults of its own. -/
def sqlite : RelayEngine := Engine.faultless RelayStore.check

/-- A program on the relay store. -/
abbrev Relay (ε α : Type) := Action RelayStore ε α

namespace RelayStore

/-- What the schema says about keys and rows, as propositions. -/
structure Valid (s : RelayStore) : Prop where
  outboxIds : KeysUnique OutboxRow.id s.notificationOutbox
  outboxNotifications :
    KeysUnique (fun r : OutboxRow => (r.originKey, r.notificationId)) s.notificationOutbox
  outboxDedupeKeys :
    KeysUnique (fun r : OutboxRow => (r.originKey, r.dedupeKey)) s.notificationOutbox
  outboxRows : ∀ r ∈ s.notificationOutbox, r.check = true
  messageKeys : KeysUnique InboundRow.messageKey s.inboundCommands
  inboundRows : ∀ r ∈ s.inboundCommands, r.check = true
  confirmationIds : KeysUnique ConfirmationRow.confirmationId s.controlConfirmations
  confirmationRows : ∀ r ∈ s.controlConfirmations, r.check = true
  contextSenders : KeysUnique SelectionContextRow.senderFingerprint s.selectionContexts
  entrySlots :
    KeysUnique (fun e : SelectionEntryRow => (e.senderFingerprint, e.entry.slot)) s.selectionEntries
  entryRows : ∀ e ∈ s.selectionEntries, e.check = true

/-- A store that the schema accepts is valid. -/
theorem valid_of_check {s : RelayStore} (h : s.check = true) : s.Valid := by
  simp only [check, checkOutbox, checkInbound, checkConfirmations, checkSelections,
    Bool.and_eq_true, distinct_iff_nodup, List.all_eq_true] at h
  obtain ⟨⟨⟨⟨_, hbox⟩, hinb⟩, hconf⟩, hsel⟩ := h
  exact
    { outboxIds := hbox.1.1.1.2, outboxNotifications := hbox.1.1.2, outboxDedupeKeys := hbox.1.2,
      outboxRows := hbox.1.1.1.1, messageKeys := hinb.2, inboundRows := hinb.1,
      confirmationIds := hconf.1.1.1.2, confirmationRows := hconf.1.1.1.1,
      contextSenders := hsel.1.1.1.1.2, entrySlots := hsel.1.2, entryRows := hsel.1.1.2 }

theorem empty_valid : RelayStore.empty.Valid :=
  valid_of_check (by decide)

end RelayStore

end PromptDock
