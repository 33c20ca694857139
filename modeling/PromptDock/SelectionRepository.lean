import PromptDock.ConfirmationRepository

/-!
# Selections

The operations of `InboundCommandService` on `selection_contexts` and
`selection_entries`.  A sender's context holds the device and the handles
selected so far; its entries are the numbered items of the last page shown.

An operation of several statements is not a transaction.  Such operations take
the way one of them is carried out, `atomic`, as a parameter, since others may
act on the store between two statements.
-/

namespace PromptDock

open HexText RowTable StoreAction.Action TableStatement RelayStore

/-- `SELECTION_TTL_MS`. -/
def selectionTtlMs : Int := 15 * 60 * 1000

/-- `MAX_SELECTION_CONTEXTS`. -/
def maxSelectionContexts : Nat := 512

/-- `MAX_SELECTION_ENTRIES`. -/
def maxSelectionEntries : Nat := 10

/-- `ON DELETE CASCADE` from a context to its entries. -/
def RelayStore.dropOrphanEntries (s : RelayStore) : RelayStore :=
  { s with selectionEntries := s.selectionEntries.filter fun e => s.hasContext e.senderFingerprint }

/-- Slots count from one. -/
def slotsInOrder (entries : List SelectionEntry) : Bool :=
  entries.zipIdx.all fun (entry, index) => entry.slot == index + 1

/-- `ORDER BY expires_at ASC, sender_fingerprint ASC`. -/
def SelectionContextRow.expiresBefore (a b : SelectionContextRow) : Bool :=
  a.expiresAt < b.expiresAt ||
    (a.expiresAt == b.expiresAt && decide (a.senderFingerprint < b.senderFingerprint))

/-- The kinds of catalog listings. -/
inductive CatalogKind where
  | runtimes | workspaces | harnessProfiles | taskPresets
deriving DecidableEq

def CatalogKind.queryKind : CatalogKind → QueryKind
  | .runtimes => .runtimes
  | .workspaces => .workspaces
  | .harnessProfiles => .harnessProfiles
  | .taskPresets => .taskPresets

/-- What the entries of a listing are. -/
def CatalogKind.itemKind : CatalogKind → SelectionItemKind
  | .runtimes => .runtime
  | .workspaces => .workspace
  | .harnessProfiles => .harnessProfile
  | .taskPresets => .taskPreset

namespace InboundCommandService

/-- Replace a sender's entries. -/
def replaceEntries (engine : RelayEngine) (sender : String) (entries : List SelectionEntry) :
    Relay InboundWorkerError Unit := do
  let _ ← delete engine entryTable (fun _ e => e.senderFingerprint == sender) id
  insertAll engine entryTable (entries.map fun entry => ⟨sender, entry⟩)

/-- Make room for a sender without a context: the context that expires first
goes when all are taken. -/
def evictContext (engine : RelayEngine) (sender : String) : Relay InboundWorkerError Unit := do
  let s ← read
  if !s.hasContext sender && maxSelectionContexts ≤ s.selectionContexts.length then
    match firstBy SelectionContextRow.expiresBefore (fun _ => true) s.selectionContexts with
    | none => pure ()
    | some victim =>
      let _ ← delete engine contextTable
        (fun _ c => c.senderFingerprint == victim.senderFingerprint) dropOrphanEntries
      pure ()
  else
    pure ()

/-- The context that `replace_selection_at` writes. -/
def deviceContext (sender : String) (selectedDevice : Option Uuid) (now : Timestamp) :
    SelectionContextRow where
  senderFingerprint := sender
  selectedDevice
  selectedRuntimeHandle := none
  selectedWorkspaceHandle := none
  selectedHarnessProfileHandle := none
  queryKind := some .devices
  nextCursor := none
  expiresAt := saturatingAdd now selectionTtlMs

/-- `replace_selection_at`: a page of devices, or the only device.  Every handle
selected before is dropped. -/
def replaceSelectionAt (engine : RelayEngine) (sender : String) (selectedDevice : Option Uuid)
    (entries : List SelectionEntry) (now : Timestamp) : Relay InboundWorkerError Unit :=
  if maxSelectionEntries < entries.length || !slotsInOrder entries then
    reject .database
  else
    transaction do
      let _ ← delete engine contextTable (fun _ c => c.expiresAt ≤ now)
        dropOrphanEntries
      evictContext engine sender
      upsert engine contextTable (fun c => c.senderFingerprint == sender)
        (deviceContext sender selectedDevice now) (fun _ => deviceContext sender selectedDevice now)
      replaceEntries engine sender entries
      pure (.commit ())

/-- What a catalog page does to the sender's context: the handles that depend
on what is listed are dropped. -/
def listCatalog (kind : CatalogKind) (selectedDevice : Uuid) (now : Timestamp)
    (c : SelectionContextRow) : SelectionContextRow :=
  { c with
    selectedDevice := some selectedDevice, queryKind := some kind.queryKind, nextCursor := none
    selectedRuntimeHandle := if kind = .runtimes then none else c.selectedRuntimeHandle
    selectedWorkspaceHandle :=
      if kind = .runtimes || kind = .workspaces then none else c.selectedWorkspaceHandle
    selectedHarnessProfileHandle :=
      if kind = .runtimes || kind = .workspaces || kind = .harnessProfiles then none
      else c.selectedHarnessProfileHandle
    expiresAt := saturatingAdd now selectionTtlMs }

/-- The context that a catalog page writes when there was none. -/
def catalogContext (sender : String) (kind : CatalogKind) (selectedDevice : Uuid)
    (now : Timestamp) : SelectionContextRow where
  senderFingerprint := sender
  selectedDevice := some selectedDevice
  selectedRuntimeHandle := none
  selectedWorkspaceHandle := none
  selectedHarnessProfileHandle := none
  queryKind := some kind.queryKind
  nextCursor := none
  expiresAt := saturatingAdd now selectionTtlMs

/-- `replace_catalog_selection_at`. -/
def replaceCatalogSelectionAt (engine : RelayEngine) (sender : String) (selectedDevice : Uuid)
    (kind : CatalogKind) (entries : List SelectionEntry) (now : Timestamp) :
    Relay InboundWorkerError Unit :=
  if maxSelectionEntries < entries.length || !slotsInOrder entries ||
      !(entries.all fun entry => entry.deviceId == selectedDevice &&
        entry.itemKind = kind.itemKind && entry.clientOpaqueHandle.isSome) then
    reject .database
  else
    transaction do
      upsert engine contextTable (fun c => c.senderFingerprint == sender)
        (catalogContext sender kind selectedDevice now) (listCatalog kind selectedDevice now)
      replaceEntries engine sender entries
      pure (.commit ())

/-- `valid_job_page_selection`. -/
def validJobPageSelection (selection : PendingJobPageSelection) : Bool :=
  selection.entries.length ≤ maxSelectionEntries && slotsInOrder selection.entries &&
  (selection.entries.all fun entry =>
    entry.deviceId == selection.selectedDevice && entry.itemKind = .run) &&
  selection.nextCursor.all fun cursor =>
    byteLengthBetween cursor 32 128 && (utf8 cursor).all isUrlSafe

/-- The query kind of a page of runs. -/
def runsQueryKind : RunFilter → QueryKind
  | .all => .runsAll
  | .recent => .runsRecent
  | .failed => .runsFailed

/-- What a page of runs does to the sender's context: the selected handles stay. -/
def listRuns (selection : PendingJobPageSelection) (now : Timestamp) (c : SelectionContextRow) :
    SelectionContextRow :=
  { c with
    selectedDevice := some selection.selectedDevice
    queryKind := some (runsQueryKind selection.filter), nextCursor := selection.nextCursor
    expiresAt := saturatingAdd now selectionTtlMs }

/-- The context that a page of runs writes when there was none. -/
def runsContext (sender : String) (selection : PendingJobPageSelection) (now : Timestamp) :
    SelectionContextRow where
  senderFingerprint := sender
  selectedDevice := some selection.selectedDevice
  selectedRuntimeHandle := none
  selectedWorkspaceHandle := none
  selectedHarnessProfileHandle := none
  queryKind := some (runsQueryKind selection.filter)
  nextCursor := selection.nextCursor
  expiresAt := saturatingAdd now selectionTtlMs

/-- `queue_reply_with_job_page_at`: stage the reply, store the page and end the
command, or do none of these. -/
def queueReplyWithJobPageAt (engine : RelayEngine) (blake3 : Blake3) (rowId : Uuid)
    (claim : ClaimedInboundCommand) (reply : InteractiveReplyV1)
    (selection : PendingJobPageSelection) (now : Timestamp) : Relay InboundWorkerError Bool :=
  if reply.targetAccountFingerprint != claim.senderFingerprint ||
      claim.expiresAt < reply.expiresAt || !validJobPageSelection selection then
    reject .outbox
  else
    transaction do
      let accepted ← orReject .outbox
        (OutboxService.stageSystemReplyIn engine blake3 rowId reply now)
      upsert engine contextTable
        (fun c => c.senderFingerprint == claim.senderFingerprint)
        (runsContext claim.senderFingerprint selection now) (listRuns selection now)
      replaceEntries engine claim.senderFingerprint
        (selection.entries.map fun entry => { entry with itemKind := .run })
      let updated ← endWithReply engine claim accepted.notificationId now
      if updated then pure (.commit true) else pure (.rollback false)

/-! ## Looking a selection up -/

/-- `delete_selection`. -/
def deleteSelection (engine : RelayEngine) (sender : String) : Relay InboundWorkerError Unit := do
  let _ ← delete engine contextTable (fun _ c => c.senderFingerprint == sender)
    dropOrphanEntries
  pure ()

section

variable (engine : RelayEngine) (sender : String)

/-- What selecting an item of a catalog page does to the context. -/
def selectItem (kind : SelectionItemKind) (handle : String) (now : Timestamp)
    (c : SelectionContextRow) : SelectionContextRow :=
  { c with
    selectedRuntimeHandle := if kind = .runtime then some handle else c.selectedRuntimeHandle
    selectedWorkspaceHandle := if kind = .workspace then some handle else c.selectedWorkspaceHandle
    selectedHarnessProfileHandle :=
      if kind = .harnessProfile then some handle else c.selectedHarnessProfileHandle
    expiresAt := saturatingAdd now selectionTtlMs }

/-- The statement of `select_catalog_slot_at`. -/
def selectItemStatement (entry : SelectionEntry) (kind : SelectionItemKind) (handle : String)
    (now : Timestamp) : Relay InboundWorkerError Bool :=
  updateOne engine contextTable
    (fun _ c => c.senderFingerprint == sender && c.selectedDevice == some entry.deviceId &&
      now < c.expiresAt)
    (selectItem kind handle now)

/-- The statement of `select_device_slot_at`. -/
def selectDeviceStatement (deviceId : Uuid) (now : Timestamp) : Relay InboundWorkerError Bool :=
  updateOne engine contextTable
    (fun _ c => c.senderFingerprint == sender && now < c.expiresAt)
    (fun c => { c with selectedDevice := some deviceId })

end

end InboundCommandService

end PromptDock
