import PromptDock.RelayValues

/-!
# Inbound commands, confirmations and selections: rows and records

The types of `inbound/model.rs` and `inbound/repository.rs`, and the rows of
`inbound_commands`, `control_confirmations`, `selection_contexts` and
`selection_entries` with their row checks.
-/

namespace PromptDock

open HexText

/-- `RunFilter`. -/
inductive RunFilter where
  | all | recent | failed
deriving DecidableEq

/-- `InboundCommandV5`. -/
inductive InboundCommandV5 where
  | help
  | listDevices
  | selectDevice (slot : Nat)
  | listRuntimes
  | selectRuntime (slot : Nat)
  | listWorkspaces
  | selectWorkspace (slot : Nat)
  | listHarnessProfiles
  | selectHarnessProfile (slot : Nat)
  | listTaskPresets
  | startRun (slot : Nat)
  | confirm (confirmationId : String)
  | cancelConfirmation
  | listRuns (filter : RunFilter)
  | nextPage
  | getRunStatus (slot : Nat)
  | getRunDetail (slot : Nat)
  | getRunTree (slot : Nat)
  | cancelRun (slot : Nat)
  | unknown
deriving DecidableEq

/-- `InboundCommandV5::kind`. -/
def InboundCommandV5.kind : InboundCommandV5 → String
  | .help => "help"
  | .listDevices => "list_devices"
  | .selectDevice _ => "select_device"
  | .listRuntimes => "list_runtimes"
  | .selectRuntime _ => "select_runtime"
  | .listWorkspaces => "list_workspaces"
  | .selectWorkspace _ => "select_workspace"
  | .listHarnessProfiles => "list_harness_profiles"
  | .selectHarnessProfile _ => "select_harness_profile"
  | .listTaskPresets => "list_task_presets"
  | .startRun _ => "start_run"
  | .confirm _ => "confirm"
  | .cancelConfirmation => "cancel_confirmation"
  | .listRuns _ => "list_runs"
  | .nextPage => "next_page"
  | .getRunStatus _ => "get_run_status"
  | .getRunDetail _ => "get_run_detail"
  | .getRunTree _ => "get_run_tree"
  | .cancelRun _ => "cancel_run"
  | .unknown => "unknown"

/-- The values `inbound_commands.command_kind` may take.  Two of them belong to
commands that the program no longer reads. -/
def commandKinds : List String :=
  ["help", "list_devices", "select_device", "list_workspaces", "select_workspace",
    "list_runtimes", "select_runtime", "list_harness_profiles", "select_harness_profile",
    "list_task_presets", "start_run", "confirm", "confirmation_rejected",
    "cancel_confirmation", "list_runs", "next_page", "get_run_status", "get_run_detail",
    "get_run_tree", "get_run_children", "cancel_run", "unknown"]

/-- `inbound_commands.command_json` as the program reads it back: a command of
the closed set, or an object with an action it does not know. -/
inductive StoredCommand where
  | closed (command : InboundCommandV5)
  | unrecognised (action : String)
deriving DecidableEq

/-- `json_extract(command_json, '$.action')`. -/
def StoredCommand.action : StoredCommand → String
  | .closed command => command.kind
  | .unrecognised action => action

/-- `inbound_commands.status`. -/
inductive InboundStatus where
  | received | dispatching | waitingGateway | replyQueued | expired | deadLetter
deriving DecidableEq

/-- The statuses under which a command is held by a claim. -/
def InboundStatus.claimed : InboundStatus → Bool
  | .dispatching | .waitingGateway => true
  | .received | .replyQueued | .expired | .deadLetter => false

/-- The statuses that end a command. -/
def InboundStatus.terminal : InboundStatus → Bool
  | .replyQueued | .expired | .deadLetter => true
  | .received | .dispatching | .waitingGateway => false

/-- One row of `inbound_commands`. -/
structure InboundRow where
  (messageKey senderFingerprint commandKind : String)
  commandJson : StoredCommand
  payloadHash : String
  status : InboundStatus
  claimToken : Option Uuid
  claimedAt : Option Timestamp
  replyNotificationId : Option String
  nextAttemptAt : Option Timestamp
  expiresAt : Timestamp
  attemptCount : Int
  lastErrorCode : Option String
  (createdAt updatedAt : Timestamp)
deriving DecidableEq

/-- The row checks of `inbound_commands`. -/
def InboundRow.check (r : InboundRow) : Bool :=
  1 ≤ r.messageKey.length && r.messageKey.length ≤ 256 &&
  isAccountFingerprint r.senderFingerprint &&
  commandKinds.contains r.commandKind && r.commandJson.action == r.commandKind &&
  isHexDigest r.payloadHash &&
  r.replyNotificationId.all (fun id => 1 ≤ id.length && id.length ≤ 128) &&
  0 ≤ r.attemptCount && r.nextAttemptAt.all (fun t => 0 ≤ t) &&
  r.createdAt < r.expiresAt && r.createdAt ≤ r.updatedAt &&
  (if r.status.claimed then r.claimToken.isSome && r.claimedAt.isSome
    else r.claimToken.isNone && r.claimedAt.isNone) &&
  (if r.status = .replyQueued then r.replyNotificationId.isSome
    else r.replyNotificationId.isNone)

/-- `ClaimedInboundCommand`. -/
structure ClaimedInboundCommand where
  messageKey : String
  claimToken : Uuid
  (senderFingerprint commandKind : String)
  commandJson : StoredCommand
  lastErrorCode : Option String
  expiresAt : Timestamp
deriving DecidableEq

/-- `InboundAcceptOutcome`. -/
inductive InboundAcceptOutcome where
  | fresh | exactReplay | discarded
deriving DecidableEq

/-- `InboundMessageError`. -/
inductive InboundMessageError where
  | cancelled | idempotencyConflict | database

/-- `InboundWorkerError`. -/
inductive InboundWorkerError where
  | database | outbox | deviceDirectory | clock

/-! ## Confirmations -/

/-- `ConfirmationActionKind`. -/
inductive ConfirmationActionKind where
  | startRun | cancelRun
deriving DecidableEq

/-- `ConfirmationActionKind::as_str`. -/
def ConfirmationActionKind.asStr : ConfirmationActionKind → String
  | .startRun => "start_run"
  | .cancelRun => "cancel_run"

/-- `control_confirmations.dispatch_state`. -/
inductive DispatchState where
  | awaitingConfirmation | locked | pending | outcome | failed | cancelled
deriving DecidableEq

/-- What a confirmation is about: whose device does what with which handles,
under which intent, until when.  These columns are written once. -/
structure ConfirmationScope where
  senderFingerprint : String
  deviceId : Uuid
  actionKind : ConfirmationActionKind
  (runtimeHandle workspaceHandle harnessProfileHandle taskPresetHandle runHandle : Option String)
  intentId : String
  expiresAt : Timestamp
deriving DecidableEq

/-- One row of `control_confirmations`. -/
structure ConfirmationRow where
  confirmationId : String
  scope : ConfirmationScope
  (confirmationDigest confirmationNonce : String)
  (maxAttempts attemptCount : Int)
  (lockedAt consumedAt : Option Timestamp)
  dispatchState : DispatchState
  dispatchMessageKey : Option String
  outcomeAccepted : Option Bool
  (outcomeRunHandle outcomeStatus outcomeErrorCode : Option String)
deriving DecidableEq

/-- The values of `outcome_status` for each kind of action. -/
def outcomeStatuses : ConfirmationActionKind → List String
  | .startRun =>
    ["queued", "provisioning", "starting", "running", "waiting_input", "cancelling", "terminal"]
  | .cancelRun =>
    ["none", "requested", "cooperative_signal_sent", "waiting_terminal", "closing_session",
      "terminating_process_tree", "terminal", "failed"]

/-- The handles a confirmation of each kind of action names. -/
def ConfirmationScope.checkHandles (c : ConfirmationScope) : Bool :=
  match c.actionKind with
  | .startRun =>
    c.runtimeHandle.isSome && c.workspaceHandle.isSome && c.harnessProfileHandle.isSome &&
      c.taskPresetHandle.isSome && c.runHandle.isNone
  | .cancelRun =>
    c.runtimeHandle.isNone && c.workspaceHandle.isNone && c.harnessProfileHandle.isNone &&
      c.taskPresetHandle.isNone && c.runHandle.isSome

/-- Which of the progress columns each dispatch state fills. -/
def ConfirmationRow.checkState (r : ConfirmationRow) : Bool :=
  let noOutcome := r.outcomeAccepted.isNone && r.outcomeRunHandle.isNone && r.outcomeStatus.isNone
  let unbound := r.consumedAt.isNone && r.dispatchMessageKey.isNone
  let bound := r.consumedAt.isSome && r.dispatchMessageKey.isSome
  match r.dispatchState with
  | .awaitingConfirmation | .cancelled =>
    r.attemptCount < r.maxAttempts && r.lockedAt.isNone && unbound && noOutcome &&
      r.outcomeErrorCode.isNone
  | .locked =>
    r.attemptCount == r.maxAttempts && r.lockedAt.isSome && unbound && noOutcome &&
      r.outcomeErrorCode.isNone
  | .pending =>
    r.attemptCount < r.maxAttempts && r.lockedAt.isNone && bound && noOutcome &&
      r.outcomeErrorCode.isNone
  | .outcome =>
    r.attemptCount < r.maxAttempts && r.lockedAt.isNone && bound &&
      r.outcomeAccepted.isSome && r.outcomeRunHandle.isSome && r.outcomeStatus.isSome &&
      r.outcomeErrorCode.isNone
  | .failed =>
    r.attemptCount < r.maxAttempts && r.lockedAt.isNone && bound && noOutcome &&
      r.outcomeErrorCode.isSome

/-- The row checks of `control_confirmations`. -/
def ConfirmationRow.check (r : ConfirmationRow) : Bool :=
  allowedText isUrlSafe 1 128 r.confirmationId &&
  isAccountFingerprint r.scope.senderFingerprint &&
  isHexDigest r.confirmationDigest && allowedText isLowerHex 32 32 r.confirmationNonce &&
  r.scope.runtimeHandle.all isStoredHandle && r.scope.workspaceHandle.all isStoredHandle &&
  r.scope.harnessProfileHandle.all isStoredHandle && r.scope.taskPresetHandle.all isStoredHandle &&
  r.scope.runHandle.all isStoredHandle &&
  allowedText isUrlSafe 1 128 r.scope.intentId && 0 ≤ r.scope.expiresAt &&
  1 ≤ r.maxAttempts && r.maxAttempts ≤ 10 &&
  0 ≤ r.attemptCount && r.attemptCount ≤ r.maxAttempts &&
  r.lockedAt.all (fun t => 0 ≤ t) &&
  r.consumedAt.all (fun t => 0 ≤ t && t < r.scope.expiresAt) &&
  r.outcomeRunHandle.all isStoredHandle &&
  r.outcomeStatus.all (outcomeStatuses r.scope.actionKind).contains &&
  r.outcomeErrorCode.all (fun code => 1 ≤ code.length && code.length ≤ 128) &&
  r.scope.checkHandles && r.checkState

/-- `PendingConfirmation`: a confirmation before its row is stored. -/
structure PendingConfirmation where
  confirmationId : String
  scope : ConfirmationScope
  (confirmationDigest confirmationNonce : String)

/-- `ConfirmationRecord`. -/
structure ConfirmationRecord where
  confirmationId : String
  scope : ConfirmationScope
deriving DecidableEq

/-- `ControlDispatchOutcome`. -/
structure ControlDispatchOutcome where
  accepted : Bool
  (runHandle status : String)
deriving DecidableEq

/-- `ControlDispatchRecord`. -/
structure ControlDispatchRecord where
  confirmation : ConfirmationRecord
  outcome : Option ControlDispatchOutcome
  errorCode : Option String
deriving DecidableEq

/-- `ConfirmationConsumeError`. -/
inductive ConfirmationConsumeError where
  | missing | expired | replay | wrongScope

/-! ## Selections -/

/-- `SelectionItemKind`. -/
inductive SelectionItemKind where
  | device | run | runtime | workspace | harnessProfile | taskPreset
deriving DecidableEq

/-- `selection_contexts.query_kind`. -/
inductive QueryKind where
  | devices | runtimes | workspaces | harnessProfiles | taskPresets | runsAll | runsRecent
  | runsFailed
deriving DecidableEq

/-- One row of `selection_contexts`. -/
structure SelectionContextRow where
  senderFingerprint : String
  selectedDevice : Option Uuid
  (selectedRuntimeHandle selectedWorkspaceHandle selectedHarnessProfileHandle : Option String)
  queryKind : Option QueryKind
  nextCursor : Option String
  expiresAt : Timestamp
deriving DecidableEq

/-- The row checks of `selection_contexts`. -/
def SelectionContextRow.check (r : SelectionContextRow) : Bool :=
  isAccountFingerprint r.senderFingerprint &&
  r.selectedRuntimeHandle.all isStoredHandle && r.selectedWorkspaceHandle.all isStoredHandle &&
  r.selectedHarnessProfileHandle.all isStoredHandle &&
  r.nextCursor.all (allowedText isUrlSafe 1 512)

/-- `SelectionEntry`. -/
structure SelectionEntry where
  slot : Nat
  deviceId : Uuid
  clientOpaqueHandle : Option String
  itemKind : SelectionItemKind
deriving DecidableEq

/-- One row of `selection_entries`. -/
structure SelectionEntryRow where
  senderFingerprint : String
  entry : SelectionEntry
deriving DecidableEq

/-- The row checks of `selection_entries`. -/
def SelectionEntryRow.check (r : SelectionEntryRow) : Bool :=
  1 ≤ r.entry.slot && r.entry.slot ≤ 999 &&
  r.entry.clientOpaqueHandle.all isStoredHandle &&
  (if r.entry.itemKind = .device then r.entry.clientOpaqueHandle.isNone
    else r.entry.clientOpaqueHandle.isSome)

/-- `PendingJobPageSelection`. -/
structure PendingJobPageSelection where
  selectedDevice : Uuid
  filter : RunFilter
  nextCursor : Option String
  entries : List SelectionEntry

end PromptDock
