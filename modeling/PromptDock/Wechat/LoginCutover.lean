import PromptDock.LockQueues
import PromptDock.Wechat.LoginManager

/-!
# Login workers, cutovers and disconnects

The login service of `login/service.rs` and the coordinator of `login/qr.rs`.  A
login worker fetches a QR code and polls the provider until the login is confirmed;
then it stages the new connection file, and under the cutover mutex checks the
authorization, stops the monitor and promotes the file.  A disconnect tears all of
this down.  Four locks order them: the cutover mutex, the staging gate, the writer
lock of the secret store and the lifecycle fence of the grant registry.  The writer
lock belongs to the staged secret and outlives the function that acquired it.

The devices' rows are those of `auth.rs`; administrators and the command line of
another process change them.  Locks are first come, first served.

A task is in a phase; one step runs it to its next await or critical section.
Guards are values, so the phase says which locks the task has or awaits
(`CutoverWorld.asks`, `CutoverWorld.awaits`), and on entering a phase the task
leaves the lines of the locks it no longer needs (`CutoverWorld.settle`).  What the
outside answers (the provider, the file system, the monitor, the database) is an
input of the step.
-/

namespace PromptDock.Wechat

open LockQueues Function

/-! ## Devices -/

/-- What `auth.rs` reads of a device. -/
structure DeviceAuthRow where
  tokenHash : List UInt8
  enabled : Bool
  revokedAt : Option Timestamp
  credentialVersion : Int
  scopes : List DeviceScope

/-- `DeviceScope::as_str`. -/
def scopeText : DeviceScope → String
  | .notifyWrite => "notify:write"
  | .notifyReadOwn => "notify:read_own"
  | .channelRead => "channel:read"
  | .channelManage => "channel:manage"
  | .gatewayConnect => "gateway:connect"
  | .runQuery => "job:query"
  | .runControl => "job:control"

/-- The libraries that the service calls. -/
structure CutoverTools where
  login : LoginTools
  blake3 : Blake3

/-- `Uuid::as_bytes`. -/
def uuidBytes (id : Uuid) : List UInt8 :=
  (List.range 16).map fun i => UInt8.ofNat (id >>> (8 * (15 - i))).toNat

/-- `gateway_authorization_revision`. -/
def gatewayAuthorizationRevision (blake3 : Blake3) (id : Uuid) (row : DeviceAuthRow) : String :=
  blake3.deriveKey "promptdock-relay/gateway-authorization-revision/v1"
    (uuidBytes id ++ frame row.tokenHash ++ beBytes row.credentialVersion ++
      [if row.enabled then 1 else 0] ++
      (match row.revokedAt with
        | some value => 1 :: beBytes value
        | none => [0]) ++
      beBytes row.scopes.length ++ row.scopes.flatMap fun scope => frame (utf8 (scopeText scope)))

/-- `is_device_enabled`. -/
def DeviceAuthRow.isEnabled (row : DeviceAuthRow) : Bool := row.enabled && row.revokedAt.isNone

/-- `gateway_authorization_lease` finds an active device. -/
def DeviceAuthRow.isActive (row : DeviceAuthRow) : Bool :=
  row.revokedAt.isNone && row.credentialVersion == 2 && row.enabled

/-- The device may manage the channel. -/
def DeviceAuthRow.manages (row : DeviceAuthRow) : Bool :=
  row.isActive && row.scopes.contains .channelManage

/-- The statements that change a device. -/
inductive DeviceChange where
  /-- `rotate_device_preserving_scopes`. -/
  | rotate (tokenHash : List UInt8)
  /-- `rotate_device`. -/
  | rotateScopes (tokenHash : List UInt8) (scopes : List DeviceScope)
  /-- `set_device_enabled`. -/
  | setEnabled (enabled : Bool)
  /-- `revoke_device`. -/
  | revoke (revokedAt : Timestamp)

/-- The row afterwards; nothing, if the method fails. -/
def DeviceAuthRow.change (row : DeviceAuthRow) : DeviceChange → Option DeviceAuthRow
  | .rotate tokenHash =>
    if row.revokedAt.isNone then
      some { row with tokenHash := tokenHash, credentialVersion := 2 }
    else none
  | .rotateScopes tokenHash scopes =>
    if row.enabled && row.revokedAt.isNone && !scopes.isEmpty then
      some { row with tokenHash := tokenHash, credentialVersion := 2, scopes := scopes }
    else none
  | .setEnabled enabled =>
    if row.revokedAt.isNone then some { row with enabled := enabled }
    else if enabled then none
    else some row
  | .revoke revokedAt =>
    some { row with enabled := false, revokedAt := row.revokedAt.or (some revokedAt) }

/-! ## The connection in the process -/

inductive WechatRuntimeStatus where
  | disconnected | connectedAwaitingActivation | credentialsUnreadable | degraded

structure RuntimeConnection where
  bundle : Option ConnectionBundle
  status : WechatRuntimeStatus

namespace RuntimeConnection

/-- `has_active_credentials`. -/
def hasActiveCredentials (r : RuntimeConnection) : Bool := r.bundle.isSome

def activate (bundle : ConnectionBundle) : RuntimeConnection :=
  ⟨some bundle, .connectedAwaitingActivation⟩

def markDegraded (r : RuntimeConnection) : RuntimeConnection := { r with status := .degraded }

/-- `restore_safe_status`. -/
def restoreSafeStatus (r : RuntimeConnection) : RuntimeConnection :=
  { r with
    status := if r.bundle.isSome then .connectedAwaitingActivation else .disconnected }

def disconnect (durableSecretCleared : Bool) : RuntimeConnection :=
  ⟨none, if durableSecretCleared then .disconnected else .credentialsUnreadable⟩

end RuntimeConnection

/-! ## Tasks and their phases -/

inductive CutoverLock where
  | cutover | stagingGate | writeLock | lifecycleFence
deriving DecidableEq

inductive CutoverTask where
  | worker (id : Uuid)
  | disconnect (n : Nat)
  | save (n : Nat)
  | admin (n : Nat)
deriving DecidableEq

/-- The ways in which `cutover` gives up. -/
inductive CutoverExit where
  | notStaged | cancelled | notCurrent | notStopped | notStillCurrent | notPromoted
deriving DecidableEq

def CutoverExit.outcome : CutoverExit → CutoverOutcome
  | .notStaged => .rejected .stage
  | .cancelled => .cancelled
  | .notCurrent | .notStillCurrent => .rejected .validateCurrent
  | .notStopped => .rejected .stopActive
  | .notPromoted => .rejected .promote

/-- The cutover mutex was acquired. -/
def CutoverExit.locked : CutoverExit → Bool
  | .notStaged => false
  | _ => true

/-- The old monitor was stopped and is started again. -/
def CutoverExit.resumes : CutoverExit → Bool
  | .notStopped | .notStillCurrent | .notPromoted => true
  | .notStaged | .cancelled | .notCurrent => false

/-- The reads of `candidate_authorization_is_current`: the generation, the lease
from the database, and the generation once more. -/
inductive AuthorizationRead where
  | first | lease | generation
deriving DecidableEq

/-- Where a worker is in `cutover`, with its candidate. -/
inductive CutoverPhase where
  /-- The login is confirmed and `cutover` is called. -/
  | confirmed
  | awaitingGate
  | awaitingWriter
  /-- The candidate is encrypted, written and synced. -/
  | writing
  | inserting
  /-- There is a staged candidate of this login already; the new one goes. -/
  | duplicate
  | awaitingCutover
  | awaitingFence
  | checkingCancellation
  | authorizing (again : Bool) (read : AuthorizationRead)
  | beginning
  | stopping
  /-- `cutover_is_committing`. -/
  | confirming
  | promoting
  /-- The staged secret is out of the map, and its file is renamed. -/
  | committing (bundle : ConnectionBundle)
  /-- The promoted connection goes to the monitor. -/
  | starting
  | discarding (exit : CutoverExit)
  /-- The staged secret is out of the map, and its file is removed. -/
  | discardingSecret (exit : CutoverExit)
  | resuming (exit : CutoverExit)
  | leaving (outcome : CutoverOutcome)
  /-- `cutover` has returned. -/
  | finishing (outcome : CutoverOutcome)
deriving DecidableEq

/-- Where a cutover that gives up goes after `discard_staged`. -/
def CutoverExit.afterDiscard (exit : CutoverExit) : CutoverPhase :=
  if exit.resumes then .resuming exit
  else if exit.locked then .leaving exit.outcome
  else .finishing exit.outcome

/-- The locks that the worker has, or awaits, by itself; the fence is only for a
candidate with an administrator's authorization. -/
def CutoverPhase.asks (admin : Bool) : CutoverPhase → CutoverLock → Bool
  | .awaitingGate, .stagingGate => true
  | .awaitingWriter, .stagingGate | .awaitingWriter, .writeLock => true
  | .writing, .stagingGate | .writing, .writeLock => true
  | .inserting, .stagingGate | .inserting, .writeLock => true
  | .duplicate, .stagingGate | .duplicate, .writeLock => true
  | .awaitingCutover, .cutover => true
  | .awaitingFence, .cutover | .awaitingFence, .lifecycleFence => true
  | .checkingCancellation, .cutover | .authorizing .., .cutover | .beginning, .cutover
  | .stopping, .cutover | .confirming, .cutover | .promoting, .cutover | .committing _, .cutover
  | .starting, .cutover | .resuming _, .cutover | .leaving _, .cutover => true
  | .checkingCancellation, .lifecycleFence | .authorizing .., .lifecycleFence
  | .beginning, .lifecycleFence | .stopping, .lifecycleFence | .confirming, .lifecycleFence
  | .promoting, .lifecycleFence | .committing _, .lifecycleFence | .starting, .lifecycleFence
  | .resuming _, .lifecycleFence | .leaving _, .lifecycleFence => admin
  | .committing _, .writeLock | .discardingSecret _, .writeLock => true
  | .discarding exit, .cutover | .discardingSecret exit, .cutover => exit.locked
  | .discarding exit, .lifecycleFence | .discardingSecret exit, .lifecycleFence =>
    exit.locked && admin
  | _, _ => false

def CutoverPhase.awaits : CutoverPhase → Option CutoverLock
  | .awaitingGate => some .stagingGate
  | .awaitingWriter => some .writeLock
  | .awaitingCutover => some .cutover
  | .awaitingFence => some .lifecycleFence
  | _ => none

/-- Where a login worker is in `run_login`. -/
inductive WorkerPhase where
  | spawned
  | fetching
  | asking
  | polling (input : PollInput)
  | pausing
  | cutover (candidate : PreparedCandidate) (phase : CutoverPhase)
  | ended
  /-- `fail_unfinished_worker` was called. -/
  | reaped
deriving DecidableEq

def WorkerPhase.asks : WorkerPhase → CutoverLock → Bool
  | .cutover c phase, lock => phase.asks c.adminAuthorization.isSome lock
  | _, _ => false

def WorkerPhase.awaits : WorkerPhase → Option CutoverLock
  | .cutover _ phase => phase.awaits
  | _ => none

/-- Where a disconnect is; `failed` tells that something did not work out. -/
inductive DisconnectPhase where
  | awaitingCutover
  | awaitingGate
  | cancelling
  | draining
  /-- The staged secrets are discarded, the number left. -/
  | discarding (left : Nat) (failed : Bool)
  | stopping (failed : Bool)
  | awaitingWriter (failed : Bool)
  | clearing (failed : Bool)
  | done (failed : Bool)
deriving DecidableEq

def DisconnectPhase.asks : DisconnectPhase → CutoverLock → Bool
  | .done _, _ => false
  | _, .cutover => true
  | .awaitingCutover, .stagingGate => false
  | _, .stagingGate => true
  | .discarding .., .writeLock | .awaitingWriter _, .writeLock | .clearing _, .writeLock => true
  | _, _ => false

def DisconnectPhase.awaits : DisconnectPhase → Option CutoverLock
  | .awaitingCutover => some .cutover
  | .awaitingGate => some .stagingGate
  | .awaitingWriter _ => some .writeLock
  | _ => none

/-- Where a save of the monitor is. -/
inductive SavePhase where
  | awaitingWriter (bundle : ConnectionBundle)
  | writing (bundle : ConnectionBundle)
  | renaming (bundle : ConnectionBundle)

def SavePhase.asks : SavePhase → CutoverLock → Bool
  | _, .writeLock => true
  | _, _ => false

def SavePhase.awaits : SavePhase → Option CutoverLock
  | .awaitingWriter _ => some .writeLock
  | _ => none

/-- What an administrator does under the fence. -/
inductive AdminCommand where
  /-- A rotation, a disabling or a revocation of `command/devices.rs`. -/
  | device (id : Uuid) (change : DeviceChange)
  /-- `mark_not_ready`. -/
  | close

/-- The commands of an administrator that go through the fence. -/
def AdminCommand.isFenced : AdminCommand → Bool
  | .device _ (.rotate _) | .device _ (.setEnabled false) | .device _ (.revoke _) | .close => true
  | .device .. => false

/-- Where an administrator's command is. -/
inductive AdminPhase where
  | awaitingFence (command : AdminCommand)
  | changing (command : AdminCommand)
  | invalidating (command : AdminCommand)
  /-- The logins of the registry of accesses are cancelled. -/
  | cancelling

def AdminPhase.asks : AdminPhase → CutoverLock → Bool
  | _, .lifecycleFence => true
  | _, _ => false

def AdminPhase.awaits : AdminPhase → Option CutoverLock
  | .awaitingFence _ => some .lifecycleFence
  | _ => none

/-- What a step of a worker gets from outside. -/
inductive WorkInput where
  /-- Nothing but the time. -/
  | go (now : Nat)
  /-- `fetch_qr` returns. -/
  | fetched (response : Option GetBotQrCodeResponse) (now : Nat)
  /-- `poll_status` returns. -/
  | polled (response : Option GetQrCodeStatusResponse) (now : Nat) (wallNowMs : Option Timestamp)
  /-- An operation on files, the monitor or the database ends, well or not. -/
  | ended (ok : Bool)
  /-- A wait is given up. -/
  | stop
deriving DecidableEq

/-! ## The world -/

structure CutoverWorld where
  manager : LoginSessions
  devices : Uuid → Option DeviceAuthRow
  core : AuthorizationCore
  runtime : RuntimeConnection
  /-- The connection file. -/
  file : Option ConnectionBundle
  staged : List (Uuid × ConnectionBundle)
  locks : CutoverLock → LockQueue CutoverTask
  workers : Uuid → Option WorkerPhase
  disconnects : Nat → Option DisconnectPhase
  saves : Nat → Option SavePhase
  admins : Nat → Option AdminPhase
  shutdown : Bool
  /-- The row under which a device started its login; nothing reads it. -/
  startedUnder : Uuid → Option DeviceAuthRow
  /-- The identifiers that were drawn for logins: they are not drawn again. -/
  drawn : Uuid → Bool

namespace CutoverWorld

/-- The process as it starts. -/
def boot (devices : Uuid → Option DeviceAuthRow) (runtime : RuntimeConnection) : CutoverWorld where
  manager := .new
  devices := devices
  core := ⟨fun _ => 0, 0, false⟩
  runtime := runtime
  file := runtime.bundle
  staged := []
  locks _ := .free
  workers _ := none
  disconnects _ := none
  saves _ := none
  admins _ := none
  shutdown := false
  startedUnder _ := none
  drawn _ := false

/-- A staged candidate of the login is in the map. -/
def isStaged (w : CutoverWorld) (id : Uuid) : Bool := w.staged.any (·.1 = id)

/-- The task has the lock or stands in line for it. -/
def asks (w : CutoverWorld) : CutoverTask → CutoverLock → Bool
  | .worker id, lock =>
    (w.workers id).any (·.asks lock) || (lock == .writeLock && w.isStaged id)
  | .disconnect n, lock => (w.disconnects n).any (·.asks lock)
  | .save n, lock => (w.saves n).any (·.asks lock)
  | .admin n, lock => (w.admins n).any (·.asks lock)

/-- The lock that the task's next step needs first. -/
def awaits (w : CutoverWorld) : CutoverTask → Option CutoverLock
  | .worker id => (w.workers id).bind (·.awaits)
  | .disconnect n => (w.disconnects n).bind (·.awaits)
  | .save n => (w.saves n).bind (·.awaits)
  | .admin n => (w.admins n).bind (·.awaits)

/-- The task gives back what its phase does not have, and stands in line for what
it awaits. -/
def settle (w : CutoverWorld) (task : CutoverTask) : CutoverWorld :=
  { w with
    locks := fun lock =>
      if w.asks task lock then (w.locks lock).request task else (w.locks lock).leave task }

def setWorker (w : CutoverWorld) (id : Uuid) (phase : WorkerPhase) : CutoverWorld :=
  { w with workers := update w.workers id (some phase) }.settle (.worker id)

def setDisconnect (w : CutoverWorld) (n : Nat) (phase : Option DisconnectPhase) : CutoverWorld :=
  { w with disconnects := update w.disconnects n phase }.settle (.disconnect n)

def setSave (w : CutoverWorld) (n : Nat) (phase : Option SavePhase) : CutoverWorld :=
  { w with saves := update w.saves n phase }.settle (.save n)

def setAdmin (w : CutoverWorld) (n : Nat) (phase : Option AdminPhase) : CutoverWorld :=
  { w with admins := update w.admins n phase }.settle (.admin n)

/-- The task has the lock. -/
def holds (w : CutoverWorld) (task : CutoverTask) (lock : CutoverLock) : Bool :=
  decide ((w.locks lock).Holds task)

/-! ### A worker -/

section

variable (tools : CutoverTools) (limits : LoginLimits)

/-- The phases of a worker outside `cutover`. -/
def runLogin (w : CutoverWorld) (id : Uuid) : WorkerPhase → WorkInput → Option CutoverWorld
  | .spawned, .go now =>
    let result := w.manager.workerCancellation limits id now
    some ({ w with manager := result.2 }.setWorker id
      (match result.1 with
      | .ok () => .fetching
      | .error _ => .ended))
  | .fetching, .fetched (some response) now =>
    let result := w.manager.installQr limits id response now
    some ({ w with manager := result.2 }.setWorker id
      (match result.1 with
      | .ok _ => .asking
      | .error _ => .ended))
  | .asking, .go now =>
    let result := w.manager.pollInput limits id now
    some ({ w with manager := result.2 }.setWorker id
      (match result.1 with
      | .ok input => .polling input
      | .error _ => .ended))
  | .polling _, .polled (some _) _ none => some (w.setWorker id .ended)
  | .polling input, .polled (some response) now (some wallNowMs) =>
    let result := w.manager.applyProviderStatusAt tools.login limits id input.generation
      input.verifyRevision response w.runtime.hasActiveCredentials now wallNowMs
    some ({ w with manager := result.2 }.setWorker id
      (match result.1 with
      | .ok .continuePolling | .ok .ignoreStale => .pausing
      | .ok (.refreshQr _) => .fetching
      | .ok (.terminal _) | .error _ => .ended
      | .ok (.cutover candidate) => .cutover candidate .confirmed))
  | .fetching, .fetched none now | .polling _, .polled none now _ =>
    if w.manager.cancelled id || w.shutdown then some (w.setWorker id .ended)
    else
      some ({ w with manager := (w.manager.failProvider limits id now).2 }.setWorker id .ended)
  | .pausing, .go _ => some (w.setWorker id .asking)
  | .fetching, .stop | .polling _, .stop =>
    if w.shutdown then some (w.setWorker id .ended) else none
  | .pausing, .stop =>
    if w.shutdown || w.manager.cancelled id then some (w.setWorker id .ended) else none
  | _, _ => none

/-- `persisted_bundle_is_production_safe`. -/
def bundleIsProductionSafe (bundle : ConnectionBundle) : Bool :=
  (tools.login.parseProduction bundle.credentials.baseUrl).isSome

def setCutover (w : CutoverWorld) (id : Uuid) (c : PreparedCandidate) (phase : CutoverPhase) :
    CutoverWorld :=
  w.setWorker id (.cutover c phase)

/-- The authorization was found current. -/
def authorized (again : Bool) : CutoverPhase := if again then .confirming else .beginning

/-- The authorization was found stale. -/
def unauthorized (again : Bool) : CutoverPhase :=
  .discarding (if again then .notStillCurrent else .notCurrent)

/-- `candidate_authorization_is_current`, one read at a time; a read of the database
may fail. -/
def authorize (w : CutoverWorld) (c : PreparedCandidate) (again ok : Bool) :
    AuthorizationRead → CutoverPhase
  | .first =>
    if c.operatorAuthorized then authorized again
    else
      match c.adminAuthorization with
      | none =>
        if ok && (w.devices c.ownerDeviceId).any (·.isEnabled) then authorized again
        else unauthorized again
      | some a =>
        if a.ownerDeviceId == c.ownerDeviceId && w.core.authorizationMatches a then
          .authorizing again .lease
        else unauthorized again
  | .lease =>
    if ok && (w.devices c.ownerDeviceId).any fun row =>
        row.isActive &&
          c.adminAuthorization.any (fun a =>
            gatewayAuthorizationRevision tools.blake3 c.ownerDeviceId row ==
              a.authorizationRevision) &&
          row.scopes.contains .channelRead && row.scopes.contains .channelManage then
      .authorizing again .generation
    else unauthorized again
  | .generation =>
    if c.adminAuthorization.any w.core.authorizationMatches then authorized again
    else unauthorized again

/-- The phases of `cutover`. -/
def cutover (w : CutoverWorld) (id : Uuid) (c : PreparedCandidate) :
    CutoverPhase → WorkInput → Option CutoverWorld
  | .confirmed, .go _ => some (w.setCutover id c .awaitingGate)
  | .awaitingGate, .go _ =>
    if w.holds (.worker id) .stagingGate then
      some (w.setCutover id c
        (if bundleIsProductionSafe tools c.bundle then .awaitingWriter
        else .discarding .notStaged))
    else none
  | .awaitingWriter, .go _ =>
    if w.holds (.worker id) .writeLock then some (w.setCutover id c .writing) else none
  | .writing, .ended ok =>
    some (w.setCutover id c (if ok then .inserting else .discarding .notStaged))
  | .inserting, .go _ =>
    if w.isStaged id then some (w.setCutover id c .duplicate)
    else
      some ({ w with staged := (id, c.bundle) :: w.staged }.setCutover id c .awaitingCutover)
  | .duplicate, .ended _ => some (w.setCutover id c (.discarding .notStaged))
  | .awaitingCutover, .go _ =>
    if w.holds (.worker id) .cutover then
      some (w.setCutover id c
        (if c.adminAuthorization.isSome then .awaitingFence else .checkingCancellation))
    else none
  | .awaitingFence, .go _ =>
    if w.holds (.worker id) .lifecycleFence then some (w.setCutover id c .checkingCancellation)
    else none
  | .checkingCancellation, .go _ =>
    some (w.setCutover id c
      (if w.manager.cancelled id then .discarding .cancelled else .authorizing false .first))
  | .authorizing again read, .ended ok =>
    some (w.setCutover id c (w.authorize tools c again ok read))
  | .beginning, .go now =>
    let result := w.manager.beginCutover limits c.loginId c.ownerDeviceId now
    some ({ w with manager := result.2 }.setCutover id c
      (if result.1 then .stopping else .discarding .notCurrent))
  | .stopping, .ended ok =>
    some (w.setCutover id c (if ok then .authorizing true .first else .discarding .notStopped))
  | .confirming, .go _ =>
    some (w.setCutover id c
      (if w.manager.cutoverIsCommitting c.loginId c.ownerDeviceId then .promoting
      else .discarding .notStillCurrent))
  | .promoting, .go _ =>
    match w.staged.find? (·.1 = id) with
    | none => some (w.setCutover id c (.discarding .notPromoted))
    | some entry =>
      some ({ w with staged := w.staged.filter (·.1 ≠ id) }.setCutover id c
        (.committing entry.2))
  | .committing bundle, .ended ok =>
    if ok then
      some ({ w with file := some bundle, runtime := .activate bundle }.setCutover id c .starting)
    else some (w.setCutover id c (.discarding .notPromoted))
  | .starting, .ended ok =>
    if ok then some (w.setCutover id c (.leaving .activated))
    else
      some ({ w with runtime := w.runtime.markDegraded }.setCutover id c
        (.leaving .activatedDegraded))
  | .discarding exit, .go _ =>
    if w.isStaged id then
      some ({ w with staged := w.staged.filter (·.1 ≠ id) }.setCutover id c
        (.discardingSecret exit))
    else some (w.setCutover id c exit.afterDiscard)
  | .discardingSecret exit, .ended _ => some (w.setCutover id c exit.afterDiscard)
  | .resuming exit, .ended _ =>
    some ({ w with runtime := w.runtime.restoreSafeStatus }.setCutover id c
      (.leaving exit.outcome))
  | .leaving outcome, .go _ => some (w.setCutover id c (.finishing outcome))
  | .finishing outcome, .go now =>
    some ({ w with manager := (w.manager.finishCutover id outcome now).2 }.setWorker id .ended)
  | _, _ => none

/-- A step of a login worker. -/
def work (w : CutoverWorld) (id : Uuid) (input : WorkInput) : Option CutoverWorld :=
  match w.workers id with
  | none => none
  | some (.cutover c phase) => w.cutover tools limits id c phase input
  | some phase => w.runLogin tools limits id phase input

/-- The task that waits for a worker calls `fail_unfinished_worker`, unless the
process is shutting down. -/
def reap (w : CutoverWorld) (id : Uuid) (now : Nat) : Option CutoverWorld :=
  if w.workers id = some .ended ∧ !w.shutdown then
    some ({ w with manager := (w.manager.failProvider limits id now).2 }.setWorker id .reaped)
  else none

/-! ### Starts, disconnects, saves and administrators -/

/-- `admin_operator_owner_id`. -/
def adminOperatorOwnerId : Uuid := 0x7f4c6bc444914d489c496c860f275001

/-- A start of any kind: the worker is spawned if a QR session was created. -/
def startLogin (w : CutoverWorld) (starter : LoginStarter) (forceFresh : Bool) (id : Uuid)
    (now : Nat) (wallNowMs : Option Timestamp) : Option CutoverWorld :=
  if (w.manager.sessions id).isNone && (w.workers id).isNone && !w.drawn id then
    ((LoginOp.start starter forceFresh w.runtime.hasActiveCredentials id wallNowMs).call tools.login
      limits now w.manager).map fun result =>
        let w := { w with manager := result.2, drawn := update w.drawn id true }
        match result.1 with
        | .started (.ok outcome) =>
          if outcome.created && outcome.snapshot.state == .fetchingQr then
            w.setWorker id .spawned
          else w
        | _ => w
  else none

/-- A device that may manage the channel starts a login. -/
def startDevice (w : CutoverWorld) (device : Uuid) (forceFresh : Bool) (id : Uuid) (now : Nat)
    (wallNowMs : Option Timestamp) : Option CutoverWorld :=
  if (w.devices device).any (·.manages) then
    (w.startLogin tools limits (.device device) forceFresh id now wallNowMs).map fun w' =>
      { w' with startedUnder := update w'.startedUnder id (w.devices device) }
  else none

/-- The disconnect drains the map of staged candidates; the writer lock goes with the
secrets. -/
def drainStaged (w : CutoverWorld) (n : Nat) : CutoverWorld :=
  { w with
    staged := []
    locks := update w.locks .writeLock
      (w.staged.foldl (fun line entry => line.pass (.worker entry.1) (.disconnect n))
        (w.locks .writeLock)) }

/-- A step of a disconnect. -/
def disconnectStep (w : CutoverWorld) (n : Nat) (now : Nat) (ok : Bool) :
    DisconnectPhase → Option CutoverWorld
  | .awaitingCutover =>
    if w.holds (.disconnect n) .cutover then some (w.setDisconnect n (some .awaitingGate))
    else none
  | .awaitingGate =>
    if w.holds (.disconnect n) .stagingGate then some (w.setDisconnect n (some .cancelling))
    else none
  | .cancelling =>
    (w.manager.cancelCandidateForDisconnect limits now).map fun result =>
      { w with manager := result.2 }.setDisconnect n (some .draining)
  | .draining =>
    some ((w.drainStaged n).setDisconnect n
      (some (if w.staged.isEmpty then .stopping false
        else .discarding w.staged.length false)))
  | .discarding left failed =>
    some (w.setDisconnect n
      (some (if left ≤ 1 then .stopping (failed || !ok)
        else .discarding (left - 1) (failed || !ok))))
  | .stopping failed => some (w.setDisconnect n (some (.awaitingWriter (failed || !ok))))
  | .awaitingWriter failed =>
    if w.holds (.disconnect n) .writeLock then some (w.setDisconnect n (some (.clearing failed)))
    else none
  | .clearing failed =>
    some ({ w with
      file := if ok then none else w.file
      runtime := .disconnect ok }.setDisconnect n (some (.done (failed || !ok))))
  | .done _ => none

/-- A step of a save. -/
def saveStep (w : CutoverWorld) (n : Nat) (ok : Bool) : SavePhase → Option CutoverWorld
  | .awaitingWriter bundle =>
    if w.holds (.save n) .writeLock then some (w.setSave n (some (.writing bundle))) else none
  | .writing bundle => some (w.setSave n (if ok then some (.renaming bundle) else none))
  | .renaming bundle => some ({ w with file := if ok then some bundle else w.file }.setSave n none)

/-- The row of the device, changed if the method succeeds. -/
def changeDevice (w : CutoverWorld) (device : Uuid) (change : DeviceChange) : Option CutoverWorld :=
  ((w.devices device).bind (·.change change)).map fun row =>
    { w with devices := update w.devices device (some row) }

/-- A step of an administrator's command; a failing statement ends it. -/
def adminStep (w : CutoverWorld) (n : Nat) (cancels : Option (Uuid × Uuid)) (now : Nat) :
    AdminPhase → Option CutoverWorld
  | .awaitingFence command =>
    if w.holds (.admin n) .lifecycleFence then some (w.setAdmin n (some (.changing command)))
    else none
  | .changing (.device device change) =>
    match w.changeDevice device change with
    | none => some (w.setAdmin n none)
    | some w => some (w.setAdmin n (some (.invalidating (.device device change))))
  | .changing .close => some (w.setAdmin n (some (.invalidating .close)))
  | .invalidating (.device device _) =>
    some ({ w with core := w.core.bumpGeneration device }.setAdmin n (some .cancelling))
  | .invalidating .close =>
    some ({ w with
      core := { w.core with closed := true, processEpoch := w.core.processEpoch + 1 } }.setAdmin
        n (some .cancelling))
  | .cancelling =>
    match cancels with
    | some (owner, id) =>
      some ({ w with manager := (w.manager.cancel limits owner id now).2 }.setAdmin n
        (some .cancelling))
    | none => some (w.setAdmin n none)

end

end CutoverWorld

/-- What happens next. -/
inductive CutoverOp where
  | startDevice (device : Uuid) (forceFresh : Bool) (id : Uuid) (now : Nat)
      (wallNowMs : Option Timestamp)
  | startAdmin (owner : Uuid) (authorization : AdminLoginAuthorization) (forceFresh : Bool)
      (id : Uuid) (now : Nat) (wallNowMs : Option Timestamp)
  | startOperator (forceFresh : Bool) (id : Uuid) (now : Nat) (wallNowMs : Option Timestamp)
  | snapshot (owner id : Uuid) (now : Nat)
  | verify (owner id : Uuid) (code : String) (now : Nat)
  | cancel (owner id : Uuid) (now : Nat)
  | work (id : Uuid) (input : WorkInput)
  | reap (id : Uuid) (now : Nat)
  | disconnect (n : Nat)
  | disconnectStep (n : Nat) (now : Nat) (ok : Bool)
  /-- The request of a disconnect goes away, and its future with it. -/
  | abandon (n : Nat)
  | save (n : Nat) (bundle : ConnectionBundle)
  | saveStep (n : Nat) (ok : Bool)
  /-- The monitor is stopped during a save. -/
  | cancelSave (n : Nat)
  | admin (n : Nat) (command : AdminCommand)
  | adminStep (n : Nat) (cancels : Option (Uuid × Uuid)) (now : Nat)
  /-- An administrator enables a device, without the fence. -/
  | enable (device : Uuid)
  /-- The command line of another process changes a device. -/
  | command (device : Uuid) (change : DeviceChange)
  | shutdown

/-- The step, if it is possible. -/
def CutoverWorld.next (tools : CutoverTools) (limits : LoginLimits) (w : CutoverWorld) :
    CutoverOp → Option CutoverWorld
  | .startDevice device forceFresh id now wallNowMs =>
    w.startDevice tools limits device forceFresh id now wallNowMs
  | .startAdmin owner authorization forceFresh id now wallNowMs =>
    w.startLogin tools limits (.admin owner authorization) forceFresh id now wallNowMs
  | .startOperator forceFresh id now wallNowMs =>
    w.startLogin tools limits (.operator adminOperatorOwnerId) forceFresh id now wallNowMs
  | .snapshot owner id now =>
    some { w with manager := (w.manager.snapshotAt limits owner id now).2 }
  | .verify owner id code now =>
    some { w with manager := (w.manager.submitVerifyCode limits owner id code now).2 }
  | .cancel owner id now => some { w with manager := (w.manager.cancel limits owner id now).2 }
  | .work id input => w.work tools limits id input
  | .reap id now => w.reap limits id now
  | .disconnect n =>
    if (w.disconnects n).isNone then some (w.setDisconnect n (some .awaitingCutover)) else none
  | .disconnectStep n now ok => (w.disconnects n).bind (w.disconnectStep limits n now ok)
  | .abandon n => if (w.disconnects n).isSome then some (w.setDisconnect n none) else none
  | .save n bundle =>
    if (w.saves n).isNone then some (w.setSave n (some (.awaitingWriter bundle))) else none
  | .saveStep n ok => (w.saves n).bind (w.saveStep n ok)
  | .cancelSave n => if (w.saves n).isSome then some (w.setSave n none) else none
  | .admin n command =>
    if (w.admins n).isNone && command.isFenced then
      some (w.setAdmin n (some (.awaitingFence command)))
    else none
  | .adminStep n cancels now => (w.admins n).bind (w.adminStep limits n cancels now)
  | .enable device => w.changeDevice device (.setEnabled true)
  | .command device change => w.changeDevice device change
  | .shutdown => some { w with shutdown := true }

def LoginServiceStep (tools : CutoverTools) (limits : LoginLimits) (w : CutoverWorld)
    (op : CutoverOp)
    (w' : CutoverWorld) : Prop :=
  w.next tools limits op = some w'

end PromptDock.Wechat
