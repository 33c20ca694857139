import PromptDock.Wechat.LoginCutover

/-!
# The edges between the phases

A step of a task changes the shared state and enters a phase; the locks are settled
afterwards.  `CutoverEdge` and `LoginEdge` list what a worker may change on the way
from one phase to the next, `DisconnectEdge`, `SaveEdge` and `AdminEdge` what the
other tasks may.  `ServiceMove` is a step of the whole service (`next_move`).
-/

namespace PromptDock.Wechat

open CutoverWorld Function LabelledRun Option

/-- A call of the login manager. -/
def ManagerCall (tools : CutoverTools) (limits : LoginLimits) (op : LoginOp)
    (m m' : LoginSessions) : Prop :=
  ∃ now answer, op.call tools.login limits now m = some (answer, m')

/-- From phase to phase within `cutover`: the world without the locks, and the next
phase of the worker. -/
inductive CutoverEdge (tools : CutoverTools) (limits : LoginLimits) (w : CutoverWorld) (id : Uuid)
    (c : PreparedCandidate) : CutoverPhase → CutoverWorld → WorkerPhase → Prop where
  | gate : CutoverEdge tools limits w id c .confirmed w (.cutover c .awaitingGate)
  | writer (hholds : (w.locks .stagingGate).Holds (.worker id)) :
      CutoverEdge tools limits w id c .awaitingGate w (.cutover c .awaitingWriter)
  | notSafe : CutoverEdge tools limits w id c .awaitingGate w (.cutover c (.discarding .notStaged))
  | write (hholds : (w.locks .writeLock).Holds (.worker id)) :
      CutoverEdge tools limits w id c .awaitingWriter w (.cutover c .writing)
  | written : CutoverEdge tools limits w id c .writing w (.cutover c .inserting)
  | notWritten : CutoverEdge tools limits w id c .writing w (.cutover c (.discarding .notStaged))
  | duplicate (hstaged : w.isStaged id = true) :
      CutoverEdge tools limits w id c .inserting w (.cutover c .duplicate)
  | insert (hstaged : w.isStaged id = false) :
      CutoverEdge tools limits w id c .inserting
        { w with staged := (id, c.bundle) :: w.staged } (.cutover c .awaitingCutover)
  | duplicateGone :
      CutoverEdge tools limits w id c .duplicate w (.cutover c (.discarding .notStaged))
  | fence (hholds : (w.locks .cutover).Holds (.worker id))
      (hadmin : c.adminAuthorization.isSome = true) :
      CutoverEdge tools limits w id c .awaitingCutover w (.cutover c .awaitingFence)
  | noFence (hholds : (w.locks .cutover).Holds (.worker id))
      (hadmin : c.adminAuthorization.isSome = false) :
      CutoverEdge tools limits w id c .awaitingCutover w (.cutover c .checkingCancellation)
  | fenced (hholds : (w.locks .lifecycleFence).Holds (.worker id)) :
      CutoverEdge tools limits w id c .awaitingFence w (.cutover c .checkingCancellation)
  | cancelled :
      CutoverEdge tools limits w id c .checkingCancellation w (.cutover c (.discarding .cancelled))
  | notCancelled :
      CutoverEdge tools limits w id c .checkingCancellation w
        (.cutover c (.authorizing false .first))
  | authorize (again ok : Bool) (read : AuthorizationRead) :
      CutoverEdge tools limits w id c (.authorizing again read) w
        (.cutover c (w.authorize tools c again ok read))
  | begin (now : Nat)
      (hbegun : (w.manager.beginCutover limits c.loginId c.ownerDeviceId now).1 = true) :
      CutoverEdge tools limits w id c .beginning
        { w with manager := (w.manager.beginCutover limits c.loginId c.ownerDeviceId now).2 }
        (.cutover c .stopping)
  | notBegun (now : Nat)
      (hbegun : (w.manager.beginCutover limits c.loginId c.ownerDeviceId now).1 = false) :
      CutoverEdge tools limits w id c .beginning
        { w with manager := (w.manager.beginCutover limits c.loginId c.ownerDeviceId now).2 }
        (.cutover c (.discarding .notCurrent))
  | stopped : CutoverEdge tools limits w id c .stopping w (.cutover c (.authorizing true .first))
  | notStopped : CutoverEdge tools limits w id c .stopping w (.cutover c (.discarding .notStopped))
  | confirm (hcommits : w.manager.cutoverIsCommitting c.loginId c.ownerDeviceId = true) :
      CutoverEdge tools limits w id c .confirming w (.cutover c .promoting)
  | notConfirmed :
      CutoverEdge tools limits w id c .confirming w (.cutover c (.discarding .notStillCurrent))
  | promote {entry : Uuid × ConnectionBundle} (hentry : w.staged.find? (·.1 = id) = some entry) :
      CutoverEdge tools limits w id c .promoting
        { w with staged := w.staged.filter (·.1 ≠ id) } (.cutover c (.committing entry.2))
  | nothingStaged (hentry : w.staged.find? (·.1 = id) = none) :
      CutoverEdge tools limits w id c .promoting w (.cutover c (.discarding .notPromoted))
  | commit (bundle : ConnectionBundle) :
      CutoverEdge tools limits w id c (.committing bundle)
        { w with file := some bundle, runtime := .activate bundle } (.cutover c .starting)
  | notCommitted (bundle : ConnectionBundle) :
      CutoverEdge tools limits w id c (.committing bundle) w
        (.cutover c (.discarding .notPromoted))
  | started : CutoverEdge tools limits w id c .starting w (.cutover c (.leaving .activated))
  | notStarted :
      CutoverEdge tools limits w id c .starting { w with runtime := w.runtime.markDegraded }
        (.cutover c (.leaving .activatedDegraded))
  | discard (exit : CutoverExit) (hstaged : w.isStaged id = true) :
      CutoverEdge tools limits w id c (.discarding exit)
        { w with staged := w.staged.filter (·.1 ≠ id) } (.cutover c (.discardingSecret exit))
  | nothingToDiscard (exit : CutoverExit) (hstaged : w.isStaged id = false) :
      CutoverEdge tools limits w id c (.discarding exit) w (.cutover c exit.afterDiscard)
  | discarded (exit : CutoverExit) :
      CutoverEdge tools limits w id c (.discardingSecret exit) w (.cutover c exit.afterDiscard)
  | resumed (exit : CutoverExit) :
      CutoverEdge tools limits w id c (.resuming exit)
        { w with runtime := w.runtime.restoreSafeStatus } (.cutover c (.leaving exit.outcome))
  | leave (outcome : CutoverOutcome) :
      CutoverEdge tools limits w id c (.leaving outcome) w (.cutover c (.finishing outcome))
  | finish (outcome : CutoverOutcome) (now : Nat) :
      CutoverEdge tools limits w id c (.finishing outcome)
        { w with manager := (w.manager.finishCutover id outcome now).2 } .ended

/-- The calls of a worker outside `cutover`. -/
def LoginOp.isWorkerCall (id : Uuid) : LoginOp → Prop
  | .workerCancellation id' | .installQr id' _ | .pollInput id' | .failProvider id'
  | .applyProviderStatus id' _ _ _ _ _ => id' = id
  | _ => False

/-- The phase is outside `cutover`. -/
def WorkerPhase.isPlain : WorkerPhase → Bool
  | .cutover .. => false
  | _ => true

/-- From phase to phase outside `cutover`. -/
inductive LoginEdge (tools : CutoverTools) (limits : LoginLimits) (w : CutoverWorld) (id : Uuid) :
    CutoverWorld → WorkerPhase → Prop where
  | quiet {phase' : WorkerPhase} (hplain : phase'.isPlain = true) :
      LoginEdge tools limits w id w phase'
  | call (op : LoginOp) {manager' : LoginSessions} {phase' : WorkerPhase} (hop : op.isWorkerCall id)
      (hcall : ManagerCall tools limits op w.manager manager') (hplain : phase'.isPlain = true) :
      LoginEdge tools limits w id { w with manager := manager' } phase'
  | confirmed {generation revision : Nat} {response : GetQrCodeStatusResponse} {now : Nat}
      {wall : Timestamp} {candidate : PreparedCandidate}
      (hdirective : (w.manager.applyProviderStatusAt tools.login limits id generation revision
        response w.runtime.hasActiveCredentials now wall).1 = .ok (.cutover candidate)) :
      LoginEdge tools limits w id
        { w with
          manager := (w.manager.applyProviderStatusAt tools.login limits id generation revision
            response w.runtime.hasActiveCredentials now wall).2 }
        (.cutover candidate .confirmed)

/-- From phase to phase of a disconnect. -/
inductive DisconnectEdge (limits : LoginLimits) (w : CutoverWorld) (n : Nat) :
    DisconnectPhase → CutoverWorld → DisconnectPhase → Prop where
  | gate (hholds : (w.locks .cutover).Holds (.disconnect n)) :
      DisconnectEdge limits w n .awaitingCutover w .awaitingGate
  | gated (hholds : (w.locks .stagingGate).Holds (.disconnect n)) :
      DisconnectEdge limits w n .awaitingGate w .cancelling
  | cancel {now : Nat} {answer : Option Uuid} {manager' : LoginSessions}
      (hcancel : w.manager.cancelCandidateForDisconnect limits now = some (answer, manager')) :
      DisconnectEdge limits w n .cancelling { w with manager := manager' } .draining
  | drain :
      DisconnectEdge limits w n .draining (w.drainStaged n)
        (if w.staged.isEmpty then .stopping false else .discarding w.staged.length false)
  | discarding (left : Nat) (failed failed' : Bool) :
      DisconnectEdge limits w n (.discarding left failed) w (.discarding (left - 1) failed')
  | discarded (left : Nat) (failed failed' : Bool) :
      DisconnectEdge limits w n (.discarding left failed) w (.stopping failed')
  | stopped (failed failed' : Bool) :
      DisconnectEdge limits w n (.stopping failed) w (.awaitingWriter failed')
  | writer (failed : Bool) (hholds : (w.locks .writeLock).Holds (.disconnect n)) :
      DisconnectEdge limits w n (.awaitingWriter failed) w (.clearing failed)
  | clear (failed ok : Bool) :
      DisconnectEdge limits w n (.clearing failed)
        { w with file := if ok then none else w.file, runtime := .disconnect ok }
        (.done (failed || !ok))

/-- From phase to phase of a save: the connection file afterwards. -/
inductive SaveEdge (w : CutoverWorld) (n : Nat) :
    SavePhase → Option ConnectionBundle → Option SavePhase → Prop where
  | write (bundle : ConnectionBundle) (hholds : (w.locks .writeLock).Holds (.save n)) :
      SaveEdge w n (.awaitingWriter bundle) w.file (some (.writing bundle))
  | written (bundle : ConnectionBundle) :
      SaveEdge w n (.writing bundle) w.file (some (.renaming bundle))
  | notWritten (bundle : ConnectionBundle) : SaveEdge w n (.writing bundle) w.file none
  | renamed (bundle : ConnectionBundle) (ok : Bool) :
      SaveEdge w n (.renaming bundle) (if ok then some bundle else w.file) none

/-- From phase to phase of an administrator's command. -/
inductive AdminEdge (limits : LoginLimits) (w : CutoverWorld) (n : Nat) :
    AdminPhase → CutoverWorld → Option AdminPhase → Prop where
  | fenced (command : AdminCommand) (hholds : (w.locks .lifecycleFence).Holds (.admin n)) :
      AdminEdge limits w n (.awaitingFence command) w (some (.changing command))
  | notChanged (device : Uuid) (change : DeviceChange) :
      AdminEdge limits w n (.changing (.device device change)) w none
  | changed (device : Uuid) (change : DeviceChange) {row : DeviceAuthRow}
      (hrow : (w.devices device).bind (·.change change) = some row) :
      AdminEdge limits w n (.changing (.device device change))
        { w with devices := update w.devices device (some row) }
        (some (.invalidating (.device device change)))
  | close : AdminEdge limits w n (.changing .close) w (some (.invalidating .close))
  | invalidated (device : Uuid) (change : DeviceChange) :
      AdminEdge limits w n (.invalidating (.device device change))
        { w with core := w.core.bumpGeneration device } (some .cancelling)
  | closed :
      AdminEdge limits w n (.invalidating .close)
        { w with core := { w.core with closed := true, processEpoch := w.core.processEpoch + 1 } }
        (some .cancelling)
  | cancel (owner id : Uuid) (now : Nat) :
      AdminEdge limits w n .cancelling
        { w with manager := (w.manager.cancel limits owner id now).2 } (some .cancelling)
  | done : AdminEdge limits w n .cancelling w none

/-- The login that a start asks for. -/
def CutoverOp.starts : CutoverOp → Option (LoginStarter × Uuid)
  | .startDevice device _ id _ _ => some (.device device, id)
  | .startAdmin owner authorization _ id _ _ => some (.admin owner authorization, id)
  | .startOperator _ id _ _ => some (.operator adminOperatorOwnerId, id)
  | _ => none

/-- The call of an owner. -/
def CutoverOp.ownerCall : CutoverOp → Option LoginOp
  | .snapshot owner id _ => some (.snapshot owner id)
  | .verify owner id code _ => some (.submitVerifyCode owner id code)
  | .cancel owner id _ => some (.cancel owner id)
  | _ => none

/-- The row that a start records. -/
def CutoverWorld.recorded (w : CutoverWorld) (id : Uuid) :
    LoginStarter → Uuid → Option DeviceAuthRow
  | .device device => update w.startedUnder id (w.devices device)
  | _ => w.startedUnder

/-- The worker is spawned. -/
def LoginAnswer.spawns : LoginAnswer → Bool
  | .started (.ok outcome) => outcome.created && outcome.snapshot.state == .fetchingQr
  | _ => false

/-- What a step of the service does. -/
inductive ServiceMove (tools : CutoverTools) (limits : LoginLimits) (w : CutoverWorld) :
    CutoverOp → CutoverWorld → Prop where
  | start {op : CutoverOp} {starter : LoginStarter} {id : Uuid} {forceFresh : Bool} {now : Nat}
      {wall : Option Timestamp} {answer : LoginAnswer} {manager' : LoginSessions}
      (hop : op.starts = some (starter, id)) (hsession : w.manager.sessions id = none)
      (hworker : w.workers id = none) (hdrawn : w.drawn id = false)
      (hmanages : ∀ device, starter = .device device → (w.devices device).any (·.manages) = true)
      (hcall : (LoginOp.start starter forceFresh w.runtime.hasActiveCredentials id wall).call
        tools.login limits now w.manager = some (answer, manager')) :
      ServiceMove tools limits w op
        (let w₁ := { w with
          manager := manager', startedUnder := w.recorded id starter,
          drawn := update w.drawn id true }
        if answer.spawns then w₁.setWorker id .spawned else w₁)
  | owner {op : CutoverOp} (lop : LoginOp) {manager' : LoginSessions}
      (hop : op.ownerCall = some lop) (hcall : ManagerCall tools limits lop w.manager manager') :
      ServiceMove tools limits w op { w with manager := manager' }
  | cutover {id : Uuid} {input : WorkInput} {c : PreparedCandidate} {phase : CutoverPhase}
      {w₁ : CutoverWorld} {phase' : WorkerPhase} (hphase : w.workers id = some (.cutover c phase))
      (hedge : CutoverEdge tools limits w id c phase w₁ phase') :
      ServiceMove tools limits w (.work id input) (w₁.setWorker id phase')
  | login {id : Uuid} {input : WorkInput} {phase : WorkerPhase} {w₁ : CutoverWorld}
      {phase' : WorkerPhase} (hphase : w.workers id = some phase) (hplain : phase.isPlain = true)
      (hedge : LoginEdge tools limits w id w₁ phase') :
      ServiceMove tools limits w (.work id input) (w₁.setWorker id phase')
  | reap {id : Uuid} (now : Nat) (hphase : w.workers id = some .ended) :
      ServiceMove tools limits w (.reap id now)
        ({ w with manager := (w.manager.failProvider limits id now).2 }.setWorker id .reaped)
  | disconnect {n : Nat} (hnew : w.disconnects n = none) :
      ServiceMove tools limits w (.disconnect n) (w.setDisconnect n (some .awaitingCutover))
  | disconnecting {n now : Nat} {ok : Bool} {phase phase' : DisconnectPhase} {w₁ : CutoverWorld}
      (hphase : w.disconnects n = some phase) (hedge : DisconnectEdge limits w n phase w₁ phase') :
      ServiceMove tools limits w (.disconnectStep n now ok) (w₁.setDisconnect n (some phase'))
  | abandon (n : Nat) : ServiceMove tools limits w (.abandon n) (w.setDisconnect n none)
  | save {n : Nat} (bundle : ConnectionBundle) (hnew : w.saves n = none) :
      ServiceMove tools limits w (.save n bundle) (w.setSave n (some (.awaitingWriter bundle)))
  | saving {n : Nat} {ok : Bool} {phase : SavePhase} {file' : Option ConnectionBundle}
      {phase' : Option SavePhase} (hphase : w.saves n = some phase)
      (hedge : SaveEdge w n phase file' phase') :
      ServiceMove tools limits w (.saveStep n ok) ({ w with file := file' }.setSave n phase')
  | cancelSave (n : Nat) : ServiceMove tools limits w (.cancelSave n) (w.setSave n none)
  | admin {n : Nat} (command : AdminCommand) (hnew : w.admins n = none)
      (hfenced : command.isFenced = true) :
      ServiceMove tools limits w (.admin n command) (w.setAdmin n (some (.awaitingFence command)))
  | administering {n now : Nat} {cancels : Option (Uuid × Uuid)} {phase : AdminPhase}
      {w₁ : CutoverWorld} {phase' : Option AdminPhase} (hphase : w.admins n = some phase)
      (hedge : AdminEdge limits w n phase w₁ phase') :
      ServiceMove tools limits w (.adminStep n cancels now) (w₁.setAdmin n phase')
  | enable {device : Uuid} {row : DeviceAuthRow}
      (hrow : (w.devices device).bind (·.change (.setEnabled true)) = some row) :
      ServiceMove tools limits w (.enable device)
        { w with devices := update w.devices device (some row) }
  | command {device : Uuid} {change : DeviceChange} {row : DeviceAuthRow}
      (hrow : (w.devices device).bind (·.change change) = some row) :
      ServiceMove tools limits w (.command device change)
        { w with devices := update w.devices device (some row) }
  | shutdown : ServiceMove tools limits w .shutdown { w with shutdown := true }

variable {tools : CutoverTools} {limits : LoginLimits} {w w' : CutoverWorld} {id : Uuid}
  {input : WorkInput}

theorem holds_of_guard {task : CutoverTask} {lock : CutoverLock} (h : w.holds task lock = true) :
    (w.locks lock).Holds task :=
  of_decide_eq_true h

/-- Every step within `cutover` follows an edge. -/
theorem cutover_edge {c : PreparedCandidate} {phase : CutoverPhase}
    (h : w.cutover tools limits id c phase input = some w') :
    ∃ w1 phase', CutoverEdge tools limits w id c phase w1 phase' ∧ w' = w1.setWorker id phase' := by
  unfold cutover at h
  split at h
  · cases h
    exact ⟨_, _, .gate, rfl⟩
  · obtain ⟨hholds, rfl⟩ := of_guard h
    by_cases hsafe : bundleIsProductionSafe tools c.bundle = true
    · rw [if_pos hsafe]
      exact ⟨_, _, .writer (holds_of_guard hholds), rfl⟩
    · rw [if_neg hsafe]
      exact ⟨_, _, .notSafe, rfl⟩
  · obtain ⟨hholds, rfl⟩ := of_guard h
    exact ⟨_, _, .write (holds_of_guard hholds), rfl⟩
  · rename_i ok
    cases h
    cases ok
    · exact ⟨_, _, .notWritten, rfl⟩
    · exact ⟨_, _, .written, rfl⟩
  · split at h
    · rename_i hstg
      cases h
      exact ⟨_, _, .duplicate hstg, rfl⟩
    · rename_i hstg
      cases h
      exact ⟨_, _, .insert (Bool.eq_false_iff.mpr hstg), rfl⟩
  · cases h
    exact ⟨_, _, .duplicateGone, rfl⟩
  · obtain ⟨hholds, rfl⟩ := of_guard h
    cases hadm : c.adminAuthorization.isSome
    · exact ⟨_, _, .noFence (holds_of_guard hholds) hadm, rfl⟩
    · exact ⟨_, _, .fence (holds_of_guard hholds) hadm, rfl⟩
  · obtain ⟨hholds, rfl⟩ := of_guard h
    exact ⟨_, _, .fenced (holds_of_guard hholds), rfl⟩
  · cases h
    cases w.manager.cancelled id
    · exact ⟨_, _, .notCancelled, rfl⟩
    · exact ⟨_, _, .cancelled, rfl⟩
  · rename_i again read ok
    cases h
    exact ⟨_, _, .authorize again ok read, rfl⟩
  · rename_i now
    cases h
    cases hbeg : (w.manager.beginCutover limits c.loginId c.ownerDeviceId now).1
    · exact ⟨_, _, .notBegun now hbeg, rfl⟩
    · exact ⟨_, _, .begin now hbeg, rfl⟩
  · rename_i ok
    cases h
    cases ok
    · exact ⟨_, _, .notStopped, rfl⟩
    · exact ⟨_, _, .stopped, rfl⟩
  · cases h
    cases hcom : w.manager.cutoverIsCommitting c.loginId c.ownerDeviceId
    · exact ⟨_, _, .notConfirmed, rfl⟩
    · exact ⟨_, _, .confirm hcom, rfl⟩
  · split at h
    · rename_i hent
      cases h
      exact ⟨_, _, .nothingStaged hent, rfl⟩
    · rename_i hent
      cases h
      exact ⟨_, _, .promote hent, rfl⟩
  · rename_i bundle ok
    split at h
    · cases h
      exact ⟨_, _, .commit bundle, rfl⟩
    · cases h
      exact ⟨_, _, .notCommitted bundle, rfl⟩
  · split at h
    · cases h
      exact ⟨_, _, .started, rfl⟩
    · cases h
      exact ⟨_, _, .notStarted, rfl⟩
  · rename_i exit _
    split at h
    · rename_i hstg
      cases h
      exact ⟨_, _, .discard exit hstg, rfl⟩
    · rename_i hstg
      cases h
      exact ⟨_, _, .nothingToDiscard exit (Bool.eq_false_iff.mpr hstg), rfl⟩
  · rename_i exit _
    cases h
    exact ⟨_, _, .discarded exit, rfl⟩
  · rename_i exit _
    cases h
    exact ⟨_, _, .resumed exit, rfl⟩
  · rename_i outcome _
    cases h
    exact ⟨_, _, .leave outcome, rfl⟩
  · rename_i outcome now
    cases h
    exact ⟨_, _, .finish outcome now, rfl⟩
  · cases h

variable {phase : WorkerPhase} {n now : Nat} {device : Uuid} {forceFresh : Bool}
  {wall : Option Timestamp} {op : CutoverOp}

/-- Every step outside `cutover` follows an edge. -/
theorem runLogin_edge (h : w.runLogin tools limits id phase input = some w') :
    ∃ w1 phase', LoginEdge tools limits w id w1 phase' ∧ w' = w1.setWorker id phase' := by
  unfold runLogin at h
  split at h
  · rename_i now
    cases h
    refine ⟨_, _, .call (.workerCancellation id) rfl ⟨now, _, rfl⟩ ?_, rfl⟩
    split <;> rfl
  · rename_i resp now
    cases h
    refine ⟨_, _, .call (.installQr id resp) rfl ⟨now, _, rfl⟩ ?_, rfl⟩
    split <;> rfl
  · rename_i now
    cases h
    refine ⟨_, _, .call (.pollInput id) rfl ⟨now, _, rfl⟩ ?_, rfl⟩
    split <;> rfl
  · cases h
    exact ⟨_, _, .quiet rfl, rfl⟩
  · rename_i pollInput resp now wall
    cases h
    have hplain : ∀ phase' : WorkerPhase, phase'.isPlain = true → LoginEdge tools limits w id
          { w with
            manager := (w.manager.applyProviderStatusAt tools.login limits id pollInput.generation
              pollInput.verifyRevision resp w.runtime.hasActiveCredentials now wall).2 }
          phase' :=
      fun _ => .call (.applyProviderStatus id pollInput.generation pollInput.verifyRevision resp
        w.runtime.hasActiveCredentials (some wall)) rfl ⟨now, _, rfl⟩
    split
    case h_6 hdir => exact ⟨_, _, .confirmed hdir, rfl⟩
    all_goals exact ⟨_, _, hplain _ rfl, rfl⟩
  · rename_i now
    split at h
    · cases h
      exact ⟨_, _, .quiet rfl, rfl⟩
    · cases h
      exact ⟨_, _, .call (.failProvider id) rfl ⟨now, _, rfl⟩ rfl, rfl⟩
  · rename_i now _
    split at h
    · cases h
      exact ⟨_, _, .quiet rfl, rfl⟩
    · cases h
      exact ⟨_, _, .call (.failProvider id) rfl ⟨now, _, rfl⟩ rfl, rfl⟩
  · cases h
    exact ⟨_, _, .quiet rfl, rfl⟩
  · obtain ⟨_, rfl⟩ := of_guard h
    exact ⟨_, _, .quiet rfl, rfl⟩
  · obtain ⟨_, rfl⟩ := of_guard h
    exact ⟨_, _, .quiet rfl, rfl⟩
  · obtain ⟨_, rfl⟩ := of_guard h
    exact ⟨_, _, .quiet rfl, rfl⟩
  · cases h

/-- A worker's input is a move of the service. -/
theorem work_move (h : w.work tools limits id input = some w') :
    ServiceMove tools limits w (.work id input) w' := by
  unfold work at h
  split at h
  · cases h
  · rename_i c phase hph
    obtain ⟨w1, phase', hedge, rfl⟩ := cutover_edge h
    exact .cutover hph hedge
  rename_i phase hnot hph
  obtain ⟨w1, phase', hedge, rfl⟩ := runLogin_edge h
  have hplain : phase.isPlain = true := by
    cases phase with
    | cutover c phase => exact absurd rfl (hnot c phase)
    | _ => rfl
  exact .login hph hplain hedge

variable {ok : Bool}

/-- A disconnect takes one of its edges. -/
theorem disconnectStep_edge {phase : DisconnectPhase}
    (h : w.disconnectStep limits n now ok phase = some w') :
    ∃ w1 phase', DisconnectEdge limits w n phase w1 phase' ∧
      w' = w1.setDisconnect n (some phase') := by
  unfold disconnectStep at h
  split at h
  · obtain ⟨hholds, rfl⟩ := of_guard h
    exact ⟨_, _, .gate (holds_of_guard hholds), rfl⟩
  · obtain ⟨hholds, rfl⟩ := of_guard h
    exact ⟨_, _, .gated (holds_of_guard hholds), rfl⟩
  · obtain ⟨res, hcanc, rfl⟩ := map_eq_some_iff.mp h
    exact ⟨_, _, .cancel hcanc, rfl⟩
  · cases h
    exact ⟨_, _, .drain, rfl⟩
  · rename_i left failed
    cases h
    by_cases hleft : left ≤ 1
    · rw [if_pos hleft]
      exact ⟨_, _, .discarded left failed _, rfl⟩
    · rw [if_neg hleft]
      exact ⟨_, _, .discarding left failed _, rfl⟩
  · cases h
    exact ⟨_, _, .stopped _ _, rfl⟩
  · obtain ⟨hholds, rfl⟩ := of_guard h
    exact ⟨_, _, .writer _ (holds_of_guard hholds), rfl⟩
  · cases h
    exact ⟨_, _, .clear _ ok, rfl⟩
  · cases h

/-- So does a save. -/
theorem saveStep_edge {phase : SavePhase} (h : w.saveStep n ok phase = some w') :
    ∃ file' phase', SaveEdge w n phase file' phase' ∧
      w' = { w with file := file' }.setSave n phase' := by
  unfold saveStep at h
  split at h
  · obtain ⟨hholds, rfl⟩ := of_guard h
    exact ⟨_, _, .write _ (holds_of_guard hholds), rfl⟩
  · rename_i bun
    cases h
    cases ok
    · exact ⟨_, _, .notWritten bun, rfl⟩
    · exact ⟨_, _, .written bun, rfl⟩
  · rename_i bun
    cases h
    exact ⟨_, _, .renamed bun ok, rfl⟩

/-- A device's row changes, and nothing else. -/
theorem changeDevice_row {change : DeviceChange} (h : w.changeDevice device change = some w') :
    ∃ row, (w.devices device).bind (·.change change) = some row ∧
      w' = { w with devices := update w.devices device (some row) } := by
  obtain ⟨row, hrow, rfl⟩ := map_eq_some_iff.mp h
  exact ⟨row, hrow, rfl⟩

/-- An administrator's call takes one of its edges. -/
theorem adminStep_edge {cancels : Option (Uuid × Uuid)} {phase : AdminPhase}
    (h : w.adminStep limits n cancels now phase = some w') :
    ∃ w1 phase', AdminEdge limits w n phase w1 phase' ∧ w' = w1.setAdmin n phase' := by
  unfold adminStep at h
  split at h
  · obtain ⟨hholds, rfl⟩ := of_guard h
    exact ⟨_, _, .fenced _ (holds_of_guard hholds), rfl⟩
  · rename_i device change
    split at h
    · cases h
      exact ⟨_, _, .notChanged device change, rfl⟩
    rename_i w1 hchg
    obtain ⟨row, hrow, rfl⟩ := changeDevice_row hchg
    cases h
    exact ⟨_, _, .changed device change hrow, rfl⟩
  · cases h
    exact ⟨_, _, .close, rfl⟩
  · rename_i device change
    cases h
    exact ⟨_, _, .invalidated device change, rfl⟩
  · cases h
    exact ⟨_, _, .closed, rfl⟩
  · split at h
    · rename_i owner id
      cases h
      exact ⟨_, _, .cancel owner id now, rfl⟩
    · cases h
      exact ⟨_, _, .done, rfl⟩

/-- A start leaves a table and, for a QR session, a worker. -/
theorem startLogin_spawns {starter : LoginStarter}
    (h : w.startLogin tools limits starter forceFresh id now wall = some w') :
    w.manager.sessions id = none ∧ w.workers id = none ∧ w.drawn id = false ∧ ∃ answer manager',
      (LoginOp.start starter forceFresh w.runtime.hasActiveCredentials id wall).call tools.login
        limits now w.manager = some (answer, manager') ∧
      w' = (let w1 := { w with manager := manager', drawn := update w.drawn id true }
        if answer.spawns then w1.setWorker id .spawned else w1) := by
  unfold startLogin at h
  split at h
  · rename_i hnew
    rw [Bool.and_eq_true, Bool.and_eq_true, isNone_iff_eq_none, isNone_iff_eq_none,
      Bool.not_eq_true'] at hnew
    obtain ⟨⟨answer, manager'⟩, hcall, hw'⟩ := map_eq_some_iff.mp h
    refine ⟨hnew.1.1, hnew.1.2, hnew.2, answer, manager', hcall, hw'.symm.trans ?_⟩
    dsimp only
    split
    · rfl
    rename_i hnot
    have hspawns : answer.spawns = false := by
      unfold LoginAnswer.spawns
      split
      · exact absurd rfl (hnot _)
      · rfl
    rw [hspawns, if_neg Bool.false_ne_true]
  · cases h

/-- A login that a device starts is a move. -/
theorem startDevice_move (h : w.startDevice tools limits device forceFresh id now wall = some w') :
    ServiceMove tools limits w (.startDevice device forceFresh id now wall) w' := by
  unfold startDevice at h
  split at h
  · rename_i hman
    obtain ⟨w1, hstart, rfl⟩ := map_eq_some_iff.mp h
    obtain ⟨hsess, hwork, hdraw, answer, manager', hcall, rfl⟩ := startLogin_spawns hstart
    have hmove : ServiceMove tools limits w (.startDevice device forceFresh id now wall) _ :=
      .start rfl hsess hwork hdraw (fun other heq => by cases heq; exact hman) hcall
    cases hspawns : answer.spawns
    · rw [hspawns] at hmove
      exact hmove
    · rw [hspawns] at hmove
      exact hmove
  · cases h

/-- Every step of the service is such a move. -/
theorem next_move (h : LoginServiceStep tools limits w op w') :
    ServiceMove tools limits w op w' := by
  cases op with
  | startDevice => exact startDevice_move h
  | startAdmin | startOperator =>
    obtain ⟨hsess, hwork, hdraw, answer, manager', hcall, rfl⟩ := startLogin_spawns h
    exact .start rfl hsess hwork hdraw (by intro _ heq; cases heq) hcall
  | snapshot owner id now =>
    cases h
    exact .owner (.snapshot owner id) rfl ⟨now, _, rfl⟩
  | verify owner id code now =>
    cases h
    exact .owner (.submitVerifyCode owner id code) rfl ⟨now, _, rfl⟩
  | cancel owner id now =>
    cases h
    exact .owner (.cancel owner id) rfl ⟨now, _, rfl⟩
  | work => exact work_move h
  | reap id now =>
    obtain ⟨hended, rfl⟩ := of_guard h
    exact .reap now hended.1
  | disconnect =>
    obtain ⟨hnew, rfl⟩ := of_guard h
    exact .disconnect (isNone_iff_eq_none.mp hnew)
  | disconnectStep =>
    obtain ⟨phase, hph, hstep⟩ := bind_eq_some_iff.mp h
    obtain ⟨w1, phase', hedge, rfl⟩ := disconnectStep_edge hstep
    exact .disconnecting hph hedge
  | abandon n =>
    obtain ⟨_, rfl⟩ := of_guard h
    exact .abandon n
  | save n bun =>
    obtain ⟨hnew, rfl⟩ := of_guard h
    exact .save bun (isNone_iff_eq_none.mp hnew)
  | saveStep =>
    obtain ⟨phase, hph, hstep⟩ := bind_eq_some_iff.mp h
    obtain ⟨file', phase', hedge, rfl⟩ := saveStep_edge hstep
    exact .saving hph hedge
  | cancelSave n =>
    obtain ⟨_, rfl⟩ := of_guard h
    exact .cancelSave n
  | admin n command =>
    obtain ⟨hnew, rfl⟩ := of_guard h
    rw [Bool.and_eq_true, isNone_iff_eq_none] at hnew
    exact .admin command hnew.1 hnew.2
  | adminStep =>
    obtain ⟨phase, hph, hstep⟩ := bind_eq_some_iff.mp h
    obtain ⟨w1, phase', hedge, rfl⟩ := adminStep_edge hstep
    exact .administering hph hedge
  | enable =>
    obtain ⟨row, hrow, rfl⟩ := changeDevice_row h
    exact .enable hrow
  | command =>
    obtain ⟨row, hrow, rfl⟩ := changeDevice_row h
    exact .command hrow
  | shutdown =>
    cases h
    exact .shutdown

/-! ## One worker -/

@[simp] theorem setWorker_workers_self (w : CutoverWorld) (id : Uuid) (phase : WorkerPhase) :
    (w.setWorker id phase).workers id = some phase :=
  update_self ..

theorem setWorker_workers_of_ne {other : Uuid} (h : other ≠ id) :
    (w.setWorker id phase).workers other = w.workers other :=
  update_of_ne h ..

/-- What a step of the service is for one login. -/
inductive WorkerStep (tools : CutoverTools) (limits : LoginLimits) (w : CutoverWorld) (id : Uuid) :
    CutoverOp → CutoverWorld → Prop where
  | other {op : CutoverOp} {w' : CutoverWorld} (hop : ∀ input, op ≠ .work id input)
      (hsame : w'.workers id = w.workers id) : WorkerStep tools limits w id op w'
  | plain {op : CutoverOp} {w' : CutoverWorld} {phase' : WorkerPhase}
      (hbefore : (w.workers id).all (·.isPlain) = true) (hafter : w'.workers id = some phase')
      (hplain : phase'.isPlain = true) : WorkerStep tools limits w id op w'
  | confirmed {input : WorkInput} {phase : WorkerPhase} {generation revision : Nat}
      {response : GetQrCodeStatusResponse} {now : Nat} {wall : Timestamp}
      {candidate : PreparedCandidate} (hphase : w.workers id = some phase)
      (hplain : phase.isPlain = true)
      (hdirective : (w.manager.applyProviderStatusAt tools.login limits id generation revision
        response w.runtime.hasActiveCredentials now wall).1 = .ok (.cutover candidate)) :
      WorkerStep tools limits w id (.work id input)
        ({ w with
          manager := (w.manager.applyProviderStatusAt tools.login limits id generation revision
            response w.runtime.hasActiveCredentials now wall).2 }.setWorker id
          (.cutover candidate .confirmed))
  | edge {input : WorkInput} {c : PreparedCandidate} {phase : CutoverPhase} {w₁ : CutoverWorld}
      {phase' : WorkerPhase} (hphase : w.workers id = some (.cutover c phase))
      (hedge : CutoverEdge tools limits w id c phase w₁ phase') :
      WorkerStep tools limits w id (.work id input) (w₁.setWorker id phase')

/-- What any move does to one worker. -/
theorem ServiceMove.workerStep (h : ServiceMove tools limits w op w') (id : Uuid) :
    WorkerStep tools limits w id op w' := by
  cases h with
  | @start _ starter drawn forceFresh now wall answer manager' hop hsess hwork =>
    have hnot : ∀ input, op ≠ .work id input := by
      rintro input rfl
      cases hop
    split
    · by_cases hid : id = drawn
      · subst hid
        exact .plain (by rw [hwork]; rfl) (setWorker_workers_self ..) rfl
      · exact .other hnot (setWorker_workers_of_ne hid)
    · exact .other hnot rfl
  | owner lop hop => exact .other (by rintro input rfl; cases hop) rfl
  | @cutover worker input c phase w1 phase' hph hedge =>
    by_cases hid : id = worker
    · subst hid
      exact .edge hph hedge
    · refine .other (by rintro _ ⟨⟩; exact hid rfl) ((setWorker_workers_of_ne hid).trans ?_)
      cases hedge <;> rfl
  | @login worker input phase w1 phase' hph hplain hedge =>
    by_cases hid : id = worker
    · subst hid
      cases hedge with
      | quiet hp | call lop _ _ hp =>
        exact .plain (by rw [hph]; exact hplain) (setWorker_workers_self ..) hp
      | confirmed hdir => exact .confirmed hph hplain hdir
    · refine .other (by rintro _ ⟨⟩; exact hid rfl) ((setWorker_workers_of_ne hid).trans ?_)
      cases hedge <;> rfl
  | @reap worker now hph =>
    by_cases hid : id = worker
    · subst hid
      exact .plain (by rw [hph]; rfl) (setWorker_workers_self ..) rfl
    · exact .other (by rintro _ ⟨⟩) (setWorker_workers_of_ne hid)
  | disconnecting _ hedge | administering _ hedge =>
    exact .other (by rintro _ ⟨⟩) (by cases hedge <;> rfl)
  | _ => exact .other (by rintro _ ⟨⟩) rfl

/-! ## Calls of the login manager -/

/-- The step makes the call, and its task is in the phase for it. -/
inductive ServiceCall (w : CutoverWorld) : CutoverOp → LoginOp → Prop where
  | start {op : CutoverOp} {starter : LoginStarter} {forceFresh : Bool} {id : Uuid}
      {wall : Option Timestamp} (hop : op.starts = some (starter, id))
      (hsession : w.manager.sessions id = none) (hdrawn : w.drawn id = false) :
      ServiceCall w op (.start starter forceFresh w.runtime.hasActiveCredentials id wall)
  | snapshot (owner id : Uuid) (now : Nat) :
      ServiceCall w (.snapshot owner id now) (.snapshot owner id)
  | verify (owner id : Uuid) (code : String) (now : Nat) :
      ServiceCall w (.verify owner id code now) (.submitVerifyCode owner id code)
  | cancel (op : CutoverOp) (owner id : Uuid) : ServiceCall w op (.cancel owner id)
  | worker {op : CutoverOp} {lop : LoginOp} {id : Uuid} {phase : WorkerPhase}
      (hlop : lop.isWorkerCall id) (hphase : w.workers id = some phase)
      (hplain : phase.isPlain = true) : ServiceCall w op lop
  | begin {id : Uuid} {input : WorkInput} {c : PreparedCandidate}
      (hphase : w.workers id = some (.cutover c .beginning)) :
      ServiceCall w (.work id input) (.beginCutover c.loginId c.ownerDeviceId)
  | finish {id : Uuid} {input : WorkInput} {c : PreparedCandidate} {outcome : CutoverOutcome}
      (hphase : w.workers id = some (.cutover c (.finishing outcome))) :
      ServiceCall w (.work id input) (.finishCutover id outcome)
  | disconnect {n now : Nat} {ok : Bool} (hphase : w.disconnects n = some .cancelling) :
      ServiceCall w (.disconnectStep n now ok) .cancelCandidateForDisconnect

/-- The table is as it was, or the step called the manager. -/
theorem ServiceMove.manager (h : ServiceMove tools limits w op w') : w'.manager = w.manager ∨
      ∃ lop, ServiceCall w op lop ∧ ManagerCall tools limits lop w.manager w'.manager := by
  cases h with
  | @start _ starter id forceFresh now wall answer manager' hop hsess _ hdraw _ hcall =>
    refine .inr ⟨.start starter forceFresh w.runtime.hasActiveCredentials id wall,
      .start hop hsess hdraw, now, answer, ?_⟩
    split
    · exact hcall
    · exact hcall
  | @owner op lop _ hop hcall =>
    refine .inr ⟨lop, ?_, hcall⟩
    cases op with
    | snapshot owner id now =>
      cases hop
      exact .snapshot owner id now
    | verify owner id code now =>
      cases hop
      exact .verify owner id code now
    | cancel owner id =>
      cases hop
      exact .cancel _ owner id
    | _ => cases hop
  | cutover hph hedge =>
    cases hedge with
    | begin now | notBegun now => exact .inr ⟨_, .begin hph, now, _, rfl⟩
    | finish outcome now => exact .inr ⟨_, .finish hph, now, _, rfl⟩
    | _ => exact .inl rfl
  | @login id _ _ _ _ hph hplain hedge =>
    cases hedge with
    | quiet => exact .inl rfl
    | call lop hlop hcall => exact .inr ⟨lop, .worker hlop hph hplain, hcall⟩
    | @confirmed gen rev resp now wall =>
      exact .inr ⟨.applyProviderStatus id gen rev resp
        w.runtime.hasActiveCredentials (some wall), .worker rfl hph hplain, now, _, rfl⟩
  | @reap id now hph => exact .inr ⟨.failProvider id, .worker rfl hph rfl, now, _, rfl⟩
  | disconnecting hph hedge =>
    cases hedge with
    | @cancel now answer manager' hcanc =>
      have hcall : LoginOp.call tools.login limits now w.manager .cancelCandidateForDisconnect =
          some (.cancelledCandidate answer, manager') := by
        simp [LoginOp.call, hcanc, answering]
      exact .inr ⟨_, .disconnect hph, now, .cancelledCandidate answer, hcall⟩
    | _ => exact .inl rfl
  | administering _ hedge =>
    cases hedge with
    | cancel owner id now => exact .inr ⟨_, .cancel _ owner id, now, _, rfl⟩
    | _ => exact .inl rfl
  | _ => exact .inl rfl

end PromptDock.Wechat
