import PromptDock.Wechat.CutoverLocks
import PromptDock.Wechat.LoginSequences

/-!
# Who waits for whom in a cutover

A staged candidate keeps the writer lock while its worker waits for the cutover
mutex, and a second worker waits for the writer lock with the gate in its hand; a
disconnect that has the mutex and waits for the gate closes the cycle
(`second_login_deadlocks`).  As long as at most one worker is between the gate and the
mutex while there is a disconnect (`StagesAlone`), a rank falls from whoever waits to
whom it waits for, and some task that has a lock can always go on
(`cutover_locks_free`).
-/

namespace PromptDock.Wechat

open LockQueues LabelledRun CutoverWorld LockQueue Option

variable {tools : CutoverTools} {limits : LoginLimits} {w w1 w' : CutoverWorld} {id : Uuid}
  {op : CutoverOp}

/-! ## Between the gate and the mutex -/

/-- The worker is between the staging gate and the cutover mutex. -/
def CutoverPhase.inWindow : CutoverPhase → Bool
  | .awaitingGate | .awaitingWriter | .writing | .inserting | .duplicate | .awaitingCutover => true
  | _ => false

def WorkerPhase.inWindow : WorkerPhase → Bool
  | .cutover _ phase => phase.inWindow
  | _ => false

def CutoverWorld.inWindow (w : CutoverWorld) (id : Uuid) : Bool := (w.workers id).any (·.inWindow)

/-- A disconnect has the cutover mutex or stands in line for it. -/
def CutoverWorld.Disconnecting (w : CutoverWorld) : Prop :=
  ∃ n, (w.disconnects n).any (·.asks .cutover) = true

/-- At most one worker is in the window. -/
def CutoverWorld.Alone (w : CutoverWorld) : Prop :=
  ∀ id id', w.inWindow id = true → w.inWindow id' = true → id = id'

/-- While there is a disconnect, a worker starts to stage only if no other one is in the
window; and a disconnect starts while at most one is. -/
def StagesAlone (w : CutoverWorld) : CutoverOp → Prop
  | .work id _ => ∀ c, w.workers id = some (.cutover c .confirmed) → w.Disconnecting →
      ∀ other, w.inWindow other = false
  | .disconnect _ => w.Alone
  | _ => True

variable {c : PreparedCandidate} {phase : DisconnectPhase} {phase' : WorkerPhase} {n : Nat}
  {x : CutoverTask}

/-- The window of a cutover is entered at its confirmation. -/
theorem CutoverEdge.inWindow {phase : CutoverPhase}
    (h : CutoverEdge tools limits w id c phase w1 phase') (hph : phase'.inWindow = true) :
    phase.inWindow = true ∨ phase = .confirmed := by
  cases h with
  | gate => exact .inr rfl
  | authorize again ok read =>
    rcases authorize_phase w c again ok read with heq | heq | ⟨read', heq⟩
    · rw [heq] at hph
      cases again <;> cases hph
    · rw [heq] at hph
      cases hph
    · rw [heq] at hph
      cases hph
  | nothingToDiscard exit | discarded exit => cases exit <;> cases hph
  | _ => first | exact .inl rfl | cases hph

/-- A worker enters a phase. -/
theorem inWindow_setWorker {other : Uuid} (hwks : w1.workers = w.workers)
    (h : (w1.setWorker id phase').inWindow other = true) :
    w.inWindow other = true ∨ (other = id ∧ phase'.inWindow = true) := by
  have h : ((Function.update w1.workers id (some phase')) other).any (·.inWindow) = true := h
  by_cases hoth : other = id
  · subst hoth
    rw [Function.update_self] at h
    exact .inr ⟨rfl, h⟩
  · rw [Function.update_of_ne hoth, hwks] at h
    exact .inl h

theorem disconnecting_setDisconnect {phase' : Option DisconnectPhase}
    (hsame : w1.disconnects = w.disconnects) (h : (w1.setDisconnect n phase').Disconnecting) :
    w.Disconnecting ∨ phase'.any (·.asks .cutover) = true := by
  obtain ⟨m, hm⟩ := h
  have hm : ((Function.update w1.disconnects n phase') m).any (·.asks .cutover) = true := hm
  by_cases heq : m = n
  · subst heq
    rw [Function.update_self] at hm
    exact .inr hm
  · rw [Function.update_of_ne heq, hsame] at hm
    exact .inl ⟨m, hm⟩

/-- A disconnect has the mutex, or stands in line for it. -/
theorem DisconnectEdge.asks_cutover {phase' : DisconnectPhase}
    (h : DisconnectEdge limits w n phase w1 phase') : phase.asks .cutover = true := by
  cases h <;> rfl

/-- A worker enters the window when it starts to stage. -/
theorem ServiceMove.enters (h : ServiceMove tools limits w op w') {other : Uuid}
    (hin : w'.inWindow other = true) : w.inWindow other = true ∨
      ∃ input c, op = .work other input ∧ w.workers other = some (.cutover c .confirmed) := by
  cases h with
  | start =>
    left
    split at hin
    · exact (inWindow_setWorker rfl hin).resolve_right fun h => nomatch h.2
    · exact hin
  | @cutover id input c phase w1 phase' hph hedge =>
    rcases inWindow_setWorker hedge.tasks.workers hin with hpre | ⟨rfl, hph'⟩
    · exact .inl hpre
    rcases hedge.inWindow hph' with hwin | rfl
    · left
      rw [inWindow, hph]
      exact hwin
    · exact .inr ⟨input, c, rfl, hph⟩
  | @login id input phase w1 phase' hph hplain hedge =>
    have hfree : phase'.inWindow = false := by
      cases hedge with
      | quiet hp | call lop hlop hcall hp => cases phase' <;> first | rfl | cases hp
      | confirmed => rfl
    left
    refine (inWindow_setWorker (by cases hedge <;> rfl) hin).resolve_right fun h => ?_
    exact Bool.false_ne_true (hfree.symm.trans h.2)
  | reap => exact .inl ((inWindow_setWorker rfl hin).resolve_right fun h => nomatch h.2)
  | disconnecting _ hedge =>
    left
    cases hedge <;> exact hin
  | administering _ hedge =>
    left
    cases hedge <;> exact hin
  | _ => exact .inl hin

/-- A disconnect comes with its call. -/
theorem ServiceMove.disconnecting_before (h : ServiceMove tools limits w op w')
    (hd : w'.Disconnecting) : w.Disconnecting ∨ ∃ n, op = .disconnect n := by
  cases h with
  | start =>
    left
    split at hd <;> exact hd
  | cutover _ hedge =>
    obtain ⟨n, hn⟩ := hd
    exact .inl ⟨n, hedge.tasks.disconnects ▸ hn⟩
  | login _ _ hedge =>
    left
    cases hedge <;> exact hd
  | disconnect => exact .inr ⟨_, rfl⟩
  | @disconnecting n _ _ _ _ _ hph hedge => exact .inl ⟨n, by rw [hph]; exact hedge.asks_cutover⟩
  | abandon => exact .inl ((disconnecting_setDisconnect rfl hd).resolve_right nofun)
  | administering _ hedge =>
    left
    cases hedge <;> exact hd
  | _ => exact .inl hd

/-- Two workers in the window do not meet a disconnect. -/
theorem ServiceMove.alone (h : ServiceMove tools limits w op w') (hop : StagesAlone w op)
    (hw : w.Disconnecting → w.Alone) : w'.Disconnecting → w'.Alone := by
  intro hd x y hx hy
  rcases h.disconnecting_before hd with hd | ⟨n, rfl⟩
  · -- who enters finds the window empty
    rcases h.enters hx with hx | ⟨_, c, rfl, hconf⟩
    · rcases h.enters hy with hy | ⟨_, c, rfl, hconf⟩
      · exact hw hd x y hx hy
      · rw [hop c hconf hd x] at hx
        cases hx
    · rcases h.enters hy with hy | ⟨_, _, hwork, _⟩
      · rw [hop c hconf hd y] at hy
        cases hy
      · cases hwork
        rfl
  · rcases h.enters hx with hx | ⟨_, _, hwork, _⟩
    · rcases h.enters hy with hy | ⟨_, _, hwork, _⟩
      · exact hop x y hx hy
      · cases hwork
    · cases hwork

/-! ## The rank -/

def CutoverTask.isSave : CutoverTask → Bool
  | .save _ => true
  | _ => false

/-- How far down one is who waits for the lock; `meets` tells that there is a
disconnect, which takes the gate after the mutex. -/
def waitRank (meets isSave : Bool) : CutoverLock → Nat
  | .lifecycleFence => 1
  | .writeLock => if isSave then 5 else if meets then 2 else 3
  | .stagingGate => if meets then 3 else 4
  | .cutover => if meets then 4 else 2

def CutoverWorld.rank (w : CutoverWorld) (meets : Bool) (t : CutoverTask) : Nat :=
  match w.awaits t with
  | none => 0
  | some lock => if w.holds t lock then 0 else waitRank meets t.isSave lock

theorem waitRank_pos (meets isSave : Bool) (lock : CutoverLock) :
    0 < waitRank meets isSave lock := by
  cases meets <;> cases isSave <;> cases lock <;> decide

variable {t : CutoverTask} {lock : CutoverLock}

/-- Who waits for a lock awaits it in its phase. -/
theorem Locked.awaits_of_waits (hw : Locked w) (h : (w.locks lock).Waits t) :
    w.awaits t = some lock := by
  by_contra hnot
  have hask := (hw.lines t lock).mp (mem_line.mpr (.inr h))
  exact (hw.granted t lock hask hnot).not_waits h

/-- A task asks for what it waits for. -/
theorem awaits_asks (h : w.awaits t = some lock) : w.asks t lock = true := by
  cases t with
  | worker =>
    obtain ⟨phase, hph, haw⟩ := bind_eq_some_iff.mp h
    rw [asks, hph]
    cases phase with
    | cutover c phase => cases phase <;> cases haw <;> rfl
    | _ => cases haw
  | disconnect | save | admin =>
    obtain ⟨phase, hph, haw⟩ := bind_eq_some_iff.mp h
    rw [asks, hph]
    cases phase <;> cases haw <;> rfl

/-- Besides a staged candidate that waits for the mutex, only a save waits for the
writer lock while there is a disconnect. -/
theorem LockInvariant.waits_behind_staged (hw : LockInvariant w) (halone : w.Alone)
    (hstg : w.isStaged id = true) (hph : w.workers id = some (.cutover c .awaitingCutover))
    (ht : w.awaits t = some .writeLock) (hoth : t ≠ .worker id) : t.isSave = true := by
  cases t with
  | worker other =>
    obtain ⟨phase, hoth', haw⟩ := bind_eq_some_iff.mp ht
    have hwin : w.inWindow other = true := by
      rw [inWindow, hoth']
      cases phase with
      | cutover c phase => cases phase <;> first | rfl | cases haw
      | _ => cases haw
    have hwin' : w.inWindow id = true := by
      rw [inWindow, hph]
      rfl
    exact absurd (congrArg CutoverTask.worker (halone other id hwin hwin')) hoth
  | disconnect n =>
    obtain ⟨phase, hn, haw⟩ := bind_eq_some_iff.mp ht
    have hdrained : phase.drained = true := by cases phase <;> first | rfl | cases haw
    rw [isStaged, hw.drained n phase hn hdrained] at hstg
    cases hstg
  | save => rfl
  | admin =>
    obtain ⟨phase, hn, haw⟩ := bind_eq_some_iff.mp ht
    cases phase <;> cases haw

/-- A task with one lock that awaits another one is further down than whoever waits for
the one it has. -/
theorem waitRank_lt {meets : Bool} {lock' : CutoverLock} (hw : LockInvariant w)
    (halone : w.Disconnecting → w.Alone) (hmeets : w.Disconnecting ↔ meets = true)
    (ht : w.awaits t = some lock) (hx : w.awaits x = some lock') (hhas : w.asks x lock = true)
    (hne : lock' ≠ lock) (hoth : t ≠ x) :
    waitRank meets x.isSave lock' < waitRank meets t.isSave lock := by
  cases x with
  | worker id =>
    obtain ⟨phase, hph, haw⟩ := bind_eq_some_iff.mp hx
    have hengaged : Engaged w id phase lock := by simpa [asks, hph, Engaged] using hhas
    cases phase with
    | cutover c phase =>
      have hstg : w.isStaged id = true → phase.mayBeStaged = true := by
        intro hstg
        have hmay := hw.staged id hstg
        rw [hph] at hmay
        exact hmay
      rcases hengaged with hasks | ⟨rfl, hin⟩
      · cases phase <;> cases haw <;> cases lock <;> first
          | exact absurd rfl hne
          | exact Bool.noConfusion hasks
          | cases meets <;> cases t.isSave <;> exact Nat.lt_of_sub_eq_succ rfl
      cases phase <;> cases haw
      · cases hstg hin
      · exact absurd rfl hne
      · cases meets with
        | false => cases t.isSave <;> exact Nat.lt_of_sub_eq_succ rfl
        | true =>
          rw [hw.waits_behind_staged (halone (hmeets.mpr rfl)) hin hph ht hoth]
          exact Nat.lt_succ_self 4
      · cases meets <;> cases t.isSave <;> exact Nat.lt_of_sub_eq_succ rfl
    | _ => cases haw
  | disconnect n =>
    obtain ⟨phase, hph, haw⟩ := bind_eq_some_iff.mp hx
    have hasks : phase.asks lock = true := by simpa [asks, hph] using hhas
    have hcutover : phase.asks .cutover = true := by cases phase <;> first | rfl | cases haw
    have hmeets : meets = true := hmeets.mp ⟨n, by rw [hph]; exact hcutover⟩
    subst hmeets
    cases phase <;> cases haw <;> cases lock <;> first
      | exact absurd rfl hne
      | exact Bool.noConfusion hasks
      | cases t.isSave <;> exact Nat.lt_of_sub_eq_succ rfl
  | save | admin =>
    obtain ⟨phase, hph, haw⟩ := bind_eq_some_iff.mp hx
    have hasks : phase.asks lock = true := by simpa [asks, hph] using hhas
    simp only [SavePhase.asks_iff, AdminPhase.asks_iff] at hasks
    cases hasks
    cases phase <;> cases haw
    exact absurd rfl hne

/-- Who waits is ranked above the holder. -/
theorem rank_lt {meets : Bool} (hw : LockInvariant w) (halone : w.Disconnecting → w.Alone)
    (hmeets : w.Disconnecting ↔ meets = true) (h : WaitsFor w.locks t x) :
    w.rank meets x < w.rank meets t := by
  obtain ⟨lock, hwait, hholds⟩ := h
  have ht := hw.locked.awaits_of_waits hwait
  have hnot : w.holds t lock = false := decide_eq_false fun hholds' => hholds'.not_waits hwait
  have hrank : w.rank meets t = waitRank meets t.isSave lock := by
    rw [rank, ht]
    exact if_neg (Bool.eq_false_iff.mp hnot)
  have hoth : t ≠ x := fun heq => hholds.not_waits (heq ▸ hwait)
  rw [hrank, rank]
  split
  · exact waitRank_pos ..
  rename_i lock' hx
  split
  · exact waitRank_pos ..
  rename_i hnot'
  have hne : lock' ≠ lock := fun heq => hnot' (decide_eq_true (heq ▸ hholds))
  have hhas := (hw.locked.lines x lock).mp (mem_line.mpr (.inl hholds))
  exact waitRank_lt hw halone hmeets ht hx hhas hne hoth

/-! ## Going on -/

/-- The task that takes the step. -/
def CutoverOp.task : CutoverOp → Option CutoverTask
  | .work id _ => some (.worker id)
  | .disconnectStep n _ _ => some (.disconnect n)
  | .saveStep n _ => some (.save n)
  | .adminStep n _ _ => some (.admin n)
  | _ => none

/-- What the phase waits for from outside. -/
def CutoverPhase.input : CutoverPhase → WorkInput
  | .writing | .duplicate | .authorizing .. | .stopping | .committing _ | .starting
  | .discardingSecret _ | .resuming _ => .ended true
  | _ => .go 0

/-- A cutover can go on unless it waits. -/
theorem cutover_isSome (w : CutoverWorld) (c : PreparedCandidate) (phase : CutoverPhase)
    (h : ∀ lock, phase.awaits = some lock → w.holds (.worker id) lock = true) :
    (w.cutover tools limits id c phase phase.input).isSome = true := by
  cases phase with
  | awaitingGate => simp [cutover, CutoverPhase.input, h .stagingGate rfl]
  | awaitingWriter => simp [cutover, CutoverPhase.input, h .writeLock rfl]
  | awaitingCutover => simp [cutover, CutoverPhase.input, h .cutover rfl]
  | awaitingFence => simp [cutover, CutoverPhase.input, h .lifecycleFence rfl]
  | inserting | promoting | discarding =>
    simp only [cutover, CutoverPhase.input]
    split <;> rfl
  | _ => rfl

/-- So can a disconnect. -/
theorem disconnectStep_isSome (hm : w.manager.WellFormed) (hasks : phase.asks .cutover = true)
    (h : ∀ lock, phase.awaits = some lock → w.holds (.disconnect n) lock = true) :
    (w.disconnectStep limits n 0 true phase).isSome = true := by
  cases phase with
  | awaitingCutover => simp [disconnectStep, h .cutover rfl]
  | awaitingGate => simp [disconnectStep, h .stagingGate rfl]
  | awaitingWriter => simp [disconnectStep, h .writeLock rfl]
  | cancelling =>
    have hcall : (LoginOp.call sampleLoginTools limits 0 w.manager
        .cancelCandidateForDisconnect).isSome = true := call_isSome _ hm
    simpa [LoginOp.call, disconnectStep] using hcall
  | done => cases hasks
  | _ => rfl

/-- A task that has a lock and waits for none can go on. -/
theorem LockInvariant.goes_on (hw : LockInvariant w) (hm : w.manager.WellFormed)
    (hhas : w.asks t lock = true)
    (hheld : ∀ lock', w.awaits t = some lock' → w.holds t lock' = true) :
    ∃ op, op.task = some t ∧ (w.next tools limits op).isSome = true := by
  cases t with
  | worker id =>
    have hcutover : ∃ c phase, w.workers id = some (.cutover c phase) := by
      rcases Bool.or_eq_true_iff.mp hhas with hasks | hstg
      · obtain ⟨phase, hph, hasks⟩ := (any_eq_true ..).mp hasks
        cases phase with
        | cutover c phase => exact ⟨c, phase, hph⟩
        | _ => cases hasks
      · obtain ⟨phase, hph, hmay⟩ :=
          (any_eq_true ..).mp (hw.staged id (Bool.and_eq_true_iff.mp hstg).2)
        cases phase with
        | cutover c phase => exact ⟨c, phase, hph⟩
        | _ => cases hmay
    obtain ⟨c, phase, hph⟩ := hcutover
    refine ⟨.work id phase.input, rfl, ?_⟩
    simp only [next, work, hph]
    apply cutover_isSome
    intro lock' haw
    exact hheld lock' (by rw [awaits, hph]; exact haw)
  | disconnect n =>
    obtain ⟨phase, hph, hasks⟩ := (any_eq_true ..).mp hhas
    refine ⟨.disconnectStep n 0 true, rfl, ?_⟩
    simp only [next, hph]
    apply disconnectStep_isSome hm
    · cases phase <;> first | rfl | (cases lock <;> cases hasks)
    · intro lock' haw
      exact hheld lock' (by rw [awaits, hph]; exact haw)
  | save n =>
    obtain ⟨phase, hph, hasks⟩ := (any_eq_true ..).mp hhas
    refine ⟨.saveStep n true, rfl, ?_⟩
    simp only [next, hph]
    cases phase with
    | awaitingWriter =>
      have hheld := hheld .writeLock (by rw [awaits, hph]; rfl)
      simp [saveStep, hheld]
    | _ => rfl
  | admin n =>
    obtain ⟨phase, hph, hasks⟩ := (any_eq_true ..).mp hhas
    refine ⟨.adminStep n none 0, rfl, ?_⟩
    simp only [next, hph, bind_some]
    cases phase with
    | awaitingFence =>
      have hheld := hheld .lifecycleFence (by rw [awaits, hph]; rfl)
      simp [adminStep, hheld]
    | changing command =>
      cases command with
      | device =>
        simp only [adminStep]
        split <;> rfl
      | close => rfl
    | invalidating command => cases command <;> rfl
    | cancelling => rfl

/-- A task that waits for a lock cannot go on. -/
theorem Locked.stuck (hw : Locked w) (hwait : (w.locks lock).Waits t) (hop : op.task = some t) :
    w.next tools limits op = none := by
  have haw := hw.awaits_of_waits hwait
  have hnot : w.holds t lock = false := decide_eq_false fun hholds => hholds.not_waits hwait
  cases op with
  | work id input =>
    cases hop
    obtain ⟨phase, hph, haw⟩ := bind_eq_some_iff.mp haw
    cases phase with
    | cutover c phase =>
      simp only [next, work, hph]
      cases phase <;> cases haw <;> cases input <;> simp [cutover, hnot]
    | _ => cases haw
  | disconnectStep | saveStep | adminStep =>
    cases hop
    obtain ⟨phase, hph, haw⟩ := bind_eq_some_iff.mp haw
    simp only [next, hph]
    cases phase <;> cases haw <;> simp [disconnectStep, saveStep, adminStep, hnot]
  | _ => cases hop

/-! ## Every run -/

/-- The locks are in order and the table of logins is well formed in every state
reached. -/
theorem run_lockInvariant {devices : Uuid → Option DeviceAuthRow} {runtime : RuntimeConnection}
    {ops : List CutoverOp} (h : Run (LoginServiceStep tools limits) (.boot devices runtime) ops w) :
    LockInvariant w ∧ w.manager.WellFormed := by
  refine h.invariant (I := fun w => LockInvariant w ∧ w.manager.WellFormed)
    (fun s op s' hstep hs => ?_) ⟨lockInvariant_boot devices runtime, wellFormed_new⟩
  have hmove := next_move hstep
  refine ⟨hmove.lockInvariant hs.1, ?_⟩
  rcases hmove.manager with heq | ⟨lop, _, now, answer, hcall⟩
  · rw [heq]
    exact hs.2
  · exact call_wellFormed hcall hs.2

/-- A step that meets the condition on who may stage. -/
def StagedAlone (tools : CutoverTools) (limits : LoginLimits) (w : CutoverWorld) (op : CutoverOp)
    (w' : CutoverWorld) : Prop :=
  LoginServiceStep tools limits w op w' ∧ StagesAlone w op

/-- No tasks wait for each other in a circle, and if a lock is held, some task that holds
one can go on. -/
theorem cutover_locks_free {devices : Uuid → Option DeviceAuthRow} {runtime : RuntimeConnection}
    {ops : List CutoverOp} (h : Run (StagedAlone tools limits) (.boot devices runtime) ops w) :
    (∀ t, ¬ Relation.TransGen (WaitsFor w.locks) t t) ∧
      ∀ lock t, (w.locks lock).Holds t →
        ∃ lock' x op, (w.locks lock').Holds x ∧ op.task = some x ∧
          (w.next tools limits op).isSome = true := by
  obtain ⟨hw, hm⟩ := run_lockInvariant (h.mono fun _ _ _ hstep => hstep.1)
  have halone : w.Disconnecting → w.Alone := by
    refine h.invariant (I := fun w => w.Disconnecting → w.Alone) (fun s op s' hstep hs => ?_) ?_
    · exact (next_move hstep.1).alone hstep.2 hs
    · rintro _ id id' hid
      cases hid
  -- whether there is a disconnect decides on the rank
  obtain ⟨meets, hmeets⟩ : ∃ meets : Bool, w.Disconnecting ↔ meets = true := by
    by_cases hd : w.Disconnecting
    · exact ⟨true, iff_of_true hd rfl⟩
    · exact ⟨false, iff_of_false hd Bool.false_ne_true⟩
  have hfalls : ∀ t x, WaitsFor w.locks t x → w.rank meets x < w.rank meets t :=
    fun t x => rank_lt hw halone hmeets
  refine ⟨not_transGen_self (w.rank meets) hfalls, fun lock t hholds => ?_⟩
  obtain ⟨lock', x, hx, hfree⟩ := exists_holder_not_waiting (w.rank meets) hfalls hholds
  have hhas := (hw.locked.lines x lock').mp (mem_line.mpr (.inl hx))
  obtain ⟨op, hop, hgoes⟩ := hw.goes_on hm hhas fun lock'' hawaits => by
    have hasks : w.asks x lock'' = true := awaits_asks hawaits
    have hline := mem_line.mp ((hw.locked.lines x lock'').mpr hasks)
    exact decide_eq_true (hline.resolve_right (hfree lock''))
  exact ⟨lock', x, op, hx, hop, hgoes⟩

/-! ## A disconnect between two logins -/

def sampleCutoverTools : CutoverTools := ⟨sampleLoginTools, .zero⟩

/-- Device 7 may manage the channel. -/
def sampleDevices (device : Uuid) : Option DeviceAuthRow :=
  if device = 7 then some ⟨[1], true, none, 2, [.channelManage]⟩ else none

/-- Device 7 starts a login, and the provider confirms it. -/
def confirmedLogin (id : Uuid) : List CutoverOp :=
  [.startDevice 7 true id 0 (some 0), .work id (.go 0),
   .work id (.fetched (some ⟨"qr", "image"⟩) 0),
    .work id (.go 0),
    .work id (.polled (some ⟨.confirmed, some "token", some "bot", none, some "user", none⟩) 0
      (some 0))]

/-- The first login writes its candidate and is cancelled; the second one stands behind
it at the gate, and a disconnect behind that; then the first one goes on. -/
def disconnectBetween : List CutoverOp :=
  confirmedLogin 1 ++ [.work 1 (.go 0), .work 1 (.go 0), .work 1 (.go 0), .cancel 7 1 0] ++
    confirmedLogin 2 ++ [.work 2 (.go 0), .disconnect 0, .disconnectStep 0 0 true] ++
    [.work 1 (.ended true), .work 1 (.go 0), .work 2 (.go 0)]

/-- Two logins and a disconnect wait for each other, and no task with a lock can go
on. -/
theorem second_login_deadlocks : ∃ w : CutoverWorld,
      Run (LoginServiceStep sampleCutoverTools .default) (.boot sampleDevices ⟨none, .disconnected⟩)
        disconnectBetween w ∧
      WaitsFor w.locks (.worker 1) (.disconnect 0) ∧ WaitsFor w.locks (.disconnect 0) (.worker 2) ∧
      WaitsFor w.locks (.worker 2) (.worker 1) ∧
      ∀ lock t op, (w.locks lock).Holds t → op.task = some t →
        w.next sampleCutoverTools .default op = none := by
  obtain ⟨w, hrun, hcutover, hgate, hwriter, hfence⟩ : ∃ w,
      Run (LoginServiceStep sampleCutoverTools .default) (.boot sampleDevices ⟨none, .disconnected⟩)
        disconnectBetween w ∧
      (w.locks .cutover).line = [.disconnect 0, .worker 1] ∧
      (w.locks .stagingGate).line = [.worker 2, .disconnect 0] ∧
      (w.locks .writeLock).line = [.worker 1, .worker 2] ∧ (w.locks .lifecycleFence).line = [] :=
    exists_run (by decide +kernel)
  have hlocked := (run_lockInvariant hrun).1.locked
  have hfirst : WaitsFor w.locks (.worker 1) (.disconnect 0) :=
    ⟨.cutover, by simp [Waits, hcutover], by simp [Holds, hcutover]⟩
  have hdisconnect : WaitsFor w.locks (.disconnect 0) (.worker 2) :=
    ⟨.stagingGate, by simp [Waits, hgate], by simp [Holds, hgate]⟩
  have hsecond : WaitsFor w.locks (.worker 2) (.worker 1) :=
    ⟨.writeLock, by simp [Waits, hwriter], by simp [Holds, hwriter]⟩
  refine ⟨w, hrun, hfirst, hdisconnect, hsecond, fun lock t op hholds hop => ?_⟩
  have hwaits : ∃ x, WaitsFor w.locks t x := by
    cases lock with
    | cutover =>
      rw [Holds, hcutover] at hholds
      cases hholds
      exact ⟨_, hdisconnect⟩
    | stagingGate =>
      rw [Holds, hgate] at hholds
      cases hholds
      exact ⟨_, hsecond⟩
    | writeLock =>
      rw [Holds, hwriter] at hholds
      cases hholds
      exact ⟨_, hfirst⟩
    | lifecycleFence =>
      rw [Holds, hfence] at hholds
      cases hholds
  obtain ⟨_, lock', hwaits, _⟩ := hwaits
  exact hlocked.stuck hwaits hop

/-- A run in which one worker stages at most. -/
theorem stagedAlone_of_one (id : Uuid) {ops : List CutoverOp}
    (h : Run (LoginServiceStep tools limits) w ops w')
    (hops : ∀ op ∈ ops, ∀ other input, op = .work other input → other = id)
    (hw : ∀ other, w.inWindow other = true → other = id) :
    Run (StagedAlone tools limits) w ops w' := by
  induction h with
  | nil w => exact .nil w
  | @cons w w1 w' op ops hstep _ ih =>
    have hone := hops op List.mem_cons_self
    refine .cons ⟨hstep, ?_⟩ (ih (fun op hop => hops op (List.mem_cons_of_mem _ hop)) ?_)
    · cases op with
      | work other input =>
        intro c hconf _ another
        rw [Bool.eq_false_iff]
        intro hin
        rw [hw another hin, ← hone other input rfl, inWindow, hconf] at hin
        cases hin
      | disconnect => exact fun x y hx hy => (hw x hx).trans (hw y hy).symm
      | _ => trivial
    · intro other hin
      rcases (next_move hstep).enters hin with hin | ⟨input, _, hop, _⟩
      · exact hw other hin
      · exact hone other input hop

/-- A login stages its candidate while a disconnect waits for the gate, and then waits
for the disconnect. -/
def stagedBeforeDisconnect : List CutoverOp :=
  confirmedLogin 1 ++ [.work 1 (.go 0), .work 1 (.go 0), .work 1 (.go 0), .disconnect 0,
    .disconnectStep 0 0 true, .work 1 (.ended true), .work 1 (.go 0)]

/-- A staged worker waits for a disconnect, which can go on. -/
theorem cutover_locks_free_sample : ∃ w : CutoverWorld,
      Run (StagedAlone sampleCutoverTools .default) (.boot sampleDevices ⟨none, .disconnected⟩)
        stagedBeforeDisconnect w ∧
      w.isStaged 1 = true ∧ WaitsFor w.locks (.worker 1) (.disconnect 0) ∧
      (∀ t, ¬ Relation.TransGen (WaitsFor w.locks) t t) ∧
      ∃ lock x op, (w.locks lock).Holds x ∧ op.task = some x ∧
        (w.next sampleCutoverTools .default op).isSome = true := by
  obtain ⟨w, hrun, hend, hstaged⟩ : ∃ w, Run (LoginServiceStep sampleCutoverTools .default)
      (.boot sampleDevices ⟨none, .disconnected⟩) stagedBeforeDisconnect w ∧
      (w.locks .cutover).line = [.disconnect 0, .worker 1] ∧ w.isStaged 1 = true :=
    exists_run (by decide +kernel)
  have halone := stagedAlone_of_one 1 hrun
    (by simp [stagedBeforeDisconnect, confirmedLogin]) fun _ h => nomatch h
  have hholds : (w.locks .cutover).Holds (.disconnect 0) := by simp [Holds, hend]
  obtain ⟨hfree, hgoes⟩ := cutover_locks_free halone
  exact ⟨w, halone, hstaged, ⟨.cutover, by simp [Waits, hend], hholds⟩, hfree,
    hgoes .cutover _ hholds⟩

section

variable {devices runtime ops}
  (h : Run (LoginServiceStep tools limits) (.boot devices runtime) ops w)

include h

/-- No two tasks are in the section of one lock, and one candidate at most is staged. -/
theorem cutover_sections_exclude :
    (∀ lock, {t | w.asks t lock ∧ w.awaits t ≠ some lock}.Subsingleton) ∧
      w.staged.length ≤ 1 ∧ (∀ id, w.isStaged id → (w.workers id).any (·.mayBeStaged)) ∧
      ∀ n phase, w.disconnects n = some phase → phase.drained → w.staged = [] := by
  obtain ⟨hlocked, hstaged, hone, hnone⟩ := (run_lockInvariant h).1
  refine ⟨fun _ _ ht _ hx => ?_, hone, hstaged, hnone⟩
  exact (hlocked.granted _ _ ht.1 ht.2).unique (hlocked.granted _ _ hx.1 hx.2)

/-- The candidate of the table is always one of its sessions: neither of the two
`expect`s of the login manager fails. -/
theorem login_candidate_is_found (lop : LoginOp) (now : Nat) :
    (lop.call tools.login limits now w.manager).isSome :=
  call_isSome lop (run_lockInvariant h).2

end

/-- The candidate is staged while its worker waits behind the disconnect, which is in
the section of the cutover mutex; three steps later the disconnect has drained it. -/
theorem cutover_sections_sample : ∃ w w' : CutoverWorld,
    (w.isStaged 1 ∧ w.awaits (.worker 1) = some .cutover ∧
      {t | w.asks t .cutover ∧ w.awaits t ≠ some .cutover} = {.disconnect 0} ∧
      (w.workers 1).any (·.mayBeStaged)) ∧
    w'.disconnects 0 = some (.discarding 1 false) ∧ w'.staged = [] := by
  obtain ⟨w, hrun, hstaged, hawaits, hasks, hin⟩ : ∃ w,
      Run (LoginServiceStep sampleCutoverTools .default)
        (.boot sampleDevices ⟨none, .disconnected⟩) stagedBeforeDisconnect w ∧
      w.isStaged 1 ∧ w.awaits (.worker 1) = some .cutover ∧ w.asks (.disconnect 0) .cutover ∧
      w.awaits (.disconnect 0) ≠ some .cutover := exists_run (by decide +kernel)
  obtain ⟨w', hrun', hdrained⟩ : ∃ w', Run (LoginServiceStep sampleCutoverTools .default)
      (.boot sampleDevices ⟨none, .disconnected⟩)
      (stagedBeforeDisconnect ++ List.replicate 3 (.disconnectStep 0 0 true)) w' ∧
      w'.disconnects 0 = some (.discarding 1 false) := exists_run (by decide +kernel)
  obtain ⟨hone, _, hmay, _⟩ := cutover_sections_exclude hrun
  refine ⟨w, w', ⟨hstaged, hawaits, ?_, hmay 1 hstaged⟩, hdrained,
    (cutover_sections_exclude hrun').2.2.2 0 _ hdrained rfl⟩
  exact (hone .cutover).eq_singleton_of_mem ⟨hasks, hin⟩

/-- The candidate of a confirmed login is found when a disconnect cancels it. -/
theorem login_candidate_is_found_sample : ∃ w : CutoverWorld,
    w.manager.candidateId = some 1 ∧
      (LoginOp.cancelCandidateForDisconnect.call sampleLoginTools .default 0 w.manager).isSome := by
  obtain ⟨w, hrun, hcandidate⟩ : ∃ w, Run (LoginServiceStep sampleCutoverTools .default)
      (.boot sampleDevices ⟨none, .disconnected⟩) (confirmedLogin 1) w ∧
      w.manager.candidateId = some 1 := exists_run (by decide +kernel)
  exact ⟨w, hcandidate, login_candidate_is_found hrun _ 0⟩

end PromptDock.Wechat
