import PromptDock.Wechat.CutoverEdges
import PromptDock.Wechat.LoginMoves

/-!
# The locks of the cutover

Who stands in which line follows from the phases, and a task has every lock that its
phase does not wait for (`Locked`).  At most one candidate is staged, its worker has the
writer lock, and a disconnect that has drained the map keeps it empty
(`LockInvariant`).
-/

namespace PromptDock.Wechat

open LockQueues CutoverWorld Function List Bool

variable {tools : CutoverTools} {limits : LoginLimits} {w w1 w' : CutoverWorld} {id : Uuid}
  {op : CutoverOp}

/-! ## Lines and phases -/

/-- The lines agree with the phases, and what a task does not wait for it has. -/
structure Locked (w : CutoverWorld) : Prop where
  lines : ∀ task lock, task ∈ (w.locks lock).line ↔ w.asks task lock = true
  granted : ∀ task lock, w.asks task lock = true → w.awaits task ≠ some lock →
    (w.locks lock).Holds task

@[simp] theorem SavePhase.asks_iff {phase : SavePhase} {lock : CutoverLock} :
    phase.asks lock = true ↔ lock = .writeLock := by
  cases phase <;> cases lock <;> simp [SavePhase.asks]

@[simp] theorem AdminPhase.asks_iff {phase : AdminPhase} {lock : CutoverLock} :
    phase.asks lock = true ↔ lock = .lifecycleFence := by
  cases phase <;> cases lock <;> simp [AdminPhase.asks]

/-- The tasks are where they were. -/
structure SameTasks (w w1 : CutoverWorld) : Prop where
  locks : w1.locks = w.locks
  workers : w1.workers = w.workers
  disconnects : w1.disconnects = w.disconnects
  saves : w1.saves = w.saves
  admins : w1.admins = w.admins

theorem SameTasks.refl (w : CutoverWorld) : SameTasks w w := ⟨rfl, rfl, rfl, rfl, rfl⟩

/-- The task is in the phase it was in. -/
def SamePhase (w w1 : CutoverWorld) : CutoverTask → Prop
  | .worker id => w1.workers id = w.workers id ∧ w1.isStaged id = w.isStaged id
  | .disconnect n => w1.disconnects n = w.disconnects n
  | .save n => w1.saves n = w.saves n
  | .admin n => w1.admins n = w.admins n

theorem isStaged_congr (h : w1.staged = w.staged) (id : Uuid) : w1.isStaged id = w.isStaged id :=
  congrArg (fun entries : List (Uuid × ConnectionBundle) => entries.any (·.1 = id)) h

/-- Tasks in the same phases ask for the same locks. -/
theorem SameTasks.phase (hsame : SameTasks w w1) (hstg : w1.staged = w.staged)
    (t : CutoverTask) : SamePhase w w1 t := by
  cases t with
  | worker id => exact ⟨congrFun hsame.workers id, isStaged_congr hstg id⟩
  | disconnect n => exact congrFun hsame.disconnects n
  | save n => exact congrFun hsame.saves n
  | admin n => exact congrFun hsame.admins n

variable {t : CutoverTask}

theorem SamePhase.asks (h : SamePhase w w1 t) (lock : CutoverLock) :
    w1.asks t lock = w.asks t lock := by
  cases t with
  | worker => rw [CutoverWorld.asks, h.1, h.2, CutoverWorld.asks]
  | disconnect | save | admin => exact congrArg (Option.any (·.asks lock)) h

theorem SamePhase.awaits (h : SamePhase w w1 t) : w1.awaits t = w.awaits t := by
  cases t with
  | worker => rw [CutoverWorld.awaits, h.1, CutoverWorld.awaits]
  | disconnect | save | admin => exact congrArg (Option.bind · (·.awaits)) h

@[simp] theorem settle_asks (w : CutoverWorld) (task t : CutoverTask) (lock : CutoverLock) :
    (w.settle task).asks t lock = w.asks t lock := by
  cases t <;> rfl

@[simp] theorem settle_awaits (w : CutoverWorld) (task t : CutoverTask) :
    (w.settle task).awaits t = w.awaits t := by
  cases t <;> rfl

/-- A task settles in its new phase, in which it has nothing that it did not have. -/
theorem Locked.settle {task : CutoverTask} (hw : Locked w) (hlocks : w1.locks = w.locks)
    (hoths : ∀ t, t ≠ task → SamePhase w w1 t)
    (hown : ∀ lock, w1.asks task lock = true → w1.awaits task ≠ some lock →
      (w.locks lock).Holds task) : Locked (w1.settle task) := by
  constructor
  · intro t lock
    rw [settle_asks]
    by_cases ht : t = task
    · subst ht
      by_cases hask : w1.asks t lock = true
      · simp [CutoverWorld.settle, hask, LockQueue.mem_request]
      · simp [CutoverWorld.settle, hask, LockQueue.mem_leave]
    · rw [(hoths t ht).asks lock, ← hw.lines t lock]
      by_cases hask : w1.asks task lock = true
      · simp [CutoverWorld.settle, hask, LockQueue.mem_request, ht, hlocks]
      · simp [CutoverWorld.settle, hask, LockQueue.mem_leave, ht, hlocks]
  · intro t lock hask hwait
    rw [settle_asks] at hask
    rw [settle_awaits] at hwait
    have hheld : (w.locks lock).Holds t := by
      by_cases ht : t = task
      · subst ht
        exact hown lock hask hwait
      rw [(hoths t ht).asks lock] at hask
      rw [(hoths t ht).awaits] at hwait
      exact hw.granted t lock hask hwait
    by_cases htask : w1.asks task lock = true
    · simp only [CutoverWorld.settle, htask, hlocks]
      exact LockQueue.holds_request hheld
    have hne : t ≠ task := fun heq => htask (heq ▸ hask)
    simp only [CutoverWorld.settle, htask, hlocks]
    exact LockQueue.holds_leave hheld hne

/-- A worker moves on and has what it does not wait for. -/
theorem Locked.setWorker {phase' : WorkerPhase} (hw : Locked w) (hsame : SameTasks w w1)
    (hstg : ∀ other, other ≠ id → w1.isStaged other = w.isStaged other)
    (hown : ∀ lock, phase'.asks lock = true ∨ (lock = .writeLock ∧ w1.isStaged id = true) →
      phase'.awaits ≠ some lock → (w.locks lock).Holds (.worker id)) :
    Locked (w1.setWorker id phase') := by
  refine hw.settle hsame.locks ?_ ?_
  · intro t ht
    cases t with
    | worker other =>
      have hoth : other ≠ id := fun heq => ht (heq ▸ rfl)
      have hph := congrFun hsame.workers other
      exact ⟨(update_of_ne hoth ..).trans hph, hstg other hoth⟩
    | disconnect m => exact congrFun hsame.disconnects m
    | save m => exact congrFun hsame.saves m
    | admin m => exact congrFun hsame.admins m
  · intro lock hask hwait
    simp only [CutoverWorld.asks, update_self, or_eq_true, Bool.and_eq_true, beq_iff_eq] at hask
    simp only [CutoverWorld.awaits, update_self] at hwait
    exact hown lock hask hwait

variable {n : Nat}

/-- So does a disconnect. -/
theorem Locked.setDisconnect {phase' : Option DisconnectPhase} (hw : Locked w)
    (hsame : SameTasks w w1) (hstg : w1.staged = w.staged)
    (hown : ∀ lock, phase'.any (·.asks lock) = true → phase'.bind (·.awaits) ≠ some lock →
      (w.locks lock).Holds (.disconnect n)) : Locked (w1.setDisconnect n phase') := by
  refine hw.settle hsame.locks (fun t ht => ?_)
    (by simpa only [CutoverWorld.asks, CutoverWorld.awaits, update_self] using hown)
  have hpre := hsame.phase hstg t
  cases t with
  | disconnect => exact (update_of_ne (fun heq => ht (congrArg _ heq)) ..).trans hpre
  | _ => exact hpre

/-- So does a save. -/
theorem Locked.setSave {phase' : Option SavePhase} (hw : Locked w)
    (hsame : SameTasks w w1) (hstg : w1.staged = w.staged)
    (hown : ∀ lock, phase'.any (·.asks lock) = true → phase'.bind (·.awaits) ≠ some lock →
      (w.locks lock).Holds (.save n)) : Locked (w1.setSave n phase') := by
  refine hw.settle hsame.locks (fun t ht => ?_)
    (by simpa only [CutoverWorld.asks, CutoverWorld.awaits, update_self] using hown)
  have hpre := hsame.phase hstg t
  cases t with
  | save => exact (update_of_ne (fun heq => ht (congrArg _ heq)) ..).trans hpre
  | _ => exact hpre

/-- So does an administrator's call. -/
theorem Locked.setAdmin {phase' : Option AdminPhase} (hw : Locked w)
    (hsame : SameTasks w w1) (hstg : w1.staged = w.staged)
    (hown : ∀ lock, phase'.any (·.asks lock) = true → phase'.bind (·.awaits) ≠ some lock →
      (w.locks lock).Holds (.admin n)) : Locked (w1.setAdmin n phase') := by
  refine hw.settle hsame.locks (fun t ht => ?_)
    (by simpa only [CutoverWorld.asks, CutoverWorld.awaits, update_self] using hown)
  have hpre := hsame.phase hstg t
  cases t with
  | admin => exact (update_of_ne (fun heq => ht (congrArg _ heq)) ..).trans hpre
  | _ => exact hpre

/-! ## The edges and the locks -/

/-- A staged candidate of the login may be in the map. -/
def CutoverPhase.mayBeStaged : CutoverPhase → Bool
  | .awaitingCutover | .awaitingFence | .checkingCancellation | .authorizing .. | .beginning
  | .stopping | .confirming | .promoting | .discarding _ => true
  | _ => false

def WorkerPhase.mayBeStaged : WorkerPhase → Bool
  | .cutover _ phase => phase.mayBeStaged
  | _ => false

/-- Who is staged after one more was. -/
theorem isStaged_insert (w : CutoverWorld) (bundle : ConnectionBundle) (other : Uuid) :
    isStaged { w with staged := (id, bundle) :: w.staged } other =
      (decide (id = other) || w.isStaged other) := by
  simp [isStaged]

/-- And after one was taken out. -/
theorem isStaged_remove (w : CutoverWorld) (other : Uuid) :
    isStaged { w with staged := w.staged.filter (·.1 ≠ id) } other =
      (decide (other ≠ id) && w.isStaged other) := by
  rw [Bool.eq_iff_iff]
  simp only [isStaged, any_filter, any_eq_true, Bool.and_eq_true, decide_eq_true_eq]
  constructor
  · rintro ⟨entry, hmem, hne, rfl⟩
    exact ⟨hne, entry, hmem, rfl⟩
  · rintro ⟨hne, entry, hmem, rfl⟩
    exact ⟨entry, hmem, hne, rfl⟩

variable {admin : Bool}

section

variable {c : PreparedCandidate} {phase : CutoverPhase} {phase' : WorkerPhase}

/-- A cutover moves its own worker alone. -/
theorem CutoverEdge.tasks (h : CutoverEdge tools limits w id c phase w1 phase') :
    SameTasks w w1 := by
  cases h <;> exact ⟨rfl, rfl, rfl, rfl, rfl⟩

theorem isStaged_removed (w : CutoverWorld) :
    isStaged { w with staged := w.staged.filter (·.1 ≠ id) } id = false := by
  rw [isStaged_remove, decide_eq_false (not_not.mpr rfl), Bool.false_and]

/-- It stages its own candidate alone. -/
theorem CutoverEdge.staged_others (h : CutoverEdge tools limits w id c phase w1 phase')
    {other : Uuid} (hoth : other ≠ id) : w1.isStaged other = w.isStaged other := by
  cases h with
  | insert => rw [isStaged_insert, decide_eq_false (Ne.symm hoth), Bool.false_or]
  | promote | discard => rw [isStaged_remove, decide_eq_true hoth, Bool.true_and]
  | _ => rfl

/-- A reading of the authorization leads on, to the next reading, or out. -/
theorem authorize_phase (w : CutoverWorld) (c : PreparedCandidate) (again ok : Bool)
    (read : AuthorizationRead) : w.authorize tools c again ok read = authorized again ∨
      w.authorize tools c again ok read = unauthorized again ∨
      ∃ read', w.authorize tools c again ok read = .authorizing again read' := by
  unfold authorize
  split
  · split
    · exact .inl rfl
    split
    · split
      · exact .inl rfl
      · exact .inr (.inl rfl)
    · split
      · exact .inr (.inr ⟨_, rfl⟩)
      · exact .inr (.inl rfl)
  · split
    · exact .inr (.inr ⟨_, rfl⟩)
    · exact .inr (.inl rfl)
  · split
    · exact .inl rfl
    · exact .inr (.inl rfl)

theorem isStaged_of_find {entry : Uuid × ConnectionBundle}
    (h : w.staged.find? (·.1 = id) = some entry) : w.isStaged id = true :=
  any_eq_true.mpr ⟨entry, List.mem_of_find?_eq_some h, by simpa using List.find?_some h⟩

/-- The worker has the lock or stands in line for it. -/
def Engaged (w : CutoverWorld) (id : Uuid) (phase : WorkerPhase) (lock : CutoverLock) : Prop :=
  phase.asks lock = true ∨ (lock = .writeLock ∧ w.isStaged id = true)

variable {lock : CutoverLock}

/-- Discarding takes no further lock. -/
theorem CutoverExit.afterDiscard_asks {exit : CutoverExit}
    (h : exit.afterDiscard.asks admin lock = true) :
    (CutoverPhase.discarding exit).asks admin lock = true := by
  cases exit <;> cases lock <;> exact h

/-- Nor does reading the authority. -/
theorem authorize_asks {again ok : Bool} {read : AuthorizationRead}
    (h : (w.authorize tools c again ok read).asks admin lock = true) :
    (CutoverPhase.authorizing again read).asks admin lock = true := by
  rcases authorize_phase w c again ok read with heq | heq | ⟨read', heq⟩
  · rw [heq] at h
    cases again <;> cases lock <;> exact h
  · rw [heq] at h
    cases again <;> cases lock <;> exact h
  · rw [heq] at h
    cases lock <;> exact h

section

variable (h : CutoverEdge tools limits w id c phase w1 phase')

include h

/-- A worker that goes on has nothing but what it had, or what it waited for. -/
theorem CutoverEdge.engaged (hask : Engaged w1 id phase' lock) (hwait : phase'.awaits ≠ some lock) :
    (Engaged w id (.cutover c phase) lock ∧ phase.awaits ≠ some lock) ∨
      (w.locks lock).Holds (.worker id) := by
  rcases hask with hask | ⟨rfl, hstg⟩
  · cases h with
    | authorize => exact .inl ⟨.inl (authorize_asks hask), nofun⟩
    | promote hent =>
      cases lock <;>
        simp_all [Engaged, WorkerPhase.asks, CutoverPhase.asks, CutoverPhase.awaits,
          isStaged_of_find hent]
    | nothingToDiscard => exact .inl ⟨.inl (CutoverExit.afterDiscard_asks hask), nofun⟩
    | discarded =>
      have hdiscarding := CutoverExit.afterDiscard_asks hask
      refine .inl ⟨.inl ?_, nofun⟩
      cases lock <;> first | exact hdiscarding | exact nomatch hdiscarding
    | _ =>
      cases lock <;>
        simp_all [Engaged, WorkerPhase.asks, WorkerPhase.awaits, CutoverPhase.asks,
          CutoverPhase.awaits, CutoverExit.locked]
  · cases h with
    | write hholds => exact .inr hholds
    | insert => exact .inl ⟨.inl rfl, nofun⟩
    | promote | discard => exact absurd hstg (by rw [isStaged_removed]; exact false_ne_true)
    | _ => exact .inl ⟨.inr ⟨rfl, hstg⟩, nofun⟩

/-- Only the insertion adds to the map. -/
theorem CutoverEdge.staged_sub : w1.staged.Sublist w.staged ∨
      (phase = .inserting ∧ w.isStaged id = false ∧ w1.staged = (id, c.bundle) :: w.staged) := by
  cases h with
  | insert hstg => exact .inr ⟨rfl, hstg, rfl⟩
  | promote | discard => exact .inl filter_sublist
  | _ => exact .inl (.refl _)

/-- A worker whose candidate is staged stays where it may be. -/
theorem CutoverEdge.mayBeStaged
    (hph : w.isStaged id = true → phase.mayBeStaged = true) (hstg : w1.isStaged id = true) :
    phase'.mayBeStaged = true := by
  cases h with
  | authorize again ok read =>
    rcases authorize_phase w c again ok read with heq | heq | ⟨read', heq⟩
    · rw [heq]
      cases again <;> rfl
    · rw [heq]
      rfl
    · rw [heq]
      rfl
  | promote | discard => exact absurd hstg (by rw [isStaged_removed]; exact false_ne_true)
  | nothingToDiscard _ hnot => exact absurd hstg (eq_false_iff.mp hnot)
  | discarded => exact nomatch hph hstg
  | _ => first | rfl | exact hph hstg

end

end

/-! ## What holds of the locks in every run -/

/-- The disconnect has emptied the map, and has the mutex and the gate. -/
def DisconnectPhase.drained : DisconnectPhase → Bool
  | .discarding .. | .stopping _ | .awaitingWriter _ | .clearing _ => true
  | _ => false

structure LockInvariant (w : CutoverWorld) : Prop where
  locked : Locked w
  /-- A staged candidate has its worker. -/
  staged : ∀ id, w.isStaged id = true → (w.workers id).any (·.mayBeStaged) = true
  single : w.staged.length ≤ 1
  drained : ∀ n phase, w.disconnects n = some phase → phase.drained = true → w.staged = []

/-- At the start no lock is asked for. -/
theorem lockInvariant_boot (devices : Uuid → Option DeviceAuthRow) (runtime : RuntimeConnection) :
    LockInvariant (.boot devices runtime) where
  locked :=
    { lines := fun task lock => by
        cases task <;> simp [boot, CutoverWorld.asks, isStaged, LockQueue.free]
      granted := fun task lock h => by
        cases task <;> simp [boot, CutoverWorld.asks, isStaged] at h }
  staged _ h := nomatch h
  single := Nat.zero_le _
  drained _ _ h := nomatch h

/-- Only the lines changed. -/
theorem LockInvariant.relock (hw : LockInvariant w) (hlock : Locked w')
    (hstg : w'.staged = w.staged) (hwks : w'.workers = w.workers)
    (hdisc : w'.disconnects = w.disconnects) : LockInvariant w' where
  locked := hlock
  staged id hid := hwks ▸ hw.staged id ((isStaged_congr hstg id).symm.trans hid)
  single := hstg ▸ hw.single
  drained n phase hn hphase := hstg ▸ hw.drained n phase (hdisc ▸ hn) hphase

/-- What does not touch the tasks leaves the locks alone. -/
theorem LockInvariant.frame (hw : LockInvariant w) (hsame : SameTasks w w1)
    (hstg : w1.staged = w.staged) : LockInvariant w1 := by
  have hph := hsame.phase hstg
  refine hw.relock ⟨?_, ?_⟩ hstg hsame.workers hsame.disconnects
  · intro t lock
    rw [hsame.locks, (hph t).asks]
    exact hw.locked.lines t lock
  · intro t lock
    rw [hsame.locks, (hph t).asks, (hph t).awaits]
    exact hw.locked.granted t lock

variable {phase' phase : WorkerPhase} {lock : CutoverLock} {n : Nat}

/-- A worker's step, given its locks and its staging. -/
theorem LockInvariant.setWorker (hw : LockInvariant w) (hsame : SameTasks w w1)
    (hoths : ∀ other, other ≠ id → w1.isStaged other = w.isStaged other)
    (hown : ∀ lock, Engaged w1 id phase' lock → phase'.awaits ≠ some lock →
      (w.locks lock).Holds (.worker id))
    (hstg : w1.isStaged id = true → phase'.mayBeStaged = true) (hsingle : w1.staged.length ≤ 1)
    (hdrained : ∀ n phase, w.disconnects n = some phase → phase.drained = true → w1.staged = []) :
    LockInvariant (w1.setWorker id phase') where
  locked := hw.locked.setWorker hsame hoths hown
  staged other hother := by
    show ((update w1.workers id (some phase')) other).any (·.mayBeStaged) = true
    by_cases hid : other = id
    · subst hid
      rw [update_self]
      exact hstg hother
    · rw [update_of_ne hid, hsame.workers]
      exact hw.staged other ((hoths other hid) ▸ hother)
  single := hsingle
  drained n phase hn := hdrained n phase (hsame.disconnects ▸ hn)

/-- The worker has every lock that its phase does not wait for. -/
theorem LockInvariant.engaged_holds (hw : LockInvariant w) (hph : w.workers id = some phase)
    (hask : Engaged w id phase lock) (hwait : phase.awaits ≠ some lock) :
    (w.locks lock).Holds (.worker id) := by
  apply hw.locked.granted
  · simpa [CutoverWorld.asks, hph, Engaged] using hask
  · simpa [CutoverWorld.awaits, hph] using hwait

/-- The phase neither has a staged candidate nor asks for a lock. -/
theorem LockInvariant.setFree (hw : LockInvariant w) (hsame : SameTasks w w1)
    (hmap : w1.staged = w.staged) (hfree : (w.workers id).any (·.mayBeStaged) = false)
    (hasks : ∀ lock, phase'.asks lock = false) : LockInvariant (w1.setWorker id phase') := by
  have hnot : w1.isStaged id = false := by
    rw [isStaged, hmap, eq_false_iff]
    intro hstg
    exact absurd (hw.staged id hstg) (by rw [hfree]; exact false_ne_true)
  apply hw.setWorker hsame
  · intro other _
    rw [isStaged, hmap]
    rfl
  · rintro lock (hask | ⟨_, hstg⟩) _
    · exact absurd hask (by rw [hasks]; exact false_ne_true)
    · exact absurd hstg (by rw [hnot]; exact false_ne_true)
  · intro hstg
    exact absurd hstg (by rw [hnot]; exact false_ne_true)
  · rw [hmap]
    exact hw.single
  · rw [hmap]
    exact hw.drained

/-- Who is staged does not ask for the write lock again. -/
theorem WorkerPhase.mayBeStaged_awaits (h : phase.mayBeStaged = true) :
    phase.awaits ≠ some .writeLock ∧ phase.asks .writeLock = false := by
  cases phase with
  | cutover c phase => cases phase <;> first | exact ⟨nofun, rfl⟩ | exact nomatch h
  | _ => exact nomatch h

/-- The worker of a staged candidate has the writer lock. -/
theorem LockInvariant.staged_holds (hw : LockInvariant w) (h : w.isStaged id = true) :
    (w.locks .writeLock).Holds (.worker id) := by
  have hmay := hw.staged id h
  cases hph : w.workers id with
  | none => rw [hph] at hmay; cases hmay
  | some =>
    rw [hph] at hmay
    exact hw.engaged_holds hph (.inr ⟨rfl, h⟩) (WorkerPhase.mayBeStaged_awaits hmay).1

variable {c : PreparedCandidate}

section

variable (hw : LockInvariant w)

include hw

/-- While a candidate is inserted, the map is empty and no disconnect has drained it. -/
theorem LockInvariant.inserting
    (hph : w.workers id = some (.cutover c .inserting)) (hnot : w.isStaged id = false) :
    w.staged = [] ∧ ∀ n phase, w.disconnects n = some phase → phase.drained = false := by
  constructor
  · rw [eq_nil_iff_forall_not_mem]
    intro entry hent
    have hstg : w.isStaged entry.1 = true := any_eq_true.mpr ⟨entry, hent, decide_eq_true rfl⟩
    have hwriter : (w.locks .writeLock).Holds (.worker id) := hw.engaged_holds hph (.inl rfl) nofun
    cases (hw.staged_holds hstg).unique hwriter
    exact absurd hstg (by rw [hnot]; exact false_ne_true)
  · intro n phase hn
    rw [eq_false_iff]
    intro hdrained
    have hgate : (w.locks .stagingGate).Holds (.worker id) := hw.engaged_holds hph (.inl rfl) nofun
    have hdisconnect : (w.locks .stagingGate).Holds (.disconnect n) := by
      apply hw.locked.granted
      · cases phase <;> simp_all [CutoverWorld.asks, DisconnectPhase.asks, DisconnectPhase.drained]
      · cases phase <;>
          simp_all [CutoverWorld.awaits, DisconnectPhase.awaits, DisconnectPhase.drained]
    cases hdisconnect.unique hgate

/-- **A cutover keeps the locks in order**. -/
theorem LockInvariant.cutover {phase : CutoverPhase} (hph : w.workers id = some (.cutover c phase))
    (h : CutoverEdge tools limits w id c phase w1 phase') :
    LockInvariant (w1.setWorker id phase') := by
  apply hw.setWorker h.tasks
  · exact fun other => h.staged_others
  · intro lock hask hwait
    rcases h.engaged hask hwait with ⟨hpre, hpre'⟩ | hholds
    · exact hw.engaged_holds hph hpre hpre'
    · exact hholds
  · intro hstg
    apply h.mayBeStaged _ hstg
    intro hpre
    have hmay := hw.staged id hpre
    rw [hph] at hmay
    exact hmay
  · rcases h.staged_sub with hsub | ⟨rfl, hnot, hmap⟩
    · exact hsub.length_le.trans hw.single
    · rw [hmap, (hw.inserting hph hnot).1]
      exact Nat.le_refl 1
  · intro n d hn hd
    rcases h.staged_sub with hsub | ⟨rfl, hnot, _⟩
    · rw [hw.drained n d hn hd] at hsub
      exact sublist_nil.mp hsub
    · exact absurd hd (by rw [(hw.inserting hph hnot).2 n d hn]; exact false_ne_true)

/-- A disconnect's step, given its locks. -/
theorem LockInvariant.setDisconnect {phase' : Option DisconnectPhase}
    (hsame : SameTasks w w1) (hstg : w1.staged = w.staged)
    (hown : ∀ lock, phase'.any (·.asks lock) = true → phase'.bind (·.awaits) ≠ some lock →
      (w.locks lock).Holds (.disconnect n))
    (hdrained : ∀ phase, phase' = some phase → phase.drained = true → w.staged = []) :
    LockInvariant (w1.setDisconnect n phase') where
  locked := hw.locked.setDisconnect hsame hstg hown
  staged id hid := hsame.workers ▸ hw.staged id ((isStaged_congr hstg id).symm.trans hid)
  single := hstg ▸ hw.single
  drained m phase hm hphase := by
    show w1.staged = []
    rw [hstg]
    rcases update_eq_some hm with ⟨_, hm⟩ | ⟨_, hm⟩
    · exact hdrained phase hm hphase
    · exact hw.drained m phase (hsame.disconnects ▸ hm) hphase

/-- The disconnect has every lock that its phase does not wait for. -/
theorem LockInvariant.disconnect_holds {phase : DisconnectPhase}
    (hph : w.disconnects n = some phase) (hask : phase.asks lock = true)
    (hwait : phase.awaits ≠ some lock) : (w.locks lock).Holds (.disconnect n) := by
  apply hw.locked.granted
  · simpa [CutoverWorld.asks, hph] using hask
  · simpa [CutoverWorld.awaits, hph] using hwait

end

/-- A disconnect that has taken the secret of the login from the map, with its lock. -/
def CutoverWorld.taken (w : CutoverWorld) (id : Uuid) (n : Nat) : CutoverWorld :=
  { w with
    staged := []
    disconnects := update w.disconnects n (some (.discarding 1 false))
    locks := update w.locks .writeLock
      ((w.locks .writeLock).pass (.worker id) (.disconnect n)) }

/-- Taking a staged candidate makes nobody wait. -/
theorem taken_awaits (hph : w.disconnects n = some .draining) (t : CutoverTask) :
    (w.taken id n).awaits t = w.awaits t := by
  cases t with
  | disconnect m =>
    by_cases heq : m = n
    · subst heq
      simp [CutoverWorld.awaits, CutoverWorld.taken, hph, DisconnectPhase.awaits]
    · simp [CutoverWorld.awaits, CutoverWorld.taken, update_of_ne heq]
  | _ => rfl

variable {bundle : ConnectionBundle}

section

variable (hw : LockInvariant w) (hph : w.disconnects n = some .draining)

include hw hph

/-- The writer lock goes from the worker to the disconnect, and nothing else changes. -/
theorem LockInvariant.taken_asks
    (hmap : w.staged = [(id, bundle)]) (t : CutoverTask) (lock : CutoverLock) :
    (w.taken id n).asks t lock = true ↔
      (lock = .writeLock ∧ t = .disconnect n) ∨
        (w.asks t lock = true ∧ ¬ (lock = .writeLock ∧ t = .worker id)) := by
  cases t with
  | worker other =>
    have hstg : w.isStaged other = decide (id = other) := by simp [isStaged, hmap]
    have hgone : (w.taken id n).isStaged other = false := rfl
    have hwks : (w.taken id n).workers = w.workers := rfl
    rw [CutoverWorld.asks, CutoverWorld.asks, hgone, hwks, hstg]
    by_cases hoth : id = other
    · subst hoth
      cases hwork : w.workers id with
      | none => simp
      | some =>
        have hmay := hw.staged id (by rw [hstg]; exact decide_eq_true rfl)
        rw [hwork] at hmay
        have hasks := (WorkerPhase.mayBeStaged_awaits hmay).2
        by_cases hlock : lock = .writeLock
        · subst hlock
          simp [hasks]
        · simp [hlock]
    · simp [hoth, Ne.symm hoth]
  | disconnect m =>
    by_cases heq : m = n
    · subst heq
      cases lock <;>
        simp [CutoverWorld.asks, CutoverWorld.taken, hph, DisconnectPhase.asks]
    · simp [CutoverWorld.asks, CutoverWorld.taken, heq]
  | save | admin => simp [CutoverWorld.asks, CutoverWorld.taken]

/-- The write lock of a staged candidate goes to the disconnect. -/
theorem LockInvariant.taken (hmap : w.staged = [(id, bundle)]) : Locked (w.taken id n) := by
  have hholds : (w.locks .writeLock).Holds (.worker id) :=
    hw.staged_holds (by simp [isStaged, hmap])
  have hnew : CutoverTask.disconnect n ∉ (w.locks .writeLock).line := by
    rw [hw.locked.lines]
    simp [CutoverWorld.asks, hph, DisconnectPhase.asks]
  constructor
  · intro t lock
    rw [hw.taken_asks hph hmap, ← hw.locked.lines]
    by_cases hlock : lock = .writeLock
    · subst hlock
      simp [CutoverWorld.taken, LockQueue.mem_pass hholds hnew]
    · simp [CutoverWorld.taken, hlock]
  · intro t lock hask hwait
    rw [taken_awaits hph] at hwait
    rcases (hw.taken_asks hph hmap t lock).mp hask with ⟨rfl, rfl⟩ | ⟨hpre, hnot⟩
    · simp only [CutoverWorld.taken]
      exact LockQueue.holds_pass hholds hnew
    have hheld := hw.locked.granted t lock hpre hwait
    by_cases hlock : lock = .writeLock
    · subst hlock
      exact absurd ⟨rfl, hheld.unique hholds⟩ hnot
    · simp only [CutoverWorld.taken, update_of_ne hlock]
      exact hheld

/-- Draining leaves nobody staged. -/
theorem LockInvariant.drain :
    LockInvariant ((w.drainStaged n).setDisconnect n (some (if w.staged.isEmpty then .stopping false
        else .discarding w.staged.length false))) := by
  match hmap : w.staged with
  | [] =>
    have hlocks : (w.drainStaged n).locks = w.locks := by
      rw [CutoverWorld.drainStaged, hmap]
      exact update_eq_self _ _
    apply hw.setDisconnect ⟨hlocks, rfl, rfl, rfl, rfl⟩ hmap.symm
    · intro lock hask _
      apply hw.disconnect_holds hph _ nofun
      cases lock <;> exact hask
    · exact fun _ _ _ => hmap
  | [(id, bundle)] =>
    have hdrained : (w.drainStaged n).setDisconnect n (some (.discarding 1 false)) =
        (w.taken id n).settle (.disconnect n) := by
      rw [CutoverWorld.setDisconnect, CutoverWorld.drainStaged, hmap]
      rfl
    have hlock := hw.taken hph hmap
    refine ⟨?_, (fun _ hid => nomatch hid), Nat.zero_le _, fun _ _ _ _ => rfl⟩
    show Locked ((w.drainStaged n).setDisconnect n (some (.discarding 1 false)))
    rw [hdrained]
    apply hlock.settle rfl
    · intro t _
      cases t <;> first | exact ⟨rfl, rfl⟩ | rfl
    · exact hlock.granted _
  | first :: second :: rest =>
    have hsingle := hw.single
    rw [hmap, length_cons, length_cons] at hsingle
    omega

end

/-- A disconnect that goes on, other than by draining, has nothing but what it had, or
what it waited for. -/
theorem DisconnectEdge.asks {phase phase' : DisconnectPhase}
    (h : DisconnectEdge limits w n phase w1 phase') (hnot : phase ≠ .draining)
    (hask : phase'.asks lock = true) (hwait : phase'.awaits ≠ some lock) :
    (phase.asks lock = true ∧ phase.awaits ≠ some lock) ∨
      (w.locks lock).Holds (.disconnect n) := by
  cases h with
  | drain => exact absurd rfl hnot
  | _ => cases lock <;> simp_all [DisconnectPhase.asks, DisconnectPhase.awaits]

/-- **A disconnect keeps the locks in order**. -/
theorem LockInvariant.disconnecting {phase phase' : DisconnectPhase} (hw : LockInvariant w)
    (hph : w.disconnects n = some phase) (h : DisconnectEdge limits w n phase w1 phase') :
    LockInvariant (w1.setDisconnect n (some phase')) := by
  by_cases hnot : phase = .draining
  · subst hnot
    cases h
    exact hw.drain hph
  have hown : ∀ lock, phase'.asks lock = true → phase'.awaits ≠ some lock →
      (w.locks lock).Holds (.disconnect n) := by
    intro lock hask hwait
    rcases h.asks hnot hask hwait with ⟨hpre, hpre'⟩ | hholds
    · exact hw.disconnect_holds hph hpre hpre'
    · exact hholds
  have hdrained : ∀ next, some phase' = some next → next.drained = true → w.staged = [] := by
    rintro _ ⟨⟩ hnext
    apply hw.drained n phase hph
    cases h with
    | drain => exact absurd rfl hnot
    | _ => first | rfl | exact nomatch hnext
  cases h with
  | drain => exact absurd rfl hnot
  | _ => exact hw.setDisconnect ⟨rfl, rfl, rfl, rfl, rfl⟩ rfl hown hdrained

/-- So does a save. -/
theorem LockInvariant.saving {phase : SavePhase} {file' : Option ConnectionBundle}
    {phase' : Option SavePhase} (hw : LockInvariant w) (hph : w.saves n = some phase)
    (h : SaveEdge w n phase file' phase') :
    LockInvariant ({ w with file := file' }.setSave n phase') := by
  have hown : ∀ lock, phase'.any (·.asks lock) = true → phase'.bind (·.awaits) ≠ some lock →
      (w.locks lock).Holds (.save n) := by
    intro lock hask _
    cases h with
    | write bundle hholds => exact (SavePhase.asks_iff.mp hask) ▸ hholds
    | written =>
      apply hw.locked.granted
      · simpa [CutoverWorld.asks, hph] using hask
      · simp [CutoverWorld.awaits, hph, SavePhase.awaits]
    | notWritten => cases hask
    | renamed => cases hask
  exact hw.relock (hw.locked.setSave ⟨rfl, rfl, rfl, rfl, rfl⟩ rfl hown) rfl rfl rfl

/-- So does an administrator's call. -/
theorem LockInvariant.administering {phase : AdminPhase} {phase' : Option AdminPhase}
    (hw : LockInvariant w) (hph : w.admins n = some phase)
    (h : AdminEdge limits w n phase w1 phase') : LockInvariant (w1.setAdmin n phase') := by
  have hown : ∀ lock, phase'.any (·.asks lock) = true → phase'.bind (·.awaits) ≠ some lock →
      (w.locks lock).Holds (.admin n) := by
    intro lock hask _
    obtain ⟨next, hnext, hask⟩ := (Option.any_eq_true _ _).mp hask
    cases AdminPhase.asks_iff.mp hask
    by_cases hwait : phase.awaits = some .lifecycleFence
    · cases h with
      | fenced command hholds => exact hholds
      | _ => cases hwait
    · apply hw.locked.granted
      · simp [CutoverWorld.asks, hph]
      · simpa [CutoverWorld.awaits, hph] using hwait
  have hsame : SameTasks w w1 := by cases h <;> exact ⟨rfl, rfl, rfl, rfl, rfl⟩
  have hstg : w1.staged = w.staged := by cases h <;> rfl
  exact hw.relock (hw.locked.setAdmin hsame hstg hown) hstg hsame.workers hsame.disconnects

/-- A login that is under way asks for no lock. -/
theorem LoginEdge.asks (h : LoginEdge tools limits w id w1 phase') (lock : CutoverLock) :
    phase'.asks lock = false := by
  have hplain : ∀ phase : WorkerPhase, phase.isPlain = true → phase.asks lock = false := by
    intro phase hph
    cases phase with
    | cutover => cases hph
    | _ => rfl
  cases h with
  | quiet hph | call lop hop hcall hph => exact hplain _ hph
  | confirmed => rfl

theorem WorkerPhase.not_mayBeStaged (h : phase.isPlain = true) : phase.mayBeStaged = false := by
  cases phase with
  | cutover => cases h
  | _ => rfl

/-- The locks are in order after every step. -/
theorem ServiceMove.lockInvariant (h : ServiceMove tools limits w op w') (hw : LockInvariant w) :
    LockInvariant w' := by
  cases h with
  | start hop hsess hwork =>
    split
    · exact hw.setFree ⟨rfl, rfl, rfl, rfl, rfl⟩ rfl (by rw [hwork]; rfl) fun _ => rfl
    · exact hw.frame ⟨rfl, rfl, rfl, rfl, rfl⟩ rfl
  | owner | enable | command | shutdown => exact hw.frame ⟨rfl, rfl, rfl, rfl, rfl⟩ rfl
  | cutover hph hedge => exact hw.cutover hph hedge
  | @login id _ _ _ _ hph hplain hedge =>
    have hfree : (w.workers id).any (·.mayBeStaged) = false := by
      rw [hph]
      exact WorkerPhase.not_mayBeStaged hplain
    have hasks := hedge.asks
    cases hedge <;> exact hw.setFree ⟨rfl, rfl, rfl, rfl, rfl⟩ rfl hfree hasks
  | reap now hph => exact hw.setFree ⟨rfl, rfl, rfl, rfl, rfl⟩ rfl (by rw [hph]; rfl) fun _ => rfl
  | disconnect =>
    apply hw.setDisconnect ⟨rfl, rfl, rfl, rfl, rfl⟩ rfl
    · intro lock hask hwait
      cases lock with
      | cutover => exact absurd rfl hwait
      | _ => cases hask
    · rintro _ ⟨⟩ hph
      cases hph
  | disconnecting hph hedge => exact hw.disconnecting hph hedge
  | abandon =>
    exact hw.setDisconnect ⟨rfl, rfl, rfl, rfl, rfl⟩ rfl (fun _ hask => nomatch hask)
      (fun _ hph => nomatch hph)
  | save =>
    refine hw.relock (hw.locked.setSave (.refl w) rfl ?_) rfl rfl rfl
    intro lock hask hwait
    exact absurd (congrArg some (SavePhase.asks_iff.mp hask)).symm hwait
  | saving hph hedge => exact hw.saving hph hedge
  | cancelSave =>
    exact hw.relock (hw.locked.setSave (.refl w) rfl fun _ hask => nomatch hask) rfl rfl rfl
  | admin =>
    refine hw.relock (hw.locked.setAdmin (.refl w) rfl ?_) rfl rfl rfl
    intro lock hask hwait
    exact absurd (congrArg some (AdminPhase.asks_iff.mp hask)).symm hwait
  | administering hph hedge => exact hw.administering hph hedge

end PromptDock.Wechat
