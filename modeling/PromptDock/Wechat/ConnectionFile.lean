import PromptDock.LabelledRun
import PromptDock.Wechat.WechatMonitor

/-!
# The file of the connection

The connection is kept in one encrypted file (`secret_store/mod.rs`).  The worker of
the monitor saves the next bundle there before it publishes it (`monitor/poll.rs`), a
login promotes its candidate there, and a disconnect clears it (`login/service.rs`).
A save writes a temporary file under the write lock and then renames it.  A worker
that is cancelled drops its save at once, with the lock, while a rename that was
handed to the blocking pool is still carried out.  A disconnect whose caller is gone
is dropped as well; its worker was cancelled then, but nobody waits for its end.
-/

namespace PromptDock.Wechat

open LabelledRun Option Bool

/-- Where a worker is with the saving of the next bundle. -/
inductive FileSave where
  | idle
  /-- The write lock is to be taken. -/
  | awaiting (next : ConnectionBundle)
  /-- The temporary file is written. -/
  | staging (next : ConnectionBundle)
  /-- The rename was handed to the blocking pool. -/
  | handed (next : ConnectionBundle)
  /-- The directory is synced. -/
  | syncing (next : ConnectionBundle)
  /-- `save` has returned, and the bundle is to be published. -/
  | publishing (next : ConnectionBundle)
deriving DecidableEq

structure FileWorker where
  bundle : ConnectionBundle
  cancelled : Bool
  save : FileSave

/-- Who has the write lock. -/
inductive FileWriter where
  | worker (i : Nat)
  | clear

/-- An operation of the pool that nobody waits for any more. -/
inductive PoolOp where
  | rename (bundle : ConnectionBundle)
  | remove
deriving DecidableEq

/-- What is done under the cutover mutex. -/
inductive FileHolder where
  /-- A login, which may have promoted its candidate. -/
  | login (promoted : Option ConnectionBundle)
  /-- `disconnect`: in `stop_and_clear`, before the write lock, in `remove_file`. -/
  | stopping | clearing | removing
deriving DecidableEq

/-- The candidate that a login has promoted. -/
def FileHolder.candidate : FileHolder → Option ConnectionBundle
  | .login promoted => promoted
  | _ => none

def FileHolder.isLogin : FileHolder → Bool
  | .login _ => true
  | _ => false

/-- The holder is past `stop_and_clear`. -/
def FileHolder.isCleared : FileHolder → Bool
  | .clearing | .removing => true
  | _ => false

/-- What the sink has accepted, and the responses that the provider gave, each with the
bundle that it was asked for. -/
structure FileLog where
  accepted : List EphemeralInboundText
  delivered : List (ConnectionBundle × GetUpdatesResponse)

structure FileWorld where
  file : Option ConnectionBundle
  /-- The bundle that the monitor holds. -/
  monitor : Option ConnectionBundle
  /-- The bundle that the runtime holds. -/
  runtime : Option ConnectionBundle
  workers : Nat → Option FileWorker
  /-- So many workers were spawned. -/
  spawned : Nat
  /-- The worker of the lifecycle. -/
  owned : Option Nat
  /-- The worker whose end `stop_worker` awaits. -/
  joining : Option Nat
  writer : Option FileWriter
  holder : Option FileHolder
  pool : List PoolOp
  /-- A disconnect has returned success, and no candidate was promoted since. -/
  disconnected : Bool
  log : FileLog

inductive FileOp where
  /-- A worker takes in a response of the provider. -/
  | update (i : Nat) (response : GetUpdatesResponse) (accepts : EphemeralInboundText → Bool)
      (now : Timestamp)
  /-- The save of a worker goes on; what it awaits went well or not. -/
  | save (i : Nat) (ok : Bool)
  /-- A cancelled worker drops its save. -/
  | drop (i : Nat)
  | finish (i : Nat)
  /-- The pool carries out an operation that nobody waits for. -/
  | land (op : PoolOp) (ok : Bool)
  | login
  /-- `stop_worker` of a login. -/
  | take
  | promote (bundle : ConnectionBundle)
  /-- `start_promoted`, or `resume_active_after_failed_cutover`. -/
  | install
  | leave
  | disconnect
  | stopped
  | lock
  | removed (removed ok : Bool)
  | abandon | restart

/-- The event that `apply_response` hands to the sink. -/
def handedEvent (blake3 : Blake3) (now : Timestamp) (bundle : ConnectionBundle)
    (m : WeixinMessage) : Option EphemeralInboundText :=
  if m.fromUserId = some bundle.credentials.userId then inboundText blake3 now bundle m else none

/-- The events that the sink accepts, up to the first that it refuses. -/
def acceptedEvents (blake3 : Blake3) (now : Timestamp) (accepts : EphemeralInboundText → Bool)
    (bundle : ConnectionBundle) : List WeixinMessage → List EphemeralInboundText
  | [] => []
  | m :: ms =>
    match handedEvent blake3 now bundle m with
    | none => acceptedEvents blake3 now accepts bundle ms
    | some event =>
      if accepts event then event :: acceptedEvents blake3 now accepts bundle ms else []

namespace FileWorld

variable (w : FileWorld)

def setWorker (i : Nat) (worker : Option FileWorker) : FileWorld :=
  { w with workers := Function.update w.workers i worker }

def spawn (bundle : ConnectionBundle) : FileWorld :=
  { w.setWorker w.spawned (some ⟨bundle, false, .idle⟩) with
    owned := some w.spawned, joining := none, spawned := w.spawned + 1 }

/-- `stop_worker`: the worker is taken out of the lifecycle and cancelled. -/
def stopWorker : FileWorld :=
  { w with
    workers := fun i =>
      (w.workers i).map fun worker =>
        if w.owned = some i then { worker with cancelled := true } else worker
    owned := none
    joining := w.owned }

/-- `stop_worker` may return. -/
def joined : Bool := w.joining.all fun i => (w.workers i).isNone

/-- `replace_bundle` with the promoted candidate, or with what the monitor holds, or
else the runtime. -/
def install : FileWorld :=
  match (w.holder.bind FileHolder.candidate).or (w.monitor.or w.runtime) with
  | none => w
  | some bundle => { w with monitor := some bundle }.spawn bundle

/-- The process starts, with the connection that it finds. -/
def start : FileWorld :=
  let idle : FileWorld :=
    { w with
      monitor := w.file
      runtime := w.file
      workers := fun _ => none
      owned := none
      joining := none
      writer := none
      holder := none
      pool := [] }
  match w.file with
  | none => idle
  | some bundle => idle.spawn bundle

def boot (file : Option ConnectionBundle) : FileWorld :=
  start ⟨file, none, none, fun _ => none, 0, none, none, none, none, [], false, ⟨[], []⟩⟩

/-- `save`, one wait at a time, and the publishing after it. -/
def saveNext (i : Nat) (worker : FileWorker) (ok : Bool) : Option FileWorld :=
  let goes (save : FileSave) : FileWorld := w.setWorker i (some { worker with save := save })
  match worker.save with
  | .idle => none
  | .awaiting next =>
    if w.writer.isNone then some { goes (.staging next) with writer := some (.worker i) } else none
  | .staging next =>
    if ok then some (goes (.handed next)) else some { goes .idle with writer := none }
  | .handed next =>
    if ok then some { goes (.syncing next) with file := some next }
    else some { goes .idle with writer := none }
  | .syncing next => some { goes (if ok then .publishing next else .idle) with writer := none }
  | .publishing next =>
    some { w.setWorker i (some ⟨next, worker.cancelled, .idle⟩) with monitor := some next }

/-- A dropped save: the lock is free, and a rename in the pool is on its own. -/
def dropSave (i : Nat) (worker : FileWorker) : Option FileWorld :=
  let dropped : FileWorld := w.setWorker i (some { worker with save := .idle })
  match worker.save with
  | .awaiting _ => some dropped
  | .staging _ | .syncing _ => some { dropped with writer := none }
  | .handed next => some { dropped with writer := none, pool := .rename next :: w.pool }
  | .idle | .publishing _ => none

def next (blake3 : Blake3) : FileOp → Option FileWorld
  | .update i response accepts now =>
    match w.workers i with
    | some ⟨bundle, cancelled, .idle⟩ =>
      let handed : FileWorld :=
        { w with
          log.accepted := w.log.accepted ++
            acceptedEvents blake3 now accepts bundle (response.msgs.getD [])
          log.delivered := w.log.delivered ++ [(bundle, response)] }
      match collectUpdate blake3 now accepts bundle response with
      | none => some handed
      | some update =>
        if update.changed && update.next.validate.isOk && !cancelled then
          some (handed.setWorker i (some ⟨bundle, false, .awaiting update.next⟩))
        else some handed
    | _ => none
  | .save i ok => (w.workers i).bind fun worker => w.saveNext i worker ok
  | .drop i =>
    (w.workers i).bind fun worker => if worker.cancelled then w.dropSave i worker else none
  | .finish i =>
    (w.workers i).bind fun worker =>
      if worker.save = .idle then some (w.setWorker i none) else none
  | .land op ok =>
    if op ∈ w.pool then
      let rest : FileWorld := { w with pool := w.pool.erase op }
      match ok, op with
      | false, _ => some rest
      | true, .rename bundle => some { rest with file := some bundle }
      | true, .remove => some { rest with file := none }
    else none
  | .login => if w.holder = none then some { w with holder := some (.login none) } else none
  | .take => if w.holder.any (·.isLogin) && w.joined then some w.stopWorker else none
  | .promote bundle =>
    if w.holder = some (.login none) then
      some { w with
        file := some bundle, runtime := some bundle, holder := some (.login (some bundle)),
        disconnected := false }
    else none
  | .install =>
    if w.holder.any (·.isLogin) && w.joined && w.owned.isNone then some w.install else none
  | .leave =>
    if w.holder.any (·.isLogin) && w.joined then some { w with holder := none } else none
  | .disconnect =>
    if w.holder = none then some { w.stopWorker with holder := some .stopping } else none
  | .stopped =>
    if w.holder = some .stopping && w.joined then
      some { w with monitor := none, joining := none, holder := some .clearing }
    else none
  | .lock =>
    if w.holder = some .clearing && w.writer.isNone then
      some { w with writer := some .clear, holder := some .removing }
    else none
  | .removed removed ok =>
    if w.holder = some .removing then
      some { w with
        file := if removed then none else w.file
        runtime := none
        writer := none
        holder := none
        disconnected := w.disconnected || (removed && ok) }
    else none
  | .abandon =>
    if w.holder = some .removing then
      some { w with holder := none, writer := none, pool := .remove :: w.pool }
    else if w.holder.any (!·.isLogin) then some { w with holder := none, joining := none }
    else none
  | .restart => some w.start

end FileWorld

def FileStep (blake3 : Blake3) (w : FileWorld) (op : FileOp) (w' : FileWorld) : Prop :=
  w.next blake3 op = some w'

/-! ## After a disconnect -/

/-- A rename in the pool is not left by the save that awaits it, and a disconnect is not
abandoned while it waits for the worker to end. -/
def Orderly (w : FileWorld) : FileOp → Prop
  | .drop i => ∀ worker next, w.workers i = some worker → worker.save ≠ .handed next
  | .abandon => w.joined = true
  | _ => True

def OrderlyStep (blake3 : Blake3) (w : FileWorld) (op : FileOp) (w' : FileWorld) : Prop :=
  FileStep blake3 w op w' ∧ Orderly w op

/-- Somebody waits for every worker, and after a disconnect there is none. -/
structure FileInvariant (w : FileWorld) : Prop where
  known : ∀ i, w.workers i ≠ none → w.owned = some i ∨ w.joining = some i
  joined : w.holder.any (fun h => h.isLogin || h = .stopping) = false → w.joined = true
  stopped : w.holder.any (!·.isLogin) = true → w.owned = none
  cleared : w.holder.any (·.isCleared) = true → w.monitor = none
  pool : ∀ bundle, .rename bundle ∉ w.pool
  gone : w.disconnected = true → w.holder.bind FileHolder.candidate = none ∧ w.file = none ∧
    w.monitor = none ∧ w.runtime = none ∧ ∀ i, w.workers i = none

/-- A step of one worker. -/
structure WorkerMoves (i : Nat) (w w' : FileWorld) : Prop where
  others : ∀ j, j ≠ i → w'.workers j = w.workers j
  owned : w'.owned = w.owned
  joining : w'.joining = w.joining
  holder : w'.holder = w.holder
  pool : w'.pool = w.pool
  disconnected : w'.disconnected = w.disconnected

section

variable {w w' : FileWorld} {i : Nat} {worker : FileWorker} {ok : Bool}

/-- Nobody is waited for. -/
theorem joined_iff : w.joined = true ↔ ∀ i, w.joining = some i → w.workers i = none := by
  cases h : w.joining with
  | none | some => simp [FileWorld.joined, h]

theorem setWorker_moves (w : FileWorld) (i : Nat) (x : Option FileWorker) :
    WorkerMoves i w (w.setWorker i x) :=
  ⟨fun _ hj => Function.update_of_ne hj .., rfl, rfl, rfl, rfl, rfl⟩

/-- A save is a step of its worker. -/
theorem saveNext_moves (h : w.saveNext i worker ok = some w') : WorkerMoves i w w' := by
  have hset := setWorker_moves w i
  unfold FileWorld.saveNext at h
  split at h
  · cases h
  all_goals try split at h
  all_goals first
    | cases h; exact { hset _ with }
    | cases h

/-- So is a dropped save, unless its rename was handed over. -/
theorem dropSave_moves (h : w.dropSave i worker = some w')
    (hnot : ∀ next, worker.save ≠ .handed next) : WorkerMoves i w w' := by
  have hset := setWorker_moves w i
  unfold FileWorld.dropSave at h
  split at h
  case h_4 next hsave => exact absurd hsave (hnot next)
  all_goals first
    | cases h; exact { hset _ with }
    | cases h

/-- The end of a worker that was awaited. -/
theorem FileInvariant.owned_of_joined (hw : FileInvariant w) (hjoin : w.joined = true) {j : Nat}
    (hj : w.workers j ≠ none) : w.owned = some j :=
  (hw.known j hj).resolve_right fun h => hj (joined_iff.mp hjoin j h)

/-- While there is a worker, nothing is cleared. -/
theorem FileInvariant.not_cleared (hw : FileInvariant w) (hwork : w.workers i ≠ none) :
    w.holder.any (·.isCleared) = false ∧ w.disconnected = false := by
  constructor
  · rw [eq_false_iff]
    intro hclear
    have hhold : w.holder.any (fun h => h.isLogin || h = .stopping) = false ∧
        w.holder.any (!·.isLogin) = true := by
      cases hh : w.holder with
      | none =>
        rw [hh] at hclear
        cases hclear
      | some holder =>
        rw [hh] at hclear
        cases holder <;> first | exact ⟨rfl, rfl⟩ | cases hclear
    have howned := hw.owned_of_joined (hw.joined hhold.1) hwork
    rw [hw.stopped hhold.2] at howned
    cases howned
  · rw [eq_false_iff]
    intro hgone
    exact hwork ((hw.gone hgone).2.2.2.2 i)

/-- A worker's step keeps the invariant. -/
theorem FileInvariant.working (hw : FileInvariant w) (h : WorkerMoves i w w')
    (hwork : w.workers i = some worker) : FileInvariant w' := by
  have hin : w.workers i ≠ none := by
    rw [hwork]
    nofun
  obtain ⟨hclear, hgone⟩ := hw.not_cleared hin
  refine ⟨fun j hj => ?_, fun hhold => ?_, ?_, fun hclears => ?_, ?_, fun hdisconnected => ?_⟩
  · rw [h.owned, h.joining]
    by_cases hji : j = i
    · exact hji ▸ hw.known i hin
    · rw [h.others j hji] at hj
      exact hw.known j hj
  · rw [h.holder] at hhold
    rw [joined_iff, h.joining]
    intro j hj
    have hnone := joined_iff.mp (hw.joined hhold) j hj
    rw [h.others j (fun hji => hin (hji ▸ hnone)), hnone]
  · rw [h.holder, h.owned]
    exact hw.stopped
  · rw [h.holder, hclear] at hclears
    cases hclears
  · rw [h.pool]
    exact hw.pool
  · rw [h.disconnected, hgone] at hdisconnected
    cases hdisconnected

/-- A new worker is known. -/
theorem FileInvariant.spawn (hnone : ∀ i, w.workers i = none)
    (hhold : w.holder = none ∨ ∃ promoted, w.holder = some (.login promoted))
    (hpool : ∀ bun, .rename bun ∉ w.pool) (hin : w.disconnected = false)
    (bun : ConnectionBundle) : FileInvariant (w.spawn bun) := by
  have hlogin : ∀ p : FileHolder → Bool, (∀ promoted, p (.login promoted) = false) →
      w.holder.any p = false := by
    intro p hp
    rcases hhold with h | ⟨promoted, h⟩
    · rw [h]
      rfl
    · rw [h]
      exact hp promoted
  refine ⟨fun j hj => .inl ?_, fun _ => rfl, fun h => ?_, fun h => ?_, hpool, fun h => ?_⟩
  · by_cases heq : j = w.spawned
    · rw [heq]
      rfl
    · exact absurd ((Function.update_of_ne heq ..).trans (hnone j)) hj
  · cases (hlogin _ fun _ => rfl).symm.trans h
  · cases (hlogin _ fun _ => rfl).symm.trans h
  · cases hin.symm.trans h

/-- The process starts in order. -/
theorem start_invariant (w : FileWorld) (hgone : w.disconnected = true → w.file = none) :
    FileInvariant w.start := by
  cases hfile : w.file with
  | none =>
    simp only [FileWorld.start, hfile]
    exact ⟨fun _ => absurd rfl, fun _ => rfl, fun _ => rfl, fun _ => rfl,
      fun _ => List.not_mem_nil, fun _ => ⟨rfl, rfl, rfl, rfl, fun _ => rfl⟩⟩
  | some =>
    have hin : w.disconnected = false := by
      rw [eq_false_iff]
      intro h
      rw [hgone h] at hfile
      cases hfile
    simp only [FileWorld.start, hfile]
    apply FileInvariant.spawn
    · exact fun _ => rfl
    · exact .inl rfl
    · exact fun _ => List.not_mem_nil
    · exact hin

/-- `stop_worker` takes the only worker there is. -/
theorem FileInvariant.stopWorker (hw : FileInvariant w) (hjoin : w.joined = true)
    {holder : Option FileHolder} (hhold : holder = some .stopping ∨ holder = w.holder ∧
      w.holder.any (·.isLogin) = true) : FileInvariant { w.stopWorker with holder := holder } := by
  have hwks : ∀ j, w.workers j = none → w.stopWorker.workers j = none := by
    intro j hj
    show Option.map _ (w.workers j) = none
    rw [hj]
    rfl
  have hbusy : holder.any (fun h => h.isLogin || h = .stopping) = true ∧
      holder.any (·.isCleared) = false := by
    rcases hhold with rfl | ⟨rfl, hlogin⟩
    · exact ⟨rfl, rfl⟩
    obtain ⟨h, hh, hlogin⟩ := (any_eq_true ..).mp hlogin
    rw [hh]
    cases h <;> first | exact ⟨rfl, rfl⟩ | cases hlogin
  refine ⟨fun j hj => .inr (hw.owned_of_joined hjoin fun h => hj (hwks j h)), fun h => ?_,
    fun _ => rfl, fun h => ?_, hw.pool, fun hgone => ?_⟩
  · cases h.symm.trans hbusy.1
  · cases h.symm.trans hbusy.2
  obtain ⟨hcand, hfile, hmonitor, hruntime, hnone⟩ := hw.gone hgone
  refine ⟨?_, hfile, hmonitor, hruntime, fun j => hwks j (hnone j)⟩
  rcases hhold with rfl | ⟨rfl, _⟩
  · rfl
  · exact hcand

/-- A login that is over installs a worker where there is none.  After a disconnect
it finds no bundle to start one with. -/
theorem FileInvariant.install (hw : FileInvariant w) (hlogin : w.holder.any (·.isLogin) = true)
    (hjoin : w.joined = true) (howned : w.owned = none) : FileInvariant w.install := by
  unfold FileWorld.install
  split
  · exact hw
  rename_i bun hbun
  apply FileInvariant.spawn
  · intro j
    by_contra hj
    cases howned.symm.trans (hw.owned_of_joined hjoin hj)
  · obtain ⟨holder, hhold, hlogin⟩ := (any_eq_true ..).mp hlogin
    cases holder <;> first | exact .inr ⟨_, hhold⟩ | cases hlogin
  · exact hw.pool
  rw [eq_false_iff]
  intro hgone
  obtain ⟨hcand, _, hmonitor, hruntime, _⟩ := hw.gone hgone
  rw [hcand, hmonitor, hruntime] at hbun
  cases hbun

/-- Every orderly step keeps the invariant. -/
theorem FileInvariant.step {blake3 : Blake3} {op : FileOp} (hw : FileInvariant w)
    (h : OrderlyStep blake3 w op w') : FileInvariant w' := by
  obtain ⟨h, hop⟩ := h
  cases op with
  | update i resp accepts now =>
    simp only [FileStep, FileWorld.next] at h
    split at h
    · rename_i bun cancelled hwork
      have hsame : ∀ log (x : Option FileWorker),
          WorkerMoves i w ({ w with log := log }.setWorker i x) :=
        fun _ x => { setWorker_moves w i x with }
      have hkeeps : ∀ log, FileInvariant { w with log := log } :=
        fun _ => { hw with }
      split at h
      · cases h
        exact hkeeps _
      split at h
      · cases h
        exact hw.working (hsame _ _) hwork
      · cases h
        exact hkeeps _
    · cases h
  | save =>
    obtain ⟨worker, hwork, hsave⟩ := bind_eq_some_iff.mp h
    exact hw.working (saveNext_moves hsave) hwork
  | drop =>
    obtain ⟨worker, hwork, hdrop⟩ := bind_eq_some_iff.mp h
    split at hdrop
    · exact hw.working (dropSave_moves hdrop fun next => hop worker next hwork) hwork
    · cases hdrop
  | finish i =>
    obtain ⟨worker, hwork, hfin⟩ := bind_eq_some_iff.mp h
    obtain ⟨_, rfl⟩ := of_guard hfin
    exact hw.working (setWorker_moves w i none) hwork
  | land op ok =>
    simp only [FileStep, FileWorld.next] at h
    split at h
    · have hpool : ∀ bun, PoolOp.rename bun ∉ w.pool.erase op :=
        fun bun hmem => hw.pool bun (List.mem_of_mem_erase hmem)
      split at h
      · cases h
        exact { hw with pool := hpool }
      · rename_i bun hmem
        exact absurd hmem (hw.pool bun)
      cases h
      refine { hw with pool := hpool, gone := fun hgone => ?_ }
      obtain ⟨hcand, _, hrest⟩ := hw.gone hgone
      exact ⟨hcand, rfl, hrest⟩
    · cases h
  | login =>
    obtain ⟨hhold, rfl⟩ := of_guard h
    exact ⟨hw.known, nofun, nofun, nofun, hw.pool, fun hgone => ⟨rfl, (hw.gone hgone).2⟩⟩
  | take =>
    obtain ⟨hready, rfl⟩ := of_guard h
    obtain ⟨hlogin, hjoin⟩ := and_eq_true_iff.mp hready
    exact hw.stopWorker hjoin (.inr ⟨rfl, hlogin⟩)
  | promote =>
    obtain ⟨hhold, rfl⟩ := of_guard h
    exact ⟨hw.known, nofun, nofun, nofun, hw.pool, nofun⟩
  | install =>
    obtain ⟨hready, rfl⟩ := of_guard h
    simp only [and_eq_true, isNone_iff_eq_none] at hready
    exact hw.install hready.1.1 hready.1.2 hready.2
  | leave =>
    obtain ⟨hready, rfl⟩ := of_guard h
    exact ⟨hw.known, fun _ => (and_eq_true_iff.mp hready).2, nofun, nofun, hw.pool,
      fun hgone => ⟨rfl, (hw.gone hgone).2⟩⟩
  | disconnect =>
    obtain ⟨hhold, rfl⟩ := of_guard h
    exact hw.stopWorker (hw.joined (by rw [hhold]; rfl)) (.inl rfl)
  | stopped =>
    obtain ⟨hready, rfl⟩ := of_guard h
    rw [and_eq_true, decide_eq_true_eq] at hready
    have howned := hw.stopped (by rw [hready.1]; rfl)
    refine ⟨fun j hj => .inl (hw.owned_of_joined hready.2 hj), fun _ => rfl, fun _ => howned,
      fun _ => rfl, hw.pool, fun hgone => ?_⟩
    obtain ⟨_, hfile, _, hruntime, hnone⟩ := hw.gone hgone
    exact ⟨rfl, hfile, rfl, hruntime, hnone⟩
  | lock =>
    obtain ⟨hready, rfl⟩ := of_guard h
    rw [and_eq_true, decide_eq_true_eq] at hready
    exact ⟨hw.known, fun _ => hw.joined (by rw [hready.1]; rfl),
      fun _ => hw.stopped (by rw [hready.1]; rfl), fun _ => hw.cleared (by rw [hready.1]; rfl),
      hw.pool, fun hgone => ⟨rfl, (hw.gone hgone).2⟩⟩
  | removed removed =>
    obtain ⟨hhold, rfl⟩ := of_guard h
    refine ⟨hw.known, fun _ => hw.joined (by rw [hhold]; rfl), nofun, nofun, hw.pool,
      fun hgone => ⟨rfl, ?_, hw.cleared (by rw [hhold]; rfl), rfl, fun j => ?_⟩⟩
    · -- either this disconnect removed the file, or it was gone before
      cases removed with
      | true => rfl
      | false =>
        rw [Bool.false_and, Bool.or_false] at hgone
        exact (hw.gone hgone).2.1
    · by_contra hj
      have hclear := (hw.not_cleared hj).1
      rw [hhold] at hclear
      cases hclear
  | abandon =>
    have hjoin : w.joined = true := hop
    simp only [FileStep, FileWorld.next] at h
    split at h
    · cases h
      refine ⟨hw.known, fun _ => hjoin, nofun, nofun, fun bun hmem => ?_,
        fun hgone => ⟨rfl, (hw.gone hgone).2⟩⟩
      exact hw.pool bun ((List.mem_cons.mp hmem).resolve_left nofun)
    · obtain ⟨_, rfl⟩ := of_guard h
      exact ⟨fun j hj => .inl (hw.owned_of_joined hjoin hj), fun _ => rfl, nofun, nofun,
        hw.pool, fun hgone => ⟨rfl, (hw.gone hgone).2⟩⟩
  | restart =>
    cases h
    exact start_invariant w fun hgone => (hw.gone hgone).2.1

end

/-- As long as saves and disconnects are not left alone, nothing of a connection is
there after a disconnect, until the next candidate is promoted. -/
theorem disconnect_leaves_nothing {blake3 : Blake3} {file : Option ConnectionBundle}
    {ops : List FileOp} {w : FileWorld}
    (h : Run (OrderlyStep blake3) (.boot file) ops w) (hw : w.disconnected = true) :
    w.file = none ∧ w.monitor = none ∧ w.runtime = none := by
  have hinvariant := h.invariant (I := FileInvariant) (fun _ _ _ hstep hi => hi.step hstep)
    (start_invariant _ nofun)
  obtain ⟨_, hfile, hmonitor, hruntime, _⟩ := hinvariant.gone hw
  exact ⟨hfile, hmonitor, hruntime⟩

/-- A connection that was never activated. -/
def sampleConnection : ConnectionBundle :=
  ⟨1, ⟨1, "token", "account", "user", "https://weixin", 0⟩, .default⟩

/-- The next bundle of the worker, after a response that only moves the cursor. -/
def movedConnection : ConnectionBundle :=
  { sampleConnection with session := { sampleConnection.session with getUpdatesBuf := "next" } }

/-- The worker hands the rename of its next bundle to the pool; a disconnect cancels it,
waits for its end, clears the file and returns; then the rename is carried out. -/
def renameAfterClear : List FileOp :=
  [.update 0 ⟨none, none, some "next"⟩ (fun _ => true) 0, .save 0 true, .save 0 true, .disconnect,
    .drop 0, .finish 0, .stopped, .lock, .removed true true, .land (.rename movedConnection) true]

/-- The file is there again after the disconnect has returned. -/
theorem file_back_after_disconnect :
    ∃ w, Run (FileStep .zero) (.boot (some sampleConnection)) renameAfterClear w ∧
      w.disconnected = true ∧ w.file = some movedConnection :=
  exists_run (by decide +kernel)

/-- The disconnect comes while the temporary file is written. -/
def dropBeforeClear : List FileOp :=
  [.update 0 ⟨none, none, some "next"⟩ (fun _ => true) 0, .save 0 true, .disconnect, .drop 0,
    .finish 0, .stopped, .lock, .removed true true]

/-- A save that is dropped before the file is cleared. -/
theorem disconnect_leaves_nothing_sample :
    ∃ w, Run (OrderlyStep .zero) (.boot (some sampleConnection)) dropBeforeClear w ∧
      w.disconnected = true ∧ w.file = none ∧ w.monitor = none ∧ w.runtime = none := by
  have hdrop : ∀ next, FileSave.staging movedConnection ≠ .handed next := nofun
  have hrun : Run (OrderlyStep .zero) (.boot (some sampleConnection)) dropBeforeClear _ :=
    .cons ⟨rfl, trivial⟩ (.cons ⟨rfl, trivial⟩ (.cons ⟨rfl, trivial⟩
      (.cons ⟨rfl, fun _ next h => some.inj h ▸ hdrop next⟩ (.cons ⟨rfl, trivial⟩
        (.cons ⟨rfl, trivial⟩ (.cons ⟨rfl, trivial⟩ (.cons ⟨rfl, trivial⟩ (.nil _))))))))
  exact ⟨_, hrun, rfl, disconnect_leaves_nothing hrun rfl⟩

end PromptDock.Wechat
