import Mathlib.Order.Defs.Unbundled

/-!
# Actions on a transactional store

An action reads and rewrites a store and returns a value or fails.  What it
wrote before it failed stays written, unless the action ran inside a
`transaction`.

A statement is carried out by an `Engine`.  The engine may refuse any
statement, and it never stores a state that breaks the schema.  A refused
statement leaves the store as it was and fails with `Failure.statement`; a
failure that the program itself reports is `Failure.rejected`.  Keeping the
two apart lets a theorem say that every statement succeeded.

`Action.Keeps R` says that an action only ever takes the store along `R`.  It
is closed under sequencing and under transactions, so that a relation is
checked on single statements and holds of whole programs.
-/

namespace StoreAction

variable {σ ε ε' α β : Type}

/-- Why an action stopped: the engine refused a statement, or the program
reported an error. -/
inductive Failure (ε : Type) where
  | statement
  | rejected (error : ε)
deriving DecidableEq

/-- The error value a program returns when it reports a refused statement as
`database`. -/
def Failure.code (database : ε) : Failure ε → ε
  | .statement => database
  | .rejected e => e

/-- A program that runs on a store. -/
def Action (σ ε α : Type) : Type :=
  σ → Except (Failure ε) α × σ

namespace Action

protected def pure (a : α) : Action σ ε α :=
  fun s => (.ok a, s)

protected def bind (m : Action σ ε α) (f : α → Action σ ε β) : Action σ ε β :=
  fun s =>
    match m s with
    | (.ok a, s') => f a s'
    | (.error e, s') => (.error e, s')

instance : Monad (Action σ ε) where
  pure := Action.pure
  bind := Action.bind

/-- The store as it is now. -/
def read : Action σ ε σ :=
  fun s => (.ok s, s)

/-- Stop with an error of the program. -/
def reject (e : ε) : Action σ ε α :=
  fun s => (.error (.rejected e), s)

/-- Turn the failure of an action into a value. -/
def attempt (m : Action σ ε α) : Action σ ε' (Except (Failure ε) α) :=
  fun s =>
    match m s with
    | (r, s') => (.ok r, s')

/-- Report the program's errors as `e`. -/
def orReject (e : ε') (m : Action σ ε α) : Action σ ε' α :=
  fun s =>
    match m s with
    | (.ok a, s') => (.ok a, s')
    | (.error .statement, s') => (.error .statement, s')
    | (.error (.rejected _), s') => (.error (.rejected e), s')

/-- Run an action only where a condition holds. -/
def onlyIf (condition : Bool) (m : Action σ ε Unit) : Action σ ε Unit :=
  if condition then m else Pure.pure ()

end Action

/-! ## Statements and transactions -/

/-- What carries out statements.  It may refuse any of them, and it stores only
states that satisfy the schema. -/
structure Engine {σ : Type} (schema : σ → Bool) where
  accepts : σ → Bool
  sound : ∀ s, accepts s = true → schema s = true

/-- The engine that refuses a statement only when its result breaks the
schema. -/
def Engine.faultless (schema : σ → Bool) : Engine schema where
  accepts := schema
  sound := fun _ h => h

/-- How a transaction that did not fail ends. -/
inductive Finish (α : Type) where
  | commit (value : α)
  | rollback (value : α)
deriving Repr

namespace Action

variable {schema : σ → Bool}

/-- Carry out one statement. -/
def execute (engine : Engine schema) (statement : σ → σ) : Action σ ε Unit :=
  fun s =>
    if engine.accepts (statement s) then (.ok (), statement s)
    else (.error .statement, s)

/-- Run an action so that its writes are kept only if it commits. -/
def transaction (m : Action σ ε (Finish α)) : Action σ ε α :=
  fun s =>
    match m s with
    | (.ok (.commit a), s') => (.ok a, s')
    | (.ok (.rollback a), _) => (.ok a, s)
    | (.error e, _) => (.error e, s)

/-- Run an action so that its writes are kept only if it succeeds. -/
def allOrNothing (m : Action σ ε α) : Action σ ε α :=
  fun s =>
    match m s with
    | (.ok a, s') => (.ok a, s')
    | (.error e, _) => (.error e, s)

/-- What a transaction that did not fail leaves behind, from the store before
it and the store after its body. -/
def finishOutcome (s s' : σ) : Finish α → Except (Failure ε) α × σ
  | .commit a => (.ok a, s')
  | .rollback a => (.ok a, s)

/-! ## Equations -/

@[simp] theorem pure_run (a : α) (s : σ) : (pure a : Action σ ε α) s = (.ok a, s) := rfl

@[simp] theorem read_run (s : σ) : (read : Action σ ε σ) s = (.ok s, s) := rfl

@[simp] theorem reject_run (e : ε) (s : σ) :
    (reject e : Action σ ε α) s = (.error (.rejected e), s) := rfl

theorem bind_run (m : Action σ ε α) (f : α → Action σ ε β) (s : σ) : (m >>= f) s =
      match m s with
      | (.ok a, s') => f a s'
      | (.error e, s') => (.error e, s') := rfl

@[simp] theorem read_bind_run (f : σ → Action σ ε β) (s : σ) : (read >>= f) s = f s s := rfl

@[simp] theorem pure_bind_run (a : α) (f : α → Action σ ε β) (s : σ) :
    (pure a >>= f) s = f a s := rfl

@[simp] theorem reject_bind_run (e : ε) (f : α → Action σ ε β) (s : σ) :
    ((reject e : Action σ ε α) >>= f) s = (.error (.rejected e), s) := rfl

variable {m : Action σ ε α} {f : α → Action σ ε β} {s s' : σ} {a : α} {e : Failure ε}
  {engine : Engine schema} {statement : σ → σ}

/-- The second action runs where the first left the store. -/
theorem bind_run_of_ok (h : m s = (.ok a, s')) : (m >>= f) s = f a s' := by
  rw [bind_run, h]

/-- A sequence succeeds exactly when both parts do. -/
theorem bind_eq_ok {b : β} :
    (m >>= f) s = (.ok b, s') ↔ ∃ a s1, m s = (.ok a, s1) ∧ f a s1 = (.ok b, s') := by
  rw [bind_run]
  rcases m s with ⟨_ | a, s1⟩ <;> simp [and_assoc]

/-- A sequence fails in its first part or in its second. -/
theorem bind_eq_error : (m >>= f) s = (.error e, s') ↔
      m s = (.error e, s') ∨ ∃ a s1, m s = (.ok a, s1) ∧ f a s1 = (.error e, s') := by
  rw [bind_run]
  rcases m s with ⟨_ | a, s1⟩ <;> simp [and_assoc]

/-- An action whose outcome is then read off. -/
theorem bind_pure_eq_ok {f : α → β} {b : β} :
    (m >>= fun a => Pure.pure (f a)) s = (.ok b, s') ↔ ∃ a, m s = (.ok a, s') ∧ b = f a := by
  rw [bind_eq_ok]
  constructor
  · rintro ⟨a, s1, hm, hpure⟩
    cases hpure
    exact ⟨a, hm, rfl⟩
  · rintro ⟨a, hm, rfl⟩
    exact ⟨a, s', hm, rfl⟩

/-- A pure ending does not fail. -/
theorem bind_pure_eq_error {f : α → β} :
    (m >>= fun a => Pure.pure (f a)) s = (.error e, s') ↔ m s = (.error e, s') := by
  rw [bind_run]
  rcases m s with ⟨_ | a, s1⟩ <;> simp

/-- Renaming errors does not change a success. -/
theorem orReject_eq_ok {e : ε'} : orReject e m s = (.ok a, s') ↔ m s = (.ok a, s') := by
  unfold orReject
  rcases m s with ⟨(_ | _) | _, _⟩ <;> simp

/-- What follows a check that must succeed. -/
theorem bind_unless_eq_ok {m : Action σ ε Bool} {e : ε} {k : Action σ ε α} :
    (m >>= fun applied => if !applied then reject e else k) s = (.ok a, s') ↔
      ∃ s1, m s = (.ok true, s1) ∧ k s1 = (.ok a, s') := by
  rw [bind_eq_ok]
  constructor
  · rintro ⟨applied, s1, hm, hk⟩
    cases applied with
    | false => simp at hk
    | true => exact ⟨s1, hm, hk⟩
  · rintro ⟨s1, hm, hk⟩
    exact ⟨true, s1, hm, hk⟩

/-- A statement succeeds where the engine accepts the result. -/
theorem execute_eq_ok {u : Unit} : (execute engine statement : Action σ ε Unit) s = (.ok u, s') ↔
      engine.accepts (statement s) = true ∧ s' = statement s := by
  by_cases h : engine.accepts (statement s) = true <;> simp [execute, h, eq_comm]

theorem execute_pure_eq_ok {value b : β} :
    (execute engine statement >>= fun _ => Pure.pure value : Action σ ε β) s = (.ok b, s') ↔
      engine.accepts (statement s) = true ∧ b = value ∧ s' = statement s := by
  simp only [bind_pure_eq_ok, execute_eq_ok, exists_const]
  rw [and_right_comm, and_assoc]

theorem execute_run_of_accepts (h : engine.accepts (statement s) = true) :
    (execute engine statement : Action σ ε Unit) s = (.ok (), statement s) := by
  simp [execute, h]

/-- A refused statement changes nothing. -/
theorem execute_eq_error : (execute engine statement : Action σ ε Unit) s = (.error e, s') ↔
      engine.accepts (statement s) = false ∧ e = .statement ∧ s' = s := by
  by_cases h : engine.accepts (statement s) = true <;> simp [execute, h, eq_comm]

/-- A transaction that succeeds was committed or rolled back. -/
theorem transaction_eq_ok {m : Action σ ε (Finish α)} : transaction m s = (.ok a, s') ↔
      m s = (.ok (.commit a), s') ∨ s' = s ∧ ∃ s1, m s = (.ok (.rollback a), s1) := by
  rcases hm : m s with ⟨_ | _ | _, s1⟩ <;> simp [transaction, hm, eq_comm, and_comm]

/-- A failed transaction changes nothing. -/
theorem transaction_eq_error {m : Action σ ε (Finish α)} :
    transaction m s = (.error e, s') ↔ s' = s ∧ ∃ s1, m s = (.error e, s1) := by
  rcases hm : m s with ⟨_ | _ | _, s1⟩ <;> simp [transaction, hm, eq_comm, and_comm]

/-- Whatever a transaction returns, it leaves the store as it was or as its
body committed it. -/
theorem transaction_state (m : Action σ ε (Finish α)) (s : σ) :
    (transaction m s).2 = s ∨ ∃ a, m s = (.ok (.commit a), (transaction m s).2) := by
  rcases hm : m s with ⟨_ | _ | _, s1⟩ <;> simp [transaction, hm]

/-- A transaction fails and changes nothing, or its body ran to its end. -/
theorem transaction_rule {P : Except (Failure ε) α × σ → Prop} {m : Action σ ε (Finish α)}
    (herror : ∀ e, P (.error e, s))
    (hok : ∀ finish s', m s = (.ok finish, s') → P (finishOutcome s s' finish)) :
    P (transaction m s) := by
  rcases hm : m s with ⟨e | a | a, s1⟩
  · simpa [transaction, hm] using herror e
  · simpa [transaction, hm, finishOutcome] using hok _ _ hm
  · simpa [transaction, hm, finishOutcome] using hok _ _ hm

/-- A transaction that did not fail ran its body to its end. -/
theorem transaction_ends {m : Action σ ε (Finish α)} (h : transaction m s = (.ok a, s')) :
    ∃ finish s1, m s = (.ok finish, s1) ∧
      (finishOutcome s s1 finish : Except (Failure ε) α × σ) = (.ok a, s') := by
  rcases hm : m s with ⟨e | finish, s1⟩
  · simp [transaction, hm] at h
  · refine ⟨finish, s1, rfl, ?_⟩
    cases finish <;> simpa [transaction, hm, finishOutcome] using h

/-- A transaction around an action that commits whatever it returns. -/
theorem transaction_commit (m : Action σ ε α) :
    transaction (m >>= fun a => Pure.pure (.commit a)) = allOrNothing m := by
  funext s
  unfold transaction allOrNothing
  rw [bind_run]
  rcases m s with ⟨e | a, s'⟩ <;> rfl

theorem allOrNothing_of_ok (h : m s = (.ok a, s')) : allOrNothing m s = (.ok a, s') := by
  simp [allOrNothing, h]

theorem allOrNothing_state_of_ok (h : m s = (.ok a, s')) : (allOrNothing m s).2 = s' := by
  rw [allOrNothing_of_ok h]

/-- A failure leaves the store as it was. -/
theorem allOrNothing_of_error (h : m s = (.error e, s')) : allOrNothing m s = (.error e, s) := by
  simp [allOrNothing, h]

/-- A success is the action's own. -/
theorem allOrNothing_eq_ok : allOrNothing m s = (.ok a, s') ↔ m s = (.ok a, s') := by
  rcases hm : m s with ⟨_ | _, s1⟩ <;> simp [allOrNothing, hm]

/-- A transaction leaves the store as it was, or succeeds. -/
theorem allOrNothing_cases (m : Action σ ε α) (s : σ) :
    (allOrNothing m s).2 = s ∨ ∃ a, allOrNothing m s = (.ok a, (allOrNothing m s).2) := by
  rcases hm : m s with ⟨_ | a, s1⟩ <;> simp [allOrNothing, hm]

/-- The end of a transaction that commits exactly if its last check succeeded. -/
theorem commitIf_eq_ok {updated : Bool} {finish : Finish Bool} :
    ((if updated then Pure.pure (.commit true) else Pure.pure (.rollback false)) :
      Action σ ε (Finish Bool)) s = (.ok finish, s') ↔
      finish = (if updated then .commit true else .rollback false) ∧ s' = s := by
  cases updated <;> simp [eq_comm]

/-! ## Success -/

/-- The action does not fail on the store. -/
def Succeeds (m : Action σ ε α) (s : σ) : Prop :=
  ∃ a s', m s = (.ok a, s')

instance (m : Action σ ε α) (s : σ) : Decidable (Succeeds m s) :=
  match h : m s with
  | (.ok a, s') => isTrue ⟨a, s', h⟩
  | (.error _, _) => isFalse fun ⟨_, _, ha⟩ => nomatch h.symm.trans ha

@[simp] theorem succeeds_pure (a : α) (s : σ) : Succeeds (Pure.pure a : Action σ ε α) s :=
  ⟨a, s, rfl⟩

@[simp] theorem not_succeeds_reject (e : ε) (s : σ) :
    ¬ Succeeds (Action.reject e : Action σ ε α) s := by
  rintro ⟨a, s', h⟩
  cases h

/-- A sequence succeeds if its first part does, and the rest on what that leaves. -/
theorem succeeds_bind : Succeeds (m >>= f) s ↔ ∃ a s₁, m s = (.ok a, s₁) ∧ Succeeds (f a) s₁ := by
  constructor
  · rintro ⟨b, s', h⟩
    obtain ⟨a, s₁, hm, hf⟩ := bind_eq_ok.mp h
    exact ⟨a, s₁, hm, b, s', hf⟩
  · rintro ⟨a, s₁, hm, b, s', hf⟩
    exact ⟨b, s', bind_eq_ok.mpr ⟨a, s₁, hm, hf⟩⟩

/-- Success of a sequence after its first action. -/
theorem succeeds_bind_of_ok {s₁ : σ} (hm : m s = (.ok a, s₁)) :
    Succeeds (m >>= f) s ↔ Succeeds (f a) s₁ := by
  unfold Succeeds
  rw [bind_run_of_ok hm]

@[simp] theorem succeeds_read_bind {f : σ → Action σ ε β} {s : σ} :
    Succeeds (read >>= f) s ↔ Succeeds (f s) s :=
  Iff.rfl

/-- An action that fails leaves nothing behind it in a transaction. -/
theorem allOrNothing_of_not_succeeds (h : ¬ Succeeds m s) : (allOrNothing m s).2 = s := by
  rcases hm : m s with ⟨e | a, s'⟩
  · rw [allOrNothing_of_error hm]
  · exact absurd ⟨a, s', hm⟩ h

/-! ## Relations kept by an action -/

instance : Std.Refl fun s s' : σ => s' = s := ⟨fun _ => rfl⟩

instance : IsTrans σ fun s s' => s' = s := ⟨fun _ _ _ h h' => h'.trans h⟩

instance (I : σ → Prop) : Std.Refl fun s s' => I s → I s' := ⟨fun _ h => h⟩

instance (I : σ → Prop) : IsTrans σ fun s s' => I s → I s' := ⟨fun _ _ _ h h' hs => h' (h hs)⟩

/-- The action only takes the store along `R`. -/
def Keeps (R : σ → σ → Prop) (m : Action σ ε α) : Prop :=
  ∀ s, R s (m s).2

namespace Keeps

variable {R : σ → σ → Prop} {m : Action σ ε α}

/-- What a run of the action relates. -/
theorem of_run (h : Keeps R m) {r : Except (Failure ε) α} (hrun : m s = (r, s')) : R s s' := by
  have hs := h s
  rw [hrun] at hs
  exact hs

theorem pure [Std.Refl R] (a : α) : Keeps R (Pure.pure a : Action σ ε α) :=
  Std.Refl.refl

theorem read [Std.Refl R] : Keeps R (Action.read : Action σ ε σ) :=
  Std.Refl.refl

theorem reject [Std.Refl R] (e : ε) : Keeps R (Action.reject e : Action σ ε α) :=
  Std.Refl.refl

/-- A sequence keeps what its parts keep. -/
theorem bind [IsTrans σ R] (hm : Keeps R m) (hf : ∀ a, Keeps R (f a)) : Keeps R (m >>= f) := by
  intro s
  have h := hm s
  rw [bind_run]
  rcases hrun : m s with ⟨e | a, s'⟩
  · rw [hrun] at h
    exact h
  · rw [hrun] at h
    exact IsTrans.trans _ _ _ h (hf a s')

/-- What follows and changes nothing does not matter. -/
theorem bind_still (hm : Keeps R m) (hf : ∀ a s, (f a s).2 = s) : Keeps R (m >>= f) := by
  intro s
  have h := hm s
  rw [bind_run]
  rcases hrun : m s with ⟨e | a, s'⟩
  · rw [hrun] at h
    exact h
  rw [hrun] at h
  rw [hf a s']
  exact h

/-- A relation need only hold of what the schema lets the engine store. -/
theorem execute [Std.Refl R] (h : ∀ s, schema (statement s) = true → R s (statement s)) :
    Keeps R (Action.execute engine statement : Action σ ε Unit) := by
  intro s
  by_cases ha : engine.accepts (statement s) = true
  · simpa [Action.execute, ha] using h s (engine.sound _ ha)
  · simpa [Action.execute, ha] using Std.Refl.refl (r := R) s

/-- A transaction keeps what its body keeps. -/
theorem transaction [Std.Refl R] {m : Action σ ε (Finish α)} (h : Keeps R m) :
    Keeps R (Action.transaction m) := by
  intro s
  rcases transaction_state m s with hs | ⟨a, hs⟩
  · rw [hs]
    exact Std.Refl.refl s
  have hm := h s
  rw [hs] at hm
  exact hm

/-- Catching an error undoes nothing. -/
theorem attempt (h : Keeps R m) : Keeps R (Action.attempt m : Action σ ε' _) :=
  h

theorem onlyIf [Std.Refl R] {cond : Bool} {m : Action σ ε Unit}
    (h : cond = true → Keeps R m) : Keeps R (Action.onlyIf cond m) := by
  cases cond with
  | false => exact .pure _
  | true => exact h rfl

theorem ite {cond : Prop} [Decidable cond] {m' : Action σ ε α} (h : Keeps R m)
    (h' : Keeps R m') : Keeps R (if cond then m else m') := by
  split
  · exact h
  · exact h'

/-- Undoing everything keeps what is reflexive. -/
theorem allOrNothing [Std.Refl R] (h : Keeps R m) : Keeps R (Action.allOrNothing m) := by
  intro s
  have hm := h s
  unfold Action.allOrNothing
  rcases hrun : m s with ⟨_ | _, s'⟩
  · exact Std.Refl.refl s
  · rw [hrun] at hm
    exact hm

/-- Inside a transaction the relation need not hold until the end. -/
theorem allOrNothing_of_ok [Std.Refl R] (h : ∀ s a s', m s = (.ok a, s') → R s s') :
    Keeps R (Action.allOrNothing m) := by
  intro s
  rcases hm : m s with ⟨e | a, s'⟩
  · rw [Action.allOrNothing_of_error hm]
    exact Std.Refl.refl s
  · rw [Action.allOrNothing_state_of_ok hm]
    exact h s a s' hm

theorem orReject (h : Keeps R m) (e : ε') : Keeps R (Action.orReject e m) := by
  intro s
  have hm := h s
  unfold Action.orReject
  rcases hrun : m s with ⟨(_ | _) | _, s'⟩ <;> simpa [hrun] using hm

end Keeps

/-- A relation along which programs can be followed: it relates every store to
itself, and composes. -/
structure Along (R : σ → σ → Prop) : Prop where
  refl : ∀ s, R s s
  trans : ∀ a b c, R a b → R b c → R a c

namespace Along

/-- What holds of a store afterwards if it held before. -/
theorem invariant (I : σ → Prop) : Along fun s s' => I s → I s' where
  refl _ h := h
  trans _ _ _ h h' hs := h' (h hs)

end Along

end Action

end StoreAction
