import PromptDock.RowTable
import PromptDock.StoreAction

/-!
# Statements on one table of a store

A `Table` is a view of a store: the rows, and the store with other rows in
their place.  The three statements report how many rows they touched.  Each
has one equation for success, `…_eq_ok`, which says what was touched and what
the store is afterwards; a program is taken apart with these.
-/

namespace TableStatement

open RowTable StoreAction

variable {σ ρ ε : Type} {schema : σ → Bool}

/-- A table of a store. -/
structure Table (σ ρ : Type) where
  rows : σ → List ρ
  put : σ → List ρ → σ
  rows_put : ∀ s rs, rows (put s rs) = rs := by intros; rfl
  put_rows : ∀ s, put s (rows s) = s := by intros; rfl
  put_put : ∀ s rs rs', put (put s rs) rs' = put s rs' := by intros; rfl

/-- `UPDATE … SET change WHERE guard`; returns the number of rows touched. -/
def update (engine : Engine schema) (t : Table σ ρ) (guard : σ → ρ → Bool) (change : ρ → ρ) :
    Action σ ε Nat := do
  let s ← Action.read
  Action.execute engine fun s => t.put s (updateWhere (guard s) change (t.rows s))
  pure (affected (guard s) (t.rows s))

/-- An update that is meant for one row; tells whether it touched exactly one. -/
def updateOne (engine : Engine schema) (t : Table σ ρ) (guard : σ → ρ → Bool)
    (change : ρ → ρ) : Action σ ε Bool := do
  let changed ← update engine t guard change
  pure (changed == 1)

/-- `DELETE … WHERE guard`; returns the number of rows touched.  `cascade` is
what the deletion of rows entails in other tables. -/
def delete (engine : Engine schema) (t : Table σ ρ) (guard : σ → ρ → Bool)
    (cascade : σ → σ) : Action σ ε Nat := do
  let s ← Action.read
  Action.execute engine fun s => cascade (t.put s (deleteWhere (guard s) (t.rows s)))
  pure (affected (guard s) (t.rows s))

/-- `INSERT … ON CONFLICT DO NOTHING`; returns the number of rows inserted. -/
def insertUnless (engine : Engine schema) (t : Table σ ρ) (conflict : ρ → Bool) (row : ρ) :
    Action σ ε Nat := do
  let s ← Action.read
  if (t.rows s).any conflict then pure 0
  else
    Action.execute engine fun s => t.put s (t.rows s ++ [row])
    pure 1

/-- `INSERT`. -/
def insert (engine : Engine schema) (t : Table σ ρ) (row : ρ) : Action σ ε Unit :=
  Action.execute engine fun s => t.put s (t.rows s ++ [row])

/-- `INSERT … ON CONFLICT DO UPDATE SET change`. -/
def upsert (engine : Engine schema) (t : Table σ ρ) (conflict : ρ → Bool) (row : ρ)
    (change : ρ → ρ) : Action σ ε Unit :=
  Action.execute engine fun s =>
    if (t.rows s).any conflict then t.put s (updateWhere conflict change (t.rows s))
    else t.put s (t.rows s ++ [row])

/-- Insert rows one by one. -/
def insertAll (engine : Engine schema) (t : Table σ ρ) : List ρ → Action σ ε Unit
  | [] => pure ()
  | row :: rest => do
    insert engine t row
    insertAll engine t rest

variable {engine : Engine schema} {t : Table σ ρ} {guard : σ → ρ → Bool} {change : ρ → ρ}
  {cascade : σ → σ} {conflict : ρ → Bool} {row : ρ} {s s' : σ} {n : Nat}

/-- What an update that succeeds has done. -/
theorem update_eq_ok : (update engine t guard change : Action σ ε Nat) s = (.ok n, s') ↔
      engine.accepts (t.put s (updateWhere (guard s) change (t.rows s))) = true ∧
        n = affected (guard s) (t.rows s) ∧
        s' = t.put s (updateWhere (guard s) change (t.rows s)) := by
  rw [update, Action.read_bind_run, Action.execute_pure_eq_ok]

/-- An update that fails changes nothing. -/
theorem update_eq_error {e : Failure ε} :
    (update engine t guard change : Action σ ε Nat) s = (.error e, s') ↔
      engine.accepts (t.put s (updateWhere (guard s) change (t.rows s))) = false ∧
        e = .statement ∧ s' = s := by
  rw [update, Action.read_bind_run, Action.bind_pure_eq_error, Action.execute_eq_error]

/-- It reports whether exactly one row was met. -/
theorem updateOne_eq_ok {b : Bool} :
    (updateOne engine t guard change : Action σ ε Bool) s = (.ok b, s') ↔
      engine.accepts (t.put s (updateWhere (guard s) change (t.rows s))) = true ∧
        b = (affected (guard s) (t.rows s) == 1) ∧
        s' = t.put s (updateWhere (guard s) change (t.rows s)) := by
  simp only [updateOne, Action.bind_pure_eq_ok, update_eq_ok]
  constructor
  · rintro ⟨n, ⟨hacc, rfl, rfl⟩, rfl⟩
    exact ⟨hacc, rfl, rfl⟩
  · rintro ⟨hacc, rfl, rfl⟩
    exact ⟨_, ⟨hacc, rfl, rfl⟩, rfl⟩

/-- Success means that exactly one row met the guard. -/
theorem updateOne_eq_true : (updateOne engine t guard change : Action σ ε Bool) s = (.ok true, s') ↔
      engine.accepts (t.put s (updateWhere (guard s) change (t.rows s))) = true ∧
        affected (guard s) (t.rows s) = 1 ∧
        s' = t.put s (updateWhere (guard s) change (t.rows s)) := by
  have hone : true = (affected (guard s) (t.rows s) == 1) ↔ affected (guard s) (t.rows s) = 1 :=
    eq_comm.trans beq_iff_eq
  rw [updateOne_eq_ok, hone]

theorem updateOne_eq_error {e : Failure ε} :
    (updateOne engine t guard change : Action σ ε Bool) s = (.error e, s') ↔
      engine.accepts (t.put s (updateWhere (guard s) change (t.rows s))) = false ∧
        e = .statement ∧ s' = s := by
  rw [updateOne, Action.bind_pure_eq_error, update_eq_error]

/-- An update that meets no row changes nothing and says so. -/
theorem updateOne_of_forall_not (h : ∀ r ∈ t.rows s, guard s r = false) :
    ((updateOne engine t guard change : Action σ ε Bool) s).2 = s ∧
      ((updateOne engine t guard change : Action σ ε Bool) s).1 ≠ .ok true := by
  rcases hrun : (updateOne engine t guard change : Action σ ε Bool) s with ⟨e | b, s'⟩
  · exact ⟨(updateOne_eq_error.mp hrun).2.2, by simp⟩
  obtain ⟨_, hb, hs⟩ := updateOne_eq_ok.mp hrun
  rw [updateWhere_of_forall_not h, t.put_rows] at hs
  rw [affected_eq_zero.mpr h] at hb
  exact ⟨hs, by simp [hb]⟩

/-- What a deletion that succeeds has done, cascade included. -/
theorem delete_eq_ok : (delete engine t guard cascade : Action σ ε Nat) s = (.ok n, s') ↔
      engine.accepts (cascade (t.put s (deleteWhere (guard s) (t.rows s)))) = true ∧
        n = affected (guard s) (t.rows s) ∧
        s' = cascade (t.put s (deleteWhere (guard s) (t.rows s))) := by
  rw [delete, Action.read_bind_run, Action.execute_pure_eq_ok]

/-- A deletion that fails changes nothing. -/
theorem delete_eq_error {e : Failure ε} :
    (delete engine t guard cascade : Action σ ε Nat) s = (.error e, s') ↔
      engine.accepts (cascade (t.put s (deleteWhere (guard s) (t.rows s)))) = false ∧
        e = .statement ∧ s' = s := by
  rw [delete, Action.read_bind_run, Action.bind_pure_eq_error, Action.execute_eq_error]

/-- A row in conflict is passed over. -/
theorem insertUnless_eq_ok : (insertUnless engine t conflict row : Action σ ε Nat) s = (.ok n, s') ↔
      ((t.rows s).any conflict = true ∧ n = 0 ∧ s' = s) ∨
      ((t.rows s).any conflict = false ∧ n = 1 ∧
        engine.accepts (t.put s (t.rows s ++ [row])) = true ∧
        s' = t.put s (t.rows s ++ [row])) := by
  rw [insertUnless, Action.read_bind_run]
  cases (t.rows s).any conflict with
  | true => simp [@eq_comm _ n, @eq_comm _ s']
  | false =>
    simp only [Bool.false_eq_true, if_false, Action.execute_pure_eq_ok]
    simp [and_left_comm]

/-- What an insertion that succeeds has done. -/
theorem insert_eq_ok {u : Unit} : (insert engine t row : Action σ ε Unit) s = (.ok u, s') ↔
      engine.accepts (t.put s (t.rows s ++ [row])) = true ∧ s' = t.put s (t.rows s ++ [row]) :=
  Action.execute_eq_ok

/-! ## Relations kept by the statements -/

section

variable {R : σ → σ → Prop}

section

variable
  (h : ∀ s, schema (t.put s (updateWhere (guard s) change (t.rows s))) = true →
    R s (t.put s (updateWhere (guard s) change (t.rows s))))

include h

/-- An update keeps what its accepted results keep. -/
theorem update_keeps [Std.Refl R] [IsTrans σ R] :
    Action.Keeps R (update engine t guard change : Action σ ε Nat) :=
  .bind .read fun _ => .bind (.execute h) fun _ => .pure _

theorem updateOne_keeps [Std.Refl R] [IsTrans σ R] :
    Action.Keeps R (updateOne engine t guard change : Action σ ε Bool) :=
  .bind (update_keeps h) fun _ => .pure _

end

/-- So does a deletion with its cascade. -/
theorem delete_keeps [Std.Refl R] [IsTrans σ R]
    (h : ∀ s, schema (cascade (t.put s (deleteWhere (guard s) (t.rows s)))) = true →
      R s (cascade (t.put s (deleteWhere (guard s) (t.rows s))))) :
    Action.Keeps R (delete engine t guard cascade : Action σ ε Nat) :=
  .bind .read fun _ => .bind (.execute h) fun _ => .pure _

/-- An insert is only reached where no row is in conflict. -/
theorem insertUnless_keeps [Std.Refl R] (h : ∀ s, (t.rows s).any conflict = false →
      schema (t.put s (t.rows s ++ [row])) = true → R s (t.put s (t.rows s ++ [row]))) :
    Action.Keeps R (insertUnless engine t conflict row : Action σ ε Nat) := by
  intro s
  rcases hrun : (insertUnless engine t conflict row : Action σ ε Nat) s with ⟨e | n, s'⟩
  · have hs : s' = s := by
      simp only [insertUnless, Action.read_bind_run] at hrun
      split at hrun
      · cases hrun
      · exact (Action.execute_eq_error.mp (Action.bind_pure_eq_error.mp hrun)).2.2
    rw [hs]
    exact Std.Refl.refl s
  · rcases insertUnless_eq_ok.mp hrun with ⟨_, _, rfl⟩ | ⟨hc, _, hacc, rfl⟩
    · exact Std.Refl.refl s'
    · exact h s hc (engine.sound _ hacc)

section

/-! A relation that any change of the table's rows respects. -/

variable [Std.Refl R] (hput : ∀ s rows, schema (t.put s rows) = true → R s (t.put s rows))

include hput

/-- Where the table may be written, a row may be inserted. -/
theorem insert_keeps_put (row : ρ) : Action.Keeps R (insert engine t row : Action σ ε Unit) :=
  .execute fun s => hput s _

theorem upsert_keeps_put (conflict : ρ → Bool) (row : ρ) (change : ρ → ρ) :
    Action.Keeps R (upsert engine t conflict row change : Action σ ε Unit) := by
  refine .execute fun s hchk => ?_
  split at hchk
  all_goals
    rename_i hconflict
    simpa [hconflict] using hput s _ hchk

variable [IsTrans σ R]

theorem update_keeps_put (guard : σ → ρ → Bool) (change : ρ → ρ) :
    Action.Keeps R (update engine t guard change : Action σ ε Nat) :=
  update_keeps fun s => hput s _

theorem updateOne_keeps_put (guard : σ → ρ → Bool) (change : ρ → ρ) :
    Action.Keeps R (updateOne engine t guard change : Action σ ε Bool) :=
  updateOne_keeps fun s => hput s _

theorem delete_keeps_put (guard : σ → ρ → Bool) :
    Action.Keeps R (delete engine t guard id : Action σ ε Nat) :=
  delete_keeps fun s => hput s _

/-- And many rows, one after the other. -/
theorem insertAll_keeps_put (rows : List ρ) :
    Action.Keeps R (insertAll engine t rows : Action σ ε Unit) := by
  induction rows with
  | nil => exact .pure _
  | cons row rest ih => exact .bind (insert_keeps_put hput row) fun _ => ih

end

end

/-! ## Programs on one table -/

/-- Nothing changed but the rows of one table. -/
def Only (t : Table σ ρ) (s s' : σ) : Prop :=
  ∃ rows, s' = t.put s rows

namespace Only

theorem refl (t : Table σ ρ) (s : σ) : Only t s s :=
  ⟨t.rows s, (t.put_rows s).symm⟩

/-- Two changes of one table change one table. -/
theorem trans (t : Table σ ρ) (a b c : σ) (h : Only t a b) (h' : Only t b c) : Only t a c := by
  obtain ⟨rows, rfl⟩ := h
  obtain ⟨rows', rfl⟩ := h'
  exact ⟨rows', t.put_put a rows rows'⟩

theorem put (t : Table σ ρ) (s : σ) (rows : List ρ) : Only t s (t.put s rows) := ⟨rows, rfl⟩

end Only

end TableStatement
