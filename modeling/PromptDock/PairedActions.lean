import PromptDock.TableStatement

/-!
# Two runs side by side

`Paired R Q m n` compares a run of `m` with a run of `n`: from stores related
by `R` both return, with values related by `Q`, or both fail for the same
reason, and the stores they leave are related again.

With `R` a relation that forgets some columns, this says that a program does
not depend on what those columns hold.  The rules follow the way programs are
put together; a statement on a table whose rows the relation does not forget is
paired with itself (`Shared`).
-/

namespace StoreAction

open RowTable TableStatement

variable {σ ε α β γ δ : Type}

/-- Two results that match: related values, or one and the same error. -/
inductive Matched (Q : α → β → Prop) : Except (Failure ε) α → Except (Failure ε) β → Prop where
  | ok {a : α} {b : β} (h : Q a b) : Matched Q (.ok a) (.ok b)
  | error (e : Failure ε) : Matched Q (.error e) (.error e)

/-- From related stores, two actions return matching results and leave related
stores. -/
def Paired (R : σ → σ → Prop) (Q : α → β → Prop) (m : Action σ ε α) (n : Action σ ε β) : Prop :=
  ∀ s t, R s t → Matched Q (m s).1 (n t).1 ∧ R (m s).2 (n t).2

namespace Paired

variable {R : σ → σ → Prop} {Q : α → β → Prop} {Q' : γ → δ → Prop}

theorem pure {a : α} {b : β} (h : Q a b) : Paired R Q (Pure.pure a : Action σ ε α) (Pure.pure b) :=
  fun _ _ hR => ⟨.ok h, hR⟩

theorem reject (e : ε) : Paired R Q (Action.reject e) (Action.reject e) :=
  fun _ _ hR => ⟨.error _, hR⟩

theorem read : Paired R R (Action.read : Action σ ε σ) Action.read :=
  fun _ _ hR => ⟨.ok hR, hR⟩

variable {m : Action σ ε α} {n : Action σ ε β} {f : α → Action σ ε γ}

/-- Pairs in sequence. -/
theorem bind {g : β → Action σ ε δ} (hfst : Paired R Q m n)
    (hrest : ∀ a b, Q a b → Paired R Q' (f a) (g b)) : Paired R Q' (m >>= f) (n >>= g) := by
  intro s t hR
  obtain ⟨hmatched, haft⟩ := hfst s t hR
  rw [Action.bind_run, Action.bind_run]
  rcases hm : m s with ⟨r, s'⟩
  rcases hn : n t with ⟨r', t'⟩
  rw [hm, hn] at hmatched haft
  cases hmatched with
  | ok hab => exact hrest _ _ hab s' t' haft
  | error e => exact ⟨.error e, haft⟩

/-- The same program after the same value. -/
theorem bind_eq {n : Action σ ε α} {g : α → Action σ ε δ} (hfst : Paired R Eq m n)
    (hrest : ∀ a, Paired R Q' (f a) (g a)) : Paired R Q' (m >>= f) (n >>= g) :=
  hfst.bind fun a _ heq => heq ▸ hrest a

theorem ite {cond : Prop} [Decidable cond] {m' : Action σ ε α} {n' : Action σ ε β}
    (h : Paired R Q m n) (h' : Paired R Q m' n') :
    Paired R Q (if cond then m else m') (if cond then n else n') := by
  by_cases hc : cond
  · rw [if_pos hc, if_pos hc]
    exact h
  · rw [if_neg hc, if_neg hc]
    exact h'

theorem onlyIf {cond : Bool} {m n : Action σ ε Unit} (h : Paired R Eq m n) :
    Paired R Eq (Action.onlyIf cond m) (Action.onlyIf cond n) := by
  cases cond with
  | true => exact h
  | false => exact .pure rfl

/-- Both sides are undone together. -/
theorem allOrNothing (h : Paired R Q m n) :
    Paired R Q (Action.allOrNothing m) (Action.allOrNothing n) := by
  intro s t hR
  obtain ⟨hmatched, haft⟩ := h s t hR
  unfold Action.allOrNothing
  rcases hm : m s with ⟨r, s'⟩
  rcases hn : n t with ⟨r', t'⟩
  rw [hm, hn] at hmatched haft
  cases hmatched with
  | ok hab => exact ⟨.ok hab, haft⟩
  | error e => exact ⟨.error e, hR⟩

end Paired

/-- The same store on both sides, reached from `s0`. -/
def Reached (R : σ → σ → Prop) (s0 s t : σ) : Prop :=
  s = t ∧ R s0 s

section

variable {R : σ → σ → Prop} {Q : α → α → Prop} {m : Action σ ε α} {s0 : σ}

section

variable (htrans : ∀ a b c, R a b → R b c → R a c) (hQ : ∀ a, Q a a)

include htrans hQ

/-- One more program from a store that was reached. -/
theorem Reached.after {s : σ}
    (hs : R s0 s) (h : R s (m s).2) : Matched Q (m s).1 (m s).1 ∧ Reached R s0 (m s).2 (m s).2 := by
  refine ⟨?_, rfl, htrans _ _ _ hs h⟩
  cases (m s).1 with
  | ok a => exact .ok (hQ a)
  | error e => exact .error e

/-- An action is paired with itself on one store. -/
theorem Action.Keeps.paired (h : Action.Keeps R m) : Paired (Reached R s0) Q m m := by
  rintro s _ ⟨rfl, hs⟩
  exact Reached.after htrans hQ hs (h s)

end

/-- What a program does to one store, read off two equal runs of it. -/
theorem Paired.keeps (hrefl : ∀ s, R s s) (h : ∀ s0, Paired (Reached R s0) Q m m) :
    Action.Keeps R m :=
  fun s => (h s s s ⟨rfl, hrefl s⟩).2.2

end

/-- Related stores that both satisfy the schema. -/
def BothValid (schema : σ → Bool) (R : σ → σ → Prop) (s t : σ) : Prop :=
  R s t ∧ schema s = true ∧ schema t = true

/-- The schema does not read what the relation forgets. -/
def SeenAlike (schema : σ → Bool) (R : σ → σ → Prop) : Prop :=
  ∀ s t, R s t → schema s = schema t

variable {schema : σ → Bool} {R : σ → σ → Prop} {f g : σ → σ}

/-- Statements that keep the relation are accepted both or neither. -/
theorem Paired.execute (hschema : SeenAlike schema R) (h : ∀ s t, R s t → R (f s) (g t)) :
    Paired (BothValid schema R) Eq (Action.execute (Engine.faultless schema) f : Action σ ε Unit)
      (Action.execute (Engine.faultless schema) g) := by
  intro s t hR
  have haft := h s t hR.1
  have hsame := hschema _ _ haft
  change Matched Eq (if schema (f s) = true then _ else _ : _ × σ).1
      (if schema (g t) = true then _ else _ : _ × σ).1 ∧
    BothValid schema R (if schema (f s) = true then _ else _ : _ × σ).2
      (if schema (g t) = true then _ else _ : _ × σ).2
  rw [hsame]
  split
  · rename_i hacc
    exact ⟨.ok rfl, haft, hsame.trans hacc, hacc⟩
  · exact ⟨.error _, hR⟩

/-- A statement on one side that changes only what the relation forgets. -/
theorem Paired.execute_left (hschema : SeenAlike schema R) (h : ∀ s t, R s t → R (f s) t) :
    Paired (BothValid schema R) Eq
      (Action.execute (Engine.faultless schema) f : Action σ ε Unit) (Pure.pure ()) := by
  intro s t hR
  have haft := h s t hR.1
  have hacc : schema (f s) = true := (hschema _ _ haft).trans hR.2.2
  have hrun : (Action.execute (Engine.faultless schema) f : Action σ ε Unit) s = (.ok (), f s) :=
    Action.execute_run_of_accepts hacc
  rw [hrun]
  exact ⟨.ok rfl, haft, hacc, hR.2.2⟩

/-- A statement on one side that the relation does not see. -/
theorem Paired.execute_right (hschema : SeenAlike schema R) (h : ∀ s t, R s t → R s (g t)) :
    Paired (BothValid schema R) Eq (Pure.pure () : Action σ ε Unit)
      (Action.execute (Engine.faultless schema) g) := by
  intro s t hR
  have haft := h s t hR.1
  have hacc : schema (g t) = true := (hschema _ _ haft).symm.trans hR.2.1
  have hrun : (Action.execute (Engine.faultless schema) g : Action σ ε Unit) t = (.ok (), g t) :=
    Action.execute_run_of_accepts hacc
  rw [hrun]
  exact ⟨.ok rfl, haft, hR.2.1, hacc⟩

/-- A table that related stores have in common, and that may be rewritten in
both. -/
structure Shared {ρ : Type} (R : σ → σ → Prop) (table : Table σ ρ) : Prop where
  rows : ∀ s t, R s t → table.rows s = table.rows t
  put : ∀ s t rows, R s t → R (table.put s rows) (table.put t rows)

namespace Shared

variable {ρ : Type} {schema : σ → Bool} {R : σ → σ → Prop} {table : Table σ ρ} (h : Shared R table)
  (hschema : SeenAlike schema R)

include h hschema

/-- Shared rows are updated alike. -/
theorem update (guard : ρ → Bool) (change : ρ → ρ) : Paired (BothValid schema R) Eq
      (update (Engine.faultless schema) table (fun _ => guard) change : Action σ ε Nat)
      (update (Engine.faultless schema) table (fun _ => guard) change) := by
  refine Paired.read.bind fun a b hab => ?_
  refine (Paired.execute hschema fun s t hR => ?_).bind_eq fun _ => ?_
  · rw [h.rows s t hR]
    exact h.put s t _ hR
  · exact .pure (congrArg (affected guard) (h.rows a b hab.1))

/-- A row is inserted on both sides. -/
theorem insert (row : ρ) : Paired (BothValid schema R) Eq
      (insert (Engine.faultless schema) table row : Action σ ε Unit)
      (insert (Engine.faultless schema) table row) := by
  refine Paired.execute hschema fun s t hR => ?_
  rw [h.rows s t hR]
  exact h.put s t _ hR

/-- A conflict is met on both sides. -/
theorem insertUnless (conflict : ρ → Bool) (row : ρ) : Paired (BothValid schema R) Eq
      (insertUnless (Engine.faultless schema) table conflict row : Action σ ε Nat)
      (insertUnless (Engine.faultless schema) table conflict row) := by
  refine Paired.read.bind fun a b hab => ?_
  rw [h.rows a b hab.1]
  exact .ite (.pure rfl) ((h.insert hschema row).bind_eq fun _ => .pure rfl)

end Shared

end StoreAction
