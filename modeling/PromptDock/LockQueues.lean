import Mathlib.Data.List.Nodup

/-!
# Locks with a queue

A lock is the line of those who asked for it and have not given it back: the first
holds the lock, the others wait, in the order in which they asked.  The holder
that leaves hands the lock to the next.

`WaitsFor` is the relation between those who wait for a lock and its holder.  A
rank that falls along it excludes cycles, and leads from any holder to one that
waits for nothing.
-/

namespace LockQueues

open List

universe u v

/-- The holder of a lock and those who wait for it, in order. -/
structure LockQueue (τ : Type u) where
  line : List τ
  nodup : line.Nodup

variable {τ : Type u}

namespace LockQueue

def free : LockQueue τ := ⟨[], .nil⟩

def Holds (l : LockQueue τ) (t : τ) : Prop := l.line.head? = some t

def Waits (l : LockQueue τ) (t : τ) : Prop := t ∈ l.line.tail

variable [DecidableEq τ] {l : LockQueue τ} {t x y : τ}

instance : Decidable (l.Holds t) := inferInstanceAs (Decidable (_ = _))

instance : Decidable (l.Waits t) := inferInstanceAs (Decidable (_ ∈ _))

/-- Stand in line. -/
def request (l : LockQueue τ) (t : τ) : LockQueue τ :=
  if h : t ∈ l.line then l
  else ⟨l.line ++ [t], by
    rw [← concat_eq_append]
    exact l.nodup.concat h⟩

/-- Leave the line: the holder gives the lock back, one that waits gives up. -/
def leave (l : LockQueue τ) (t : τ) : LockQueue τ := ⟨l.line.erase t, l.nodup.erase t⟩

omit [DecidableEq τ] in
/-- In line are the holder and those who wait. -/
theorem mem_line : t ∈ l.line ↔ l.Holds t ∨ l.Waits t := by
  obtain ⟨line, nodup⟩ := l
  cases line with
  | nil => simp [Holds, Waits]
  | cons => simp [Holds, Waits, eq_comm]

omit [DecidableEq τ] in
/-- The holder is at the head of the line. -/
theorem Holds.exists_rest (h : l.Holds t) : ∃ rest nodup, l = ⟨t :: rest, nodup⟩ := by
  obtain ⟨line, nodup⟩ := l
  cases line with
  | nil => cases h
  | cons a rest =>
    cases h
    exact ⟨rest, nodup, rfl⟩

omit [DecidableEq τ] in
/-- Who holds the lock does not wait for it. -/
theorem Holds.not_waits (h : l.Holds t) : ¬ l.Waits t := by
  obtain ⟨_, nodup, rfl⟩ := h.exists_rest
  exact (nodup_cons.mp nodup).1

omit [DecidableEq τ] in
/-- A lock has one holder. -/
theorem Holds.unique (hx : l.Holds x) (hy : l.Holds y) : x = y :=
  Option.some.inj (hx.symm.trans hy)

omit [DecidableEq τ] in
/-- Whoever waits, waits for somebody. -/
theorem Waits.exists_holder (h : l.Waits t) : ∃ x, l.Holds x := by
  obtain ⟨line, nodup⟩ := l
  cases line with
  | nil => cases h
  | cons a => exact ⟨a, rfl⟩

theorem mem_request : x ∈ (l.request t).line ↔ x ∈ l.line ∨ x = t := by
  unfold request
  split
  next h =>
    constructor
    · exact .inl
    rintro (hx | rfl)
    · exact hx
    · exact h
  next => simp

theorem mem_leave : x ∈ (l.leave t).line ↔ x ∈ l.line ∧ x ≠ t := by
  rw [leave, l.nodup.mem_erase_iff, and_comm]

/-- The holder keeps the lock when another one leaves. -/
theorem holds_leave (h : l.Holds x) (hne : x ≠ t) : (l.leave t).Holds x := by
  obtain ⟨_, _, rfl⟩ := h.exists_rest
  simp [Holds, leave, hne]

/-- The holder keeps the lock when another one asks. -/
theorem holds_request (h : l.Holds x) : (l.request t).Holds x := by
  unfold request
  split
  next => exact h
  next =>
    obtain ⟨_, _, rfl⟩ := h.exists_rest
    rfl

/-- The holder of a lock hands its place to another task. -/
def pass (l : LockQueue τ) (t x : τ) : LockQueue τ :=
  match l with
  | ⟨[], _⟩ => .free
  | ⟨a :: rest, nodup⟩ =>
    if h : a = t ∧ x ∉ rest then ⟨x :: rest, nodup_cons.mpr ⟨h.2, nodup.of_cons⟩⟩
    else ⟨a :: rest, nodup⟩

/-- After the holder handed its place on, it is no longer in line. -/
theorem mem_pass (h : l.Holds t) (hx : x ∉ l.line) :
    y ∈ (l.pass t x).line ↔ y = x ∨ (y ∈ l.line ∧ y ≠ t) := by
  obtain ⟨rest, nodup, rfl⟩ := h.exists_rest
  have hrest : x ∉ rest := fun hmem => hx (mem_cons_of_mem _ hmem)
  have hnot : t ∉ rest := (nodup_cons.mp nodup).1
  simp only [pass, hrest, not_false_eq_true, and_self, dif_pos, mem_cons]
  constructor
  · rintro (rfl | hy)
    · exact .inl rfl
    · exact .inr ⟨.inr hy, fun heq => hnot (heq ▸ hy)⟩
  rintro (rfl | ⟨rfl | hy, hne⟩)
  · exact .inl rfl
  · exact absurd rfl hne
  · exact .inr hy

/-- A lock that is passed on is held. -/
theorem holds_pass (h : l.Holds t) (hx : x ∉ l.line) : (l.pass t x).Holds x := by
  obtain ⟨rest, _, rfl⟩ := h.exists_rest
  have hrest : x ∉ rest := fun hmem => hx (mem_cons_of_mem _ hmem)
  simp [pass, hrest, Holds]

end LockQueue

section

variable {κ : Type v}

/-- The first waits for a lock that the second holds. -/
def WaitsFor (locks : κ → LockQueue τ) (t x : τ) : Prop :=
  ∃ k, (locks k).Waits t ∧ (locks k).Holds x

variable {locks : κ → LockQueue τ}

section

variable (rank : τ → Nat) (h : ∀ t x, WaitsFor locks t x → rank x < rank t)

include rank h

/-- A rank that falls from each task to the one it waits for excludes cycles. -/
theorem not_transGen_self (t : τ) : ¬ Relation.TransGen (WaitsFor locks) t t := by
  have hfall : ∀ x, Relation.TransGen (WaitsFor locks) t x → rank x < rank t := by
    intro x hx
    induction hx with
    | single hstep => exact h _ _ hstep
    | tail _ hstep ih => exact Nat.lt_trans (h _ _ hstep) ih
  exact fun hcycle => Nat.lt_irrefl _ (hfall t hcycle)

/-- From a holder, the tasks that are waited for lead to one that does not wait. -/
theorem exists_holder_not_waiting {k : κ} {t : τ} (hheld : (locks k).Holds t) :
    ∃ k' x, (locks k').Holds x ∧ ∀ k'', ¬ (locks k'').Waits x := by
  induction hn : rank t using Nat.strongRecOn generalizing k t with
  | ind n ih =>
    by_cases hwait : ∃ k', (locks k').Waits t
    · obtain ⟨k', hk'⟩ := hwait
      obtain ⟨x, hx⟩ := hk'.exists_holder
      exact ih (rank x) (hn ▸ h t x ⟨k', hk', hx⟩) hx rfl
    · exact ⟨k, t, hheld, not_exists.mp hwait⟩

end

end

end LockQueues
