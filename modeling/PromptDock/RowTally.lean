import PromptDock.RowTable
import Mathlib.Algebra.Ring.Int.Defs

/-!
# Totals over the rows of a table

A database keeps a counter beside a table and lets triggers amend it, one row at
a time, instead of adding the table up again.  `tally` is the sum the counter
stands for.  The lemmas say what each kind of statement does to the sum.
-/

namespace RowTable

open List

variable {ρ : Type}

/-- The sum of a weight over the rows. -/
def tally (weight : ρ → Int) (rows : List ρ) : Int :=
  (rows.map weight).sum

variable {weight : ρ → Int}

@[simp] theorem tally_nil : tally weight [] = 0 := rfl

@[simp] theorem tally_cons (r : ρ) (rows : List ρ) :
    tally weight (r :: rows) = weight r + tally weight rows := by
  simp [tally]

/-- An insert adds the weight of its row. -/
@[simp] theorem tally_append_one (rows : List ρ) (r : ρ) :
    tally weight (rows ++ [r]) = tally weight rows + weight r := by
  simp [tally]

/-- A sum of weights that are not negative is not negative. -/
theorem tally_nonneg (hweight : ∀ r, 0 ≤ weight r) (rows : List ρ) : 0 ≤ tally weight rows := by
  induction rows with
  | nil => exact Int.le_refl 0
  | cons r =>
    have hr := hweight r
    rw [tally_cons]
    omega

variable {rows : List ρ} {f : ρ → ρ}

/-- Rows that weigh nothing. -/
theorem tally_eq_zero (h : ∀ r ∈ rows, weight r = 0) : tally weight rows = 0 := by
  induction rows with
  | nil => rfl
  | cons r rows ih =>
    rw [tally_cons, h r mem_cons_self, ih fun a ha => h a (mem_cons_of_mem r ha)]
    rfl

@[simp] theorem tally_zero (rows : List ρ) : tally (fun _ => 0) rows = 0 :=
  tally_eq_zero fun _ _ => rfl

/-- A table's length is the tally of its rows by one each. -/
theorem tally_one (rows : List ρ) : tally (fun _ => 1) rows = rows.length := by
  induction rows with
  | nil => rfl
  | cons r rows ih =>
    rw [tally_cons, ih, length_cons]
    omega

/-- A delete takes away what its rows weigh. -/
theorem tally_deleteWhere (p : ρ → Bool) (rows : List ρ) :
    tally weight (deleteWhere p rows) = tally weight rows - tally weight (rows.filter p) := by
  induction rows with
  | nil => rfl
  | cons r rows ih =>
    unfold deleteWhere at ih ⊢
    cases hp : p r with
    | true =>
      simp only [filter_cons, hp, Bool.not_true, Bool.false_eq_true, if_false, if_true, tally_cons]
      omega
    | false =>
      simp only [filter_cons, hp, Bool.not_false, Bool.false_eq_true, if_false, if_true, tally_cons]
      omega

/-- The length a delete leaves. -/
theorem length_deleteWhere_tally (p : ρ → Bool) (rows : List ρ) :
    ((deleteWhere p rows).length : Int) = rows.length - tally (fun _ => 1) (rows.filter p) := by
  rw [← tally_one, ← tally_one, tally_deleteWhere]

/-- An update changes the total by what it changes each of its rows. -/
theorem tally_updateWhere (p : ρ → Bool) (f : ρ → ρ) (rows : List ρ) :
    tally weight (updateWhere p f rows) =
      tally weight rows + tally (fun r => weight (f r) - weight r) (rows.filter p) := by
  induction rows with
  | nil => rfl
  | cons r rows ih =>
    unfold updateWhere at ih ⊢
    cases hp : p r with
    | true =>
      simp only [map_cons, filter_cons, hp, if_true, tally_cons]
      omega
    | false =>
      simp only [map_cons, filter_cons, hp, Bool.false_eq_true, if_false, tally_cons]
      omega

/-- An update that keeps the weight of every row it touches. -/
theorem tally_updateWhere_of {p : ρ → Bool} (h : ∀ r, p r = true → weight (f r) = weight r) :
    tally weight (updateWhere p f rows) = tally weight rows := by
  have hzero : tally (fun r => weight (f r) - weight r) (rows.filter p) = 0 := by
    refine tally_eq_zero fun r hr => ?_
    rw [h r (mem_filter.mp hr).2]
    omega
  rw [tally_updateWhere, hzero, Int.add_zero]

/-- An update that empties its rows takes away what they weighed. -/
theorem tally_updateWhere_zero (h : ∀ r, weight (f r) = 0) (p : ρ → Bool) (rows : List ρ) :
    tally weight (updateWhere p f rows) = tally weight rows - tally weight (rows.filter p) := by
  have hneg : ∀ rows' : List ρ,
      tally (fun r => weight (f r) - weight r) rows' = -tally weight rows' := by
    intro rows'
    induction rows' with
    | nil => rfl
    | cons r rows' ih =>
      rw [tally_cons, tally_cons, ih, h]
      omega
  rw [tally_updateWhere, hneg]
  omega

end RowTable
