import PromptDock.RowTable

/-!
# Paging through a table by key

A page holds the first rows, in the order of their keys, after a cursor; the next
page begins after the last row of this one.  `sweep` takes page after page until
one is empty.  With unique keys and pages of at least one row it returns exactly
the rows that satisfy the condition (`mem_sweep`).
-/

namespace RowTable

open List

variable {ρ κ : Type} [LE κ] [LT κ] [DecidableLE κ] [DecidableLT κ]

/-- The rows after a cursor that satisfy `p`, up to a limit. -/
def pageAfter (key : ρ → κ) (p : ρ → Bool) (limit : Nat) (rows : List ρ) (after : Option κ) :
    List ρ :=
  batchBy (fun a b => key a ≤ key b) (fun r => p r && after.all (· < key r)) limit rows

/-- So many pages, each after the last row of the one before. -/
def sweep (key : ρ → κ) (p : ρ → Bool) (limit : Nat) (rows : List ρ) : Nat → Option κ → List ρ
  | 0, _ => []
  | rounds + 1, after =>
    match (pageAfter key p limit rows after).getLast? with
    | none => []
    | some last =>
      pageAfter key p limit rows after ++ sweep key p limit rows rounds (some (key last))

/-- A condition that is stronger, and fails for one row more, counts fewer rows. -/
theorem countP_lt_countP {p q : ρ → Bool} {rows : List ρ} (himp : ∀ r, p r = true → q r = true)
    {r : ρ} (hr : r ∈ rows) (hp : p r = false) (hq : q r = true) :
    rows.countP p < rows.countP q := by
  induction rows with
  | nil => cases hr
  | cons a rows ih =>
    have hle : rows.countP p ≤ rows.countP q := countP_mono_left fun x _ => himp x
    rcases mem_cons.mp hr with rfl | hrest
    · rw [countP_cons_of_pos hq, countP_cons_of_neg (by rw [hp]; decide)]
      omega
    have hlt := ih hrest
    by_cases ha : p a = true
    · rw [countP_cons_of_pos ha, countP_cons_of_pos (himp a ha)]
      omega
    rw [countP_cons_of_neg ha]
    have hmore : rows.countP q ≤ (a :: rows).countP q := (sublist_cons_self a rows).countP_le
    omega

variable {key : ρ → κ} {p : ρ → Bool} {limit : Nat} {rows : List ρ} {after : Option κ}

/-- A page holds rows behind the cursor. -/
theorem mem_pageAfter {r : ρ} (h : r ∈ pageAfter key p limit rows after) :
    r ∈ rows ∧ p r = true ∧ after.all (· < key r) = true := by
  obtain ⟨hr, hp⟩ := mem_batchBy h
  rw [Bool.and_eq_true] at hp
  exact ⟨hr, hp⟩

/-- An empty page: nothing is left. -/
theorem not_due_of_empty (hlimit : 0 < limit)
    (hempty : (pageAfter key p limit rows after).getLast? = none) {r : ρ} (hr : r ∈ rows)
    (hp : p r = true) : after.all (· < key r) = false := by
  have hnil : pageAfter key p limit rows after = [] := List.getLast?_eq_none_iff.mp hempty
  have hlen := length_batchBy (fun a b => decide (key a ≤ key b))
    (fun r => p r && after.all (· < key r)) limit rows
  have hzero : rows.countP (fun r => p r && after.all (· < key r)) = 0 := by
    unfold pageAfter at hnil
    rw [hnil, length_nil] at hlen
    omega
  have hnot := countP_eq_zero.mp hzero r hr
  rw [hp, Bool.true_and] at hnot
  exact Bool.eq_false_iff.mpr hnot

variable [Std.IsLinearOrder κ] [Std.LawfulOrderLT κ]

/-- What a page leaves out comes after its last row. -/
theorem last_lt_of_not_mem (hu : KeysUnique key rows) {last r : ρ}
    (hlast : (pageAfter key p limit rows after).getLast? = some last) (hr : r ∈ rows)
    (hp : p r = true) (haft : after.all (· < key r) = true)
    (hout : r ∉ pageAfter key p limit rows after) : key last < key r := by
  let le : ρ → ρ → Bool := fun a b => key a ≤ key b
  let due := orderBy le (rows.filter fun r => p r && after.all (· < key r))
  have hsorted : due.Pairwise fun a b => le a b = true := pairwise_insertionSort _ _
  have hmem : r ∈ due := by
    refine mem_orderBy.mpr (mem_filter.mpr ⟨hr, ?_⟩)
    rw [hp, haft]
    rfl
  have hdrop : r ∈ due.drop limit := by
    have hsplit : r ∈ due.take limit ++ due.drop limit := by
      rw [take_append_drop]
      exact hmem
    exact (mem_append.mp hsplit).resolve_left hout
  have hin : last ∈ due.take limit := mem_of_getLast? hlast
  have hle : key last ≤ key r := by
    rw [← take_append_drop limit due] at hsorted
    exact of_decide_eq_true ((pairwise_append.mp hsorted).2.2 last hin r hdrop)
  have hne : key last ≠ key r := by
    intro heq
    have hsame : last = r := hu.eq_of_key (mem_pageAfter hin).1 hr heq
    rw [hsame] at hin
    exact hout hin
  exact Std.lt_of_le_of_ne hle hne

/-- The sweep returns exactly the rows that satisfy the condition, if it may take
more pages than there are such rows. -/
theorem mem_sweep (hu : KeysUnique key rows) (hlimit : 0 < limit) {rounds : Nat}
    (hrounds : rows.countP (fun r => p r && after.all (· < key r)) < rounds) {r : ρ} :
    r ∈ sweep key p limit rows rounds after ↔
      r ∈ rows ∧ p r = true ∧ after.all (· < key r) = true := by
  induction rounds generalizing after with
  | zero => omega
  | succ rounds ih =>
    unfold sweep
    cases hlast : (pageAfter key p limit rows after).getLast? with
    | none =>
      constructor
      · intro h
        cases h
      rintro ⟨hr, hp, haft⟩
      rw [not_due_of_empty hlimit hlast hr hp] at haft
      cases haft
    | some last =>
      obtain ⟨hlastRow, hlastDue, hlastAfter⟩ := mem_pageAfter (mem_of_getLast? hlast)
      -- a later cursor leaves fewer rows, at least without the last one
      have hlater : ∀ a, (some (key last)).all (· < key a) = true →
          after.all (· < key a) = true := by
        intro a ha
        cases after with
        | none => rfl
        | some =>
          simp only [Option.all_some, decide_eq_true_eq] at ha hlastAfter ⊢
          exact Std.lt_trans hlastAfter ha
      have hfewer : rows.countP (fun r => p r && (some (key last)).all (· < key r)) <
          rows.countP (fun r => p r && after.all (· < key r)) := by
        refine countP_lt_countP (fun a ha => ?_) hlastRow ?_ ?_
        · rw [Bool.and_eq_true] at ha ⊢
          exact ⟨ha.1, hlater a ha.2⟩
        · simp [Std.lt_irrefl]
        · rw [hlastDue, hlastAfter]
          rfl
      rw [mem_append, ih (by omega)]
      constructor
      · rintro (hpage | ⟨hr, hp, hrest⟩)
        · exact mem_pageAfter hpage
        · exact ⟨hr, hp, hlater r hrest⟩
      rintro ⟨hr, hp, haft⟩
      by_cases hpage : r ∈ pageAfter key p limit rows after
      · exact .inl hpage
      · refine .inr ⟨hr, hp, ?_⟩
        simpa using last_lt_of_not_mem hu hlast hr hp haft hpage

end RowTable
