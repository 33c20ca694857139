import Mathlib.Data.Prod.Lex
import PromptDock.RowTable

/-!
# Queues served in batches

The rows that are due, in the order in which a statement with a limit takes
them, form a queue: a batch is the front of it.  A statement on the batch leaves
the rest of the queue (`dueQueue_inBatch`), and a statement on other rows leaves
the queue without these (`dueQueue_deleteWhere`, `dueQueue_updateWhere`).  So a
table that is served round after round can be followed by its queue alone.
-/

namespace RowTable

open List

variable {ρ κ : Type} {key : ρ → κ} {le : ρ → ρ → Bool} {p q : ρ → Bool} {f : ρ → ρ}
  {limit : Nat} {rows : List ρ}

/-- The rows that satisfy `p` in the order of `le`. -/
def dueQueue (le : ρ → ρ → Bool) (p : ρ → Bool) (rows : List ρ) : List ρ :=
  orderBy le (rows.filter p)

/-- An order of rows that ranks two rows alike only if they have one key. -/
structure RowOrder (key : ρ → κ) (le : ρ → ρ → Bool) : Prop where
  total : ∀ a b, le a b = true ∨ le b a = true
  trans : ∀ a b c, le a b = true → le b c = true → le a c = true
  level : ∀ a b, le a b = true → le b a = true → key a = key b

/-- Ranks in a linear order rank rows. -/
theorem RowOrder.of_rank {α : Type} [LinearOrder α] (rank : ρ → α)
    (hle : ∀ a b, le a b = true ↔ rank a ≤ rank b)
    (hkey : ∀ a b, rank a = rank b → key a = key b) : RowOrder key le where
  total a b := by
    rw [hle, hle]
    exact le_total _ _
  trans a b c := by
    rw [hle, hle, hle]
    exact le_trans
  level a b := by
    rw [hle, hle]
    exact fun hab hba => hkey a b (le_antisymm hab hba)

/-- In the queue are the rows that are due. -/
theorem mem_dueQueue {r : ρ} : r ∈ dueQueue le p rows ↔ r ∈ rows ∧ p r = true := by
  rw [dueQueue, mem_orderBy, mem_filter]

theorem length_dueQueue : (dueQueue le p rows).length = rows.countP p := by
  rw [dueQueue, length_orderBy, countP_eq_length_filter]

theorem dueQueue_eq_nil : dueQueue le p rows = [] ↔ ∀ r ∈ rows, p r = false := by
  rw [← length_eq_zero_iff, length_dueQueue, countP_eq_zero]
  simp

/-- No row is in the queue twice. -/
theorem nodup_dueQueue (hu : KeysUnique key rows) : (dueQueue le p rows).Nodup :=
  (perm_insertionSort _ _).nodup_iff.mpr ((List.Nodup.of_map key hu).filter p)

section

variable (ho : RowOrder key le) (hu : KeysUnique key rows)

include ho hu

/-- A list of rows of the table that is in order is what sorting its rows gives. -/
theorem orderBy_eq_of_perm {rows' sorted : List ρ} (hsub : sorted.Sublist (orderBy le rows))
    (hperm : rows'.Perm sorted) : orderBy le rows' = sorted := by
  have : Std.Total fun a b => le a b = true := ⟨ho.total⟩
  have : IsTrans ρ fun a b => le a b = true := ⟨ho.trans⟩
  have hsorted : ∀ l, (orderBy le l).Pairwise fun a b => le a b = true :=
    fun l => pairwise_insertionSort _ _
  have hperm' : (orderBy le rows').Perm sorted := (perm_insertionSort _ _).trans hperm
  refine hperm'.eq_of_pairwise ?_ (hsorted rows') ((hsorted rows).sublist hsub)
  intro a b ha hb hab hba
  have hin : ∀ {r}, r ∈ sorted → r ∈ rows := fun hr => mem_orderBy.mp (hsub.subset hr)
  exact hu.eq_of_key (hin (hperm'.mem_iff.mp ha)) (hin hb) (ho.level a b hab hba)

/-- Sorting and selecting may be exchanged. -/
theorem orderBy_filter : orderBy le (rows.filter q) = (orderBy le rows).filter q :=
  orderBy_eq_of_perm ho hu filter_sublist ((perm_insertionSort _ rows).filter q).symm

/-- The queue of a table in which the first rows of the queue are done. -/
theorem dueQueue_eq_drop {rows' : List ρ} (hrows' : rows'.Nodup)
    (hmem : ∀ r, r ∈ rows' ∧ p r = true ↔ r ∈ (dueQueue le p rows).drop limit) :
    dueQueue le p rows' = (dueQueue le p rows).drop limit := by
  have hkeys : KeysUnique key (rows.filter p) := hu.sublist (filter_sublist.map _)
  have hsub : ((dueQueue le p rows).drop limit).Sublist (dueQueue le p rows) := drop_sublist _ _
  refine orderBy_eq_of_perm ho hkeys hsub ?_
  refine (perm_ext_iff_of_nodup (hrows'.filter _) ((nodup_dueQueue hu).sublist hsub)).mpr ?_
  intro r
  rw [mem_filter, hmem]

/-- The queue after a deletion. -/
theorem dueQueue_deleteWhere :
    dueQueue le p (deleteWhere q rows) = (dueQueue le p rows).filter (!q ·) := by
  have hkeys : KeysUnique key (rows.filter p) := hu.sublist (filter_sublist.map _)
  rw [dueQueue, dueQueue, deleteWhere, filter_comm, orderBy_filter ho hkeys]

/-- The queue after an update of rows that are not due any more. -/
theorem dueQueue_updateWhere (hf : ∀ r, p (f r) = false) :
    dueQueue le p (updateWhere q f rows) = (dueQueue le p rows).filter (!q ·) := by
  have hrows : (updateWhere q f rows).filter p = (deleteWhere q rows).filter p := by
    clear hu
    induction rows with
    | nil => rfl
    | cons r rows ih => cases hq : q r <;> simp_all [updateWhere, deleteWhere, filter_cons]
  rw [dueQueue, hrows]
  exact dueQueue_deleteWhere ho hu

end

variable [BEq κ] [LawfulBEq κ]

/-- The queue behind its first batch. -/
theorem dueQueue_inBatch (hu : KeysUnique key rows) :
    (dueQueue le p rows).filter (!inBatch key le p limit rows ·) =
      (dueQueue le p rows).drop limit := by
  have hmem : ∀ r ∈ dueQueue le p rows,
      inBatch key le p limit rows r = true ↔ r ∈ (dueQueue le p rows).take limit :=
    fun r hr => inBatch_iff hu (mem_dueQueue.mp hr).1
  have hnodup : (dueQueue le p rows).Nodup := nodup_dueQueue hu
  rw [← take_append_drop limit (dueQueue le p rows)] at hnodup
  have happart := (nodup_append.mp hnodup).2.2
  conv_lhs => rw [← take_append_drop limit (dueQueue le p rows), filter_append]
  have hfront : ((dueQueue le p rows).take limit).filter (!inBatch key le p limit rows ·) = [] := by
    rw [filter_eq_nil_iff]
    intro r hr
    simp [(hmem r (mem_of_mem_take hr)).mpr hr]
  have hrest : ((dueQueue le p rows).drop limit).filter (!inBatch key le p limit rows ·) =
      (dueQueue le p rows).drop limit := by
    rw [filter_eq_self]
    intro r hr
    have hout : ¬ inBatch key le p limit rows r = true := by
      rw [hmem r (mem_of_mem_drop hr)]
      exact fun hfront => happart r hfront r hr rfl
    simp [Bool.eq_false_iff.mpr hout]
  rw [hfront, hrest, nil_append]

end RowTable
