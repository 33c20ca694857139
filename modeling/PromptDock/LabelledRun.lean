/-!
# Runs of a labelled transition system

`Run step s labels s'` says that the steps named by `labels`, taken in order,
lead from `s` to `s'`.  The rules below turn facts about single steps into
facts about whole runs: an invariant (`Run.invariant`), an invariant that also
looks back at the labels (`Run.history`), a relation between the ends of a run
(`Run.relates`), and that something is won at most once (`Run.countP_le_one`).
-/

namespace LabelledRun

open List

universe u v

/-- The steps named by `labels`, in order, lead from the first state to the
second. -/
inductive Run {σ : Type u} {ℓ : Type v} (step : σ → ℓ → σ → Prop) : σ → List ℓ → σ → Prop where
  | nil (s : σ) : Run step s [] s
  | cons {s s₁ s' : σ} {label : ℓ} {labels : List ℓ}
      (hstep : step s label s₁) (hrest : Run step s₁ labels s') :
      Run step s (label :: labels) s'

variable {σ : Type u} {ℓ : Type v} {labels : List ℓ}

namespace Run

variable {step : σ → ℓ → σ → Prop} {s s' : σ} {xs ys : List ℓ} {I : σ → Prop} {P : ℓ → Prop}
  {R : σ → σ → Prop}

/-- Runs compose. -/
theorem append {s1 : σ} (h : Run step s xs s1) (h' : Run step s1 ys s') :
    Run step s (xs ++ ys) s' := by
  induction h with
  | nil => exact h'
  | cons hstep _ ih => exact .cons hstep (ih h')

/-- A run of steps that are steps of another system. -/
theorem mono {step' : σ → ℓ → σ → Prop} (hstep : ∀ s label s', step s label s' → step' s label s')
    (h : Run step s labels s') : Run step' s labels s' := by
  induction h with
  | nil s => exact .nil s
  | cons hfst _ ih => exact .cons (hstep _ _ _ hfst) ih

/-- What every step keeps, every run keeps. -/
theorem invariant (hstep : ∀ s label s', step s label s' → I s → I s') (h : Run step s labels s')
    (hs : I s) : I s' := by
  induction h with
  | nil => exact hs
  | cons hfst _ ih => exact ih (hstep _ _ _ hfst hs)

/-- What every step under an invariant says of its label holds of all labels. -/
theorem forall_mem (hinv : ∀ s label s', step s label s' → I s → I s')
    (hP : ∀ s label s', step s label s' → I s → P label) (h : Run step s labels s') (hs : I s) :
    ∀ label ∈ labels, P label := by
  induction h with
  | nil => simp
  | cons hfst _ ih =>
    intro label hl
    rcases mem_cons.mp hl with rfl | hl
    · exact hP _ _ _ hfst hs
    · exact ih (hinv _ _ _ hfst hs) label hl

/-- A reflexive and transitive relation that every step respects, under an
invariant, relates the ends of every run. -/
theorem relates (hinv : ∀ s label s', step s label s' → I s → I s') (hrefl : ∀ s, R s s)
    (htrans : ∀ a b c, R a b → R b c → R a c)
    (hstep : ∀ s label s', step s label s' → I s → R s s') (h : Run step s labels s') (hs : I s) :
    R s s' := by
  induction h with
  | nil s => exact hrefl s
  | cons hfst _ ih => exact htrans _ _ _ (hstep _ _ _ hfst hs) (ih (hinv _ _ _ hfst hs))

/-- What every step keeps of the labels so far and the state, every run keeps. -/
theorem history {I : List ℓ → σ → Prop}
    (hstep : ∀ xs s label s', step s label s' → I xs s → I (xs ++ [label]) s')
    (h : Run step s labels s') {before : List ℓ} (hs : I before s) : I (before ++ labels) s' := by
  induction h generalizing before with
  | nil =>
    rw [append_nil]
    exact hs
  | @cons s s1 s' label labels hfst _ ih =>
    have hnext := ih (hstep before s label s1 hfst hs)
    rw [append_assoc] at hnext
    exact hnext

/-- A run whose labels all satisfy `P` is a run of the steps so labelled. -/
theorem restrict (h : Run step s labels s') (hP : ∀ label ∈ labels, P label) :
    Run (fun s label s' => step s label s' ∧ P label) s labels s' := by
  induction h with
  | nil s => exact .nil s
  | cons hfst _ ih =>
    refine .cons ⟨hfst, hP _ mem_cons_self⟩ (ih fun label hl => ?_)
    exact hP label (mem_cons_of_mem _ hl)

section

variable {I D : σ → Prop} {wins : ℓ → Bool} (hinv : ∀ s label s', step s label s' → I s → I s')
  (hkept : ∀ s label s', step s label s' → I s → D s → D s')
  (hwin : ∀ s label s', step s label s' → I s → wins label = true → ¬ D s ∧ D s')

include hinv hkept hwin

/-- Nothing is won once it is done. -/
theorem countP_eq_zero (h : Run step s labels s') (hs : I s)
    (hdone : D s) : labels.countP wins = 0 := by
  induction h with
  | nil => rfl
  | @cons s s1 s' label labels hfst _ ih =>
    have hlose : ¬ wins label = true := fun hw => (hwin s label s1 hfst hs hw).1 hdone
    rw [countP_cons_of_neg hlose]
    exact ih (hinv s label s1 hfst hs) (hkept s label s1 hfst hs hdone)

/-- **Won at most once.**  A win needs that the thing is not done, and does it;
what is done stays done. -/
theorem countP_le_one (h : Run step s labels s') (hs : I s) : labels.countP wins ≤ 1 := by
  induction h with
  | nil => exact Nat.zero_le _
  | @cons s s1 s' label labels hfst hrest ih =>
    have hs1 := hinv s label s1 hfst hs
    by_cases hw : wins label = true
    · have hdone := (hwin s label s1 hfst hs hw).2
      have hnone := countP_eq_zero hinv hkept hwin hrest hs1 hdone
      rw [countP_cons_of_pos hw]
      omega
    · rw [countP_cons_of_neg hw]
      exact ih hs1

end

end Run

section

/-- A guarded step that was taken passed its guard. -/
theorem of_guard {α : Type u} {p : Prop} [Decidable p] {a b : α}
    (h : (if p then some a else none) = some b) : p ∧ a = b := by
  split at h
  · exact ⟨‹p›, Option.some.inj h⟩
  · cases h

/-- Take the steps of a partial function in order. -/
def replay (next : σ → ℓ → Option σ) : σ → List ℓ → Option σ
  | s, [] => some s
  | s, label :: labels => (next s label).bind fun s' => replay next s' labels

variable {next : σ → ℓ → Option σ} {s : σ}

/-- A replay that gets through is a run. -/
theorem run_of_replay {s' : σ} (h : replay next s labels = some s') :
    Run (fun s label s' => next s label = some s') s labels s' := by
  induction labels generalizing s with
  | nil =>
    cases h
    exact .nil _
  | cons label labels ih =>
    obtain ⟨s1, hstep, hrest⟩ := Option.bind_eq_some_iff.mp h
    exact .cons hstep (ih hrest)

/-- A replay that ends in a state with `p` is a run to such a state. -/
theorem exists_run_of_any {p : σ → Bool} (h : (replay next s labels).any p = true) :
    ∃ s', Run (fun s label s' => next s label = some s') s labels s' ∧ p s' = true := by
  obtain ⟨s', hreplay, hp⟩ := (Option.any_eq_true ..).mp h
  exact ⟨s', run_of_replay hreplay, hp⟩

/-- A state found by replaying is reached. -/
theorem exists_run {P : σ → Prop} [DecidablePred P]
    (h : (replay next s labels).any (fun s' => decide (P s')) = true) :
    ∃ s', Run (fun s label s' => next s label = some s') s labels s' ∧ P s' := by
  obtain ⟨s', hrun, hP⟩ := exists_run_of_any h
  exact ⟨s', hrun, of_decide_eq_true hP⟩

theorem run_of_isSome (h : (replay next s labels).isSome = true) :
    Run (fun s label s' => next s label = some s') s labels ((replay next s labels).get h) :=
  run_of_replay (Option.some_get h).symm

end

end LabelledRun
