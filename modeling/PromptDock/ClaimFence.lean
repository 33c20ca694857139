import PromptDock.LabelledRun

/-!
# Claims fenced by tokens

Items are claimed under tokens.  A claim draws a token that was never drawn
before; giving the claim up, by its holder or behind the holder's back, clears
the item's token.  Nothing else is asked of a step (`Fence.Moves`).

Freshness alone makes a token a fence.  Once an item no longer carries a token
that was drawn, it never carries it again (`Moves.spent`).  Hence an operation
that needs the item's current token, and clears it, succeeds at most once for
each claim, whatever happens in between (`wins_at_most_once`).
-/

namespace ClaimFence

open LabelledRun

variable {κ τ : Type}

/-- Which token each item carries, and which tokens were ever drawn. -/
structure Fence (κ τ : Type) where
  holder : κ → Option τ
  drawn : τ → Prop

namespace Fence

/-- Tokens in use were drawn. -/
def Sound (f : Fence κ τ) : Prop :=
  ∀ k t, f.holder k = some t → f.drawn t

/-- What one step may do: keep an item's token, clear it, or set a fresh one. -/
structure Moves (f f' : Fence κ τ) : Prop where
  drawn_mono : ∀ t, f.drawn t → f'.drawn t
  holder_cases : ∀ k, f'.holder k = f.holder k ∨ f'.holder k = none ∨
    ∃ t, f'.holder k = some t ∧ ¬ f.drawn t ∧ f'.drawn t

/-- The token was drawn and the item does not carry it. -/
def Spent (f : Fence κ τ) (k : κ) (t : τ) : Prop :=
  f.drawn t ∧ f.holder k ≠ some t

namespace Moves

variable {f f' : Fence κ τ}

/-- A move keeps the claims sound. -/
theorem sound (h : f.Moves f') (hs : f.Sound) : f'.Sound := by
  intro k t hk
  rcases h.holder_cases k with hsame | hnone | ⟨t', hset, _, hdraw⟩
  · exact h.drawn_mono t (hs k t (hsame ▸ hk))
  · rw [hnone] at hk
    cases hk
  rw [hset] at hk
  cases hk
  exact hdraw

/-- A spent token stays spent. -/
theorem spent (h : f.Moves f') {k : κ} {t : τ} (hs : f.Spent k t) : f'.Spent k t := by
  refine ⟨h.drawn_mono t hs.1, ?_⟩
  intro hk
  rcases h.holder_cases k with hsame | hnone | ⟨t', hset, hfresh, _⟩
  · exact hs.2 (hsame ▸ hk)
  · rw [hnone] at hk
    cases hk
  rw [hset] at hk
  cases hk
  exact hfresh hs.1

end Moves

end Fence

section

variable {σ ℓ : Type} {step : σ → ℓ → σ → Prop} {I : σ → Prop} (fence : σ → Fence κ τ)
  {wins : κ → τ → ℓ → Bool}

/-- **At most one win for each claim.**  A win needs the current token and
clears it; afterwards the token is spent. -/
theorem wins_at_most_once (hinv : ∀ s label s', step s label s' → I s → I s')
    (hsound : ∀ s, I s → (fence s).Sound)
    (hmoves : ∀ s label s', step s label s' → I s → (fence s).Moves (fence s'))
    (hwin : ∀ s label s' k t, step s label s' → I s → wins k t label = true →
      (fence s).holder k = some t ∧ (fence s').holder k ≠ some t)
    {s s' : σ} {labels : List ℓ} (hrun : Run step s labels s') (hI : I s) (k : κ) (t : τ) :
    labels.countP (wins k t) ≤ 1 := by
  refine hrun.countP_le_one (D := fun s => (fence s).Spent k t) hinv ?_ ?_ hI
  · exact fun s label s1 hstep hs hspent => (hmoves s label s1 hstep hs).spent hspent
  intro s label s1 hstep hs hw
  obtain ⟨hheld, hclear⟩ := hwin s label s1 k t hstep hs hw
  have hdraw : (fence s1).drawn t :=
    (hmoves s label s1 hstep hs).drawn_mono t (hsound s hs k t hheld)
  exact ⟨fun hspent => hspent.2 hheld, hdraw, hclear⟩

end

end ClaimFence
