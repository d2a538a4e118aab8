/-
  Kelpie.Lib.Runs

  Runs of a labelled step relation whose steps all meet a condition on the label
  and the state they start from.
-/

import Kelpie.Lib.Tx

namespace Kelpie.Lib

variable {σ ℓ : Type}

/-- The states that steps of `step` lead to, each step meeting `ok` where it starts. -/
inductive Run (step : ℓ → σ → σ → Prop) (ok : ℓ → σ → Prop) (s : σ) : σ → Prop where
  | refl : Run step ok s s
  | tail {t u : σ} (l : ℓ) (h_run : Run step ok s t) (h_ok : ok l t) (h_step : step l t u) :
      Run step ok s u

namespace Run

variable {step : ℓ → σ → σ → Prop} {ok : ℓ → σ → Prop} {s t u : σ}

theorem single (l : ℓ) (h_ok : ok l s) (h_step : step l s t) : Run step ok s t :=
  .tail l .refl h_ok h_step

theorem trans (h : Run step ok s t) (h' : Run step ok t u) : Run step ok s u := by
  induction h' with
  | refl => exact h
  | tail l _ h_ok h_step ih => exact .tail l ih h_ok h_step

theorem mono {ok' : ℓ → σ → Prop} (h : Run step ok s t) (h_le : ∀ l s, ok l s → ok' l s) :
    Run step ok' s t := by
  induction h with
  | refl => exact .refl
  | tail l _ h_ok h_step ih => exact .tail l ih (h_le _ _ h_ok) h_step

/-- What every step preserves holds at the end of a run that it holds at the start of. -/
theorem invariant {I : σ → Prop} (h : Run step ok s t) (h_s : I s)
    (h_inv : ∀ l a b, I a → ok l a → step l a b → I b) : I t := by
  induction h with
  | refl => exact h_s
  | tail l _ h_ok h_step ih => exact h_inv l _ _ ih h_ok h_step

/-- A relation that every step keeps relates the ends of a run. -/
theorem relates {R : σ → σ → Prop} [hR : Tx.Stepwise R] (h : Run step ok s t)
    (h_R : ∀ l a b, ok l a → step l a b → R a b) : R s t := by
  induction h with
  | refl => exact hR.refl s
  | tail l _ h_ok h_step ih => exact hR.trans ih (h_R l _ _ h_ok h_step)

instance stepwise : Tx.Stepwise (Run step ok) where
  refl _ := .refl
  trans := trans

end Run

-- ============================================================================
-- Scripts
-- ============================================================================

/-- The steps of a function that takes at most one step under each label. -/
def StepOf (next : ℓ → σ → Option σ) (l : ℓ) (s s' : σ) : Prop := next l s = some s'

/-- The labels can be taken one after the other, each meeting `ok` where it starts, and
    lead to a state that meets `P`. -/
def Script (next : ℓ → σ → Option σ) (ok : ℓ → σ → Prop) (P : σ → Prop) :
    List ℓ → σ → Prop
  | [], s => P s
  | l :: ls, s => ok l s ∧ ∃ s' ∈ next l s, Script next ok P ls s'

/-- A script is decided label by label. -/
def Script.decide {next : ℓ → σ → Option σ} {ok : ℓ → σ → Prop} {P : σ → Prop}
    [∀ l s, Decidable (ok l s)] [DecidablePred P] :
    (ls : List ℓ) → (s : σ) → Decidable (Script next ok P ls s)
  | [], s => inferInstanceAs (Decidable (P s))
  | _ :: ls, _ =>
    have : DecidablePred (Script next ok P ls) := Script.decide ls
    inferInstanceAs (Decidable (_ ∧ _))

instance {next : ℓ → σ → Option σ} {ok : ℓ → σ → Prop} {P : σ → Prop}
    [∀ l s, Decidable (ok l s)] [DecidablePred P] (ls : List ℓ) (s : σ) :
    Decidable (Script next ok P ls s) := Script.decide ls s

theorem Script.run {next : ℓ → σ → Option σ} {ok : ℓ → σ → Prop} {P : σ → Prop} {ls : List ℓ}
    {s : σ} (h : Script next ok P ls s) : ∃ t, Run (StepOf next) ok s t ∧ P t := by
  induction ls generalizing s with
  | nil => exact ⟨s, .refl, h⟩
  | cons l ls ih =>
    obtain ⟨h_ok, s', h_next, h⟩ := h
    obtain ⟨t, h_run, h_t⟩ := ih h
    exact ⟨t, .trans (.single l h_ok h_next) h_run, h_t⟩

end Kelpie.Lib
