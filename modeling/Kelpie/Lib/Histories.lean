/-
  Kelpie.Lib.Histories

  Tables whose rows stay: each row of the earlier table goes on in the later one,
  as a row that a given relation allows.
-/

import Kelpie.Lib.Rows

namespace Kelpie.Lib

open Tx

namespace Table

variable {ρ κ : Type} {key : ρ → κ} {e : ρ → ρ → Prop}

/-- Every row of `t` goes on in `t'`, as one that `e` relates it to. -/
def GoesOn (e : ρ → ρ → Prop) (t t' : Table key) : Prop := ∀ r ∈ t, ∃ r' ∈ t', e r r'

instance GoesOn.stepwise [he : Stepwise e] :
    Stepwise (GoesOn e : Table key → Table key → Prop) where
  refl _ r h_r := ⟨r, h_r, he.refl r⟩
  trans h h' r h_r := by
    obtain ⟨r₁, h_r₁, h_e⟩ := h r h_r
    obtain ⟨r₂, h_r₂, h_e'⟩ := h' r₁ h_r₁
    exact ⟨r₂, h_r₂, he.trans h_e h_e'⟩

/-- The table stays as it is. -/
def Same (t t' : Table key) : Prop := t' = t

instance Same.stepwise : Stepwise (Same : Table key → Table key → Prop) where
  refl _ := rfl
  trans h h' := h'.trans h

theorem Edits.goesOn {e₀ : ρ → ρ → Prop} {t t' : Table key} (h : Edits e₀ t t')
    (h_le : ∀ r r', e₀ r r' → e r r') : GoesOn e t t' := by
  intro r h_r
  obtain ⟨r', h_r', h_e⟩ := h.image r h_r
  exact ⟨r', h_r', h_le r r' h_e⟩

theorem Adds.goesOn [he : Stepwise e] {new : Option ρ} {t t' : Table key} (h : Adds t new t') :
    GoesOn e t t' :=
  fun r h_r => ⟨r, (h.mem r).mpr (.inl h_r), he.refl r⟩

end Table

-- ============================================================================
-- Frames
-- ============================================================================

namespace Tx

section Frames

variable {σ ε ρ κ : Type} {key : ρ → κ} {T : TableOf σ key} {e : ρ → ρ → Prop}

/-- A table that is read back as it was written. -/
class Readable (T : TableOf σ key) : Prop where
  get_put : ∀ s t, T.get (T.put t s) = t

variable [hT : Readable T]

theorem Over.goesOn_tolerates {e₀ : ρ → ρ → Prop} (h_le : ∀ r r', e₀ r r' → e r r') :
    Tolerates (Over T (Table.GoesOn e)) T e₀ where
  put s t h := by
    rw [Over, hT.get_put]
    exact h.goesOn h_le

instance Over.goesOn_admits [Stepwise e] {new : Table key → ρ → Prop} :
    Admits (Over T (Table.GoesOn e)) T new where
  put s t r _ h := by
    rw [Over, hT.get_put]
    exact h.goesOn

/-- An update keeps the rows when each image is one that its row may go on as. -/
theorem Keeps.goesOn_updateRows [he : Stepwise e] {p : ρ → Prop} [DecidablePred p] {f : ρ → ρ}
    {h_key : ∀ r, key (f r) = key r} (h : ∀ r, p r → e r (f r)) :
    Keeps (Over T (Table.GoesOn e)) (Tx.updateRows T p f h_key : Tx σ ε Nat) :=
  have : Tolerates (Over T (Table.GoesOn e)) T e := Over.goesOn_tolerates fun _ _ => id
  Tolerates.updateRows e h he.refl

end Frames

end Tx

end Kelpie.Lib
