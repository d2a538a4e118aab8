/-
  Kelpie.Lib.Journal

  States with a journal of what was done to them.

  No transaction reads the journal.  What is asked of an entry is asked of the
  entries before it, so that it holds of every journal once it holds of each
  entry when it is written.
-/

import Mathlib.Data.List.Induction
import Kelpie.Lib.Tx

namespace Kelpie.Lib

/-- A state, and what was done to it, in order. -/
structure Journaled (σ L : Type) where
  state : σ
  log : List L := []

/-- Do `x`, and note what it did where it commits. -/
def Tx.noting {σ ε α L : Type} (x : Tx σ ε α) (note : σ → α → List L) :
    Tx (Journaled σ L) ε α :=
  ⟨fun j => match x.run j.state with
    | .ok (a, s) => .ok (a, { state := s, log := j.log ++ note j.state a })
    | .error e => .error e⟩

theorem Tx.run_noting_ok {σ ε α L : Type} {x : Tx σ ε α} {note : σ → α → List L}
    {j j' : Journaled σ L} {a : α} : (x.noting note).run j = .ok (a, j') ↔
      x.run j.state = .ok (a, j'.state) ∧ j'.log = j.log ++ note j.state a := by
  have h_run : (x.noting note).run j = match x.run j.state with
      | .ok (a, s) => .ok (a, { state := s, log := j.log ++ note j.state a })
      | .error e => .error e := rfl
  obtain ⟨s', log'⟩ := j'
  rw [h_run]
  cases x.run j.state with
  | error e =>
    constructor
    · intro h
      cases h
    · rintro ⟨h, -⟩
      cases h
  | ok r =>
    obtain ⟨b, s⟩ := r
    simp only [Except.ok.injEq, Prod.mk.injEq, Journaled.mk.injEq]
    constructor
    · rintro ⟨rfl, rfl, rfl⟩
      exact ⟨⟨rfl, rfl⟩, rfl⟩
    · rintro ⟨⟨rfl, rfl⟩, rfl⟩
      exact ⟨rfl, rfl, rfl⟩

-- ============================================================================
-- Entries that are due
-- ============================================================================

variable {L : Type} {due : List L → L → Prop} {l l' : List L} {a : L}

/-- Every entry is due after the entries before it. -/
def Preceded (due : List L → L → Prop) (l : List L) : Prop :=
  ∀ pre a post, l = pre ++ a :: post → due pre a

theorem Preceded.nil : Preceded due [] :=
  fun _ _ _ h => absurd h.symm (List.append_ne_nil_of_right_ne_nil _ (List.cons_ne_nil _ _))

/-- A journal stays so when what is added to it is due. -/
theorem Preceded.append (h : Preceded due l)
    (h_new : ∀ pre a post, l' = pre ++ a :: post → due (l ++ pre) a) :
    Preceded due (l ++ l') := by
  intro pre a post h_eq
  rcases List.append_eq_append_iff.mp h_eq with ⟨mid, rfl, h_l'⟩ | ⟨mid, rfl, h_post⟩
  · exact h_new mid a post h_l'
  · cases mid with
    | nil =>
      have h_due := h_new [] a post h_post.symm
      rwa [List.append_nil, List.append_nil] at h_due
    | cons b mid =>
      obtain ⟨rfl, -⟩ := List.cons.inj h_post
      exact h pre a mid rfl

theorem Preceded.concat (h : Preceded due l) (h_new : due l a) : Preceded due (l ++ [a]) := by
  refine h.append fun pre b post h_eq => ?_
  cases pre with
  | nil =>
    obtain ⟨rfl, -⟩ := List.cons.inj h_eq
    rwa [List.append_nil]
  | cons c pre => exact absurd (List.cons.inj h_eq).2.symm (by simp)

/-- Every entry of such a journal was due after some of the entries. -/
theorem Preceded.of_mem (h : Preceded due l) (h_a : a ∈ l) : ∃ pre post, l = pre ++ a :: post ∧
    due pre a := by
  obtain ⟨pre, post, rfl⟩ := List.append_of_mem h_a
  exact ⟨pre, post, rfl, h pre a post rfl⟩

/-- An entry that is not due once one of its kind came before it comes at most once. -/
theorem Preceded.countP_le_one {p : L → Bool} (h : Preceded due l)
    (h_p : ∀ pre a, due pre a → p a = true → ∀ b ∈ pre, ¬ p b = true) : l.countP p ≤ 1 := by
  induction l using List.reverseRecOn with
  | nil => exact Nat.zero_le 1
  | append_singleton l a ih =>
    have h_l : Preceded due l := fun pre b post h_eq =>
      h pre b (post ++ [a]) (by rw [h_eq, List.append_assoc, List.cons_append])
    rw [List.countP_append]
    by_cases h_a : p a = true
    · have h_zero : l.countP p = 0 :=
        List.countP_eq_zero.mpr (h_p l a (h l a [] rfl) h_a)
      have h_last : [a].countP p = 1 := by
        rw [List.countP_singleton, if_pos h_a]
      omega
    · rw [List.countP_singleton, if_neg h_a, Nat.add_zero]
      exact ih h_l

end Kelpie.Lib
