/-
  Kelpie.Lib.Texts

  Texts that are coded symbol by symbol, texts that are made of words, and texts
  that are split at a divider.
-/

import Mathlib.Data.List.Basic

namespace Kelpie.Lib

variable {α β : Type}

-- The list is searched, not the characters.
instance decidableBAllChars {cs : List Char} {p : Char → Prop} [DecidablePred p] :
    Decidable (∀ ch ∈ cs, p ch) :=
  List.decidableBAll p cs

-- ============================================================================
-- Codes
-- ============================================================================

/-- The code of a symbol can be read off the front of any text that it begins. -/
def PrefixFree (f : α → List β) : Prop :=
  ∀ a b u v, f a ++ u = f b ++ v → a = b ∧ u = v

theorem PrefixFree.flatMap_injective {f : α → List β} (h : PrefixFree f)
    (h_ne : ∀ a, f a ≠ []) : Function.Injective (List.flatMap f) := by
  intro l
  induction l with
  | nil =>
    rintro (_ | ⟨b, l'⟩) h_eq
    · rfl
    · rw [List.flatMap_nil, List.flatMap_cons] at h_eq
      exact absurd (List.append_eq_nil_iff.mp h_eq.symm).1 (h_ne b)
  | cons a l ih =>
    rintro (_ | ⟨b, l'⟩) h_eq
    · rw [List.flatMap_nil, List.flatMap_cons] at h_eq
      exact absurd (List.append_eq_nil_iff.mp h_eq).1 (h_ne a)
    · rw [List.flatMap_cons, List.flatMap_cons] at h_eq
      obtain ⟨rfl, h_rest⟩ := h a b _ _ h_eq
      rw [ih h_rest]

-- ============================================================================
-- Words
-- ============================================================================

/-- A text is read up to the first separator. -/
theorem append_cons_inj {sep : α} {u v x y : List α} (h : sep ∉ u) (h' : sep ∉ v)
    (h_eq : u ++ sep :: x = v ++ sep :: y) : u = v ∧ x = y := by
  induction u generalizing v with
  | nil =>
    cases v with
    | nil => exact ⟨rfl, (List.cons.inj h_eq).2⟩
    | cons b v => exact absurd ((List.cons.inj h_eq).1 ▸ List.mem_cons_self) h'
  | cons a u ih =>
    cases v with
    | nil => exact absurd ((List.cons.inj h_eq).1 ▸ List.mem_cons_self) h
    | cons b v =>
      obtain ⟨rfl, h_rest⟩ := List.cons.inj h_eq
      rw [List.mem_cons, not_or] at h h'
      obtain ⟨rfl, h_tail⟩ := ih h.2 h'.2 h_rest
      exact ⟨rfl, h_tail⟩

/-- What is before the first separator, and what is after it. -/
def splitOnce [DecidableEq α] (sep : α) : List α → Option (List α × List α)
  | [] => none
  | a :: text => if a = sep then some ([], text)
    else (splitOnce sep text).map fun halves => (a :: halves.1, halves.2)

theorem splitOnce_append [DecidableEq α] {sep : α} {u v : List α} (h : sep ∉ u) :
    splitOnce sep (u ++ sep :: v) = some (u, v) := by
  induction u with
  | nil => exact if_pos rfl
  | cons a u ih =>
    rw [List.mem_cons, not_or] at h
    rw [List.cons_append, splitOnce, if_neg (Ne.symm h.1), ih h.2]
    rfl

theorem splitOnce_eq_none [DecidableEq α] {sep : α} {text : List α} (h : sep ∉ text) :
    splitOnce sep text = none := by
  induction text with
  | nil => rfl
  | cons a text ih =>
    rw [List.mem_cons, not_or] at h
    rw [splitOnce, if_neg (Ne.symm h.1), ih h.2]
    rfl

/-- The words, each with the separator after it. -/
def separated (sep : α) (words : List (List α)) : List α := words.flatMap (· ++ [sep])

/-- The words of a text can be read off it. -/
theorem separated_inj {sep : α} {words words' : List (List α)} (h : ∀ w ∈ words, sep ∉ w)
    (h' : ∀ w ∈ words', sep ∉ w) (h_eq : separated sep words = separated sep words') :
    words = words' := by
  induction words generalizing words' with
  | nil =>
    cases words' with
    | nil => rfl
    | cons w' words' => simp [separated] at h_eq
  | cons w words ih =>
    cases words' with
    | nil => simp [separated] at h_eq
    | cons w' words' =>
      simp only [separated, List.flatMap_cons, List.append_assoc, List.singleton_append] at h_eq
      obtain ⟨rfl, h_rest⟩ :=
        append_cons_inj (h w List.mem_cons_self) (h' w' List.mem_cons_self) h_eq
      rw [ih (fun v h_v => h v (List.mem_cons_of_mem _ h_v))
        (fun v h_v => h' v (List.mem_cons_of_mem _ h_v)) h_rest]

/-- Strings that go apart where both begin are not equal. -/
theorem append_ne {p q a b : String} (h : ¬ p.toList <+: q.toList) (h' : ¬ q.toList <+: p.toList) :
    p ++ a ≠ q ++ b := by
  intro h_eq
  have h_list : p.toList ++ a.toList = q.toList ++ b.toList := by
    rw [← String.toList_append, h_eq, String.toList_append]
  rcases List.prefix_or_prefix_of_prefix (List.prefix_append p.toList a.toList)
    (h_list ▸ List.prefix_append q.toList b.toList) with h_p | h_q
  · exact h h_p
  · exact h' h_q

-- ============================================================================
-- Dividers
-- ============================================================================

variable {d p r text : List α} {n : Nat}

/-- `d` stands in the text after its first `n` symbols. -/
def OccursAt (d text : List α) (n : Nat) : Prop := d <+: text.drop n

instance [DecidableEq α] (d text : List α) : DecidablePred (OccursAt d text) := fun n =>
  inferInstanceAs (Decidable (d <+: text.drop n))

theorem occursAt_length : OccursAt d (p ++ d ++ r) p.length := by
  refine ⟨r, ?_⟩
  rw [List.append_assoc, List.drop_left]

theorem OccursAt.lt_length (h : OccursAt d text n) (h_d : d ≠ []) : n < text.length := by
  obtain ⟨r, h_r⟩ := h
  rw [← List.drop_eq_nil_iff.not.trans Nat.not_le, ← h_r]
  exact fun h_nil => h_d (List.append_eq_nil_iff.mp h_nil).1

/-- An occurrence splits the text. -/
theorem OccursAt.split (h : OccursAt d text n) (h_d : d ≠ []) :
    ∃ p r, p ++ d ++ r = text ∧ p.length = n := by
  have h_n := h.lt_length h_d
  obtain ⟨r, h_r⟩ := h
  refine ⟨text.take n, r, ?_, List.length_take_of_le (Nat.le_of_lt h_n)⟩
  rw [List.append_assoc, h_r, List.take_append_drop]

/-- A text splits at the divider in one way exactly where the divider stands in it once. -/
theorem split_unique_iff (h_d : d ≠ []) :
    (∀ p' r', p' ++ d ++ r' = p ++ d ++ r → p' = p ∧ r' = r) ↔
      ∀ n, OccursAt d (p ++ d ++ r) n → n = p.length := by
  constructor
  · intro h n h_n
    obtain ⟨p', r', h_eq, h_length⟩ := h_n.split h_d
    rw [← (h p' r' h_eq).1]
    exact h_length.symm
  · intro h p' r' h_eq
    have h_length : p'.length = p.length := h p'.length (h_eq ▸ occursAt_length)
    rw [List.append_assoc, List.append_assoc] at h_eq
    obtain ⟨rfl, h_rest⟩ := List.append_inj h_eq h_length
    exact ⟨rfl, List.append_cancel_left h_rest⟩

end Kelpie.Lib
