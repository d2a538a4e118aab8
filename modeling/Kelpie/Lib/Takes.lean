/-
  Kelpie.Lib.Takes

  A list of which blocks of neighbours are taken, in any order.  Once all of it is
  taken, the list is made of the blocks, each in one piece.  For programs that take
  blocks, the rules by which the blocks of the parts are those of the whole.
-/

import Mathlib.Data.List.Basic
import Kelpie.Lib.Prog

namespace Kelpie.Lib

-- ============================================================================
-- Blocks
-- ============================================================================

section Blocks

variable {α : Type}

/-- A stretch of the list: a symbol that is free, or a block that was taken. -/
inductive Cell (α : Type) where
  | free (a : α)
  | taken (a : α) (rest : List α)

/-- The symbols of the stretch, marked as taken or not. -/
def Cell.marks : Cell α → List (α × Bool)
  | .free a => [(a, false)]
  | .taken a rest => (a, true) :: rest.map (·, true)

/-- The block that a cell is, if it was taken. -/
def Cell.block : Cell α → Option (List α)
  | .free _ => none
  | .taken a rest => some (a :: rest)

/-- The blocks, and nothing else, were taken from the list. -/
def Taken (blocks : List (List α)) (marked : List (α × Bool)) : Prop :=
  ∃ cells : List (Cell α), cells.flatMap Cell.marks = marked ∧
    (cells.filterMap Cell.block).Perm blocks

variable {blocks blocks' : List (List α)} {marked pre post : List (α × Bool)}
  {cells : List (Cell α)} {a b : α}

theorem taken_none (xs : List α) : Taken [] (xs.map (·, false)) := by
  refine ⟨xs.map .free, ?_, ?_⟩
  · induction xs with
    | nil => rfl
    | cons x xs ih =>
      rw [List.map_cons, List.map_cons, List.flatMap_cons, ih]
      rfl
  · rw [List.filterMap_map]
    exact (List.filterMap_eq_nil_iff.mpr fun _ _ => rfl) ▸ .nil

/-- A free symbol of the list is a stretch of its own. -/
theorem cells_split (h : cells.flatMap Cell.marks = pre ++ (a, false) :: post) :
    ∃ cells₁ cells₂, cells = cells₁ ++ .free a :: cells₂ ∧ cells₁.flatMap Cell.marks = pre ∧
      cells₂.flatMap Cell.marks = post := by
  induction cells generalizing pre with
  | nil => simp at h
  | cons cell cells ih =>
    rw [List.flatMap_cons] at h
    cases cell with
    | free x =>
      cases pre with
      | nil =>
        obtain ⟨h_x, h_post⟩ := List.cons.inj h
        obtain rfl : x = a := (Prod.mk.inj h_x).1
        exact ⟨[], cells, rfl, rfl, h_post⟩
      | cons p pre =>
        obtain ⟨rfl, h_rest⟩ := List.cons.inj h
        obtain ⟨cells₁, cells₂, rfl, rfl, h_post⟩ := ih h_rest
        exact ⟨.free x :: cells₁, cells₂, rfl, rfl, h_post⟩
    | taken x rest =>
      -- The symbol is free, so it is past the block.
      rcases List.append_eq_append_iff.mp h with ⟨mid, rfl, h_rest⟩ | ⟨mid, h_block, h_post⟩
      · obtain ⟨cells₁, cells₂, rfl, rfl, h_post⟩ := ih h_rest
        exact ⟨.taken x rest :: cells₁, cells₂, rfl, List.flatMap_cons .., h_post⟩
      · cases mid with
        | nil =>
          obtain ⟨cells₁, cells₂, rfl, h_nil, h_post'⟩ := @ih [] h_post.symm
          refine ⟨.taken x rest :: cells₁, cells₂, rfl, ?_, h_post'⟩
          rw [List.flatMap_cons, h_nil, h_block, List.append_nil, List.append_nil]
        | cons m mid =>
          obtain ⟨rfl, -⟩ := List.cons.inj h_post
          have h_mem : (a, false) ∈ Cell.marks (.taken x rest) := by
            rw [h_block]
            exact List.mem_append_right _ List.mem_cons_self
          simp [Cell.marks] at h_mem

theorem cells_eq_nil (h : cells.flatMap Cell.marks = []) : cells = [] := by
  cases cells with
  | nil => rfl
  | cons cell cells => cases cell <;> simp [Cell.marks] at h

/-- The free symbols of a block that lie next to one another. -/
theorem cells_free {block : List α}
    (h : cells.flatMap Cell.marks = block.map (·, false) ++ post) :
    ∃ cells₂, cells = block.map .free ++ cells₂ ∧ cells₂.flatMap Cell.marks = post := by
  induction block generalizing cells with
  | nil => exact ⟨cells, rfl, h⟩
  | cons x block ih =>
    have h_first : cells.flatMap Cell.marks =
        [] ++ (x, false) :: (block.map (·, false) ++ post) := h
    obtain ⟨cells₁, cells₂, rfl, h_nil, h_rest⟩ := cells_split h_first
    obtain rfl := cells_eq_nil h_nil
    obtain ⟨cells₃, rfl, h_post⟩ := ih h_rest
    exact ⟨cells₃, rfl, h_post⟩

/-- Take a block of free neighbours. -/
theorem Taken.take {block : List α}
    (h : Taken blocks (pre ++ (a :: block).map (·, false) ++ post)) :
    Taken (blocks ++ [a :: block]) (pre ++ (a :: block).map (·, true) ++ post) := by
  obtain ⟨cells, h_marks, h_blocks⟩ := h
  rw [List.append_assoc, List.map_cons, List.cons_append] at h_marks
  obtain ⟨cells₁, cells₂, rfl, rfl, h_rest⟩ := cells_split h_marks
  obtain ⟨cells₃, rfl, rfl⟩ := cells_free h_rest
  refine ⟨cells₁ ++ .taken a block :: cells₃, ?_, ?_⟩
  · simp [Cell.marks]
  · have h_free : (block.map Cell.free).filterMap Cell.block = [] := by
      rw [List.filterMap_map]
      exact List.filterMap_eq_nil_iff.mpr fun _ _ => rfl
    rw [List.filterMap_append, List.filterMap_cons_none rfl, List.filterMap_append, h_free,
      List.nil_append] at h_blocks
    have h_taken : (Cell.taken a block).block = some (a :: block) := rfl
    rw [List.filterMap_append, List.filterMap_cons_some h_taken]
    exact List.perm_middle.trans ((h_blocks.cons _).trans (List.perm_append_singleton _ _).symm)

theorem eq_append_cons_of_getElem? {i : Nat} {m : α × Bool} (h : marked[i]? = some m) :
    ∃ pre post, marked = pre ++ m :: post ∧ pre.length = i := by
  obtain ⟨h_lt, h_get⟩ := List.getElem?_eq_some_iff.mp h
  refine ⟨marked.take i, marked.drop (i + 1), ?_, List.length_take_of_le (Nat.le_of_lt h_lt)⟩
  rw [← h_get, List.getElem_cons_drop, List.take_append_drop]

/-- A mark leaves the list itself as it is. -/
theorem map_fst_set {i : Nat} {used used' : Bool} (h : marked[i]? = some (a, used)) :
    (marked.set i (a, used')).map Prod.fst = marked.map Prod.fst := by
  obtain ⟨pre, post, rfl, rfl⟩ := eq_append_cons_of_getElem? h
  rw [List.set_append_right _ _ (Nat.le_refl _), Nat.sub_self, List.set_cons_zero,
    List.map_append, List.map_append, List.map_cons, List.map_cons]

/-- Take the symbol at a place of the list. -/
theorem Taken.take_one {i : Nat} (h : Taken blocks marked) (h_a : marked[i]? = some (a, false)) :
    Taken (blocks ++ [[a]]) (marked.set i (a, true)) := by
  obtain ⟨pre, post, rfl, rfl⟩ := eq_append_cons_of_getElem? h_a
  have h_take : Taken (blocks ++ [[a]]) (pre ++ [a].map (·, true) ++ post) :=
    Taken.take (by simpa using h)
  rw [List.set_append_right _ _ (Nat.le_refl _), Nat.sub_self, List.set_cons_zero]
  simpa using h_take

/-- Take the symbol at a place of the list with the one after it. -/
theorem Taken.take_two {i : Nat} (h : Taken blocks marked) (h_a : marked[i]? = some (a, false))
    (h_b : marked[i + 1]? = some (b, false)) :
    Taken (blocks ++ [[a, b]]) ((marked.set i (a, true)).set (i + 1) (b, true)) := by
  obtain ⟨pre, post, rfl, rfl⟩ := eq_append_cons_of_getElem? h_a
  have h_one : pre.length + 1 - pre.length = 1 := Nat.add_sub_cancel_left ..
  rw [List.getElem?_append_right (Nat.le_add_right _ _), h_one, List.getElem?_cons_succ] at h_b
  cases post with
  | nil => cases h_b
  | cons m post =>
    obtain rfl := Option.some.inj h_b
    have h_take : Taken (blocks ++ [[a, b]]) (pre ++ [a, b].map (·, true) ++ post) :=
      Taken.take (by simpa using h)
    rw [List.set_append_right _ _ (Nat.le_refl _), Nat.sub_self, List.set_cons_zero,
      List.set_append_right _ _ (Nat.le_add_right _ _), h_one, List.set_cons_succ,
      List.set_cons_zero]
    simpa using h_take

/-- A list that is all taken is made of the blocks. -/
theorem Taken.all (h : Taken blocks marked) (h_all : ∀ m ∈ marked, m.2 = true) :
    ∃ blocks' : List (List α), blocks'.Perm blocks ∧ marked.map Prod.fst = blocks'.flatten := by
  obtain ⟨cells, rfl, h_blocks⟩ := h
  refine ⟨_, h_blocks, ?_⟩
  clear h_blocks
  induction cells with
  | nil => rfl
  | cons cell cells ih =>
    rw [List.flatMap_cons] at h_all ⊢
    have h_rest := ih fun m h_m => h_all m (List.mem_append_right _ h_m)
    cases cell with
    | free x =>
      have h_x := h_all (x, false) (List.mem_append_left _ List.mem_cons_self)
      cases h_x
    | taken x rest =>
      have h_taken : (Cell.taken x rest).block = some (x :: rest) := rfl
      rw [List.filterMap_cons_some h_taken, List.flatten_cons, List.map_append, h_rest]
      simp [Cell.marks, Function.comp_def]

end Blocks

-- ============================================================================
-- Programs
-- ============================================================================

/-- A state with a list of which symbols are taken.  It is clean unless a failure was put aside
    to be raised later. -/
class Marked (σ : Type) (α : outParam Type) where
  marks : σ → List (α × Bool)
  Clean : σ → Prop

section Programs

open Marked

variable {σ ε α β γ : Type} [Marked σ α]

/-- A run that ends well, and with nothing put aside, takes blocks that go with its result. -/
def Takes (x : Prog σ ε β) (Q : β → List (List α) → Prop) : Prop :=
  ∀ s b s', x.run s = (.ok b, s') → Clean s' → Clean s ∧
    (marks s').map Prod.fst = (marks s).map Prod.fst ∧
    ∃ w, Q b w ∧ ∀ blocks, Taken blocks (marks s) → Taken (blocks ++ w) (marks s')

/-- A run that ends well took everything, in blocks that go with its result. -/
def TakesAll (x : Prog σ ε β) (Q : β → List (List α) → Prop) : Prop :=
  ∀ s b s', x.run s = (.ok b, s') → Clean s ∧
    ∃ w, Q b w ∧ ∀ blocks, Taken blocks (marks s) →
      ∃ blocks' : List (List α), blocks'.Perm (blocks ++ w) ∧
        (marks s).map Prod.fst = blocks'.flatten

/-- A run that ends well ends with such a result. -/
def Yields (x : Prog σ ε β) (Q : β → Prop) : Prop := ∀ s b s', x.run s = (.ok b, s') → Q b

variable {x : Prog σ ε β} {f : β → Prog σ ε γ} {P P' : β → List (List α) → Prop}
  {Q : γ → List (List α) → Prop} {b : β}

theorem Takes.mono (h : Takes x P) (h_imp : ∀ b w, P b w → P' b w) : Takes x P' := by
  intro s b s' h_run h_clean
  obtain ⟨h_first, h_same, w, h_w, h_taken⟩ := h s b s' h_run h_clean
  exact ⟨h_first, h_same, w, h_imp b w h_w, h_taken⟩

theorem Takes.pure (h : P b []) : Takes (Pure.pure b : Prog σ ε β) P := by
  intro s b' s' h_run h_clean
  obtain ⟨rfl, rfl⟩ := Prog.run_pure_ok.mp h_run
  exact ⟨h_clean, rfl, [], h, fun _ h_taken => by simpa using h_taken⟩

theorem Takes.fail (e : ε) : Takes (Prog.fail e : Prog σ ε β) P := by
  intro s b s' h_run
  cases h_run

/-- What follows adds its blocks to those of the first part. -/
theorem Takes.bind (hx : Takes x P)
    (hf : ∀ b, Takes (f b) fun c w' => ∀ w, P b w → Q c (w ++ w')) : Takes (x >>= f) Q := by
  intro s c s' h_run h_clean
  obtain ⟨b, s₁, h_x, h_f⟩ := Prog.run_bind_ok.mp h_run
  obtain ⟨h_mid, h_same', w', h_w', h_taken'⟩ := hf b s₁ c s' h_f h_clean
  obtain ⟨h_first, h_same, w, h_w, h_taken⟩ := hx s b s₁ h_x h_mid
  refine ⟨h_first, h_same'.trans h_same, w ++ w', h_w' w h_w, fun blocks h_blocks => ?_⟩
  rw [← List.append_assoc]
  exact h_taken' _ (h_taken _ h_blocks)

theorem TakesAll.bind (hx : Takes x P)
    (hf : ∀ b, TakesAll (f b) fun c w' => ∀ w, P b w → Q c (w ++ w')) :
    TakesAll (x >>= f) Q := by
  intro s c s' h_run
  obtain ⟨b, s₁, h_x, h_f⟩ := Prog.run_bind_ok.mp h_run
  obtain ⟨h_mid, w', h_w', h_all⟩ := hf b s₁ c s' h_f
  obtain ⟨h_first, h_same, w, h_w, h_taken⟩ := hx s b s₁ h_x h_mid
  refine ⟨h_first, w ++ w', h_w' w h_w, fun blocks h_blocks => ?_⟩
  obtain ⟨blocks', h_perm, h_flat⟩ := h_all _ (h_taken _ h_blocks)
  exact ⟨blocks', by rwa [← List.append_assoc], h_same.symm.trans h_flat⟩

/-- The blocks of the first part are those of its result. -/
theorem Takes.bind_eq {words : β → List (List α)} (hx : Takes x fun b w => w = words b)
    (hf : ∀ b, Takes (f b) fun c w' => Q c (words b ++ w')) : Takes (x >>= f) Q := by
  refine hx.bind fun b => (hf b).mono fun c w' h => ?_
  rintro w rfl
  exact h

theorem TakesAll.mono (h : TakesAll x P) (h_imp : ∀ b w, P b w → P' b w) : TakesAll x P' := by
  intro s b s' h_run
  obtain ⟨h_first, w, h_w, h_all⟩ := h s b s' h_run
  exact ⟨h_first, w, h_imp b w h_w, h_all⟩

theorem TakesAll.bind_eq {words : β → List (List α)} (hx : Takes x fun b w => w = words b)
    (hf : ∀ b, TakesAll (f b) fun c w' => Q c (words b ++ w')) : TakesAll (x >>= f) Q := by
  refine .bind hx fun b => (hf b).mono fun c w' h => ?_
  rintro w rfl
  exact h

/-- A value that is computed takes nothing. -/
theorem Takes.bind_ofExcept {r : Except ε β} (hf : ∀ b, r = .ok b → Takes (f b) Q) :
    Takes (Prog.ofExcept r >>= f) Q := by
  intro s c s' h_run
  obtain ⟨b, s₁, h_r, h_f⟩ := Prog.run_bind_ok.mp h_run
  obtain ⟨h_b, rfl⟩ := Prog.run_ofExcept_ok.mp h_r
  exact hf b h_b s c s' h_f

theorem TakesAll.bind_ofExcept {r : Except ε β} (hf : ∀ b, r = .ok b → TakesAll (f b) Q) :
    TakesAll (Prog.ofExcept r >>= f) Q := by
  intro s c s' h_run
  obtain ⟨b, s₁, h_r, h_f⟩ := Prog.run_bind_ok.mp h_run
  obtain ⟨h_b, rfl⟩ := Prog.run_ofExcept_ok.mp h_r
  exact hf b h_b s c s' h_f

/-- Once a check has found that nothing is free, what follows may only compute the result. -/
theorem TakesAll.check {fin : Prog σ ε Unit} {f : Unit → Prog σ ε γ}
    (h_fin : ∀ s u s', fin.run s = (.ok u, s') → Clean s ∧ ∀ m ∈ marks s, m.2 = true)
    (hf : Yields (f ()) fun c => Q c []) : TakesAll (fin >>= f) Q := by
  intro s c s' h_run
  obtain ⟨⟨⟩, s₁, h_u, h_f⟩ := Prog.run_bind_ok.mp h_run
  obtain ⟨h_clean, h_all⟩ := h_fin s () s₁ h_u
  refine ⟨h_clean, [], hf s₁ c s' h_f, fun blocks h_blocks => ?_⟩
  rw [List.append_nil]
  exact h_blocks.all h_all

/-- From a list of which nothing is taken, the blocks of the result are the whole list. -/
theorem TakesAll.whole (h : TakesAll x P) {s s' : σ} {items : List α}
    (h_new : marks s = items.map (·, false)) (h_run : x.run s = (.ok b, s')) :
    ∃ blocks w : List (List α), P b w ∧ blocks.Perm w ∧ items = blocks.flatten := by
  obtain ⟨-, w, h_w, h_all⟩ := h s b s' h_run
  obtain ⟨blocks, h_perm, h_flat⟩ := h_all [] (h_new ▸ taken_none items)
  refine ⟨blocks, w, h_w, h_perm, ?_⟩
  rw [h_new, List.map_map] at h_flat
  simpa [Function.comp_def] using h_flat

variable {R : β → Prop} {R' : γ → Prop}

theorem Yields.pure (h : R b) : Yields (Pure.pure b : Prog σ ε β) R := by
  intro s b' s' h_run
  obtain ⟨rfl, -⟩ := Prog.run_pure_ok.mp h_run
  exact h

theorem Yields.bind_ofExcept {r : Except ε β} (hf : ∀ b, r = .ok b → Yields (f b) R') :
    Yields (Prog.ofExcept r >>= f) R' := by
  intro s c s' h_run
  obtain ⟨b, s₁, h_r, h_f⟩ := Prog.run_bind_ok.mp h_run
  exact hf b (Prog.run_ofExcept_ok.mp h_r).1 s₁ c s' h_f

end Programs

end Kelpie.Lib
