/-
  Kelpie.Lib.Prog

  Programs of several transactions.  Each `atomically` commits on its own, so a
  later failure keeps what the earlier ones committed.
-/

import Kelpie.Lib.Tx

namespace Kelpie.Lib

/-- A program over states `σ` that ends with an `ε` or an `α`, in the state that
    its last commit left. -/
structure Prog (σ ε α : Type) where
  run : σ → Except ε α × σ

namespace Prog

variable {σ ε α β : Type}

instance : Monad (Prog σ ε) where
  pure a := ⟨fun s => (.ok a, s)⟩
  bind x f := ⟨fun s =>
    match x.run s with
    | (.error e, s') => (.error e, s')
    | (.ok a, s') => (f a).run s'⟩

-- ============================================================================
-- Steps
-- ============================================================================

/-- Stop with an error. -/
def fail (e : ε) : Prog σ ε α := ⟨fun s => (.error e, s)⟩

/-- Read a value of the current state. -/
def reads (f : σ → α) : Prog σ ε α := ⟨fun s => (.ok (f s), s)⟩

/-- Continue with `x`, or stop with its error. -/
def ofExcept (x : Except ε α) : Prog σ ε α := ⟨fun s => (x, s)⟩

/-- Run one transaction and hand back how it ended; a failed one changes nothing. -/
def attempt (x : Tx σ ε α) : Prog σ ε (Except ε α) :=
  ⟨fun s => match x.run s with
    | .ok (a, s') => (.ok (.ok a), s')
    | .error e => (.ok (.error e), s)⟩

/-- Run one transaction, and stop when it fails. -/
def atomically (x : Tx σ ε α) : Prog σ ε α := do
  let r ← attempt x
  ofExcept r

/-- A transaction on its own commits its state with its result, or leaves the state. -/
theorem run_atomically {x : Tx σ ε α} {s : σ} : (atomically x).run s =
    match x.run s with
    | .ok (a, s') => (Except.ok a, s')
    | .error e => (Except.error e, s) := by
  simp only [atomically, attempt, ofExcept, Bind.bind]
  cases x.run s <;> rfl

/-- How a program ends, failed or not. -/
def result {ε' : Type} (x : Prog σ ε α) : Prog σ ε' (Except ε α) :=
  ⟨fun s => (.ok (x.run s).1, (x.run s).2)⟩

/-- Run `f` on every element of `xs`, in order, and collect the results. -/
def forEach : List α → (α → Prog σ ε β) → Prog σ ε (List β)
  | [], _ => pure []
  | x :: xs, f => do
    let b ← f x
    let bs ← forEach xs f
    pure (b :: bs)

theorem run_result {ε' : Type} {x : Prog σ ε α} {s : σ} :
    (result x : Prog σ ε' (Except ε α)).run s = (.ok (x.run s).1, (x.run s).2) := rfl

/-- The state that a program leaves, whether it failed or not. -/
def final (x : Prog σ ε α) (s : σ) : σ := (x.run s).2

theorem final_bind_ok {x : Prog σ ε α} {f : α → Prog σ ε β} {s s' : σ} {a : α}
    (h : x.run s = (.ok a, s')) : (x >>= f).final s = (f a).final s' := by
  have h_run : (x >>= f).run s = (f a).run s' := by
    simp only [Bind.bind, h]
  rw [final, h_run, final]

theorem final_bind_error {x : Prog σ ε α} {f : α → Prog σ ε β} {s s' : σ} {e : ε}
    (h : x.run s = (.error e, s')) : (x >>= f).final s = s' := by
  have h_run : (x >>= f).run s = (.error e, s') := by
    simp only [Bind.bind, h]
  rw [final, h_run]

/-- A program that ends well, with nothing to hand back. -/
theorem run_of_isOk {x : Prog σ ε Unit} {s : σ} (h : (x.run s).1.isOk) :
    x.run s = (.ok (), x.final s) := by
  refine Prod.ext ?_ rfl
  cases h_run : (x.run s).1 with
  | error e =>
    rw [h_run] at h
    cases h
  | ok u => rfl

/-- A program that ends well ran both of its parts to their ends. -/
theorem run_bind_ok {x : Prog σ ε α} {f : α → Prog σ ε β} {s s' : σ} {b : β} :
    (x >>= f).run s = (.ok b, s') ↔
      ∃ a s₁, x.run s = (.ok a, s₁) ∧ (f a).run s₁ = (.ok b, s') := by
  simp only [Bind.bind]
  split
  · rename_i h
    simp [h]
  · rename_i a s₁ h
    rw [h]
    constructor
    · exact fun h_f => ⟨a, s₁, rfl, h_f⟩
    · rintro ⟨_, _, h_same, h_f⟩
      cases h_same
      exact h_f

theorem run_pure_ok {a b : α} {s s' : σ} :
    (pure a : Prog σ ε α).run s = (.ok b, s') ↔ a = b ∧ s = s' := by
  show (Except.ok a, s) = (Except.ok b, s') ↔ _
  simp

theorem run_ofExcept_ok {x : Except ε α} {a : α} {s s' : σ} :
    (ofExcept x : Prog σ ε α).run s = (.ok a, s') ↔ x = .ok a ∧ s = s' := by
  show (x, s) = (Except.ok a, s') ↔ _
  simp

theorem run_reads_ok {f : σ → α} {a : α} {s s' : σ} :
    (reads f : Prog σ ε α).run s = (.ok a, s') ↔ f s = a ∧ s = s' := by
  show (Except.ok (f s), s) = (Except.ok a, s') ↔ _
  simp

theorem run_atomically_ok {x : Tx σ ε α} {a : α} {s s' : σ} :
    (atomically x).run s = (.ok a, s') ↔ x.run s = .ok (a, s') := by
  rw [run_atomically]
  cases x.run s with
  | error e => simp
  | ok r => simp [Prod.ext_iff]

/-- What follows a choice is what follows either branch of it. -/
theorem run_ite_bind {c : Prop} [Decidable c] {x y : Prog σ ε α} {f : α → Prog σ ε β} {s : σ} :
    (if c then x >>= f else y >>= f).run s = ((if c then x else y) >>= f).run s := by
  split <;> rfl

/-- An attempt that was handed back as committed did commit; otherwise nothing changed. -/
theorem run_attempt_ok {x : Tx σ ε α} {r : Except ε α} {s s' : σ}
    (h : (attempt x : Prog σ ε (Except ε α)).run s = (.ok r, s')) :
    (∃ a, r = .ok a ∧ x.run s = .ok (a, s')) ∨ (∃ e, r = .error e ∧ s' = s) := by
  unfold attempt at h
  dsimp only at h
  cases h_x : x.run s with
  | error e =>
    rw [h_x] at h
    simp only [Prod.mk.injEq, Except.ok.injEq] at h
    exact .inr ⟨e, h.1.symm, h.2.symm⟩
  | ok p =>
    rw [h_x] at h
    simp only [Prod.mk.injEq, Except.ok.injEq] at h
    obtain ⟨rfl, rfl⟩ := h
    exact .inl ⟨p.1, rfl, rfl⟩

/-- A value that is handed back at the end changes nothing. -/
theorem final_bind_pure {x : Prog σ ε α} {f : α → β} {s : σ} :
    (x >>= fun a => pure (f a)).final s = x.final s := by
  cases h : x.run s with
  | mk r s' =>
    rw [show x.final s = s' from congrArg Prod.snd h]
    cases r with
    | error e => exact final_bind_error h
    | ok a => exact final_bind_ok h

-- ============================================================================
-- Kept relations
-- ============================================================================

/-- Every run of `x`, failed or not, relates its first state to its last by `R`. -/
class Keeps (R : σ → σ → Prop) (x : Prog σ ε α) : Prop where
  keeps : ∀ s, R s (x.final s)

section Rules

variable {R : σ → σ → Prop} [hR : Tx.Stepwise R]

instance Keeps.pure (a : α) : Keeps R (Pure.pure a : Prog σ ε α) := ⟨fun s => hR.refl s⟩

instance Keeps.fail (e : ε) : Keeps R (Prog.fail e : Prog σ ε α) := ⟨fun s => hR.refl s⟩

instance Keeps.reads (f : σ → α) : Keeps R (Prog.reads f : Prog σ ε α) :=
  ⟨fun s => hR.refl s⟩

instance Keeps.ofExcept (x : Except ε α) : Keeps R (Prog.ofExcept x : Prog σ ε α) :=
  ⟨fun s => hR.refl s⟩

instance Keeps.attempt (x : Tx σ ε α) [hx : Tx.Keeps R x] : Keeps R (Prog.attempt x) where
  keeps s := by
    unfold Prog.final Prog.attempt
    dsimp only
    split
    · rename_i h
      exact hx.keeps h
    · exact hR.refl s

instance Keeps.bind (x : Prog σ ε α) (f : α → Prog σ ε β) [hx : Keeps R x]
    [hf : ∀ a, Keeps R (f a)] : Keeps R (x >>= f) where
  keeps s := by
    have h_x := hx.keeps s
    unfold Prog.final at h_x
    change R s (match x.run s with
      | (Except.error e, s') => (Except.error e, s')
      | (Except.ok a, s') => (f a).run s').2
    split
    · rename_i h
      rwa [h] at h_x
    · rename_i h
      rw [h] at h_x
      exact hR.trans h_x ((hf _).keeps _)

omit hR in
/-- What follows a program relates the state that the program leaves to the last one. -/
theorem final_bind [hR : Tx.Stepwise R] {x : Prog σ ε α} {f : α → Prog σ ε β}
    (hf : ∀ a, Keeps R (f a)) (s : σ) : R (x.final s) ((x >>= f).final s) := by
  cases h : x.run s with
  | mk r s' =>
    rw [show x.final s = s' from congrArg Prod.snd h]
    cases r with
    | error e =>
      rw [final_bind_error h]
      exact hR.refl s'
    | ok a =>
      rw [final_bind_ok h]
      exact (hf a).keeps s'

instance Keeps.atomically (x : Tx σ ε α) [Tx.Keeps R x] : Keeps R (Prog.atomically x) := by
  unfold Prog.atomically
  infer_instance

omit hR in
instance Keeps.result {ε' : Type} (x : Prog σ ε α) [hx : Keeps R x] :
    Keeps R (Prog.result x : Prog σ ε' (Except ε α)) := ⟨hx.keeps⟩

instance Keeps.ite (c : Prop) [Decidable c] (x y : Prog σ ε α) [hx : Keeps R x]
    [hy : Keeps R y] : Keeps R (if c then x else y) where
  keeps s := by
    split
    · exact hx.keeps s
    · exact hy.keeps s

theorem Keeps.forEach_mem {xs : List α} {f : α → Prog σ ε β} (hf : ∀ a ∈ xs, Keeps R (f a)) :
    Keeps R (Prog.forEach xs f) := by
  induction xs with
  | nil => exact Keeps.pure []
  | cons x xs ih =>
    have h_x : Keeps R (f x) := hf x List.mem_cons_self
    have h_xs : Keeps R (Prog.forEach xs f) := ih fun a h_a => hf a (List.mem_cons_of_mem x h_a)
    unfold Prog.forEach
    infer_instance

instance Keeps.forEach (xs : List α) (f : α → Prog σ ε β) [hf : ∀ a, Keeps R (f a)] :
    Keeps R (Prog.forEach xs f) :=
  forEach_mem fun a _ => hf a

omit hR in
/-- A run relates its first state to the one it ended in. -/
theorem Keeps.of_run {x : Prog σ ε α} (hx : Keeps R x) {s s' : σ} {r : Except ε α}
    (h : x.run s = (r, s')) : R s s' := by
  rw [← show x.final s = s' from congrArg Prod.snd h]
  exact hx.keeps s

omit hR in
/-- A loop that ends well ran its body for each element, between states that `R` relates. -/
theorem forEach_ok [hR : Tx.Stepwise R] {xs : List α} {f : α → Prog σ ε β} {s s' : σ}
    {bs : List β} (hf : ∀ a, Keeps R (f a)) (h : (Prog.forEach xs f).run s = (.ok bs, s'))
    {x : α} (h_x : x ∈ xs) :
    ∃ t t' b, R s t ∧ (f x).run t = (.ok b, t') ∧ R t' s' := by
  induction xs generalizing s bs with
  | nil => cases h_x
  | cons y ys ih =>
    rw [Prog.forEach, run_bind_ok] at h
    obtain ⟨b, s₁, h_y, h⟩ := h
    obtain ⟨bs', s₂, h_ys, h_end⟩ := run_bind_ok.mp h
    obtain rfl : s₂ = s' := congrArg Prod.snd h_end
    rcases List.mem_cons.mp h_x with rfl | h_x
    · refine ⟨s, s₁, b, hR.refl s, h_y, ?_⟩
      rw [← show (Prog.forEach ys f).final s₁ = s₂ from congrArg Prod.snd h_ys]
      exact (Keeps.forEach ys f).keeps s₁
    · obtain ⟨t, t', b', h_before, h_run, h_after⟩ := ih h_ys h_x
      refine ⟨t, t', b', hR.trans ?_ h_before, h_run, h_after⟩
      rw [← show (f y).final s = s₁ from congrArg Prod.snd h_y]
      exact (hf y).keeps s

end Rules

end Prog

end Kelpie.Lib
