/-
  Kelpie.Lib.Process

  Programs as the tree of their transactions, so that the database may fail any
  of them and the process may die before any of them.

  A program is run against the fates of its transactions, one for each in turn;
  those that no fate is given for are committed.  `wp` is the weakest
  precondition of a program over all fates: the postcondition also has to hold
  where the process dies.
-/

import Kelpie.Lib.Tx

namespace Kelpie.Lib

/-- What becomes of the next transaction of a program. -/
inductive Fate (τ : Type) where
  | commit
  | fault (e : τ)
  | crash
deriving DecidableEq, Repr

/-- The transaction is left to itself. -/
def Fate.Commits {τ : Type} : Option (Fate τ) → Prop
  | none | some .commit => True
  | some (.fault _) | some .crash => False

instance {τ : Type} : DecidablePred fun fate : Option (Fate τ) => Fate.Commits fate := fun _ => by
  unfold Fate.Commits
  dsimp only
  split <;> infer_instance

/-- How a transaction ends, and the state after it: a failed one leaves the state. -/
def Tx.ends {σ τ β : Type} (x : Tx σ τ β) (s : σ) : Except τ β × σ :=
  match x.run s with
  | .ok (b, s') => (.ok b, s')
  | .error e => (.error e, s)

theorem Tx.ends_cases {σ τ β : Type} (x : Tx σ τ β) (s : σ) :
    (∃ b s', x.run s = .ok (b, s') ∧ x.ends s = (.ok b, s')) ∨
      ∃ e, x.run s = .error e ∧ x.ends s = (.error e, s) := by
  unfold Tx.ends
  cases x.run s with
  | ok r => exact .inl ⟨r.1, r.2, rfl, rfl⟩
  | error e => exact .inr ⟨e, rfl, rfl⟩

/-- A program of transactions that fail with a `τ`; it ends with an `ε` or an `α`. -/
inductive Process (σ τ ε α : Type) : Type 1 where
  | pure (a : α)
  | fail (e : ε)
  | step {β : Type} (x : Tx σ τ β) (next : Except τ β → Process σ τ ε α)

namespace Process

variable {σ τ ε ε' α β : Type}

/-- Go on with the answer, where there is one. -/
def bind : Process σ τ ε α → (α → Process σ τ ε β) → Process σ τ ε β
  | .pure a, f => f a
  | .fail e, _ => .fail e
  | .step x next, f => .step x fun r => (next r).bind f

instance : Monad (Process σ τ ε) where
  pure := .pure
  bind := .bind

/-- Run `x` to its end and hand back how it ended. -/
def result : Process σ τ ε α → Process σ τ ε' (Except ε α)
  | .pure a => .pure (.ok a)
  | .fail e => .pure (.error e)
  | .step x next => .step x fun r => (next r).result

/-- One transaction, whose failure ends the program. -/
def tx (wrap : τ → ε) (x : Tx σ τ α) : Process σ τ ε α :=
  .step x fun r => match r with
    | .ok a => .pure a
    | .error e => .fail (wrap e)

/-- One transaction whose failure is passed over. -/
def attempt (x : Tx σ τ α) : Process σ τ ε Unit := .step x fun _ => .pure ()

/-- Continue with `x`, or end with its error. -/
def ofExcept : Except ε α → Process σ τ ε α
  | .ok a => .pure a
  | .error e => .fail e

/-- Run `f` on every element of `xs`, in order. -/
def forEach : List α → (α → Process σ τ ε Unit) → Process σ τ ε Unit
  | [], _ => .pure ()
  | x :: xs, f => do
    f x
    forEach xs f

/-- Run the program against the fates of its transactions; without a result, it died. -/
def run : Process σ τ ε α → List (Fate τ) → σ → Option (Except ε α) × σ
  | .pure a, _, s => (some (.ok a), s)
  | .fail e, _, s => (some (.error e), s)
  | .step x next, fates, s =>
    match fates.head? with
    | some .crash => (none, s)
    | some (.fault e) => (next (.error e)).run fates.tail s
    | _ => (next (x.ends s).1).run fates.tail (x.ends s).2

-- ============================================================================
-- Runs
-- ============================================================================

/-- The fates that a run of the program leaves for what follows it. -/
def rest : Process σ τ ε α → List (Fate τ) → σ → List (Fate τ)
  | .pure _, fates, _ => fates
  | .fail _, fates, _ => fates
  | .step x next, fates, s =>
    match fates.head? with
    | some .crash => fates.tail
    | some (.fault e) => (next (.error e)).rest fates.tail s
    | _ => (next (x.ends s).1).rest fates.tail (x.ends s).2

section Runs

variable {p : Process σ τ ε α} {fates : List (Fate τ)} {s s' : σ}

/-- What follows a program that ends runs on from there. -/
theorem run_bind_ok {f : α → Process σ τ ε β} {a : α} (h : p.run fates s = (some (.ok a), s')) :
    (p >>= f).run fates s = (f a).run (p.rest fates s) s' := by
  show (p.bind f).run fates s = _
  induction p generalizing fates s with
  | pure b =>
    cases h
    rfl
  | fail e => cases h
  | step x next ih =>
    rw [bind, run, rest]
    rw [run] at h
    split
    · rename_i h_head
      rw [h_head] at h
      cases h
    · rename_i e h_head
      rw [h_head] at h
      exact ih _ h
    · rename_i h_crash h_fault
      split at h
      · rename_i h_head
        exact absurd h_head h_crash
      · rename_i e h_head
        exact absurd h_head (h_fault e)
      · exact ih _ h

/-- What follows a program that fails or dies does not run. -/
theorem run_bind_of_not_ok {f : α → Process σ τ ε β}
    (h : ∀ a, (p.run fates s).1 ≠ some (.ok a)) :
    ((p >>= f).run fates s).2 = (p.run fates s).2 := by
  show ((p.bind f).run fates s).2 = _
  induction p generalizing fates s with
  | pure a => exact absurd rfl (h a)
  | fail e => rfl
  | step x next ih =>
    rw [bind, run, run]
    rw [run] at h
    split
    · rfl
    · rename_i e h_head
      rw [h_head] at h
      exact ih _ h
    · rename_i h_crash h_fault
      split at h
      · rename_i h_head
        exact absurd h_head h_crash
      · rename_i e h_head
        exact absurd h_head (h_fault e)
      · exact ih _ h

/-- A program that does not come to its answer does not come to that of what follows. -/
theorem run_bind_not_ok {f : α → Process σ τ ε β}
    (h : ∀ a, (p.run fates s).1 ≠ some (.ok a)) (b : β) :
    ((p >>= f).run fates s).1 ≠ some (.ok b) := by
  show ((p.bind f).run fates s).1 ≠ _
  induction p generalizing fates s with
  | pure a => exact absurd rfl (h a)
  | fail e => nofun
  | step x next ih =>
    rw [bind, run]
    rw [run] at h
    split
    · nofun
    · rename_i e h_head
      rw [h_head] at h
      exact ih _ h
    · rename_i h_crash h_fault
      split at h
      · rename_i h_head
        exact absurd h_head h_crash
      · rename_i e h_head
        exact absurd h_head (h_fault e)
      · exact ih _ h

/-- A run dies only of a crash among its fates. -/
theorem crash_of_run (h : (p.run fates s).1 = none) : .crash ∈ fates := by
  induction p generalizing fates s with
  | pure a => cases h
  | fail e => cases h
  | step x next ih =>
    rw [run] at h
    split at h
    · rename_i h_head
      exact List.mem_of_head? h_head
    · exact List.mem_of_mem_tail (ih _ h)
    · exact List.mem_of_mem_tail (ih _ h)

theorem run_result : (p.result : Process σ τ ε' (Except ε α)).run fates s =
    ((p.run fates s).1.map .ok, (p.run fates s).2) := by
  induction p generalizing fates s with
  | pure a => rfl
  | fail e => rfl
  | step x next ih =>
    rw [result, run, run]
    split
    · rfl
    · exact ih _
    · exact ih _

theorem rest_result : (p.result : Process σ τ ε' (Except ε α)).rest fates s = p.rest fates s := by
  induction p generalizing fates s with
  | pure a => rfl
  | fail e => rfl
  | step x next ih =>
    rw [result, rest, rest]
    split
    · rfl
    · exact ih _
    · exact ih _

/-- A transaction dies, fails or commits. -/
theorem run_tx_cases {wrap : τ → ε} {x : Tx σ τ α} (fates : List (Fate τ)) (s : σ) :
    (¬ Fate.Commits fates.head? ∧ (∀ a, ((tx wrap x).run fates s).1 ≠ some (.ok a)) ∧
        ((tx wrap x).run fates s).2 = s) ∨
      (Fate.Commits fates.head? ∧ ∃ e, x.run s = .error e ∧
        (tx wrap x).run fates s = (some (.error (wrap e)), s)) ∨
      Fate.Commits fates.head? ∧ (tx wrap x).rest fates s = fates.tail ∧
        ∃ a s', x.run s = .ok (a, s') ∧ (tx wrap x).run fates s = (some (.ok a), s') := by
  have h_commits (h_head : Fate.Commits fates.head?)
      (h_run : (tx wrap x).run fates s = ((match (x.ends s).1 with
          | .ok a => .pure a
          | .error e => .fail (wrap e) : Process σ τ ε α)).run fates.tail (x.ends s).2)
      (h_rest : (tx wrap x).rest fates s = ((match (x.ends s).1 with
          | .ok a => .pure a
          | .error e => .fail (wrap e) : Process σ τ ε α)).rest fates.tail (x.ends s).2) :
      (∃ e, x.run s = .error e ∧ (tx wrap x).run fates s = (some (.error (wrap e)), s)) ∨
        (tx wrap x).rest fates s = fates.tail ∧
          ∃ a s', x.run s = .ok (a, s') ∧ (tx wrap x).run fates s = (some (.ok a), s') := by
    obtain ⟨a, s', h_x, h_ends⟩ | ⟨e, h_x, h_ends⟩ := x.ends_cases s
    · rw [h_ends] at h_run h_rest
      exact .inr ⟨h_rest, a, s', h_x, h_run⟩
    · rw [h_ends] at h_run
      exact .inl ⟨e, h_x, h_run⟩
  cases h_head : fates.head? with
  | none =>
    have h := h_commits (h_head ▸ trivial) (by rw [tx, run, h_head]) (by rw [tx, rest, h_head])
    exact .inr (h.imp (fun h => ⟨trivial, h⟩) fun h => ⟨trivial, h⟩)
  | some fate =>
    cases fate with
    | commit =>
      have h := h_commits (h_head ▸ trivial) (by rw [tx, run, h_head]) (by rw [tx, rest, h_head])
      exact .inr (h.imp (fun h => ⟨trivial, h⟩) fun h => ⟨trivial, h⟩)
    | crash =>
      have h_run : (tx wrap x).run fates s = (none, s) := by rw [tx, run, h_head]
      refine .inl ⟨by simp [Fate.Commits], ?_, congrArg Prod.snd h_run⟩
      rw [h_run]
      nofun
    | fault e =>
      have h_run : (tx wrap x).run fates s = (some (.error (wrap e)), s) := by
        rw [tx, run, h_head]
        rfl
      refine .inl ⟨by simp [Fate.Commits], ?_, congrArg Prod.snd h_run⟩
      rw [h_run]
      nofun

end Runs

-- ============================================================================
-- Weakest preconditions
-- ============================================================================

/-- The states from which every run of the program ends in `Q`. -/
def wp : Process σ τ ε α → (Option (Except ε α) → σ → Prop) → σ → Prop
  | .pure a, Q, s => Q (some (.ok a)) s
  | .fail e, Q, s => Q (some (.error e)) s
  | .step x next, Q, s =>
    Q none s ∧ (∀ e, (next (.error e)).wp Q s) ∧ (next (x.ends s).1).wp Q (x.ends s).2

section Rules

variable {p : Process σ τ ε α} {Q Q' : Option (Except ε α) → σ → Prop} {s : σ}

theorem wp_step {x : Tx σ τ β} {next : Except τ β → Process σ τ ε α} :
    (step x next).wp Q s ↔ Q none s ∧ (∀ e, (next (.error e)).wp Q s) ∧
      (next (x.ends s).1).wp Q (x.ends s).2 := .rfl

/-- Whatever the fates, a run from a state of the weakest precondition ends in `Q`. -/
theorem wp_run (h : p.wp Q s) (fates : List (Fate τ)) :
    Q (p.run fates s).1 (p.run fates s).2 := by
  induction p generalizing fates s with
  | pure a => exact h
  | fail e => exact h
  | step x next ih =>
    obtain ⟨h_crash, h_fault, h_commit⟩ := wp_step.mp h
    unfold run
    split
    · exact h_crash
    · exact ih _ (h_fault _) _
    · exact ih _ h_commit _

theorem wp_mono (h : p.wp Q s) (h_le : ∀ r s, Q r s → Q' r s) : p.wp Q' s := by
  induction p generalizing s with
  | pure a => exact h_le _ _ h
  | fail e => exact h_le _ _ h
  | step x next ih =>
    obtain ⟨h_crash, h_fault, h_commit⟩ := wp_step.mp h
    exact wp_step.mpr ⟨h_le _ _ h_crash, fun e => ih _ (h_fault e), ih _ h_commit⟩

/-- What follows a program starts where it ends, unless it failed or died. -/
theorem wp_bind {f : α → Process σ τ ε β} {Q : Option (Except ε β) → σ → Prop} :
    (p >>= f).wp Q s ↔ p.wp (fun r s => match r with
      | none => Q none s
      | some (.error e) => Q (some (.error e)) s
      | some (.ok a) => (f a).wp Q s) s := by
  show (p.bind f).wp Q s ↔ _
  induction p generalizing s with
  | pure a => exact .rfl
  | fail e => exact .rfl
  | step x next ih =>
    exact and_congr .rfl (and_congr (forall_congr' fun _ => ih _) (ih _))

theorem wp_result {Q : Option (Except ε' (Except ε α)) → σ → Prop} :
    (p.result : Process σ τ ε' (Except ε α)).wp Q s ↔
      p.wp (fun r s => Q (r.map .ok) s) s := by
  induction p generalizing s with
  | pure a => exact .rfl
  | fail e => exact .rfl
  | step x next ih =>
    exact and_congr .rfl (and_congr (forall_congr' fun _ => ih _) (ih _))

/-- A transaction ends the program where it fails, and may be the last thing it does. -/
theorem wp_tx {wrap : τ → ε} {x : Tx σ τ α} (h_none : Q none s)
    (h_fault : ∀ e, Q (some (.error (wrap e))) s)
    (h_ok : ∀ a s', x.run s = .ok (a, s') → Q (some (.ok a)) s') : (tx wrap x).wp Q s := by
  refine wp_step.mpr ⟨h_none, h_fault, ?_⟩
  obtain ⟨a, s', h_x, h_ends⟩ | ⟨e, h_x, h_ends⟩ := x.ends_cases s
  · rw [h_ends]
    exact h_ok a s' h_x
  · rw [h_ends]
    exact h_fault e

theorem wp_attempt {x : Tx σ τ β} {Q : Option (Except ε Unit) → σ → Prop} (h_none : Q none s)
    (h_skip : Q (some (.ok ())) s) (h_ok : ∀ a s', x.run s = .ok (a, s') → Q (some (.ok ())) s') :
    (attempt x : Process σ τ ε Unit).wp Q s := by
  refine wp_step.mpr ⟨h_none, fun _ => h_skip, ?_⟩
  obtain ⟨a, s', h_x, h_ends⟩ | ⟨e, h_x, h_ends⟩ := x.ends_cases s
  · rw [h_ends]
    exact h_ok a s' h_x
  · rw [h_ends]
    exact h_skip

end Rules

-- ============================================================================
-- Triples with a crash condition
-- ============================================================================

/-- From `s`, the program keeps `I` wherever it fails or dies, and where it ends with `a`
    both `I` and `Q a` hold. -/
def Ensures (p : Process σ τ ε α) (I : σ → Prop) (Q : α → σ → Prop) (s : σ) : Prop :=
  p.wp (fun r s => I s ∧ ∀ a, r = some (.ok a) → Q a s) s

section Ensures

variable {p : Process σ τ ε α} {I I' : σ → Prop} {Q Q' : α → σ → Prop} {s : σ}

theorem ensures_pure {a : α} (h_I : I s) (h : Q a s) :
    (Pure.pure a : Process σ τ ε α).Ensures I Q s := by
  refine ⟨h_I, fun b h_b => ?_⟩
  cases h_b
  exact h

theorem ensures_ofExcept {x : Except ε α} (h_I : I s) (h : ∀ a, x = .ok a → Q a s) :
    (ofExcept x : Process σ τ ε α).Ensures I Q s := by
  cases x with
  | ok a => exact ensures_pure h_I (h a rfl)
  | error e => exact ⟨h_I, fun _ h => nomatch h⟩

theorem ensures_fail {e : ε} (h_I : I s) : (Process.fail e : Process σ τ ε α).Ensures I Q s :=
  ⟨h_I, fun _ h => nomatch h⟩

/-- A weaker postcondition, and a weaker crash condition. -/
theorem Ensures.mono (h : p.Ensures I Q s) (h_I : ∀ s, I s → I' s)
    (h_Q : ∀ a s, I s → Q a s → Q' a s) : p.Ensures I' Q' s :=
  wp_mono h fun _ _ h_r => ⟨h_I _ h_r.1, fun a h_a => h_Q a _ h_r.1 (h_r.2 a h_a)⟩

/-- What follows a program may rely on its postcondition. -/
theorem Ensures.bind {f : α → Process σ τ ε β} {Q' : β → σ → Prop} (h : p.Ensures I Q s)
    (h_f : ∀ a s', I s' → Q a s' → (f a).Ensures I Q' s') :
    (p >>= f).Ensures I Q' s := by
  refine wp_bind.mpr (wp_mono h ?_)
  rintro (_ | (e | a)) s' ⟨h_I, h_Q⟩
  · exact ⟨h_I, fun _ h => nomatch h⟩
  · exact ⟨h_I, fun _ h => nomatch h⟩
  · exact h_f a s' h_I (h_Q a rfl)

/-- Where only the crash condition is asked for, what follows may rely on nothing more. -/
theorem Ensures.result (h : p.Ensures I Q s) :
    (p.result : Process σ τ ε' (Except ε α)).Ensures I
      (fun r s => ∀ a, r = .ok a → Q a s) s := by
  refine wp_result.mpr (wp_mono h ?_)
  rintro (_ | (e | a)) s' ⟨h_I, h_Q⟩
  · exact ⟨h_I, fun _ h => nomatch h⟩
  · refine ⟨h_I, fun r h_r a h_a => ?_⟩
    cases h_r
    cases h_a
  · refine ⟨h_I, fun r h_r b h_b => ?_⟩
    cases h_r
    cases h_b
    exact h_Q a rfl

theorem ensures_tx {wrap : τ → ε} {x : Tx σ τ α} (h_I : I s)
    (h : ∀ a s', x.run s = .ok (a, s') → I s' ∧ Q a s') : (tx wrap x).Ensures I Q s := by
  refine wp_tx ⟨h_I, fun _ h => nomatch h⟩ (fun _ => ⟨h_I, fun _ h => nomatch h⟩) ?_
  intro a s' h_run
  obtain ⟨h_I', h_Q⟩ := h a s' h_run
  refine ⟨h_I', fun b h_b => ?_⟩
  cases h_b
  exact h_Q

theorem ensures_attempt {x : Tx σ τ β} (h_I : I s) (h : ∀ b s', x.run s = .ok (b, s') → I s') :
    (attempt x : Process σ τ ε Unit).Ensures I (fun _ _ => True) s :=
  wp_attempt ⟨h_I, fun _ h => nomatch h⟩ ⟨h_I, fun _ _ => trivial⟩ fun b s' h_run =>
    ⟨h b s' h_run, fun _ _ => trivial⟩

/-- A loop keeps what its body keeps for every element that it meets. -/
theorem ensures_forEach {xs : List α} {f : α → Process σ τ ε Unit} (h_I : I s)
    (h : ∀ x ∈ xs, ∀ s, I s → (f x).Ensures I (fun _ _ => True) s) :
    (forEach xs f).Ensures I (fun _ _ => True) s := by
  induction xs generalizing s with
  | nil => exact ensures_pure h_I trivial
  | cons x xs ih =>
    refine Ensures.bind (h x List.mem_cons_self s h_I) fun _ s' h_I' _ => ?_
    exact ih h_I' fun y h_y => h y (List.mem_cons_of_mem x h_y)

/-- Every run of a program that ensures `Q` keeps `I`, and meets `Q` where it ends. -/
theorem Ensures.run (h : p.Ensures I Q s) (fates : List (Fate τ)) :
    I (p.run fates s).2 ∧
      ∀ a, (p.run fates s).1 = some (.ok a) → Q a (p.run fates s).2 :=
  wp_run h fates

end Ensures

end Process

end Kelpie.Lib
