/-
  Kelpie.Lib.Tx

  Transactions over an arbitrary state: a computation that reads and writes the
  state and either commits with a result or fails and leaves nothing behind.

  The rules come in two forms.  The `run_*` lemmas invert a committed run into
  the runs of its parts, for arguments that need the values read on the way.
  `Keeps R` states that every committed run relates its two states by `R`; its
  instances follow the program text, so a frame condition is found by instance
  search.
-/

import Mathlib.Logic.Relation

namespace Kelpie.Lib

/-- A transaction over states `σ` that fails with an `ε` or commits with an `α`. -/
structure Tx (σ ε α : Type) where
  run : σ → Except ε (α × σ)

namespace Tx

variable {σ ε α β : Type}

instance : Monad (Tx σ ε) where
  pure a := ⟨fun s => .ok (a, s)⟩
  bind x f := ⟨fun s =>
    match x.run s with
    | .error e => .error e
    | .ok (a, s') => (f a).run s'⟩

-- ============================================================================
-- Statements
-- ============================================================================

/-- Read a value of the current state. -/
def reads (f : σ → α) : Tx σ ε α := ⟨fun s => .ok (f s, s)⟩

/-- Change the current state. -/
def writes (f : σ → σ) : Tx σ ε Unit := ⟨fun s => .ok ((), f s)⟩

/-- Continue only when `c` holds. -/
def require (c : Prop) [Decidable c] (e : ε) : Tx σ ε Unit :=
  ⟨fun s => if c then .ok ((), s) else .error e⟩

/-- Continue with the value of `o`, which must be present. -/
def orFail (o : Option α) (e : ε) : Tx σ ε α :=
  ⟨fun s => match o with
    | some a => .ok (a, s)
    | none => .error e⟩

/-- Continue with the answer of a query that may fail on the current state. -/
def query (q : σ → Except ε α) : Tx σ ε α :=
  ⟨fun s => match q s with
    | .ok a => .ok (a, s)
    | .error e => .error e⟩

/-- Run `f` on every element of `xs`, in order, and collect the results. -/
def forEach : List α → (α → Tx σ ε β) → Tx σ ε (List β)
  | [], _ => pure []
  | x :: xs, f => do
    let b ← f x
    let bs ← forEach xs f
    pure (b :: bs)

-- ============================================================================
-- Inversion of committed runs
-- ============================================================================

@[simp] theorem run_pure {a : α} {s : σ} : (pure a : Tx σ ε α).run s = .ok (a, s) := rfl

theorem run_bind {x : Tx σ ε α} {f : α → Tx σ ε β} {s : σ} :
    (x >>= f).run s = match x.run s with
      | .error e => .error e
      | .ok (a, s') => (f a).run s' := rfl

@[simp] theorem run_bind_ok {x : Tx σ ε α} {f : α → Tx σ ε β} {s : σ} {r : β × σ} :
    (x >>= f).run s = .ok r ↔ ∃ a s', x.run s = .ok (a, s') ∧ (f a).run s' = .ok r := by
  rw [run_bind]
  cases x.run s with
  | error e => simp
  | ok p =>
    obtain ⟨a, s'⟩ := p
    constructor
    · intro h
      exact ⟨a, s', rfl, h⟩
    · rintro ⟨b, t, h_eq, h⟩
      cases h_eq
      exact h


@[simp] theorem run_reads {f : σ → α} {s : σ} :
    (reads f : Tx σ ε α).run s = .ok (f s, s) := rfl

@[simp] theorem run_writes {f : σ → σ} {s : σ} :
    (writes f : Tx σ ε Unit).run s = .ok ((), f s) := rfl

@[simp] theorem run_require_ok {c : Prop} [Decidable c] {e : ε} {s : σ} {r : Unit × σ} :
    (require c e : Tx σ ε Unit).run s = .ok r ↔ c ∧ r = ((), s) := by
  by_cases h : c <;> simp [require, h, eq_comm]

@[simp] theorem run_orFail_ok {o : Option α} {e : ε} {s : σ} {r : α × σ} :
    (orFail o e : Tx σ ε α).run s = .ok r ↔ o = some r.1 ∧ r.2 = s := by
  obtain ⟨a, s'⟩ := r
  cases o <;> simp [orFail, eq_comm]

@[simp] theorem run_query_ok {q : σ → Except ε α} {s : σ} {r : α × σ} :
    (query q : Tx σ ε α).run s = .ok r ↔ q s = .ok r.1 ∧ r.2 = s := by
  obtain ⟨a, s'⟩ := r
  cases h : q s <;> simp [query, h, eq_comm]

/-! A statement that only reads does not move the state, so what follows it starts from
    the same one. -/

theorem run_bind_pure {a : α} {f : α → Tx σ ε β} {s : σ} :
    ((pure a : Tx σ ε α) >>= f).run s = (f a).run s := rfl

theorem run_bind_reads {g : σ → α} {f : α → Tx σ ε β} {s : σ} :
    ((reads g : Tx σ ε α) >>= f).run s = (f (g s)).run s := rfl

theorem run_bind_require_ok {c : Prop} [Decidable c] {e : ε} {f : Unit → Tx σ ε β} {s : σ}
    {r : β × σ} :
    ((require c e : Tx σ ε Unit) >>= f).run s = .ok r ↔ c ∧ (f ()).run s = .ok r := by
  rw [run_bind]
  by_cases h : c <;> simp [require, h]

theorem run_bind_orFail_ok {o : Option α} {e : ε} {f : α → Tx σ ε β} {s : σ} {r : β × σ} :
    ((orFail o e : Tx σ ε α) >>= f).run s = .ok r ↔ ∃ a, o = some a ∧ (f a).run s = .ok r := by
  rw [run_bind]
  cases o <;> simp [orFail]

theorem run_bind_query_ok {q : σ → Except ε α} {f : α → Tx σ ε β} {s : σ} {r : β × σ} :
    ((query q : Tx σ ε α) >>= f).run s = .ok r ↔ ∃ a, q s = .ok a ∧ (f a).run s = .ok r := by
  rw [run_bind]
  cases h : q s <;> simp [query, h]

/-- What follows a choice is what follows either branch of it. -/
theorem run_ite_bind {c : Prop} [Decidable c] {x y : Tx σ ε α} {f : α → Tx σ ε β} {s : σ} :
    (if c then x >>= f else y >>= f).run s = ((if c then x else y) >>= f).run s := by
  split <;> rfl

/-- A step that is taken only under a condition. -/
theorem run_ite_then {c : Prop} [Decidable c] {x : Tx σ ε Unit} {f : Unit → Tx σ ε β} {s : σ} :
    (if c then x >>= f else f ()).run s = ((if c then x else pure ()) >>= f).run s := by
  split <;> rfl

-- ============================================================================
-- Transactions that commit
-- ============================================================================

/-- The transaction commits when it is run in `s`. -/
def Commits (x : Tx σ ε α) (s : σ) : Prop := ∃ a s', x.run s = .ok (a, s')

section Commits

variable {x : Tx σ ε α} {f : α → Tx σ ε β} {s : σ}

theorem Commits.of_run {r : α × σ} (h : x.run s = .ok r) : x.Commits s := ⟨r.1, r.2, h⟩

theorem commits_bind : (x >>= f).Commits s ↔ ∃ a s', x.run s = .ok (a, s') ∧ (f a).Commits s' := by
  constructor
  · rintro ⟨b, t, h⟩
    obtain ⟨a, s', h_x, h_f⟩ := run_bind_ok.mp h
    exact ⟨a, s', h_x, b, t, h_f⟩
  · rintro ⟨a, s', h_x, b, t, h_f⟩
    exact ⟨b, t, run_bind_ok.mpr ⟨a, s', h_x, h_f⟩⟩

/-- What follows a step that commits may rely on how it committed. -/
theorem Commits.bind (h : x.Commits s)
    (h_f : ∀ a s', x.run s = .ok (a, s') → (f a).Commits s') : (x >>= f).Commits s := by
  obtain ⟨a, s', h_x⟩ := h
  exact commits_bind.mpr ⟨a, s', h_x, h_f a s' h_x⟩

/-- What follows a step is run where the step leads. -/
theorem commits_bind_run {a : α} {s' : σ} (h : x.run s = .ok (a, s')) :
    (x >>= f).Commits s ↔ (f a).Commits s' := by
  refine commits_bind.trans ⟨?_, fun h_f => ⟨a, s', h, h_f⟩⟩
  rintro ⟨b, t, h_x, h_f⟩
  rw [h, Except.ok.injEq, Prod.mk.injEq] at h_x
  obtain ⟨rfl, rfl⟩ := h_x
  exact h_f

theorem commits_pure {a : α} : (pure a : Tx σ ε α).Commits s := ⟨a, s, rfl⟩

theorem commits_require {c : Prop} [Decidable c] {e : ε} :
    (require c e : Tx σ ε Unit).Commits s ↔ c := by
  simp [Commits]

theorem commits_bind_reads {g : σ → α} :
    ((reads g : Tx σ ε α) >>= f).Commits s ↔ (f (g s)).Commits s := .rfl

theorem commits_bind_require {c : Prop} [Decidable c] {e : ε} {f : Unit → Tx σ ε β} :
    ((require c e : Tx σ ε Unit) >>= f).Commits s ↔ c ∧ (f ()).Commits s := by
  simp only [Commits, run_bind_require_ok, exists_and_left]

theorem commits_bind_query {q : σ → Except ε α} {a : α} (h : q s = .ok a) :
    ((query q : Tx σ ε α) >>= f).Commits s ↔ (f a).Commits s := by
  refine commits_bind.trans ⟨?_, fun h_f => ⟨a, s, ?_, h_f⟩⟩
  · rintro ⟨b, s', h_query, h_f⟩
    obtain ⟨h_b, rfl⟩ := run_query_ok.mp h_query
    rw [h, Except.ok.injEq] at h_b
    exact h_b ▸ h_f
  · exact run_query_ok.mpr ⟨h, rfl⟩

end Commits

-- ============================================================================
-- Failures
-- ============================================================================

/-- Whatever the transaction fails with when it is run in `s` meets `p`. -/
def FailsOnly (x : Tx σ ε α) (p : ε → Prop) (s : σ) : Prop := ∀ e, x.run s = .error e → p e

section Failures

variable {p : ε → Prop} {x : Tx σ ε α} {f : α → Tx σ ε β} {s : σ}

theorem Commits.failsOnly (h : x.Commits s) : x.FailsOnly p s := by
  intro e h_run
  obtain ⟨a, s', h_ok⟩ := h
  rw [h_ok] at h_run
  cases h_run

/-- What follows a step may rely on how the step committed. -/
theorem FailsOnly.bind (h : x.FailsOnly p s)
    (h_f : ∀ a s', x.run s = .ok (a, s') → (f a).FailsOnly p s') : (x >>= f).FailsOnly p s := by
  intro e h_run
  rw [run_bind] at h_run
  cases h_x : x.run s with
  | error e' =>
    rw [h_x] at h_run
    cases h_run
    exact h e h_x
  | ok r =>
    rw [h_x] at h_run
    exact h_f r.1 r.2 h_x e h_run

theorem failsOnly_pure {a : α} : (pure a : Tx σ ε α).FailsOnly p s := commits_pure.failsOnly

theorem failsOnly_bind_reads {g : σ → α} (h : (f (g s)).FailsOnly p s) :
    ((reads g : Tx σ ε α) >>= f).FailsOnly p s := h

theorem failsOnly_require {c : Prop} [Decidable c] {e : ε} (h_e : p e) :
    (require c e : Tx σ ε Unit).FailsOnly p s := by
  intro e' h_run
  simp only [require] at h_run
  split at h_run
  · cases h_run
  · cases h_run
    exact h_e

/-- What follows a check may rely on it. -/
theorem failsOnly_bind_require {c : Prop} [Decidable c] {e : ε} {f : Unit → Tx σ ε β}
    (h_e : p e) (h_f : c → (f ()).FailsOnly p s) :
    ((require c e : Tx σ ε Unit) >>= f).FailsOnly p s := by
  refine (failsOnly_require h_e).bind fun _ s' h_run => ?_
  obtain ⟨h_c, h_same⟩ := run_require_ok.mp h_run
  cases h_same
  exact h_f h_c

/-- What follows a query may rely on its answer. -/
theorem failsOnly_bind_query {q : σ → Except ε α} (h_q : ∀ e, q s = .error e → p e)
    (h_f : ∀ a, q s = .ok a → (f a).FailsOnly p s) :
    ((query q : Tx σ ε α) >>= f).FailsOnly p s := by
  intro e h_run
  rw [run_bind] at h_run
  cases h : q s with
  | error e' =>
    simp only [query, h] at h_run
    cases h_run
    exact h_q e h
  | ok a =>
    simp only [query, h] at h_run
    exact h_f a h e h_run

end Failures

-- ============================================================================
-- Relations kept by every committed run
-- ============================================================================

/-- A relation that a transaction may keep step by step. -/
class Stepwise (R : σ → σ → Prop) : Prop where
  refl : ∀ s, R s s
  trans : ∀ {a b c}, R a b → R b c → R a c

/-- Every committed run of `x` relates its first state to its last by `R`. -/
class Keeps (R : σ → σ → Prop) (x : Tx σ ε α) : Prop where
  keeps : ∀ {s a s'}, x.run s = .ok (a, s') → R s s'

section Rules

variable {R : σ → σ → Prop} [hR : Stepwise R]

instance Keeps.pure (a : α) : Keeps R (Pure.pure a : Tx σ ε α) where
  keeps h := by
    simp only [run_pure, Except.ok.injEq, Prod.mk.injEq] at h
    exact h.2 ▸ hR.refl _

instance Keeps.reads (f : σ → α) : Keeps R (Tx.reads f : Tx σ ε α) where
  keeps h := by
    simp only [run_reads, Except.ok.injEq, Prod.mk.injEq] at h
    exact h.2 ▸ hR.refl _

instance Keeps.require (c : Prop) [Decidable c] (e : ε) :
    Keeps R (Tx.require c e : Tx σ ε Unit) where
  keeps h := by
    simp only [run_require_ok, Prod.mk.injEq] at h
    exact h.2.2 ▸ hR.refl _

instance Keeps.orFail (o : Option α) (e : ε) : Keeps R (Tx.orFail o e : Tx σ ε α) where
  keeps h := by
    simp only [run_orFail_ok] at h
    exact h.2 ▸ hR.refl _

instance Keeps.query (q : σ → Except ε α) : Keeps R (Tx.query q : Tx σ ε α) where
  keeps h := by
    simp only [run_query_ok] at h
    exact h.2 ▸ hR.refl _

instance Keeps.bind (x : Tx σ ε α) (f : α → Tx σ ε β) [hx : Keeps R x]
    [hf : ∀ a, Keeps R (f a)] : Keeps R (x >>= f) where
  keeps h := by
    obtain ⟨a, s', h_x, h_f⟩ := run_bind_ok.mp h
    exact hR.trans (hx.keeps h_x) ((hf a).keeps h_f)

instance Keeps.ite (c : Prop) [Decidable c] (x y : Tx σ ε α) [hx : Keeps R x]
    [hy : Keeps R y] : Keeps R (if c then x else y) where
  keeps h := by
    split at h
    · exact hx.keeps h
    · exact hy.keeps h

/-- A loop keeps what its body keeps for every element that it meets. -/
theorem Keeps.forEach_mem {xs : List α} {f : α → Tx σ ε β} (h_f : ∀ a ∈ xs, Keeps R (f a)) :
    Keeps R (Tx.forEach xs f) := by
  induction xs with
  | nil => exact Keeps.pure []
  | cons x xs ih =>
    have := h_f x List.mem_cons_self
    have := ih fun a h_a => h_f a (List.mem_cons_of_mem x h_a)
    unfold Tx.forEach
    infer_instance

instance Keeps.forEach (xs : List α) (f : α → Tx σ ε β) [hf : ∀ a, Keeps R (f a)] :
    Keeps R (Tx.forEach xs f) :=
  .forEach_mem fun a _ => hf a

omit hR in
/-- A write keeps `R` when it relates every state to its image. -/
theorem Keeps.writes {f : σ → σ} (h_f : ∀ s, R s (f s)) :
    Keeps R (Tx.writes f : Tx σ ε Unit) where
  keeps h := by
    simp only [run_writes, Except.ok.injEq, Prod.mk.injEq] at h
    exact h.2 ▸ h_f _

omit hR in
/-- A weaker relation is kept too. -/
theorem Keeps.mono {R' : σ → σ → Prop} {x : Tx σ ε α} (h : Keeps R x)
    (h_le : ∀ s s', R s s' → R' s s') : Keeps R' x where
  keeps h_run := h_le _ _ (h.keeps h_run)

end Rules

/-- `R` under the assumption `P` on the first state, which the last one meets too. -/
def Under (P : σ → Prop) (R : σ → σ → Prop) (s s' : σ) : Prop := P s → R s s' ∧ P s'

instance Under.stepwise {P : σ → Prop} {R : σ → σ → Prop} [hR : Stepwise R] :
    Stepwise (Under P R) where
  refl s h := ⟨hR.refl s, h⟩
  trans h_ab h_bc h := by
    obtain ⟨h_R, h_b⟩ := h_ab h
    obtain ⟨h_R', h_c⟩ := h_bc h_b
    exact ⟨hR.trans h_R h_R', h_c⟩

/-- The last state of a committed run. -/
def commit (x : Tx σ ε α) (s : σ) : Except ε σ := (x.run s).map Prod.snd

theorem commit_ok {x : Tx σ ε α} {s s' : σ} :
    x.commit s = .ok s' ↔ ∃ a, x.run s = .ok (a, s') := by
  unfold commit
  cases x.run s with
  | error e => simp [Except.map]
  | ok p =>
    obtain ⟨a, t⟩ := p
    simp [Except.map]

/-- A relation kept by `x` relates the states around its commit. -/
theorem Keeps.commit {R : σ → σ → Prop} {x : Tx σ ε α} [hx : Keeps R x] {s s' : σ}
    (h : x.commit s = .ok s') : R s s' := by
  obtain ⟨a, h_run⟩ := commit_ok.mp h
  exact hx.keeps h_run

end Tx

-- ============================================================================
-- Queries
-- ============================================================================

/-- A guarded query has an answer when the guard holds and the rest has it. -/
theorem guard_bind_eq_some {α : Type} {c : Prop} [Decidable c] {f : Unit → Option α} {a : α} :
    (guard c >>= f) = some a ↔ c ∧ f () = some a := by
  have h_guard : (guard c : Option Unit) = if c then pure () else failure := rfl
  rw [h_guard]
  by_cases h : c
  · simp [h]
  · simp only [h, if_false, false_and, iff_false]
    exact Option.some_ne_none a ∘ Eq.symm

/-- A list of answers without a failure. -/
theorem mapM_id_ok {ε β : Type} {l : List (Except ε β)} {r : List β}
    (h : l.mapM id = .ok r) : l = r.map .ok := by
  induction l generalizing r with
  | nil =>
    cases h
    rfl
  | cons x l ih =>
    rw [List.mapM_cons] at h
    cases x with
    | error e => cases h
    | ok b =>
      cases h_l : l.mapM id with
      | error e =>
        rw [h_l] at h
        cases h
      | ok r' =>
        rw [h_l] at h
        cases h
        rw [ih h_l, List.map_cons]

end Kelpie.Lib
