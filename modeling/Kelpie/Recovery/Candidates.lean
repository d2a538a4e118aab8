/-
  Kelpie.Recovery.Candidates

  What recovery does about one interrupted operation: it settles that operation and
  no other, and what it settles it as.
-/

import Kelpie.Ledger.Accounts
import Kelpie.Record.Incarnations
import Kelpie.Record.Operations

namespace Kelpie

open Lib Lib.Tx

-- As in `Kelpie.Store.Frames`.
set_option synthInstance.maxSize 100000

variable {s s' : Store} {now : Millis} {snapshot : Snapshot} {op id : OperationId}
  {inc : IncarnationId}

-- ============================================================================
-- One operation
-- ============================================================================

/-- Every operation but `op` is found as before. -/
def OthersStay (op : OperationId) (t t' : Table OperationRow.id) : Prop :=
  ∀ id, id ≠ op → t'.find id = t.find id

instance OthersStay.stepwise : Stepwise (OthersStay op) where
  refl _ _ _ := rfl
  trans h h' id h_id := (h' id h_id).trans (h id h_id)

/-- The attempts of every operation but `op` stay. -/
def OtherAttemptsStay (op : OperationId) (t t' : Table OperationAttemptRow.key) : Prop :=
  ∀ a, a.operationId ≠ op → (a ∈ t' ↔ a ∈ t)

instance OtherAttemptsStay.stepwise : Stepwise (OtherAttemptsStay op) where
  refl _ _ _ := .rfl
  trans h h' a h_a := (h' a h_a).trans (h a h_a)

instance : Apart Tab.operationAttempts Tab.logicalAgents := ⟨fun _ _ => rfl⟩
instance : Apart Tab.operationAttempts Tab.incarnations := ⟨fun _ _ => rfl⟩
instance : Apart Tab.operationAttempts Tab.operations := ⟨fun _ _ => rfl⟩
instance : Apart Tab.operationAttempts Tab.operatorNotices := ⟨fun _ _ => rfl⟩
instance : Apart Tab.operationAttempts Tab.deliveries := ⟨fun _ _ => rfl⟩

instance {f : OperationAttemptRow → OperationAttemptRow} {h_key} :
    Keeps (Over Tab.operationAttempts (OtherAttemptsStay op)) (updateLastAttempt op f h_key) := by
  have h_update (last : Nat) : Keeps (Over Tab.operationAttempts (OtherAttemptsStay op))
      (updateRows Tab.operationAttempts (fun a => a.operationId = op ∧ a.attemptNumber = last) f
        h_key : StoreTx Nat) :=
    .updateRows fun s a h_a => by
      show a ∈ s.operationAttempts.update _ f h_key ↔ a ∈ s.operationAttempts
      constructor
      · intro h_mem
        rcases Table.mem_update_cases h_mem with ⟨h_old, -⟩ | ⟨a₀, -, h_p, rfl⟩
        · exact h_old
        · exact absurd ((congrArg Prod.fst (h_key a₀)).trans h_p.1) h_a
      · intro h_mem
        exact Table.mem_update_of_not h_mem fun h_p => h_a h_p.1
  unfold updateLastAttempt
  infer_instance

theorem keeps_othersStay {p : OperationRow → Prop} [DecidablePred p]
    {f : OperationRow → OperationRow} {h_key} (h_p : ∀ o, p o → o.id = op) :
    Keeps (Over Tab.operations (OthersStay op))
      (updateRows Tab.operations p f h_key : StoreTx Nat) :=
  .updateRows fun s id h_id => by
    have h_find : ((s.operations.update p f h_key).find id) =
        (s.operations.find id).map fun o => if p o then f o else o := Table.find_update
    refine h_find.trans ?_
    cases h_o : s.operations.find id with
    | none => exact h_o.symm
    | some o =>
      have h_not : ¬ p o := fun h_po =>
        h_id ((Table.find_eq_some.mp h_o).2.symm.trans (h_p o h_po))
      rw [Option.map_some, if_neg h_not]
      exact h_o.symm

/-- An update under the key of one operation that changed one row, as a lookup sees it. -/
theorem updateOperation_find {p : OperationRow → Prop} [DecidablePred p]
    {f : OperationRow → OperationRow} {h_key} {n : Nat}
    (h : (updateRows Tab.operations p f h_key : StoreTx Nat).run s = .ok (n, s')) (h_one : n = 1)
    (h_p : ∀ o, p o → o.id = op) : ∃ o, s.operations.find op = some o ∧ p o ∧
      s'.operations.find op = some (f o) := by
  obtain ⟨os, rfl, ⟨o, h_o, h_id, h_po⟩, h_os⟩ := updateOperation_run h h_one h_p
  refine ⟨o, Table.find_eq_some.mpr ⟨h_o, h_id⟩, h_po, ?_⟩
  obtain ⟨o', h_o', h_edit⟩ := h_os.image o h_o
  rcases h_edit with ⟨h_ne, -⟩ | ⟨-, -, rfl⟩
  · exact absurd h_id h_ne
  · exact Table.find_eq_some.mpr ⟨h_o', (h_key o).trans h_id⟩

/-- The live operation `op` has ended with `outcome`. -/
def EndsAs (op : OperationId) (outcome : OperationOutcome) (s s' : Store) : Prop :=
  ∃ o o', s.operations.find op = some o ∧ o.outcome.Live ∧ s'.operations.find op = some o' ∧
    o.SameRequest o' ∧ o'.outcome = outcome

theorem EndsAs.before {outcome : OperationOutcome} {s₁ : Store}
    (h_same : s₁.operations = s.operations) (h : EndsAs op outcome s₁ s') :
    EndsAs op outcome s s' := by
  obtain ⟨o, o', h_o, h_rest⟩ := h
  exact ⟨o, o', h_same ▸ h_o, h_rest⟩

theorem EndsAs.after {outcome : OperationOutcome} {s₁ : Store} (h : EndsAs op outcome s s₁)
    (h_same : s'.operations = s₁.operations) : EndsAs op outcome s s' := by
  obtain ⟨o, o', h_o, h_live, h_o', h_request⟩ := h
  exact ⟨o, o', h_o, h_live, by rw [h_same]; exact h_o', h_request⟩

theorem endsAs_of_update {outcome : OperationOutcome} {p : OperationRow → Prop} [DecidablePred p]
    {resolvedAt : OperationRow → Option Millis} {h_key} {n : Nat}
    (h : (updateRows Tab.operations p (fun o => { o with
      outcome, resolvedAtMs := resolvedAt o }) h_key : StoreTx Nat).run s = .ok (n, s'))
    (h_one : n = 1) (h_p : ∀ o, p o → o.id = op ∧ o.outcome.Live) :
    EndsAs op outcome s s' := by
  obtain ⟨o, h_o, h_po, h_o'⟩ := updateOperation_find h h_one fun o h => (h_p o h).1
  exact ⟨o, _, h_o, (h_p o h_po).2, h_o', ⟨rfl, rfl, rfl, rfl, rfl, rfl⟩, rfl⟩

-- ============================================================================
-- Transactions
-- ============================================================================

section Unknown

instance {outcome stale} : Keeps (Over Tab.operations (OthersStay op))
    (settleOperation now op inc outcome stale) := by
  have h_update {h_key} : Keeps (Over Tab.operations (OthersStay op)) (updateRows Tab.operations
      (fun o => o.Owns op inc ∧ o.outcome.Live)
      (fun o => { o with outcome, resolvedAtMs := some now }) h_key : StoreTx Nat) :=
    keeps_othersStay fun _ h => h.1.1
  unfold settleOperation
  infer_instance

theorem settleOperation_endsAs {outcome : OperationOutcome} {stale : StoreError} {u : Unit}
    (h : (settleOperation now op inc outcome stale).run s = .ok (u, s')) :
    EndsAs op outcome s s' := by
  unfold settleOperation at h
  obtain ⟨n, s₁, h_op, h⟩ := run_bind_ok.mp h
  simp only [run_require_ok, Prod.mk.injEq] at h
  obtain ⟨h_one, -, rfl⟩ := h
  exact endsAs_of_update h_op h_one fun o h_o => ⟨h_o.1.1, h_o.2⟩

instance {evidence delay} : Keeps (Over Tab.operations (OthersStay op))
    (markUnknownWithClearSpacing now op inc evidence delay) := by
  unfold markUnknownWithClearSpacing
  cases delay <;> infer_instance

theorem markUnknownWithClearSpacing_endsAs {evidence : String} {delay : Option Millis} {u : Unit}
    (h : (markUnknownWithClearSpacing now op inc evidence delay).run s = .ok (u, s')) :
    EndsAs op .unknown s s' := by
  unfold markUnknownWithClearSpacing at h
  obtain ⟨_, s₁, h_settle, h⟩ := run_bind_ok.mp h
  have h_rest : Over Tab.operations Table.Same s₁ s' := by
    cases delay <;> exact Keeps.keeps h
  exact (settleOperation_endsAs h_settle).after h_rest

instance {evidence} : Keeps (Over Tab.operations (OthersStay op))
    (markUnknown now op inc evidence) := by
  unfold markUnknown
  infer_instance

instance {evidence delay} : Keeps (Over Tab.operations (OthersStay op))
    (markClearUnknown now op inc evidence delay) := by
  unfold markClearUnknown
  infer_instance

theorem markClearUnknown_endsAs {evidence : String} {delay : Millis} {u : Unit}
    (h : (markClearUnknown now op inc evidence delay).run s = .ok (u, s')) :
    EndsAs op .unknown s s' := by
  simp only [markClearUnknown, run_bind_reads, run_bind_require_ok] at h
  exact markUnknownWithClearSpacing_endsAs h.2

instance : Keeps (Over Tab.operations (OthersStay op)) (failUnattemptedClear now op) := by
  have h_update (s₀ : Store) {h_key} : Keeps (Over Tab.operations (OthersStay op))
      (updateRows Tab.operations
        (fun o => o.id = op ∧ o.kind = .clear ∧ o.outcome = .pending ∧ ¬ s₀.Submitted op)
        (fun o => { o with outcome := .failed, resolvedAtMs := some now }) h_key : StoreTx Nat) :=
    keeps_othersStay fun _ h => h.1
  unfold failUnattemptedClear
  infer_instance

/-- A clear that nothing was written of fails, and no other operation is touched. -/
theorem failUnattemptedClear_endsAs {failed : Bool}
    (h : (failUnattemptedClear now op).run s = .ok (failed, s')) :
    (failed = true → EndsAs op .failed s s') ∧
      (failed = false → s'.operations = s.operations ∧ ∀ o, s.operations.find op = some o →
        o.kind = .clear → o.outcome = .pending → s.Submitted op) := by
  simp only [failUnattemptedClear, run_bind_reads] at h
  obtain ⟨n, s₁, h_op, h⟩ := run_bind_ok.mp h
  simp only [run_pure, Except.ok.injEq, Prod.mk.injEq] at h
  obtain ⟨rfl, rfl⟩ := h
  have h_p (o : OperationRow) (h_o : o.id = op ∧ o.kind = .clear ∧ o.outcome = .pending ∧
      ¬ (id s : Store).Submitted op) : o.id = op ∧ o.outcome.Live := ⟨h_o.1, .inl h_o.2.2.1⟩
  constructor
  · intro h_one
    exact endsAs_of_update h_op (of_decide_eq_true h_one) h_p
  · intro h_none
    have h_zero : ¬ ∃ o ∈ s.operations, o.id = op ∧ o.kind = .clear ∧ o.outcome = .pending ∧
        ¬ (id s : Store).Submitted op := by
      intro h_some
      simp only [run_updateRows, Except.ok.injEq, Prod.mk.injEq] at h_op
      have h_one := (Table.count_eq_one_iff (k := op) fun o h_o => h_o.1).mpr h_some
      exact of_decide_eq_false h_none (h_op.1.symm.trans h_one)
    constructor
    · have h_n : n = 0 := by
        simp only [run_updateRows, Except.ok.injEq, Prod.mk.injEq] at h_op
        rw [← h_op.1]
        exact Table.count_eq_zero.mpr fun o h_o h_po => h_zero ⟨o, h_o, h_po⟩
      subst h_n
      rw [run_updateRows_zero h_op]
      rfl
    · intro o h_o h_kind h_pending
      by_contra h_not
      obtain ⟨h_mem, h_id⟩ := Table.find_eq_some.mp h_o
      exact h_zero ⟨o, h_mem, h_id, h_kind, h_pending, h_not⟩

end Unknown

-- ============================================================================
-- Bindings
-- ============================================================================

/-- The incarnations that are Ready or retired stay exactly as they are. -/
def BoundStay (t t' : Table IncarnationRow.id) : Prop :=
  ∀ i ∈ t, i.state = .ready ∨ i.state = .retired → i ∈ t'

instance BoundStay.stepwise : Stepwise BoundStay where
  refl _ _ h_i _ := h_i
  trans h h' i h_i h_bound := h' i (h i h_i h_bound) h_bound

theorem keeps_boundStay {p : IncarnationRow → Prop} [DecidablePred p]
    {f : IncarnationRow → IncarnationRow} {h_key}
    (h_p : ∀ i, p i → ¬ (i.state = .ready ∨ i.state = .retired)) :
    Keeps (Over Tab.incarnations BoundStay)
      (updateRows Tab.incarnations p f h_key : StoreTx Nat) :=
  .updateRows fun s i h_i h_bound => by
    show i ∈ s.incarnations.update p f h_key
    exact Table.mem_update_of_not h_i fun h_pi => h_p i h_pi h_bound

/-- A statement on the one incarnation `inc`, of which it is known that it is early, as a
    lookup sees it. -/
theorem boundStay_of_early {s₁ : Store} {p : IncarnationRow → Prop} [DecidablePred p]
    {f : IncarnationRow → IncarnationRow} {h_key} {n : Nat}
    (h : (updateRows Tab.incarnations p f h_key : StoreTx Nat).run s₁ = .ok (n, s'))
    (h_same : s₁.incarnations = s.incarnations) (h_p : ∀ i, p i ↔ i.id = inc)
    (h_early : ∀ i ∈ s.incarnations, i.id = inc → i.Early) :
    Over Tab.incarnations BoundStay s s' ∧
      ∀ i ∈ s.incarnations, i.id = inc → f i ∈ s'.incarnations := by
  have h_mem {i : IncarnationRow} (h_i : i ∈ s.incarnations) : i ∈ s₁.incarnations := by
    rw [h_same]
    exact h_i
  simp only [run_updateRows, Except.ok.injEq, Prod.mk.injEq] at h
  obtain ⟨-, rfl⟩ := h
  constructor
  · intro i h_i h_bound
    show i ∈ s₁.incarnations.update p f h_key
    refine Table.mem_update_of_not (h_mem h_i) fun h_pi => ?_
    rcases h_early i h_i ((h_p i).mp h_pi) with h_state | h_state <;> simp [h_state] at h_bound
  · intro i h_i h_id
    show f i ∈ s₁.incarnations.update p f h_key
    exact Table.mem_update_of (h_mem h_i) ((h_p i).mpr h_id)

section Proofs

variable {agent : AgentObservation}

theorem early_notBound {i : IncarnationRow} (h : i.Early) :
    ¬ (i.state = .ready ∨ i.state = .retired) := by
  rcases h with h_state | h_state <;> simp [h_state]

/-- What an exact observation proves of an interrupted start: the operation has succeeded and
    its incarnation is Ready where the agent is. -/
structure Proves (op : OperationId) (inc : IncarnationId) (agent : AgentObservation)
    (s s' : Store) : Prop where
  settled : EndsAs op .succeeded s s'
  others : Over Tab.operations (OthersStay op) s s'
  attempts : Over Tab.operationAttempts (OtherAttemptsStay op) s s'
  bound : Over Tab.incarnations BoundStay s s'
  ready : ∀ i ∈ s.incarnations, i.id = inc →
    ∃ i' ∈ s'.incarnations, i'.id = inc ∧ i'.ReadyOn agent.paneId agent.terminalId

/-- The two writes that promote an early incarnation, whatever was checked before them. -/
theorem proves_of_writes {s₁ s₂ : Store} {f : IncarnationRow → IncarnationRow} {h_key h_key'}
    {n n' : Nat} (h_op : (updateRows Tab.operations (fun o => o.Owns op inc ∧ o.outcome.Live)
      (fun o => { o with outcome := .succeeded, resolvedAtMs := some now }) h_key :
      StoreTx Nat).run s = .ok (n, s₁)) (h_one : n = 1)
    (h_ready : (updateRows Tab.incarnations (fun i => i.id = inc) f h_key' : StoreTx Nat).run s₁ =
      .ok (n', s₂)) (h_early : ∀ i ∈ s.incarnations, i.id = inc → i.Early)
    (h_f : ∀ i, (f i).ReadyOn agent.paneId agent.terminalId)
    (h_operations : Over Tab.operations Table.Same s₂ s')
    (h_attempts : Over Tab.operationAttempts (OtherAttemptsStay op) s₂ s')
    (h_incarnations : Over Tab.incarnations Table.Same s₂ s') : Proves op inc agent s s' := by
  have h_same : s₁.incarnations = s.incarnations := by
    simp only [run_updateRows, Except.ok.injEq, Prod.mk.injEq] at h_op
    rw [← h_op.2]
    rfl
  have h_same' : s₂.operations = s₁.operations := by
    simp only [run_updateRows, Except.ok.injEq, Prod.mk.injEq] at h_ready
    rw [← h_ready.2]
    rfl
  have h_last : s'.incarnations = s₂.incarnations := h_incarnations
  have h_last' : s'.operations = s₂.operations := h_operations
  obtain ⟨h_bound, h_image⟩ := boundStay_of_early h_ready h_same (fun _ => .rfl) h_early
  have h_others : Over Tab.operations (OthersStay op) s s₁ :=
    (keeps_othersStay fun _ h => h.1.1).keeps h_op
  constructor
  · exact (endsAs_of_update h_op h_one fun o h_o => ⟨h_o.1.1, h_o.2⟩).after
      (h_last'.trans h_same')
  · intro id h_id
    refine Eq.trans ?_ (h_others id h_id)
    exact congrArg (Table.find · id) (h_last'.trans h_same')
  · exact Stepwise.trans (Keeps.keeps h_op) (Stepwise.trans (Keeps.keeps h_ready) h_attempts)
  · intro i h_i h_state
    show i ∈ s'.incarnations
    rw [h_last]
    exact h_bound i h_i h_state
  · intro i h_i h_id
    exact ⟨f i, h_last ▸ h_image i h_i h_id, (h_key' i).trans h_id, h_f i⟩

theorem acceptStartReady_proves {u : Unit}
    (h : (acceptStartReady now op inc agent none).run s = .ok (u, s')) :
    Proves op inc agent s s' := by
  simp only [acceptStartReady, run_bind_reads, run_bind_orFail_ok, run_bind_require_ok,
    run_bind_query_ok] at h
  obtain ⟨e, h_expected, -, _, -, h⟩ := h
  obtain ⟨n, s₁, h_op, h⟩ := run_bind_ok.mp h
  rw [run_bind_require_ok] at h
  obtain ⟨h_one, h⟩ := h
  obtain ⟨_, s₂, h_ready, h_rest⟩ := run_bind_ok.mp h
  have h_early := expectedBinding_early h_expected (by simp)
  exact proves_of_writes h_op h_one h_ready (fun i h_i h_id => (h_early i h_i h_id).1)
    (fun _ => ⟨rfl, rfl, rfl⟩) (Keeps.keeps h_rest) (Keeps.keeps h_rest) (Keeps.keeps h_rest)

theorem acceptAdoptReady_proves {u : Unit}
    (h : (acceptAdoptReady now op inc agent).run s = .ok (u, s')) :
    Proves op inc agent s s' := by
  simp only [acceptAdoptReady, run_bind_reads, run_bind_orFail_ok, run_bind_require_ok,
    run_bind_query_ok] at h
  obtain ⟨e, h_expected, -, _, -, h⟩ := h
  obtain ⟨n, s₁, h_op, h⟩ := run_bind_ok.mp h
  rw [run_bind_require_ok] at h
  obtain ⟨h_one, h⟩ := h
  obtain ⟨_, s₂, h_ready, h_rest⟩ := run_bind_ok.mp h
  have h_early := expectedBinding_early h_expected (by simp)
  exact proves_of_writes h_op h_one h_ready (fun i h_i h_id => (h_early i h_i h_id).1)
    (fun _ => ⟨rfl, rfl, rfl⟩) (Keeps.keeps h_rest) (Keeps.keeps h_rest) (Keeps.keeps h_rest)

instance {evidence delay} : Keeps (Over Tab.incarnations BoundStay)
    (markUnknownWithClearSpacing now op inc evidence delay) := by
  have h_unknown {h_key} : Keeps (Over Tab.incarnations BoundStay) (updateRows Tab.incarnations
      (fun i => i.id = inc ∧ i.state = .starting) (fun i => { i with state := .unknown })
      h_key : StoreTx Nat) := keeps_boundStay fun _ h => early_notBound (.inr h.2)
  unfold markUnknownWithClearSpacing
  cases delay <;> infer_instance

instance {evidence} : Keeps (Over Tab.incarnations BoundStay)
    (markUnknown now op inc evidence) := by
  unfold markUnknown
  infer_instance

instance {evidence delay} : Keeps (Over Tab.incarnations BoundStay)
    (markClearUnknown now op inc evidence delay) := by
  unfold markClearUnknown
  infer_instance

end Proofs

-- ============================================================================
-- Retirements
-- ============================================================================

section Retirements

variable {pane terminal : String}

instance : Keeps (Over Tab.operations (OthersStay op))
    (reconcileRetirement now op inc pane terminal snapshot) := by
  have h_update {h_key} : Keeps (Over Tab.operations (OthersStay op)) (updateRows Tab.operations
      (fun o => o.id = op ∧ o.outcome = .accepted)
      (fun o => { o with outcome := .succeeded, resolvedAtMs := some now }) h_key : StoreTx Nat) :=
    keeps_othersStay fun _ h => h.1
  unfold reconcileRetirement
  infer_instance

instance : Keeps (Over Tab.incarnations BoundStay)
    (reconcileRetirement now op inc pane terminal snapshot) := by
  have h_retired {h_key} : Keeps (Over Tab.incarnations BoundStay) (updateRows Tab.incarnations
      (fun i => i.id = inc ∧ i.state = .retiring)
      (fun i => { i with
        state := .retired, terminalAtMs := some now,
        terminalReason := some "authoritative_absence" })
      h_key : StoreTx Nat) := keeps_boundStay fun i h => by simp [h.2]
  unfold reconcileRetirement
  infer_instance

/-- A retirement is complete exactly when nobody occupies its seat; its incarnation is then
    retired, and its operation has succeeded if it was accepted. -/
theorem reconcileRetirement_cases {completed : Bool}
    (h : (reconcileRetirement now op inc pane terminal snapshot).run s = .ok (completed, s')) :
    (completed = false ∧ snapshot.Occupied pane terminal ∧ s' = s) ∨
    (completed = true ∧ ¬ snapshot.Occupied pane terminal ∧
      (∃ i' ∈ s'.incarnations, i'.id = inc ∧ i'.state = .retired) ∧
      ∀ o, s.operations.find op = some o → o.outcome = .accepted → EndsAs op .succeeded s s') := by
  unfold reconcileRetirement at h
  split at h
  · rename_i h_occupied
    simp only [run_pure, Except.ok.injEq, Prod.mk.injEq] at h
    exact .inl ⟨h.1.symm, h_occupied, h.2.symm⟩
  · rename_i h_absent
    obtain ⟨n, s₁, h_retired, h⟩ := run_bind_ok.mp h
    rw [run_bind_require_ok] at h
    obtain ⟨h_one, h⟩ := h
    obtain ⟨m, s₂, h_op, h⟩ := run_bind_ok.mp h
    simp only [run_pure, Except.ok.injEq, Prod.mk.injEq] at h
    obtain ⟨rfl, rfl⟩ := h
    obtain ⟨t, rfl, i, h_i, h_pi, h_image⟩ := run_updateRows_pos h_retired (by omega)
    refine .inr ⟨rfl, h_absent, ?_, ?_⟩
    · simp only [run_updateRows, Except.ok.injEq, Prod.mk.injEq] at h_op
      rw [← h_op.2]
      exact ⟨_, h_image, h_pi.1, rfl⟩
    · intro o h_o h_accepted
      obtain ⟨h_mem, h_id⟩ := Table.find_eq_some.mp h_o
      have h_count : m = 1 := by
        simp only [run_updateRows, Except.ok.injEq, Prod.mk.injEq] at h_op
        rw [← h_op.1]
        exact (Table.count_eq_one_iff (k := op) fun _ h => h.1).mpr ⟨o, h_mem, h_id, h_accepted⟩
      have h_ends := endsAs_of_update h_op h_count fun o h_o => ⟨h_o.1, .inr h_o.2⟩
      exact h_ends

end Retirements

end Kelpie
