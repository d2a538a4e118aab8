/-
  Kelpie.Clears.Unproven

  How long an unknown clear blocks further clears of its incarnation.

  A watch over a run keeps what the two readings of the clock stand for: the
  rotations that were observed since the clear was submitted.  The readings say
  the same as long as no step sets them at odds with it.
-/

import Kelpie.Clears.Evidence

namespace Kelpie

open Lib Lib.Tx

-- ============================================================================
-- The watch
-- ============================================================================

/-- The call records an observed rotation of the session of `inc`: a reconciliation, a
    completed clear, or a renew. -/
def Call.Rotates (c : Call) (s : Store) (inc : IncarnationId) : Prop :=
  match c with
  | .completeClear _ _ i session _ => i = inc ∧ session.isSome
  | .replaceObservedNativeSession i _ => i = inc
  | .reconcileReadyIncarnations _ snapshot => s.SeesRotation snapshot inc
  | _ => False

instance (c : Call) (s : Store) : DecidablePred (c.Rotates s) := fun inc => by
  apply Call.casesOn (motive := fun c => Decidable (c.Rotates s inc)) c <;>
    intros <;>
    dsimp only [Call.Rotates] <;>
    infer_instance

/-- The operation that the call takes over the write boundary, while it is live. -/
def Call.submits (c : Call) (s : Store) : Option OperationId :=
  match c with
  | .markSubmitted _ operationId _ _ =>
    if ∃ o ∈ s.operations.find operationId, o.outcome.Live then some operationId else none
  | _ => none

/-- The store, the operations that were submitted, and those of them whose incarnation was
    seen to rotate its session since. -/
structure ClearWatch where
  store : Store := .empty
  submitted : List OperationId := []
  proven : List OperationId := []

/-- The submitted operations that the call records a rotation for. -/
def ClearWatch.proves (w : ClearWatch) (c : Call) : List OperationId :=
  w.submitted.filter fun id =>
    ∃ o ∈ w.store.operations.find id, c.Rotates w.store o.targetIncarnationId

/-- A call, with the clear that it submits and those that it proves. -/
def ClearWatch.next (c : Call) (w : ClearWatch) : Option ClearWatch := do
  let store ← (c.commit w.store).toOption
  let submits := c.submits w.store
  return { store,
           submitted := w.submitted ++ submits.toList,
           proven := (w.proven ++ w.proves c).filter (some · ≠ submits) }

/-- A clear that was submitted and ended unknown. -/
structure ClearWatch.Unknown (w : ClearWatch) (o : OperationRow) : Prop where
  row : o ∈ w.store.operations
  clear : o.kind = .clear
  outcome : o.outcome = .unknown
  submitted : o.id ∈ w.submitted

/-- A clear that ends unknown at `now` is resolved before the last rotation of its
    incarnation exactly when one was observed since it was submitted. -/
def ClearWatch.EndsInOrder (w : ClearWatch) (now : Millis) (id : OperationId)
    (inc : IncarnationId) : Prop :=
  id ∈ w.submitted → (∃ o ∈ w.store.operations.find id, o.kind = .clear) →
    (id ∈ w.proven ↔ now < w.store.rotatedAt inc)

/-- Every unknown clear that the call records a rotation for is settled before `time`. -/
def ClearWatch.SettledBefore (w : ClearWatch) (c : Call) (time : Millis) : Prop :=
  ∀ o ∈ w.store.operations.rows, o.kind = .clear → o.outcome = .unknown → o.id ∈ w.submitted →
    c.Rotates w.store o.targetIncarnationId → o.settledAt < time

/-- The call leaves the two readings of the clock in the order of the observations. -/
def Call.InOrder (c : Call) (w : ClearWatch) : Prop :=
  match c with
  | .markUnknown now id inc _ => w.EndsInOrder now id inc
  | .markClearUnknown now id inc _ _ => w.EndsInOrder now id inc
  | .completeClear now _ _ _ _ => w.SettledBefore c now
  | .reconcileReadyIncarnations now _ => w.SettledBefore c now
  -- A renew records the new session, and not the time of its rotation.
  | .replaceObservedNativeSession inc _ => w.SettledBefore c (w.store.rotatedAt inc)
  | _ => True

instance : DecidableRel Call.InOrder := fun c w => by
  apply Call.casesOn (motive := fun c => Decidable (c.InOrder w)) c <;>
    intros <;>
    dsimp only [Call.InOrder, ClearWatch.EndsInOrder, ClearWatch.SettledBefore] <;>
    infer_instance

/-- The runs of calls that meet `ok`, with what they submit and prove. -/
abbrev ClearRun (ok : Call → ClearWatch → Prop) : ClearWatch → ClearWatch → Prop :=
  Run (StepOf ClearWatch.next) ok

/-- The states that calls which meet `ok` reach from the empty store. -/
def ClearReachable (ok : Call → ClearWatch → Prop) (w : ClearWatch) : Prop :=
  ClearRun ok {} w

-- ============================================================================
-- The readings agree with the observations
-- ============================================================================

/-- An unknown clear is settled before the last rotation of its incarnation exactly when
    one was observed since it was submitted. -/
structure ClearWatch.Sound (w : ClearWatch) : Prop where
  known : ∀ id ∈ w.submitted, ∃ o ∈ w.store.operations, o.id = id
  order : ∀ o, w.Unknown o →
    (o.id ∈ w.proven ↔ o.settledAt < w.store.rotatedAt o.targetIncarnationId)

theorem ClearWatch.Sound.empty : ClearWatch.Sound {} where
  known _ h := absurd h List.not_mem_nil
  order _ h := absurd h.submitted List.not_mem_nil

section Step

variable {w w' : ClearWatch} {c : Call}

/-- The parts of one step. -/
structure ClearWatch.Steps (w : ClearWatch) (c : Call) (w' : ClearWatch) : Prop where
  commit : c.Step w.store w'.store
  submitted : w'.submitted = w.submitted ++ (c.submits w.store).toList
  proven : w'.proven = (w.proven ++ w.proves c).filter (some · ≠ c.submits w.store)

theorem ClearWatch.steps_of_next (h : StepOf ClearWatch.next c w w') : w.Steps c w' := by
  obtain ⟨store, h_store, h_w⟩ := Option.bind_eq_some_iff.mp h
  cases h_w
  exact ⟨Call.step_of_mem h_store, rfl, rfl⟩

/-- What a call submits is a live operation of the store it starts from. -/
theorem Call.submits_live {s : Store} {id : OperationId} (h : c.submits s = some id) :
    (∃ now attempt request, c = .markSubmitted now id attempt request) ∧
      ∃ o ∈ s.operations, o.id = id ∧ o.outcome.Live := by
  unfold Call.submits at h
  split at h
  · split at h
    · rename_i h_live
      cases h
      obtain ⟨o, h_o, h_live⟩ := h_live
      obtain ⟨h_mem, h_id⟩ := Table.find_eq_some.mp h_o
      exact ⟨⟨_, _, _, rfl⟩, o, h_mem, h_id, h_live⟩
    · cases h
  · cases h

/-- The call gives up on the operation, which ends unknown at `now`. -/
def Call.GivesUpOn (c : Call) (now : Millis) (op : OperationId) (inc : IncarnationId) : Prop :=
  match c with
  | .markUnknown now' op' inc' _ | .markClearUnknown now' op' inc' _ _ =>
    now' = now ∧ op' = op ∧ inc' = inc
  | _ => False

/-- An unknown operation was so before, is new, or is the one that the call gives up on. -/
theorem Call.endsUnknown {s s' : Store} (h : c.Step s s') :
    (∀ o ∈ s.operations, ∃ o' ∈ s'.operations, o'.id = o.id) ∧
    ∀ o' ∈ s'.operations, o'.outcome = .unknown →
      o' ∈ s.operations ∨ (∀ o ∈ s.operations, o.id ≠ o'.id) ∨
      c.GivesUpOn o'.settledAt o'.id o'.targetIncarnationId ∧
        ∃ o ∈ s.operations, o.id = o'.id ∧ o.kind = o'.kind := by
  by_cases h_doubts : c.Doubts
  · have h_ends : ∃ now op inc, c.GivesUpOn now op inc ∧
        EndsUnknown now op inc s.operations s'.operations := by
      cases c with
      | markUnknown now op inc evidence =>
        obtain ⟨_, h⟩ := commit_ok.mp h
        exact ⟨now, op, inc, ⟨rfl, rfl, rfl⟩, markUnknownWithClearSpacing_ends h⟩
      | markClearUnknown now op inc evidence delay =>
        obtain ⟨_, h⟩ := commit_ok.mp h
        simp only [Kelpie.markClearUnknown, run_bind_reads, run_bind_require_ok] at h
        exact ⟨now, op, inc, ⟨rfl, rfl, rfl⟩, markUnknownWithClearSpacing_ends h.2⟩
      | _ => exact absurd h_doubts id
    obtain ⟨now, op, inc, h_gives, h_ids, h_unknown⟩ := h_ends
    refine ⟨h_ids, fun o' h_o' h_outcome => ?_⟩
    rcases h_unknown o' h_o' h_outcome with h_old | h_fresh | h_new
    · exact .inl h_old
    · exact .inr (.inl h_fresh)
    · obtain ⟨o, h_o, h_kind, h_owns, h_owns', rfl⟩ := h_new
      obtain ⟨rfl, rfl⟩ := h_owns'
      exact .inr (.inr ⟨h_gives, o, h_o, h_owns.1, h_kind⟩)
  · obtain ⟨h_ids, h_unknown⟩ := c.noneUnknown h h_doubts
    refine ⟨h_ids, fun o' h_o' h_outcome => ?_⟩
    rcases h_unknown o' h_o' h_outcome with h_old | h_fresh
    · exact .inl h_old
    · exact .inr (.inl h_fresh)

/-- The time of a rotation changes only when the call records one. -/
theorem Call.rotatedAt_eq {s s' : Store} {inc : IncarnationId} (h : c.Step s s')
    (h_rot : ¬ c.Rotates s inc) : s'.rotatedAt inc = s.rotatedAt inc := by
  cases c with
  | completeClear now op i session delay =>
    obtain ⟨_, h⟩ := commit_ok.mp h
    exact (completeClear_times h inc).2 h_rot
  | reconcileReadyIncarnations now snapshot =>
    obtain ⟨_, h⟩ := commit_ok.mp h
    exact (reconcileReadyIncarnations_times h inc).2 h_rot
  | _ => exact Call.sameTimes _ h id inc

/-- After a rotation is recorded in order, the unknown clears of the incarnation are
    settled before the last one. -/
theorem Call.InOrder.rotates {o : OperationRow} (h_ok : c.InOrder w) (h : c.Step w.store w'.store)
    (h_o : w.Unknown o) (h_rot : c.Rotates w.store o.targetIncarnationId) :
    o.settledAt < w'.store.rotatedAt o.targetIncarnationId := by
  cases c with
  | completeClear now op i session delay =>
    have h_before := h_ok o h_o.row h_o.clear h_o.outcome h_o.submitted h_rot
    obtain ⟨_, h⟩ := commit_ok.mp h
    rw [(completeClear_times h _).1 h_rot]
    exact h_before
  | reconcileReadyIncarnations now snapshot =>
    have h_before := h_ok o h_o.row h_o.clear h_o.outcome h_o.submitted h_rot
    obtain ⟨_, h⟩ := commit_ok.mp h
    rw [(reconcileReadyIncarnations_times h _).1 h_rot]
    exact h_before
  | replaceObservedNativeSession i session =>
    have h_before := h_ok o h_o.row h_o.clear h_o.outcome h_o.submitted h_rot
    have h_same := Call.sameTimes _ h id i
    obtain rfl : i = o.targetIncarnationId := h_rot
    exact h_before.trans_eq h_same.symm
  | _ => exact h_rot.elim

theorem ClearWatch.mem_proves {o : OperationRow} (h_o : o ∈ w.store.operations) :
    o.id ∈ w.proves c ↔ o.id ∈ w.submitted ∧ c.Rotates w.store o.targetIncarnationId := by
  have h_find : w.store.operations.find o.id = some o := Table.find_eq_some.mpr ⟨h_o, rfl⟩
  rw [ClearWatch.proves, List.mem_filter, decide_eq_true_iff, h_find]
  simp

theorem ClearWatch.Steps.mem_proven {id : OperationId} (h : w.Steps c w')
    (h_new : c.submits w.store ≠ some id) :
    id ∈ w'.proven ↔ id ∈ w.proven ∨ id ∈ w.proves c := by
  rw [h.proven, List.mem_filter, List.mem_append, decide_eq_true_iff]
  exact and_iff_left h_new.symm

theorem ClearWatch.Steps.mem_submitted {id : OperationId} (h : w.Steps c w') :
    id ∈ w'.submitted ↔ id ∈ w.submitted ∨ c.submits w.store = some id := by
  rw [h.submitted, List.mem_append, Option.mem_toList]

/-- A step keeps the readings in the order of the observations. -/
theorem ClearWatch.Sound.step (h : w.Sound) (h_ok : c.InOrder w) (h_step : w.Steps c w') :
    w'.Sound := by
  obtain ⟨h_ids, h_unknown⟩ := Call.endsUnknown h_step.commit
  constructor
  · intro id h_id
    rcases h_step.mem_submitted.mp h_id with h_id | h_id
    · obtain ⟨o, h_o, rfl⟩ := h.known id h_id
      exact h_ids o h_o
    · obtain ⟨-, o, h_o, rfl, -⟩ := Call.submits_live h_id
      exact h_ids o h_o
  · intro o h_o
    rcases h_unknown o h_o.row h_o.outcome with h_old | h_fresh | ⟨h_gives, o₀, h_o₀, h_id, h_kind⟩
    · -- It was unknown before.
      have h_new : c.submits w.store ≠ some o.id := by
        intro h_submits
        obtain ⟨-, o₁, h_o₁, h_id, h_live⟩ := Call.submits_live h_submits
        rw [Table.eq_of_key h_o₁ h_old h_id, h_o.outcome] at h_live
        rcases h_live with h_live | h_live <;> cases h_live
      have h_sub := (h_step.mem_submitted.mp h_o.submitted).resolve_right h_new
      have h_before : w.Unknown o := ⟨h_old, h_o.clear, h_o.outcome, h_sub⟩
      rw [h_step.mem_proven h_new, ClearWatch.mem_proves h_old]
      by_cases h_rot : c.Rotates w.store o.targetIncarnationId
      · exact iff_of_true (.inr ⟨h_sub, h_rot⟩)
          (Call.InOrder.rotates h_ok h_step.commit h_before h_rot)
      · rw [Call.rotatedAt_eq h_step.commit h_rot, ← h.order o h_before]
        exact or_iff_left fun h_proves => h_rot h_proves.2
    · -- It is new, and was not submitted.
      rcases h_step.mem_submitted.mp h_o.submitted with h_sub | h_sub
      · obtain ⟨o₁, h_o₁, h_id⟩ := h.known o.id h_sub
        exact absurd h_id (h_fresh o₁ h_o₁)
      · obtain ⟨-, o₁, h_o₁, h_id, -⟩ := Call.submits_live h_sub
        exact absurd h_id (h_fresh o₁ h_o₁)
    · -- It ends unknown in this step.
      have h_find : w.store.operations.find o.id = some o₀ :=
        Table.find_eq_some.mpr ⟨h_o₀, h_id⟩
      have h_new : c.submits w.store ≠ some o.id := by
        intro h_submits
        obtain ⟨⟨_, _, _, rfl⟩, -⟩ := Call.submits_live h_submits
        exact h_gives
      have h_sub := (h_step.mem_submitted.mp h_o.submitted).resolve_right h_new
      have h_rot (inc : IncarnationId) : ¬ c.Rotates w.store inc := by
        intro h_rot
        cases c <;> first | exact h_gives | exact h_rot
      have h_order : o.id ∈ w.proven ↔
          o.settledAt < w.store.rotatedAt o.targetIncarnationId := by
        have h_clear : ∃ o' ∈ w.store.operations.find o.id, o'.kind = .clear :=
          ⟨o₀, h_find, h_kind.trans h_o.clear⟩
        cases c with
        | markUnknown now op inc evidence =>
          obtain ⟨rfl, rfl, rfl⟩ := h_gives
          exact h_ok h_sub h_clear
        | markClearUnknown now op inc evidence delay =>
          obtain ⟨rfl, rfl, rfl⟩ := h_gives
          exact h_ok h_sub h_clear
        | _ => exact h_gives.elim
      rw [h_step.mem_proven h_new, Call.rotatedAt_eq h_step.commit (h_rot _), ← h_order]
      refine or_iff_left fun h_proves => ?_
      obtain ⟨o₁, -, h_rotates⟩ := decide_eq_true_iff.mp (List.mem_filter.mp h_proves).2
      exact h_rot _ h_rotates

end Step

-- ============================================================================
-- Every run
-- ============================================================================

/-- A clear blocks as long as no rotation of its incarnation was observed. -/
theorem ClearWatch.Sound.blocks_iff {w : ClearWatch} {o : OperationRow} (h : w.Sound)
    (h_o : w.Unknown o) : w.store.Blocks o ↔ o.id ∉ w.proven := by
  rw [h.order o h_o, Int.not_lt]
  exact ⟨fun h_blocks => h_blocks.2.2, fun h_le => ⟨h_o.clear, h_o.outcome, h_le⟩⟩

/-- In a run whose steps leave the readings in order, an unknown clear blocks until a
    rotation of its incarnation is observed, and no longer. -/
theorem unknown_clear_blocks_until_evidence {w : ClearWatch}
    (h : ClearReachable Call.InOrder w) {o : OperationRow} (h_o : w.Unknown o) :
    (o.id ∉ w.proven → (w.store.unprovenClear o.targetIncarnationId).isSome) ∧
    (o.id ∈ w.proven → w.store.unprovenClear o.targetIncarnationId ≠ some o.id) := by
  have h_sound : w.Sound := Run.invariant h .empty fun c a b h_a h_ok h_step =>
    h_a.step h_ok (ClearWatch.steps_of_next h_step)
  have h_blocks := h_sound.blocks_iff h_o
  constructor
  · intro h_unproven
    exact Store.unprovenClear_isSome h_o.row (h_blocks.mpr h_unproven)
  · intro h_proven h_named
    obtain ⟨o', h_o', h_id, -, h_named⟩ := Store.unprovenClear_blocks h_named
    rw [Table.eq_of_key h_o' h_o.row h_id] at h_named
    exact h_blocks.mp h_named h_proven

/-- A clear of a live agent goes over the write boundary, and the daemon restarts. -/
def interruptedClearRun : List Call :=
  [.declareAdopt 1 { paneId := "w1:p1", expectedTerminalId := "t1", idempotencyKey := "k1" }
      { paneId := "w1:p1", terminalId := "t1", publicName := "worker", backendKind := "claude",
        workingDirectory := "/", launchPending := false,
        nativeAgentSession := some { value := some "s1" } },
    .createClear 2 1 1 "/clear" { value := some "s1" } 1000 "k2",
    .beginAttempt 3 2 1 "kelpie:clear:2", .markSubmitted 3 2 1 "kelpie:clear:2"]

/-- The agent has a new session. -/
def rotatedSnapshot : Snapshot :=
  { panes := [],
    agents := [{ terminalId := "t1", paneId := "w1:p1", name := some "worker",
                 agent := some "claude", agentSession := some { value := some "s2" } }] }

/-- A recovery pass stamps the rotation and then settles the clear, which blocks for good. -/
theorem unknown_clear_blocks_proven : ∃ w, ClearReachable (fun _ _ => True) w ∧
    ∃ o ∈ w.store.operations.rows, (o.kind = .clear ∧ o.outcome = .unknown ∧
      o.id ∈ w.submitted ∧ o.id ∈ w.proven) ∧
      w.store.unprovenClear o.targetIncarnationId = some o.id := by
  have h : Script ClearWatch.next (fun _ _ => True) (fun w =>
      ∃ o ∈ w.store.operations.rows, (o.kind = .clear ∧ o.outcome = .unknown ∧
        o.id ∈ w.submitted ∧ o.id ∈ w.proven) ∧
        w.store.unprovenClear o.targetIncarnationId = some o.id)
      (interruptedClearRun ++ [.reconcileReadyIncarnations 10 rotatedSnapshot,
        .markClearUnknown 11 2 1 "interrupted" 1000]) {} := by
    decide +kernel
  exact h.run

/-- A clear that ends unknown before its rotation is seen blocks only until then. -/
theorem unknown_clear_blocks_until_evidence_interruptedClearRun :
    ∃ w, ClearReachable Call.InOrder w ∧ ∃ o, w.Unknown o ∧ o.id ∈ w.proven ∧
      w.store.unprovenClear o.targetIncarnationId ≠ some o.id := by
  have h : Script ClearWatch.next Call.InOrder (fun w =>
      ∃ o ∈ w.store.operations.rows, o.kind = .clear ∧ o.outcome = .unknown ∧
        o.id ∈ w.submitted ∧ o.id ∈ w.proven)
      (interruptedClearRun ++ [.markClearUnknown 10 2 1 "interrupted" 1000,
        .reconcileReadyIncarnations 11 rotatedSnapshot]) {} := by
    decide +kernel
  obtain ⟨w, h_run, o, h_o, h_clear, h_outcome, h_submitted, h_proven⟩ := h.run
  have h_unknown : w.Unknown o := ⟨h_o, h_clear, h_outcome, h_submitted⟩
  have h_until := unknown_clear_blocks_until_evidence h_run h_unknown
  exact ⟨w, h_run, o, h_unknown, h_proven, h_until.2 h_proven⟩

end Kelpie
