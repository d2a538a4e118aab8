/-
  Kelpie.Recovery.Reconciled

  One whole reconciliation: the passes before the candidates, the candidates one
  after the other, and what becomes of every operation on record.
-/

import Kelpie.Ledger.Linked
import Kelpie.Recovery.Verdicts

namespace Kelpie

open Lib Lib.Tx

variable {s s' : Store} {now : Millis} {snapshot : Snapshot} {c : RecoveryCandidate}
  {report report' : RecoveryReport} {op : OperationId}

-- ============================================================================
-- Candidates one after the other
-- ============================================================================

/-- The attempts of the operation stay as they are. -/
def SameAttempts (op : OperationId) (s s' : Store) : Prop :=
  ∀ a, a.operationId = op → (a ∈ s'.operationAttempts ↔ a ∈ s.operationAttempts)

theorem SameAttempts.submitted (h : SameAttempts op s s') (h_s : s'.Submitted op) :
    s.Submitted op := by
  obtain ⟨a, h_a, h_op, h_phase⟩ := h_s
  exact ⟨a, (h a h_op).mp h_a, h_op, h_phase⟩

/-- The steps of a recovery pass the operation `op` by. -/
structure Passes (op : OperationId) (s s' : Store) : Prop where
  run : StoreRun (fun c _ => c.Recovers) s s'
  operation : s'.operations.find op = s.operations.find op
  attempts : SameAttempts op s s'
  incarnations : Over Tab.incarnations BoundStay s s'

instance Passes.stepwise : Stepwise (Passes op) where
  refl _ := ⟨.refl, rfl, fun _ _ => .rfl, Stepwise.refl _⟩
  trans h h' := ⟨h.run.trans h'.run, h'.operation.trans h.operation,
    fun a h_a => (h'.attempts a h_a).trans (h.attempts a h_a),
    Stepwise.trans h.incarnations h'.incarnations⟩

theorem recoverCandidate_passes (h_op : op ≠ c.operationId)
    (h : (recoverCandidate now snapshot report c).run s = (.ok report', s')) : Passes op s s' := by
  have h_touches : TouchesOnly c.operationId s s' := Prog.Keeps.of_run inferInstance h
  have h_run : StoreRun (fun c _ => c.Recovers) s s' := Prog.Keeps.of_run inferInstance h
  refine ⟨h_run, h_touches.operations op h_op, ?_, h_touches.incarnations⟩
  intro a h_a
  exact h_touches.attempts a (h_a ▸ h_op)

theorem recoverCandidates_passes {cs : List RecoveryCandidate}
    (h_op : op ∉ cs.map (·.operationId))
    (h : (recoverCandidates now snapshot report cs).run s = (.ok report', s')) :
    Passes op s s' := by
  induction cs generalizing s report with
  | nil =>
    obtain ⟨-, rfl⟩ := Prog.run_pure_ok.mp h
    exact Stepwise.refl s
  | cons c cs ih =>
    rw [List.map_cons, List.mem_cons, not_or] at h_op
    obtain ⟨_, s₁, h_c, h_cs⟩ := Prog.run_bind_ok.mp h
    exact Stepwise.trans (recoverCandidate_passes h_op.1 h_c) (ih h_op.2 h_cs)

/-- Every candidate has its verdict, and the others pass it by before and after. -/
theorem recoverCandidates_ok {cs : List RecoveryCandidate}
    (h_nodup : (cs.map (·.operationId)).Nodup)
    (h : (recoverCandidates now snapshot report cs).run s = (.ok report', s')) (h_c : c ∈ cs) :
    ∃ t t', Passes c.operationId s t ∧ Verdict c snapshot t t' ∧ Passes c.operationId t' s' := by
  induction cs generalizing s report with
  | nil => exact absurd h_c List.not_mem_nil
  | cons c₀ cs ih =>
    rw [List.map_cons, List.nodup_cons] at h_nodup
    obtain ⟨_, s₁, h_first, h_cs⟩ := Prog.run_bind_ok.mp h
    rcases List.mem_cons.mp h_c with rfl | h_later
    · exact ⟨s, s₁, Stepwise.refl s, recoverCandidate_ok h_first,
        recoverCandidates_passes h_nodup.1 h_cs⟩
    · have h_op : c.operationId ≠ c₀.operationId := fun h_same =>
        h_nodup.1 (h_same ▸ List.mem_map_of_mem h_later)
      obtain ⟨t, t', h_before, h_verdict, h_after⟩ := ih h_nodup.2 h_cs h_later
      exact ⟨t, t', Stepwise.trans (recoverCandidate_passes h_op h_first) h_before, h_verdict,
        h_after⟩

/-- The candidate that is made of a live operation at or under the floor. -/
theorem recoveryCandidate_eq_some {o : OperationRow} :
    s.recoveryCandidate o = some c ↔ ∃ i, s.incarnations.find o.targetIncarnationId = some i ∧
      (o.outcome.Live ∧ ∀ floor ∈ s.liveOperationFloor, o.id ≤ floor) ∧
      c = { operationId := o.id, incarnationId := i.id, kind := o.kind,
            paneId := i.intendedPaneId, terminalId := i.expectedTerminalId,
            intent := o.intent, attempted := s.Submitted o.id } := by
  unfold Store.recoveryCandidate
  rw [guard_bind_eq_some]
  constructor
  · rintro ⟨h_own, h⟩
    obtain ⟨i, h_i, h_c⟩ := Option.bind_eq_some_iff.mp h
    exact ⟨i, h_i, h_own, (Option.some_inj.mp h_c).symm⟩
  · rintro ⟨i, h_i, h_own, rfl⟩
    exact ⟨h_own, Option.bind_eq_some_iff.mpr ⟨i, h_i, rfl⟩⟩

theorem recoveryCandidate_operationId {o : OperationRow} (h : s.recoveryCandidate o = some c) :
    c.operationId = o.id := by
  obtain ⟨i, -, -, rfl⟩ := recoveryCandidate_eq_some.mp h
  rfl

theorem recoveryCandidates_nodup (s : Store) :
    (s.recoveryCandidates.map (·.operationId)).Nodup := by
  have h_sub : (s.recoveryCandidates.map (·.operationId)).Sublist
      (s.operations.rows.map (·.id)) := by
    unfold Store.recoveryCandidates
    induction s.operations.rows with
    | nil => exact .slnil
    | cons o os ih =>
      cases h : s.recoveryCandidate o with
      | none =>
        rw [List.filterMap_cons_none h, List.map_cons]
        exact ih.cons _
      | some c =>
        rw [List.filterMap_cons_some h, List.map_cons, List.map_cons,
          recoveryCandidate_operationId h]
        exact ih.cons_cons _
  exact h_sub.nodup s.operations.keys_nodup

-- ============================================================================
-- Missed wakes
-- ============================================================================

/-- Nothing but live prompts became unknown, and the attempts of all other operations stay. -/
structure WakesMissed (s s' : Store) : Prop where
  operations : ∀ o ∈ s.operations, ∃ o' ∈ s'.operations, o.SameRequest o' ∧
    (o' = o ∨ (o.kind = .prompt ∧ o.outcome.Live ∧ o'.outcome = .unknown))
  attempts : ∀ o ∈ s.operations, o.kind ≠ .prompt → SameAttempts o.id s s'

instance WakesMissed.stepwise : Stepwise WakesMissed where
  refl _ := ⟨fun o h_o => ⟨o, h_o, ⟨rfl, rfl, rfl, rfl, rfl, rfl⟩, .inl rfl⟩,
    fun _ _ _ _ _ => .rfl⟩
  trans h h' := by
    refine ⟨fun o h_o => ?_, fun o h_o h_kind a h_a => ?_⟩
    · obtain ⟨o₁, h_o₁, h_request, h_missed⟩ := h.operations o h_o
      obtain ⟨o₂, h_o₂, h_request', h_missed'⟩ := h'.operations o₁ h_o₁
      refine ⟨o₂, h_o₂, h_request.trans h_request', ?_⟩
      rcases h_missed with rfl | ⟨h_prompt, h_live, h_unknown⟩
      · exact h_missed'
      · rcases h_missed' with rfl | ⟨-, h_live', -⟩
        · exact .inr ⟨h_prompt, h_live, h_unknown⟩
        · rw [h_unknown] at h_live'
          exact absurd h_live' (by decide)
    · obtain ⟨o₁, h_o₁, h_request, -⟩ := h.operations o h_o
      have h_rest := h'.attempts o₁ h_o₁ (h_request.kind ▸ h_kind)
      rw [h_request.id] at h_rest
      exact (h_rest a h_a).trans (h.attempts o h_o h_kind a h_a)

theorem WakesMissed.of_same (h : s'.operations = s.operations)
    (h' : s'.operationAttempts = s.operationAttempts) : WakesMissed s s' := by
  refine ⟨fun o h_o => ⟨o, ?_, ⟨rfl, rfl, rfl, rfl, rfl, rfl⟩, .inl rfl⟩, fun o h_o _ a _ => ?_⟩
  · rw [h]
    exact h_o
  · rw [h']

/-- The wakes are those of prompts. -/
def Prompts (wakes : List (OperationId × IncarnationId)) (s : Store) : Prop :=
  ∀ w ∈ wakes, ∃ o ∈ s.operations, o.id = w.1 ∧ o.kind = .prompt

theorem WakesMissed.prompts {wakes : List (OperationId × IncarnationId)} (h : WakesMissed s s')
    (h_s : Prompts wakes s) : Prompts wakes s' := by
  intro w h_w
  obtain ⟨o, h_o, h_id, h_kind⟩ := h_s w h_w
  obtain ⟨o', h_o', h_request, -⟩ := h.operations o h_o
  exact ⟨o', h_o', h_request.id.trans h_id, h_request.kind.trans h_kind⟩

theorem keeps_missedWake {wakes : List (OperationId × IncarnationId)}
    {w : OperationId × IncarnationId} {evidence : String} (h_w : w ∈ wakes) :
    Keeps (Under (Prompts wakes) WakesMissed) (markUnknown now w.1 w.2 evidence) where
  keeps {s u s'} h h_prompts := by
    have h_ends : EndsAs w.1 .unknown s s' := markUnknownWithClearSpacing_endsAs h
    have h_touches : TouchesOnly w.1 s s' := Keeps.keeps h
    obtain ⟨o₀, o₁, h_o₀, h_live, h_o₁, h_request, h_unknown⟩ := h_ends
    obtain ⟨o, h_o, h_id, h_kind⟩ := h_prompts w h_w
    obtain ⟨h_mem₀, h_id₀⟩ := Table.find_eq_some.mp h_o₀
    obtain rfl := Table.eq_of_key h_o h_mem₀ (h_id.trans h_id₀.symm)
    have h_missed : WakesMissed s s' := by
      refine ⟨fun o' h_o' => ?_, fun o' h_o' h_kind' a h_a => ?_⟩
      · by_cases h_same : o'.id = w.1
        · obtain rfl := Table.eq_of_key h_o' h_o (h_same.trans h_id.symm)
          exact ⟨o₁, (Table.find_eq_some.mp h_o₁).1, h_request, .inr ⟨h_kind, h_live, h_unknown⟩⟩
        · have h_find := h_touches.operations o'.id h_same
          have h_o'_find : s.operations.find o'.id = some o' := Table.find_eq_some.mpr ⟨h_o', rfl⟩
          have h_found : s'.operations.find o'.id = some o' := h_find.trans h_o'_find
          exact ⟨o', (Table.find_eq_some.mp h_found).1, ⟨rfl, rfl, rfl, rfl, rfl, rfl⟩, .inl rfl⟩
      · -- The operation is no prompt, so it is not the one whose wake was missed.
        refine h_touches.attempts a fun h_same => h_kind' ?_
        rw [Table.eq_of_key h_o' h_o (h_a.symm.trans (h_same.trans h_id.symm))]
        exact h_kind
    exact ⟨h_missed, h_missed.prompts h_prompts⟩

instance {wakes : List (OperationId × IncarnationId)} {body : String} :
    Keeps (Under (Prompts wakes) WakesMissed) (insertOperatorNotice now body) where
  keeps h h_prompts := by
    have h_operations := Keeps.keeps (R := Over Tab.operations Table.Same) h
    have h_attempts := Keeps.keeps (R := Over Tab.operationAttempts Table.Same) h
    have h_missed := WakesMissed.of_same h_operations h_attempts
    exact ⟨h_missed, h_missed.prompts h_prompts⟩

theorem keeps_markedWake {wakes : List (OperationId × IncarnationId)}
    {w : OperationId × IncarnationId} {evidence : String} (h_w : w ∈ wakes) :
    Prog.Keeps (Under (Prompts wakes) WakesMissed) (do
      Prog.atomically (markUnknown now w.1 w.2 evidence)
      let _ ← Prog.atomically (insertOperatorNotice now (unknownPromptNotice w.1 w.2))
      return () : Prog Store StoreError Unit) := by
  have h_mark : Keeps (Under (Prompts wakes) WakesMissed) (markUnknown now w.1 w.2 evidence) :=
    keeps_missedWake h_w
  infer_instance

/-- The delivery of a missed wake belongs to a prompt. -/
theorem missedDueWakes_prompts (h_s : Ledger.Linked s.ledger) {nowMs : Millis} :
    Prompts (s.deliveries.rows.filterMap (s.missedDueWake nowMs)) s := by
  intro w h_w
  obtain ⟨d, h_d, h_wake⟩ := List.mem_filterMap.mp h_w
  unfold Store.missedDueWake at h_wake
  rw [guard_bind_eq_some] at h_wake
  obtain ⟨-, h_wake⟩ := h_wake
  obtain ⟨o, h_o, h_wake⟩ := Option.bind_eq_some_iff.mp h_wake
  rw [guard_bind_eq_some, guard_bind_eq_some] at h_wake
  obtain ⟨-, -, h_wake⟩ := h_wake
  obtain ⟨recipient, -, h_wake⟩ := Option.bind_eq_some_iff.mp h_wake
  rw [guard_bind_eq_some] at h_wake
  obtain ⟨-, h_wake⟩ := h_wake
  cases h_wake
  obtain ⟨id, h_id, h_find⟩ := Option.bind_eq_some_iff.mp h_o
  obtain ⟨h_mem, rfl⟩ := Table.find_eq_some.mp h_find
  obtain ⟨o', h_o', h_same, h_kind, -⟩ := h_s.operation d h_d o.id h_id
  obtain rfl := Table.eq_of_key h_o' h_mem h_same
  exact ⟨o', h_o', rfl, h_kind⟩

theorem reconcileMissedDueWakes_missed (h_s : Ledger.Linked s.ledger) {nowMs : Millis} {n : Nat}
    (h : (reconcileMissedDueWakes now nowMs).run s = (.ok n, s')) : WakesMissed s s' := by
  unfold reconcileMissedDueWakes at h
  obtain ⟨overdue, s₁, h_read, h_loop⟩ := Prog.run_bind_ok.mp h
  obtain ⟨rfl, rfl⟩ := Prog.run_reads_ok.mp h_read
  obtain ⟨marked, s₂, h_marks, h_end⟩ := Prog.run_bind_ok.mp h_loop
  obtain ⟨-, rfl⟩ := Prog.run_pure_ok.mp h_end
  have h_under : Under (Prompts (s.deliveries.rows.filterMap (s.missedDueWake nowMs)))
      WakesMissed s s₂ := by
    refine Prog.Keeps.of_run ?_ h_marks
    exact Prog.Keeps.forEach_mem fun w h_w => keeps_markedWake h_w
  exact (h_under (missedDueWakes_prompts h_s)).1

-- ============================================================================
-- The whole pass
-- ============================================================================

/-- The agent is past its launch on the intended pane and terminal of the incarnation, under
    the name that the operation set out to bind. -/
def OperationRow.EvidencedBy (o : OperationRow) (i : IncarnationRow) (agent : AgentObservation) :
    Prop :=
  agent.paneId = i.intendedPaneId ∧ agent.terminalId = i.expectedTerminalId ∧
    agent.launchPending = false ∧
    ((o.kind = .start ∧ ∃ intent, o.intent = .start intent ∧ agent.name = some intent.publicName ∧
        agent.agent = some intent.backendKind ∧ agent.interactiveReady = true) ∨
      (o.kind = .adopt ∧ ∃ intended, o.intent.adoptIntendedName = .ok intended ∧
        agent.name = some intended))

/-- The operation is unresolved, and no live process owns it. -/
def Store.Interrupted (s : Store) (o : OperationRow) : Prop :=
  o.outcome.Live ∧ ∀ floor ∈ s.liveOperationFloor, o.id ≤ floor

/-- What a reconciliation makes of the operation `o` on the incarnation `i`. -/
structure Recovered (snapshot : Snapshot) (s s' : Store) (i : IncarnationRow)
    (o o' : OperationRow) : Prop where
  request : o.SameRequest o'
  left : ¬ s.Interrupted o → o' = o
  retire : s.Interrupted o → o.kind = .retire →
    (snapshot.Occupied i.intendedPaneId i.expectedTerminalId ∧ o' = o) ∨
    (¬ snapshot.Occupied i.intendedPaneId i.expectedTerminalId ∧
      (∃ i' ∈ s'.incarnations, i'.id = i.id ∧ i'.state = .retired) ∧
      (o.outcome = .accepted → o'.outcome = .succeeded))
  attempted : s.Interrupted o → o.kind ≠ .retire → s.Submitted o.id →
    o'.outcome = .unknown ∨ (o'.outcome = .succeeded ∧ ∃ agent ∈ snapshot.agents,
      o.EvidencedBy i agent ∧ ∃ i' ∈ s'.incarnations, i'.id = i.id ∧
        i'.ReadyOn agent.paneId agent.terminalId)
  unattempted : s.Interrupted o → o.kind ≠ .retire → ¬ s.Submitted o.id →
    (o.kind = .clear → o.outcome = .pending → o'.outcome = .failed) ∧
    (o.kind ≠ .clear → o' = o ∨
      (o.kind = .prompt ∧ s.liveOperationFloor = none ∧ o'.outcome = .unknown))

/-- Neither the mail, nor the attempts, nor the floor change. -/
structure Standing (s s' : Store) : Prop where
  ledger : s'.ledger = s.ledger
  attempts : s'.operationAttempts = s.operationAttempts
  floor : s'.liveOperationFloor = s.liveOperationFloor

instance Standing.stepwise : Stepwise Standing where
  refl _ := ⟨rfl, rfl, rfl⟩
  trans h h' := ⟨h'.ledger.trans h.ledger, h'.attempts.trans h.attempts, h'.floor.trans h.floor⟩

instance : Ignores Standing Tab.logicalAgents := ⟨fun _ _ => ⟨rfl, rfl, rfl⟩⟩
instance : Ignores Standing Tab.incarnations := ⟨fun _ _ => ⟨rfl, rfl, rfl⟩⟩
instance : Ignores Standing Tab.operatorNotices := ⟨fun _ _ => ⟨rfl, rfl, rfl⟩⟩

instance : Prog.Keeps Standing (settleAbsentUnknownStarts now snapshot) := by
  unfold settleAbsentUnknownStarts
  infer_instance

/-- The passes before the candidates: bindings and starts, and the missed wakes unless there
    is a live process. -/
theorem reconcile_stages (h_s : Ledger.Linked s.ledger)
    (h : (reconcile now snapshot).run s = (.ok report, s')) :
    ∃ s₁ report₁, StoreRun (fun c _ => c.Recovers) s s₁ ∧ WakesMissed s s₁ ∧
      (s.liveOperationFloor.isSome → s₁.operations = s.operations) ∧
      (recoverCandidates now snapshot report₁ s.recoveryCandidates).run s₁ = (.ok report, s') := by
  unfold reconcile at h
  obtain ⟨candidates, _, h_read, h_ready⟩ := Prog.run_bind_ok.mp h
  obtain ⟨rfl, rfl⟩ := Prog.run_reads_ok.mp h_read
  obtain ⟨ready, s₁, h_bindings, h_continue⟩ := Prog.run_bind_ok.mp h_ready
  obtain ⟨continued, s₂, h_continued, h_settle⟩ := Prog.run_bind_ok.mp h_continue
  obtain ⟨settled, s₃, h_settled, h_floor⟩ := Prog.run_bind_ok.mp h_settle
  obtain ⟨floor, _, h_read', h_wakes⟩ := Prog.run_bind_ok.mp h_floor
  obtain ⟨rfl, rfl⟩ := Prog.run_reads_ok.mp h_read'
  have h_run : StoreRun (fun c _ => c.Recovers) s s₃ :=
    Run.trans (Run.trans (Prog.Keeps.of_run inferInstance h_bindings)
      (Prog.Keeps.of_run inferInstance h_continued)) (Prog.Keeps.of_run inferInstance h_settled)
  have h_standing : Standing s s₃ :=
    Stepwise.trans (Stepwise.trans (Prog.Keeps.of_run inferInstance h_bindings)
      (Prog.Keeps.of_run inferInstance h_continued)) (Prog.Keeps.of_run inferInstance h_settled)
  have h_same : s₃.operations = s.operations := congrArg Ledger.operations h_standing.ledger
  dsimp only at h_wakes
  rw [h_standing.floor, Prog.run_ite_bind] at h_wakes
  obtain ⟨n, s₄, h_missed, h_candidates⟩ := Prog.run_bind_ok.mp h_wakes
  refine ⟨s₄, _, ?_, ?_, ?_, h_candidates⟩
  · refine h_run.trans ?_
    split at h_missed <;> exact Prog.Keeps.of_run inferInstance h_missed
  · refine Stepwise.trans (WakesMissed.of_same h_same h_standing.attempts) ?_
    split at h_missed
    · obtain ⟨-, rfl⟩ := Prog.run_pure_ok.mp h_missed
      exact Stepwise.refl _
    · exact reconcileMissedDueWakes_missed (h_standing.ledger ▸ h_s) h_missed
  · intro h_some
    rw [if_pos h_some] at h_missed
    obtain ⟨-, rfl⟩ := Prog.run_pure_ok.mp h_missed
    exact h_same

theorem mem_of_find {id : OperationId} {o : OperationRow} (h : s.operations.find id = some o) :
    o ∈ s.operations := (Table.find_eq_some.mp h).1

/-- An operation that is no candidate is not touched. -/
theorem left_of_candidates {cs : List RecoveryCandidate} {o : OperationRow}
    (h_o : o ∈ s.operations) (h_cs : o.id ∉ cs.map (·.operationId))
    (h : (recoverCandidates now snapshot report cs).run s = (.ok report', s')) :
    o ∈ s'.operations := by
  have h_passes := recoverCandidates_passes h_cs h
  exact mem_of_find (h_passes.operation.trans (Table.find_eq_some.mpr ⟨h_o, rfl⟩))

theorem ProvedBy.evidenced {o : OperationRow} {i : IncarnationRow} {agent : AgentObservation}
    (h_o : s.recoveryCandidate o = some c)
    (h_i : s.incarnations.find o.targetIncarnationId = some i) (h : c.ProvedBy snapshot agent) :
    agent ∈ snapshot.agents ∧ o.EvidencedBy i agent := by
  obtain ⟨i', h_i', -, rfl⟩ := recoveryCandidate_eq_some.mp h_o
  obtain rfl := Option.some_inj.mp (h_i'.symm.trans h_i)
  rcases h with ⟨h_kind, intent, h_intent, h_agent⟩ | ⟨h_kind, intended, h_intended, h_agent⟩
  · have h_found := List.find?_some h_agent
    simp only [Bool.decide_and, Bool.and_eq_true, decide_eq_true_eq] at h_found
    obtain ⟨h_pane, h_terminal, h_name, h_backend, h_ready, h_launched⟩ := h_found
    exact ⟨List.mem_of_find?_eq_some h_agent, h_pane, h_terminal, h_launched,
      .inl ⟨h_kind, intent, h_intent, h_name, h_backend, h_ready⟩⟩
  · have h_found := List.find?_some h_agent
    simp only [Bool.decide_and, Bool.and_eq_true, decide_eq_true_eq] at h_found
    obtain ⟨h_pane, h_terminal, h_name, h_launched⟩ := h_found
    exact ⟨List.mem_of_find?_eq_some h_agent, h_pane, h_terminal, h_launched,
      .inr ⟨h_kind, intended, h_intended, h_name⟩⟩

/-- The row that an operation was settled with is the one that the rest of the pass leaves. -/
theorem EndsAs.row {t t' : Store} {outcome : OperationOutcome} {o o' : OperationRow}
    (h : EndsAs op outcome t t') (h_o : t.operations.find op = some o)
    (h_after : Passes op t' s') (h_o' : s'.operations.find op = some o') :
    o.outcome.Live ∧ o'.outcome = outcome := by
  obtain ⟨o₀, o₁, h_o₀, h_live, h_o₁, -, h_outcome⟩ := h
  have h_first : o₀ = o := Option.some_inj.mp (h_o₀.symm.trans h_o)
  have h_last : o₁ = o' := Option.some_inj.mp (h_o₁.symm.trans (h_after.operation.symm.trans h_o'))
  exact ⟨h_first ▸ h_live, h_last ▸ h_outcome⟩

/-- A row that the verdict left is the one that the rest of the pass leaves. -/
theorem Passes.row {t t' : Store} {o o' : OperationRow} (h_after : Passes op t' s')
    (h_same : t'.operations = t.operations) (h_o : t.operations.find op = some o)
    (h_o' : s'.operations.find op = some o') : o' = o := by
  rw [h_after.operation, h_same, h_o] at h_o'
  exact (Option.some_inj.mp h_o').symm

/-- An incarnation that is bound at some point of the pass is bound at its end. -/
theorem Passes.bound {t' : Store} (h_after : Passes op t' s') {i' : IncarnationRow}
    (h_i' : i' ∈ t'.incarnations) (h_bound : i'.state = .ready ∨ i'.state = .retired) :
    i' ∈ s'.incarnations :=
  h_after.incarnations i' h_i' h_bound

/-- From the verdict of a candidate to what became of its operation, which may have been a
    missed wake before its turn came. -/
theorem Verdict.recovered {t t' : Store} {i : IncarnationRow} {o o₁ o' : OperationRow}
    (h : Verdict c snapshot t t') (h_int : s.Interrupted o) (h_c : s.recoveryCandidate o = some c)
    (h_i : s.incarnations.find o.targetIncarnationId = some i)
    (h_o₁ : t.operations.find c.operationId = some o₁)
    (h_wake : o₁ = o ∨ (o.kind = .prompt ∧ s.liveOperationFloor = none ∧ o₁.outcome = .unknown))
    (h_submitted : o.kind ≠ .prompt → t.Submitted o.id → s.Submitted o.id)
    (h_present : ∃ i₁ ∈ t.incarnations, i₁.id = i.id) (h_after : Passes c.operationId t' s')
    (h_o' : s'.operations.find c.operationId = some o') (h_request : o.SameRequest o') :
    Recovered snapshot s s' i o o' := by
  have h_eq := recoveryCandidate_eq_some.mp h_c
  obtain ⟨i₀, h_i₀, -, h_eq⟩ := h_eq
  obtain rfl : i₀ = i := Option.some_inj.mp (h_i₀.symm.trans h_i)
  have h_op : c.operationId = o.id := recoveryCandidate_operationId h_c
  have h_kind : c.kind = o.kind := by rw [h_eq]
  have h_inc : c.incarnationId = i₀.id := by rw [h_eq]
  have h_seat : c.paneId = i₀.intendedPaneId ∧ c.terminalId = i₀.expectedTerminalId := by
    rw [h_eq]
    exact ⟨rfl, rfl⟩
  have h_attempted : c.attempted = true ↔ s.Submitted o.id := by
    rw [h_eq]
    exact decide_eq_true_iff
  have h_same (h_kind : o.kind ≠ .prompt) : o₁ = o :=
    h_wake.resolve_right fun h => h_kind h.1
  cases h with
  | vanished h_retire h_absent h_retired h =>
    rw [h_kind] at h_retire
    have h_o₁' : t.operations.find c.operationId = some o := by
      rw [← h_same (by rw [h_retire]; decide)]
      exact h_o₁
    refine ⟨h_request, fun h => absurd h_int h, fun _ _ => .inr ⟨?_, ?_, ?_⟩,
      fun _ h => absurd h_retire h, fun _ h => absurd h_retire h⟩
    · rwa [h_seat.1, h_seat.2] at h_absent
    · obtain ⟨i', h_i', h_id, h_state⟩ := h_retired
      exact ⟨i', h_after.bound h_i' (.inr h_state), h_id.trans h_inc, h_state⟩
    · intro h_accepted
      exact ((h o h_o₁' h_accepted).row h_o₁' h_after h_o').2
  | occupied h_retire h_live h =>
    rw [h_kind] at h_retire
    have h_stays : o' = o₁ := h_after.row h h_o₁ h_o'
    refine ⟨h_request, fun h => absurd h_int h, fun _ _ => .inl ⟨?_, ?_⟩,
      fun _ h => absurd h_retire h, fun _ h => absurd h_retire h⟩
    · rwa [h_seat.1, h_seat.2] at h_live
    · rw [h_stays]
      exact h_same (by rw [h_retire]; decide)
  | unsent h_clear h_unsent h =>
    rw [h_kind] at h_clear
    have h_not : ¬ s.Submitted o.id := by
      rw [← h_attempted, h_unsent]
      exact Bool.false_ne_true
    refine ⟨h_request, fun h => absurd h_int h, fun _ h => ?_, fun _ _ h => absurd h h_not,
      fun _ _ _ => ⟨fun _ _ => (h.row h_o₁ h_after h_o').2, fun h => absurd h_clear h⟩⟩
    rw [h_clear] at h
    cases h
  | untouched h_retire h_unsent h_clear h =>
    rw [h_kind] at h_retire h_clear
    have h_not : ¬ s.Submitted o.id := by
      rw [← h_attempted, h_unsent]
      exact Bool.false_ne_true
    have h_stays : o' = o₁ := h_after.row h h_o₁ h_o'
    refine ⟨h_request, fun h => absurd h_int h, fun _ h => absurd h h_retire,
      fun _ _ h => absurd h h_not, fun _ _ _ => ⟨?_, ?_⟩⟩
    · intro h_kind_clear h_pending
      -- Nothing of it was written before the pass, and the pass writes nothing.
      have h_other : o.kind ≠ .prompt := by
        rw [h_kind_clear]
        decide
      rw [h_same h_other, h_op] at h_o₁
      have h_sent := h_clear h_kind_clear o (h_op ▸ h_o₁) h_kind_clear h_pending
      exact absurd (h_submitted h_other (h_op ▸ h_sent)) h_not
    · intro _
      rw [h_stays]
      exact h_wake
  | proved h_sent h_agent h =>
    rename_i agent
    have h_not : o.kind ≠ .retire := by
      rw [← h_kind]
      rcases h_agent with ⟨h_start, -⟩ | ⟨h_adopt, -⟩
      · rw [h_start]
        decide
      · rw [h_adopt]
        decide
    have h_yes : s.Submitted o.id := h_attempted.mp h_sent
    refine ⟨h_request, fun h => absurd h_int h, fun _ h => absurd h h_not, fun _ _ _ => .inr ?_,
      fun _ _ h => absurd h_yes h⟩
    obtain ⟨h_agents, h_evidence⟩ := ProvedBy.evidenced h_c h_i h_agent
    obtain ⟨i₁, h_i₁, h_id⟩ := h_present
    obtain ⟨i', h_i', h_id', h_ready⟩ := h.ready i₁ h_i₁ (h_id.trans h_inc.symm)
    exact ⟨(h.settled.row h_o₁ h_after h_o').2, agent, h_agents, h_evidence, i',
      h_after.bound h_i' (.inl h_ready.1), h_id'.trans h_inc, h_ready⟩
  | unknown h_retire h_sent h =>
    rw [h_kind] at h_retire
    have h_yes : s.Submitted o.id := h_attempted.mp h_sent
    exact ⟨h_request, fun h => absurd h_int h, fun _ h => absurd h h_retire,
      fun _ _ _ => .inl (h.row h_o₁ h_after h_o').2, fun _ _ h => absurd h_yes h⟩

/-- Whenever a reconciliation comes to its end, every operation on record that was attempted
    and that no live process owns is decided: it has succeeded, with an agent of the snapshot
    as evidence and its incarnation Ready there, or it is unknown; a retirement is complete
    exactly when its seat is vacant; what was not attempted is left pending, except clears,
    which fail, and overdue prompts; and no other operation changes. -/
theorem reconcile_decides {ok : Call → Store → Prop} (h_s : Reachable ok s)
    (h : (reconcile now snapshot).run s = (.ok report, s')) {o : OperationRow}
    (h_o : o ∈ s.operations) {i : IncarnationRow}
    (h_i : s.incarnations.find o.targetIncarnationId = some i) :
    ∃ o' ∈ s'.operations, Recovered snapshot s s' i o o' := by
  have h_linked : Ledger.Linked s.ledger := h_s.ledger (fun _ _ _ => False.elim) linked_invariant
  obtain ⟨s₁, report₁, h_run, h_missed, h_floor, h_candidates⟩ := reconcile_stages h_linked h
  obtain ⟨o₁, h_o₁, h_request, h_wake⟩ := h_missed.operations o h_o
  have h_owned (h_some : s.liveOperationFloor.isSome) : o₁ = o := by
    have h_o₁' : o₁ ∈ s.operations := by
      rw [← h_floor h_some]
      exact h_o₁
    exact Table.eq_of_key h_o₁' h_o h_request.id
  by_cases h_int : s.Interrupted o
  · -- The operation is a candidate.
    have h_c := recoveryCandidate_eq_some.mpr ⟨i, h_i, h_int, rfl⟩
    obtain ⟨t, t', h_before, h_verdict, h_after⟩ := recoverCandidates_ok
      (recoveryCandidates_nodup s) h_candidates (List.mem_filterMap.mpr ⟨o, h_o, h_c⟩)
    have h_whole : StoreRun (fun c _ => c.Recovers) s s' := Prog.Keeps.of_run inferInstance h
    obtain ⟨o', h_o', h_later⟩ := remembers_run h_whole o h_o
    have h_request' := h_later.toSameRequest
    obtain ⟨h_mem_i, -⟩ := Table.find_eq_some.mp h_i
    obtain ⟨i₁, h_i₁, h_aged⟩ := matures_run (h_run.trans h_before.run) i h_mem_i
    have h_find : t.operations.find o.id = some o₁ :=
      h_before.operation.trans (Table.find_eq_some.mpr ⟨h_o₁, h_request.id⟩)
    refine ⟨o', h_o', h_verdict.recovered h_int h_c h_i h_find ?_ ?_ ⟨i₁, h_i₁, h_aged.id⟩ h_after
      ?_ h_request'⟩
    · refine h_wake.imp_right fun ⟨h_prompt, h_live, h_unknown⟩ => ⟨h_prompt, ?_, h_unknown⟩
      by_contra h_some
      rw [h_owned (Option.isSome_iff_ne_none.mpr h_some)] at h_unknown
      rw [h_unknown] at h_live
      exact absurd h_live (by decide)
    · intro h_kind h_submitted
      exact (h_missed.attempts o h_o h_kind).submitted (h_before.attempts.submitted h_submitted)
    · exact Table.find_eq_some.mpr ⟨h_o', h_request'.id⟩
  · -- It has ended, or a live process owns it.
    have h_same : o₁ = o := by
      rcases h_wake with h_same | ⟨-, h_live, -⟩
      · exact h_same
      · refine h_owned ?_
        by_contra h_none
        refine h_int ⟨h_live, fun floor h_some => absurd ?_ h_none⟩
        exact Option.isSome_iff_exists.mpr ⟨floor, h_some⟩
    subst h_same
    refine ⟨o₁, left_of_candidates h_o₁ ?_ h_candidates, ⟨rfl, rfl, rfl, rfl, rfl, rfl⟩,
      fun _ => rfl, fun h => absurd h h_int, fun h => absurd h h_int, fun h => absurd h h_int⟩
    intro h_mem
    obtain ⟨c, h_c, h_id⟩ := List.mem_map.mp h_mem
    obtain ⟨o₂, h_o₂, h_c⟩ := List.mem_filterMap.mp h_c
    obtain rfl := Table.eq_of_key h_o₂ h_o ((recoveryCandidate_operationId h_c).symm.trans h_id)
    obtain ⟨_, -, h_own, -⟩ := recoveryCandidate_eq_some.mp h_c
    exact h_int h_own

/-- The worker that was started, as a snapshot shows it. -/
def startedWorker : Snapshot :=
  { panes := [], agents := [{ terminalId := "t1", paneId := "w1:p1", name := some "worker",
                              agent := some "claude", interactiveReady := true }] }

/-- A start that was written before its process died, with the agent in the snapshot. -/
theorem reconcile_decides_startingRun : ∃ (s s' : Store) (o o' : OperationRow),
    Reachable (fun _ _ => True) s ∧ o ∈ s.operations ∧ o.outcome = .pending ∧
      o' ∈ s'.operations ∧ o.SameRequest o' ∧
      (o'.outcome = .unknown ∨ o'.outcome = .succeeded) := by
  have h : Leads (fun _ _ => True) (fun s =>
      ((reconcile 5 startedWorker).run s).1.toOption.isSome ∧
      ∃ o ∈ s.operations.rows, o.outcome = .pending ∧ o.kind = .start ∧ s.Submitted o.id ∧
        (s.incarnations.find o.targetIncarnationId).isSome ∧
        ∀ floor ∈ s.liveOperationFloor, o.id ≤ floor)
      (startingRun ++ [.markSubmitted 3 1 1 "r1"]) Store.empty := by decide +kernel
  obtain ⟨s, h_s, h_ok, o, h_o, h_pending, h_kind, h_submitted, h_some, h_floor⟩ := h.run
  obtain ⟨i, h_i⟩ := Option.isSome_iff_exists.mp h_some
  cases h_run : (reconcile 5 startedWorker).run s with
  | mk r s' =>
    rw [h_run] at h_ok
    cases r with
    | error e => cases h_ok
    | ok report =>
      obtain ⟨o', h_o', h_recovered⟩ := reconcile_decides h_s h_run h_o h_i
      have h_decided := h_recovered.attempted ⟨.inl h_pending, h_floor⟩ (by rw [h_kind]; decide)
        h_submitted
      exact ⟨s, s', o, o', h_s, h_o, h_pending, h_o', h_recovered.request,
        h_decided.imp_right And.left⟩

end Kelpie
