/-
  Kelpie.Recovery.Handoffs

  An interrupted handoff in a recovery.

  A start that takes over from another incarnation of its agent names that
  predecessor in its stored intent, and the live path demotes it in the
  transaction that makes the successor Ready.  Recovery builds the same call from
  the stored intent without the predecessor.  So it leaves both Ready where one
  snapshot upholds both:

    * `Moves` is what each pass does to the incarnations: which ones it moves,
      and which ones it may make Ready;
    * `Store.Upheld` is what a snapshot can say for an incarnation before the
      pass, and nothing else is Ready after it (`reconcile_upheld`);
    * a predecessor that stays Ready for the snapshot is not demoted
      (`reconcile_staysReady`), and a successor that nothing else disturbs is
      started on the evidence (`Store.Undisturbed.starts`).
-/

import Kelpie.Bindings.Continuation
import Kelpie.Recovery.Reconciled
import Kelpie.Slice.Starts

namespace Kelpie

open Lib Lib.Tx

-- As in `Kelpie.Store.Frames`.
set_option synthInstance.maxSize 100000

variable {s s' : Store} {now : Millis} {snapshot : Snapshot} {c : RecoveryCandidate}
  {report report' : RecoveryReport}

-- ============================================================================
-- What moves incarnations
-- ============================================================================

/-- No incarnations but those of `S` move, those that become Ready are of `P`, and the agents
    stay as they are. -/
structure Moves (S P : IncarnationId → Prop) (s s' : Store) : Prop where
  others : ∀ i, ¬ S i.id → (i ∈ s'.incarnations ↔ i ∈ s.incarnations)
  ready : ∀ i' ∈ s'.incarnations, i'.state = .ready →
    P i'.id ∨ ∃ i ∈ s.incarnations, i.id = i'.id ∧ i.state = .ready
  agents : s'.logicalAgents = s.logicalAgents

section Moves

variable {S P : IncarnationId → Prop} {op : OperationId} {inc : IncarnationId}
  {agent : AgentObservation}

theorem Moves.of_same (h : s'.incarnations = s.incarnations)
    (h_agents : s'.logicalAgents = s.logicalAgents) : Moves S P s s' := by
  refine ⟨fun i _ => by rw [h], fun i' h_i' h_ready => .inr ⟨i', ?_, rfl, h_ready⟩, h_agents⟩
  rw [← h]
  exact h_i'

instance Moves.stepwise : Stepwise (Moves S P) where
  refl _ := .of_same rfl rfl
  trans h h' := by
    refine ⟨fun i h_i => (h'.others i h_i).trans (h.others i h_i), fun k h_k h_ready => ?_,
      h'.agents.trans h.agents⟩
    rcases h'.ready k h_k h_ready with h_P | ⟨j, h_j, h_id, h_j_ready⟩
    · exact .inl h_P
    · rcases h.ready j h_j h_j_ready with h_P | ⟨i, h_i, h_id', h_i_ready⟩
      · exact .inl (h_id ▸ h_P)
      · exact .inr ⟨i, h_i, h_id'.trans h_id, h_i_ready⟩

instance : Ignores (Moves S P) Tab.operations := ⟨fun _ _ => .of_same rfl rfl⟩
instance : Ignores (Moves S P) Tab.operationAttempts := ⟨fun _ _ => .of_same rfl rfl⟩
instance : Ignores (Moves S P) Tab.deliveries := ⟨fun _ _ => .of_same rfl rfl⟩
instance : Ignores (Moves S P) Tab.operatorNotices := ⟨fun _ _ => .of_same rfl rfl⟩

theorem Moves.mono {S' P' : IncarnationId → Prop} (h : Moves S P s s') (h_S : ∀ id, S id → S' id)
    (h_P : ∀ id, P id → P' id) : Moves S' P' s s' :=
  ⟨fun i h_i => h.others i fun h_Si => h_i (h_S i.id h_Si),
    fun i' h_i' h_ready => (h.ready i' h_i' h_ready).imp_left (h_P i'.id), h.agents⟩

/-- A statement on the incarnation `inc`. -/
theorem keeps_moves {q : IncarnationRow → Prop} [DecidablePred q]
    {f : IncarnationRow → IncarnationRow} {h_key : ∀ i, (f i).id = i.id}
    (h_q : ∀ i, q i → i.id = inc) (h_f : ∀ i, (f i).state = .ready → P inc) :
    Keeps (Moves (· = inc) P) (updateRows Tab.incarnations q f h_key : StoreTx Nat) :=
  .updateRows fun s => by
    refine ⟨fun i h_other => ?_, fun i' h_i' h_ready => ?_, rfl⟩
    · show i ∈ s.incarnations.update q f h_key ↔ i ∈ s.incarnations
      constructor
      · intro h_mem
        rcases Table.mem_update_cases h_mem with ⟨h_old, -⟩ | ⟨i₀, -, h_qi, rfl⟩
        · exact h_old
        · exact absurd ((h_key i₀).trans (h_q i₀ h_qi)) h_other
      · intro h_mem
        exact Table.mem_update_of_not h_mem fun h_qi => h_other (h_q i h_qi)
    · have h_mem : i' ∈ s.incarnations.update q f h_key := h_i'
      rcases Table.mem_update_cases h_mem with ⟨h_old, -⟩ | ⟨i₀, -, h_qi, rfl⟩
      · exact .inr ⟨i', h_old, rfl, h_ready⟩
      · refine .inl ?_
        rw [h_key, h_q i₀ h_qi]
        exact h_f i₀ h_ready

instance {pane terminal} : Keeps (Moves (· = inc) P)
    (reconcileRetirement now op inc pane terminal snapshot) := by
  have h_retired {h_key} : Keeps (Moves (· = inc) P) (updateRows Tab.incarnations
      (fun i => i.id = inc ∧ i.state = .retiring)
      (fun i => { i with
        state := .retired, terminalAtMs := some now,
        terminalReason := some "authoritative_absence" }) h_key : StoreTx Nat) :=
    keeps_moves (fun _ h => h.1) fun _ => nofun
  unfold reconcileRetirement
  infer_instance

instance {evidence delay} : Keeps (Moves (· = inc) P)
    (markUnknownWithClearSpacing now op inc evidence delay) := by
  have h_unknown {h_key} : Keeps (Moves (· = inc) P) (updateRows Tab.incarnations
      (fun i => i.id = inc ∧ i.state = .starting) (fun i => { i with state := .unknown }) h_key :
      StoreTx Nat) :=
    keeps_moves (fun _ h => h.1) fun _ => nofun
  unfold markUnknownWithClearSpacing
  cases delay <;> infer_instance

instance {evidence} : Keeps (Moves (· = inc) P) (markUnknown now op inc evidence) := by
  unfold markUnknown
  infer_instance

instance {evidence delay} : Keeps (Moves (· = inc) P)
    (markClearUnknown now op inc evidence delay) := by
  unfold markClearUnknown
  infer_instance

instance {row} : Keeps (Moves (· = row.incarnationId) P) (settleAbsentUnknownStart now row) := by
  have h_lost {pane terminal} {h_key} : Keeps (Moves (· = row.incarnationId) P)
      (updateRows Tab.incarnations
        (fun i => i.id = row.incarnationId ∧ i.state = .unknown ∧ i.observedPaneId = pane ∧
          i.observedTerminalId = terminal)
        (fun i => { i with
          state := .lost, terminalAtMs := some now, terminalReason := some row.reason })
        h_key : StoreTx Nat) :=
    keeps_moves (fun _ h => h.1) fun _ => nofun
  unfold settleAbsentUnknownStart
  infer_instance

/-- An acceptance makes its own incarnation Ready, and moves no other: there is no predecessor
    to demote. -/
instance : Keeps (Moves (· = inc) (· = inc)) (acceptStartReady now op inc agent none) := by
  have h_ready {h_key} : Keeps (Moves (· = inc) (· = inc)) (updateRows Tab.incarnations
      (fun i => i.id = inc)
      (fun i => { i with
        state := .ready, observedPaneId := some agent.paneId,
        observedTerminalId := some agent.terminalId,
        observedNativeSession := agent.agentSession }) h_key : StoreTx Nat) :=
    keeps_moves (fun _ h => h) fun _ _ => rfl
  unfold acceptStartReady
  infer_instance

instance : Keeps (Moves (· = inc) (· = inc)) (acceptAdoptReady now op inc agent) := by
  have h_ready {h_key} : Keeps (Moves (· = inc) (· = inc)) (updateRows Tab.incarnations
      (fun i => i.id = inc)
      (fun i => { i with
        state := .ready, observedPaneId := some agent.paneId,
        observedTerminalId := some agent.terminalId,
        observedNativeSession := agent.agentSession.or i.observedNativeSession })
      h_key : StoreTx Nat) :=
    keeps_moves (fun _ h => h) fun _ _ => rfl
  unfold acceptAdoptReady
  infer_instance

end Moves

-- ============================================================================
-- Candidates
-- ============================================================================

section Candidates

variable {P : IncarnationId → Prop}

instance : Prog.Keeps (Moves (· = c.incarnationId) (· = c.incarnationId))
    (recoverStart now snapshot c) := by
  have h_settle (intent : StartIntent) :
      Prog.Keeps (Moves (· = c.incarnationId) (· = c.incarnationId))
      (match c.startedAgent intent snapshot with
        | none => return false
        | some agent => do
          let r ← Prog.attempt (acceptStartReady now c.operationId c.incarnationId agent none)
          match r with
          | .ok () => return true
          | .error (.conflict _) => return false
          | .error e => Prog.fail e : Prog Store StoreError Bool) := by
    split
    · infer_instance
    · refine @Prog.Keeps.bind _ _ _ _ _ _ _ _ inferInstance fun r => ?_
      split <;> infer_instance
  unfold recoverStart
  infer_instance

instance : Prog.Keeps (Moves (· = c.incarnationId) (· = c.incarnationId))
    (recoverAdopt now snapshot c) := by
  have h_settle (intended : String) :
      Prog.Keeps (Moves (· = c.incarnationId) (· = c.incarnationId))
      (match c.adoptedAgent intended snapshot with
        | none => return false
        | some agent => do
          let r ← Prog.attempt (acceptAdoptReady now c.operationId c.incarnationId agent)
          match r with
          | .ok () => return true
          | .error _ => return false : Prog Store StoreError Bool) := by
    split
    · infer_instance
    · refine @Prog.Keeps.bind _ _ _ _ _ _ _ _ inferInstance fun r => ?_
      split <;> infer_instance
  unfold recoverAdopt
  infer_instance

instance : Prog.Keeps (Moves (· = c.incarnationId) P) (recoverUnknown now c) := by
  unfold recoverUnknown
  infer_instance

instance : Prog.Keeps (Moves (· = c.incarnationId) P) (recoverUnattempted now c report) := by
  unfold recoverUnattempted
  infer_instance

/-- The snapshot proves what the candidate set out to do, and that was attempted. -/
def RecoveryCandidate.Proven (c : RecoveryCandidate) (snapshot : Snapshot) : Prop :=
  c.attempted = true ∧ ∃ agent, c.ProvedBy snapshot agent

/-- The candidate is about the incarnation, and proved. -/
def RecoveryCandidate.ProvesReady (c : RecoveryCandidate) (snapshot : Snapshot)
    (id : IncarnationId) : Prop :=
  id = c.incarnationId ∧ c.Proven snapshot

theorem recoverStart_moves {started : Bool} (h_kind : c.kind = .start)
    (h_attempted : c.attempted = true)
    (h : (recoverStart now snapshot c).run s = (.ok started, s')) :
    Moves (· = c.incarnationId) (c.ProvesReady snapshot) s s' := by
  rcases recoverStart_ok h with ⟨-, intent, agent, h_intent, h_agent, -⟩ | ⟨-, rfl⟩
  · have h_moves : Moves (· = c.incarnationId) (· = c.incarnationId) s s' :=
      Prog.Keeps.of_run inferInstance h
    exact h_moves.mono (fun _ => id) fun _ h_id =>
      ⟨h_id, h_attempted, agent, .inl ⟨h_kind, intent, h_intent, h_agent⟩⟩
  · exact Stepwise.refl s'

theorem recoverAdopt_moves {adopted : Bool} (h_kind : c.kind = .adopt)
    (h_attempted : c.attempted = true)
    (h : (recoverAdopt now snapshot c).run s = (.ok adopted, s')) :
    Moves (· = c.incarnationId) (c.ProvesReady snapshot) s s' := by
  rcases recoverAdopt_ok h with ⟨-, intended, agent, h_intended, h_agent, -⟩ | ⟨-, rfl⟩
  · have h_moves : Moves (· = c.incarnationId) (· = c.incarnationId) s s' :=
      Prog.Keeps.of_run inferInstance h
    exact h_moves.mono (fun _ => id) fun _ h_id =>
      ⟨h_id, h_attempted, agent, .inr ⟨h_kind, intended, h_intended, h_agent⟩⟩
  · exact Stepwise.refl s'

/-- A candidate moves its own incarnation, which becomes Ready on proof alone. -/
theorem recoverCandidate_moves
    (h : (recoverCandidate now snapshot report c).run s = (.ok report', s')) :
    Moves (· = c.incarnationId) (c.ProvesReady snapshot) s s' := by
  unfold recoverCandidate at h
  split at h
  · obtain ⟨completed, s₁, h_retire, h⟩ := Prog.run_bind_ok.mp h
    have h_same : s' = s₁ := by
      split at h <;> exact (Prog.run_pure_ok.mp h).2.symm
    subst h_same
    exact Keeps.keeps (Prog.run_atomically_ok.mp h_retire)
  · split at h
    · exact Prog.Keeps.of_run inferInstance h
    · rename_i h_attempted
      rw [Bool.not_eq_false] at h_attempted
      dsimp only at h
      rw [Prog.run_ite_bind] at h
      obtain ⟨started, s₁, h_start, h_rest⟩ := Prog.run_bind_ok.mp h
      refine Stepwise.trans (b := s₁) ?_ ?_
      · split at h_start
        · rename_i h_kind
          exact recoverStart_moves h_kind h_attempted h_start
        · obtain ⟨-, rfl⟩ := Prog.run_pure_ok.mp h_start
          exact Stepwise.refl s
      · split at h_rest
        · obtain ⟨-, rfl⟩ := Prog.run_pure_ok.mp h_rest
          exact Stepwise.refl s₁
        · rw [Prog.run_ite_bind] at h_rest
          obtain ⟨adopted, s₂, h_adopt, h_last⟩ := Prog.run_bind_ok.mp h_rest
          refine Stepwise.trans (b := s₂) ?_ ?_
          · split at h_adopt
            · rename_i h_kind
              exact recoverAdopt_moves h_kind h_attempted h_adopt
            · obtain ⟨-, rfl⟩ := Prog.run_pure_ok.mp h_adopt
              exact Stepwise.refl s₁
          · split at h_last
            · obtain ⟨-, rfl⟩ := Prog.run_pure_ok.mp h_last
              exact Stepwise.refl s₂
            · obtain ⟨_, s₃, h_unknown, h_end⟩ := Prog.run_bind_ok.mp h_last
              obtain ⟨-, rfl⟩ := Prog.run_pure_ok.mp h_end
              exact Prog.Keeps.of_run inferInstance h_unknown

theorem recoverCandidates_moves {cs : List RecoveryCandidate}
    (h : (recoverCandidates now snapshot report cs).run s = (.ok report', s')) :
    Moves (fun id => ∃ c ∈ cs, id = c.incarnationId)
      (fun id => ∃ c ∈ cs, c.ProvesReady snapshot id) s s' := by
  induction cs generalizing s report with
  | nil =>
    obtain ⟨-, rfl⟩ := Prog.run_pure_ok.mp h
    exact Stepwise.refl s
  | cons c cs ih =>
    obtain ⟨_, s₁, h_c, h_cs⟩ := Prog.run_bind_ok.mp h
    refine Stepwise.trans (b := s₁) ?_ ?_
    · exact (recoverCandidate_moves h_c).mono (fun _ h_id => ⟨c, List.mem_cons_self, h_id⟩)
        fun _ h_id => ⟨c, List.mem_cons_self, h_id⟩
    · exact (ih h_cs).mono (fun _ ⟨c', h_c', h_id⟩ => ⟨c', List.mem_cons_of_mem c h_c', h_id⟩)
        fun _ ⟨c', h_c', h_id⟩ => ⟨c', List.mem_cons_of_mem c h_c', h_id⟩

end Candidates

-- ============================================================================
-- Absent starts and missed wakes
-- ============================================================================

/-- Settling the absent starts moves unknown incarnations. -/
theorem settleAbsentUnknownStarts_moves {n : Nat}
    (h : (settleAbsentUnknownStarts now snapshot).run s = (.ok n, s')) :
    Moves (fun id => ∃ i ∈ s.incarnations, i.id = id ∧ i.state = .unknown) (fun _ => False)
      s s' := by
  unfold settleAbsentUnknownStarts at h
  obtain ⟨rows, s₁, h_read, h_loop⟩ := Prog.run_bind_ok.mp h
  obtain ⟨rfl, rfl⟩ := Prog.run_reads_ok.mp h_read
  obtain ⟨settled, s₂, h_each, h_end⟩ := Prog.run_bind_ok.mp h_loop
  obtain ⟨-, rfl⟩ := Prog.run_pure_ok.mp h_end
  refine Prog.Keeps.of_run (Prog.Keeps.forEach_mem fun row h_row => ?_) h_each
  obtain ⟨i, h_i, h_start⟩ := List.mem_filterMap.mp (List.mem_filter.mp h_row).1
  unfold Store.unknownStart at h_start
  rw [guard_bind_eq_some, guard_bind_eq_some] at h_start
  obtain ⟨h_unknown, -, h_start⟩ := h_start
  obtain ⟨name, -, h_start⟩ := Option.bind_eq_some_iff.mp h_start
  have h_id : row.incarnationId = i.id := by
    cases h_start
    rfl
  have h_one : Keeps (Moves (· = row.incarnationId) fun _ => False)
      (settleAbsentUnknownStart now row) := inferInstance
  have h_settle : Keeps (Moves (fun id => ∃ i ∈ s.incarnations, i.id = id ∧ i.state = .unknown)
      (fun _ => False)) (settleAbsentUnknownStart now row) :=
    h_one.mono fun _ _ h_moves => h_moves.mono
      (fun _ h_eq => ⟨i, h_i, (h_eq.trans h_id).symm, h_unknown⟩) fun _ => id
  infer_instance

/-- Missed wakes move recipients of queued deliveries. -/
theorem reconcileMissedDueWakes_moves {nowMs : Millis} {n : Nat}
    (h : (reconcileMissedDueWakes now nowMs).run s = (.ok n, s')) :
    Moves (fun id => ∃ d ∈ s.deliveries, d.recipientIncarnationId = some id) (fun _ => False)
      s s' := by
  unfold reconcileMissedDueWakes at h
  obtain ⟨overdue, s₁, h_read, h_loop⟩ := Prog.run_bind_ok.mp h
  obtain ⟨rfl, rfl⟩ := Prog.run_reads_ok.mp h_read
  obtain ⟨marked, s₂, h_each, h_end⟩ := Prog.run_bind_ok.mp h_loop
  obtain ⟨-, rfl⟩ := Prog.run_pure_ok.mp h_end
  refine Prog.Keeps.of_run (Prog.Keeps.forEach_mem fun w h_w => ?_) h_each
  obtain ⟨d, h_d, h_wake⟩ := List.mem_filterMap.mp h_w
  unfold Store.missedDueWake at h_wake
  rw [guard_bind_eq_some] at h_wake
  obtain ⟨-, h_wake⟩ := h_wake
  obtain ⟨o, -, h_wake⟩ := Option.bind_eq_some_iff.mp h_wake
  rw [guard_bind_eq_some, guard_bind_eq_some] at h_wake
  obtain ⟨-, -, h_wake⟩ := h_wake
  obtain ⟨recipient, h_recipient, h_wake⟩ := Option.bind_eq_some_iff.mp h_wake
  rw [guard_bind_eq_some] at h_wake
  have h_id : w.2 = recipient := congrArg Prod.snd (Option.some_inj.mp h_wake.2).symm
  have h_mark {evidence : String} : Keeps (Moves (fun id => ∃ d ∈ s.deliveries,
      d.recipientIncarnationId = some id) fun _ => False) (markUnknown now w.1 w.2 evidence) := by
    have h_one : Keeps (Moves (· = w.2) fun _ => False) (markUnknown now w.1 w.2 evidence) :=
      inferInstance
    exact h_one.mono fun _ _ h_moves => h_moves.mono
      (fun _ h_eq => ⟨d, h_d, by rw [h_eq, h_id, h_recipient]⟩) fun _ => id
  infer_instance

-- ============================================================================
-- The passes before the candidates
-- ============================================================================

/-- The incarnation is Ready, and the snapshot does not show its binding gone. -/
def Store.StaysReady (s : Store) (snapshot : Snapshot) (i : IncarnationRow) : Prop :=
  i.state = .ready ∧ match s.readyBinding i with
    | some (.ok b) => b.Stays snapshot
    | _ => True

instance (s : Store) (snapshot : Snapshot) : DecidablePred (s.StaysReady snapshot) := fun i => by
  unfold Store.StaysReady
  refine @instDecidableAnd _ _ _ ?_
  split <;> infer_instance

/-- An incarnation is Ready after the reconciliation of the Ready bindings exactly if it stays so
    for the snapshot. -/
theorem Reconciled.stays {bs : List ReadyBinding} {s₁ : Store} {i : IncarnationRow}
    (h : Reconciled snapshot bs s s₁) (h_read : readyBindings s = .ok bs)
    (h_i : i ∈ s.incarnations) :
    (∃ i' ∈ s₁.incarnations, i'.id = i.id ∧ i'.state = .ready) ↔ s.StaysReady snapshot i := by
  obtain ⟨i', h_i', h_checked⟩ := h.incarnations.image i h_i
  have h_state : i'.state = .ready ↔ i.state = .ready ∧ ¬ Loses snapshot bs i := by
    rw [h_checked.state]
    split
    · rename_i h_loses
      exact iff_of_false nofun fun h_not => h_not.2 h_loses
    · rename_i h_kept
      exact (and_iff_left h_kept).symm
  have h_only : (∃ j ∈ s₁.incarnations, j.id = i.id ∧ j.state = .ready) ↔ i'.state = .ready := by
    constructor
    · rintro ⟨j, h_j, h_id, h_ready⟩
      obtain rfl := Table.eq_of_key h_j h_i' (h_id.trans h_checked.same.id.symm)
      exact h_ready
    · exact fun h_ready => ⟨i', h_i', h_checked.same.id, h_ready⟩
  rw [h_only, h_state]
  refine and_congr_right fun h_ready => ?_
  constructor
  · intro h_kept
    split
    · rename_i b h_b
      have h_mem : b ∈ bs := (mem_readyBindings h_read).mpr ⟨i, h_i, h_b⟩
      by_contra h_gone
      exact h_kept ⟨h_ready, b, h_mem, (readyBinding_of h_i h_b).id, h_gone⟩
    · trivial
  · rintro h_stays ⟨-, b, h_b, h_id, h_gone⟩
    obtain ⟨j, h_of⟩ := readyBindings_of h_read h_b
    obtain rfl := Table.eq_of_key h_of.row h_i (h_of.id.symm.trans h_id)
    rw [h_of.read] at h_stays
    exact h_gone h_stays

/-- The stores between the passes of a reconciliation: after the Ready bindings, the
    continuations, the absent starts and the missed wakes. -/
structure Passed (now : Millis) (snapshot : Snapshot) (bs : List ReadyBinding)
    (s s₁ s₂ s₃ s₄ : Store) : Prop where
  read : readyBindings s = .ok bs
  bindings : Reconciled snapshot bs s s₁
  continued : ∃ cs, Continued cs s₁ s₂
  starts : Moves (fun id => ∃ i ∈ s₂.incarnations, i.id = id ∧ i.state = .unknown)
    (fun _ => False) s₂ s₃
  standing : Standing s s₃
  wakes : s₃ = s₄ ∨ ∃ n, (reconcileMissedDueWakes now now).run s₃ = (.ok n, s₄)

theorem reconcile_passed (h : (reconcile now snapshot).run s = (.ok report, s')) :
    ∃ bs s₁ s₂ s₃ s₄ report₁, Passed now snapshot bs s s₁ s₂ s₃ s₄ ∧
      (recoverCandidates now snapshot report₁ s.recoveryCandidates).run s₄ = (.ok report, s') := by
  unfold reconcile at h
  obtain ⟨candidates, _, h_read, h_ready⟩ := Prog.run_bind_ok.mp h
  obtain ⟨rfl, rfl⟩ := Prog.run_reads_ok.mp h_read
  obtain ⟨ready, s₁, h_bindings, h_continue⟩ := Prog.run_bind_ok.mp h_ready
  obtain ⟨continued, s₂, h_continued, h_settle⟩ := Prog.run_bind_ok.mp h_continue
  obtain ⟨settled, s₃, h_settled, h_floor⟩ := Prog.run_bind_ok.mp h_settle
  obtain ⟨floor, _, h_read', h_wakes⟩ := Prog.run_bind_ok.mp h_floor
  obtain ⟨rfl, rfl⟩ := Prog.run_reads_ok.mp h_read'
  dsimp only at h_wakes
  rw [Prog.run_ite_bind] at h_wakes
  obtain ⟨missed, s₄, h_missed, h_candidates⟩ := Prog.run_bind_ok.mp h_wakes
  obtain ⟨bs, h_bs, h_done⟩ :=
    reconcileReadyIncarnations_run (Prog.run_atomically_ok.mp h_bindings)
  refine ⟨bs, s₁, s₂, s₃, s₄, _, ⟨h_bs, h_done, ?_, ?_, ?_, ?_⟩, h_candidates⟩
  · exact ⟨_, continueRestoredOccupants_run (Prog.run_atomically_ok.mp h_continued)⟩
  · exact settleAbsentUnknownStarts_moves h_settled
  · exact Stepwise.trans (Stepwise.trans (Prog.Keeps.of_run inferInstance h_bindings)
      (Prog.Keeps.of_run inferInstance h_continued)) (Prog.Keeps.of_run inferInstance h_settled)
  · split at h_missed
    · exact .inl (Prog.run_pure_ok.mp h_missed).2
    · exact .inr ⟨missed, h_missed⟩

section Passed

variable {bs : List ReadyBinding} {s₁ s₂ s₃ s₄ : Store} {i i' : IncarnationRow}

/-- The missed wakes move recipients of queued deliveries. -/
theorem Passed.moved (h : Passed now snapshot bs s s₁ s₂ s₃ s₄) :
    Moves (fun id => ∃ d ∈ s.deliveries, d.recipientIncarnationId = some id) (fun _ => False)
      s₃ s₄ := by
  have h_same : s₃.deliveries = s.deliveries := congrArg Ledger.deliveries h.standing.ledger
  rcases h.wakes with rfl | ⟨n, h_run⟩
  · exact Stepwise.refl s₃
  · rw [← h_same]
    exact reconcileMissedDueWakes_moves h_run

/-- A Ready incarnation is still Ready after the first pass exactly if it stays so for the
    snapshot. -/
theorem Passed.stays (h : Passed now snapshot bs s s₁ s₂ s₃ s₄) (h_i : i ∈ s.incarnations) :
    (∃ i' ∈ s₁.incarnations, i'.id = i.id ∧ i'.state = .ready) ↔ s.StaysReady snapshot i :=
  h.bindings.stays h.read h_i

/-- What is Ready before the candidates was added by the pass, or stays Ready for the snapshot. -/
theorem Passed.origin (h : Passed now snapshot bs s s₁ s₂ s₃ s₄) (h_i : i ∈ s.incarnations)
    (h_i' : i' ∈ s₄.incarnations) (h_id : i'.id = i.id) (h_ready : i'.state = .ready) :
    s.StaysReady snapshot i := by
  obtain ⟨i₃, h_i₃, h_id₃, h_ready₃⟩ := (h.moved.ready i' h_i' h_ready).resolve_left id
  obtain ⟨i₂, h_i₂, h_id₂, h_ready₂⟩ := (h.starts.ready i₃ h_i₃ h_ready₃).resolve_left id
  have h_same : i₂.id = i.id := h_id₂.trans (h_id₃.trans h_id)
  obtain ⟨cs, h_continued⟩ := h.continued
  obtain ⟨rows, h_adds, -⟩ := h_continued.incarnations
  obtain ⟨i₁, h_i₁, h_checked⟩ := h.bindings.incarnations.image i h_i
  obtain rfl := Table.eq_of_key ((h_adds.mem i₁).mpr (.inl h_i₁)) h_i₂
    (h_checked.same.id.trans h_same.symm)
  exact (h.stays h_i).mp ⟨i₁, h_i₁, h_same, h_ready₂⟩

/-- What stays Ready for the snapshot is Ready before the candidates. -/
theorem Passed.ready (h : Passed now snapshot bs s s₁ s₂ s₃ s₄) (h_i : i ∈ s.incarnations)
    (h_stays : s.StaysReady snapshot i) :
    ∃ i' ∈ s₄.incarnations, i'.id = i.id ∧ i'.state = .ready := by
  obtain ⟨i', h_i', h_id, h_ready⟩ := (h.stays h_i).mpr h_stays
  refine ⟨i', ?_, h_id, h_ready⟩
  obtain ⟨cs, h_continued⟩ := h.continued
  obtain ⟨rows, h_adds, -⟩ := h_continued.incarnations
  have h_i₂ : i' ∈ s₂.incarnations := (h_adds.mem i').mpr (.inl h_i')
  have h_i₃ : i' ∈ s₃.incarnations := by
    refine (h.starts.others i' ?_).mpr h_i₂
    rintro ⟨j, h_j, h_id, h_unknown⟩
    rw [Table.eq_of_key h_j h_i₂ h_id, h_ready] at h_unknown
    cases h_unknown
  rcases h.wakes with rfl | ⟨n, h_run⟩
  · exact h_i₃
  · have h_bound : Over Tab.incarnations BoundStay s₃ s₄ := by
      refine Prog.Keeps.of_run ?_ h_run
      unfold reconcileMissedDueWakes
      infer_instance
    exact h_bound i' h_i₃ (.inl h_ready)

end Passed

-- ============================================================================
-- The whole pass
-- ============================================================================

/-- The incarnation is Ready. -/
def Store.HasReady (s : Store) (id : IncarnationId) : Prop :=
  ∃ i ∈ s.incarnations.rows, i.id = id ∧ i.state = .ready

instance (s : Store) : DecidablePred s.HasReady := fun id =>
  inferInstanceAs (Decidable (∃ i ∈ s.incarnations.rows, i.id = id ∧ i.state = .ready))

/-- The incarnation stays Ready for the snapshot, or an interrupted operation on it is proved
    by the snapshot. -/
def Store.Upheld (s : Store) (snapshot : Snapshot) (i : IncarnationRow) : Prop :=
  s.StaysReady snapshot i ∨ ∃ c ∈ s.recoveryCandidates, c.ProvesReady snapshot i.id

/-- No incarnation is Ready after a reconciliation that was not upheld. -/
theorem reconcile_upheld (h : (reconcile now snapshot).run s = (.ok report, s'))
    {i : IncarnationRow} (h_i : i ∈ s.incarnations) (h_ready : s'.HasReady i.id) :
    s.Upheld snapshot i := by
  obtain ⟨bs, s₁, s₂, s₃, s₄, report₁, h_passed, h_candidates⟩ := reconcile_passed h
  obtain ⟨i', h_i', h_id, h_ready⟩ := h_ready
  rcases (recoverCandidates_moves h_candidates).ready i' h_i' h_ready with
    ⟨c, h_c, h_proves⟩ | ⟨i₄, h_i₄, h_id₄, h_was⟩
  · exact .inr ⟨c, h_c, h_id ▸ h_proves⟩
  · exact .inl (h_passed.origin h_i h_i₄ (h_id₄.trans h_id) h_was)

/-- The candidates leave Ready what is. -/
theorem recoverCandidates_bound {cs : List RecoveryCandidate}
    (h : (recoverCandidates now snapshot report cs).run s = (.ok report', s')) :
    Over Tab.incarnations BoundStay s s' := by
  induction cs generalizing s report with
  | nil =>
    obtain ⟨-, rfl⟩ := Prog.run_pure_ok.mp h
    exact Stepwise.refl s
  | cons c cs ih =>
    obtain ⟨_, s₁, h_c, h_cs⟩ := Prog.run_bind_ok.mp h
    have h_touches : TouchesOnly c.operationId s s₁ := Prog.Keeps.of_run inferInstance h_c
    exact Stepwise.trans h_touches.incarnations (ih h_cs)

/-- What stays Ready for the snapshot is Ready after the reconciliation: nothing demotes it. -/
theorem reconcile_staysReady (h : (reconcile now snapshot).run s = (.ok report, s'))
    {i : IncarnationRow} (h_i : i ∈ s.incarnations) (h_stays : s.StaysReady snapshot i) :
    s'.HasReady i.id := by
  obtain ⟨bs, s₁, s₂, s₃, s₄, report₁, h_passed, h_candidates⟩ := reconcile_passed h
  obtain ⟨i', h_i', h_id, h_ready⟩ := h_passed.ready h_i h_stays
  exact ⟨i', recoverCandidates_bound h_candidates i' h_i' (.inl h_ready), h_id, h_ready⟩

/-- The turn of one candidate, and what the others did before. -/
theorem recoverCandidates_turn {cs : List RecoveryCandidate}
    (h_nodup : (cs.map (·.operationId)).Nodup)
    (h : (recoverCandidates now snapshot report cs).run s = (.ok report', s')) (h_c : c ∈ cs) :
    ∃ t t' r r', Passes c.operationId s t ∧
      Moves (fun id => ∃ d ∈ cs, d.operationId ≠ c.operationId ∧ id = d.incarnationId)
        (fun _ => True) s t ∧
      (recoverCandidate now snapshot r c).run t = (.ok r', t') ∧
      Over Tab.incarnations BoundStay t' s' := by
  induction cs generalizing s report with
  | nil => exact absurd h_c List.not_mem_nil
  | cons c₀ cs ih =>
    rw [List.map_cons, List.nodup_cons] at h_nodup
    obtain ⟨report₁, s₁, h_first, h_cs⟩ := Prog.run_bind_ok.mp h
    rcases List.mem_cons.mp h_c with rfl | h_later
    · exact ⟨s, s₁, report, report₁, Stepwise.refl s, Stepwise.refl s, h_first,
        recoverCandidates_bound h_cs⟩
    · have h_op : c.operationId ≠ c₀.operationId := fun h_same =>
        h_nodup.1 (h_same ▸ List.mem_map_of_mem h_later)
      obtain ⟨t, t', r, r', h_before, h_moves, h_turn, h_after⟩ := ih h_nodup.2 h_cs h_later
      refine ⟨t, t', r, r', Stepwise.trans (recoverCandidate_passes h_op h_first) h_before,
        Stepwise.trans (b := s₁) ?_ ?_, h_turn, h_after⟩
      · exact (recoverCandidate_moves h_first).mono
          (fun _ h_id => ⟨c₀, List.mem_cons_self, h_op.symm, h_id⟩) fun _ _ => trivial
      · exact h_moves.mono
          (fun _ ⟨d, h_d, h_id⟩ => ⟨d, List.mem_cons_of_mem c₀ h_d, h_id⟩) fun _ _ => trivial

/-- A start that is proved in the store of its turn makes its incarnation Ready. -/
theorem recoverCandidate_starts {intent : StartIntent} {agent : AgentObservation}
    (h_kind : c.kind = .start) (h_attempted : c.attempted = true)
    (h_intent : c.intent = .start intent) (h_agent : c.startedAgent intent snapshot = some agent)
    (h_commits : (acceptStartReady now c.operationId c.incarnationId agent none).Commits s)
    (h : (recoverCandidate now snapshot report c).run s = (.ok report', s'))
    (h_row : ∃ i ∈ s.incarnations, i.id = c.incarnationId) : s'.HasReady c.incarnationId := by
  obtain ⟨u, s₁, h_accept⟩ := h_commits
  have h_start : (recoverStart now snapshot c).run s = (.ok true, s₁) := by
    unfold recoverStart
    rw [Prog.run_bind_ok]
    refine ⟨intent, s, ?_, ?_⟩
    · rw [h_intent]
      rfl
    · rw [h_agent]
      refine Prog.run_bind_ok.mpr ⟨.ok u, s₁, ?_, rfl⟩
      simp only [Prog.attempt, h_accept]
  have h_same : s' = s₁ := by
    unfold recoverCandidate at h
    rw [h_kind, if_neg (by decide), h_attempted, if_neg (by decide)] at h
    dsimp only at h
    rw [if_pos rfl] at h
    obtain ⟨started, s₂, h_started, h⟩ := Prog.run_bind_ok.mp h
    obtain ⟨h_true, rfl⟩ := Prod.mk.inj (h_start.symm.trans h_started)
    rw [← Except.ok.inj h_true, if_pos rfl] at h
    exact (Prog.run_pure_ok.mp h).2.symm
  obtain ⟨i, h_i, h_id⟩ := h_row
  obtain ⟨i', h_i', h_id', h_ready⟩ := (acceptStartReady_proves h_accept).ready i h_i h_id
  exact ⟨i', h_same ▸ h_i', h_id', h_ready.1⟩

-- ============================================================================
-- The turn of a handoff
-- ============================================================================

/-- An interrupted handoff: the start `o` of the successor was attempted and is unresolved, and
    the stored intent names the predecessor. -/
structure Store.Handoff (s : Store) (o : OperationRow) (intent : StartIntent)
    (successor predecessor : IncarnationRow) : Prop where
  operation : o ∈ s.operations.rows
  kind : o.kind = .start
  live : o.outcome.Live
  attempted : ∃ a ∈ s.operationAttempts.rows, a.operationId = o.id
  stored : o.intent = .start intent
  supersedes : intent.supersedes = some predecessor.id
  target : o.targetIncarnationId = successor.id
  starts : successor ∈ s.incarnations.rows
  precedes : predecessor ∈ s.incarnations.rows

/-- Nothing else is about to happen to the two incarnations: the successor starts under the name
    and the backend of the intent, no rename is pending of its agent or to its name, no waiter
    has the name, no other operation is live on it and no mail is addressed to it; and the
    predecessor has no start or adoption left. -/
structure Store.Undisturbed (s : Store) (o : OperationRow) (intent : StartIntent)
    (successor predecessor : IncarnationRow) : Prop where
  starting : successor.state = .starting
  name : s.publicName successor.logicalAgentId = some intent.publicName
  backend : successor.backendKind = intent.backendKind
  renames : ∀ i ∈ s.incarnations.rows, i.logicalAgentId = successor.logicalAgentId ∨
    i.pendingRenameTo = some intent.publicName → i.pendingRenameTo = none
  waiters : ¬ s.AliasWaiting intent.publicName
  operations : ∀ o' ∈ s.operations.rows, o'.outcome.Live →
    o'.targetIncarnationId = successor.id → o'.id = o.id
  mail : ∀ d ∈ s.deliveries.rows, d.recipientIncarnationId ≠ some successor.id
  bound : ∀ o' ∈ s.operations.rows, o'.outcome.Live →
    o'.targetIncarnationId = predecessor.id → o'.kind ≠ .start ∧ o'.kind ≠ .adopt

instance (s : Store) (o : OperationRow) (intent : StartIntent)
    (successor predecessor : IncarnationRow) :
    Decidable (s.Undisturbed o intent successor predecessor) :=
  decidable_of_iff (successor.state = .starting ∧
      s.publicName successor.logicalAgentId = some intent.publicName ∧
      successor.backendKind = intent.backendKind ∧
      (∀ i ∈ s.incarnations.rows, i.logicalAgentId = successor.logicalAgentId ∨
        i.pendingRenameTo = some intent.publicName → i.pendingRenameTo = none) ∧
      ¬ s.AliasWaiting intent.publicName ∧
      (∀ o' ∈ s.operations.rows, o'.outcome.Live →
        o'.targetIncarnationId = successor.id → o'.id = o.id) ∧
      (∀ d ∈ s.deliveries.rows, d.recipientIncarnationId ≠ some successor.id) ∧
      ∀ o' ∈ s.operations.rows, o'.outcome.Live →
        o'.targetIncarnationId = predecessor.id → o'.kind ≠ .start ∧ o'.kind ≠ .adopt)
    ⟨fun ⟨h₁, h₂, h₃, h₄, h₅, h₆, h₇, h₈⟩ => ⟨h₁, h₂, h₃, h₄, h₅, h₆, h₇, h₈⟩,
      fun ⟨h₁, h₂, h₃, h₄, h₅, h₆, h₇, h₈⟩ => ⟨h₁, h₂, h₃, h₄, h₅, h₆, h₇, h₈⟩⟩

section Turn

variable {o : OperationRow} {intent : StartIntent} {successor predecessor : IncarnationRow}
  {bs : List ReadyBinding} {s₁ s₂ s₃ s₄ : Store}

/-- The pass over the Ready bindings leaves the name of the successor's agent, and gives it to
    no waiter. -/
theorem Store.Undisturbed.named (h_s : s.Undisturbed o intent successor predecessor)
    (h_bs : readyBindings s = .ok bs) (h : Reconciled snapshot bs s s₁) :
    s₁.publicName successor.logicalAgentId = some intent.publicName ∧
      ¬ s₁.AliasWaiting intent.publicName := by
  -- A binding that names an agent has a pending rename.
  have h_pending {b : ReadyBinding} {agent : LogicalAgentId} (h_b : b ∈ bs)
      (h_names : b.Names s.incarnations snapshot agent) :
      ∃ i ∈ s.incarnations, i.logicalAgentId = agent ∧
        i.pendingRenameTo = some (b.nameAfter snapshot) := by
    obtain ⟨i, h_of⟩ := readyBindings_of h_bs h_b
    have h_find : s.incarnations.find b.id = some i :=
      Table.find_eq_some.mpr ⟨h_of.row, h_of.id.symm⟩
    have h_agent := h_names.2
    rw [h_find] at h_agent
    exact ⟨i, h_of.row, Option.some_inj.mp h_agent,
      h_of.pending.symm.trans (ReadyBinding.pending_of_renamed h_names.1)⟩
  constructor
  · obtain ⟨l, h_l, h_name⟩ := Option.map_eq_some_iff.mp h_s.name
    obtain ⟨h_mem, h_id⟩ := Table.find_eq_some.mp h_l
    obtain ⟨l', h_l', h_label⟩ := h.agents.image l h_mem
    have h_found : s₁.logicalAgents.find successor.logicalAgentId = some l' := by
      refine Table.find_eq_some.mpr ⟨h_l', ?_⟩
      rw [h_label]
      exact h_id
    refine Option.map_eq_some_iff.mpr ⟨l', h_found, ?_⟩
    rw [h_label]
    rcases foldl_takesName_cases s.incarnations snapshot bs l.id l.publicName with
      ⟨h_same, -⟩ | ⟨b, h_b, h_names, -⟩
    · exact h_same.trans h_name
    · obtain ⟨i, h_i, h_agent, h_some⟩ := h_pending h_b h_names
      rw [h_s.renames i h_i (.inl (h_agent.trans h_id))] at h_some
      cases h_some
  · rintro ⟨l', h_l', h_waiter, h_name⟩
    obtain ⟨l, h_l, h_label⟩ := h.agents.origin l' h_l'
    have h_waiter₀ : l.ActiveWaiter := by
      rw [h_label] at h_waiter
      exact h_waiter
    rw [h_label] at h_name
    rcases foldl_takesName_cases s.incarnations snapshot bs l.id l.publicName with
      ⟨h_same, -⟩ | ⟨b, h_b, h_names, h_after⟩
    · exact h_s.waiters ⟨l, h_l, h_waiter₀, h_same.symm.trans h_name⟩
    · obtain ⟨i, h_i, -, h_some⟩ := h_pending h_b h_names
      have h_to : i.pendingRenameTo = some intent.publicName := by
        rw [h_some, ← h_after]
        exact congrArg some h_name
      rw [h_s.renames i h_i (.inr h_to)] at h_some
      cases h_some

/-- The passes before the candidates leave the successor, its name and its start. -/
theorem Store.Undisturbed.passed (h_s : s.Undisturbed o intent successor predecessor)
    (h_o : s.Handoff o intent successor predecessor) (h_linked : Ledger.Linked s.ledger)
    (h : Passed now snapshot bs s s₁ s₂ s₃ s₄) :
    successor ∈ s₄.incarnations ∧ o ∈ s₄.operations ∧
      s₄.publicName successor.logicalAgentId = some intent.publicName ∧
      ¬ s₄.AliasWaiting intent.publicName := by
  obtain ⟨cs, h_continued⟩ := h.continued
  obtain ⟨rows, h_adds, -⟩ := h_continued.incarnations
  have h_row₁ : successor ∈ s₁.incarnations := by
    obtain ⟨i, h_i, h_checked⟩ := h.bindings.incarnations.image successor h_o.starts
    have h_apart : ∀ b ∈ bs, b.id ≠ successor.id := by
      intro b h_b h_id
      obtain ⟨j, h_of⟩ := readyBindings_of h.read h_b
      have h_ready := h_of.ready
      rw [Table.eq_of_key h_of.row h_o.starts (h_of.id.symm.trans h_id), h_s.starting] at h_ready
      cases h_ready
    rwa [h_checked.apart h_apart] at h_i
  have h_row₂ : successor ∈ s₂.incarnations := (h_adds.mem successor).mpr (.inl h_row₁)
  have h_row₃ : successor ∈ s₃.incarnations := by
    refine (h.starts.others successor ?_).mpr h_row₂
    rintro ⟨j, h_j, h_id, h_unknown⟩
    rw [Table.eq_of_key h_j h_row₂ h_id, h_s.starting] at h_unknown
    cases h_unknown
  have h_row₄ : successor ∈ s₄.incarnations := by
    refine (h.moved.others successor ?_).mpr h_row₃
    rintro ⟨d, h_d, h_recipient⟩
    exact h_s.mail d h_d h_recipient
  have h_operation : o ∈ s₄.operations := by
    have h_same : s₃.operations = s.operations := congrArg Ledger.operations h.standing.ledger
    have h_o₃ : o ∈ s₃.operations := by
      rw [h_same]
      exact h_o.operation
    rcases h.wakes with rfl | ⟨n, h_run⟩
    · exact h_o₃
    · have h_missed := reconcileMissedDueWakes_missed (h.standing.ledger ▸ h_linked) h_run
      obtain ⟨o', h_o', -, rfl | ⟨h_prompt, -⟩⟩ := h_missed.operations o h_o₃
      · exact h_o'
      · rw [h_o.kind] at h_prompt
        cases h_prompt
  have h_agents : s₄.logicalAgents = s₂.logicalAgents := h.moved.agents.trans h.starts.agents
  obtain ⟨h_name, h_waiting⟩ := h_s.named h.read h.bindings
  refine ⟨h_row₄, h_operation, ?_, ?_⟩
  · unfold Store.publicName
    rw [h_agents, h_continued.agents.find_map (fun _ _ h_l => h_l.key) (fun _ _ h_l => h_l.name)]
    exact h_name
  · rintro ⟨l', h_l', h_waiter, h_same⟩
    rw [h_agents] at h_l'
    obtain ⟨l, h_l, h_noted⟩ := h_continued.agents.origin l' h_l'
    exact h_waiting ⟨l, h_l, h_noted.waiter h_waiter, h_noted.name.symm.trans h_same⟩

/-- The candidate that is proved of the successor is that of the handoff. -/
theorem Store.Undisturbed.candidate (h_s : s.Undisturbed o intent successor predecessor)
    (h_o : s.Handoff o intent successor predecessor)
    (h_c : c ∈ s.recoveryCandidates) (h_id : successor.id = c.incarnationId) :
    s.recoveryCandidate o = some c := by
  obtain ⟨o', h_o', h_made⟩ := List.mem_filterMap.mp h_c
  obtain ⟨i, h_i, h_own, h_eq⟩ := recoveryCandidate_eq_some.mp h_made
  have h_target : o'.targetIncarnationId = successor.id := by
    rw [h_id, h_eq]
    exact (Table.find_eq_some.mp h_i).2.symm
  have h_same : o'.id = o.id := h_s.operations o' h_o' h_own.1 h_target
  rwa [Table.eq_of_key h_o' h_o.operation h_same] at h_made

/-- In the store of its turn the start of the successor is accepted on the evidence. -/
theorem Store.Undisturbed.accepts (h_s : s.Undisturbed o intent successor predecessor)
    (h_o : s.Handoff o intent successor predecessor) {t : Store} {agent : AgentObservation}
    (h_row : successor ∈ t.incarnations) (h_operation : o ∈ t.operations)
    (h_name : t.publicName successor.logicalAgentId = some intent.publicName)
    (h_waiting : ¬ t.AliasWaiting intent.publicName) (h_c : s.recoveryCandidate o = some c)
    (h_agent : c.startedAgent intent snapshot = some agent) :
    (acceptStartReady now c.operationId c.incarnationId agent none).Commits t := by
  obtain ⟨i, h_i, -, h_eq⟩ := recoveryCandidate_eq_some.mp h_c
  obtain ⟨h_mem, h_id⟩ := Table.find_eq_some.mp h_i
  obtain rfl := Table.eq_of_key h_mem h_o.starts (h_id.trans h_o.target)
  have h_found := List.find?_some h_agent
  simp only [Bool.decide_and, Bool.and_eq_true, decide_eq_true_eq] at h_found
  obtain ⟨h_pane, h_terminal, h_named, h_backend, h_ready, h_launched⟩ := h_found
  have h_inc : c.incarnationId = i.id := by rw [h_eq]
  have h_op : c.operationId = o.id := by rw [h_eq]
  rw [acceptStartReady_commits, h_inc, h_op]
  have h_live : t.OperationIs o.id i.id (·.Live) := ⟨o, h_operation, ⟨rfl, h_o.target⟩, h_o.live⟩
  refine ⟨h_live, ⟨{
    paneId := i.intendedPaneId, terminalId := i.expectedTerminalId,
    name := intent.publicName, kind := i.backendKind }, ?_, ?_, h_ready, h_waiting⟩, nofun⟩
  · have h_find : t.incarnations.find i.id = some i := Table.find_eq_some.mpr ⟨h_row, rfl⟩
    have h_starting : i.state ∈ [IncarnationState.starting] :=
      List.mem_singleton.mpr h_s.starting
    exact Option.bind_eq_some_iff.mpr ⟨i, h_find, guard_bind_eq_some.mpr
      ⟨h_starting, Option.bind_eq_some_iff.mpr ⟨_, h_name, rfl⟩⟩⟩
  · rw [h_eq] at h_pane h_terminal
    exact ⟨h_pane, h_terminal, h_named, h_s.backend ▸ h_backend, h_launched⟩

/-- An undisturbed successor that the snapshot proves is Ready after the reconciliation. -/
theorem Store.Undisturbed.starts (h_s : s.Undisturbed o intent successor predecessor)
    (h_o : s.Handoff o intent successor predecessor) (h_linked : Ledger.Linked s.ledger)
    (h : (reconcile now snapshot).run s = (.ok report, s')) (h_c : c ∈ s.recoveryCandidates)
    (h_proves : c.ProvesReady snapshot successor.id) : s'.HasReady successor.id := by
  obtain ⟨bs, s₁, s₂, s₃, s₄, report₁, h_passed, h_candidates⟩ := reconcile_passed h
  obtain ⟨h_row, h_operation, h_name, h_waiting⟩ := h_s.passed h_o h_linked h_passed
  have h_made := h_s.candidate h_o h_c h_proves.1
  obtain ⟨t, t', r, r', h_before, h_moves, h_turn, h_after⟩ :=
    recoverCandidates_turn (recoveryCandidates_nodup s) h_candidates h_c
  have h_op : c.operationId = o.id := recoveryCandidate_operationId h_made
  have h_row' : successor ∈ t.incarnations := by
    refine (h_moves.others successor ?_).mpr h_row
    rintro ⟨d, h_d, h_other, h_id⟩
    have h_made' := h_s.candidate h_o h_d h_id
    exact h_other (by rw [Option.some_inj.mp (h_made'.symm.trans h_made)])
  have h_operation' : o ∈ t.operations := by
    refine mem_of_find (h_before.operation.trans ?_)
    exact Table.find_eq_some.mpr ⟨h_operation, h_op.symm⟩
  obtain ⟨i, h_i, -, h_eq⟩ := recoveryCandidate_eq_some.mp h_made
  have h_start : c.kind = .start := by
    rw [h_eq]
    exact h_o.kind
  obtain ⟨h_inc, h_sent, agent, ⟨-, intent', h_intent, h_agent⟩ | ⟨h_adopt, -⟩⟩ := h_proves
  · have h_stored : c.intent = .start intent := by
      rw [h_eq]
      exact h_o.stored
    rw [h_stored] at h_intent
    cases h_intent
    have h_name' : t.publicName successor.logicalAgentId = some intent.publicName := by
      unfold Store.publicName
      rw [h_moves.agents]
      exact h_name
    have h_waiting' : ¬ t.AliasWaiting intent.publicName := by
      unfold Store.AliasWaiting
      rw [h_moves.agents]
      exact h_waiting
    have h_commits :
        (acceptStartReady now c.operationId c.incarnationId agent none).Commits t :=
      h_s.accepts h_o h_row' h_operation' h_name' h_waiting' h_made h_agent
    obtain ⟨i', h_i', h_id', h_ready⟩ := recoverCandidate_starts h_start h_sent h_stored h_agent
      h_commits h_turn ⟨successor, h_row', h_inc⟩
    exact ⟨i', h_after i' h_i' (.inl h_ready), h_id'.trans h_inc.symm, h_ready⟩
  · rw [h_start] at h_adopt
    cases h_adopt

/-- An undisturbed predecessor is upheld only as a Ready incarnation that the snapshot shows. -/
theorem Store.Undisturbed.upheld (h_s : s.Undisturbed o intent successor predecessor)
    (h : s.Upheld snapshot predecessor) : s.StaysReady snapshot predecessor := by
  rcases h with h_stays | ⟨c, h_c, h_id, h_sent, agent, h_proved⟩
  · exact h_stays
  · obtain ⟨o', h_o', h_made⟩ := List.mem_filterMap.mp h_c
    obtain ⟨i, h_i, h_own, h_eq⟩ := recoveryCandidate_eq_some.mp h_made
    have h_target : o'.targetIncarnationId = predecessor.id := by
      rw [h_id, h_eq]
      exact (Table.find_eq_some.mp h_i).2.symm
    have h_kind : c.kind = o'.kind := by rw [h_eq]
    have h_neither := h_s.bound o' h_o' h_own.1 h_target
    rw [← h_kind] at h_neither
    rcases h_proved with ⟨h_start, -⟩ | ⟨h_adopt, -⟩
    · exact absurd h_start h_neither.1
    · exact absurd h_adopt h_neither.2

end Turn

/-- A recovery leaves both incarnations of an interrupted handoff Ready at most where the same
    snapshot upholds both, and does so whenever it upholds both and nothing else happens to them:
    the start is recovered without the predecessor that its intent names. -/
theorem handoff_recovered {o : OperationRow} {intent : StartIntent}
    {successor predecessor : IncarnationRow}
    (h_o : s.Handoff o intent successor predecessor)
    (h : (reconcile now snapshot).run s = (.ok report, s')) :
    (¬ (s.Upheld snapshot successor ∧ s.Upheld snapshot predecessor) →
      s'.HasReady successor.id → ¬ s'.HasReady predecessor.id) ∧
    ∀ ok, Reachable ok s → s.Undisturbed o intent successor predecessor →
      ((s'.HasReady successor.id → ¬ s'.HasReady predecessor.id) ↔
        ¬ (s.Upheld snapshot successor ∧ s.Upheld snapshot predecessor)) := by
  have h_enough : ¬ (s.Upheld snapshot successor ∧ s.Upheld snapshot predecessor) →
      s'.HasReady successor.id → ¬ s'.HasReady predecessor.id :=
    fun h_not h_succ h_pred =>
      h_not ⟨reconcile_upheld h h_o.starts h_succ, reconcile_upheld h h_o.precedes h_pred⟩
  refine ⟨h_enough, fun ok h_s h_alone => ⟨?_, h_enough⟩⟩
  rintro h_one ⟨h_succ, h_pred⟩
  have h_linked : Ledger.Linked s.ledger := h_s.ledger (fun _ _ _ => False.elim) linked_invariant
  refine h_one ?_ (reconcile_staysReady h h_o.precedes (h_alone.upheld h_pred))
  rcases h_succ with ⟨h_ready, -⟩ | ⟨c, h_c, h_proves⟩
  · rw [h_alone.starting] at h_ready
    cases h_ready
  · exact h_alone.starts h_o h_linked h h_c h_proves

/-- The handoff of the worker to a second pane. -/
def handoffIntent : StartIntent :=
  { workerIntent with
    logicalAgentId := some 1, paneId := "w1:p2", expectedTerminalId := "t2",
    idempotencyKey := "k2", supersedes := some 1 }

/-- A Ready worker, and a handoff of it that was written before its process died. -/
def handoffRun : List Call :=
  [adopting 1 "w1:p1" "t1" "worker" "k1", .declareStart 2 handoffIntent,
    .beginAttempt 3 2 2 "r1", .markSubmitted 4 2 1 "r1"]

/-- The successor on the second pane, as a snapshot shows it. -/
def handedOver : AgentObservation :=
  { terminalId := "t2", paneId := "w1:p2", name := some "worker", agent := some "claude",
    interactiveReady := true }

/-- The predecessor, kept alive without the name that its successor took. -/
def keptAlive : AgentObservation :=
  { terminalId := "t1", paneId := "w1:p1", agent := some "claude", interactiveReady := true }

/-- The handoff of the worker is all that is unresolved, and a reconciliation comes to its end
    with the successor Ready. -/
def Store.HandsOff (s : Store) (snapshot : Snapshot) : Prop :=
  ((reconcile 5 snapshot).run s).1.toOption.isSome ∧
    ((reconcile 5 snapshot).run s).2.HasReady 2 ∧
    (∀ c ∈ s.recoveryCandidates, c.incarnationId = 2) ∧
    ∃ o ∈ s.operations.rows, ∃ successor ∈ s.incarnations.rows,
      ∃ predecessor ∈ s.incarnations.rows,
      (o.kind = .start ∧ o.outcome.Live ∧ (∃ a ∈ s.operationAttempts.rows, a.operationId = o.id) ∧
        o.intent = .start handoffIntent ∧ o.targetIncarnationId = successor.id) ∧
      s.Undisturbed o handoffIntent successor predecessor ∧ successor.id = 2 ∧ predecessor.id = 1

instance (s : Store) : DecidablePred s.HandsOff := fun snapshot => by
  unfold Store.HandsOff
  infer_instance

/-- The binding of the predecessor is gone, and the successor alone is Ready. -/
theorem handoff_recovered_handoffRun : ∃ (s s' : Store) (o : OperationRow)
    (successor predecessor : IncarnationRow), Reachable (fun _ _ => True) s ∧
      s.Handoff o handoffIntent successor predecessor ∧
      s'.HasReady successor.id ∧ ¬ s'.HasReady predecessor.id := by
  have h : Leads (fun _ _ => True) (fun s => s.HandsOff { panes := [], agents := [handedOver] } ∧
      ∀ i ∈ s.incarnations.rows, i.id = 1 →
        ¬ s.StaysReady { panes := [], agents := [handedOver] } i)
      handoffRun Store.empty := by decide +kernel
  obtain ⟨s, h_s, ⟨h_ok, h_succ, h_candidates, o, h_op, successor, h_row, predecessor, h_row',
    ⟨h_kind, h_live, h_attempted, h_stored, h_target⟩, h_alone, h_id, h_id'⟩, h_gone⟩ :=
    h.run
  have h_o : s.Handoff o handoffIntent successor predecessor :=
    ⟨h_op, h_kind, h_live, h_attempted, h_stored, congrArg some h_id'.symm, h_target, h_row, h_row'⟩
  cases h_run : (reconcile 5 { panes := [], agents := [handedOver] }).run s with
  | mk r s' =>
    rw [h_run] at h_ok h_succ
    cases r with
    | error e => cases h_ok
    | ok report =>
      rw [← h_id] at h_succ
      refine ⟨s, s', o, successor, predecessor, h_s, h_o, h_succ, ?_⟩
      refine ((handoff_recovered h_o h_run).2 _ h_s h_alone).mpr ?_ h_succ
      rintro ⟨-, h_ready | ⟨c, h_c, h_proves⟩⟩
      · exact h_gone predecessor h_row' h_id' h_ready
      · have h_other : predecessor.id = 2 := h_proves.1.trans (h_candidates c h_c)
        rw [h_id'] at h_other
        cases h_other

/-- The predecessor was kept alive for a rollback, without its name, as a handoff that clashes
    with the name of its own predecessor is told to do: both incarnations are Ready. -/
theorem handoff_recovered_twice : ∃ (s s' : Store) (o : OperationRow)
    (successor predecessor : IncarnationRow) (report : RecoveryReport),
    Reachable (fun _ _ => True) s ∧ s.Handoff o handoffIntent successor predecessor ∧
      (reconcile 5 { panes := [], agents := [keptAlive, handedOver] }).run s = (.ok report, s') ∧
      s'.HasReady successor.id ∧ s'.HasReady predecessor.id := by
  have h : Leads (fun _ _ => True) (fun s =>
      s.HandsOff { panes := [], agents := [keptAlive, handedOver] } ∧
      ((reconcile 5 { panes := [], agents := [keptAlive, handedOver] }).run s).2.HasReady 1)
      handoffRun Store.empty := by decide +kernel
  obtain ⟨s, h_s, ⟨h_ok, h_succ, -, o, h_op, successor, h_row, predecessor, h_row',
    ⟨h_kind, h_live, h_attempted, h_stored, h_target⟩, -, h_id, h_id'⟩, h_pred⟩ := h.run
  have h_o : s.Handoff o handoffIntent successor predecessor :=
    ⟨h_op, h_kind, h_live, h_attempted, h_stored, congrArg some h_id'.symm, h_target, h_row, h_row'⟩
  cases h_run : (reconcile 5 { panes := [], agents := [keptAlive, handedOver] }).run s with
  | mk r s' =>
    rw [h_run] at h_ok h_succ h_pred
    cases r with
    | error e => cases h_ok
    | ok report => exact ⟨s, s', o, successor, predecessor, report, h_s, h_o, h_run,
        h_id ▸ h_succ, h_id' ▸ h_pred⟩

end Kelpie
