/-
  Kelpie.Slice.Starts

  A start that waits for its runtime: how one observation of the pane is
  classified, what is recorded for it, and when the record is refused.
-/

import Kelpie.Slice.Prompts

namespace Kelpie

open Lib Lib.Tx Ledger

-- ============================================================================
-- Readiness
-- ============================================================================

/-- What an observation says about a start still waiting for readiness. -/
inductive StartReadiness where
  | ready (agent : AgentObservation)
  /-- Decisive: waiting longer cannot change this. -/
  | failed (code detail : String)
  | waiting
deriving DecidableEq, Repr

/-- Classify a pending start the way Herdr's own wait loop does.  An absent field is
    undetermined, never a conflict. -/
def classifyStartReadiness (observed : Option AgentObservation) (intent : StartIntent) :
    StartReadiness :=
  match observed with
  | none => .waiting
  | some agent =>
    if agent.terminalId ≠ intent.expectedTerminalId then
      .failed "agent_name_lost" (s!"pane {intent.paneId} now holds terminal " ++
        s!"{agent.terminalId}, expected {intent.expectedTerminalId}")
    else
      match agent.agent.filter (· ≠ intent.backendKind) with
      | some kind => .failed "agent_kind_mismatch"
        s!"pane {intent.paneId} runs {kind}, expected {intent.backendKind}"
      | none =>
        match agent.name.filter (· ≠ intent.publicName) with
        | some name => .failed "agent_name_lost"
          s!"pane {intent.paneId} holds {name}, expected {intent.publicName}"
        | none =>
          if agent.interactiveReady then .ready agent
          -- A bound name with no pending launch is mid-window, not a lost start record.
          else if ¬ agent.launchPending ∧ agent.name = none then
            .failed "agent_start_failed" (s!"agent {intent.publicName} on pane " ++
              s!"{intent.paneId} is neither interactive nor launch-pending; " ++
              "its managed start record is gone")
          else .waiting

/-- One pane's observed state, for evidence attached to an inconclusive outcome. -/
def describePane (observed : Option AgentObservation) (paneId : String) : String :=
  match observed with
  | none => s!"of pane {paneId}: no agent record"
  | some agent =>
    let kind := agent.agent.getD "none"
    let name := agent.name.getD "none"
    s!"of pane {paneId}: terminal={agent.terminalId} kind={kind} name={name} " ++
      s!"interactive_ready={agent.interactiveReady} launch_pending={agent.launchPending}"

/-- Name the next door for a start that timed out with a launched agent in the pane. -/
def stalledStartNextStep (observed : Option AgentObservation) (intent : StartIntent)
    (declared : DeclaredStart) : String :=
  match observed with
  | none => ""
  | some agent =>
    if agent.interactiveReady then ""
    else
      "; a runtime is present but never became interactive, so the pane may be waiting " ++
        "on a backend prompt (trust-this-folder, permissions). Kelpie cannot see it. " ++
        s!"Answer it in pane {intent.paneId}, then `kelpie adopt --pane {intent.paneId} " ++
        s!"--terminal {intent.expectedTerminalId} --logical-id {declared.logicalAgentId}` " ++
        "to bind this same agent rather than starting a second one."

/-- Nothing has been detected where Herdr cannot resolve the pane to an agent yet. -/
def detected (observed : Except HerdrError (Option AgentObservation)) :
    Except HerdrError (Option AgentObservation) :=
  match observed with
  | .error (.rejected _ _) => .ok none
  | _ => observed

/-- Classify one readiness observation that has already been fetched, and record what is
    decisive.  `late` says whether the deadline has passed. -/
def applyStartObservation (now : Millis) (late : Bool) (readinessTimeoutMs : Nat)
    (intent : StartIntent) (declared : DeclaredStart)
    (observed : Except HerdrError (Option AgentObservation)) :
    SliceProg (Option DeclaredStart) :=
  match detected observed with
  | .error source => do
    stored (markUnknown now declared.operationId declared.incarnationId source.text)
    Prog.fail (.unknownOutcome (toString declared.operationId) source)
  | .ok agent =>
    match classifyStartReadiness agent intent with
    | .ready agent => do
      stored (acceptStartReady now declared.operationId declared.incarnationId agent
        intent.supersedes)
      pure (some declared)
    | .failed code detail => do
      stored (markRejected now declared.operationId declared.incarnationId detail .rejected)
      Prog.fail (.herdr (.rejected code detail))
    | .waiting =>
      if late then do
        let source := HerdrError.readinessTimeout readinessTimeoutMs
        stored (markUnknown now declared.operationId declared.incarnationId
          (s!"{source.text}; last observation {describePane agent intent.paneId}" ++
            stalledStartNextStep agent intent declared))
        Prog.fail (.unknownOutcome (toString declared.operationId) source)
      else pure none

-- ============================================================================
-- Acceptance
-- ============================================================================

/-- The incarnations stay as they are. -/
abbrev SameIncarnations : Store → Store → Prop := Over Tab.incarnations fun t t' => t' = t

instance : Stepwise fun t t' : Table IncarnationRow.id => t' = t where
  refl _ := rfl
  trans h h' := h'.trans h

instance {op f h} : Keeps SameIncarnations (updateLastAttempt op f h) := by
  unfold updateLastAttempt
  infer_instance

section Acceptance

variable {s : Store} {now : Millis} {op : OperationId} {inc : IncarnationId}

/-- The predecessor of a handoff to `inc` is still a Ready incarnation of the same agent. -/
def Store.HandsOver (s : Store) (inc predecessor : IncarnationId) : Prop :=
  ∃ i ∈ s.incarnations.rows, i.id = predecessor ∧ (i.state = .ready ∨ i.id = inc) ∧
    some i.logicalAgentId = (s.incarnations.find inc).map (·.logicalAgentId)

instance (s : Store) (inc : IncarnationId) : DecidablePred (s.HandsOver inc) :=
  fun predecessor => by
    unfold Store.HandsOver
    infer_instance

/-- What the observation must agree with for the start to be accepted. -/
def Store.ProvesReady (s : Store) (inc : IncarnationId) (agent : AgentObservation)
    (supersedes : Option IncarnationId) : Prop :=
  (∃ e ∈ s.expectedBinding [.starting] inc, e.ObservedBy agent ∧
    agent.interactiveReady = true ∧ ¬ s.AliasWaiting e.name) ∧
  ∀ predecessor ∈ supersedes, s.HandsOver inc predecessor

instance (s : Store) (inc : IncarnationId) (agent : AgentObservation)
    (supersedes : Option IncarnationId) : Decidable (s.ProvesReady inc agent supersedes) := by
  unfold Store.ProvesReady
  infer_instance

theorem refuseNameHeldBySocketWaiter_ok {name : String} :
    refuseNameHeldBySocketWaiter name s = .ok () ↔ ¬ s.AliasWaiting name := by
  unfold refuseNameHeldBySocketWaiter Store.AliasWaiting
  split
  · rename_i l h_l
    have h_mem := List.mem_of_find?_eq_some h_l
    have h_waits : l.publicName = name ∧ l.ActiveWaiter := by
      simpa using List.find?_some h_l
    exact iff_of_false (by simp) fun h => h ⟨l, h_mem, h_waits.2, h_waits.1⟩
  · rename_i h_none
    refine iff_of_true rfl ?_
    rintro ⟨l, h_l, h_waiter, h_name⟩
    exact List.find?_eq_none.mp h_none l h_l (decide_eq_true ⟨h_name, h_waiter⟩)

/-- A check commits when it passes and what follows it does. -/
theorem commits_bind_check {β : Type} {q : Query Unit} {f : Unit → StoreTx β} :
    ((query q : StoreTx Unit) >>= f).Commits s ↔ q s = .ok () ∧ (f ()).Commits s := by
  cases h : q s with
  | error e =>
    refine iff_of_false ?_ fun h_ok => by cases h_ok.1
    rintro ⟨b, s', h_run⟩
    obtain ⟨a, _, h_q, -⟩ := run_bind_ok.mp h_run
    rw [run_query_ok, h] at h_q
    cases h_q.1
  | ok a =>
    rw [commits_bind_query h]
    exact (and_iff_right rfl).symm

theorem demotePredecessor_commits {predecessor : IncarnationId} :
    (demotePredecessor now predecessor inc).Commits s ↔
      ∃ i ∈ s.incarnations, i.id = predecessor ∧ i.state = .ready ∧
        some i.logicalAgentId = (s.incarnations.find inc).map (·.logicalAgentId) := by
  simp only [demotePredecessor, commits_bind_reads]
  rw [commits_bind_run run_updateRows, commits_require]
  exact Table.count_eq_one_iff fun _ h_i => h_i.1

/-- Once the incarnation itself is Ready, its predecessor can be demoted when it hands over. -/
theorem handsOver_iff {predecessor : IncarnationId} {f : IncarnationRow → IncarnationRow}
    (h_key : ∀ i, (f i).id = i.id) (h_ready : ∀ i, (f i).state = .ready)
    (h_agent : ∀ i, (f i).logicalAgentId = i.logicalAgentId) {t : Table IncarnationRow.id}
    (h_t : t = s.incarnations.update (·.id = inc) f h_key) :
    (∃ i ∈ t, i.id = predecessor ∧ i.state = .ready ∧
      some i.logicalAgentId = (t.find inc).map (·.logicalAgentId)) ↔
      s.HandsOver inc predecessor := by
  have h_find : (t.find inc).map (·.logicalAgentId) =
      (s.incarnations.find inc).map (·.logicalAgentId) := by
    rw [h_t, Table.find_update, Option.map_map]
    refine congrArg (Option.map · _) (funext fun i => ?_)
    by_cases h : i.id = inc
    · simp [h, h_agent]
    · simp [h]
  rw [h_find]
  constructor
  · rintro ⟨i, h_i, h_id, h_state, h_same⟩
    rw [h_t] at h_i
    rcases Table.mem_update_cases h_i with ⟨h_old, -⟩ | ⟨i₀, h_i₀, h_inc, rfl⟩
    · exact ⟨i, h_old, h_id, .inl h_state, h_same⟩
    · exact ⟨i₀, h_i₀, (h_key i₀).symm.trans h_id, .inr h_inc, h_agent i₀ ▸ h_same⟩
  · rintro ⟨i, h_i, h_id, h_state, h_same⟩
    by_cases h_inc : i.id = inc
    · refine ⟨f i, ?_, (h_key i).trans h_id, h_ready i, (h_agent i).symm ▸ h_same⟩
      rw [h_t]
      exact Table.mem_update_of h_i h_inc
    · refine ⟨i, ?_, h_id, h_state.resolve_right h_inc, h_same⟩
      rw [h_t]
      exact Table.mem_update_of_not h_i h_inc

/-- The end of the acceptance, where a predecessor may be demoted. -/
theorem handoff_commits {supersedes : Option IncarnationId} {s' : Store}
    (h : ∀ predecessor ∈ supersedes,
      (demotePredecessor now predecessor inc).Commits s' ↔ s.HandsOver inc predecessor) :
    (match supersedes with
      | some predecessor => demotePredecessor now predecessor inc
      | none => pure ()).Commits s' ↔
      ∀ predecessor ∈ supersedes, s.HandsOver inc predecessor := by
  cases supersedes with
  | none => simp [commits_pure]
  | some predecessor =>
    rw [h predecessor rfl]
    simp only [Option.mem_some_iff, forall_eq']

/-- The acceptance of a start commits when the observation proves it Ready and its operation
    is live. -/
theorem acceptStartReady_commits {agent : AgentObservation}
    {supersedes : Option IncarnationId} :
    (acceptStartReady now op inc agent supersedes).Commits s ↔
      s.OperationIs op inc (·.Live) ∧ s.ProvesReady inc agent supersedes := by
  simp only [acceptStartReady, commits_bind_reads]
  cases h_e : s.expectedBinding [.starting] inc with
  | none =>
    refine iff_of_false ?_ ?_
    · rintro ⟨_, _, h_run⟩
      obtain ⟨_, _, h_none, -⟩ := run_bind_ok.mp h_run
      cases h_none
    · rintro ⟨-, ⟨e, h_e', -⟩, -⟩
      rw [h_e] at h_e'
      cases h_e'
  | some e =>
    have h_found : (orFail (some e) (.conflict
        "Herdr observation does not prove the exact intended incarnation is ready") :
        StoreTx ExpectedBinding).run s = .ok (e, s) := rfl
    have h_proves : s.ProvesReady inc agent supersedes ↔ (e.ObservedBy agent ∧
        agent.interactiveReady = true) ∧ ¬ s.AliasWaiting e.name ∧
        ∀ predecessor ∈ supersedes, s.HandsOver inc predecessor := by
      simp only [Store.ProvesReady, h_e, Option.mem_some_iff, exists_eq_left', and_assoc]
    rw [commits_bind_run h_found, commits_bind_require, commits_bind_check, h_proves,
      refuseNameHeldBySocketWaiter_ok, commits_bind_run run_updateRows, commits_bind_require,
      commits_bind_run run_updateRows]
    have h_live : s.operations.count (fun o => o.Owns op inc ∧ o.outcome.Live) = 1 ↔
        s.OperationIs op inc (·.Live) := count_operations_eq_one
    set s₂ := TableOf.put Tab.incarnations _ _ with h_s₂
    obtain ⟨_, s₃, h_last⟩ : (updateLastAttempt op fun a =>
        { a with phase := .responseCommitted, resolvedAtMs := some now }).Commits s₂ :=
      ⟨_, _, rfl⟩
    rw [commits_bind_run h_last]
    have h_incarnations : s₃.incarnations = s₂.incarnations :=
      (Keeps.keeps h_last : SameIncarnations s₂ s₃)
    have h_handoff : ∀ predecessor ∈ supersedes,
        (demotePredecessor now predecessor inc).Commits s₃ ↔ s.HandsOver inc predecessor := by
      intro predecessor h_predecessor
      rw [demotePredecessor_commits, h_incarnations]
      refine handsOver_iff ?_ ?_ ?_ rfl <;> exact fun _ => rfl
    refine (and_congr_right' (and_congr_right' (and_congr_right'
      (handoff_commits h_handoff)))).trans ?_
    -- The checks in the order of the transaction, and in that of the statement.
    constructor
    · rintro ⟨h_observed, h_free, h_one, h_over⟩
      exact ⟨h_live.mp h_one, h_observed, h_free, h_over⟩
    · rintro ⟨h_is, h_observed, h_free, h_over⟩
      exact ⟨h_observed, h_free, h_live.mpr h_is, h_over⟩

end Acceptance

-- ============================================================================
-- Decisions
-- ============================================================================

/-- The start is awaited: its operation is live and its incarnation is starting. -/
def Store.AwaitsStart (s : Store) (declared : DeclaredStart) : Prop :=
  s.OperationIs declared.operationId declared.incarnationId (·.Live) ∧
    ∃ i ∈ s.incarnations.find declared.incarnationId, i.state = .starting

/-- The start is decided: its operation has a terminal outcome and its incarnation is no
    longer starting. -/
def Store.StartDecided (s : Store) (declared : DeclaredStart) : Prop :=
  s.OperationIs declared.operationId declared.incarnationId
      (fun o => o = .succeeded ∨ o = .failed ∨ o = .unknown) ∧
    ∃ i ∈ s.incarnations.find declared.incarnationId, i.state ≠ .starting

instance (s : Store) (declared : DeclaredStart) : Decidable (s.AwaitsStart declared) := by
  unfold Store.AwaitsStart
  infer_instance

instance (s : Store) (declared : DeclaredStart) : Decidable (s.StartDecided declared) := by
  unfold Store.StartDecided
  infer_instance

/-- The program answers that the start is still awaited and changes nothing, or it leaves
    the start decided. -/
def Decisive (x : SliceProg (Option DeclaredStart)) (declared : DeclaredStart) (s : Store) :
    Prop :=
  x.run s = (.ok none, s) ∨ (x.final s).StartDecided declared

section Decisions

variable {s : Store} {declared : DeclaredStart} {now : Millis}

/-- A failed operation and an incarnation that left `starting` with it. -/
theorem decided_of_fails {s' : Store} {outcome : OperationOutcome}
    {dropped : DeliveryOutcome} (h_awaits : s.AwaitsStart declared)
    (h : Fails declared.operationId outcome dropped s.ledger s'.ledger)
    (h_outcome : outcome = .succeeded ∨ outcome = .failed ∨ outcome = .unknown)
    (h_left : ∃ i ∈ s'.incarnations.find declared.incarnationId, i.state ≠ .starting) :
    s'.StartDecided declared := by
  obtain ⟨⟨o, h_o, h_owns, -⟩, -⟩ := h_awaits
  obtain ⟨o', h_o', h_end⟩ := h.operations.image o h_o
  have h_task := h_end.sameTask
  rcases h_end with ⟨h_id, -⟩ | ⟨-, -, -, h_ended⟩
  · exact absurd h_owns.1 h_id
  · exact ⟨⟨o', h_o', ⟨h_task.id.trans h_owns.1, h_task.target.trans h_owns.2⟩,
      h_ended ▸ h_outcome⟩, h_left⟩

/-- An update of the incarnation that is starting makes it leave that state. -/
theorem left_starting {t t' : Table IncarnationRow.id} {inc : IncarnationId}
    {f : IncarnationRow → IncarnationRow} {h_key : ∀ i, (f i).id = i.id}
    (h_starting : ∃ i ∈ t.find inc, i.state = .starting)
    (h_f : ∀ i, (f i).state ≠ .starting)
    (h_t' : t' = t.update (fun i => i.id = inc ∧ i.state = .starting) f h_key) :
    ∃ i ∈ t'.find inc, i.state ≠ .starting := by
  obtain ⟨i, h_find, h_state⟩ := h_starting
  have h_id : i.id = inc := (Table.find_eq_some.mp h_find).2
  refine ⟨f i, ?_, h_f i⟩
  rw [h_t', Table.find_update, h_find, Option.map_some, if_pos ⟨h_id, h_state⟩]
  rfl

/-- What follows the settling of the operation moves the incarnation first. -/
theorem settled_left {s' s₁ s₂ s₃ : Store} {outcome : OperationOutcome} {stale : StoreError}
    {u : Unit} {n m : Nat} {g : OperationAttemptRow → OperationAttemptRow}
    {h_g : ∀ a, (g a).key = a.key} {f : IncarnationRow → IncarnationRow}
    {h_key : ∀ i, (f i).id = i.id} (h : s.AwaitsStart declared)
    (h_f : ∀ i, (f i).state ≠ .starting)
    (h_settle : (settleOperation now declared.operationId declared.incarnationId outcome
      stale).run s = .ok (u, s₁))
    (h_last : (updateLastAttempt declared.operationId g h_g).run s₁ = .ok (n, s₂))
    (h_move : (updateRows Tab.incarnations
      (fun i => i.id = declared.incarnationId ∧ i.state = .starting) f h_key :
      StoreTx Nat).run s₂ = .ok (m, s₃)) (h_rest : SameIncarnations s₃ s') :
    ∃ i ∈ s'.incarnations.find declared.incarnationId, i.state ≠ .starting := by
  have h_same : SameIncarnations s s₂ :=
    Stepwise.trans (Keeps.keeps h_settle) (Keeps.keeps h_last : SameIncarnations s₁ s₂)
  have h_incarnations : s₂.incarnations = s.incarnations := h_same
  rw [run_updateRows, Except.ok.injEq, Prod.mk.injEq] at h_move
  refine @left_starting _ _ _ _ h_key h.2 h_f ?_
  rw [show s'.incarnations = s₃.incarnations from h_rest, ← h_move.2, ← h_incarnations]
  rfl

theorem markRejected_decides {evidence : String} (h : s.AwaitsStart declared) :
    ((stored (markRejected now declared.operationId declared.incarnationId evidence
      .rejected)).final s).StartDecided declared := by
  obtain ⟨_, s', h_run⟩ : (markRejected now declared.operationId declared.incarnationId
    evidence .rejected).Commits s := markRejected_commits.mpr h.1
  rw [stored_final_of_run h_run]
  refine decided_of_fails h (markRejected_fails h_run) (.inr (.inl rfl)) ?_
  unfold markRejected at h_run
  obtain ⟨_, s₁, h_settle, h_run⟩ := run_bind_ok.mp h_run
  obtain ⟨_, s₂, h_last, h_run⟩ := run_bind_ok.mp h_run
  obtain ⟨_, s₃, h_move, h_run⟩ := run_bind_ok.mp h_run
  exact settled_left h (fun i => by simp) h_settle h_last h_move (Keeps.keeps h_run)

theorem markUnknown_decides {evidence : String} (h : s.AwaitsStart declared) :
    ((stored (markUnknown now declared.operationId declared.incarnationId
      evidence)).final s).StartDecided declared := by
  obtain ⟨_, s', h_run⟩ : (markUnknown now declared.operationId declared.incarnationId
    evidence).Commits s := markUnknown_commits.mpr h.1
  rw [stored_final_of_run h_run]
  refine decided_of_fails h (markUnknown_fails h_run) (.inr (.inr rfl)) ?_
  unfold markUnknown markUnknownWithClearSpacing at h_run
  obtain ⟨_, s₁, h_settle, h_run⟩ := run_bind_ok.mp h_run
  obtain ⟨_, s₂, h_last, h_run⟩ := run_bind_ok.mp h_run
  obtain ⟨_, s₃, h_move, h_run⟩ := run_bind_ok.mp h_run
  exact settled_left h (fun i => by simp) h_settle h_last h_move (Keeps.keeps h_run)

theorem expectedBinding_found {states : List IncarnationState} {inc : IncarnationId}
    {e : ExpectedBinding} (h : s.expectedBinding states inc = some e) :
    ∃ i, s.incarnations.find inc = some i := by
  obtain ⟨i, h_find, -⟩ := Option.bind_eq_some_iff.mp h
  exact ⟨i, h_find⟩

/-- A demotion leaves no incarnation starting that was Ready. -/
theorem demotePredecessor_left {predecessor inc : IncarnationId} {s₁ s' : Store} {u : Unit}
    (h_ready : ∃ i ∈ s₁.incarnations.find inc, i.state = .ready)
    (h : (demotePredecessor now predecessor inc).run s₁ = .ok (u, s')) :
    ∃ i ∈ s'.incarnations.find inc, i.state ≠ .starting := by
  simp only [demotePredecessor, run_bind_reads] at h
  obtain ⟨n, s₂, h_update, h_require⟩ := run_bind_ok.mp h
  rw [run_require_ok, Prod.mk.injEq] at h_require
  obtain ⟨-, -, rfl⟩ := h_require
  obtain ⟨t, rfl, h_t⟩ := run_updateRows_edits
    (fun i i' : IncarnationRow => i'.id = i.id ∧ (i'.state = i.state ∨ i'.state = .superseded))
    h_update (fun _ _ _ => ⟨rfl, .inr rfl⟩) (fun _ _ _ => ⟨rfl, .inl rfl⟩)
  obtain ⟨i, h_find, h_state⟩ := h_ready
  obtain ⟨i', h_find', -, h_state'⟩ := h_t.find_some (fun _ _ h_e => h_e.1) h_find
  refine ⟨i', h_find', ?_⟩
  rcases h_state' with h | h
  · rw [h, h_state]
    decide
  · rw [h]
    decide

/-- An accepted start has succeeded, and its incarnation is Ready or was its own
    predecessor. -/
theorem acceptStartReady_decides {agent : AgentObservation}
    {supersedes : Option IncarnationId} {u : Unit} {s' : Store}
    (h : (acceptStartReady now declared.operationId declared.incarnationId agent
      supersedes).run s = .ok (u, s')) : s'.StartDecided declared := by
  simp only [acceptStartReady, run_bind_reads, run_bind_orFail_ok, run_bind_require_ok,
    run_bind_query_ok] at h
  obtain ⟨e, h_expected, -, _, -, h⟩ := h
  obtain ⟨n, s₁, h_op, h⟩ := run_bind_ok.mp h
  rw [run_bind_require_ok] at h
  obtain ⟨h_one, h⟩ := h
  have h_ledger : SameLedger s₁ s' := by
    cases supersedes <;> exact Keeps.keeps h
  obtain ⟨os, rfl, ⟨r, h_r, -, h_owns, -⟩, h_os⟩ :=
    updateOperation_run h_op h_one fun _ h_r => h_r.1.1
  constructor
  · obtain ⟨r', h_r', h_end⟩ := h_os.image r h_r
    rcases h_end with ⟨h_other, -⟩ | ⟨-, -, h_eq⟩
    · exact absurd h_owns.1 h_other
    · refine ⟨r', ?_, ?_, ?_⟩
      · rw [show s'.operations = os from congrArg Ledger.operations h_ledger]
        exact h_r'
      · rw [h_eq]
        exact h_owns
      · rw [h_eq]
        exact .inl rfl
  · obtain ⟨i, h_find⟩ := expectedBinding_found h_expected
    obtain ⟨_, s₂, h_ready, h⟩ := run_bind_ok.mp h
    obtain ⟨_, s₃, h_last, h_end⟩ := run_bind_ok.mp h
    have h_same : s₃.incarnations = s₂.incarnations :=
      (Keeps.keeps h_last : SameIncarnations s₂ s₃)
    obtain ⟨t, rfl, h_t⟩ := run_updateRows_edits
      (fun i i' : IncarnationRow => i'.id = i.id ∧
        (i.id = declared.incarnationId → i'.state = .ready))
      h_ready (fun _ _ _ => ⟨rfl, fun _ => rfl⟩) fun _ _ h_not => ⟨rfl, fun h => absurd h h_not⟩
    obtain ⟨i', h_find', -, h_state⟩ := h_t.find_some (fun _ _ h_e => h_e.1) h_find
    have h_is_ready : ∃ i ∈ s₃.incarnations.find declared.incarnationId, i.state = .ready := by
      rw [h_same]
      exact ⟨i', h_find', h_state (Table.find_eq_some.mp h_find).2⟩
    cases supersedes with
    | some predecessor => exact demotePredecessor_left h_is_ready h_end
    | none =>
      rw [run_pure, Except.ok.injEq, Prod.mk.injEq] at h_end
      obtain ⟨-, rfl⟩ := h_end
      obtain ⟨j, h_j, h_j_ready⟩ := h_is_ready
      exact ⟨j, h_j, by simp [h_j_ready]⟩

/-- What only answers after a program leaves its state. -/
theorem final_bind_answer {α β : Type} {x : SliceProg α} {f : α → SliceProg β}
    (h_f : ∀ a t, (f a).final t = t) : (x >>= f).final s = x.final s := by
  cases h : x.run s with
  | mk r s' =>
    have h_final : x.final s = s' := congrArg Prod.snd h
    cases r with
    | error e => rw [Prog.final_bind_error h, h_final]
    | ok a => rw [Prog.final_bind_ok h, h_final, h_f]

theorem not_decided_of_awaits (h : s.AwaitsStart declared) : ¬ s.StartDecided declared := by
  rintro ⟨-, i, h_find, h_left⟩
  obtain ⟨j, h_find', h_starting⟩ := h.2
  obtain rfl := Option.mem_unique h_find h_find'
  exact h_left h_starting

/-- The acceptance of a start that is awaited decides it exactly when it is proved Ready. -/
theorem accept_decisive {agent : AgentObservation} {supersedes : Option IncarnationId}
    (h : s.AwaitsStart declared) :
    Decisive (do
      stored (acceptStartReady now declared.operationId declared.incarnationId agent supersedes)
      pure (some declared)) declared s ↔
      s.ProvesReady declared.incarnationId agent supersedes := by
  have h_commits : (acceptStartReady now declared.operationId declared.incarnationId agent
      supersedes).Commits s ↔ s.ProvesReady declared.incarnationId agent supersedes :=
    acceptStartReady_commits.trans (and_iff_right h.1)
  rw [← h_commits, Decisive, final_bind_answer fun _ _ => rfl]
  constructor
  · rintro (h_none | h_decided)
    · -- It never answers that the start is still awaited.
      cases h_x : (acceptStartReady now declared.operationId declared.incarnationId agent
          supersedes).run s with
      | ok r => exact .of_run h_x
      | error e =>
        simp only [Bind.bind, stored, h_x] at h_none
        cases h_none
    · by_contra h_not
      rw [stored_final_of_not h_not] at h_decided
      exact not_decided_of_awaits h h_decided
  · rintro ⟨u, s', h_run⟩
    rw [stored_final_of_run h_run]
    exact .inr (acceptStartReady_decides h_run)

end Decisions

/-- An observation of a start that is awaited is decisive exactly when, if it is classified
    as ready, the recorded incarnation agrees with it. -/
theorem start_observation_decisive {s : Store} {declared : DeclaredStart}
    (h : s.AwaitsStart declared) (now : Millis) (late : Bool) (readinessTimeoutMs : Nat)
    (intent : StartIntent) (observed : Except HerdrError (Option AgentObservation)) :
    Decisive (applyStartObservation now late readinessTimeoutMs intent declared observed)
      declared s ↔
    ∀ pane ∈ (detected observed).toOption, ∀ agent,
      classifyStartReadiness pane intent = .ready agent →
        s.ProvesReady declared.incarnationId agent intent.supersedes := by
  cases h_seen : detected observed with
  | error source =>
    simp only [applyStartObservation, h_seen]
    refine iff_of_true (.inr ?_) fun _ h_pane => by cases h_pane
    rw [final_bind_answer fun _ _ => rfl]
    exact markUnknown_decides h
  | ok pane =>
    have h_pane : (Except.ok pane : Except HerdrError _).toOption = some pane := rfl
    simp only [applyStartObservation, h_seen, h_pane, Option.mem_some_iff, forall_eq']
    cases h_class : classifyStartReadiness pane intent with
    | ready agent =>
      simp only [StartReadiness.ready.injEq, forall_eq']
      exact accept_decisive h
    | failed code detail =>
      refine iff_of_true (.inr ?_) fun _ h_ready => by cases h_ready
      rw [final_bind_answer fun _ _ => rfl]
      exact markRejected_decides h
    | waiting =>
      refine iff_of_true ?_ fun _ h_ready => by cases h_ready
      cases late with
      | false => exact .inl rfl
      | true =>
        refine .inr ?_
        dsimp only
        rw [if_pos rfl, final_bind_answer fun _ _ => rfl]
        exact markUnknown_decides h

/-- The launch of the first agent. -/
def workerStart : DeclaredStart := { logicalAgentId := 1, incarnationId := 1, operationId := 1 }

/-- The launched worker, interactive, once Herdr knows its backend. -/
def launchedWorker (kind : Option String) : AgentObservation :=
  { terminalId := "t1", paneId := "w1:p1", name := some "worker", agent := kind,
    interactiveReady := true }

theorem start_observation_decisive_worker : ∃ s, Reachable (fun _ _ => True) s ∧
    s.AwaitsStart workerStart ∧
    Decisive (applyStartObservation 3 false 60000 workerIntent workerStart
      (.ok (some (launchedWorker (some "claude"))))) workerStart s := by
  have h : Leads (fun _ _ => True) (fun s => s.AwaitsStart workerStart ∧
      s.ProvesReady 1 (launchedWorker (some "claude")) none) startingRun Store.empty := by
    decide +kernel
  obtain ⟨s, h_reach, h_awaits, h_proves⟩ := h.run
  refine ⟨s, h_reach, h_awaits, (start_observation_decisive h_awaits 3 false 60000 workerIntent
    (.ok (some (launchedWorker (some "claude"))))).mpr ?_⟩
  rintro _ ⟨⟩ _ h_ready
  cases h_ready
  exact h_proves

/-- The launched worker is interactive and its backend is not known yet: it is classified as
    ready, and the acceptance is refused with nothing recorded. -/
theorem start_observation_lost : ∃ s, Reachable (fun _ _ => True) s ∧
    s.AwaitsStart workerStart ∧
    classifyStartReadiness (some (launchedWorker none)) workerIntent =
      .ready (launchedWorker none) ∧
    ¬ Decisive (applyStartObservation 3 false 60000 workerIntent workerStart
      (.ok (some (launchedWorker none)))) workerStart s := by
  have h : Leads (fun _ _ => True) (fun s => s.AwaitsStart workerStart ∧
      ¬ (∃ e ∈ s.expectedBinding [.starting] 1, e.ObservedBy (launchedWorker none)))
      startingRun Store.empty := by
    decide +kernel
  obtain ⟨s, h_reach, h_awaits, h_refused⟩ := h.run
  refine ⟨s, h_reach, h_awaits, by decide, ?_⟩
  intro h_decisive
  have h_proves : s.ProvesReady 1 (launchedWorker none) none :=
    (accept_decisive h_awaits).mp h_decisive
  obtain ⟨⟨e, h_e, h_observed, -⟩, -⟩ := h_proves
  exact h_refused ⟨e, h_e, h_observed⟩

end Kelpie
