/-
  Kelpie.Bindings.Archive

  Archived identities.  The archive pass marks the agents that are dead, that
  nothing unresolved names and that stayed so for the grace period; no agent with
  the mark has an incarnation that may still run, since every incarnation that is
  recorded takes the mark of its agent away.
-/

import Kelpie.Bindings.Promotion
import Kelpie.Store.Frames

namespace Kelpie

open Lib Lib.Tx

-- As in `Kelpie.Store.Frames`.
set_option synthInstance.maxSize 100000

-- ============================================================================
-- The dead
-- ============================================================================

/-- The states that an incarnation does not leave. -/
def IncarnationState.Dead (state : IncarnationState) : Prop :=
  state = .failed ∨ state = .lost ∨ state = .retired ∨ state = .superseded

instance : DecidablePred IncarnationState.Dead := fun state =>
  inferInstanceAs (Decidable
    (state = .failed ∨ state = .lost ∨ state = .retired ∨ state = .superseded))

/-- Every incarnation of an archived agent is dead. -/
def Roster.Buried (r : Roster) : Prop :=
  ∀ l ∈ r.agents, l.archivedAtMs.isSome →
    ∀ i ∈ r.incarnations, i.logicalAgentId = l.id → i.state.Dead

/-- Where the archived were dead, they are. -/
def Buries (s s' : Store) : Prop := s.roster.Buried → s'.roster.Buried

instance Buries.stepwise : Stepwise Buries where
  refl _ := id
  trans h h' := h' ∘ h

theorem SameRoster.buries {s s' : Store} (h : SameRoster s s') : Buries s s' := by
  unfold Buries
  rw [h]
  exact id

instance (priority := low) Buries.of_sameRoster {α : Type} {x : StoreTx α}
    [hx : Keeps SameRoster x] : Keeps Buries x :=
  hx.mono fun _ _ => SameRoster.buries

/-- The same incarnation of the same agent; it does not come back from the dead. -/
structure Ages (i i' : IncarnationRow) : Prop where
  agent : i'.logicalAgentId = i.logicalAgentId
  dead : i.state.Dead → i'.state.Dead

theorem Ages.rfl {i : IncarnationRow} : Ages i i := ⟨.refl _, id⟩

theorem Roster.Buried.age {r : Roster} {t : Table IncarnationRow.id} (h : r.Buried)
    (h_t : r.incarnations.Edits Ages t) : Buried { r with incarnations := t } := by
  intro l h_l h_archived i' h_i' h_agent
  obtain ⟨i, h_i, h_ages⟩ := h_t.origin i' h_i'
  exact h_ages.dead (h l h_l h_archived i h_i (h_ages.agent.symm.trans h_agent))

/-- Agents that keep their marks, or lose them. -/
theorem Roster.Buried.relabel {r : Roster} {t : Table LogicalAgentRow.id} (h : r.Buried)
    (h_t : r.agents.Edits (fun l l' => l'.id = l.id ∧ l'.archivedAtMs = l.archivedAtMs) t) :
    Buried { r with agents := t } := by
  intro l' h_l' h_archived i h_i h_agent
  obtain ⟨l, h_l, h_id, h_mark⟩ := h_t.origin l' h_l'
  exact h l h_l (h_mark ▸ h_archived) i h_i (h_agent.trans h_id)

-- ============================================================================
-- Statements
-- ============================================================================

/-- The condition holds of no dead incarnation. -/
class OnlyAlive (p : IncarnationRow → Prop) : Prop where
  alive : ∀ i, p i → ¬ i.state.Dead

instance : OnlyAlive fun i => i.state = .declared := ⟨fun _ h => by rw [h]; decide⟩
instance : OnlyAlive fun i => i.state = .starting := ⟨fun _ h => by rw [h]; decide⟩
instance : OnlyAlive fun i => i.state = .ready := ⟨fun _ h => by rw [h]; decide⟩
instance : OnlyAlive fun i => i.state = .retiring := ⟨fun _ h => by rw [h]; decide⟩
instance : OnlyAlive fun i => i.state = .unknown := ⟨fun _ h => by rw [h]; decide⟩

instance {p q : IncarnationRow → Prop} [hp : OnlyAlive p] : OnlyAlive fun i => p i ∧ q i :=
  ⟨fun i h => hp.alive i h.1⟩

instance (priority := low) {p q : IncarnationRow → Prop} [hq : OnlyAlive q] :
    OnlyAlive fun i => p i ∧ q i :=
  ⟨fun i h => hq.alive i h.2⟩

section Statements

theorem keeps_age {p : IncarnationRow → Prop} [DecidablePred p]
    {f : IncarnationRow → IncarnationRow} {h_key : ∀ i, (f i).id = i.id}
    (h : ∀ i, p i → Ages i (f i)) :
    Keeps Buries (updateRows Tab.incarnations p f h_key : StoreTx Nat) :=
  .updateRows fun _ h_s => h_s.age
    (Table.edits_update h_key (fun i _ h_p => h i h_p) fun _ _ _ => .rfl)

/-- The edits that leave the state alone. -/
instance {p} {pane terminal reason pending : IncarnationRow → Option String}
    {terminalAt rotated : IncarnationRow → Option Millis}
    {native : IncarnationRow → Option NativeSession} {h_key} [DecidablePred p] :
    Keeps Buries (updateRows Tab.incarnations p (fun i => { i with
      observedPaneId := pane i, observedTerminalId := terminal i,
      terminalAtMs := terminalAt i, terminalReason := reason i,
      observedNativeSession := native i, pendingRenameTo := pending i,
      nativeSessionRotatedAtMs := rotated i }) h_key : StoreTx Nat) :=
  keeps_age fun _ _ => ⟨rfl, id⟩

/-- The moves from a state that is not dead. -/
instance {p} {pane terminal reason pending : IncarnationRow → Option String}
    {state : IncarnationRow → IncarnationState}
    {terminalAt rotated : IncarnationRow → Option Millis}
    {native : IncarnationRow → Option NativeSession} {h_key} [DecidablePred p]
    [hp : OnlyAlive p] :
    Keeps Buries (updateRows Tab.incarnations p (fun i => { i with
      observedPaneId := pane i, observedTerminalId := terminal i, state := state i,
      terminalAtMs := terminalAt i, terminalReason := reason i,
      observedNativeSession := native i, pendingRenameTo := pending i,
      nativeSessionRotatedAtMs := rotated i }) h_key : StoreTx Nat) :=
  keeps_age fun i h_p => ⟨rfl, fun h_dead => absurd h_dead (hp.alive i h_p)⟩

/-- The edits of agents that leave the mark alone. -/
instance {p} {name : LogicalAgentRow → String}
    {seen ended : LogicalAgentRow → Option Millis} {h_key} [DecidablePred p] :
    Keeps Buries (updateRows Tab.logicalAgents p (fun l => { l with
      publicName := name l, waiterLastSeenAtMs := seen l, targetingEndedAtMs := ended l })
      h_key : StoreTx Nat) :=
  .updateRows fun _ h_s => h_s.relabel
    (Table.edits_update h_key (fun _ _ _ => ⟨h_key _, rfl⟩) fun _ _ _ => ⟨rfl, rfl⟩)

instance {now name parent transport} :
    Keeps Buries (insertLogicalAgent now name parent transport) where
  keeps {s a s'} h := by
    simp only [insertLogicalAgent, run_bind_reads, run_bind_require_ok] at h
    obtain ⟨-, h⟩ := h
    obtain ⟨t, rfl, h_t⟩ := run_appendRow_adds h
    intro h_s l h_l h_archived i h_i h_agent
    rcases (h_t.mem l).mp h_l with h_old | h_new
    · exact h_s l h_old h_archived i h_i h_agent
    · cases h_new
      cases h_archived

/-- A new incarnation takes the mark of its agent away. -/
instance {row h} : Keeps Buries (insertIncarnation row h) where
  keeps {s a s'} h_run := by
    unfold insertIncarnation at h_run
    obtain ⟨id, s₁, h_append, h_rest⟩ := run_bind_ok.mp h_run
    obtain ⟨n, s₂, h_unmark, h_pure⟩ := run_bind_ok.mp h_rest
    rw [run_pure, Except.ok.injEq, Prod.mk.injEq] at h_pure
    obtain ⟨rfl, rfl⟩ := h_pure
    obtain ⟨t, rfl, h_t⟩ := run_appendRow_adds h_append
    obtain ⟨t', rfl, h_t'⟩ := run_updateRows_edits
      (fun (l l' : LogicalAgentRow) => l'.archivedAtMs.isSome →
        l' = l ∧ (row id).logicalAgentId ≠ l.id)
      h_unmark
      (fun l _ _ h_mark => absurd h_mark (by simp))
      (fun l _ h_p h_mark => ⟨rfl, fun h_agent => h_p ⟨h_agent.symm, h_mark⟩⟩)
    intro h_s l' h_l' h_archived i h_i h_agent
    obtain ⟨l, h_l, h_same⟩ := h_t'.origin l' h_l'
    obtain ⟨rfl, h_other⟩ := h_same h_archived
    rcases (h_t.mem i).mp h_i with h_old | h_new
    · exact h_s l' h_l h_archived i h_old h_agent
    · cases h_new
      exact absurd h_agent h_other

end Statements

-- ============================================================================
-- Transactions
-- ============================================================================

section Transactions

instance {now existing name parent} :
    Keeps Buries (continueOrCreateAgent now existing name parent) := by
  unfold continueOrCreateAgent
  cases existing <;> infer_instance

instance {now intent} : Keeps Buries (declareStart now intent) := by
  unfold declareStart
  infer_instance

instance {now intent evidence state outcome committed} :
    Keeps Buries (insertAdoptBinding now intent evidence state outcome committed) := by
  unfold insertAdoptBinding
  infer_instance

instance {now intent evidence} : Keeps Buries (declareAdopt now intent evidence) := by
  unfold declareAdopt
  infer_instance

instance {now intent evidence} : Keeps Buries (declareAdoptPending now intent evidence) := by
  unfold declareAdoptPending
  infer_instance

instance {now op inc request} : Keeps Buries (beginAttempt now op inc request) := by
  unfold beginAttempt
  infer_instance

instance {op inc pane terminal} : Keeps Buries (acceptStartSubmission op inc pane terminal) := by
  unfold acceptStartSubmission
  infer_instance

/-- An incarnation that was not dead is Ready now. -/
theorem Buries.promoted {s s' : Store} {inc : IncarnationId} {n : Nat}
    {f : IncarnationRow → IncarnationRow} {h_key : ∀ i, (f i).id = i.id}
    (h : (updateRows Tab.incarnations (fun i => i.id = inc) f h_key : StoreTx Nat).run s
      = .ok (n, s'))
    (h_f : ∀ i, (f i).logicalAgentId = i.logicalAgentId)
    (h_alive : ∀ i ∈ s.incarnations, i.id = inc → ¬ i.state.Dead) : Buries s s' := by
  obtain ⟨t, rfl, h_t⟩ := run_updateRows_edits Ages h
    (fun i h_i h_id => ⟨h_f i, fun h_dead => absurd h_dead (h_alive i h_i h_id)⟩)
    fun _ _ _ => .rfl
  exact fun h_s => h_s.age h_t

theorem IncarnationRow.Early.alive {i : IncarnationRow} (h : i.Early) : ¬ i.state.Dead := by
  rcases h with h | h <;> rw [h] <;> decide

instance {now op inc agent} : Keeps Buries (acceptAdoptReady now op inc agent) where
  keeps {s a s'} h := by
    simp only [acceptAdoptReady, run_bind_reads, run_bind_orFail_ok, run_bind_require_ok,
      run_bind_query_ok] at h
    obtain ⟨e, h_expected, -, _, -, h⟩ := h
    obtain ⟨_, s₁, h_op, h⟩ := run_bind_ok.mp h
    rw [run_bind_require_ok] at h
    obtain ⟨-, h⟩ := h
    obtain ⟨_, s₂, h_ready, h_rest⟩ := run_bind_ok.mp h
    have h_same : SameRoster s s₁ := Keeps.keeps h_op
    have h_promoted : Buries s₁ s₂ := .promoted h_ready (fun _ => rfl) fun i h_i h_id => by
      rw [show s₁.incarnations = s.incarnations from congrArg Roster.incarnations h_same] at h_i
      exact (expectedBinding_early h_expected (by simp) i h_i h_id).1.alive
    have h_attempt : SameRoster s₂ s' := Keeps.keeps h_rest
    exact h_attempt.buries ∘ h_promoted ∘ h_same.buries

instance {now predecessor inc} : Keeps Buries (demotePredecessor now predecessor inc) := by
  unfold demotePredecessor
  infer_instance

instance {now op inc agent supersedes} :
    Keeps Buries (acceptStartReady now op inc agent supersedes) where
  keeps {s a s'} h := by
    simp only [acceptStartReady, run_bind_reads, run_bind_orFail_ok, run_bind_require_ok,
      run_bind_query_ok] at h
    obtain ⟨e, h_expected, -, _, -, h⟩ := h
    obtain ⟨_, s₁, h_op, h⟩ := run_bind_ok.mp h
    rw [run_bind_require_ok] at h
    obtain ⟨-, h⟩ := h
    obtain ⟨_, s₂, h_ready, h⟩ := run_bind_ok.mp h
    obtain ⟨_, s₃, h_attempt, h_end⟩ := run_bind_ok.mp h
    have h_same : SameRoster s s₁ := Keeps.keeps h_op
    have h_promoted : Buries s₁ s₂ := .promoted h_ready (fun _ => rfl) fun i h_i h_id => by
      rw [show s₁.incarnations = s.incarnations from congrArg Roster.incarnations h_same] at h_i
      exact (expectedBinding_early h_expected (by simp) i h_i h_id).1.alive
    have h_attempted : SameRoster s₂ s₃ := Keeps.keeps h_attempt
    have h_ended : Buries s₃ s' := by
      cases supersedes with
      | none => exact Keeps.keeps h_end
      | some predecessor => exact Keeps.keeps h_end
    exact h_ended ∘ h_attempted.buries ∘ h_promoted ∘ h_same.buries

instance {inc name} : Keeps Buries (declareRename inc name) := by
  unfold declareRename
  infer_instance

instance {inc name} : Keeps Buries (commitRename inc name) := by
  unfold commitRename
  infer_instance

instance {inc} : Keeps Buries (abandonRename inc) := by
  unfold abandonRename
  infer_instance

instance {inc pane terminal session} :
    Keeps Buries (fillObservedNativeSession inc pane terminal session) := by
  unfold fillObservedNativeSession
  infer_instance

instance {inc session} : Keeps Buries (replaceObservedNativeSession inc session) := by
  unfold replaceObservedNativeSession
  infer_instance

instance {now inc key} : Keeps Buries (requestRetirement now inc key) := by
  unfold requestRetirement
  infer_instance

instance {now op inc evidence delay} :
    Keeps Buries (markUnknownWithClearSpacing now op inc evidence delay) := by
  unfold markUnknownWithClearSpacing
  cases delay <;> infer_instance

instance {now op inc evidence} : Keeps Buries (markUnknown now op inc evidence) := by
  unfold markUnknown
  infer_instance

instance {now op inc evidence delay} :
    Keeps Buries (markClearUnknown now op inc evidence delay) := by
  unfold markClearUnknown
  infer_instance

instance {now op inc evidence outcome} :
    Keeps Buries (markRejected now op inc evidence outcome) := by
  unfold markRejected
  infer_instance

instance {now op inc session delay} : Keeps Buries (completeClear now op inc session delay) := by
  unfold completeClear
  cases session <;> infer_instance

instance {now name parent key} : Keeps Buries (registerSocketWaiter now name parent key) where
  keeps {s a s'} h := by
    simp only [registerSocketWaiter, run_bind_require_ok, run_bind_reads] at h
    obtain ⟨-, h⟩ := h
    split at h
    · exact Keeps.keeps h
    · exact Keeps.keeps h

instance {agent nowMs} : Keeps Buries (touchWaiterSeen agent nowMs) := by
  unfold touchWaiterSeen
  infer_instance

instance {nowMs} : Keeps Buries (bootResetWaiterSeen nowMs) := by
  unfold bootResetWaiterSeen
  infer_instance

instance {now agent due reason} :
    Keeps Buries (endSocketWaiterWithOwingDue now agent due reason) := by
  unfold endSocketWaiterWithOwingDue
  infer_instance

end Transactions

-- ============================================================================
-- Recovery and the archive pass
-- ============================================================================

section Recovery

instance {now} {b : ReadyBinding} {live} : Keeps Buries (refreshRotatedSession now b live) := by
  unfold refreshRotatedSession
  split <;> infer_instance

instance {inc live} : Keeps Buries (learnMissingNativeSession inc live) := by
  unfold learnMissingNativeSession
  split <;> infer_instance

instance {now inc} : Keeps Buries (markLost now inc) := by
  unfold markLost
  infer_instance

instance {now snapshot b} : Keeps Buries (reconcileReadyBinding now snapshot b) := by
  unfold reconcileReadyBinding
  infer_instance

instance {now snapshot} : Keeps Buries (reconcileReadyIncarnations now snapshot) := by
  unfold reconcileReadyIncarnations
  infer_instance

instance {now name snapshot} : Keeps Buries (releaseAbsentAliasBinding now name snapshot) where
  keeps {s a s'} h := by
    simp only [releaseAbsentAliasBinding, run_bind_reads] at h
    split at h
    · exact Keeps.keeps h
    · split at h <;> exact Keeps.keeps h

instance {now row} : Keeps Buries (settleAbsentUnknownStart now row) := by
  unfold settleAbsentUnknownStart
  infer_instance

instance {now op inc pane terminal snapshot} :
    Keeps Buries (reconcileRetirement now op inc pane terminal snapshot) := by
  unfold reconcileRetirement
  infer_instance

instance {now s cs c} : Keeps Buries (continueOnto now s cs c) := by
  unfold continueOnto
  split <;> infer_instance

instance {now snapshot} : Keeps Buries (continueRestoredOccupants now snapshot) := by
  unfold continueRestoredOccupants
  infer_instance

instance : Keeps Buries claimLiveOperations := .writes fun _ => id

theorem archivable_dead {s : Store} {nowMs graceMs : Millis} {l : LogicalAgentRow}
    (h : s.Archivable nowMs graceMs l) :
    ∀ i ∈ s.incarnations, i.logicalAgentId = l.id → i.state.Dead := by
  obtain ⟨-, -, -, h_evidence, -⟩ := h
  exact fun i h_i h_agent => (h_evidence i h_i h_agent).1

/-- The pass marks agents whose incarnations are dead. -/
instance {nowMs graceMs} : Keeps Buries (archiveDeadIdentities nowMs graceMs) where
  keeps {s a s'} h := by
    rw [archiveDeadIdentities, run_bind_reads] at h
    obtain ⟨t, rfl, h_t⟩ := run_updateRows_edits
      (fun (l l' : LogicalAgentRow) => l'.id = l.id ∧
        (s.Archivable nowMs graceMs l ∨ l'.archivedAtMs = l.archivedAtMs)) h
      (fun l _ h_l => ⟨rfl, .inl h_l⟩) fun l _ _ => ⟨rfl, .inr rfl⟩
    intro h_s l' h_l' h_archived i h_i h_agent
    obtain ⟨l, h_l, h_id, h_old | h_mark⟩ := h_t.origin l' h_l'
    · exact archivable_dead h_old i h_i (h_agent.trans h_id)
    · exact h_s l h_l (h_mark ▸ h_archived) i h_i (h_agent.trans h_id)

theorem Call.buries (c : Call) {s s' : Store} (h : c.Step s s') : Buries s s' := by
  cases c <;> exact Keeps.commit h

theorem Reachable.buried {ok : Call → Store → Prop} {s : Store} (h : Reachable ok s) :
    s.roster.Buried := by
  induction h with
  | refl => exact fun l h_l => absurd h_l (by rintro ⟨⟩)
  | tail c _ _ h_step ih => exact c.buries h_step ih

end Recovery

-- ============================================================================
-- The identities that a pass marks
-- ============================================================================

/-- The latest terminal evidence of the incarnations of an agent. -/
def Store.latestEvidence (s : Store) (agent : LogicalAgentId) : Option Millis :=
  ((s.incarnations.rows.filter (·.logicalAgentId = agent)).map s.terminalEvidence).max?

/-- A Herdr agent whose incarnations are all dead, that nothing unfinished names, and whose
    latest terminal evidence is at least the grace period old. -/
structure Store.DeadIdentity (s : Store) (nowMs graceMs : Millis) (l : LogicalAgentRow) :
    Prop where
  herdr : l.deliveryTransport = .herdrPrompt
  existed : ∃ i ∈ s.incarnations, i.logicalAgentId = l.id
  dead : ∀ i ∈ s.incarnations, i.logicalAgentId = l.id → i.state.Dead
  obligations : ¬ ∃ o ∈ s.obligations, (o.state = .open ∨ o.state = .inProgress) ∧
    (o.owingAgentId = l.id ∨ o.waitingAgentId = l.id)
  operations : ¬ ∃ o ∈ s.operations, (o.outcome = .pending ∨ o.outcome = .accepted) ∧
    ∃ i ∈ s.incarnations, i.id = o.targetIncarnationId ∧ i.logicalAgentId = l.id
  schedules : ¬ ∃ c ∈ s.schedules, c.state = .active ∧
    (c.logicalAgentId = l.id ∨ c.requesterAgentId = l.id)
  renews : ¬ ∃ r ∈ s.renews, r.logicalAgentId = l.id ∧
    r.phase ∉ [.done, .aborted, .terminated]
  grace : ∃ t, s.latestEvidence l.id = some t ∧ t + graceMs ≤ nowMs

theorem latestEvidence_le {s : Store} {agent : LogicalAgentId} (bound : Millis)
    (h_existed : ∃ i ∈ s.incarnations, i.logicalAgentId = agent) :
    (∃ t, s.latestEvidence agent = some t ∧ t ≤ bound) ↔
      ∀ i ∈ s.incarnations, i.logicalAgentId = agent → s.terminalEvidence i ≤ bound := by
  obtain ⟨i₀, h_i₀, h_agent₀⟩ := h_existed
  have h_mem : s.terminalEvidence i₀ ∈
      (s.incarnations.rows.filter (·.logicalAgentId = agent)).map s.terminalEvidence :=
    List.mem_map_of_mem (List.mem_filter.mpr ⟨h_i₀, decide_eq_true h_agent₀⟩)
  obtain ⟨t, h_t⟩ := Option.isSome_iff_exists.mp (List.isSome_max?_of_mem h_mem)
  have h_max : (∃ t, s.latestEvidence agent = some t ∧ t ≤ bound) ↔ t ≤ bound := by
    rw [Store.latestEvidence, h_t]
    simp
  rw [h_max, List.max?_le_iff h_t]
  simp only [List.mem_map, List.mem_filter, decide_eq_true_eq]
  constructor
  · intro h i h_i h_agent
    exact h _ ⟨i, ⟨h_i, h_agent⟩, rfl⟩
  · rintro h _ ⟨i, ⟨h_i, h_agent⟩, rfl⟩
    exact h i h_i h_agent

/-- The condition of the pass is that of a dead identity without a mark. -/
theorem archivable_iff {s : Store} {nowMs graceMs : Millis} {l : LogicalAgentRow} :
    s.Archivable nowMs graceMs l ↔
      l.archivedAtMs = none ∧ s.DeadIdentity nowMs graceMs l := by
  constructor
  · rintro ⟨h_unmarked, h_herdr, h_existed, h_incs, h_obligations, h_schedules, h_renews⟩
    refine ⟨h_unmarked, h_herdr, h_existed, fun i h_i h_agent => (h_incs i h_i h_agent).1,
      ?_, ?_, ?_, ?_, ?_⟩
    · rintro ⟨o, h_o, h_state, h_side⟩
      obtain ⟨h_owing, h_waiting⟩ := h_obligations o h_o h_state
      exact h_side.elim h_owing h_waiting
    · rintro ⟨o, h_o, h_live, i, h_i, h_target, h_agent⟩
      exact (h_incs i h_i h_agent).2.1 o h_o h_target.symm h_live
    · rintro ⟨c, h_c, h_active, h_side⟩
      obtain ⟨h_target, h_requester⟩ := h_schedules c h_c h_active
      exact h_side.elim h_target h_requester
    · rintro ⟨r, h_r, h_agent, h_phase⟩
      exact h_renews r h_r (by simpa [RenewPhase.Armed] using h_phase) h_agent
    · obtain ⟨t, h_t, h_le⟩ := (latestEvidence_le (nowMs - graceMs) h_existed).mpr
        fun i h_i h_agent => (h_incs i h_i h_agent).2.2
      exact ⟨t, h_t, Int.add_le_of_le_sub_right h_le⟩
  · rintro ⟨h_unmarked, h⟩
    refine ⟨h_unmarked, h.herdr, h.existed, fun i h_i h_agent => ⟨h.dead i h_i h_agent, ?_, ?_⟩,
      ?_, ?_, ?_⟩
    · exact fun o h_o h_target h_live =>
        h.operations ⟨o, h_o, h_live, i, h_i, h_target.symm, h_agent⟩
    · obtain ⟨t, h_t, h_le⟩ := h.grace
      exact (latestEvidence_le _ h.existed).mp ⟨t, h_t, Int.le_sub_right_of_add_le h_le⟩ i h_i
        h_agent
    · exact fun o h_o h_state => ⟨fun h_owing => h.obligations ⟨o, h_o, h_state, .inl h_owing⟩,
        fun h_waiting => h.obligations ⟨o, h_o, h_state, .inr h_waiting⟩⟩
    · exact fun c h_c h_active => ⟨fun h_target => h.schedules ⟨c, h_c, h_active, .inl h_target⟩,
        fun h_requester => h.schedules ⟨c, h_c, h_active, .inr h_requester⟩⟩
    · exact fun r h_r h_armed h_agent =>
        h.renews ⟨r, h_r, h_agent, by simpa [RenewPhase.Armed] using h_armed⟩

/-- The row of an agent after a pass over the store. -/
def Store.MarkedBy (s : Store) (nowMs graceMs : Millis) (l l' : LogicalAgentRow) : Prop :=
  (l.archivedAtMs = none ∧ s.DeadIdentity nowMs graceMs l ∧
      l' = { l with archivedAtMs := some nowMs }) ∨
    (¬ (l.archivedAtMs = none ∧ s.DeadIdentity nowMs graceMs l) ∧ l' = l)

theorem archiveDeadIdentities_run {s : Store} {nowMs graceMs : Millis} :
    ∃ n t, (archiveDeadIdentities nowMs graceMs).run s
        = .ok (n, { s with logicalAgents := t }) ∧
      s.logicalAgents.Edits (s.MarkedBy nowMs graceMs) t := by
  rw [archiveDeadIdentities, run_bind_reads, run_updateRows]
  refine ⟨_, _, rfl, Table.edits_update _ (fun l _ h_l => ?_) fun l _ h_l => ?_⟩
  · obtain ⟨h_unmarked, h_dead⟩ := archivable_iff.mp h_l
    exact .inl ⟨h_unmarked, h_dead, rfl⟩
  · exact .inr ⟨fun h => h_l (archivable_iff.mpr h), rfl⟩

/-- In every reachable state, no archived agent has an incarnation that may still run, and
    the pass marks the dead identities that have no mark and changes nothing else. -/
theorem archived_dead {s : Store} (h : Reachable (fun _ _ => True) s) :
    (∀ l ∈ s.logicalAgents, l.archivedAtMs.isSome → ∀ i ∈ s.incarnations,
      i.logicalAgentId = l.id →
        i.state ∉ [.declared, .starting, .ready, .retiring, .unknown]) ∧
    ∀ nowMs graceMs, ∃ n t, (archiveDeadIdentities nowMs graceMs).run s
        = .ok (n, { s with logicalAgents := t }) ∧
      s.logicalAgents.Edits (s.MarkedBy nowMs graceMs) t := by
  refine ⟨fun l h_l h_archived i h_i h_agent => ?_, fun _ _ => archiveDeadIdentities_run⟩
  rcases h.buried l h_l h_archived i h_i h_agent with h_state | h_state | h_state | h_state <;>
    simp [h_state]

/-- A retired agent that was archived, beside a live one. -/
def archivedRun : List Call :=
  [adopting 1 "w1:p1" "t1" "worker" "k1", adopting 1 "w1:p2" "t2" "keeper" "k2",
    .requestRetirement 2 1 "k3",
    .reconcileRetirement 3 3 1 "w1:p1" "t1" { panes := [], agents := [] },
    .archiveDeadIdentities 10 5]

theorem archived_dead_retired : ∃ s, Reachable (fun _ _ => True) s ∧
    (∃ l ∈ s.logicalAgents.rows, l.id = 1 ∧ l.archivedAtMs = some 10) ∧
    (∀ l ∈ s.logicalAgents, l.archivedAtMs.isSome → ∀ i ∈ s.incarnations,
      i.logicalAgentId = l.id →
        i.state ∉ [.declared, .starting, .ready, .retiring, .unknown]) ∧
    ∀ nowMs graceMs, ∃ n t, (archiveDeadIdentities nowMs graceMs).run s
        = .ok (n, { s with logicalAgents := t }) ∧
      s.logicalAgents.Edits (s.MarkedBy nowMs graceMs) t := by
  have h : Leads (fun _ _ => True)
      (fun s => ∃ l ∈ s.logicalAgents.rows, l.id = 1 ∧ l.archivedAtMs = some 10)
      archivedRun Store.empty := by decide +kernel
  obtain ⟨s, h_run, h_marked⟩ := h.run
  exact ⟨s, h_run, h_marked, archived_dead h_run⟩

end Kelpie
