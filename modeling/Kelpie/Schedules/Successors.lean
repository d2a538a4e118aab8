/-
  Kelpie.Schedules.Successors

  A policy never stops silently: the calls that end a cycle succeed and leave the
  next one armed, and what ends the policy ends its schedule with it.
-/

import Kelpie.Schedules.Policies

namespace Kelpie

open Lib Lib.Tx Book

-- As in `Kelpie.Store.Frames`.
set_option synthInstance.maxSize 100000

variable {s s' : Store} {c : Call}

-- ============================================================================
-- Rows that the schema accepts
-- ============================================================================

/-- The row meets the checks of the schema, and what it refers to exists. -/
def RenewRow.Sound (agents : Table LogicalAgentRow.id) (incarnations : Table IncarnationRow.id)
    (r : RenewRow) : Prop :=
  r.Checks ∧ (agents.find r.logicalAgentId).isSome ∧
    (agents.find r.requesterAgentId).isSome ∧ (incarnations.find r.incarnationId).isSome

/-- Agents and incarnations stay, and with them the renews stay sound. -/
structure KeepsSound (s s' : Store) : Prop where
  agents : ∀ id, (s.logicalAgents.find id).isSome → (s'.logicalAgents.find id).isSome
  incarnations : ∀ id, (s.incarnations.find id).isSome → (s'.incarnations.find id).isSome
  renews : (∀ r ∈ s.renews, r.Sound s.logicalAgents s.incarnations) →
    ∀ r ∈ s'.renews, r.Sound s'.logicalAgents s'.incarnations

instance KeepsSound.stepwise : Stepwise KeepsSound where
  refl _ := ⟨fun _ => id, fun _ => id, id⟩
  trans h h' := ⟨fun id => h'.agents id ∘ h.agents id,
    fun id => h'.incarnations id ∘ h.incarnations id, h'.renews ∘ h.renews⟩

theorem KeepsSound.same {s s' : Store} (h_agents : s'.logicalAgents = s.logicalAgents)
    (h_incarnations : s'.incarnations = s.incarnations) (h_renews : s'.renews = s.renews) :
    KeepsSound s s' := by
  refine ⟨fun _ => ?_, fun _ => ?_, ?_⟩
  · rw [h_agents]
    exact id
  · rw [h_incarnations]
    exact id
  · rw [h_agents, h_incarnations, h_renews]
    exact id

instance : Ignores KeepsSound Tab.operations := ⟨fun _ _ => .same rfl rfl rfl⟩
instance : Ignores KeepsSound Tab.operationAttempts := ⟨fun _ _ => .same rfl rfl rfl⟩
instance : Ignores KeepsSound Tab.operatorNotices := ⟨fun _ _ => .same rfl rfl rfl⟩
instance : Ignores KeepsSound Tab.messages := ⟨fun _ _ => .same rfl rfl rfl⟩
instance : Ignores KeepsSound Tab.obligations := ⟨fun _ _ => .same rfl rfl rfl⟩
instance : Ignores KeepsSound Tab.deliveries := ⟨fun _ _ => .same rfl rfl rfl⟩
instance : Ignores KeepsSound Tab.obligationReminders := ⟨fun _ _ => .same rfl rfl rfl⟩
instance : Ignores KeepsSound Tab.reminderAttempts := ⟨fun _ _ => .same rfl rfl rfl⟩
instance : Ignores KeepsSound Tab.schedules := ⟨fun _ _ => .same rfl rfl rfl⟩
instance : Ignores KeepsSound Tab.renewAttempts := ⟨fun _ _ => .same rfl rfl rfl⟩
instance : Ignores KeepsSound Tab.socketWaiterKeys := ⟨fun _ _ => .same rfl rfl rfl⟩
instance : Ignores KeepsSound Tab.socketInboxKeys := ⟨fun _ _ => .same rfl rfl rfl⟩
instance : Ignores KeepsSound Tab.scheduleFirings := ⟨fun _ _ => .same rfl rfl rfl⟩
instance : Ignores KeepsSound Tab.askPullLeases := ⟨fun _ _ => .same rfl rfl rfl⟩
instance : Ignores KeepsSound Tab.askPullKeys := ⟨fun _ _ => .same rfl rfl rfl⟩
instance : IgnoresCounters KeepsSound :=
  ⟨fun _ _ => .same rfl rfl rfl, fun _ _ => .same rfl rfl rfl, fun _ _ => .same rfl rfl rfl⟩

/-- What a table that keeps its keys held can still be found. -/
theorem isSome_find_of_grows {ρ κ : Type} {key : ρ → κ} [DecidableEq κ] {t t' : Table key}
    (h : ∀ r ∈ t, ∃ r' ∈ t', key r' = key r) (k : κ) (h_k : (t.find k).isSome) :
    (t'.find k).isSome := by
  obtain ⟨r, h_r, rfl⟩ := Table.isSome_find.mp h_k
  exact Table.isSome_find.mpr (h r h_r)

instance : Grows KeepsSound Tab.logicalAgents where
  put s t h := by
    have h_agents := isSome_find_of_grows h
    refine ⟨h_agents, fun _ => id, fun h_sound r h_r => ?_⟩
    obtain ⟨h_checks, h_agent, h_requester, h_incarnation⟩ := h_sound r h_r
    exact ⟨h_checks, h_agents _ h_agent, h_agents _ h_requester, h_incarnation⟩

instance : Grows KeepsSound Tab.incarnations where
  put s t h := by
    have h_incarnations := isSome_find_of_grows h
    refine ⟨fun _ => id, h_incarnations, fun h_sound r h_r => ?_⟩
    obtain ⟨h_checks, h_agent, h_requester, h_incarnation⟩ := h_sound r h_r
    exact ⟨h_checks, h_agent, h_requester, h_incarnations _ h_incarnation⟩

-- ============================================================================
-- Statements on renews
-- ============================================================================

section Statements

/-- A new set of renews, each row of which is sound where the old ones were. -/
theorem KeepsSound.renewsOf {rs : Table RenewRow.id}
    (h : (∀ r ∈ s.renews, r.Sound s.logicalAgents s.incarnations) →
      ∀ r ∈ rs, r.Sound s.logicalAgents s.incarnations) :
    KeepsSound s { s with renews := rs } :=
  ⟨fun _ => id, fun _ => id, h⟩

theorem keepsSound_insertRenew {row : RenewId → RenewRow} {h_id : ∀ n, (row n).id = n}
    (h_row : ∀ n agents incarnations, (row 0).Sound agents incarnations →
      (row n).Sound agents incarnations) : Keeps KeepsSound (insertRenew row h_id) where
  keeps {s n s'} h := by
    simp only [insertRenew, run_bind_reads, run_bind_require_ok] at h
    obtain ⟨h_sound, -, h_append⟩ := h
    obtain ⟨rs, rfl, h_rs⟩ := run_appendRow_adds h_append
    refine .renewsOf fun h_all r h_r => ?_
    rcases (h_rs.mem r).mp h_r with h_r | h_r
    · exact h_all r h_r
    · obtain rfl := Option.mem_some.mp h_r
      exact h_row n _ _ h_sound

theorem updateRenew_sound {id : RenewId} {p : RenewRow → Prop} [DecidablePred p]
    {f : RenewRow → RenewRow} {h_id : ∀ r, (f r).id = r.id} {refusal : String} {u : Unit}
    (h : (updateRenew id p f h_id refusal).run s = .ok (u, s'))
    (h_f : ∀ r, (f r).logicalAgentId = r.logicalAgentId ∧
      (f r).requesterAgentId = r.requesterAgentId ∧ (f r).incarnationId = r.incarnationId) :
    KeepsSound s s' := by
  have h_checks : ∀ r ∈ s.renews.find id, (f r).Checks := by
    simp only [updateRenew, run_bind_reads] at h
    obtain ⟨n, s₁, -, h⟩ := run_bind_ok.mp h
    simp only [run_bind_require_ok, run_require_ok] at h
    exact h.2.1
  obtain ⟨rs, rfl, -, h_rs⟩ := updateRenew_run h
  refine .renewsOf fun h_all r' h_r' => ?_
  obtain ⟨r, h_r, h_rr⟩ := h_rs.origin r' h_r'
  obtain ⟨-, h_agent, h_requester, h_incarnation⟩ := h_all r h_r
  rcases h_rr with ⟨-, rfl⟩ | ⟨h_key, -, rfl⟩
  · exact h_all r' h_r
  · obtain ⟨h_a, h_q, h_i⟩ := h_f r
    exact ⟨h_checks r (Table.find_eq_some.mpr ⟨h_r, h_key⟩), h_a ▸ h_agent,
      h_q ▸ h_requester, h_i ▸ h_incarnation⟩

theorem keepsSound_updateRenew {id : RenewId} {p : RenewRow → Prop} [DecidablePred p]
    {f : RenewRow → RenewRow} {h_id : ∀ r, (f r).id = r.id} {refusal : String}
    (h_f : ∀ r, (f r).logicalAgentId = r.logicalAgentId ∧
      (f r).requesterAgentId = r.requesterAgentId ∧ (f r).incarnationId = r.incarnationId) :
    Keeps KeepsSound (updateRenew id p f h_id refusal) where
  keeps h := updateRenew_sound h h_f

end Statements

-- ============================================================================
-- Calls on renews
-- ============================================================================

section Renews

variable {now : Millis} {id : RenewId}

instance {outcome} : Keeps KeepsSound (armNextRenewCycle now id outcome) where
  keeps {s a s'} h := by
    have h_insert (renew : RenewRow) (every interval : Millis) {h_id} : Keeps KeepsSound
        (insertRenew (fun id =>
          { id, logicalAgentId := renew.logicalAgentId, incarnationId := renew.incarnationId,
            requesterAgentId := renew.requesterAgentId, preparePrompt := renew.preparePrompt,
            resumePrompt := renew.resumePrompt, onTimeout := renew.onTimeout,
            prepareTimeoutMs := renew.prepareTimeoutMs, everyMs := some every,
            cycle := renew.cycle + 1, scheduledAtMs := saturatingAdd now every,
            phase := .scheduled, createdAtMs := now, activeRemainingMs := some interval,
            occupancySampledAtMs := some now, scheduleId := renew.scheduleId }) h_id) :=
      keepsSound_insertRenew fun _ _ _ h => h
    simp only [armNextRenewCycle, run_bind_reads] at h
    split at h <;> exact Keeps.keeps h

instance {intent} : Keeps KeepsSound (createRenew now intent) := by
  have h_insert (every : Option Millis) (remaining : Millis) (scheduleId : Option ScheduleId)
      {h_id} : Keeps KeepsSound (insertRenew (fun id =>
        { id, logicalAgentId := intent.logicalAgentId, incarnationId := intent.incarnationId,
          requesterAgentId := intent.requesterAgentId, preparePrompt := intent.preparePrompt,
          resumePrompt := intent.resumePrompt, onTimeout := intent.onTimeout,
          prepareTimeoutMs := intent.prepareTimeoutMs, everyMs := every, cycle := 1,
          scheduledAtMs := intent.scheduledAtMs, phase := .scheduled, createdAtMs := now,
          activeRemainingMs := every.map fun _ => remaining,
          occupancySampledAtMs := every.map fun _ => now, scheduleId }) h_id) :=
    keepsSound_insertRenew fun _ _ _ h => h
  unfold createRenew
  cases intent.everyMs <;> infer_instance

/-- The remaining time that a sample leaves is not negative. -/
instance {accumulating} : Keeps KeepsSound (accrueRenewOccupancy id accumulating now) where
  keeps {s a s'} h := by
    simp only [accrueRenewOccupancy, run_bind_reads] at h
    obtain ⟨n, s₁, h_plan, h⟩ := run_bind_ok.mp h
    simp only [run_bind_require_ok, run_bind_reads] at h
    obtain ⟨h_one, _, s₂, h_renew, h⟩ := h.imp_right run_bind_ok.mp
    cases h
    have h_pos : 0 < n := by omega
    obtain ⟨cs, rfl, plan, -, ⟨h_id, -⟩, h_mem⟩ := run_updateRows_pos h_plan h_pos
    cases h_renew
    have h_same : KeepsSound s (Tab.schedules.put cs s) := .same rfl rfl rfl
    refine KeepsSound.stepwise.trans h_same (.renewsOf fun h_all r' h_r' => ?_)
    rcases Table.mem_update_cases h_r' with ⟨h_r, -⟩ | ⟨r, h_r, -, rfl⟩
    · exact h_all r' h_r
    · obtain ⟨⟨h_timeout, h_every, -, h_session, h_ask⟩, h_refs⟩ := h_all r h_r
      refine ⟨⟨h_timeout, h_every, ?_, h_session, h_ask⟩, h_refs⟩
      intro remaining h_remaining
      rw [← h_id, Option.bind_some] at h_remaining
      rw [show (Tab.schedules.put cs s).schedules = cs from rfl,
        Table.find_eq_some.mpr ⟨h_mem, rfl⟩] at h_remaining
      obtain rfl := Option.mem_some.mp h_remaining
      exact le_max_left _ _

instance {ask deadline} : Keeps KeepsSound (markRenewPreparing id ask deadline) := by
  have h_update {p} [DecidablePred p] {h_id refusal} : Keeps KeepsSound (updateRenew id p
      (fun r => { r with
        phase := .preparing, askMessageId := some ask, prepareDeadlineMs := some deadline })
      h_id refusal) := keepsSound_updateRenew fun _ => ⟨rfl, rfl, rfl⟩
  unfold markRenewPreparing
  infer_instance

/-- A change of the phase alone. -/
theorem keepsSound_phase {p : RenewRow → Prop} [DecidablePred p] {phase : RenewPhase}
    {h_id : ∀ r : RenewRow, { r with phase }.id = r.id} {refusal : String} : Keeps KeepsSound
    (updateRenew id p (fun r => { r with phase }) h_id refusal) :=
  keepsSound_updateRenew fun _ => ⟨rfl, rfl, rfl⟩

/-- The end of a cycle. -/
theorem keepsSound_end {p : RenewRow → Prop} [DecidablePred p] {phase : RenewPhase}
    {reason : String} {h_id : ∀ r : RenewRow, { r with
      phase, resolvedAtMs := some now, terminationReason := some reason }.id = r.id}
    {refusal : String} : Keeps KeepsSound (updateRenew id p (fun r => { r with
      phase, resolvedAtMs := some now, terminationReason := some reason }) h_id refusal) :=
  keepsSound_updateRenew fun _ => ⟨rfl, rfl, rfl⟩

instance : Keeps KeepsSound (markRenewReady now id) := by
  have h_update {p} [DecidablePred p] {h_id refusal} : Keeps KeepsSound
      (updateRenew id p (fun r => { r with phase := .ready }) h_id refusal) := keepsSound_phase
  unfold markRenewReady
  infer_instance

instance {session deadline notBefore} :
    Keeps KeepsSound (markRenewClearing id session deadline notBefore) := by
  unfold markRenewClearing
  exact keepsSound_updateRenew fun _ => ⟨rfl, rfl, rfl⟩

instance : Keeps KeepsSound (claimRenewClearStallNotice id now) where
  keeps {s a s'} h := by
    unfold claimRenewClearStallNotice at h
    obtain ⟨_, s₁, h_update, h⟩ := run_bind_ok.mp h
    cases h
    cases h_update
    refine .renewsOf fun h_all r' h_r' => ?_
    rcases Table.mem_update_cases h_r' with ⟨h_r, -⟩ | ⟨r, h_r, -, rfl⟩
    · exact h_all r' h_r
    · exact h_all r h_r

instance : Keeps KeepsSound (markRenewInjected id) := by
  unfold markRenewInjected
  exact keepsSound_phase

instance : Keeps KeepsSound (markRenewTimedOut id) := by
  unfold markRenewTimedOut
  exact keepsSound_phase

instance : Keeps KeepsSound (completeRenew now id) := by
  have h_update {p} [DecidablePred p] {h_id refusal} : Keeps KeepsSound (updateRenew id p
      (fun r => { r with phase := .done, resolvedAtMs := some now }) h_id refusal) :=
    keepsSound_updateRenew fun _ => ⟨rfl, rfl, rfl⟩
  unfold completeRenew
  infer_instance

instance {reason} : Keeps KeepsSound (abortRenew now id reason) := by
  have h_update {p} [DecidablePred p] {h_id refusal} : Keeps KeepsSound (updateRenew id p
      (fun r => { r with
        phase := .aborted, resolvedAtMs := some now, terminationReason := some reason })
      h_id refusal) := keepsSound_end
  unfold abortRenew
  infer_instance

instance {reason} : Keeps KeepsSound (abandonRenewProof now id reason) := by
  have h_update {p} [DecidablePred p] {h_id refusal} : Keeps KeepsSound (updateRenew id p
      (fun r => { r with
        phase := .terminated, resolvedAtMs := some now, terminationReason := some reason })
      h_id refusal) := keepsSound_end
  unfold abandonRenewProof
  infer_instance

instance {p reason refusal state} [DecidablePred p] :
    Keeps KeepsSound (endRenew now id p reason refusal state) := by
  have h_update {h_id} : Keeps KeepsSound (updateRenew id p
      (fun r => { r with
        phase := .terminated, resolvedAtMs := some now, terminationReason := some reason })
      h_id refusal) := keepsSound_end
  unfold endRenew
  infer_instance

instance {reason} : Keeps KeepsSound (terminateRenew now id reason) := by
  unfold terminateRenew
  infer_instance

instance {reason notice} : Keeps KeepsSound (terminateRenewAnnounced now id reason notice) := by
  unfold terminateRenewAnnounced
  infer_instance

instance {requester reason notice} :
    Keeps KeepsSound (cancelRenew now id requester reason notice) := by
  unfold cancelRenew
  infer_instance

end Renews

/-- Every call keeps the renews sound. -/
theorem Call.keepsSound (c : Call) (h : c.Step s s') : KeepsSound s s' := by
  cases c <;> exact Keeps.commit h

/-- Every renew of a reachable store is sound. -/
theorem Reachable.sound {ok : Call → Store → Prop} (h : Reachable ok s) :
    ∀ r ∈ s.renews, r.Sound s.logicalAgents s.incarnations :=
  h.invariant (fun _ h_r => absurd h_r Table.notMem_empty)
    fun c _ _ h_s _ h_step => (c.keepsSound h_step).renews h_s

-- ============================================================================
-- The next cycle begins
-- ============================================================================

section Success

variable {now : Millis} {id : RenewId}

/-- The renew that is to change changes, when the schema accepts what it becomes. -/
theorem updateRenew_commits {p : RenewRow → Prop} [DecidablePred p] {f : RenewRow → RenewRow}
    {h_id : ∀ r, (f r).id = r.id} {refusal : String} {r : RenewRow} (h_r : r ∈ s.renews)
    (h_key : r.id = id) (h_p : p r) (h_checks : (f r).Checks) :
    (updateRenew id p f h_id refusal).Commits s := by
  simp only [updateRenew, commits_bind_reads]
  refine commits_bind.mpr ⟨_, _, run_updateRows, ?_⟩
  rw [commits_bind_require, commits_require]
  constructor
  · refine Table.count_of_key h_r ⟨h_key, h_p⟩ ?_
    rintro r' ⟨h_key', -⟩
    exact h_key'.trans h_key.symm
  · intro r' h_find
    obtain ⟨h_r', h_key'⟩ := Table.find_eq_some.mp h_find
    obtain rfl := Table.eq_of_key h_r' h_r (h_key'.trans h_key.symm)
    exact h_checks

/-- The prepare ask that a cycle leaves behind is settled, if it is still owed. -/
theorem cancelUnansweredPrepare_commits {reason : String} (h_text : HasText reason)
    (h_requester : ∀ r ∈ s.renews, (s.logicalAgents.find r.requesterAgentId).isSome) :
    (cancelUnansweredPrepare now id reason).Commits s := by
  simp only [cancelUnansweredPrepare, commits_bind_reads]
  split
  · exact commits_pure
  · rename_i r ask h_some
    obtain ⟨r₀, h_find, h_map⟩ := Option.bind_eq_some_iff.mp h_some
    obtain ⟨ask₀, -, h_pair⟩ := Option.map_eq_some_iff.mp h_map
    cases h_pair
    obtain ⟨h_r, -⟩ := Table.find_eq_some.mp h_find
    have h_settle : (settleObligations now (fun o => o.askMessageId = ask) .cancelled
        (some r.requesterAgentId) reason).Commits s := by
      simp only [settleObligations, commits_bind_reads]
      refine commits_bind.mpr ⟨_, _, run_updateRows, ?_⟩
      rw [commits_bind_require]
      refine ⟨fun _ => ⟨fun agent h_agent => ?_, h_text⟩, commits_pure⟩
      obtain rfl := Option.mem_some.mp h_agent
      exact h_requester r h_r
    exact h_settle.bind fun _ _ _ => commits_pure

theorem insertRenew_commits {row : RenewId → RenewRow} {h_id : ∀ n, (row n).id = n}
    (h_row : (row 0).Sound s.logicalAgents s.incarnations)
    (h_alone : ∀ r ∈ s.renews, r.incarnationId = (row 0).incarnationId → ¬ r.phase.Armed) :
    (insertRenew row h_id).Commits s := by
  simp only [insertRenew, commits_bind_reads, commits_bind_require]
  exact ⟨h_row, h_alone, .of_run run_appendRow⟩

/-- The next cycle of a policy begins when its schedule agrees with the cycle that ended. -/
theorem armNextRenewCycle_commits {outcome : ScheduleFiringOutcome} {r : RenewRow}
    {plan : ScheduleRow} (h_r : r ∈ s.renews) (h_id : r.id = id) (h_plan : plan ∈ s.schedules)
    (h_governs : Governs plan r) (h_active : plan.state = .active)
    (h_cycle : plan.cycle = r.cycle)
    (h_new : ∀ f ∈ s.scheduleFirings, f.key ≠ (plan.id, r.cycle))
    (h_sound : r.Sound s.logicalAgents s.incarnations)
    (h_alone : ∀ r' ∈ s.renews, r'.incarnationId = r.incarnationId → ¬ r'.phase.Armed) :
    (armNextRenewCycle now id outcome).Commits s := by
  obtain ⟨⟨h_timeout, h_positive, -⟩, h_agent, h_requester, h_incarnation⟩ := h_sound
  have h_interval : 0 < plan.intervalMs := h_positive _ h_governs.every
  have h_query : sharedSchedule r plan.intervalMs s = .ok plan := by
    have h_kind : (some plan).filter (·.kind = .renew) = some plan := by
      simp [h_governs.kind]
    simp only [sharedSchedule, h_governs.schedule, Table.find_eq_some.mpr ⟨h_plan, rfl⟩, h_kind]
    simp [h_active, h_cycle]
  have h_none : s.scheduleFirings.find (plan.id, r.cycle) = none :=
    Table.find_eq_none.mpr h_new
  simp only [armNextRenewCycle, commits_bind_reads, Table.find_eq_some.mpr ⟨h_r, h_id⟩,
    h_governs.every, Option.bind_some, Option.map_some]
  rw [commits_bind_query h_query]
  simp only [commits_bind_reads, h_none, if_true]
  refine commits_bind.mpr ⟨_, _, run_insertRow_ok.mpr ⟨_, dif_pos h_none, rfl⟩, ?_⟩
  refine commits_bind.mpr ⟨_, _, run_updateRows, ?_⟩
  refine Commits.bind (insertRenew_commits ?_ h_alone) fun _ _ _ => commits_pure
  refine ⟨⟨h_timeout, ?_, ?_, ?_, .inl rfl⟩, h_agent, h_requester, h_incarnation⟩
  · intro every h_every
    obtain rfl := Option.mem_some.mp h_every
    exact h_interval
  · intro remaining h_remaining
    obtain rfl := Option.mem_some.mp h_remaining
    exact h_interval.le
  · simp

/-- The next cycle begins after the end of the current one, whatever ends it. -/
theorem nextCycle_commits {s₂ : Store} {outcome : ScheduleFiringOutcome} {r : RenewRow}
    {rs : Table RenewRow.id} (h_kept : Kept s.book) (h_recording : Recording s.book)
    (h_sound : ∀ r ∈ s₂.renews, r.Sound s₂.logicalAgents s₂.incarnations)
    (h_r : r ∈ s.renews) (h_every : r.everyMs.isSome) (h_rs : s.renews.Edits (Closed r.id) rs)
    (h_book : s₂.book = { s.book with renews := rs }) :
    (armNextRenewCycle now r.id outcome).Commits s₂ := by
  have h_renews : s₂.renews = rs := congrArg Book.renews h_book
  have h_schedules : s₂.schedules = s.schedules := congrArg Book.schedules h_book
  have h_firings : s₂.scheduleFirings = s.scheduleFirings := congrArg Book.firings h_book
  obtain ⟨r', h_r', h_end⟩ := h_rs.image r h_r
  obtain ⟨-, h_same, -, h_armed, -⟩ := h_end.resolve_left fun h_not => h_not.1 rfl
  obtain ⟨plan, h_plan, h_governs⟩ := (h_kept.policy r h_r).resolve_left fun h_none => by
    simp [h_none.2] at h_every
  obtain ⟨h_active, h_cycle⟩ := h_kept.armed r h_r h_armed plan h_plan h_governs.schedule
  have h_mem : r' ∈ s₂.renews := h_renews ▸ h_r'
  refine armNextRenewCycle_commits h_mem h_same.key ?_ (h_governs.same .rfl h_same) h_active
    (h_cycle.trans h_same.cycle.symm) ?_ (h_sound r' h_mem) ?_
  · exact h_schedules ▸ h_plan
  · intro f h_f h_key
    obtain ⟨h_schedule, h_number⟩ := Prod.mk.inj h_key
    rw [h_firings] at h_f
    refine h_recording.unrecorded h_plan ⟨h_schedule, ?_⟩ ⟨f, h_f, rfl⟩
    exact h_number.trans (h_same.cycle.trans h_cycle.symm)
  · intro r₁' h_r₁' h_incarnation h_armed'
    rw [h_renews] at h_r₁'
    obtain ⟨r₁, h_r₁, h_rr⟩ := h_rs.origin r₁' h_r₁'
    obtain ⟨h_other, rfl⟩ := h_rr.armed h_armed'
    obtain rfl := h_kept.alone.eq h_r₁ h_r h_armed' h_armed
      (h_incarnation.trans h_same.incarnation)
    exact h_other rfl

theorem completeRenew_commits {r : RenewRow} (h_kept : Kept s.book)
    (h_recording : Recording s.book)
    (h_sound : ∀ r ∈ s.renews, r.Sound s.logicalAgents s.incarnations) (h_r : r ∈ s.renews)
    (h_every : r.everyMs.isSome) (h_phase : r.phase = .injected) :
    (completeRenew now r.id).Commits s := by
  obtain ⟨⟨h_timeout, h_positive, h_remaining, h_session, h_ask⟩, -⟩ := h_sound r h_r
  have h_ask : r.askMessageId.isSome := by simpa [h_phase] using h_ask
  have h_session : r.preClearSession.isSome := h_session (.inr (.inl h_phase))
  refine (updateRenew_commits h_r rfl h_phase ?_).bind fun u s₁ h_update => ?_
  · exact ⟨h_timeout, h_positive, h_remaining, fun _ => h_session, .inr (.inr h_ask)⟩
  · have h_sound₁ := updateRenew_sound h_update fun _ => ⟨rfl, rfl, rfl⟩
    obtain ⟨rs, rfl, h_rs, -⟩ := updateRenew_closes h_update
      (fun r h_p => by simp [RenewPhase.Armed, h_p])
      fun r => ⟨⟨rfl, rfl, rfl, rfl, rfl, rfl, rfl⟩, rfl, by simp [RenewPhase.Armed]⟩
    exact nextCycle_commits h_kept h_recording (h_sound₁.renews h_sound) h_r h_every h_rs rfl

theorem abandonRenewProof_commits {r : RenewRow} {reason : String} (h_kept : Kept s.book)
    (h_recording : Recording s.book)
    (h_sound : ∀ r ∈ s.renews, r.Sound s.logicalAgents s.incarnations) (h_r : r ∈ s.renews)
    (h_every : r.everyMs.isSome) (h_phase : r.phase = .injected) :
    (abandonRenewProof now r.id reason).Commits s := by
  obtain ⟨⟨h_timeout, h_positive, h_remaining, -, h_ask⟩, -⟩ := h_sound r h_r
  have h_ask : r.askMessageId.isSome := by simpa [h_phase] using h_ask
  refine (updateRenew_commits h_r rfl h_phase ?_).bind fun u s₁ h_update => ?_
  · exact ⟨h_timeout, h_positive, h_remaining, nofun, .inr (.inl rfl)⟩
  · have h_sound₁ := updateRenew_sound h_update fun _ => ⟨rfl, rfl, rfl⟩
    obtain ⟨rs, rfl, h_rs, -⟩ := updateRenew_closes h_update
      (fun r h_p => by simp [RenewPhase.Armed, h_p])
      fun r => ⟨⟨rfl, rfl, rfl, rfl, rfl, rfl, rfl⟩, rfl, by simp [RenewPhase.Armed]⟩
    exact nextCycle_commits h_kept h_recording (h_sound₁.renews h_sound) h_r h_every h_rs rfl

/-- A cycle that awaits its prepare reply, or has it, can be skipped. -/
theorem abortRenew_commits {r : RenewRow} {reason : String} (h_kept : Kept s.book)
    (h_recording : Recording s.book)
    (h_sound : ∀ r ∈ s.renews, r.Sound s.logicalAgents s.incarnations) (h_r : r ∈ s.renews)
    (h_every : r.everyMs.isSome) (h_text : HasText reason)
    (h_phase : r.phase = .preparing ∨ r.phase = .timedOut ∨ r.phase = .ready) :
    (abortRenew now r.id reason).Commits s := by
  obtain ⟨⟨h_timeout, h_positive, h_remaining, -, h_ask⟩, -⟩ := h_sound r h_r
  have h_ask : r.askMessageId.isSome := by
    rcases h_phase with h_phase | h_phase | h_phase <;> simpa [h_phase] using h_ask
  refine (updateRenew_commits h_r rfl (.inr h_phase) ?_).bind fun u s₁ h_update => ?_
  · exact ⟨h_timeout, h_positive, h_remaining, nofun, .inr (.inr h_ask)⟩
  · have h_sound₁ := (updateRenew_sound h_update fun _ => ⟨rfl, rfl, rfl⟩).renews h_sound
    obtain ⟨rs, rfl, h_rs, -⟩ := updateRenew_closes h_update
      (fun r h_p => by rcases h_p with h_p | h_p | h_p | h_p <;> simp [RenewPhase.Armed, h_p])
      fun r => ⟨⟨rfl, rfl, rfl, rfl, rfl, rfl, rfl⟩, rfl, by simp [RenewPhase.Armed]⟩
    refine (cancelUnansweredPrepare_commits h_text fun r h_r => ?_).bind fun b s₂ h_cancel => ?_
    · exact (h_sound₁ r h_r).2.2.1
    · have h_keeps : KeepsSound _ s₂ := Keeps.keeps h_cancel
      have h_book : SameBook _ s₂ := keeps_cancelUnansweredPrepare.keeps h_cancel
      exact nextCycle_commits h_kept h_recording (h_keeps.renews h_sound₁) h_r h_every h_rs
        h_book

end Success

-- ============================================================================
-- What a turn does to a policy
-- ============================================================================

section Turns

variable {b b' : Book}

theorem Call.Closes.eq {id id' : RenewId} (h : c.Closes id) (h' : c.Closes id') : id = id' := by
  cases c with
  | completeRenew | abortRenew | abandonRenewProof => exact Eq.trans (Eq.symm h) h'
  | _ => exact h.elim

theorem Call.Ends.eq {r r' : RenewRow} (h : c.Ends r) (h' : c.Ends r') : r.id = r'.id := by
  cases c with
  | terminateRenew | terminateRenewAnnounced => exact Eq.trans (Eq.symm h) h'
  | cancelRenew => exact h.1.symm.trans h'.1
  | _ => exact h.elim

theorem Call.Ends.not_closes {r : RenewRow} {id : RenewId} (h : c.Ends r) : ¬ c.Closes id := by
  intro h_closes
  cases c with
  | completeRenew | abortRenew | abandonRenewProof => exact h
  | _ => exact h_closes

/-- The cycle after that of `r` is armed, under its active schedule. -/
def Book.Succeeded (b : Book) (r : RenewRow) : Prop :=
  ∃ next ∈ b.renews, ∃ plan ∈ b.schedules, r.scheduleId = some plan.id ∧
    next.scheduleId = some plan.id ∧ next.phase = .scheduled ∧ next.cycle = r.cycle + 1 ∧
    plan.state = .active ∧ plan.cycle = next.cycle

/-- A call that closes a cycle of a policy leaves the next one. -/
theorem Book.Turn.succeeded {r : RenewRow} (h : Turn b c b') (h_r : r ∈ b.renews)
    (h_c : c.Closes r.id) (h_every : r.everyMs.isSome) : b'.Succeeded r := by
  cases h with
  | same h_not => exact absurd h_c (h_not r.id)
  | move h_not => exact absurd h_c (h_not r.id)
  | link | arm | compose | fire | cancel => exact h_c.elim
  | stop h_ends => exact absurd h_c h_ends.not_closes
  | close h_closes h_once =>
    rw [h_once r h_r (h_c.eq h_closes)] at h_every
    cases h_every
  | next h_closes h_rs h_next =>
    obtain rfl := h_c.eq h_closes
    obtain @⟨r₁, r', plan, due, f, cs, rs', fs, h_r₁, h_plan, -, h_r', -, h_cs, h_rs', -⟩ :=
      h_next
    obtain ⟨h_r₁, h_id⟩ := h_r₁
    obtain ⟨h_plan, h_schedule, -, h_active, -, h_cycle⟩ := h_plan
    obtain ⟨h_phase, h_cycle', -, h_schedule', -⟩ := h_r'
    obtain ⟨r₀, h_r₀, h_end⟩ := h_rs.origin r₁ h_r₁
    obtain rfl := Table.eq_of_key h_r₀ h_r (h_end.same.key.symm.trans h_id)
    obtain ⟨plan', h_plan', h_pp⟩ := h_cs.image plan h_plan
    obtain ⟨-, h_same, h_state, h_step, -⟩ := h_pp.resolve_left fun h_not => h_not.1 rfl
    refine ⟨r', (h_rs'.mem r').mpr (.inr rfl), plan', h_plan', ?_, ?_, h_phase, ?_, ?_, ?_⟩
    · rw [← h_end.same.schedule, h_schedule, h_same.key]
    · rw [h_schedule', h_schedule, h_same.key]
    · rw [h_cycle', h_end.same.cycle]
    · exact h_state.trans h_active
    · rw [h_step, h_cycle, h_cycle']

/-- The schedule of a policy ends exactly when a call entitled to it ends its renew. -/
theorem Book.Turn.ended {r r' : RenewRow} {plan' : ScheduleRow} (h : Turn b c b')
    (h_kept : Kept b) (h_r : r ∈ b.renews) (h_armed : r.phase.Armed) (h_r' : r' ∈ b'.renews)
    (h_id : r'.id = r.id) (h_plan' : plan' ∈ b'.schedules)
    (h_schedule : r.scheduleId = some plan'.id) :
    plan'.state ≠ .active ↔ c.Ends r ∧ ¬ r'.phase.Armed := by
  obtain ⟨plan, h_plan, h_governs⟩ := (h_kept.policy r h_r).resolve_left fun h_none => by
    simp [h_none.1] at h_schedule
  have h_key : plan.id = plan'.id := by
    rw [h_governs.schedule, Option.some_inj] at h_schedule
    exact h_schedule
  have h_active : plan.state = .active :=
    (h_kept.armed r h_r h_armed plan h_plan h_governs.schedule).1
  -- Where the schedule stays active, either the renew does or the call does not end it.
  have h_stays (h_state : plan'.state = .active)
      (h_not : c.Ends r → r'.phase.Armed) : plan'.state ≠ .active ↔ c.Ends r ∧ ¬ r'.phase.Armed :=
    ⟨fun h_ended => absurd h_state h_ended, fun h_end => absurd (h_not h_end.1) h_end.2⟩
  have h_same_plan (h_old : plan' ∈ b.schedules) : plan'.state = .active := by
    rw [← Table.eq_of_key h_plan h_old h_key]
    exact h_active
  have h_same_renew (h_old : r' ∈ b.renews) : r'.phase.Armed := by
    rw [Table.eq_of_key h_old h_r h_id]
    exact h_armed
  have h_edited {e : RenewRow → RenewRow → Prop} {rs : Table RenewRow.id}
      (h_rs : b.renews.Edits e rs) (h_mem : r' ∈ rs) (h_e : ∀ r r', e r r' → r'.id = r.id) :
      e r r' := by
    obtain ⟨r₀, h_r₀, h_rr⟩ := h_rs.origin r' h_mem
    obtain rfl := Table.eq_of_key h_r₀ h_r ((h_e r₀ r' h_rr).symm.trans h_id)
    exact h_rr
  have h_planned {e : ScheduleRow → ScheduleRow → Prop} {cs : Table ScheduleRow.id}
      (h_cs : b.schedules.Edits e cs) (h_mem : plan' ∈ cs) (h_e : ∀ p p', e p p' → p'.id = p.id) :
      e plan plan' := by
    obtain ⟨p, h_p, h_pp⟩ := h_cs.origin plan' h_mem
    obtain rfl := Table.eq_of_key h_p h_plan ((h_e p plan' h_pp).symm.trans h_key.symm)
    exact h_pp
  cases h with
  | same => exact h_stays (h_same_plan h_plan') fun _ => h_same_renew h_r'
  | move _ h_cs h_rs =>
    have h_pp := h_planned h_cs h_plan' fun _ _ h_e => h_e.key
    have h_rr := h_edited h_rs h_r' fun _ _ h_e => h_e.key
    exact h_stays (h_pp.state.trans h_active) fun _ => h_rr.armed.mpr h_armed
  | link h_rs => exact h_stays (h_same_plan h_plan') fun h_end => h_end.elim
  | arm _ _ _ _ h_cs _ =>
    refine h_stays ?_ fun h_end => h_end.elim
    rcases (h_cs.mem plan').mp h_plan' with h_old | h_new
    · exact h_same_plan h_old
    · exact absurd h_key (h_cs.fresh plan' h_new plan h_plan)
  | close h_closes =>
    exact h_stays (h_same_plan h_plan') fun h_end => absurd h_closes h_end.not_closes
  | next h_closes _ h_next =>
    refine h_stays ?_ fun h_end => absurd h_closes h_end.not_closes
    obtain ⟨-, -, -, -, -, h_cs, -, -⟩ := h_next
    have h_pp := h_planned h_cs h_plan' fun _ _ h_e => h_e.same.key
    rcases h_pp with ⟨-, rfl⟩ | ⟨-, -, h_state, -⟩
    · exact h_active
    · exact h_state.trans h_active
  | @stop _ r₀ _ _ h_ends h_r₀ h_rs h_cs =>
    have h_pp := h_planned h_cs h_plan' fun _ _ h_e => h_e.same.key
    have h_rr := h_edited h_rs h_r' fun _ _ h_e => h_e.same.key
    rcases h_pp with ⟨h_not, rfl⟩ | ⟨h_named, -, -, -, h_ended⟩
    · refine h_stays h_active fun h_end => ?_
      obtain rfl := Table.eq_of_key h_r₀ h_r (h_ends.eq h_end)
      exact absurd ⟨h_governs.schedule.symm, h_active⟩ h_not
    · obtain ⟨r₀', h_r₀', h_end₀⟩ := h_rs.image r₀ h_r₀
      obtain ⟨-, -, -, h_armed₀, -⟩ := h_end₀.resolve_left fun h_not => h_not.1 rfl
      obtain rfl := h_kept.unique h_r h_r₀ h_plan h_armed h_armed₀ h_governs.schedule
        h_named.symm
      refine iff_of_true h_ended ⟨h_ends, fun h_on => ?_⟩
      exact (h_rr.armed h_on).1 rfl
  | compose _ h_cs =>
    refine h_stays ?_ fun h_end => h_end.elim
    rcases (h_cs.mem plan').mp h_plan' with h_old | h_new
    · exact h_same_plan h_old
    · exact absurd h_key (h_cs.fresh plan' h_new plan h_plan)
  | fire _ _ h_cs _ =>
    refine h_stays ?_ fun h_end => h_end.elim
    have h_pp := h_planned h_cs h_plan' fun _ _ h_e => h_e.same.key
    rcases h_pp with ⟨-, rfl⟩ | ⟨-, -, h_state, -⟩
    · exact h_active
    · exact h_state.trans h_active
  | cancel h_cs =>
    refine h_stays ?_ fun h_end => h_end.elim
    have h_pp := h_planned h_cs h_plan' fun _ _ h_e => h_e.same.key
    rcases h_pp with ⟨-, rfl⟩ | ⟨h_tell, -⟩
    · exact h_active
    · rw [h_governs.kind] at h_tell
      cases h_tell.2

end Turns

-- ============================================================================
-- Runs
-- ============================================================================

/-- Exactly one renew of the policy goes on, in the cycle of its schedule, with the cycles
    before it on record. -/
structure Store.Current (s : Store) (plan : ScheduleRow) : Prop where
  renew : ∃ r ∈ s.renews, r.scheduleId = some plan.id ∧ r.phase.Armed ∧
    r.cycle = plan.cycle ∧
    ∀ r' ∈ s.renews, r'.scheduleId = some plan.id → r'.phase.Armed → r' = r
  recorded : ∀ n, (∃ f ∈ s.scheduleFirings, f.scheduleId = plan.id ∧ f.cycle = n) ↔
    1 ≤ n ∧ n < plan.cycle

/-- An active schedule of a policy is one whose renew goes on. -/
theorem Book.Kept.current_iff (h : Kept s.book) (h_recording : Recording s.book)
    {plan : ScheduleRow} (h_plan : plan ∈ s.schedules) (h_kind : plan.kind = .renew) :
    plan.state = .active ↔ s.Current plan := by
  constructor
  · intro h_active
    obtain ⟨r, h_r, h_armed, h_schedule⟩ := h.active plan h_plan h_kind h_active
    refine ⟨⟨r, h_r, h_schedule, h_armed, ?_, ?_⟩, (h_recording.recorded plan h_plan).2⟩
    · exact (h.armed r h_r h_armed plan h_plan h_schedule).2.symm
    · intro r' h_r' h_schedule' h_armed'
      exact h.unique h_r' h_r h_plan h_armed' h_armed h_schedule' h_schedule
  · rintro ⟨⟨r, h_r, h_schedule, h_armed, -⟩, -⟩
    exact (h.armed r h_r h_armed plan h_plan h_schedule).1

/-- An interval renew policy never stops silently, in any run.  Its schedule is active exactly
    while one renew of it goes on, in the cycle of the schedule and with the earlier cycles on
    record.  A cycle that closes leaves its successor, and neither to complete nor to abandon nor
    to abort one is ever refused; a schedule ends exactly with the renew that is armed for it;
    and one incarnation has at most one armed renew. -/
theorem renew_policy_goes_on {ok : Call → Store → Prop} {r : Reader} (h : ReaderRun ok {} r) :
    (∀ plan ∈ r.store.schedules, plan.kind = .renew →
      (plan.state = .active ↔ r.store.Current plan)) ∧
    (∀ c s', Call.Step c r.store s' → ∀ row ∈ r.store.renews, c.Closes row.id →
      row.everyMs.isSome → s'.book.Succeeded row) ∧
    (∀ row ∈ r.store.renews, row.everyMs.isSome → ∀ now reason, HasText reason →
      (row.phase = .injected →
        (∃ s', (Call.completeRenew now row.id).Step r.store s') ∧
        ∃ s', (Call.abandonRenewProof now row.id reason).Step r.store s') ∧
      (row.phase = .preparing ∨ row.phase = .timedOut ∨ row.phase = .ready →
        ∃ s', (Call.abortRenew now row.id reason).Step r.store s')) ∧
    (∀ c s', Call.Step c r.store s' → ∀ row ∈ r.store.renews, row.phase.Armed →
      ∀ row' ∈ s'.renews, row'.id = row.id → ∀ plan' ∈ s'.schedules,
        row.scheduleId = some plan'.id →
        (plan'.state ≠ .active ↔ c.Ends row ∧ ¬ row'.phase.Armed)) ∧
    (∀ row ∈ r.store.renews, ∀ row' ∈ r.store.renews,
      row.incarnationId = row'.incarnationId → row.phase.Armed → row'.phase.Armed →
      row = row') := by
  have h_kept := h.reachable.kept
  have h_recording := h.reachable.recording
  have h_sound := h.reachable.sound
  have h_step {α : Type} {x : StoreTx α} (h_x : x.Commits r.store) :
      ∃ s', x.commit r.store = .ok s' := by
    obtain ⟨a, s', h_run⟩ := h_x
    exact ⟨s', commit_ok.mpr ⟨a, h_run⟩⟩
  refine ⟨?_, ?_, ?_, ?_, ?_⟩
  · intro plan h_plan h_kind
    exact h_kept.current_iff h_recording h_plan h_kind
  · intro c s' h_c row h_row h_closes h_every
    exact (c.turn h_c).succeeded h_row h_closes h_every
  · intro row h_row h_every now reason h_text
    refine ⟨fun h_phase => ⟨?_, ?_⟩, fun h_phase => ?_⟩
    · exact h_step (completeRenew_commits h_kept h_recording h_sound h_row h_every h_phase)
    · exact h_step (abandonRenewProof_commits h_kept h_recording h_sound h_row h_every h_phase)
    · exact h_step (abortRenew_commits h_kept h_recording h_sound h_row h_every h_text h_phase)
  · intro c s' h_c row h_row h_armed row' h_row' h_id plan' h_plan' h_schedule
    exact (c.turn h_c).ended h_kept h_row h_armed h_row' h_id h_plan' h_schedule
  · intro row h_row row' h_row' h_same h_armed h_armed'
    exact h_kept.alone.eq h_row h_row' h_armed h_armed' h_same

/-- One cycle of an hourly policy, from its creation to its completion. -/
def renewedRun : List Call :=
  [adopting 1 "w1:p1" "t1" "worker" "k1",
    .createRenew 10
      { logicalAgentId := 1, incarnationId := 1, requesterAgentId := 1,
        preparePrompt := "Write a checkpoint.", resumePrompt := "Continue.",
        onTimeout := .abort, prepareTimeoutMs := 100, everyMs := some 3600000,
        scheduledAtMs := 3600010 },
    .createAsk 3600020 1 1 1 "Write a checkpoint." "k2" none none false .inject,
    .markRenewPreparing 1 1 3600120, .markRenewReady 3600130 1,
    .markRenewClearing 1 { value := some "a" } 3600200 none, .markRenewInjected 1,
    .completeRenew 3600140 1]

theorem renew_policy_goes_on_renewedRun : ∃ r, ReaderRun (fun _ _ => True) {} r ∧
    ∃ plan ∈ r.store.schedules, plan.kind = .renew ∧ plan.cycle = 2 ∧
      (plan.state = .active ↔ r.store.Current plan) := by
  have h : Script ReaderEvent.next (ReaderEvent.Proper fun _ _ => True)
      (fun r => ∃ plan ∈ r.store.schedules.rows, plan.kind = .renew ∧ plan.cycle = 2)
      (renewedRun.map .call) {} := by decide +kernel
  obtain ⟨r, h_run, plan, h_plan, h_kind, h_cycle⟩ := h.run
  exact ⟨r, h_run, plan, h_plan, h_kind, h_cycle,
    (renew_policy_goes_on h_run).1 plan h_plan h_kind⟩

end Kelpie
