/-
  Kelpie.Renews.Cycles

  What every run of the driver keeps of each renew: one clear, a resume prompt
  behind the barrier of its backend, and no completion without proof.
-/

import Kelpie.Renews.Order

namespace Kelpie

open Lib Lib.Tx

variable {config : SliceConfig}

/-- The entry marks the clear of the renew submitted. -/
def RenewAct.submitsClear (id : RenewId) : RenewAct → Bool
  | .submits id' .clear _ => id' = id
  | _ => false

/-- The entry records the pre-clear session of the renew. -/
def RenewAct.recordsClear (id : RenewId) : RenewAct → Bool
  | .records id' _ _ _ => id' = id
  | _ => false

/-- An end of a cycle without the proof of its clear. -/
def RenewEnd.Unproven (before : List RenewAct) (id : RenewId) (phase : RenewPhase)
    (how : RenewEnd) : Prop :=
  how = .lost ∨ (phase = .injected ∧
    (how = .cancelled ∨ ∃ nowMs, how = .abandoned nowMs ∧ ProofOverdue before id nowMs))

/-- What a journal says of every renew, and of the rows that it left. -/
structure RenewsProceed (log : List RenewAct) (t : Table RenewRow.id) : Prop where
  recordedOnce : ∀ id, log.countP (RenewAct.recordsClear id) ≤ 1
  submittedOnce : ∀ id, log.countP (RenewAct.submitsClear id) ≤ 1
  sentOnce : ∀ id, log.count (.sends id .clear) ≤ 1
  /-- What is sent was marked submitted. -/
  sent : ∀ pre id step post, log = pre ++ .sends id step :: post →
    ∃ nowMs, .submits id step nowMs ∈ pre
  /-- A resume prompt waits for the rotation, or for the delay after the record. -/
  resumed : ∀ pre id nowMs post, log = pre ++ .submits id .inject nowMs :: post →
    MayResume pre id nowMs
  completed : ∀ pre id phase post, log = pre ++ .ends id phase .completed :: post →
    ClearProven pre id
  done : ∀ r ∈ t, r.phase = .done → ClearProven log r.id
  reportedOnce : ∀ id, log.count (.reports id) ≤ 1
  /-- How a cycle whose clear was recorded ends without the proof. -/
  unproven : ∀ pre id phase how post, log = pre ++ .ends id phase how :: post →
    (∃ time session rotation, RecordsClear pre id time session rotation) →
    ¬ ClearProven pre id → how.Unproven pre id phase
  /-- The end of such a cycle is in the journal. -/
  ended : ∀ r ∈ t, r.preClearSession.isSome → ¬ r.phase.Armed →
    ∃ phase how, .ends r.id phase how ∈ log

section Journals

variable {log : List RenewAct}

theorem ClearProven.append {id : RenewId} (h : ClearProven log id) (post : List RenewAct) :
    ClearProven (log ++ post) id := by
  obtain ⟨time, session, rotation, h_seen⟩ := h
  exact ⟨time, session, rotation, h_seen.append post⟩

theorem RenewAct.submitsClear_iff {id : RenewId} {a : RenewAct} :
    a.submitsClear id = true ↔ ∃ nowMs, a = .submits id .clear nowMs := by
  cases a with
  | submits id' step nowMs => cases step <;> simp [submitsClear]
  | _ => simp [submitsClear]

theorem RenewAct.recordsClear_iff {id : RenewId} {a : RenewAct} :
    a.recordsClear id = true ↔ ∃ time session rotation, a = .records id time session rotation := by
  cases a with
  | records id' time session rotation => simp [recordsClear]
  | _ => simp [recordsClear]

/-- A journal in order proceeds as promised. -/
theorem RenewsAgree.proceed {t : Table RenewRow.id} (h : RenewsAgree t log) :
    RenewsProceed log t where
  recordedOnce id := by
    refine h.due.countP_le_one fun pre a h_due h_a b h_b h_b_records => ?_
    obtain ⟨time, session, rotation, rfl⟩ := RenewAct.recordsClear_iff.mp h_a
    obtain ⟨time', session', rotation', rfl⟩ := RenewAct.recordsClear_iff.mp h_b_records
    exact h_due time' session' rotation' h_b
  submittedOnce id := by
    refine h.due.countP_le_one fun pre a h_due h_a b h_b h_b_submits => ?_
    obtain ⟨nowMs, rfl⟩ := RenewAct.submitsClear_iff.mp h_a
    obtain ⟨nowMs', rfl⟩ := RenewAct.submitsClear_iff.mp h_b_submits
    exact h_due.2 nowMs' h_b
  sentOnce id := by
    refine h.due.countP_le_one fun pre a h_due h_a b h_b h_b_sends => ?_
    obtain rfl := eq_of_beq h_a
    exact h_due.2 (eq_of_beq h_b_sends ▸ h_b)
  sent pre id step post h_eq := by
    cases step with
    | clear => exact (h.due pre _ post h_eq).1
    | inject => exact h.due pre _ post h_eq
  resumed pre id nowMs post h_eq := h.due pre _ post h_eq
  completed pre id phase post h_eq := (h.due pre _ post h_eq).1
  done r h_r h_done := by
    obtain ⟨phase, h_mem⟩ := h.completed r h_r h_done
    obtain ⟨pre, post, rfl, h_due⟩ := h.due.of_mem h_mem
    exact ClearProven.append h_due.1 _
  reportedOnce id := by
    refine h.due.countP_le_one fun pre a h_due h_a b h_b h_b_reports => ?_
    obtain rfl := eq_of_beq h_a
    exact h_due (eq_of_beq h_b_reports ▸ h_b)
  unproven pre id phase how post h_eq h_recorded h_unproven := by
    obtain ⟨h_due, h_phase⟩ := h.due pre _ post h_eq
    have h_phase := h_phase h_recorded
    cases how with
    | completed => exact absurd h_due h_unproven
    | abandoned nowMs => exact .inr ⟨h_due.1, .inr ⟨nowMs, rfl, h_due.2⟩⟩
    | aborted =>
      obtain ⟨h_clearing, h_injected, -⟩ := RenewPhase.BeforeClear.ne h_due
      exact absurd h_phase (not_or.mpr ⟨h_clearing, h_injected⟩)
    | lost => exact .inl rfl
    | cancelled => exact .inr ⟨h_phase.resolve_left h_due, .inl rfl⟩
  ended r h_r h_some h_end := by
    obtain ⟨phase, how, h_mem, -⟩ := h.ended r h_r h_some h_end
    exact ⟨phase, how, h_mem⟩

end Journals

/-- A renew clears at most once, resumes behind its barrier, and completes only on proof, wherever
    the driver fails or the daemon dies.  A cycle that ends without the proof of its clear was
    lost with its incarnation, or had injected its resume prompt and was cancelled, or abandoned
    late enough; its end is in the journal, and is reported at most once. -/
theorem renews_proceed {ok : RenewLabel → RenewWorld → Prop} {w : RenewWorld}
    (h : RenewReachable config ok w) : RenewsProceed w.journal.log w.journal.state.renews :=
  h.ordered.agree.proceed

-- ============================================================================
-- Runs
-- ============================================================================

/-- A pass that drives the one renew that is owed. -/
def passing (nowMs : Millis) : List RenewLabel :=
  [.pass nowMs (fun _ => nowMs) [], .drive (fun _ => nowMs) []]

/-- Calls of the store beside the driver. -/
def calling (calls : List Call) : List RenewLabel := calls.map .call

/-- The agent of the renew, under the session. -/
def showing (session : String) : Except HerdrError HerdrJobResult :=
  .ok (.agent
    { terminalId := "t1", paneId := "w1:p1", agentSession := some { value := some session } })

/-- A renew that its agent was told of, and that is cleared after its timeout. -/
def clearedRun : List RenewLabel :=
  calling [adopting 1 "w1:p1" "t1" "worker" "k1",
    .createRenew 10
      { logicalAgentId := 1, incarnationId := 1, requesterAgentId := 1,
        preparePrompt := "Write a checkpoint.", resumePrompt := "Continue.",
        onTimeout := .proceed, prepareTimeoutMs := 100, scheduledAtMs := 100 }] ++
    passing 100 ++
    calling (submitting 101 2 1 "r1" ++ [.acceptDelivery 102 2 1 "w1:p1" "t1" none]) ++
    passing 300 ++ passing 400 ++ passing 500 ++
    [.advance, .done 1 (showing "a") 600 (fun _ => 600) [], .opened 2 .taken,
      .done 2 (showing "a") 700 (fun _ => 700) []]

/-- The renew of such a run, after its session has rotated. -/
def renewedSessionRun : List RenewLabel :=
  clearedRun ++ passing 1000 ++
    [.advance, .done 3 (showing "b") 1100 (fun _ => 1100) [], .opened 4 .taken,
      .done 4 (showing "b") 1200 (fun _ => 1200) []] ++ passing 1300

theorem renews_proceed_renewedSessionRun :
    ∃ w, RenewReachable plainConfig (fun _ _ => True) w ∧
      (∃ r ∈ w.journal.state.renews, r.phase = .done) ∧
      RenewsProceed w.journal.log w.journal.state.renews := by
  have h : Script (RenewWorld.next plainConfig) (fun _ _ => True)
      (fun w => ∃ r ∈ w.journal.state.renews.rows, r.phase = .done) renewedSessionRun {} := by
    decide +kernel
  obtain ⟨w, h_run, h_done⟩ := h.run
  exact ⟨w, h_run, h_done, renews_proceed h_run⟩

/-- The pass after its agent is retired ends a cycle that waits for its proof. -/
theorem unproven_cycle_ends_with_its_agent :
    ∃ w, RenewReachable plainConfig (fun _ _ => True) w ∧
      ∃ pre post, w.journal.log = pre ++ .ends 1 .clearing .lost :: post ∧
        (∃ time session rotation, RecordsClear pre 1 time session rotation) ∧
        ¬ ClearProven pre 1 := by
  have h : Script (RenewWorld.next plainConfig) (fun _ _ => True)
      (fun w => w.journal.log =
        [.observes 1
            { terminalId := "t1", paneId := "w1:p1", agentSession := some { value := some "a" } },
          .records 1 600 { value := some "a" } .onClear, .submits 1 .clear 600, .sends 1 .clear,
          .ends 1 .clearing .lost])
      (clearedRun ++ [.call (.requestRetirement 800 1 "k9"), .pass 900 (fun _ => 900) []]) {} := by
    decide +kernel
  obtain ⟨w, h_run, h_log⟩ := h.run
  refine ⟨w, h_run, _, [], h_log.trans (List.append_cons [_, _, _, _] _ []).symm,
    ⟨600, { value := some "a" }, .onClear, by simp [RecordsClear]⟩, ?_⟩
  rintro ⟨time, session, rotation, before, after, h_eq, agent, h_agent, -⟩
  -- The one observation precedes the record.
  rcases before with _ | ⟨a, _ | ⟨b, before⟩⟩
  · cases h_eq
  · cases h_eq
    simp at h_agent
  · have h_rest : [.submits 1 .clear 600, .sends 1 .clear] =
        before ++ .records 1 time session rotation :: after :=
      (List.cons.inj (List.cons.inj h_eq).2).2
    have h_mem : .records 1 time session rotation ∈ before ++ _ :: after :=
      List.mem_append_right before List.mem_cons_self
    rw [← h_rest] at h_mem
    simp at h_mem

end Kelpie
