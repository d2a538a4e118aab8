/-
  Kelpie.Schedules.Waiting

  A renew that waits for the reply to its prepare ask: it waits until a transition
  of its own, and that transition settles the ask.
-/

import Kelpie.Schedules.Spares

namespace Kelpie

open Lib Lib.Tx

-- As in `Kelpie.Store.Frames`.
set_option synthInstance.maxSize 100000

variable {s s' : Store} {ask : MessageId}

-- ============================================================================
-- The cycle goes on
-- ============================================================================

/-- The obligation of `ask` is settled: cancelled, where it had not been settled before. -/
def Withdraws (ask : MessageId) (s s' : Store) : Prop :=
  ∀ o ∈ s.obligations, o.askMessageId = ask → ∃ o' ∈ s'.obligations, o'.askMessageId = ask ∧
    o'.state = if o.state.Unresolved then .cancelled else o.state

/-- The obligations stay as they are. -/
def SameObligations (s s' : Store) : Prop := s'.obligations = s.obligations

instance SameObligations.stepwise : Stepwise SameObligations where
  refl _ := rfl
  trans h h' := h'.trans h

instance : Ignores SameObligations Tab.operations := ⟨fun _ _ => rfl⟩
instance : Ignores SameObligations Tab.operatorNotices := ⟨fun _ _ => rfl⟩
instance : Ignores SameObligations Tab.messages := ⟨fun _ _ => rfl⟩
instance : Ignores SameObligations Tab.deliveries := ⟨fun _ _ => rfl⟩
instance : Ignores SameObligations Tab.obligationReminders := ⟨fun _ _ => rfl⟩
instance : Ignores SameObligations Tab.schedules := ⟨fun _ _ => rfl⟩
instance : Ignores SameObligations Tab.renews := ⟨fun _ _ => rfl⟩
instance : Ignores SameObligations Tab.scheduleFirings := ⟨fun _ _ => rfl⟩

theorem Withdraws.same {s₁ : Store} (h : Withdraws ask s s₁) (h_same : SameObligations s₁ s') :
    Withdraws ask s s' := by
  intro o h_o h_key
  obtain ⟨o', h_o', h_rest⟩ := h o h_o h_key
  exact ⟨o', h_same.symm ▸ h_o', h_rest⟩

section Withdrawal

variable {now : Millis} {id : RenewId} {reason : String} {r : RenewRow}

theorem cancelUnansweredPrepare_withdraws {cancelled : Bool}
    (h : (cancelUnansweredPrepare now id reason).run s = .ok (cancelled, s'))
    (h_r : r ∈ s.renews) (h_id : r.id = id) (h_ask : r.askMessageId = some ask) :
    Withdraws ask s s' := by
  have h_find : (s.renews.find id).bind (fun r => r.askMessageId.map fun ask => (r, ask)) =
      some (r, ask) := by
    rw [Table.find_eq_some.mpr ⟨h_r, h_id⟩, Option.bind_some, h_ask, Option.map_some]
  simp only [cancelUnansweredPrepare, run_bind_reads, h_find] at h
  obtain ⟨n, s₁, h_settle, h⟩ := run_bind_ok.mp h
  cases h
  simp only [settleObligations, run_bind_reads] at h_settle
  obtain ⟨n, s₁, h_update, h_settle⟩ := run_bind_ok.mp h_settle
  simp only [run_bind_require_ok] at h_settle
  obtain ⟨-, h_settle⟩ := h_settle
  cases h_settle
  obtain ⟨t, rfl, h_t⟩ := run_updateRows_edits (fun o o' => o'.askMessageId = o.askMessageId ∧
      (o.askMessageId = ask →
        o'.state = if o.state.Unresolved then .cancelled else o.state)) h_update
    (by
      rintro o - ⟨-, h_unresolved⟩
      exact ⟨rfl, fun _ => by simp [h_unresolved]⟩)
    (by
      rintro o - h_not
      refine ⟨rfl, fun h_key => ?_⟩
      rw [if_neg fun h_unresolved => h_not ⟨h_key, h_unresolved⟩])
  intro o h_o h_key
  obtain ⟨o', h_o', h_same, h_state⟩ := h_t.image o h_o
  exact ⟨o', h_o', h_same.trans h_key, h_state h_key⟩

theorem goesOn_withdraws {α : Type} {q : RenewRow → Prop} [DecidablePred q]
    {f : RenewRow → RenewRow} {h_key : ∀ r, (f r).id = r.id} {refusal : String}
    {rest : Bool → StoreTx α} [∀ cancelled, Keeps SameObligations (rest cancelled)] {a : α}
    (h : (do
      updateRenew id q f h_key refusal
      let cancelled ← cancelUnansweredPrepare now id reason
      rest cancelled).run s = .ok (a, s'))
    (h_f : ∀ r, (f r).askMessageId = r.askMessageId)
    (h_r : r ∈ s.renews) (h_id : r.id = id) (h_ask : r.askMessageId = some ask) :
    Withdraws ask s s' := by
  obtain ⟨_, s₁, h_update, h⟩ := run_bind_ok.mp h
  obtain ⟨_, s₂, h_cancel, h⟩ := run_bind_ok.mp h
  have h_same : SameObligations s₂ s' := Keeps.keeps h
  obtain ⟨rs, rfl, -, h_rs⟩ := updateRenew_run h_update
  obtain ⟨r₁, h_r₁, h_rr⟩ := h_rs.image r h_r
  have h_ask₁ : r₁.id = id ∧ r₁.askMessageId = some ask := by
    rcases h_rr with ⟨-, rfl⟩ | ⟨-, -, rfl⟩
    · exact ⟨h_id, h_ask⟩
    · exact ⟨(h_key r).trans h_id, (h_f r).trans h_ask⟩
  have h_cancelled : Withdraws ask { s with renews := rs } s₂ :=
    cancelUnansweredPrepare_withdraws h_cancel h_r₁ h_ask₁.1 h_ask₁.2
  exact h_cancelled.same h_same

/-- The transitions of a renew withdraw its ask. -/
theorem Call.MovesOn.withdraws {c : Call} (h_c : c.MovesOn r.id) (h : c.Step s s')
    (h_r : r ∈ s.renews) (h_ask : r.askMessageId = some ask) : Withdraws ask s s' := by
  cases c with
  | markRenewReady now id =>
    obtain ⟨_, h_run⟩ := commit_ok.mp h
    exact goesOn_withdraws h_run (fun _ => rfl) h_r h_c.symm h_ask
  | abortRenew now id reason =>
    obtain ⟨_, h_run⟩ := commit_ok.mp h
    exact goesOn_withdraws h_run (fun _ => rfl) h_r h_c.symm h_ask
  | terminateRenew now id reason =>
    obtain ⟨_, h_run⟩ := commit_ok.mp h
    exact goesOn_withdraws h_run (fun _ => rfl) h_r h_c.symm h_ask
  | terminateRenewAnnounced now id reason notice =>
    obtain ⟨_, h_run⟩ := commit_ok.mp h
    obtain ⟨_, s₁, h_end, h_notice⟩ := run_bind_ok.mp h_run
    exact (goesOn_withdraws h_end (fun _ => rfl) h_r h_c.symm h_ask).same (Keeps.keeps h_notice)
  | cancelRenew now id requester reason notice =>
    obtain ⟨_, h_run⟩ := commit_ok.mp h
    simp only [Kelpie.cancelRenew, run_bind_reads] at h_run
    obtain ⟨_, s₁, h_end, h_notice⟩ := run_bind_ok.mp h_run
    exact (goesOn_withdraws h_end (fun _ => rfl) h_r h_c.symm h_ask).same (Keeps.keeps h_notice)
  | _ => exact h_c.elim

end Withdrawal

-- ============================================================================
-- Cycles that wait
-- ============================================================================

/-- The renew waits for the reply to its prepare ask. -/
def RenewRow.Awaiting (r : RenewRow) : Prop := r.phase = .preparing ∨ r.phase = .timedOut

instance : DecidablePred RenewRow.Awaiting := fun r =>
  inferInstanceAs (Decidable (r.phase = .preparing ∨ r.phase = .timedOut))

/-- The renew `id` goes on waiting if it does. -/
def StaysAwaiting (id : RenewId) (s s' : Store) : Prop :=
  (∃ r ∈ s.renews, r.id = id ∧ r.Awaiting) → ∃ r ∈ s'.renews, r.id = id ∧ r.Awaiting

section Awaiting

variable {id : RenewId}

instance StaysAwaiting.stepwise : Stepwise (StaysAwaiting id) where
  refl _ h := h
  trans h h' := h' ∘ h

theorem StaysAwaiting.of_same (h : s'.renews = s.renews) : StaysAwaiting id s s' := by
  unfold StaysAwaiting
  rw [h]
  exact fun h => h

instance : Ignores (StaysAwaiting id) Tab.logicalAgents := ⟨fun _ _ => .of_same rfl⟩
instance : Ignores (StaysAwaiting id) Tab.incarnations := ⟨fun _ _ => .of_same rfl⟩
instance : Ignores (StaysAwaiting id) Tab.operations := ⟨fun _ _ => .of_same rfl⟩
instance : Ignores (StaysAwaiting id) Tab.operationAttempts := ⟨fun _ _ => .of_same rfl⟩
instance : Ignores (StaysAwaiting id) Tab.operatorNotices := ⟨fun _ _ => .of_same rfl⟩
instance : Ignores (StaysAwaiting id) Tab.messages := ⟨fun _ _ => .of_same rfl⟩
instance : Ignores (StaysAwaiting id) Tab.obligations := ⟨fun _ _ => .of_same rfl⟩
instance : Ignores (StaysAwaiting id) Tab.deliveries := ⟨fun _ _ => .of_same rfl⟩
instance : Ignores (StaysAwaiting id) Tab.obligationReminders := ⟨fun _ _ => .of_same rfl⟩
instance : Ignores (StaysAwaiting id) Tab.reminderAttempts := ⟨fun _ _ => .of_same rfl⟩
instance : Ignores (StaysAwaiting id) Tab.renewAttempts := ⟨fun _ _ => .of_same rfl⟩
instance : Ignores (StaysAwaiting id) Tab.schedules := ⟨fun _ _ => .of_same rfl⟩
instance : Ignores (StaysAwaiting id) Tab.scheduleFirings := ⟨fun _ _ => .of_same rfl⟩
instance : Ignores (StaysAwaiting id) Tab.socketWaiterKeys := ⟨fun _ _ => .of_same rfl⟩
instance : Ignores (StaysAwaiting id) Tab.socketInboxKeys := ⟨fun _ _ => .of_same rfl⟩
instance : Ignores (StaysAwaiting id) Tab.askPullLeases := ⟨fun _ _ => .of_same rfl⟩
instance : Ignores (StaysAwaiting id) Tab.askPullKeys := ⟨fun _ _ => .of_same rfl⟩
instance : IgnoresCounters (StaysAwaiting id) :=
  ⟨fun _ _ => .of_same rfl, fun _ _ => .of_same rfl, fun _ _ => .of_same rfl⟩

theorem staysAwaiting_updateRows {q : RenewRow → Prop} [DecidablePred q]
    {f : RenewRow → RenewRow} {h_key : ∀ r, (f r).id = r.id}
    (h_f : ∀ r, q r → r.id = id → r.Awaiting → (f r).Awaiting) :
    Keeps (StaysAwaiting id) (updateRows Tab.renews q f h_key : StoreTx Nat) where
  keeps {s n s'} h := by
    obtain ⟨rs, rfl, h_rs⟩ := run_updateRows_edits
      (fun r r' => r'.id = r.id ∧ (r.id = id → r.Awaiting → r'.Awaiting)) h
      (fun r _ h_q => ⟨h_key r, h_f r h_q⟩) fun _ _ _ => ⟨rfl, fun _ h => h⟩
    rintro ⟨r, h_r, h_id, h_awaiting⟩
    obtain ⟨r', h_r', h_same, h_stays⟩ := h_rs.image r h_r
    exact ⟨r', h_r', h_same.trans h_id, h_stays h_id h_awaiting⟩

theorem staysAwaiting_updateRenew {renew : RenewId} {q : RenewRow → Prop} [DecidablePred q]
    {f : RenewRow → RenewRow} {h_key : ∀ r, (f r).id = r.id} {refusal : String}
    (h_f : ∀ r, r.id = renew → q r → r.id = id → r.Awaiting → (f r).Awaiting) :
    Keeps (StaysAwaiting id) (updateRenew renew q f h_key refusal) := by
  have h_update : Keeps (StaysAwaiting id)
      (updateRows Tab.renews (fun r => r.id = renew ∧ q r) f h_key : StoreTx Nat) :=
    staysAwaiting_updateRows fun r h_q => h_f r h_q.1 h_q.2
  unfold updateRenew
  infer_instance

instance {row h_key} : Keeps (StaysAwaiting id) (insertRenew row h_key) where
  keeps {s n s'} h := by
    obtain ⟨rs, rfl, h_rs, -⟩ := insertRenew_run h
    rintro ⟨r, h_r, h_rest⟩
    exact ⟨r, (h_rs.mem r).mpr (.inl h_r), h_rest⟩

instance {now renew outcome} : Keeps (StaysAwaiting id) (armNextRenewCycle now renew outcome) where
  keeps {s a s'} h := by
    simp only [armNextRenewCycle, run_bind_reads] at h
    split at h <;> exact Keeps.keeps h

instance {now intent} : Keeps (StaysAwaiting id) (createRenew now intent) := by
  unfold createRenew
  cases intent.everyMs <;> infer_instance

instance {renew accumulating nowMs} :
    Keeps (StaysAwaiting id) (accrueRenewOccupancy renew accumulating nowMs) := by
  have h_sample {q : RenewRow → Prop} [DecidablePred q] {remaining : Option Millis}
      {dueAt : RenewRow → Millis} {h_key} : Keeps (StaysAwaiting id) (updateRows Tab.renews q
        (fun r => { r with
          activeRemainingMs := remaining, occupancySampledAtMs := some nowMs,
          scheduledAtMs := dueAt r }) h_key : StoreTx Nat) :=
    staysAwaiting_updateRows fun _ _ _ h => h
  unfold accrueRenewOccupancy
  infer_instance

instance {renew nowMs} : Keeps (StaysAwaiting id) (claimRenewClearStallNotice renew nowMs) := by
  have h_notified {q : RenewRow → Prop} [DecidablePred q] {h_key} :
      Keeps (StaysAwaiting id) (updateRows Tab.renews q
        (fun r => { r with clearStallNotifiedAtMs := some nowMs }) h_key : StoreTx Nat) :=
    staysAwaiting_updateRows fun _ _ _ h => h
  unfold claimRenewClearStallNotice
  infer_instance

/-- A phase that no waiting renew is in. -/
theorem RenewRow.Awaiting.absurd {r : RenewRow} {phase : RenewPhase} {P : Prop}
    (h : r.Awaiting) (h_phase : r.phase = phase)
    (h_not : phase ≠ .preparing ∧ phase ≠ .timedOut) : P := by
  rcases h with h | h
  · exact (h_not.1 (h_phase.symm.trans h)).elim
  · exact (h_not.2 (h_phase.symm.trans h)).elim

instance {renew ask deadline} :
    Keeps (StaysAwaiting id) (markRenewPreparing renew ask deadline) := by
  have h_update {f : RenewRow → RenewRow} {h_key refusal} : Keeps (StaysAwaiting id)
      (updateRenew renew (·.phase = .scheduled) f h_key refusal) :=
    staysAwaiting_updateRenew fun _ _ h_phase _ h => h.absurd h_phase (by decide)
  unfold markRenewPreparing
  infer_instance

instance {renew session deadline notBefore} :
    Keeps (StaysAwaiting id) (markRenewClearing renew session deadline notBefore) :=
  staysAwaiting_updateRenew fun _ _ h_phase _ h => h.absurd h_phase (by decide)

instance {renew} : Keeps (StaysAwaiting id) (markRenewInjected renew) :=
  staysAwaiting_updateRenew fun _ _ h_phase _ h => h.absurd h_phase (by decide)

instance {renew} : Keeps (StaysAwaiting id) (markRenewTimedOut renew) :=
  staysAwaiting_updateRenew fun _ _ _ _ _ => .inr rfl

instance {now renew} : Keeps (StaysAwaiting id) (completeRenew now renew) := by
  have h_update {f : RenewRow → RenewRow} {h_key refusal} : Keeps (StaysAwaiting id)
      (updateRenew renew (·.phase = .injected) f h_key refusal) :=
    staysAwaiting_updateRenew fun _ _ h_phase _ h => h.absurd h_phase (by decide)
  unfold completeRenew
  infer_instance

instance {now renew reason} : Keeps (StaysAwaiting id) (abandonRenewProof now renew reason) := by
  have h_update {f : RenewRow → RenewRow} {h_key refusal} : Keeps (StaysAwaiting id)
      (updateRenew renew (·.phase = .injected) f h_key refusal) :=
    staysAwaiting_updateRenew fun _ _ h_phase _ h => h.absurd h_phase (by decide)
  unfold abandonRenewProof
  infer_instance

section Others

variable {now : Millis} {renew : RenewId} {reason : String}

theorem staysAwaiting_other {q : RenewRow → Prop} [DecidablePred q] {f : RenewRow → RenewRow}
    {h_key : ∀ r, (f r).id = r.id} {refusal : String} (h_ne : renew ≠ id) :
    Keeps (StaysAwaiting id) (updateRenew renew q f h_key refusal) :=
  staysAwaiting_updateRenew fun _ h_renew _ h_id _ => absurd (h_renew.symm.trans h_id) h_ne

theorem staysAwaiting_endRenew {q : RenewRow → Prop} [DecidablePred q] {refusal : String}
    {state : ScheduleState} (h_ne : renew ≠ id) :
    Keeps (StaysAwaiting id) (endRenew now renew q reason refusal state) := by
  have h_update {f : RenewRow → RenewRow} {h_key} : Keeps (StaysAwaiting id)
      (updateRenew renew q f h_key refusal) := staysAwaiting_other h_ne
  unfold endRenew
  infer_instance

/-- A renew goes on waiting until a transition of its own. -/
theorem Call.staysAwaiting (c : Call) (h : c.Step s s') (h_c : ¬ c.MovesOn id) :
    StaysAwaiting id s s' := by
  cases c with
  | markRenewReady now renew =>
    have h_update {q : RenewRow → Prop} [DecidablePred q] {f h_key refusal} :
        Keeps (StaysAwaiting id) (updateRenew renew q f h_key refusal) :=
      staysAwaiting_other h_c
    have h_ready : Keeps (StaysAwaiting id) (Kelpie.markRenewReady now renew) := by
      unfold Kelpie.markRenewReady
      infer_instance
    exact h_ready.commit h
  | abortRenew now renew reason =>
    have h_update {q : RenewRow → Prop} [DecidablePred q] {f h_key refusal} :
        Keeps (StaysAwaiting id) (updateRenew renew q f h_key refusal) :=
      staysAwaiting_other h_c
    have h_abort : Keeps (StaysAwaiting id) (Kelpie.abortRenew now renew reason) := by
      unfold Kelpie.abortRenew
      infer_instance
    exact h_abort.commit h
  | terminateRenew now renew reason => exact (staysAwaiting_endRenew h_c).commit h
  | terminateRenewAnnounced now renew reason notice =>
    have h_end : Keeps (StaysAwaiting id) (Kelpie.terminateRenew now renew reason) :=
      staysAwaiting_endRenew h_c
    have h_announced : Keeps (StaysAwaiting id)
        (Kelpie.terminateRenewAnnounced now renew reason notice) := by
      unfold Kelpie.terminateRenewAnnounced
      infer_instance
    exact h_announced.commit h
  | cancelRenew now renew requester reason notice =>
    have h_end {q : RenewRow → Prop} [DecidablePred q] {refusal state} :
        Keeps (StaysAwaiting id) (endRenew now renew q reason refusal state) :=
      staysAwaiting_endRenew h_c
    have h_cancel : Keeps (StaysAwaiting id)
        (Kelpie.cancelRenew now renew requester reason notice) := by
      unfold Kelpie.cancelRenew
      infer_instance
    exact h_cancel.commit h
  | _ => exact Keeps.commit h

end Others

end Awaiting

end Kelpie
