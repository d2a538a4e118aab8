/-
  Kelpie.Ledger.Spares

  The calls that close the obligation of one ask leave the others as they are, and
  the guard of a prepare ask makes every cancel such a call.
-/

import Kelpie.Store.Frames

namespace Kelpie

open Lib Lib.Tx

-- As in `Kelpie.Store.Frames`.
set_option synthInstance.maxSize 100000

variable {s s' : Store} {p : ObligationState → Prop} {ask : MessageId}

-- ============================================================================
-- Spared obligations
-- ============================================================================

/-- The obligation of `ask` is in a state that meets `p` only if it was in it before. -/
def Spares (p : ObligationState → Prop) (ask : MessageId) (s s' : Store) : Prop :=
  ∀ o' ∈ s'.obligations, o'.askMessageId = ask → p o'.state →
    ∃ o ∈ s.obligations, o.askMessageId = ask ∧ o.state = o'.state

instance Spares.stepwise : Stepwise (Spares p ask) where
  refl _ o h_o h_ask _ := ⟨o, h_o, h_ask, rfl⟩
  trans h h' o'' h_o'' h_ask'' h_p'' := by
    obtain ⟨o', h_o', h_ask', h_state'⟩ := h' o'' h_o'' h_ask'' h_p''
    obtain ⟨o, h_o, h_ask, h_state⟩ := h o' h_o' h_ask' (h_state' ▸ h_p'')
    exact ⟨o, h_o, h_ask, h_state.trans h_state'⟩

theorem Spares.of_same (h : s'.obligations = s.obligations) : Spares p ask s s' :=
  fun o h_o h_ask _ => ⟨o, h ▸ h_o, h_ask, rfl⟩

instance : Ignores (Spares p ask) Tab.logicalAgents := ⟨fun _ _ => .of_same rfl⟩
instance : Ignores (Spares p ask) Tab.incarnations := ⟨fun _ _ => .of_same rfl⟩
instance : Ignores (Spares p ask) Tab.operations := ⟨fun _ _ => .of_same rfl⟩
instance : Ignores (Spares p ask) Tab.operationAttempts := ⟨fun _ _ => .of_same rfl⟩
instance : Ignores (Spares p ask) Tab.operatorNotices := ⟨fun _ _ => .of_same rfl⟩
instance : Ignores (Spares p ask) Tab.messages := ⟨fun _ _ => .of_same rfl⟩
instance : Ignores (Spares p ask) Tab.deliveries := ⟨fun _ _ => .of_same rfl⟩
instance : Ignores (Spares p ask) Tab.obligationReminders := ⟨fun _ _ => .of_same rfl⟩
instance : Ignores (Spares p ask) Tab.reminderAttempts := ⟨fun _ _ => .of_same rfl⟩
instance : Ignores (Spares p ask) Tab.renewAttempts := ⟨fun _ _ => .of_same rfl⟩
instance : Ignores (Spares p ask) Tab.schedules := ⟨fun _ _ => .of_same rfl⟩
instance : Ignores (Spares p ask) Tab.renews := ⟨fun _ _ => .of_same rfl⟩
instance : Ignores (Spares p ask) Tab.scheduleFirings := ⟨fun _ _ => .of_same rfl⟩
instance : Ignores (Spares p ask) Tab.socketWaiterKeys := ⟨fun _ _ => .of_same rfl⟩
instance : Ignores (Spares p ask) Tab.socketInboxKeys := ⟨fun _ _ => .of_same rfl⟩
instance : Ignores (Spares p ask) Tab.askPullLeases := ⟨fun _ _ => .of_same rfl⟩
instance : Ignores (Spares p ask) Tab.askPullKeys := ⟨fun _ _ => .of_same rfl⟩
instance : IgnoresCounters (Spares p ask) :=
  ⟨fun _ _ => .of_same rfl, fun _ _ => .of_same rfl, fun _ _ => .of_same rfl⟩

-- ============================================================================
-- Statements
-- ============================================================================

/-- An update spares what it does not reach, and what it leaves in its state. -/
theorem spares_updateRows {q : ObligationRow → Prop} [DecidablePred q]
    {f : ObligationRow → ObligationRow} {h : ∀ o, (f o).askMessageId = o.askMessageId}
    (h_f : ∀ o, q o → o.askMessageId = ask → (f o).state = o.state ∨ ¬ p (f o).state) :
    Keeps (Spares p ask) (updateRows Tab.obligations q f h : StoreTx Nat) := by
  refine .updateRows fun s => ?_
  intro o' h_o' h_ask h_p
  have h_mem : o' ∈ (Tab.obligations.get s).update q f h := h_o'
  rcases Table.mem_update_cases h_mem with ⟨h_o, -⟩ | ⟨o, h_o, h_q, rfl⟩
  · exact ⟨o', h_o, h_ask, rfl⟩
  · rw [h o] at h_ask
    rcases h_f o h_q h_ask with h_same | h_not
    · exact ⟨o, h_o, h_ask, h_same.symm⟩
    · exact absurd h_p h_not

/-- The settlement of other asks, or into a state that is not asked about. -/
theorem spares_settleObligations {now : Millis} {q : ObligationRow → Prop} [DecidablePred q]
    {state : ObligationState} {requester : Option LogicalAgentId} {reason : String}
    (h_q : ∀ o, q o → o.askMessageId = ask → ¬ p state) :
    Keeps (Spares p ask) (settleObligations now q state requester reason) := by
  have h_update {h_key} : Keeps (Spares p ask) (updateRows Tab.obligations
      (fun o => q o ∧ o.state.Unresolved)
      (fun o => { o with
        state, lastActivityAtMs := now, cancellationRequesterAgentId := requester,
        cancellationReason := some reason }) h_key : StoreTx Nat) :=
    spares_updateRows fun o h_o h_ask => .inr (h_q o h_o.1 h_ask)
  unfold settleObligations
  infer_instance

instance spares_annotate {q : ObligationRow → Prop} [DecidablePred q]
    {response owing : Option MessageId} {h_key} :
    Keeps (Spares p ask) (updateRows Tab.obligations q
      (fun o => { o with
        cancellationResponseMessageId := response, cancellationOwingMessageId := owing })
      h_key : StoreTx Nat) :=
  spares_updateRows fun _ _ _ => .inl rfl

theorem spares_observeAskAvailability {nowMs : Millis} :
    Keeps (Spares p ask) (observeAskAvailability nowMs) := by
  have h_clock {q : ObligationRow → Prop} [DecidablePred q] {h_key} :
      Keeps (Spares p ask) (updateRows Tab.obligations q
        (fun o => { o with
          unavailableSinceMs := if o.unavailableSinceMs.isSome then none else some nowMs })
        h_key : StoreTx Nat) :=
    spares_updateRows fun _ _ _ => .inl rfl
  unfold observeAskAvailability
  infer_instance

instance spares_recordCancellation {now obligation reason body owingBody due owingDue} :
    Keeps (Spares p ask)
      (recordCancellation now obligation reason body owingBody due owingDue) := by
  unfold recordCancellation
  infer_instance

-- ============================================================================
-- Cancellations of other asks
-- ============================================================================

section Cancellations

variable {now : Millis} {requester : LogicalAgentId} {other : MessageId} {reason : String}

theorem spares_cancelObligation (h_ne : other ≠ ask) :
    Keeps (Spares p ask) (cancelObligation now requester other reason) := by
  have h_settle {state requester} : Keeps (Spares p ask) (settleObligations now
      (fun o => o.askMessageId = other) state requester reason) :=
    spares_settleObligations fun o h_o h_ask => absurd (h_o.symm.trans h_ask) h_ne
  unfold cancelObligation
  infer_instance

theorem spares_cancelWithResponse {body owingBody : String} {due owingDue : Option Millis}
    (h_ne : other ≠ ask) :
    Keeps (Spares p ask)
      (cancelWithResponse now requester other reason body owingBody due owingDue) := by
  have h_settle {state requester} : Keeps (Spares p ask) (settleObligations now
      (fun o => o.askMessageId = other) state requester reason) :=
    spares_settleObligations fun o h_o h_ask => absurd (h_o.symm.trans h_ask) h_ne
  unfold cancelWithResponse
  infer_instance

theorem spares_endAsk {waiter : LogicalAgentId} {name : String} {due : Option Millis}
    {o : ObligationRow} (h_ne : o.askMessageId ≠ ask) :
    Keeps (Spares p ask) (endAsk now waiter name reason due o) := by
  have h_settle {state requester} : Keeps (Spares p ask) (settleObligations now
      (fun o' => o'.askMessageId = o.askMessageId ∧ o'.waitingAgentId = waiter) state requester
      reason) :=
    spares_settleObligations fun o' h_o' h_ask => absurd (h_o'.1.symm.trans h_ask) h_ne
  have h_supersede : Keeps (Spares p ask)
      (supersedeUnsubmittedAskDelivery now o.askMessageId waiter reason) := by
    constructor
    intro s a s' h
    simp only [supersedeUnsubmittedAskDelivery, run_bind_reads] at h
    split at h
    · exact Keeps.keeps h
    · split at h <;> exact Keeps.keeps h
  unfold endAsk
  infer_instance

theorem spares_cancelQueuedDelivery (h_ne : other ≠ ask) :
    Keeps (Spares p ask) (cancelQueuedDelivery now requester other reason) := by
  have h_settle {state requester} : Keeps (Spares p ask) (settleObligations now
      (fun o => o.askMessageId = other) state requester reason) :=
    spares_settleObligations fun o h_o h_ask => absurd (h_o.symm.trans h_ask) h_ne
  constructor
  intro s a s' h
  simp only [cancelQueuedDelivery, run_bind_reads, run_bind_require_ok] at h
  obtain ⟨-, h⟩ := h
  split at h <;> exact Keeps.keeps h

theorem spares_orphanAsk (h_ne : other ≠ ask) :
    Keeps (Spares p ask) (orphanAsk now other) := by
  have h_settle {state requester reason} : Keeps (Spares p ask) (settleObligations now
      (fun o => o.askMessageId = other) state requester reason) :=
    spares_settleObligations fun o h_o h_ask => absurd (h_o.symm.trans h_ask) h_ne
  constructor
  intro s a s' h
  simp only [orphanAsk, run_bind_reads, run_bind_query_ok] at h
  obtain ⟨-, -, h⟩ := h
  split at h <;> exact Keeps.keeps h

theorem requireActiveSocketWaiter_ok {agent : LogicalAgentId} {u : Unit}
    (h : requireActiveSocketWaiter agent s = .ok u) :
    ∃ l ∈ s.logicalAgents, l.id = agent ∧ l.ActiveWaiter := by
  unfold requireActiveSocketWaiter at h
  split at h
  · cases h
  · rename_i l h_find
    obtain ⟨h_l, h_id⟩ := Table.find_eq_some.mp h_find
    split at h
    · rename_i h_active
      exact ⟨l, h_l, h_id, h_active⟩
    · cases h

/-- The end of a waiter closes what that waiter waits on. -/
theorem endSocketWaiter_spares {agent : LogicalAgentId} {due : MessageId → Option Millis}
    {res : EndedWaiter}
    (h : (endSocketWaiterWithOwingDue now agent due reason).run s = .ok (res, s'))
    (h_o : ∀ o ∈ s.obligations, o.askMessageId = ask → o.waitingAgentId ≠ agent) :
    Spares p ask s s' := by
  simp only [endSocketWaiterWithOwingDue, run_bind_query_ok, run_bind_reads] at h
  obtain ⟨-, -, h⟩ := h
  have h_asks : ∀ o ∈ s.unresolvedAsksWaitingOn agent, o.askMessageId ≠ ask := by
    intro o h_mem h_ask
    simp only [Store.unresolvedAsksWaitingOn, List.mem_insertionSort, List.mem_filter,
      decide_eq_true_eq] at h_mem
    exact h_o o h_mem.1 h_ask h_mem.2.1
  obtain ⟨_, s₁, h_end, h⟩ := run_bind_ok.mp h
  simp only [run_bind_require_ok] at h
  obtain ⟨-, h⟩ := h
  obtain ⟨_, s₂, h_close, h⟩ := run_bind_ok.mp h
  have h_ended : Spares p ask s s₁ := Keeps.keeps h_end
  have h_closed : Spares p ask s₁ s₂ :=
    (Keeps.forEach_mem fun o h_mem => spares_endAsk (h_asks o h_mem)).keeps h_close
  exact Spares.stepwise.trans (Spares.stepwise.trans h_ended h_closed) (Keeps.keeps h)

end Cancellations

-- ============================================================================
-- The guard of a prepare ask
-- ============================================================================

section Guards

variable {now : Millis} {requester : LogicalAgentId} {other : MessageId} {reason : String}

theorem refuseRenewPrepareAskCancel_ne (h : refuseRenewPrepareAskCancel other s = .ok ())
    (h_ask : s.PrepareAsk ask) : other ≠ ask := by
  rintro rfl
  obtain ⟨r, h_r, h_asked, h_armed⟩ := h_ask
  unfold refuseRenewPrepareAskCancel at h
  split at h
  · cases h
  · rename_i h_none
    rw [List.find?_eq_none] at h_none
    exact h_none r h_r (by simp [h_asked, h_armed])

theorem cancellableObligation_ne {o : ObligationRow}
    (h : cancellableObligation other s = .ok o) (h_ask : s.PrepareAsk ask) : other ≠ ask := by
  unfold cancellableObligation at h
  split at h
  · cases h
  · split at h
    · cases h_refuse : refuseRenewPrepareAskCancel other s with
      | error e =>
        rw [h_refuse] at h
        cases h
      | ok u => exact refuseRenewPrepareAskCancel_ne h_refuse h_ask
    · cases h

theorem cancelObligation_spares {u : Unit}
    (h : (cancelObligation now requester other reason).run s = .ok (u, s'))
    (h_ask : s.PrepareAsk ask) : Spares p ask s s' := by
  have h_run := h
  simp only [cancelObligation, run_bind_require_ok, run_bind_query_ok] at h
  obtain ⟨-, o, h_cancellable, -⟩ := h
  exact (spares_cancelObligation (cancellableObligation_ne h_cancellable h_ask)).keeps h_run

theorem cancelWithResponse_spares {body owingBody : String} {due owingDue : Option Millis}
    {res : CreatedCancellation}
    (h : (cancelWithResponse now requester other reason body owingBody due owingDue).run s =
      .ok (res, s')) (h_ask : s.PrepareAsk ask) : Spares p ask s s' := by
  have h_run := h
  simp only [cancelWithResponse, run_bind_require_ok, run_bind_query_ok] at h
  obtain ⟨-, o, h_cancellable, -⟩ := h
  exact (spares_cancelWithResponse (cancellableObligation_ne h_cancellable h_ask)).keeps h_run

theorem cancelQueuedDelivery_spares {cancelled : Bool}
    (h : (cancelQueuedDelivery now requester other reason).run s = .ok (cancelled, s'))
    (h_ask : s.PrepareAsk ask) : Spares p ask s s' := by
  have h_run := h
  simp only [cancelQueuedDelivery, run_bind_reads, run_bind_require_ok] at h
  obtain ⟨-, h⟩ := h
  split at h
  · rename_i m d h_m h_d
    simp only [run_bind_orFail_ok] at h
    obtain ⟨op, -, h⟩ := h
    split at h
    · exact Keeps.keeps h
    · simp only [run_bind_require_ok, run_bind_query_ok] at h
      obtain ⟨-, -, _, h_refuse, -, h⟩ := h
      split at h_refuse
      · exact (spares_cancelQueuedDelivery
          (refuseRenewPrepareAskCancel_ne h_refuse h_ask)).keeps h_run
      · -- Only the delivery of a tell or of a reply is superseded.
        rename_i h_kind
        simp only [h_kind, if_false] at h
        exact Keeps.keeps h
  · exact Keeps.keeps h

theorem orphanAsk_spares {res : Option CreatedCancellation}
    (h : (orphanAsk now other).run s = .ok (res, s')) (h_ask : s.PrepareAsk ask) :
    Spares p ask s s' := by
  have h_run := h
  simp only [orphanAsk, run_bind_reads, run_bind_query_ok] at h
  obtain ⟨_, h_refuse, h⟩ := h
  split at h
  · exact Keeps.keeps h
  · rename_i o h_orphanable
    simp only [Store.orphanable, Option.filter_eq_some_iff, decide_eq_true_eq] at h_orphanable
    obtain ⟨h_find, h_unresolved, -⟩ := h_orphanable
    rw [if_pos ⟨o, h_find, h_unresolved⟩] at h_refuse
    exact (spares_orphanAsk (refuseRenewPrepareAskCancel_ne h_refuse h_ask)).keeps h_run

end Guards

end Kelpie
