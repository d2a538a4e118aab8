/-
  Kelpie.Ledger.Settlement

  The accounts of the calls that end an obligation without a reply: cancels with
  their notices, cancels before the first write, orphaned asks, and the end of a
  socket waiter.
-/

import Kelpie.Ledger.Mail

namespace Kelpie

open Lib Lib.Tx Ledger

variable {strict : Prop} {s s' : Store}

-- ============================================================================
-- Settled obligations
-- ============================================================================

theorem keeps_settleObligations {now : Millis} {p : ObligationRow → Prop} [DecidablePred p]
    {state : ObligationState} {requester : Option LogicalAgentId} {reason : String}
    (h_state : state = .cancelled ∨ state = .orphaned) :
    Keeps (Accounted strict) (settleObligations now p state requester reason) := by
  have h_update {h_key} : Keeps (Accounted strict) (updateRows Tab.obligations
      (fun o => p o ∧ o.state.Unresolved)
      (fun o => { o with
        state, lastActivityAtMs := now, cancellationRequesterAgentId := requester,
        cancellationReason := some reason }) h_key : StoreTx Nat) :=
    keeps_updateObligations fun o h => ⟨⟨rfl, rfl, rfl⟩, rfl, .inr ⟨h.2, h_state⟩⟩
  unfold settleObligations
  infer_instance

instance {now p requester reason} [DecidablePred p] :
    Keeps (Accounted strict) (settleObligations now p .cancelled requester reason) :=
  keeps_settleObligations (.inl rfl)

instance {now p requester reason} [DecidablePred p] :
    Keeps (Accounted strict) (settleObligations now p .orphaned requester reason) :=
  keeps_settleObligations (.inr rfl)

instance {now requester ask reason} :
    Keeps (Accounted strict) (cancelObligation now requester ask reason) := by
  unfold cancelObligation
  infer_instance

instance {now renew reason} :
    Keeps (Accounted strict) (cancelUnansweredPrepare now renew reason) where
  keeps {s a s'} h := by
    simp only [cancelUnansweredPrepare, run_bind_reads] at h
    split at h
    · cases h
      exact .refl
    · obtain ⟨_, s₁, h_settle, h⟩ := run_bind_ok.mp h
      cases h
      exact Keeps.keeps h_settle

-- ============================================================================
-- Notices
-- ============================================================================

/-- One side's notice is one posting, whatever receive path that side has. -/
instance {now recipient ask reason body audience due ambiguous} : Keeps (Accounted strict)
    (recordCancellationSide now recipient ask reason body audience due ambiguous) where
  keeps {s a s'} h := by
    unfold recordCancellationSide at h
    obtain ⟨id, s₁, h_m, h⟩ := run_bind_ok.mp h
    obtain ⟨_, s₂, h_deliver, h⟩ := run_bind_ok.mp h
    cases h
    simp only [deliverCancellation, run_bind_query_ok] at h_deliver
    obtain ⟨identity, -, replyDelivery, -, h⟩ := h_deliver
    split at h
    · obtain ⟨_, s₃, h_q, h⟩ := run_bind_ok.mp h
      cases h
      obtain ⟨p, -, -, h_posts⟩ := posts_sink h_m h_q (by decide) (by simp)
      exact h_posts.accounted
    split at h
    · split at h
      · obtain ⟨_, s₃, h_q, h⟩ := run_bind_ok.mp h
        cases h
        obtain ⟨p, -, -, h_posts⟩ := posts_sink h_m h_q (by decide) (by simp)
        exact h_posts.accounted
      · cases h
        obtain ⟨p, h_posts⟩ := posts_message h_m (by decide)
        exact h_posts.accounted
    · simp only [run_bind_require_ok, run_bind_query_ok] at h
      obtain ⟨-, ready, -, h⟩ := h
      cases ready with
      | none =>
        cases h
        obtain ⟨p, h_posts⟩ := posts_message h_m (by decide)
        exact h_posts.accounted
      | some incarnation =>
        obtain ⟨op, s₃, h_p, h⟩ := run_bind_ok.mp h
        cases h
        obtain ⟨p, -, -, h_posts⟩ := posts_prompt h_m h_p rfl (by split <;> simp) (by simp)
        exact h_posts.accounted

theorem keeps_annotateObligations {p : ObligationRow → Prop} [DecidablePred p]
    {response owing : Option MessageId} {h_key} :
    Keeps (Accounted strict) (updateRows Tab.obligations p
      (fun o => { o with
        cancellationResponseMessageId := response, cancellationOwingMessageId := owing })
      h_key : StoreTx Nat) :=
  keeps_updateObligations fun _ _ => ⟨⟨rfl, rfl, rfl⟩, rfl, .inl rfl⟩

instance {now obligation reason body owingBody due owingDue} : Keeps (Accounted strict)
    (recordCancellation now obligation reason body owingBody due owingDue) where
  keeps {s a s'} h := by
    unfold recordCancellation at h
    obtain ⟨_, s₁, h_waiting, h⟩ := run_bind_ok.mp h
    obtain ⟨_, s₂, h_owing, h⟩ := run_bind_ok.mp h
    obtain ⟨_, s₃, h_link, h⟩ := run_bind_ok.mp h
    cases h
    have h_both : Accounted strict s s₂ :=
      Accounted.stepwise.trans (Keeps.keeps h_waiting) (Keeps.keeps h_owing)
    exact h_both.trans (keeps_annotateObligations.keeps h_link)

instance {now requester ask reason body owingBody due owingDue} : Keeps (Accounted strict)
    (cancelWithResponse now requester ask reason body owingBody due owingDue) := by
  unfold cancelWithResponse
  infer_instance

-- ============================================================================
-- Cancellation before the first write
-- ============================================================================

/-- A queued delivery and its operation are superseded in one effect. -/
theorem supersedeQueued_accounted {now : Millis} {id : OperationId}
    {requester : LogicalAgentId} {reason : String} {n : Nat × Nat}
    (h : (supersedeQueued now id requester reason).run s = .ok (n, s'))
    (h_queued : ∃ d ∈ s.deliveries, d.operationId = some id ∧ d.outcome = .queued) :
    Accounted strict s s' := by
  simp only [supersedeQueued, run_bind_reads, run_bind_require_ok] at h
  obtain ⟨-, h⟩ := h
  obtain ⟨_, s₁, h_deliver, h⟩ := run_bind_ok.mp h
  obtain ⟨_, s₂, h_op, h⟩ := run_bind_ok.mp h
  cases h
  obtain ⟨ds, rfl, h_ds⟩ := run_updateRows_edits (DeliverySuperseded id) h_deliver
    (fun d _ h_d => .inr ⟨h_d.1, h_d.2, ⟨rfl, rfl, rfl, rfl, rfl, rfl⟩, rfl⟩)
    fun d _ h_not => .inl ⟨h_not, rfl⟩
  obtain ⟨os, rfl, h_os⟩ := run_updateRows_edits (OperationSuperseded id) h_op
    (fun o _ h_o => .inr ⟨h_o.1, h_o.2, ⟨rfl, rfl, rfl⟩, rfl⟩)
    fun o _ h_not => .inl ⟨h_not, rfl⟩
  exact .single (.supersede h_queued h_os h_ds)

instance {now requester message reason} :
    Keeps (Accounted strict) (cancelQueuedDelivery now requester message reason) where
  keeps {s a s'} h := by
    simp only [cancelQueuedDelivery, run_bind_require_ok, run_bind_reads] at h
    obtain ⟨-, h⟩ := h
    split at h
    · rename_i m d h_m h_d
      simp only [run_bind_orFail_ok] at h
      obtain ⟨id, h_id, h⟩ := h
      split at h
      · cases h
        exact .refl
      · rename_i h_queued
        simp only [run_bind_require_ok, run_bind_query_ok] at h
        obtain ⟨-, -, _, -, -, h⟩ := h
        obtain ⟨_, s₁, h_supersede, h⟩ := run_bind_ok.mp h
        simp only [run_bind_require_ok] at h
        obtain ⟨-, -, h⟩ := h
        have h_mem : d ∈ s.deliveries := List.mem_of_find?_eq_some h_d
        refine Accounted.stepwise.trans (supersedeQueued_accounted h_supersede
          ⟨d, h_mem, h_id, Classical.not_not.mp h_queued⟩) ?_
        split at h
        · obtain ⟨_, s₂, h_settle, h⟩ := run_bind_ok.mp h
          simp only [run_bind_require_ok] at h
          obtain ⟨-, h⟩ := h
          cases h
          exact Keeps.keeps h_settle
        · cases h
          exact .refl
    · cases h
      exact .refl

instance {nowMs} : Keeps (Accounted strict) (observeAskAvailability nowMs) := by
  have h_update (p : ObligationRow → Prop) [DecidablePred p] {h_key} :
      Keeps (Accounted strict) (updateRows Tab.obligations p
        (fun o => { o with
          unavailableSinceMs := if o.unavailableSinceMs.isSome then none else some nowMs })
        h_key : StoreTx Nat) :=
    keeps_updateObligations fun _ _ => ⟨⟨rfl, rfl, rfl⟩, rfl, .inl rfl⟩
  unfold observeAskAvailability
  infer_instance

instance {now ask} : Keeps (Accounted strict) (orphanAsk now ask) where
  keeps {s a s'} h := by
    simp only [orphanAsk, run_bind_reads, run_bind_query_ok] at h
    obtain ⟨_, -, h⟩ := h
    split at h
    · cases h
      exact .refl
    · obtain ⟨_, s₁, h_record, h⟩ := run_bind_ok.mp h
      obtain ⟨_, s₂, h_settle, h⟩ := run_bind_ok.mp h
      simp only [run_bind_require_ok] at h
      obtain ⟨-, h⟩ := h
      cases h
      exact Accounted.stepwise.trans (Keeps.keeps h_record) (Keeps.keeps h_settle)

-- ============================================================================
-- Retirement of a socket waiter
-- ============================================================================

instance {now ask waiter reason} :
    Keeps (Accounted strict) (supersedeUnsubmittedAskDelivery now ask waiter reason) where
  keeps {s a s'} h := by
    simp only [supersedeUnsubmittedAskDelivery, run_bind_reads] at h
    split at h
    · cases h
      exact .refl
    · rename_i d id h_row
      split at h
      · cases h
        exact .refl
      · rename_i h_unsubmitted
        obtain ⟨_, s₁, h_supersede, h⟩ := run_bind_ok.mp h
        obtain ⟨_, s₂, h_settle, h⟩ := run_bind_ok.mp h
        cases h
        simp only [Option.bind_eq_some_iff, Option.map_eq_some_iff, Prod.mk.injEq] at h_row
        obtain ⟨d, h_find, _, h_id, rfl, rfl⟩ := h_row
        have h_mem : d ∈ s.deliveries := List.mem_of_find?_eq_some h_find
        have h_queued : d.outcome = .queued :=
          Classical.not_not.mp fun h => h_unsubmitted (.inl h)
        exact Accounted.stepwise.trans
          (supersedeQueued_accounted h_supersede ⟨d, h_mem, h_id, h_queued⟩)
          (Keeps.keeps h_settle)

instance {now waiter name reason due obligation} :
    Keeps (Accounted strict) (endAsk now waiter name reason due obligation) where
  keeps {s a s'} h := by
    unfold endAsk at h
    obtain ⟨superseded, s₁, h_supersede, h⟩ := run_bind_ok.mp h
    refine Accounted.stepwise.trans (Keeps.keeps h_supersede) ?_
    split at h
    · cases h
      exact .refl
    · obtain ⟨_, s₂, h_waiting, h⟩ := run_bind_ok.mp h
      obtain ⟨_, s₃, h_owing, h⟩ := run_bind_ok.mp h
      obtain ⟨_, s₄, h_link, h⟩ := run_bind_ok.mp h
      obtain ⟨_, s₅, h_settle, h⟩ := run_bind_ok.mp h
      simp only [run_bind_require_ok] at h
      obtain ⟨-, h⟩ := h
      cases h
      have h_both : Accounted strict s₁ s₃ :=
        Accounted.stepwise.trans (Keeps.keeps h_waiting) (Keeps.keeps h_owing)
      have h_linked : Accounted strict s₃ s₄ := keeps_annotateObligations.keeps h_link
      have h_settled : Accounted strict s₄ s' := Keeps.keeps h_settle
      exact (h_both.trans h_linked).trans h_settled

instance {now agent due reason} :
    Keeps (Accounted strict) (endSocketWaiterWithOwingDue now agent due reason) where
  keeps {s a s'} h := by
    simp only [endSocketWaiterWithOwingDue, run_bind_query_ok, run_bind_reads] at h
    obtain ⟨_, -, h⟩ := h
    obtain ⟨_, s₁, h_end, h⟩ := run_bind_ok.mp h
    simp only [run_bind_require_ok] at h
    obtain ⟨-, h⟩ := h
    obtain ⟨_, s₂, h_asks, h⟩ := run_bind_ok.mp h
    obtain ⟨_, s₃, h_inbox, h⟩ := run_bind_ok.mp h
    cases h
    have h_ended : Accounted strict s s₂ :=
      Accounted.stepwise.trans (Keeps.keeps h_end) (Keeps.keeps h_asks)
    refine h_ended.trans ((keeps_updateDeliveries fun d h_d => ?_).keeps h_inbox)
    exact ⟨⟨rfl, rfl, rfl, rfl, rfl, rfl⟩, .inr (.inr ⟨by simp [h_d.2.1], h_d.2.2, .inr rfl⟩)⟩

-- ============================================================================
-- The sweep of settled asks
-- ============================================================================

/-- The sweep supersedes deliveries and leaves the rest of the ledger as it is. -/
theorem supersedeSettledQueuedAsks_run {nowMs : Millis} {n : Nat}
    (h : (supersedeSettledQueuedAsks nowMs).run s = .ok (n, s')) :
    ∃ t, s'.ledger = { s.ledger with deliveries := t } ∧
      s.ledger.deliveries.Edits s.ledger.AskSwept t := by
  simp only [supersedeSettledQueuedAsks, run_bind_reads] at h
  obtain ⟨t, rfl, h_t⟩ := run_updateRows_edits s.ledger.AskSwept h (fun d _ h_d => by
      obtain ⟨h_queued, o, h_o, h_settled⟩ := h_d
      obtain ⟨h_mem, h_ask⟩ := Table.find_eq_some.mp h_o
      exact .inr ⟨⟨rfl, rfl, rfl, rfl, rfl, rfl⟩, h_queued, rfl, o, h_mem, h_ask, h_settled⟩)
    fun _ _ _ => .inl rfl
  exact ⟨t, rfl, h_t⟩

end Kelpie
