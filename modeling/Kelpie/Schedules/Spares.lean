/-
  Kelpie.Schedules.Spares

  The transitions of a renew, seen from the prepare ask of another one, and with
  them every call: each spares the ask, unless it moves the renew on that asked.
-/

import Kelpie.Bindings.Uniqueness
import Kelpie.Ledger.Spares
import Kelpie.Schedules.Book

namespace Kelpie

open Lib Lib.Tx

variable {s s' : Store} {p : ObligationState → Prop} {ask : MessageId}

-- ============================================================================
-- Renews that go on
-- ============================================================================

section Renews

variable {now : Millis} {id : RenewId} {reason : String}

/-- No renew under the number `id` asked `ask`. -/
def Unasked (id : RenewId) (ask : MessageId) (s : Store) : Prop :=
  ∀ r ∈ s.renews, r.id = id → r.askMessageId ≠ some ask

theorem cancelUnansweredPrepare_spares {cancelled : Bool}
    (h : (cancelUnansweredPrepare now id reason).run s = .ok (cancelled, s'))
    (h_id : p .cancelled → Unasked id ask s) : Spares p ask s s' := by
  simp only [cancelUnansweredPrepare, run_bind_reads] at h
  split at h
  · exact Keeps.keeps h
  · rename_i r other h_some
    obtain ⟨r₀, h_find, h_map⟩ := Option.bind_eq_some_iff.mp h_some
    obtain ⟨other₀, h_other, h_pair⟩ := Option.map_eq_some_iff.mp h_map
    cases h_pair
    obtain ⟨h_r, h_key⟩ := Table.find_eq_some.mp h_find
    have h_settle : Keeps (Spares p ask) (settleObligations now
        (fun o => o.askMessageId = other) .cancelled (some r.requesterAgentId) reason) := by
      refine spares_settleObligations fun o h_o h_ask h_p => ?_
      have h_same : other = ask := h_o.symm.trans h_ask
      exact h_id h_p r h_r h_key (h_same ▸ h_other)
    exact Keeps.keeps h

/-- A change of phase does not change what the renew asked. -/
theorem updateRenew_unasked {q : RenewRow → Prop} [DecidablePred q] {f : RenewRow → RenewRow}
    {h_key : ∀ r, (f r).id = r.id} {refusal : String} {u : Unit}
    (h : (updateRenew id q f h_key refusal).run s = .ok (u, s'))
    (h_f : ∀ r, (f r).askMessageId = r.askMessageId) (h_id : Unasked id ask s) :
    Unasked id ask s' := by
  obtain ⟨rs, rfl, -, h_rs⟩ := updateRenew_run h
  intro r' h_r' h_key'
  obtain ⟨r, h_r, h_rr⟩ := h_rs.origin r' h_r'
  rcases h_rr with ⟨-, rfl⟩ | ⟨h_r_key, -, rfl⟩
  · exact h_id r' h_r h_key'
  · rw [h_f]
    exact h_id r h_r h_r_key

/-- A renew that goes on, or ends, without the reply to its own ask. -/
theorem goesOn_spares {α : Type} {q : RenewRow → Prop} [DecidablePred q]
    {f : RenewRow → RenewRow} {h_key : ∀ r, (f r).id = r.id} {refusal : String}
    {rest : Bool → StoreTx α} [∀ cancelled, Keeps (Spares p ask) (rest cancelled)] {a : α}
    (h : (do
      updateRenew id q f h_key refusal
      let cancelled ← cancelUnansweredPrepare now id reason
      rest cancelled).run s = .ok (a, s'))
    (h_f : ∀ r, (f r).askMessageId = r.askMessageId) (h_id : p .cancelled → Unasked id ask s) :
    Spares p ask s s' := by
  obtain ⟨_, s₁, h_update, h⟩ := run_bind_ok.mp h
  obtain ⟨_, s₂, h_cancel, h⟩ := run_bind_ok.mp h
  have h_updated : Spares p ask s s₁ := Keeps.keeps h_update
  have h_cancelled : Spares p ask s₁ s₂ :=
    cancelUnansweredPrepare_spares h_cancel fun h_p =>
      updateRenew_unasked h_update h_f (h_id h_p)
  exact Spares.stepwise.trans (Spares.stepwise.trans h_updated h_cancelled) (Keeps.keeps h)

theorem markRenewReady_spares {u : Unit} (h : (markRenewReady now id).run s = .ok (u, s'))
    (h_id : p .cancelled → Unasked id ask s) : Spares p ask s s' :=
  goesOn_spares h (fun _ => rfl) h_id

theorem abortRenew_spares {next : Option RenewId}
    (h : (abortRenew now id reason).run s = .ok (next, s'))
    (h_id : p .cancelled → Unasked id ask s) : Spares p ask s s' :=
  goesOn_spares h (fun _ => rfl) h_id

theorem endRenew_spares {q : RenewRow → Prop} [DecidablePred q] {refusal : String}
    {state : ScheduleState} {u : Unit}
    (h : (endRenew now id q reason refusal state).run s = .ok (u, s'))
    (h_id : p .cancelled → Unasked id ask s) : Spares p ask s s' :=
  goesOn_spares h (fun _ => rfl) h_id

theorem terminateRenewAnnounced_spares {notice : String} {n : OperatorNoticeId}
    (h : (terminateRenewAnnounced now id reason notice).run s = .ok (n, s'))
    (h_id : p .cancelled → Unasked id ask s) : Spares p ask s s' := by
  obtain ⟨_, s₁, h_end, h⟩ := run_bind_ok.mp h
  exact Spares.stepwise.trans (endRenew_spares h_end h_id) (Keeps.keeps h)

theorem cancelRenew_spares {requester : LogicalAgentId} {notice : String}
    {n : OperatorNoticeId}
    (h : (cancelRenew now id requester reason notice).run s = .ok (n, s'))
    (h_id : p .cancelled → Unasked id ask s) : Spares p ask s s' := by
  simp only [cancelRenew, run_bind_reads] at h
  obtain ⟨_, s₁, h_end, h⟩ := run_bind_ok.mp h
  exact Spares.stepwise.trans (endRenew_spares h_end h_id) (Keeps.keeps h)

end Renews

-- ============================================================================
-- What asks belong to
-- ============================================================================

/-- The calls by which the renew `id` goes on without the reply, or ends. -/
def Call.MovesOn (c : Call) (id : RenewId) : Prop :=
  match c with
  | .markRenewReady _ renew => renew = id
  | .abortRenew _ renew _ => renew = id
  | .terminateRenew _ renew _ => renew = id
  | .terminateRenewAnnounced _ renew _ _ => renew = id
  | .cancelRenew _ renew _ _ _ => renew = id
  | _ => False

/-- The calls by which an agent, or the daemon, closes an ask. -/
def Call.ClosesAsks (c : Call) : Prop :=
  match c with
  | .cancelObligation .. => True
  | .cancelWithResponse .. => True
  | .cancelQueuedDelivery .. => True
  | .orphanAsk .. => True
  | .endSocketWaiter .. => True
  | _ => False

/-- `mark_renew_preparing` is given an ask that is the renew's own: the renewed agent waits on
    it, no other renew has it, and it is not orphaned.  `begin_renew_prepare` has such an ask
    from `create_ask`, unless the key of the renew replays an ask that a client made under
    it. -/
def Call.LinksOwnAsk (c : Call) (s : Store) : Prop :=
  match c with
  | .markRenewPreparing id ask _ =>
    (∀ r ∈ s.renews.rows, r.askMessageId ≠ some ask) ∧
      ∃ r ∈ s.renews.find id, ∃ o ∈ s.obligations.find ask,
        o.waitingAgentId = r.logicalAgentId ∧ o.state ≠ .orphaned
  | _ => True

instance (c : Call) (s : Store) : Decidable (c.LinksOwnAsk s) := by
  apply Call.casesOn (motive := fun c => Decidable (c.LinksOwnAsk s)) c <;>
    intros <;>
    dsimp only [Call.LinksOwnAsk] <;>
    infer_instance

/-- Prepare asks belong to one renew each, and the agent that waits on them is no waiter. -/
structure Store.Prepared (s : Store) : Prop where
  alone : ∀ r ∈ s.renews, ∀ r' ∈ s.renews, ∀ ask, r.askMessageId = some ask →
    r'.askMessageId = some ask → r = r'
  waits : ∀ r ∈ s.renews, ∀ ask, r.askMessageId = some ask → ∃ o ∈ s.obligations,
    o.askMessageId = ask ∧ o.waitingAgentId = r.logicalAgentId ∧
      (r.phase.Armed → o.state ≠ .orphaned)
  bindable : ∀ r ∈ s.renews, s.roster.Bindable r.logicalAgentId

section Step

variable {r : RenewRow}

theorem Store.Prepared.unasked (h : s.Prepared) {id : RenewId} (h_r : r ∈ s.renews)
    (h_ask : r.askMessageId = some ask) (h_id : id ≠ r.id) : Unasked id ask s := by
  intro r' h_r' h_key h_ask'
  obtain rfl := h.alone r h_r r' h_r' ask h_ask h_ask'
  exact h_id h_key.symm

/-- The calls that close asks close no prepare ask. -/
theorem Call.ClosesAsks.spares {c : Call} (h_c : c.ClosesAsks) (h : c.Step s s')
    (h_s : s.Prepared) (h_r : r ∈ s.renews) (h_ask : r.askMessageId = some ask)
    (h_armed : r.phase.Armed) : Spares p ask s s' := by
  have h_prepare : s.PrepareAsk ask := ⟨r, h_r, h_ask, h_armed⟩
  cases c with
  | cancelObligation now requester other reason =>
    obtain ⟨_, h_run⟩ := commit_ok.mp h
    exact cancelObligation_spares h_run h_prepare
  | cancelWithResponse now requester other reason body owingBody due owingDue =>
    obtain ⟨_, h_run⟩ := commit_ok.mp h
    exact cancelWithResponse_spares h_run h_prepare
  | cancelQueuedDelivery now requester other reason =>
    obtain ⟨_, h_run⟩ := commit_ok.mp h
    exact cancelQueuedDelivery_spares h_run h_prepare
  | orphanAsk now other =>
    obtain ⟨_, h_run⟩ := commit_ok.mp h
    exact orphanAsk_spares h_run h_prepare
  | endSocketWaiter now agent due reason =>
    obtain ⟨_, h_run⟩ := commit_ok.mp h
    refine endSocketWaiter_spares h_run fun o h_o h_key h_agent => ?_
    -- The renewed agent waits on the ask, and it is no socket waiter.
    obtain ⟨o', h_o', h_key', h_waiting, -⟩ := h_s.waits r h_r ask h_ask
    obtain rfl := Table.eq_of_key h_o h_o' (h_key.trans h_key'.symm)
    obtain ⟨l, h_l, h_id, h_transport⟩ := h_s.bindable r h_r
    simp only [endSocketWaiterWithOwingDue, run_bind_query_ok] at h_run
    obtain ⟨_, h_waiter, -⟩ := h_run
    obtain ⟨w, h_w, h_w_id, h_active⟩ := requireActiveSocketWaiter_ok h_waiter
    have h_same : l.id = w.id := by rw [h_id, ← h_waiting, h_agent, h_w_id]
    obtain rfl := Table.eq_of_key h_l h_w h_same
    exact h_transport h_active.1
  | _ => exact h_c.elim

/-- No call but the transitions of the renew itself closes its prepare ask. -/
theorem Call.spares (c : Call) (h : c.Step s s') (h_s : s.Prepared) (h_r : r ∈ s.renews)
    (h_ask : r.askMessageId = some ask) (h_armed : r.phase.Armed)
    (h_p : ∀ state, p state → state.Discarded) (h_c : p .cancelled → ¬ c.MovesOn r.id) :
    Spares p ask s s' := by
  have h_resolves : Tolerates (Spares p ask) Tab.obligations ObligationRow.Resolves := by
    refine ⟨fun s t h_t o' h_o' h_key h_state => ?_⟩
    obtain ⟨o, h_o, h_edit⟩ := h_t.origin o' h_o'
    refine ⟨o, h_o, h_edit.ask.symm.trans h_key, (h_edit.state.resolve_right ?_).symm⟩
    exact fun h_not => h_not (h_p _ h_state)
  have h_opens : Admits (Spares p ask) Tab.obligations ObligationRow.Opens := by
    refine ⟨fun s t r h_r h_t o' h_o' h_key h_state => ?_⟩
    rcases (h_t.mem o').mp h_o' with h_o | h_new
    · exact ⟨o', h_o, h_key, rfl⟩
    · have h_discarded := h_p _ h_state
      rw [← Option.some_inj.mp h_new, h_r.state] at h_discarded
      simp [ObligationState.Discarded] at h_discarded
  by_cases h_closes : c.ClosesAsks
  · exact h_closes.spares h h_s h_r h_ask h_armed
  cases c with
  | cancelObligation | cancelWithResponse | cancelQueuedDelivery | orphanAsk | endSocketWaiter =>
    exact absurd trivial h_closes
  | observeAskAvailability nowMs => exact spares_observeAskAvailability.commit h
  | markRenewReady now id =>
    obtain ⟨_, h_run⟩ := commit_ok.mp h
    exact markRenewReady_spares h_run fun h_cancelled => h_s.unasked h_r h_ask (h_c h_cancelled)
  | abortRenew now id reason =>
    obtain ⟨_, h_run⟩ := commit_ok.mp h
    exact abortRenew_spares h_run fun h_cancelled => h_s.unasked h_r h_ask (h_c h_cancelled)
  | terminateRenew now id reason =>
    obtain ⟨_, h_run⟩ := commit_ok.mp h
    exact endRenew_spares h_run fun h_cancelled => h_s.unasked h_r h_ask (h_c h_cancelled)
  | terminateRenewAnnounced now id reason notice =>
    obtain ⟨_, h_run⟩ := commit_ok.mp h
    exact terminateRenewAnnounced_spares h_run fun h_cancelled =>
      h_s.unasked h_r h_ask (h_c h_cancelled)
  | cancelRenew now id requester reason notice =>
    obtain ⟨_, h_run⟩ := commit_ok.mp h
    exact cancelRenew_spares h_run fun h_cancelled =>
      h_s.unasked h_r h_ask (h_c h_cancelled)
  | _ => exact Keeps.commit h

end Step

end Kelpie
