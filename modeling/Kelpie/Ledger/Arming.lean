/-
  Kelpie.Ledger.Arming

  A reminder is armed only once its ask has been accepted, in every run in which
  no reply to an ask with an enabled reminder is recorded before that.
-/

import Kelpie.Ledger.Resolution

namespace Kelpie

open Lib Ledger

-- ============================================================================
-- Armed reminders
-- ============================================================================

namespace Ledger

variable {strict : Prop} {g g' : Ledger}

/-- The invariant of arming: an armed reminder is one of an accepted ask, and attempts are
    made of armed reminders. -/
structure Arming (g : Ledger) : Prop extends Sound g where
  armed : ∀ r ∈ g.reminders, r.Armed → g.Accepted r.askMessageId
  attempted : ∀ a ∈ g.attempts, g.ReminderArmed a.askMessageId

theorem ReminderArmed.of_edits {e : ObligationReminderRow → ObligationReminderRow → Prop}
    {ask : MessageId} (h : g.ReminderArmed ask) (h_edits : g.reminders.Edits e g'.reminders)
    (h_e : ∀ r r', e r r' → r'.askMessageId = r.askMessageId ∧ (r.Armed → r'.Armed)) :
    g'.ReminderArmed ask := by
  obtain ⟨r, h_r, h_ask, h_armed⟩ := h
  obtain ⟨r', h_r', h_edit⟩ := h_edits.image r h_r
  obtain ⟨h_same, h_stays⟩ := h_e r r' h_edit
  exact ⟨r', h_r', h_same.trans h_ask, h_stays h_armed⟩

theorem Arming.effect (h : Arming g) (h_effect : Effect strict g g') : Arming g' := by
  have h_keep (id : MessageId) (h_acc : g.Accepted id) : g'.Accepted id :=
    h_acc.effect h.toSound h_effect
  refine ⟨h.toSound.effect h_effect, ?_, ?_⟩
  · intro r' h_r' h_armed
    cases h_effect with
    | post h_posts =>
      rcases (h_posts.reminders.mem r').mp h_r' with h_r | h_r
      · exact h_keep _ (h.armed r' h_r h_armed)
      · -- A new reminder is unarmed.
        simp [ObligationReminderRow.Armed, (h_posts.proper.reminder r' h_r).2.2] at h_armed
    | remind h_t =>
      obtain ⟨r, h_r, h_ask, -, h_cause⟩ := h_t.origin r' h_r'
      rw [h_ask]
      rcases h_cause h_armed with h_was | ⟨a, h_a, h_a_ask⟩
      · exact h.armed r h_r h_was
      · obtain ⟨r₀, h_r₀, h_ask₀, h_armed₀⟩ := h.attempted a h_a
        exact h_a_ask ▸ h_ask₀ ▸ h.armed r₀ h_r₀ h_armed₀
    | operate | conduct | deliver | fail | supersede | resolve | amend | attempt =>
      exact h_keep _ (h.armed r' h_r' h_armed)
  · intro a h_a
    cases h_effect with
    | post h_posts =>
      rw [h_posts.attempts] at h_a
      obtain ⟨r, h_r, h_rest⟩ := h.attempted a h_a
      exact ⟨r, (h_posts.reminders.mem r).mpr (.inl h_r), h_rest⟩
    | remind h_t =>
      exact (h.attempted a h_a).of_edits h_t fun r r' h_r => ⟨h_r.1, h_r.2.1⟩
    | attempt h_t =>
      rcases h_t a h_a with ⟨a', h_a', h_same⟩ | h_armed
      · exact h_same ▸ h.attempted a' h_a'
      · exact h_armed
    | operate | conduct | deliver | fail | supersede | resolve | amend =>
      exact h.attempted a h_a

theorem Arming.accepts {id : OperationId} {inc : IncarnationId} (h : Arming g)
    (h_submitted : ∀ d ∈ g.deliveries, d.operationId = some id →
      (∃ r ∈ g.reminders, r.askMessageId = d.messageId ∧ r.Enabled) →
        d.recipientIncarnationId = some inc ∧ d.outcome = .submitted)
    (h_accepts : Accepts id inc g g') : Arming g' := by
  refine ⟨h.toSound.accepts h_accepts, ?_, ?_⟩
  · intro r' h_r' h_armed
    obtain ⟨r, h_r, h_edit⟩ := h_accepts.reminders.origin r' h_r'
    rcases h_edit with rfl | ⟨h_ask, -, h_disabled, h_suspended, d, h_d, h_op, h_message⟩
    · exact (h.armed r' h_r h_armed).accepts h_accepts
    · obtain ⟨h_inc, h_sent⟩ := h_submitted d h_d h_op
        ⟨r, h_r, h_message.symm, h_disabled, h_suspended⟩
      rw [h_ask]
      exact h_accepts.accepted h_d h_message h_op h_inc h_sent
  · intro a h_a
    rw [h_accepts.attempts] at h_a
    refine (h.attempted a h_a).of_edits h_accepts.reminders fun r r' h_edit => ?_
    rcases h_edit with rfl | ⟨h_ask, h_armed, -⟩
    · exact ⟨rfl, fun h => h⟩
    · exact ⟨h_ask, fun _ => h_armed⟩

theorem Arming.answers {ask : MessageId} {requester : LogicalAgentId}
    {disposition : ReplyDisposition} (h : Arming g)
    (h_accepted : ∀ r ∈ g.reminders, r.askMessageId = ask → r.disabledAtMs = none →
      r.suspendedAtMs = none → g.Accepted ask)
    (h_answers : Answers ask requester disposition g g') : Arming g' := by
  refine ⟨h.toSound.answers h_answers, ?_, ?_⟩
  · intro r' h_r' h_armed
    obtain ⟨r, h_r, h_edit⟩ := h_answers.reminders.origin r' h_r'
    rcases h_edit with rfl | ⟨h_ask, h_ask', h_disabled, h_suspended, -⟩
    · exact (h.armed r' h_r h_armed).answers h_answers
    · rw [h_ask']
      exact (h_accepted r h_r h_ask h_disabled h_suspended).answers h_answers
  · intro a h_a
    rw [h_answers.attempts] at h_a
    refine (h.attempted a h_a).of_edits h_answers.reminders fun r r' h_edit => ?_
    rcases h_edit with rfl | ⟨h_ask, h_ask', -, -, h_armed⟩
    · exact ⟨rfl, id⟩
    · exact ⟨h_ask'.trans h_ask.symm, fun _ => h_armed⟩

end Ledger

-- ============================================================================
-- Runs
-- ============================================================================

/-- The call records no reply to an ask that has an enabled reminder and was not accepted,
    and accepts no ask with an enabled reminder unless its delivery had been submitted to
    the same incarnation. -/
def AcceptedBeforeReply (c : Call) (s : Store) : Prop :=
  match c with
  | .createReply _ ask _ _ _ _ _ => ∀ r ∈ s.obligationReminders.rows, r.askMessageId = ask →
    r.Enabled → s.DeliveryAccepted ask
  | .acceptDelivery _ id inc _ _ _ => ∀ d ∈ s.deliveries.rows, d.operationId = some id →
    (∃ r ∈ s.obligationReminders.rows, r.askMessageId = d.messageId ∧ r.Enabled) →
    d.recipientIncarnationId = some inc ∧ d.outcome = .submitted
  | _ => True

instance (c : Call) (s : Store) : Decidable (AcceptedBeforeReply c s) := by
  apply Call.casesOn (motive := fun c => Decidable (AcceptedBeforeReply c s)) c <;>
    intros <;>
    dsimp only [AcceptedBeforeReply] <;>
    infer_instance

theorem arming_invariant : Ledger.Invariant False AcceptedBeforeReply Arming where
  empty := ⟨sound_empty, fun _ h => absurd h Table.notMem_empty,
    fun _ h => absurd h Table.notMem_empty⟩
  effect := Arming.effect
  accepts h h_ok h_accepts := h.accepts h_ok h_accepts
  answers h_g₁ h h_ok h_posts h_answers := by
    obtain ⟨p, h_kind, h_posts⟩ := h_posts
    refine h_g₁.answers (fun r h_r h_ask h_disabled h_suspended => ?_) h_answers
    rcases (h_posts.reminders.mem r).mp h_r with h_old | h_new
    · have h_acc := h_ok r h_old h_ask ⟨h_disabled, h_suspended⟩
      exact (h.toLinked.deliveryAccepted_iff.mp h_acc).effect h.toSound
        (.post h_posts : Effect False _ _)
    · -- The message that is posted is no ask.
      rw [(h_posts.proper.reminder r h_new).2.1] at h_kind
      cases h_kind
  sweep h _ h_t := ⟨h.toSound.sweep h_t, fun r h_r h_armed => (h.armed r h_r h_armed).sweep h_t,
    h.attempted⟩

theorem Store.dueReminder_eq_some {s : Store} {nowMs : Millis} {r : ObligationReminderRow}
    {due : DueReminder} (h : s.dueReminder nowMs r = some due) :
    r.DueAt nowMs ∧ due.askMessageId = r.askMessageId := by
  obtain ⟨o, -, h⟩ := Option.bind_eq_some_iff.mp h
  obtain ⟨⟨-, -, h_due, -⟩, h⟩ := guard_bind_eq_some.mp h
  split at h
  · obtain ⟨-, h⟩ := guard_bind_eq_some.mp h
    cases h
    exact ⟨h_due, rfl⟩
  · cases h

/-- In every state that such a run reaches, an armed reminder is one of an accepted ask, and
    so is every reminder that falls due. -/
theorem armed_only_when_accepted {s : Store} (h : Reachable AcceptedBeforeReply s) :
    (∀ r ∈ s.obligationReminders, r.nextDueAtMs ≠ none → s.DeliveryAccepted r.askMessageId) ∧
    ∀ nowMs, ∀ due ∈ s.dueReminders nowMs, s.DeliveryAccepted due.askMessageId := by
  have h_inv : Arming s.ledger := h.ledger (fun _ _ _ h_false => h_false.elim) arming_invariant
  have h_armed (r : ObligationReminderRow) (h_r : r ∈ s.obligationReminders)
      (h_some : r.Armed) : s.DeliveryAccepted r.askMessageId :=
    h_inv.toLinked.deliveryAccepted_iff.mpr (h_inv.armed r h_r h_some)
  constructor
  · intro r h_r h_next
    exact h_armed r h_r (Option.isSome_iff_ne_none.mpr h_next)
  · intro nowMs due h_due
    obtain ⟨r, h_r, h_some⟩ := List.mem_filterMap.mp h_due
    obtain ⟨h_at, h_ask⟩ := Store.dueReminder_eq_some h_some
    exact h_ask ▸ h_armed r h_r h_at.armed

theorem armed_only_when_accepted_remindedRun : ∃ s, Reachable AcceptedBeforeReply s ∧
    (∃ r ∈ s.obligationReminders.rows, r.nextDueAtMs = some 1004) ∧
    ∀ r ∈ s.obligationReminders, r.nextDueAtMs ≠ none → s.DeliveryAccepted r.askMessageId := by
  have h : Leads AcceptedBeforeReply
      (fun s => ∃ r ∈ s.obligationReminders.rows, r.nextDueAtMs = some 1004)
      (remindedRun ++ submitting 3 3 2 "r1" ++ [.acceptDelivery 4 3 2 "w1:p2" "t2" none])
      Store.empty := by decide +kernel
  obtain ⟨s, h_run, h_due⟩ := h.run
  exact ⟨s, h_run, h_due, (armed_only_when_accepted h_run).1⟩

/-- A progress reply to an ask whose own delivery is still pending arms its reminder, which
    then falls due. -/
theorem armed_by_early_reply : ∃ s, Reachable (fun _ _ => True) s ∧
    ∃ due ∈ s.dueReminders 2000, ¬ s.DeliveryAccepted due.askMessageId := by
  have h : Leads (fun _ _ => True)
      (fun s => ∃ due ∈ s.dueReminders 2000, ¬ s.DeliveryAccepted due.askMessageId)
      (remindedRun ++ [.createReply 3 1 2 "Looking." .progress "k4" none])
      Store.empty := by decide +kernel
  exact h.run

end Kelpie
