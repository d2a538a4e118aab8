/-
  Kelpie.Ledger.Agreement

  A Herdr delivery and its operation come to their ends together, in every run in
  which no sweep takes a delivery away from its operation and no operation is
  accepted past a delivery that was not submitted.
-/

import Kelpie.Ledger.Arming

namespace Kelpie

open Lib Ledger

-- ============================================================================
-- Deliveries and operations
-- ============================================================================

namespace Ledger

variable {g g' : Ledger}

/-- The invariant of agreement.  No prompt is ever `accepted`: that outcome is one of a
    launch or of a retirement. -/
structure Agreement (g : Ledger) : Prop extends Sound g where
  unaccepted : ∀ o ∈ g.operations, o.kind = .prompt → o.outcome ≠ .accepted
  agree : ∀ d ∈ g.deliveries, ∀ o ∈ g.operations, d.operationId = some o.id →
    (d.outcome.Live ↔ o.outcome.Live)

theorem Agreement.unaccepted_effect (h : Agreement g) (h_effect : Effect True g g') :
    ∀ o ∈ g'.operations, o.kind = .prompt → o.outcome ≠ .accepted := by
  intro o' h_o' h_kind
  cases h_effect with
  | post h_posts =>
    rcases (h_posts.operations.mem o').mp h_o' with h_o | h_o
    · exact h.unaccepted o' h_o h_kind
    · simp [(h_posts.proper.operation o' h_o).2]
  | operate h_new h_t =>
    rcases (h_t.mem o').mp h_o' with h_o | h_o
    · exact h.unaccepted o' h_o h_kind
    · obtain rfl := Option.mem_some.mp h_o
      exact absurd h_kind h_new
  | conduct h_t =>
    obtain ⟨o, h_o, h_task, h_outcome⟩ := h_t.origin o' h_o'
    have h_kind' : o.kind = .prompt := h_task.kind ▸ h_kind
    rcases h_outcome with h_same | ⟨-, h_other⟩
    · exact h_same ▸ h.unaccepted o h_o h_kind'
    · exact absurd h_kind' (h_other trivial)
  | fail h_live h_outcome h_dropped h_os h_ds =>
    obtain ⟨o, h_o, h_end⟩ := h_os.origin o' h_o'
    rcases h_end with ⟨-, rfl⟩ | ⟨-, -, -, h_ended⟩
    · exact h.unaccepted o' h_o h_kind
    · intro h_acc
      exact h_outcome (h_ended ▸ .inr h_acc)
  | supersede _ h_os h_ds =>
    obtain ⟨o, h_o, h_end⟩ := h_os.origin o' h_o'
    rcases h_end with ⟨-, rfl⟩ | ⟨-, -, -, h_ended⟩
    · exact h.unaccepted o' h_o h_kind
    · simp [h_ended]
  | deliver | resolve | amend | remind | attempt => exact h.unaccepted o' h_o' h_kind

theorem Agreement.effect (h : Agreement g) (h_effect : Effect True g g') : Agreement g' := by
  refine ⟨h.toSound.effect h_effect, h.unaccepted_effect h_effect, ?_⟩
  intro d' h_d' o' h_o' h_op
  cases h_effect with
  | post h_posts =>
    rcases (h_posts.deliveries.mem d').mp h_d' with h_d | h_d <;>
      rcases (h_posts.operations.mem o').mp h_o' with h_o | h_o
    · exact h.agree d' h_d o' h_o h_op
    · exact absurd h_op ((h_posts.notDelivered h.toLinked h_d).2 o' h_o)
    · -- A new delivery goes with the new operation.
      rw [(h_posts.proper.herdr d' h_d).1, Option.map_eq_some_iff] at h_op
      obtain ⟨o, h_new, h_id⟩ := h_op
      exact absurd h_id.symm (h_posts.operations.fresh o h_new o' h_o)
    · have h_pending := (h_posts.proper.operation o' h_o).2
      refine iff_of_true ?_ (.inl h_pending)
      exact (h_posts.proper.delivery d' h_d).2.imp id .inl
  | operate h_new h_t =>
    rcases (h_t.mem o').mp h_o' with h_o | h_o
    · exact h.agree d' h_d' o' h_o h_op
    · obtain ⟨o, h_o', h_id, -⟩ := h.operation d' h_d' o'.id h_op
      exact absurd h_id (h_t.fresh o' h_o o h_o')
  | conduct h_t =>
    obtain ⟨o, h_o, h_task, h_outcome⟩ := h_t.origin o' h_o'
    rw [h_task.id] at h_op
    rcases h_outcome with h_same | ⟨-, h_other⟩
    · rw [h_same]
      exact h.agree d' h_d' o h_o h_op
    · exact absurd (h.isPrompt h_d' h_o h_op) (h_other trivial)
  | deliver h_t =>
    obtain ⟨d, h_d, h_mail, h_outcome⟩ := h_t.origin d' h_d'
    rw [h_mail.operation] at h_op
    rcases h_outcome with h_same | ⟨h_unsent, h_sent⟩ | ⟨h_sink, -⟩
    · rw [h_same]
      exact h.agree d h_d o' h_o' h_op
    · rw [← h.agree d h_d o' h_o' h_op]
      exact iff_of_true (.inr (.inr h_sent)) (h_unsent.imp id .inl)
    · exact absurd ((h.herdr d h_d).mpr (by simp [h_op])) h_sink
  | fail h_live h_outcome h_dropped h_os h_ds =>
    obtain ⟨d, h_d, h_drop⟩ := h_ds.origin d' h_d'
    obtain ⟨o, h_o, h_end⟩ := h_os.origin o' h_o'
    rw [h_drop.sameMail.operation, h_end.sameTask.id] at h_op
    rcases h_end with ⟨h_id, rfl⟩ | ⟨h_id, -, -, h_ended⟩
    · rcases h_drop with ⟨-, rfl⟩ | ⟨h_op', -⟩
      · exact h.agree d' h_d o' h_o h_op
      · exact absurd (Option.some_inj.mp (h_op.symm.trans h_op')) h_id
    · -- Both come to their ends.
      rcases h_drop with ⟨h_op', -⟩ | ⟨-, -, h_dropped'⟩
      · exact absurd (h_id ▸ h_op) h_op'
      · refine iff_of_false ?_ (h_ended ▸ h_outcome)
        rcases h_dropped' with h_new | ⟨h_not, h_same⟩
        · exact h_new ▸ h_dropped trivial
        · exact h_same ▸ h_not
  | supersede h_queued h_os h_ds =>
    obtain ⟨d, h_d, h_drop⟩ := h_ds.origin d' h_d'
    obtain ⟨o, h_o, h_end⟩ := h_os.origin o' h_o'
    rw [h_drop.sameMail.operation, h_end.sameTask.id] at h_op
    have h_agree := h.agree d h_d o h_o h_op
    rcases h_drop with ⟨h_other, rfl⟩ | ⟨h_op', h_was, -, h_superseded⟩
    · rcases h_end with ⟨-, rfl⟩ | ⟨h_id, -⟩
      · exact h_agree
      · -- The operation has one delivery, which is the queued one.
        obtain ⟨d₀, h_d₀, h_op₀, h_queued₀⟩ := h_queued
        obtain rfl := h.single d' h_d d₀ h_d₀ o.id h_op (h_id ▸ h_op₀)
        exact absurd ⟨h_op₀, h_queued₀⟩ h_other
    · have h_id : o.id = _ := Option.some_inj.mp (h_op.symm.trans h_op')
      have h_live : o.outcome.Live := h_agree.mp (.inr (.inl h_was))
      have h_pending : o.outcome = .pending :=
        h_live.resolve_right (h.unaccepted o h_o (h.isPrompt h_d h_o h_op))
      rcases h_end with ⟨h_other, -⟩ | ⟨-, -, -, h_ended⟩
      · exact absurd ⟨h_id, h_pending⟩ h_other
      · rw [h_superseded, h_ended]
        decide
  | resolve | amend | remind | attempt => exact h.agree d' h_d' o' h_o' h_op

theorem Agreement.accepts {id : OperationId} {inc : IncarnationId} (h : Agreement g)
    (h_submitted : ∀ d ∈ g.deliveries, d.operationId = some id →
      d.recipientIncarnationId = some inc ∧ d.outcome = .submitted)
    (h_accepts : Accepts id inc g g') : Agreement g' := by
  refine ⟨h.toSound.accepts h_accepts, ?_, ?_⟩
  · intro o' h_o' h_kind
    obtain ⟨o, h_o, h_end⟩ := h_accepts.operations.origin o' h_o'
    rcases h_end with ⟨-, rfl⟩ | ⟨-, -, -, h_succeeded⟩
    · exact h.unaccepted o' h_o h_kind
    · simp [h_succeeded]
  · intro d' h_d' o' h_o' h_op
    obtain ⟨d, h_d, h_deliver⟩ := h_accepts.deliveries.origin d' h_d'
    obtain ⟨o, h_o, h_end⟩ := h_accepts.operations.origin o' h_o'
    rw [h_deliver.sameMail.operation, h_end.sameTask.id] at h_op
    rcases h_end with ⟨h_id, rfl⟩ | ⟨h_id, -, -, h_succeeded⟩
    · rcases h_deliver with ⟨-, rfl⟩ | ⟨h_op', -⟩
      · exact h.agree d' h_d o' h_o h_op
      · exact absurd (Option.some_inj.mp (h_op.symm.trans h_op')) h_id
    · obtain ⟨h_inc, h_sent⟩ := h_submitted d h_d (h_id ▸ h_op)
      rcases h_deliver with ⟨h_other, -⟩ | ⟨-, -, -, -, h_accepted⟩
      · exact absurd ⟨h_id ▸ h_op, h_inc, h_sent⟩ h_other
      · rw [h_accepted, h_succeeded]
        decide

theorem Agreement.answers {ask : MessageId} {requester : LogicalAgentId}
    {disposition : ReplyDisposition} (h : Agreement g)
    (h_answers : Answers ask requester disposition g g') : Agreement g' := by
  refine ⟨h.toSound.answers h_answers, ?_, ?_⟩
  · rw [h_answers.operations]
    exact h.unaccepted
  · rw [h_answers.deliveries, h_answers.operations]
    exact h.agree

theorem Agreement.sweep {t : Table DeliveryRow.rowid} (h : Agreement g)
    (h_sinks : ∀ d ∈ g.deliveries, d.deliveryTransport = .herdrPrompt → d.outcome = .queued →
      ∀ o ∈ g.obligations, o.askMessageId = d.messageId → o.state.Unresolved)
    (h_t : g.deliveries.Edits g.AskSwept t) : Agreement { g with deliveries := t } := by
  refine ⟨h.toSound.sweep h_t, h.unaccepted, ?_⟩
  intro d' h_d' o h_o h_op
  obtain ⟨d, h_d, h_swept⟩ := h_t.origin d' h_d'
  rw [h_swept.sameMail.operation] at h_op
  rcases h_swept with rfl | ⟨-, h_queued, -, ob, h_ob, h_ask, h_settled⟩
  · exact h.agree d' h_d o h_o h_op
  · have h_herdr := (h.herdr d h_d).mpr (by simp [h_op])
    exact absurd (h_sinks d h_d h_herdr h_queued ob h_ob h_ask) h_settled

end Ledger

-- ============================================================================
-- Runs
-- ============================================================================

/-- The call is made as the daemon makes it, accepts no operation unless its delivery had
    been submitted to the same incarnation, and sweeps no Herdr delivery away. -/
def SettledTogether (c : Call) (s : Store) : Prop :=
  c.AsCalled s ∧
  match c with
  | .acceptDelivery _ id inc _ _ _ => ∀ d ∈ s.deliveries.rows, d.operationId = some id →
    d.recipientIncarnationId = some inc ∧ d.outcome = .submitted
  | .supersedeSettledQueuedAsks _ => ∀ d ∈ s.deliveries.rows,
    d.deliveryTransport = .herdrPrompt → d.outcome = .queued →
    ∀ o ∈ s.obligations.rows, o.askMessageId = d.messageId → o.state.Unresolved
  | _ => True

instance (c : Call) (s : Store) : Decidable (SettledTogether c s) := by
  apply Call.casesOn (motive := fun c => Decidable (SettledTogether c s)) c <;>
    intros <;>
    dsimp only [SettledTogether] <;>
    infer_instance

/-- A Herdr delivery has an operation, and has come to an end when that has. -/
def Store.OutcomesAgree (s : Store) (d : DeliveryRow) : Prop :=
  ∃ o ∈ s.operations.rows, d.operationId = some o.id ∧ (d.outcome.Live ↔ o.outcome.Live)

instance (s : Store) : DecidablePred s.OutcomesAgree := fun d => by
  unfold Store.OutcomesAgree
  infer_instance

theorem agreement_invariant : Ledger.Invariant True SettledTogether Agreement where
  empty := ⟨sound_empty, fun _ h => absurd h Table.notMem_empty,
    fun _ h => absurd h Table.notMem_empty⟩
  effect := Agreement.effect
  accepts h h_ok h_accepts := h.accepts h_ok.2 h_accepts
  answers h _ _ _ h_answers := h.answers h_answers
  sweep h h_ok h_t := h.sweep h_ok.2 h_t

/-- In every state that such a run reaches, every Herdr delivery agrees with its
    operation. -/
theorem outcomes_agree {s : Store} (h : Reachable SettledTogether s) :
    ∀ d ∈ s.deliveries, d.deliveryTransport = .herdrPrompt → s.OutcomesAgree d := by
  have h_inv : Agreement s.ledger := h.ledger (fun _ _ h_ok _ => h_ok.1) agreement_invariant
  intro d h_d h_herdr
  obtain ⟨id, h_op⟩ := Option.isSome_iff_exists.mp ((h_inv.herdr d h_d).mp h_herdr)
  obtain ⟨o, h_o, rfl, -⟩ := h_inv.operation d h_d id h_op
  exact ⟨o, h_o, h_op, h_inv.agree d h_d o h_o h_op⟩

/-- An ask whose prompt is rejected. -/
def rejectedRun : List Call :=
  askedRun ++ submitting 3 3 2 "r1" ++ [.markRejected 4 3 2 "agent_busy" .rejected]

theorem outcomes_agree_rejectedRun : ∃ s, Reachable SettledTogether s ∧
    (∃ d ∈ s.deliveries.rows, d.outcome = .rejected) ∧
    ∀ d ∈ s.deliveries, d.deliveryTransport = .herdrPrompt → s.OutcomesAgree d := by
  have h : Leads SettledTogether (fun s => ∃ d ∈ s.deliveries.rows, d.outcome = .rejected)
      rejectedRun Store.empty := by decide +kernel
  obtain ⟨s, h_run, h_rejected⟩ := h.run
  exact ⟨s, h_run, h_rejected, outcomes_agree h_run⟩

/-- The sweep after a cancelled ask supersedes the queued delivery and leaves its operation
    pending. -/
theorem outcomes_disagree_after_sweep : ∃ s, Reachable Call.AsCalled s ∧
    ∃ d ∈ s.deliveries.rows, d.deliveryTransport = .herdrPrompt ∧ ¬ s.OutcomesAgree d := by
  have h : Leads Call.AsCalled
      (fun s => ∃ d ∈ s.deliveries.rows,
        d.deliveryTransport = .herdrPrompt ∧ ¬ s.OutcomesAgree d)
      [adopting 1 "w1:p1" "t1" "asker" "k1", adopting 1 "w1:p2" "t2" "worker" "k2",
        .createAsk 2 1 2 2 "Which branch?" "k3" (some 1000) none false .inject,
        .cancelObligation 3 1 1 "found it", .supersedeSettledQueuedAsks 4]
      Store.empty := by decide +kernel
  exact h.run

end Kelpie
