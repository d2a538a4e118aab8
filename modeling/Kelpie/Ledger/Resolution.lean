/-
  Kelpie.Ledger.Resolution

  An obligation is resolved by an accepted final reply to its ask, in every run
  in which each accepted final had been submitted before.
-/

import Kelpie.Ledger.Linked

namespace Kelpie

open Lib Ledger

-- ============================================================================
-- Resolved obligations
-- ============================================================================

namespace Ledger

variable {strict : Prop} {g g' : Ledger}

/-- The obligation is resolved exactly when it names a message, and that one is an accepted
    final reply to its ask. -/
structure Settles (g : Ledger) (o : ObligationRow) : Prop where
  resolved : o.state = .resolved ↔ o.resolvingMessageId.isSome
  final : ∀ id, o.resolvingMessageId = some id →
    g.Final id o.askMessageId ∧ g.Accepted id

/-- The invariant of resolution. -/
structure Resolutions (g : Ledger) : Prop extends Sound g where
  settles : ∀ o ∈ g.obligations, g.Settles o

theorem Final.mono {messageId ask : MessageId} (h : g.Final messageId ask)
    (h_messages : ∀ m ∈ g.messages, m ∈ g'.messages) : g'.Final messageId ask := by
  obtain ⟨m, h_m, h_rest⟩ := h
  exact ⟨m, h_messages m h_m, h_rest⟩

/-- What settles an obligation goes on doing so while finals and acceptances stay. -/
theorem Settles.mono {o o' : ObligationRow} (h : g.Settles o) (h_ask : o'.askMessageId =
    o.askMessageId) (h_resolving : o'.resolvingMessageId = o.resolvingMessageId)
    (h_state : o'.state = o.state ∨ (o.state.Unresolved ∧ o'.state ≠ .resolved))
    (h_messages : ∀ m ∈ g.messages, m ∈ g'.messages)
    (h_accepted : ∀ id, g.Accepted id → g'.Accepted id) : g'.Settles o' where
  resolved := by
    rw [h_resolving, ← h.resolved]
    rcases h_state with h_same | ⟨h_open, h_not⟩
    · rw [h_same]
    · have h_open' : o.state ≠ .resolved := by
        rcases h_open with h | h <;> simp [h]
      exact iff_of_false h_not h_open'
  final id h_id := by
    rw [h_resolving] at h_id
    obtain ⟨h_final, h_acc⟩ := h.final id h_id
    rw [h_ask]
    exact ⟨h_final.mono h_messages, h_accepted id h_acc⟩

/-- A resolved obligation is settled by the message that resolves it. -/
theorem Resolved.settles {ask resolving : MessageId} {o o' : ObligationRow}
    (h : Resolved ask resolving o o') (h_o : g.Settles o)
    (h_messages : ∀ m ∈ g.messages, m ∈ g'.messages)
    (h_keep : ∀ id, g.Accepted id → g'.Accepted id) (h_final : g.Final resolving ask)
    (h_accepted : g'.Accepted resolving) : g'.Settles o' := by
  rcases h with rfl | ⟨rfl, -, h_parties, h_state, h_resolving⟩
  · exact h_o.mono rfl rfl (.inl rfl) h_messages h_keep
  · refine ⟨by simp [h_state, h_resolving], fun id h_id => ?_⟩
    rw [h_resolving, Option.some_inj] at h_id
    subst h_id
    rw [h_parties.ask]
    exact ⟨h_final.mono h_messages, h_accepted⟩

theorem Resolutions.effect (h : Resolutions g) (h_effect : Effect strict g g') :
    Resolutions g' := by
  refine ⟨h.toSound.effect h_effect, fun o' h_o' => ?_⟩
  have h_keep (id : MessageId) (h_acc : g.Accepted id) : g'.Accepted id :=
    h_acc.effect h.toSound h_effect
  cases h_effect with
  | post h_posts =>
    have h_messages (m : MessageRow) (h_m : m ∈ g.messages) : m ∈ g'.messages :=
      (h_posts.messages.mem m).mpr (.inl h_m)
    rcases (h_posts.obligations.mem o').mp h_o' with h_o | h_o
    · exact (h.settles o' h_o).mono rfl rfl (.inl rfl) h_messages h_keep
    · -- A new obligation is open.
      obtain ⟨-, -, h_open, h_none⟩ := h_posts.proper.obligation o' h_o
      exact ⟨by simp [h_open, h_none], by simp [h_none]⟩
  | resolve h_final h_accepted h_t =>
    obtain ⟨o, h_o, h_resolved⟩ := h_t.origin o' h_o'
    exact h_resolved.settles (h.settles o h_o) (fun _ => id) h_keep h_final h_accepted
  | amend h_t =>
    obtain ⟨o, h_o, h_parties, h_resolving, h_state⟩ := h_t.origin o' h_o'
    refine (h.settles o h_o).mono h_parties.ask h_resolving ?_ (fun _ => id) h_keep
    refine h_state.imp_right fun ⟨h_open, h_closed⟩ => ⟨h_open, ?_⟩
    rcases h_closed with h | h <;> simp [h]
  | operate | conduct | deliver | fail | supersede | remind | attempt =>
    exact (h.settles o' h_o').mono rfl rfl (.inl rfl) (fun _ => id) h_keep

theorem Resolutions.answers {ask : MessageId} {requester : LogicalAgentId}
    {disposition : ReplyDisposition} (h : Resolutions g)
    (h_answers : Answers ask requester disposition g g') : Resolutions g' := by
  refine ⟨h.toSound.answers h_answers, fun o' h_o' => ?_⟩
  obtain ⟨o, h_o, h_parties, h_resolving, h_state⟩ := h_answers.obligations.origin o' h_o'
  refine (h.settles o h_o).mono h_parties.ask h_resolving ?_
    (fun _ h_m => h_answers.messages ▸ h_m) fun _ h_acc => h_acc.answers h_answers
  refine h_state.imp_right fun ⟨h_ask, _, h_progress⟩ => ?_
  -- The obligation that is owed is the one that the reply moves.
  obtain ⟨o₀, h_o₀, h_ask₀, -, h_open⟩ := h_answers.owed
  obtain rfl := Table.eq_of_key h_o h_o₀ (h_ask.trans h_ask₀.symm)
  exact ⟨h_open, by simp [h_progress]⟩

theorem Resolutions.accepts {id : OperationId} {inc : IncarnationId} (h : Resolutions g)
    (h_submitted : ∀ d ∈ g.deliveries, d.operationId = some id →
      (∃ ask, g.Final d.messageId ask) →
        d.recipientIncarnationId = some inc ∧ d.outcome = .submitted)
    (h_accepts : Accepts id inc g g') : Resolutions g' := by
  refine ⟨h.toSound.accepts h_accepts, fun o' h_o' => ?_⟩
  have h_messages (m : MessageRow) (h_m : m ∈ g.messages) : m ∈ g'.messages :=
    h_accepts.messages ▸ h_m
  have h_keep (messageId : MessageId) (h_acc : g.Accepted messageId) :
      g'.Accepted messageId := h_acc.accepts h_accepts
  obtain ⟨o, h_o, h_edit⟩ := h_accepts.obligations.origin o' h_o'
  rcases h_edit with rfl | ⟨resolving, h_final, ⟨d, h_d, h_op, h_message⟩, h_resolved⟩
  · exact (h.settles o' h_o).mono rfl rfl (.inl rfl) h_messages h_keep
  · obtain ⟨h_inc, h_sent⟩ := h_submitted d h_d h_op ⟨_, h_message ▸ h_final⟩
    exact h_resolved.settles (h.settles o h_o) h_messages h_keep h_final
      (h_accepts.accepted h_d h_message h_op h_inc h_sent)

end Ledger

-- ============================================================================
-- Runs
-- ============================================================================

/-- The call accepts no operation whose delivery carries a final reply, unless that delivery
    had been submitted to the same incarnation. -/
def FinalsSubmitted (c : Call) (s : Store) : Prop :=
  match c with
  | .acceptDelivery _ id inc _ _ _ => ∀ d ∈ s.deliveries.rows, d.operationId = some id →
    (∃ m ∈ s.messages.rows,
      m.id = d.messageId ∧ m.kind = .reply ∧ m.disposition = some .final) →
    d.recipientIncarnationId = some inc ∧ d.outcome = .submitted
  | _ => True

instance (c : Call) (s : Store) : Decidable (FinalsSubmitted c s) := by
  apply Call.casesOn (motive := fun c => Decidable (FinalsSubmitted c s)) c <;>
    intros <;>
    dsimp only [FinalsSubmitted] <;>
    infer_instance

/-- The message is the final reply to the ask of `o`, from its owing agent to its waiting
    agent, and what delivers it has been accepted. -/
def Store.AcceptedFinal (s : Store) (o : ObligationRow) (resolving : MessageId) : Prop :=
  (∃ m ∈ s.messages.rows, m.id = resolving ∧ m.kind = .reply ∧ m.disposition = some .final ∧
    m.replyToMessageId = some o.askMessageId ∧ m.senderAgentId = some o.owingAgentId ∧
    m.recipientAgentId = o.waitingAgentId) ∧ s.DeliveryAccepted resolving

instance (s : Store) (o : ObligationRow) : DecidablePred (s.AcceptedFinal o) :=
  fun resolving => by
    unfold Store.AcceptedFinal
    infer_instance

/-- Resolved exactly when a message resolves it, and that message an accepted final. -/
def Store.ResolvedByFinal (s : Store) (o : ObligationRow) : Prop :=
  (o.state = .resolved ↔ o.resolvingMessageId.isSome) ∧
    ∀ id ∈ o.resolvingMessageId, s.AcceptedFinal o id

instance (s : Store) : DecidablePred s.ResolvedByFinal := fun o => by
  unfold Store.ResolvedByFinal
  infer_instance

theorem resolutions_invariant : Ledger.Invariant False FinalsSubmitted Resolutions where
  empty := ⟨sound_empty, fun _ h => absurd h Table.notMem_empty⟩
  effect := Resolutions.effect
  accepts h h_ok h_accepts := h.accepts (fun d h_d h_op ⟨_, m, h_m, h_id, h_kind, h_final, _⟩ =>
    h_ok d h_d h_op ⟨m, h_m, h_id, h_kind, h_final⟩) h_accepts
  answers h _ _ _ h_answers := h.answers h_answers
  sweep h _ h_t := ⟨h.toSound.sweep h_t, fun o h_o =>
    (h.settles o h_o).mono rfl rfl (.inl rfl) (fun _ => id) fun _ h_acc => h_acc.sweep h_t⟩

theorem Ledger.Linked.acceptedFinal {s : Store} (h : Linked s.ledger) {o : ObligationRow}
    {resolving : MessageId} (h_o : o ∈ s.obligations)
    (h_final : s.ledger.Final resolving o.askMessageId)
    (h_accepted : s.ledger.Accepted resolving) : s.AcceptedFinal o resolving := by
  obtain ⟨m, h_m, h_id, h_kind, h_disposition, h_to⟩ := h_final
  obtain ⟨o', h_o', h_to', h_sender, h_recipient⟩ := h.reply m h_m h_kind
  rw [h_to', Option.some_inj] at h_to
  obtain rfl := Table.eq_of_key h_o' h_o h_to
  exact ⟨⟨m, h_m, h_id, h_kind, h_disposition, h_to', h_sender, h_recipient⟩,
    h.deliveryAccepted_iff.mpr h_accepted⟩

/-- In every state that such a run reaches, what resolves an obligation is an accepted final
    reply to it; recording a reply resolves none. -/
theorem resolved_by_accepted_final {s : Store} (h : Reachable FinalsSubmitted s) :
    (∀ o ∈ s.obligations, s.ResolvedByFinal o) ∧
    ∀ now ask requester body disposition key due s',
      (Call.createReply now ask requester body disposition key due).Step s s' →
      ∀ o' ∈ s'.obligations, o'.state = .resolved →
        ∃ o ∈ s.obligations, o.askMessageId = o'.askMessageId ∧ o.state = .resolved := by
  have h_inv : Resolutions s.ledger :=
    h.ledger (fun _ _ _ h_false => h_false.elim) resolutions_invariant
  constructor
  · intro o h_o
    have h_settles := h_inv.settles o h_o
    refine ⟨h_settles.resolved, fun id h_id => ?_⟩
    obtain ⟨h_final, h_accepted⟩ := h_settles.final id h_id
    exact h_inv.toLinked.acceptedFinal h_o h_final h_accepted
  · intro now ask requester body disposition key due s' h_step o' h_o' h_resolved
    obtain ⟨_, h_run⟩ := Tx.commit_ok.mp h_step
    rcases createReply_answers h_run with rfl | ⟨p, g, -, h_posts, h_answers⟩
    · exact ⟨o', h_o', rfl, h_resolved⟩
    · obtain ⟨o, h_o, h_parties, -, h_state⟩ := h_answers.obligations.origin o' h_o'
      have h_state' : o.state = .resolved := by
        rcases h_state with h_same | ⟨-, -, h_progress⟩
        · exact h_same ▸ h_resolved
        · rw [h_progress] at h_resolved
          cases h_resolved
      rcases (h_posts.obligations.mem o).mp h_o with h_old | h_new
      · exact ⟨o, h_old, h_parties.ask.symm, h_state'⟩
      · rw [(h_posts.proper.obligation o h_new).2.2.1] at h_state'
        cases h_state'

/-- An ask and its final reply, both submitted and then accepted. -/
def answeredRun : List Call :=
  askedRun ++ submitting 3 3 2 "r1" ++ [.acceptDelivery 4 3 2 "w1:p2" "t2" none,
    .createReply 5 1 2 "The main one." .final "k4" none] ++ submitting 6 4 1 "r2" ++
    [.acceptDelivery 7 4 1 "w1:p1" "t1" none]

theorem resolved_by_accepted_final_answeredRun : ∃ s, Reachable FinalsSubmitted s ∧
    (∃ o ∈ s.obligations.rows, o.state = .resolved) ∧
    ∀ o ∈ s.obligations, s.ResolvedByFinal o := by
  have h : Leads FinalsSubmitted (fun s => ∃ o ∈ s.obligations.rows, o.state = .resolved)
      answeredRun Store.empty := by decide +kernel
  obtain ⟨s, h_run, h_resolved⟩ := h.run
  exact ⟨s, h_run, h_resolved, (resolved_by_accepted_final h_run).1⟩

/-- A final reply accepted before it was submitted resolves its ask all the same, while its
    own delivery stays pending. -/
theorem resolved_by_unsubmitted_final : ∃ s, Reachable (fun _ _ => True) s ∧
    ∃ o ∈ s.obligations.rows, o.state = .resolved ∧ ¬ s.ResolvedByFinal o := by
  have h : Leads (fun _ _ => True)
      (fun s => ∃ o ∈ s.obligations.rows, o.state = .resolved ∧ ¬ s.ResolvedByFinal o)
      (askedRun ++ [.createReply 3 1 2 "The main one." .final "k4" none,
        .acceptDelivery 4 4 1 "w1:p1" "t1" none]) Store.empty := by decide +kernel
  exact h.run

end Kelpie
