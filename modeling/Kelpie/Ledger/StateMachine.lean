/-
  Kelpie.Ledger.StateMachine

  The state machine of an obligation: its terminal states absorb, a progress reply
  of the owing agent is the only way into `in_progress`, a reply that is not
  entitled to it is refused, and the end of a socket waiter settles everything
  that waits on it.
-/

import Kelpie.Ledger.Agreement

namespace Kelpie

open Lib Lib.Tx Ledger

-- ============================================================================
-- Moves of one obligation
-- ============================================================================

namespace Ledger

variable {strict : Prop} {g g' : Ledger}

/-- Every settled obligation keeps its state. -/
def Absorbs (g g' : Ledger) : Prop :=
  ∀ o ∈ g.obligations, ¬ o.state.Unresolved →
    ∃ o' ∈ g'.obligations, o'.askMessageId = o.askMessageId ∧ o'.state = o.state

/-- Every obligation in progress was so before. -/
def NoProgress (g g' : Ledger) : Prop :=
  ∀ o' ∈ g'.obligations, o'.state = .inProgress →
    ∃ o ∈ g.obligations, o.askMessageId = o'.askMessageId ∧ o.state = .inProgress

instance : Stepwise Absorbs where
  refl _ o h_o _ := ⟨o, h_o, rfl, rfl⟩
  trans h h' o h_o h_settled := by
    obtain ⟨o₁, h_o₁, h_ask, h_state⟩ := h o h_o h_settled
    obtain ⟨o₂, h_o₂, h_ask', h_state'⟩ := h' o₁ h_o₁ (h_state ▸ h_settled)
    exact ⟨o₂, h_o₂, h_ask'.trans h_ask, h_state'.trans h_state⟩

instance : Stepwise NoProgress where
  refl _ o h_o h_progress := ⟨o, h_o, rfl, h_progress⟩
  trans h h' o h_o h_progress := by
    obtain ⟨o₁, h_o₁, h_ask, h_state⟩ := h' o h_o h_progress
    obtain ⟨o₂, h_o₂, h_ask', h_state'⟩ := h o₁ h_o₁ h_state
    exact ⟨o₂, h_o₂, h_ask'.trans h_ask, h_state'⟩

/-- What an edit does to the state of an obligation, when it is not a progress reply. -/
def Restates (o o' : ObligationRow) : Prop :=
  o'.askMessageId = o.askMessageId ∧
    (o'.state = o.state ∨ (o.state.Unresolved ∧ ¬ o'.state.Unresolved))

theorem Resolved.restates {ask resolving : MessageId} {o o' : ObligationRow}
    (h : Resolved ask resolving o o') : Restates o o' := by
  rcases h with rfl | ⟨-, h_open, h_parties, h_state, -⟩
  · exact ⟨rfl, .inl rfl⟩
  · exact ⟨h_parties.ask, .inr ⟨h_open, by simp [h_state, ObligationState.Unresolved]⟩⟩

theorem Amended.restates {o o' : ObligationRow} (h : Amended o o') : Restates o o' := by
  obtain ⟨h_parties, -, h_state⟩ := h
  refine ⟨h_parties.ask, h_state.imp_right fun ⟨h_open, h_closed⟩ => ⟨h_open, ?_⟩⟩
  rcases h_closed with h | h <;> simp [h, ObligationState.Unresolved]

theorem absorbs_of_restates (h : g.obligations.Edits Restates g'.obligations) :
    Absorbs g g' := by
  intro o h_o h_settled
  obtain ⟨o', h_o', h_ask, h_state⟩ := h.image o h_o
  refine ⟨o', h_o', h_ask, h_state.resolve_right fun ⟨h_open, _⟩ => h_settled h_open⟩

theorem noProgress_of_restates (h : g.obligations.Edits Restates g'.obligations) :
    NoProgress g g' := by
  intro o' h_o' h_progress
  obtain ⟨o, h_o, h_ask, h_state⟩ := h.origin o' h_o'
  rcases h_state with h_same | ⟨-, h_closed⟩
  · exact ⟨o, h_o, h_ask.symm, h_same ▸ h_progress⟩
  · exact absurd (.inr h_progress) h_closed

theorem Posts.absorbs {p : Posting} (h : Posts p g g') : Absorbs g g' :=
  fun o h_o _ => ⟨o, (h.obligations.mem o).mpr (.inl h_o), rfl, rfl⟩

theorem Posts.noProgress {p : Posting} (h : Posts p g g') : NoProgress g g' := by
  intro o h_o h_progress
  rcases (h.obligations.mem o).mp h_o with h_old | h_new
  · exact ⟨o, h_old, rfl, h_progress⟩
  · rw [(h.proper.obligation o h_new).2.2.1] at h_progress
    cases h_progress

/-- An effect posts, or restates obligations. -/
theorem Effect.restates (h : Effect strict g g') :
    (∃ p, Posts p g g') ∨ g.obligations.Edits Restates g'.obligations := by
  cases h with
  | post h_posts => exact .inl ⟨_, h_posts⟩
  | resolve _ _ h_t => exact .inr (h_t.mono fun _ _ _ _ => Resolved.restates)
  | amend h_t => exact .inr (h_t.mono fun _ _ _ _ => Amended.restates)
  | operate | conduct | deliver | fail | supersede | remind | attempt =>
    exact .inr (.refl (fun _ => ⟨rfl, .inl rfl⟩) _)

theorem Path.absorbs (h : Path strict g g') : Absorbs g g' := by
  induction h with
  | refl => exact Stepwise.refl g
  | tail _ h_effect ih =>
    rcases h_effect.restates with ⟨p, h_posts⟩ | h_edits
    · exact Stepwise.trans ih h_posts.absorbs
    · exact Stepwise.trans ih (absorbs_of_restates h_edits)

theorem Path.noProgress (h : Path strict g g') : NoProgress g g' := by
  induction h with
  | refl => exact Stepwise.refl g
  | tail _ h_effect ih =>
    rcases h_effect.restates with ⟨p, h_posts⟩ | h_edits
    · exact Stepwise.trans ih h_posts.noProgress
    · exact Stepwise.trans ih (noProgress_of_restates h_edits)

theorem Accepts.restates {id : OperationId} {inc : IncarnationId} (h : Accepts id inc g g') :
    g.obligations.Edits Restates g'.obligations :=
  h.obligations.mono fun o _ o' _ h_o => by
    rcases h_o with rfl | ⟨resolving, -, -, h_resolved⟩
    · exact ⟨rfl, .inl rfl⟩
    · exact h_resolved.restates

theorem Answers.absorbs {ask : MessageId} {requester : LogicalAgentId}
    {disposition : ReplyDisposition} (h : Answers ask requester disposition g g') :
    Absorbs g g' := by
  intro o h_o h_settled
  obtain ⟨o', h_o', h_parties, -, h_state⟩ := h.obligations.image o h_o
  refine ⟨o', h_o', h_parties.ask, h_state.resolve_right fun ⟨h_ask, _⟩ => ?_⟩
  -- The obligation that is owed is unresolved, so it is another one.
  obtain ⟨o₀, h_o₀, h_ask₀, -, h_open⟩ := h.owed
  obtain rfl := Table.eq_of_key h_o h_o₀ (h_ask.trans h_ask₀.symm)
  exact h_settled h_open

end Ledger

theorem Call.absorbs (c : Call) {s s' : Store} (h : c.Step s s') :
    Absorbs s.ledger s'.ledger := by
  have h_account : Account False s.ledger s'.ledger c := c.account h fun h_false => h_false.elim
  cases h_account with
  | path h_path => exact h_path.absorbs
  | accept h_accepts => exact absorbs_of_restates h_accepts.restates
  | reply _ h_posts h_answers => exact Stepwise.trans h_posts.absorbs h_answers.absorbs
  | sweep h_g' _ =>
    rw [h_g']
    exact fun o h_o _ => ⟨o, h_o, rfl, rfl⟩

/-- Only a progress reply of its owing agent moves an obligation into `in_progress`. -/
theorem Call.progress (c : Call) {s s' : Store} (h : c.Step s s') {o o' : ObligationRow}
    (h_o : o ∈ s.obligations) (h_o' : o' ∈ s'.obligations)
    (h_ask : o'.askMessageId = o.askMessageId) (h_before : o.state ≠ .inProgress)
    (h_after : o'.state = .inProgress) : ∃ now body key due,
      c = .createReply now o.askMessageId o.owingAgentId body .progress key due := by
  have h_absurd (h_none : NoProgress s.ledger s'.ledger) : False := by
    obtain ⟨o₁, h_o₁, h_ask₁, h_progress⟩ := h_none o' h_o' h_after
    obtain rfl := Table.eq_of_key h_o₁ h_o (h_ask₁.trans h_ask)
    exact h_before h_progress
  have h_account : Account False s.ledger s'.ledger c := c.account h fun h_false => h_false.elim
  cases h_account with
  | path h_path => exact (h_absurd h_path.noProgress).elim
  | accept h_accepts => exact (h_absurd (noProgress_of_restates h_accepts.restates)).elim
  | sweep h_g' _ =>
    refine (h_absurd ?_).elim
    rw [h_g']
    exact fun o₁ h_o₁ h_progress => ⟨o₁, h_o₁, rfl, h_progress⟩
  | @reply _ _ _ _ _ _ _ p g₁ h_kind h_posts h_answers =>
    obtain ⟨o₁, h_o₁, h_parties, -, h_state⟩ := h_answers.obligations.origin o' h_o'
    -- The reply posts no obligation, so this one was there before.
    have h_old {o₂ : ObligationRow} (h_o₂ : o₂ ∈ g₁.obligations) : o₂ ∈ s.obligations := by
      refine ((h_posts.obligations.mem o₂).mp h_o₂).resolve_right fun h_new => ?_
      rw [(h_posts.proper.obligation o₂ h_new).2.1] at h_kind
      cases h_kind
    have h_mem := h_old h_o₁
    obtain rfl := Table.eq_of_key h_mem h_o (h_parties.ask.symm.trans h_ask)
    rcases h_state with h_same | ⟨rfl, rfl, -⟩
    · exact absurd (h_same ▸ h_after) h_before
    · obtain ⟨o₀, h_o₀, h_ask₀, rfl, -⟩ := h_answers.owed
      have h_mem₀ := h_old h_o₀
      obtain rfl := Table.eq_of_key h_mem₀ h_mem h_ask₀
      exact ⟨_, _, _, _, rfl⟩

-- ============================================================================
-- Refused replies
-- ============================================================================

/-- No request has used the key. -/
def Store.KeyUnused (s : Store) (key : String) : Prop :=
  (∀ o ∈ s.operations.rows, o.idempotencyKey ≠ key) ∧
  (∀ k ∈ s.socketInboxKeys.rows, k.idempotencyKey ≠ key) ∧
  ∀ k ∈ s.askPullKeys.rows, k.idempotencyKey ≠ key

instance (s : Store) : DecidablePred s.KeyUnused := fun key => by
  unfold Store.KeyUnused
  infer_instance

/-- No reply of the requester to the ask can be recorded: the ask is unknown or settled, or
    owed by another agent, or its waiting agent has no receive path. -/
def Store.ReplyBarred (s : Store) (ask : MessageId) (requester : LogicalAgentId) : Prop :=
  ∀ o ∈ s.obligations.rows, o.askMessageId = ask →
    requester ≠ o.owingAgentId ∨ ¬ o.state.Unresolved ∨
    (∃ l ∈ s.logicalAgents.rows, l.id = o.waitingAgentId ∧
      l.deliveryTransport = .socketInbox ∧ l.targetingEndedAtMs ≠ none) ∨
    (o.replyDelivery = .inject ∧ (∃ l ∈ s.logicalAgents.rows, l.id = o.waitingAgentId ∧
      l.deliveryTransport = .herdrPrompt) ∧ (s.readyIncarnations o.waitingAgentId).length ≠ 1)

instance (s : Store) (ask : MessageId) (requester : LogicalAgentId) :
    Decidable (s.ReplyBarred ask requester) := by
  unfold Store.ReplyBarred
  infer_instance

section Refusals

variable {s s' : Store} {now : Millis} {ask : MessageId} {requester : LogicalAgentId}
  {body key : String} {disposition : ReplyDisposition} {due : Option Millis}

theorem waiterIdentity_ok {agent : LogicalAgentId} {identity : WaiterIdentity}
    (h : waiterIdentity agent s = .ok identity) : ∃ l ∈ s.logicalAgents, l.id = agent ∧
      identity.transport = l.deliveryTransport ∧
      (identity.ended = true ↔
        l.deliveryTransport = .socketInbox ∧ l.targetingEndedAtMs.isSome) := by
  unfold waiterIdentity at h
  split at h
  · cases h
  · rename_i l h_find
    cases h
    obtain ⟨h_l, h_id⟩ := Table.find_eq_some.mp h_find
    exact ⟨l, h_l, h_id, rfl, by simp⟩

theorem readyIncarnationForAgent_ok {agent : LogicalAgentId} {inc : IncarnationId}
    (h : readyIncarnationForAgent agent s = .ok inc) : s.readyIncarnations agent = [inc] := by
  unfold readyIncarnationForAgent at h
  split at h
  · rename_i inc' h_ready
    cases h
    exact h_ready
  · cases h
  · cases h

/-- A reply that is recorded was not barred. -/
theorem recordNewReply_notBarred {r : CreatedReply}
    (h : (recordNewReply now ask requester body disposition key due).run s = .ok (r, s')) :
    ¬ s.ReplyBarred ask requester := by
  intro h_barred
  simp only [recordNewReply, run_bind_query_ok, run_bind_require_ok] at h
  obtain ⟨o, h_o, identity, h_identity, h_live, h⟩ := h
  obtain ⟨h_mem, h_ask, h_owing, h_open⟩ := replyableObligation_ok h_o
  obtain ⟨l, h_l, h_id, h_transport, h_ended⟩ := waiterIdentity_ok h_identity
  rcases h_barred o h_mem h_ask with h_other | h_settled | ⟨l', h_l', h_id', h_inbox, h_end⟩ |
      ⟨h_inject, ⟨l', h_l', h_id', h_herdr⟩, h_ready⟩
  · exact h_other h_owing.symm
  · exact h_settled h_open
  · obtain rfl := Table.eq_of_key h_l' h_l (h_id'.trans h_id.symm)
    have h_true := h_ended.mpr ⟨h_inbox, Option.isSome_iff_ne_none.mpr h_end⟩
    rw [h_true] at h_live
    cases h_live
  · obtain rfl := Table.eq_of_key h_l' h_l (h_id'.trans h_id.symm)
    obtain ⟨id, s₁, h_m, h⟩ := run_bind_ok.mp h
    obtain ⟨m, ms, rfl, -⟩ := insertMessage_run h_m
    rw [if_neg (by simp [h_inject]), if_neg (by simp [h_transport, h_herdr])] at h
    simp only [run_bind_require_ok, run_bind_query_ok] at h
    obtain ⟨-, inc, h_inc, -⟩ := h
    have h_one : s.readyIncarnations o.waitingAgentId = [inc] :=
      readyIncarnationForAgent_ok h_inc
    simp [h_one] at h_ready

/-- Under a key that nothing holds, a reply is recorded anew. -/
theorem createReply_eq_recordNewReply (h : s.KeyUnused key) :
    (createReplyWithDue now ask requester body disposition key due).run s =
      (recordNewReply now ask requester body disposition key due).run s := by
  obtain ⟨h_operations, h_inbox, h_pull⟩ := h
  have h_prompt : replayPromptByIdempotencyKey key .reply requester (some ask) s =
      .ok none := by
    have h_none : s.operations.rows.filter (·.idempotencyKey = key) = [] :=
      List.filter_eq_nil_iff.mpr fun o h_o => by simpa using h_operations o h_o
    simp [replayPromptByIdempotencyKey, Store.replayCandidate, h_none]
  have h_asked : replayAskPullReply key requester ask s = .ok none := by
    simp [replayAskPullReply, Table.find_eq_none.mpr h_pull]
  have h_queued : replaySocketInboxReply key requester ask s = .ok none := by
    simp [replaySocketInboxReply, Store.socketInboxKeyMessage, Table.find_eq_none.mpr h_inbox]
  simp only [createReplyWithDue, run_bind, query, h_prompt, h_asked, h_queued]

end Refusals

-- ============================================================================
-- The end of a waiter
-- ============================================================================

/-- The obligations of `s'` are those of `s`, some of them annotated or closed. -/
def AmendsObligations (s s' : Store) : Prop := s.obligations.Edits Amended s'.obligations

theorem Ledger.Amended.trans {o o' o'' : ObligationRow} (h : Amended o o')
    (h' : Amended o' o'') : Amended o o'' := by
  obtain ⟨h_parties, h_resolving, h_state⟩ := h
  obtain ⟨h_parties', h_resolving', h_state'⟩ := h'
  refine ⟨⟨h_parties'.ask.trans h_parties.ask, h_parties'.owing.trans h_parties.owing,
    h_parties'.waiting.trans h_parties.waiting⟩, h_resolving'.trans h_resolving, ?_⟩
  rcases h_state' with h_same' | ⟨h_open', h_closed'⟩
  · rw [h_same']
    exact h_state
  · rcases h_state with h_same | ⟨-, h_closed⟩
    · exact .inr ⟨h_same ▸ h_open', h_closed'⟩
    · rcases h_closed with h | h <;> simp [h, ObligationState.Unresolved] at h_open'

instance AmendsObligations.stepwise : Stepwise AmendsObligations where
  refl s := .refl (fun _ => ⟨.rfl, rfl, .inl rfl⟩) s.obligations
  trans {s s₁ s₂} h h' :=
    { image := fun o h_o => by
        obtain ⟨o₁, h_o₁, h_e⟩ := h.image o h_o
        obtain ⟨o₂, h_o₂, h_e'⟩ := h'.image o₁ h_o₁
        exact ⟨o₂, h_o₂, h_e.trans h_e'⟩
      origin := fun o₂ h_o₂ => by
        obtain ⟨o₁, h_o₁, h_e'⟩ := h'.origin o₂ h_o₂
        obtain ⟨o, h_o, h_e⟩ := h.origin o₁ h_o₁
        exact ⟨o, h_o, h_e.trans h_e'⟩ }

section Waiters

instance : Ignores AmendsObligations Tab.logicalAgents :=
  ⟨fun s _ => AmendsObligations.stepwise.refl s⟩
instance : Ignores AmendsObligations Tab.messages := ⟨fun s _ => AmendsObligations.stepwise.refl s⟩
instance : Ignores AmendsObligations Tab.deliveries :=
  ⟨fun s _ => AmendsObligations.stepwise.refl s⟩
instance : Ignores AmendsObligations Tab.operations :=
  ⟨fun s _ => AmendsObligations.stepwise.refl s⟩

theorem keeps_amendObligations {p : ObligationRow → Prop} [DecidablePred p]
    {f : ObligationRow → ObligationRow} {h_key : ∀ r, (f r).askMessageId = r.askMessageId}
    (h : ∀ o, p o → Amended o (f o)) :
    Keeps AmendsObligations (updateRows Tab.obligations p f h_key : StoreTx Nat) :=
  .updateRows fun _ => Table.edits_update h_key (fun o _ h_p => h o h_p)
    fun _ _ _ => ⟨.rfl, rfl, .inl rfl⟩

instance {now sender recipient kind body reply} : Keeps AmendsObligations
    (insertMessage now sender recipient kind body reply) := by
  unfold insertMessage
  infer_instance

instance {now key recipient intent scheduledAt outcome onReuse} : Keeps AmendsObligations
    (insertPrompt now key recipient intent scheduledAt outcome onReuse) := by
  unfold insertPrompt insertOperation insertHerdrDelivery
  infer_instance

instance {transport messageId recipient scheduledAt} : Keeps AmendsObligations
    (queueSinkDelivery transport messageId recipient scheduledAt) := by
  unfold queueSinkDelivery
  infer_instance

instance {now messageId recipient ask reason audience due ambiguous} :
    Keeps AmendsObligations
      (deliverCancellation now messageId recipient ask reason audience due ambiguous) where
  keeps {s a s'} h := by
    simp only [deliverCancellation, run_bind_query_ok] at h
    obtain ⟨identity, -, replyDelivery, -, h⟩ := h
    unfold queueAskPullDelivery queueSocketInboxDeliveryAt insertCancellationPrompt at h
    split at h
    · exact Keeps.keeps h
    split at h
    · exact Keeps.keeps h
    · simp only [run_bind_require_ok, run_bind_query_ok] at h
      obtain ⟨-, ready, -, h⟩ := h
      cases ready <;> exact Keeps.keeps h

instance {now recipient ask reason body audience due ambiguous} : Keeps AmendsObligations
    (recordCancellationSide now recipient ask reason body audience due ambiguous) := by
  unfold recordCancellationSide
  infer_instance

instance {now id requester reason} :
    Keeps AmendsObligations (supersedeQueued now id requester reason) := by
  unfold supersedeQueued
  infer_instance

variable {s s' : Store} {now : Millis} {waiter : LogicalAgentId} {reason : String}

/-- The obligation under the key is cancelled. -/
def Cancelled (s : Store) (ask : MessageId) : Prop :=
  ∃ o ∈ s.obligations, o.askMessageId = ask ∧ o.state = .cancelled

theorem Cancelled.amends {ask : MessageId} (h : Cancelled s ask)
    (h_amends : AmendsObligations s s') : Cancelled s' ask := by
  obtain ⟨o, h_o, h_ask, h_cancelled⟩ := h
  obtain ⟨o', h_o', h_parties, -, h_state⟩ := h_amends.image o h_o
  refine ⟨o', h_o', h_parties.ask.trans h_ask, ?_⟩
  rcases h_state with h_same | ⟨h_open, -⟩
  · exact h_same.trans h_cancelled
  · rcases h_open with h | h <;> simp [h] at h_cancelled

/-- The settlement of the ask that a waiter waits on cancels that ask when it changes a
    row. -/
theorem settleObligations_run {ask : MessageId} {n : Nat}
    (h : (settleObligations now (fun o => o.askMessageId = ask ∧ o.waitingAgentId = waiter)
      .cancelled (some waiter) reason).run s = .ok (n, s')) :
    AmendsObligations s s' ∧ (n = 1 → Cancelled s' ask) := by
  simp only [settleObligations, run_bind_reads] at h
  obtain ⟨n', s₁, h_update, h⟩ := run_bind_ok.mp h
  simp only [run_bind_require_ok] at h
  obtain ⟨-, h⟩ := h
  cases h
  refine ⟨(keeps_amendObligations fun o h_o => ?_).keeps h_update, fun h_one => ?_⟩
  · exact ⟨⟨rfl, rfl, rfl⟩, rfl, .inr ⟨h_o.2, .inl rfl⟩⟩
  · obtain ⟨t, rfl, o, -, h_o, h_t⟩ := run_updateRows_pos h_update (h_one ▸ Nat.one_pos)
    exact ⟨_, h_t, h_o.1.1, rfl⟩

theorem supersedeUnsubmittedAskDelivery_run {ask : MessageId} {superseded : Bool}
    (h : (supersedeUnsubmittedAskDelivery now ask waiter reason).run s =
      .ok (superseded, s')) :
    AmendsObligations s s' ∧ (superseded = true → Cancelled s' ask) := by
  simp only [supersedeUnsubmittedAskDelivery, run_bind_reads] at h
  split at h
  · cases h
    exact ⟨Stepwise.refl _, by simp⟩
  · split at h
    · cases h
      exact ⟨Stepwise.refl _, by simp⟩
    · obtain ⟨_, s₁, h_supersede, h⟩ := run_bind_ok.mp h
      obtain ⟨_, s₂, h_settle, h⟩ := run_bind_ok.mp h
      cases h
      obtain ⟨h_amends, h_cancelled⟩ := settleObligations_run h_settle
      exact ⟨Stepwise.trans (Keeps.keeps h_supersede) h_amends, by simpa using h_cancelled⟩

/-- One ask of the waiter ends cancelled. -/
theorem endAsk_run {name : String} {due : Option Millis} {o : ObligationRow}
    {notice : Option OwingRetireNotice}
    (h : (endAsk now waiter name reason due o).run s = .ok (notice, s')) :
    AmendsObligations s s' ∧ Cancelled s' o.askMessageId := by
  unfold endAsk at h
  obtain ⟨superseded, s₁, h_supersede, h⟩ := run_bind_ok.mp h
  obtain ⟨h_amends, h_cancelled⟩ := supersedeUnsubmittedAskDelivery_run h_supersede
  split at h
  · rename_i h_true
    cases h
    exact ⟨h_amends, h_cancelled h_true⟩
  · obtain ⟨_, s₂, h_waiting, h⟩ := run_bind_ok.mp h
    obtain ⟨_, s₃, h_owing, h⟩ := run_bind_ok.mp h
    obtain ⟨_, s₄, h_link, h⟩ := run_bind_ok.mp h
    obtain ⟨_, s₅, h_settle, h⟩ := run_bind_ok.mp h
    simp only [run_bind_require_ok] at h
    obtain ⟨h_one, h⟩ := h
    cases h
    have h_notices : AmendsObligations s₁ s₃ :=
      Stepwise.trans (Keeps.keeps h_waiting) (Keeps.keeps h_owing)
    have h_linked : AmendsObligations s₃ s₄ :=
      (keeps_amendObligations (by intro _ _; exact ⟨⟨rfl, rfl, rfl⟩, rfl, .inl rfl⟩)).keeps
        h_link
    obtain ⟨h_settled, h_cancelled'⟩ := settleObligations_run h_settle
    have h_rest : AmendsObligations s₁ s' :=
      Stepwise.trans (Stepwise.trans h_notices h_linked) h_settled
    exact ⟨Stepwise.trans h_amends h_rest, h_cancelled' h_one⟩

theorem endAsks_run {name : String} {due : MessageId → Option Millis}
    {asks : List ObligationRow} {notices : List (Option OwingRetireNotice)}
    (h : (forEach asks fun o => endAsk now waiter name reason (due o.askMessageId) o).run s =
      .ok (notices, s')) :
    AmendsObligations s s' ∧ ∀ o ∈ asks, Cancelled s' o.askMessageId := by
  induction asks generalizing s notices with
  | nil =>
    cases h
    exact ⟨Stepwise.refl _, by simp⟩
  | cons o asks ih =>
    unfold forEach at h
    obtain ⟨_, s₁, h_one, h⟩ := run_bind_ok.mp h
    obtain ⟨_, s₂, h_rest, h⟩ := run_bind_ok.mp h
    cases h
    obtain ⟨h_amends, h_cancelled⟩ := endAsk_run h_one
    obtain ⟨h_amends', h_cancelled'⟩ := ih h_rest
    refine ⟨Stepwise.trans h_amends h_amends', ?_⟩
    rw [List.forall_mem_cons]
    exact ⟨h_cancelled.amends h_amends', h_cancelled'⟩

/-- Everything that waited on the ended waiter is settled. -/
theorem endSocketWaiter_run {agent : LogicalAgentId} {due : MessageId → Option Millis}
    {ended : EndedWaiter}
    (h : (endSocketWaiterWithOwingDue now agent due reason).run s = .ok (ended, s')) :
    (∀ o ∈ s.obligations, o.waitingAgentId = agent → o.state.Unresolved →
      Cancelled s' o.askMessageId) ∧
    (∀ o ∈ s'.obligations, o.waitingAgentId = agent → ¬ o.state.Unresolved) ∧
    ∀ d ∈ s'.deliveries, d.recipientAgentId = some agent → d.deliveryTransport = .socketInbox →
      d.outcome ≠ .queued := by
  simp only [endSocketWaiterWithOwingDue, run_bind_query_ok, run_bind_reads] at h
  obtain ⟨_, -, h⟩ := h
  obtain ⟨_, s₁, h_end, h⟩ := run_bind_ok.mp h
  simp only [run_bind_require_ok] at h
  obtain ⟨-, h⟩ := h
  obtain ⟨_, s₂, h_asks, h⟩ := run_bind_ok.mp h
  obtain ⟨_, s₃, h_inbox, h⟩ := run_bind_ok.mp h
  cases h
  have h_first : AmendsObligations s s₁ := Keeps.keeps h_end
  obtain ⟨h_amends, h_cancelled⟩ := endAsks_run h_asks
  have h_last : AmendsObligations s₂ s' := Keeps.keeps h_inbox
  have h_all : AmendsObligations s s' :=
    Stepwise.trans (Stepwise.trans h_first h_amends) h_last
  have h_settled (o : ObligationRow) (h_o : o ∈ s.obligations)
      (h_waiting : o.waitingAgentId = agent) (h_open : o.state.Unresolved) :
      Cancelled s' o.askMessageId := by
    refine (h_cancelled o ?_).amends h_last
    simp only [Store.unresolvedAsksWaitingOn, List.mem_insertionSort, List.mem_filter,
      decide_eq_true_eq]
    exact ⟨h_o, h_waiting, h_open⟩
  refine ⟨h_settled, ?_, ?_⟩
  · intro o' h_o' h_waiting h_open
    -- An obligation that is unresolved now was so before, and then it was cancelled.
    obtain ⟨o, h_o, h_parties, -, h_state⟩ := h_all.origin o' h_o'
    have h_was : o.state.Unresolved := by
      rcases h_state with h_same | ⟨h_was, -⟩
      · exact h_same ▸ h_open
      · exact h_was
    obtain ⟨o₁, h_o₁, h_ask, h_done⟩ :=
      h_settled o h_o (h_parties.waiting.symm.trans h_waiting) h_was
    obtain rfl := Table.eq_of_key h_o₁ h_o' (h_ask.trans h_parties.ask.symm)
    rcases h_open with h | h <;> simp [h] at h_done
  · obtain ⟨ds, rfl, h_ds⟩ := run_updateRows_edits
      (fun _ d' : DeliveryRow => d'.recipientAgentId = some agent →
        d'.deliveryTransport = .socketInbox → d'.outcome ≠ .queued) h_inbox
      (fun _ _ _ _ _ => by simp)
      fun d _ h_not h_recipient h_transport h_queued =>
        h_not ⟨h_recipient, h_transport, h_queued⟩
    intro d h_d
    obtain ⟨_, -, h_unqueued⟩ := h_ds.origin d h_d
    exact h_unqueued

end Waiters

-- ============================================================================
-- Runs
-- ============================================================================

theorem absorbs_of_run {s s' : Store} (h : StoreRun (fun _ _ => True) s s') :
    Absorbs s.ledger s'.ledger := by
  induction h with
  | refl => exact Stepwise.refl _
  | tail c _ _ h_step ih => exact Stepwise.trans ih (c.absorbs h_step)

/-- The laws of an obligation: what is settled stays so; only a progress reply of the owing
    agent moves an open one into `in_progress`; a reply that is barred fails under a key of
    its own and changes nothing; and a socket waiter ends with everything that waited on it
    settled, or not at all. -/
theorem obligation_stateMachine :
    (∀ s s', StoreRun (fun _ _ => True) s s' → ∀ o ∈ s.obligations, ¬ o.state.Unresolved →
      ∃ o' ∈ s'.obligations, o'.askMessageId = o.askMessageId ∧ o'.state = o.state) ∧
    (∀ (c : Call) s s', c.Step s s' → ∀ o ∈ s.obligations, ∀ o' ∈ s'.obligations,
      o'.askMessageId = o.askMessageId → o.state = .open → o'.state = .inProgress →
      ∃ now body key due,
        c = .createReply now o.askMessageId o.owingAgentId body .progress key due) ∧
    (∀ (s : Store) now ask requester body disposition key due, s.KeyUnused key →
      s.ReplyBarred ask requester → ∃ e, (Prog.atomically
        (createReplyWithDue now ask requester body disposition key due)).run s =
          (.error e, s)) ∧
    ∀ (s : Store) now agent due reason,
      (∃ e, (Prog.atomically (endSocketWaiterWithOwingDue now agent due reason)).run s =
        (.error e, s)) ∨
      ∃ ended s', (Prog.atomically (endSocketWaiterWithOwingDue now agent due reason)).run s =
          (.ok ended, s') ∧
        (∀ o ∈ s.obligations, o.waitingAgentId = agent → o.state.Unresolved →
          ∃ o' ∈ s'.obligations, o'.askMessageId = o.askMessageId ∧ o'.state = .cancelled) ∧
        (∀ o ∈ s'.obligations, o.waitingAgentId = agent → ¬ o.state.Unresolved) ∧
        ∀ d ∈ s'.deliveries, d.recipientAgentId = some agent →
          d.deliveryTransport = .socketInbox → d.outcome ≠ .queued := by
  refine ⟨fun s s' h_run => absorbs_of_run h_run, ?_, ?_, ?_⟩
  · intro c s s' h_step o h_o o' h_o' h_ask h_open h_progress
    exact c.progress h_step h_o h_o' h_ask (by simp [h_open]) h_progress
  · intro s now ask requester body disposition key due h_unused h_barred
    rw [Prog.run_atomically, createReply_eq_recordNewReply h_unused]
    cases h : (recordNewReply now ask requester body disposition key due).run s with
    | error e => exact ⟨e, rfl⟩
    | ok r => exact absurd h_barred (recordNewReply_notBarred h)
  · intro s now agent due reason
    rw [Prog.run_atomically]
    cases h : (endSocketWaiterWithOwingDue now agent due reason).run s with
    | error e => exact .inl ⟨e, rfl⟩
    | ok r => exact .inr ⟨r.1, r.2, rfl, endSocketWaiter_run h⟩

/-- The asker of an open ask is not the one who owes its reply. -/
theorem obligation_stateMachine_askedRun : ∃ s, Reachable (fun _ _ => True) s ∧
    (∃ o ∈ s.obligations.rows, o.state = .open) ∧
    ∃ e, (Prog.atomically (createReplyWithDue 3 1 1 "Done." .final "k4" none)).run s =
      (.error e, s) := by
  have h : Leads (fun _ _ => True) (fun s => (∃ o ∈ s.obligations.rows, o.state = .open) ∧
      s.KeyUnused "k4" ∧ s.ReplyBarred 1 1) askedRun Store.empty := by decide +kernel
  obtain ⟨s, h_run, h_open, h_unused, h_barred⟩ := h.run
  exact ⟨s, h_run, h_open, obligation_stateMachine.2.2.1 s 3 1 1 "Done." .final "k4" none
    h_unused h_barred⟩

end Kelpie
