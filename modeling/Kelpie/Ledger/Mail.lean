/-
  Kelpie.Ledger.Mail

  The accounts of the calls that create messages and settle obligations: tells,
  asks, replies, acknowledgements, cancellations, and the end of a waiter.
-/

import Kelpie.Ledger.Accounts

namespace Kelpie

open Lib Lib.Tx Ledger

-- As in `Kelpie.Store.Frames`.
set_option synthInstance.maxSize 100000

variable {strict : Prop} {s s' : Store}

theorem Ledger.Posts.accounted {p : Posting} (h : Posts p s.ledger s'.ledger) :
    Accounted strict s s' := .single (.post h)

-- ============================================================================
-- Tells and asks
-- ============================================================================

section Creation

instance {now recipient inc intent key} :
    Keeps (Accounted strict) (createInitialMessage now recipient inc intent key) where
  keeps {s a s'} h := by
    simp only [createInitialMessage, run_bind_reads, run_bind_require_ok] at h
    obtain ⟨-, -, -, -, -, h⟩ := h
    obtain ⟨id, s₁, h_m, h⟩ := run_bind_ok.mp h
    split at h
    · rename_i h_ask _
      obtain ⟨_, s₂, h_ob, h⟩ := run_bind_ok.mp h
      obtain ⟨_, s₃, h_rem, h⟩ := run_bind_ok.mp h
      obtain ⟨op, s₄, h_p, h⟩ := run_bind_ok.mp h
      cases h
      rw [h_ask] at h_m
      obtain ⟨p, h_posts⟩ := posts_ask (some createInitialMessage.defaultReminderIntervalMs)
        h_m h_ob h_rem h_p rfl (.inl rfl)
      exact h_posts.accounted
    · obtain ⟨op, s₂, h_p, h⟩ := run_bind_ok.mp h
      cases h
      obtain ⟨p, -, -, h_posts⟩ := posts_prompt h_m h_p rfl (.inl rfl) (by split <;> simp)
      exact h_posts.accounted

instance {now sender recipient inc body key due remind attributed delivery} :
    Keeps (Accounted strict) (createAskWithReplyDelivery now sender recipient inc body key due
      remind attributed delivery) where
  keeps {s a s'} h := by
    simp only [createAskWithReplyDelivery, run_bind_require_ok, run_bind_query_ok] at h
    obtain ⟨-, replay, -, h⟩ := h
    cases replay with
    | some replay =>
      simp only [run_bind_require_ok, run_pure, Except.ok.injEq, Prod.mk.injEq] at h
      obtain ⟨-, -, rfl⟩ := h
      exact .refl
    | none =>
      simp only [run_bind_query_ok, run_bind_reads, run_bind_require_ok] at h
      obtain ⟨schedule, h_schedule, -, waiting, -, -, -, -, h⟩ := h
      obtain ⟨id, s₁, h_m, h⟩ := run_bind_ok.mp h
      obtain ⟨_, s₂, h_ob, h⟩ := run_bind_ok.mp h
      have h_outcome := deliverySchedule_outcome h_schedule
      cases remind with
      | none =>
        obtain ⟨op, s₄, h_p, h⟩ := run_bind_ok.mp h
        cases h
        obtain ⟨p, h_posts⟩ := posts_ask none h_m h_ob rfl h_p rfl h_outcome
        exact h_posts.accounted
      | some interval =>
        obtain ⟨_, s₃, h_rem, h⟩ := run_bind_ok.mp h
        obtain ⟨op, s₄, h_p, h⟩ := run_bind_ok.mp h
        cases h
        obtain ⟨p, h_posts⟩ := posts_ask (some interval) h_m h_ob h_rem h_p rfl h_outcome
        exact h_posts.accounted

instance {now sender recipient inc body key due} :
    Keeps (Accounted strict) (createTellWithDue now sender recipient inc body key due) where
  keeps {s a s'} h := by
    simp only [createTellWithDue, run_bind_query_ok] at h
    obtain ⟨replay, -, h⟩ := h
    cases replay with
    | some replay =>
      cases h
      exact .refl
    | none =>
      simp only [run_bind_query_ok, run_bind_reads, run_bind_require_ok] at h
      obtain ⟨schedule, h_schedule, -, -, h⟩ := h
      obtain ⟨id, s₁, h_m, h⟩ := run_bind_ok.mp h
      obtain ⟨op, s₂, h_p, h⟩ := run_bind_ok.mp h
      cases h
      obtain ⟨p, -, -, h_posts⟩ :=
        posts_prompt h_m h_p rfl (deliverySchedule_outcome h_schedule) (by simp)
      exact h_posts.accounted

instance {now sender recipient body key due} :
    Keeps (Accounted strict) (createSocketTell now sender recipient body key due) where
  keeps {s a s'} h := by
    simp only [createSocketTell, run_bind_query_ok] at h
    obtain ⟨replay, -, h⟩ := h
    cases replay with
    | some replay =>
      cases h
      exact .refl
    | none =>
      simp only [run_bind_query_ok, run_bind_reads, run_bind_require_ok] at h
      obtain ⟨schedule, -, _, -, -, h⟩ := h
      obtain ⟨id, s₁, h_m, h⟩ := run_bind_ok.mp h
      obtain ⟨_, s₂, h_q, h⟩ := run_bind_ok.mp h
      obtain ⟨p, -, -, h_posts⟩ := posts_sink h_m h_q (by decide) (by simp)
      exact Accounted.stepwise.trans h_posts.accounted (Keeps.keeps h)

/-- A firing posts at most one tell. -/
instance {item nowMs} : Keeps (Accounted strict) (fireTellSchedule item nowMs) where
  keeps {s a s'} h := by
    simp only [fireTellSchedule, run_bind_reads, run_bind_require_ok] at h
    obtain ⟨-, h⟩ := h
    obtain ⟨_, s₁, h_schedule, h⟩ := run_bind_ok.mp h
    refine Accounted.stepwise.trans (Keeps.keeps h_schedule) ?_
    have h_firing {outcome messageId detail} :
        Keeps (Accounted strict) (insertFiring item nowMs outcome messageId detail) := by
      unfold insertFiring
      infer_instance
    split at h
    · exact Keeps.keeps h
    split at h
    · exact Keeps.keeps h
    · obtain ⟨id, s₂, h_m, h⟩ := run_bind_ok.mp h
      obtain ⟨_, s₃, h_q, h⟩ := run_bind_ok.mp h
      obtain ⟨p, -, -, h_posts⟩ := posts_sink h_m h_q (by decide) (by simp)
      exact Accounted.stepwise.trans h_posts.accounted (Keeps.keeps h)
    · obtain ⟨id, s₂, h_m, h⟩ := run_bind_ok.mp h
      obtain ⟨op, s₃, h_p, h⟩ := run_bind_ok.mp h
      obtain ⟨p, -, -, h_posts⟩ := posts_prompt h_m h_p rfl (.inr rfl) (by simp)
      exact Accounted.stepwise.trans h_posts.accounted (Keeps.keeps h)

end Creation

-- ============================================================================
-- Replies
-- ============================================================================

section Replies

variable {now : Millis} {replyTo : MessageId} {requester : LogicalAgentId}
  {disposition : ReplyDisposition}

theorem replyableObligation_ok {o : ObligationRow}
    (h : replyableObligation replyTo requester s = .ok o) :
    o ∈ s.obligations ∧ o.askMessageId = replyTo ∧ o.owingAgentId = requester ∧
      o.state.Unresolved := by
  unfold replyableObligation at h
  split at h
  · cases h
  · rename_i o' h_find
    obtain ⟨h_mem, h_ask⟩ := Table.find_eq_some.mp h_find
    split at h
    · cases h
    · rename_i h_open
      split at h
      · cases h
      · rename_i h_owing
        cases h
        exact ⟨h_mem, h_ask, (Classical.not_not.mp h_owing).symm,
          Classical.not_not.mp h_open⟩

theorem refreshReminderActivity_run {u : Unit}
    (h : (refreshReminderActivity now replyTo).run s = .ok (u, s')) :
    ∃ t, s' = { s with obligationReminders := t } ∧
      s.obligationReminders.Edits (Refreshed replyTo) t := by
  simp only [refreshReminderActivity] at h
  obtain ⟨_, s₁, h_rem, h⟩ := run_bind_ok.mp h
  cases h
  refine run_updateRows_edits (Refreshed replyTo) h_rem ?_ fun _ _ _ => .inl rfl
  rintro r - ⟨h_ask, h_disabled, h_suspended⟩
  exact .inr ⟨h_ask, h_ask, h_disabled, h_suspended, rfl⟩

/-- The activity that a reply records on an obligation that is owed. -/
theorem replyActivity_run {o : ObligationRow} {u : Unit} {g : Ledger}
    (h : (applyReplyObligationActivity now replyTo disposition).run s = .ok (u, s'))
    (h_g : s.ledger = g) (h_mem : o ∈ g.obligations) (h_ask : o.askMessageId = replyTo)
    (h_owing : o.owingAgentId = requester) (h_open : o.state.Unresolved) :
    Answers replyTo requester disposition g s'.ledger := by
  subst h_g
  cases disposition with
  | progress =>
    simp only [applyReplyObligationActivity] at h
    obtain ⟨_, s₁, h_ob, h⟩ := run_bind_ok.mp h
    obtain ⟨obs, rfl, h_obs⟩ := run_updateRows_edits (Answered replyTo .progress) h_ob
      (fun o' _ h_ask' => ⟨⟨rfl, rfl, rfl⟩, rfl, .inr ⟨h_ask', rfl, rfl⟩⟩)
      fun _ _ _ => ⟨.rfl, rfl, .inl rfl⟩
    obtain ⟨t, rfl, h_t⟩ := refreshReminderActivity_run h
    exact
      { owed := ⟨o, h_mem, h_ask, h_owing, h_open⟩
        obligations := h_obs
        reminders := h_t
        messages := rfl
        deliveries := rfl
        operations := rfl
        attempts := rfl }
  | final =>
    simp only [applyReplyObligationActivity] at h
    obtain ⟨_, s₁, h_ob, h⟩ := run_bind_ok.mp h
    obtain ⟨obs, rfl, h_obs⟩ := run_updateRows_edits (Answered replyTo .final) h_ob
      (fun o' _ _ => ⟨⟨rfl, rfl, rfl⟩, rfl, .inl rfl⟩) fun _ _ _ => ⟨.rfl, rfl, .inl rfl⟩
    obtain ⟨t, rfl, h_t⟩ := refreshReminderActivity_run h
    exact
      { owed := ⟨o, h_mem, h_ask, h_owing, h_open⟩
        obligations := h_obs
        reminders := h_t
        messages := rfl
        deliveries := rfl
        operations := rfl
        attempts := rfl }

theorem recordNewReply_answers {body key : String} {due : Option Millis} {r : CreatedReply}
    (h : (recordNewReply now replyTo requester body disposition key due).run s = .ok (r, s')) :
    ∃ p g, p.message.kind = .reply ∧ Posts p s.ledger g ∧
      Answers replyTo requester disposition g s'.ledger := by
  simp only [recordNewReply, run_bind_query_ok, run_bind_require_ok] at h
  obtain ⟨o, h_o, identity, -, -, h⟩ := h
  obtain ⟨h_mem, h_ask, h_owing, h_open⟩ := replyableObligation_ok h_o
  obtain ⟨id, s₁, h_m, h⟩ := run_bind_ok.mp h
  have h_reply : MessageKind.reply = .reply → ∃ o' ∈ s.obligations,
      (some (replyTo, disposition)).map Prod.fst = some o'.askMessageId ∧
        some o.owingAgentId = some o'.owingAgentId ∧ o.waitingAgentId = o'.waitingAgentId :=
    fun _ => ⟨o, h_mem, by simp [h_ask], rfl, rfl⟩
  -- A sink posts the reply and stores its key before the activity.
  have h_sink {transport : DeliveryTransport} {T : TableOf Store MessageKeyRow.idempotencyKey}
      [Ignores SameLedger T] {s₂ s₃ s₄ : Store} {u v w : Unit}
      (h_transport : transport ≠ .herdrPrompt)
      (h_q : (queueSinkDelivery transport id o.waitingAgentId now).run s₁ = .ok (u, s₂))
      (h_key : (insertRow T { idempotencyKey := key, messageId := id } idempotencyKeyExists :
        StoreTx Unit).run s₂ = .ok (v, s₃))
      (h_act : (applyReplyObligationActivity now replyTo disposition).run s₃ = .ok (w, s₄)) :
      ∃ p g, p.message.kind = .reply ∧ Posts p s.ledger g ∧
        Answers replyTo requester disposition g s₄.ledger := by
    obtain ⟨p, -, h_kind, h_posts⟩ := posts_sink h_m h_q h_transport h_reply
    have h_same : SameLedger s₂ s₃ := Keeps.keeps h_key
    have h_mem' : o ∈ s₂.ledger.obligations := (h_posts.obligations.mem o).mpr (.inl h_mem)
    exact ⟨p, s₂.ledger, h_kind, h_posts,
      replyActivity_run h_act h_same h_mem' h_ask h_owing h_open⟩
  split at h
  · obtain ⟨_, s₂, h_q, h⟩ := run_bind_ok.mp h
    obtain ⟨_, s₃, h_key, h⟩ := run_bind_ok.mp h
    obtain ⟨_, s₄, h_act, h⟩ := run_bind_ok.mp h
    cases h
    exact h_sink (by decide) h_q h_key h_act
  split at h
  · obtain ⟨_, s₂, h_q, h⟩ := run_bind_ok.mp h
    obtain ⟨_, s₃, h_key, h⟩ := run_bind_ok.mp h
    obtain ⟨_, s₄, h_act, h⟩ := run_bind_ok.mp h
    cases h
    exact h_sink (by decide) h_q h_key h_act
  · simp only [run_bind_require_ok, run_bind_query_ok] at h
    obtain ⟨-, inc, -, h⟩ := h
    obtain ⟨op, s₂, h_p, h⟩ := run_bind_ok.mp h
    obtain ⟨_, s₃, h_act, h⟩ := run_bind_ok.mp h
    cases h
    obtain ⟨p, -, h_kind, h_posts⟩ := posts_prompt h_m h_p rfl (by split <;> simp) h_reply
    have h_mem' : o ∈ s₂.ledger.obligations := (h_posts.obligations.mem o).mpr (.inl h_mem)
    exact ⟨p, s₂.ledger, h_kind, h_posts,
      replyActivity_run h_act rfl h_mem' h_ask h_owing h_open⟩

/-- A reply call replays an earlier one, or records a new reply. -/
theorem createReply_cases {body key : String} {due : Option Millis} {r : CreatedReply}
    (h : (createReplyWithDue now replyTo requester body disposition key due).run s =
      .ok (r, s')) :
    s' = s ∨
      (recordNewReply now replyTo requester body disposition key due).run s = .ok (r, s') := by
  simp only [createReplyWithDue, run_bind_query_ok] at h
  obtain ⟨replay, -, h⟩ := h
  cases replay with
  | some replay =>
    simp only [run_bind_orFail_ok, run_pure, Except.ok.injEq, Prod.mk.injEq] at h
    obtain ⟨_, -, -, rfl⟩ := h
    exact .inl rfl
  | none =>
    simp only [run_bind_query_ok] at h
    obtain ⟨pulled, -, h⟩ := h
    cases pulled with
    | some replay =>
      cases h
      exact .inl rfl
    | none =>
      simp only [run_bind_query_ok] at h
      obtain ⟨queued, -, h⟩ := h
      cases queued with
      | some replay =>
        cases h
        exact .inl rfl
      | none => exact .inr h

/-- A reply that is recorded is posted, with its activity. -/
theorem createReply_answers {body key : String} {due : Option Millis} {r : CreatedReply}
    (h : (createReplyWithDue now replyTo requester body disposition key due).run s =
      .ok (r, s')) :
    s' = s ∨ ∃ p g, p.message.kind = .reply ∧ Posts p s.ledger g ∧
      Answers replyTo requester disposition g s'.ledger :=
  (createReply_cases h).imp_right recordNewReply_answers

end Replies

-- ============================================================================
-- Sinks
-- ============================================================================

section Sinks

instance {now name parent key} :
    Keeps (Accounted strict) (registerSocketWaiter now name parent key) := by
  unfold registerSocketWaiter
  have h_match (s : Store) (o : Option LogicalAgentRow) : Keeps (Accounted strict) (match o with
      | some l => query fun _ => replaySocketWaiter l name parent
      | none => do
        query (refuseNameHeldBySocketWaiter name)
        query (refuseLiveOrPendingAlias name)
        require (∀ id ∈ parent.id?, (s.logicalAgents.find id).isSome)
          (.conflict "parent logical agent does not exist")
        let logicalAgentId ← insertLogicalAgent now name parent .socketInbox
        insertRow Tab.socketWaiterKeys { idempotencyKey := key, logicalAgentId }
          idempotencyKeyExists
        return logicalAgentId : StoreTx LogicalAgentId) := by
    cases o <;> infer_instance
  have h_read (s : Store) := h_match s
    ((s.socketWaiterKeys.find key).bind fun k => s.logicalAgents.find k.logicalAgentId)
  exact Keeps.bind _ _

instance {agent nowMs} : Keeps (Accounted strict) (touchWaiterSeen agent nowMs) := by
  unfold touchWaiterSeen
  infer_instance

instance {nowMs} : Keeps (Accounted strict) (bootResetWaiterSeen nowMs) := by
  unfold bootResetWaiterSeen
  infer_instance

instance {now ask requester} :
    Keeps (Accounted strict) (claimAskPullLease now ask requester) := by
  have h_seq {n : Nat} : Keeps (Accounted strict)
      (writes fun s => { s with askPullLeasesSeq := n } : StoreTx Unit) :=
    .writes fun _ => .refl
  unfold claimAskPullLease
  infer_instance

/-- A final reply resolves the ask once a delivery of it is accepted. -/
theorem resolveFinalReply_accounted {now : Millis} {messageId : MessageId}
    {answers : MessageId → Prop} [DecidablePred answers] {u : Unit}
    (h : (resolveFinalReply now messageId answers).run s = .ok (u, s'))
    (h_accepted : s.ledger.Accepted messageId) : Accounted strict s s' := by
  simp only [resolveFinalReply, run_bind_reads] at h
  split at h
  · cases h
    exact .refl
  · rename_i ask resolving h_final
    split at h
    · obtain ⟨_, s₁, h_resolve, h⟩ := run_bind_ok.mp h
      cases h
      obtain ⟨t, rfl, h_t⟩ := resolveObligation_run h_resolve
      obtain ⟨m, h_m, rfl, h_reply, h_disp, h_to⟩ := finalReplyAmong_eq_some h_final
      obtain ⟨h_mem, h_id⟩ := Table.find_eq_some.mp (Option.mem_toList.mp h_m)
      exact .single (.resolve ⟨m, h_mem, rfl, h_reply, h_disp, h_to⟩ (h_id ▸ h_accepted) h_t)
    · cases h
      exact .refl

/-- Reading a queued row of a sink accepts it. -/
theorem acceptSinkDelivery_run {now : Millis} {transport : DeliveryTransport}
    {messageId : MessageId} {recipient : LogicalAgentId} {u : Unit} {d : DeliveryRow}
    (h : (acceptSinkDelivery now transport messageId recipient).run s = .ok (u, s'))
    (h_transport : transport ≠ .herdrPrompt) (h_d : d ∈ s.deliveries)
    (h_sink : d.InSink transport messageId recipient) (h_queued : d.outcome = .queued) :
    Accounted strict s s' ∧ s'.ledger.Accepted messageId := by
  simp only [acceptSinkDelivery] at h
  obtain ⟨_, s₁, h_update, h⟩ := run_bind_ok.mp h
  cases h
  -- Every row moves, and the row that was read is one of those that are accepted.
  obtain ⟨ds, rfl, h_ds⟩ := run_updateRows_edits
    (fun d d' => Moved d d' ∧
      (d.InSink transport messageId recipient ∧ d.outcome = .queued → d'.outcome = .accepted))
    h_update
    (fun d' _ h_row => ⟨⟨⟨rfl, rfl, rfl, rfl, rfl, rfl⟩,
      .inr (.inr ⟨h_row.1.2.2 ▸ h_transport, h_row.2, .inl rfl⟩)⟩, fun _ => rfl⟩)
    fun d' _ h_not => ⟨⟨.rfl, .inl rfl⟩, fun h_row => absurd h_row h_not⟩
  obtain ⟨d', h_d', h_moved, h_accepted⟩ := h_ds.image d h_d
  refine ⟨.single (.deliver (h_ds.mono fun _ _ _ _ h => h.1)), d', h_d', ?_, ?_⟩
  · exact h_moved.1.message.trans h_sink.1
  · exact h_accepted ⟨h_sink, h_queued⟩

instance {now recipient message} :
    Keeps (Accounted strict) (ackSocketInboxDelivery now recipient message) where
  keeps {s a s'} h := by
    simp only [ackSocketInboxDelivery, run_bind_query_ok, run_bind_reads,
      run_bind_orFail_ok] at h
    obtain ⟨_, -, d, h_find, h⟩ := h
    have h_d : d ∈ s.deliveries := List.mem_of_find?_eq_some h_find
    have h_sink : d.InSink .socketInbox message recipient := by
      simpa using List.find?_some h_find
    split at h
    · cases h
      exact .refl
    · simp only [run_bind_require_ok] at h
      obtain ⟨h_queued, h⟩ := h
      obtain ⟨_, s₁, h_accept, h⟩ := run_bind_ok.mp h
      obtain ⟨_, s₂, h_resolve, h⟩ := run_bind_ok.mp h
      cases h
      obtain ⟨h_acc, h_accepted⟩ :=
        acceptSinkDelivery_run h_accept (by decide) h_d h_sink h_queued
      exact h_acc.trans (resolveFinalReply_accounted h_resolve h_accepted)

instance {now ask requester message lease} :
    Keeps (Accounted strict) (ackAskPullDelivery now ask requester message lease) where
  keeps {s a s'} h := by
    simp only [ackAskPullDelivery, run_bind_query_ok, run_bind_reads,
      run_bind_orFail_ok] at h
    obtain ⟨_, -, _, -, d, h_find, h⟩ := h
    have h_d : d ∈ s.deliveries := List.mem_of_find?_eq_some h_find
    have h_row := List.find?_some h_find
    simp only [decide_eq_true_eq] at h_row
    obtain ⟨h_sink, -⟩ := h_row
    split at h
    · rename_i h_accepted
      obtain ⟨_, s₁, h_resolve, h⟩ := run_bind_ok.mp h
      cases h
      exact resolveFinalReply_accounted h_resolve ⟨d, h_d, h_sink.1, h_accepted⟩
    · simp only [run_bind_require_ok] at h
      obtain ⟨h_queued, h⟩ := h
      obtain ⟨_, s₁, h_accept, h⟩ := run_bind_ok.mp h
      obtain ⟨_, s₂, h_resolve, h⟩ := run_bind_ok.mp h
      cases h
      obtain ⟨h_acc, h_accepted⟩ :=
        acceptSinkDelivery_run h_accept (by decide) h_d h_sink h_queued
      exact h_acc.trans (resolveFinalReply_accounted h_resolve h_accepted)

end Sinks

end Kelpie
