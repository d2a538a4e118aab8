/-
  Kelpie.Ledger.Posting

  The transactions that create a message post it: one new message, with its
  obligation, reminder, operation and delivery, and nothing else of the ledger.
-/

import Kelpie.Ledger.Effects
import Kelpie.Store.Calls

namespace Kelpie

open Lib Lib.Tx Ledger

variable {strict : Prop} {s s' : Store}

-- ============================================================================
-- Inserts
-- ============================================================================

theorem insertMessage_run {now : Millis} {sender : Option LogicalAgentId}
    {recipient : LogicalAgentId} {kind : MessageKind} {body : String}
    {reply : Option (MessageId × ReplyDisposition)} {id : MessageId}
    (h : (insertMessage now sender recipient kind body reply).run s = .ok (id, s')) :
    ∃ m t, s' = { s with messages := t } ∧ s.messages.Adds (some m) t ∧
      m.id = id ∧ m.senderAgentId = sender ∧ m.recipientAgentId = recipient ∧
      m.kind = kind ∧ m.replyToMessageId = reply.map Prod.fst ∧
      m.disposition = reply.map Prod.snd ∧ m.id = s.messages.nextId := by
  simp only [insertMessage, run_bind_reads, run_bind_require_ok, run_appendRow,
    Except.ok.injEq, Prod.mk.injEq] at h
  obtain ⟨-, -, -, h_id, rfl⟩ := h
  exact ⟨_, _, rfl, Table.adds_append _, h_id, rfl, rfl, rfl, rfl, rfl, rfl⟩

theorem insertObligation_run {now : Millis} {ask : MessageId}
    {owing waiting : LogicalAgentId} {replyDelivery : ReplyDelivery} {u : Unit}
    (h : (insertObligation now ask owing waiting replyDelivery).run s = .ok (u, s')) :
    ∃ o t, s' = { s with obligations := t } ∧ s.obligations.Adds (some o) t ∧
      o.askMessageId = ask ∧ o.state = .open ∧ o.resolvingMessageId = none := by
  simp only [insertObligation, run_bind_reads, run_insertRow_ok, Prod.mk.injEq] at h
  obtain ⟨t, h_t, -, rfl⟩ := h
  exact ⟨_, t, rfl, Table.adds_insert? h_t, rfl, rfl, rfl⟩

theorem insertReminder_run {ask : MessageId} {intervalMs : Millis} {u : Unit}
    (h : (insertReminder ask intervalMs).run s = .ok (u, s')) :
    ∃ r t, s' = { s with obligationReminders := t } ∧ s.obligationReminders.Adds (some r) t ∧
      r.askMessageId = ask ∧ r.nextDueAtMs = none := by
  simp only [insertReminder, run_bind_require_ok, run_insertRow_ok, Prod.mk.injEq] at h
  obtain ⟨-, t, h_t, -, rfl⟩ := h
  exact ⟨_, t, rfl, Table.adds_insert? h_t, rfl, rfl⟩

theorem insertOperation_run {now : Millis} {key : String} {kind : OperationKind}
    {target : IncarnationId} {intent : OperationIntent} {outcome : OperationOutcome}
    {onReuse : StoreError} {resolvedAtMs : Option Millis} {id : OperationId}
    (h : (insertOperation now key kind target intent outcome onReuse resolvedAtMs).run s =
      .ok (id, s')) :
    ∃ o t, s' = { s with operations := t } ∧ s.operations.Adds (some o) t ∧ o.id = id ∧
      o.kind = kind ∧ o.targetIncarnationId = target ∧ o.outcome = outcome := by
  simp only [insertOperation, run_bind_reads, run_bind_require_ok, run_appendRow,
    Except.ok.injEq, Prod.mk.injEq] at h
  obtain ⟨-, h_id, rfl⟩ := h
  exact ⟨_, _, rfl, Table.adds_append _, h_id, rfl, rfl, rfl⟩

/-- A prompt is a pending operation with the one Herdr delivery of its message. -/
theorem insertPrompt_run {now : Millis} {key : String} {recipient : IncarnationId}
    {intent : PromptIntent} {scheduledAtMs : Millis} {outcome : DeliveryOutcome}
    {onReuse : StoreError} {id : OperationId}
    (h : (insertPrompt now key recipient intent scheduledAtMs outcome onReuse).run s =
      .ok (id, s')) :
    ∃ o d os ds, s' = { s with operations := os, deliveries := ds } ∧
      s.operations.Adds (some o) os ∧ s.deliveries.Adds (some d) ds ∧
      o.kind = .prompt ∧ o.outcome = .pending ∧ d.messageId = intent.messageId ∧
      d.outcome = outcome ∧ d.operationId = some o.id ∧ d.deliveryTransport = .herdrPrompt ∧
      d.recipientIncarnationId = some o.targetIncarnationId := by
  unfold insertPrompt at h
  obtain ⟨id', s₁, h_op, h⟩ := run_bind_ok.mp h
  obtain ⟨o, os, rfl, h_os, rfl, h_kind, rfl, h_pending⟩ := insertOperation_run h_op
  simp only [insertHerdrDelivery, run_bind_ok, run_appendRow, Except.ok.injEq, Prod.mk.injEq,
    run_pure] at h
  obtain ⟨_, _, ⟨_, _, ⟨-, rfl⟩, -, rfl⟩, -, rfl⟩ := h
  exact ⟨o, _, os, _, rfl, h_os, Table.adds_append _, h_kind, h_pending, rfl, rfl, rfl, rfl, rfl⟩

theorem queueSinkDelivery_run {transport : DeliveryTransport} {messageId : MessageId}
    {recipient : LogicalAgentId} {scheduledAtMs : Millis} {u : Unit}
    (h : (queueSinkDelivery transport messageId recipient scheduledAtMs).run s =
      .ok (u, s')) :
    ∃ d t, s' = { s with deliveries := t } ∧ s.deliveries.Adds (some d) t ∧
      d.messageId = messageId ∧ d.outcome = .queued ∧ d.operationId = none ∧
      d.deliveryTransport = transport ∧ d.recipientAgentId = some recipient := by
  simp only [queueSinkDelivery, run_bind_ok, run_appendRow, Except.ok.injEq, Prod.mk.injEq,
    run_pure] at h
  obtain ⟨_, _, ⟨-, rfl⟩, -, rfl⟩ := h
  exact ⟨_, _, rfl, Table.adds_append _, rfl, rfl, rfl, rfl, rfl⟩

theorem deliverySchedule_outcome {now : Millis} {due : Option Millis}
    {schedule : Millis × DeliveryOutcome} (h : deliverySchedule now due = .ok schedule) :
    schedule.2 = .pending ∨ schedule.2 = .queued := by
  cases due with
  | none =>
    simp only [deliverySchedule, Except.ok.injEq] at h
    exact .inl (h ▸ rfl)
  | some due =>
    simp only [deliverySchedule] at h
    split at h
    · cases h
    · cases h
      exact .inr rfl

-- ============================================================================
-- Postings
-- ============================================================================

section Postings

variable {now : Millis} {sender : Option LogicalAgentId} {recipient : LogicalAgentId}
  {kind : MessageKind} {body : String} {reply : Option (MessageId × ReplyDisposition)}
  {id : MessageId} {s₁ : Store}

/-- A message that no delivery carries. -/
theorem posts_message
    (h_m : (insertMessage now sender recipient kind body reply).run s = .ok (id, s'))
    (h_kind : kind ≠ .reply) : ∃ p, Posts p s.ledger s'.ledger := by
  obtain ⟨m, ms, rfl, h_ms, rfl, -, -, rfl, -⟩ := insertMessage_run h_m
  exact ⟨{ message := m },
    { proper :=
        { reply := fun h => absurd h h_kind
          obligation := by simp
          reminder := by simp
          operation := by simp
          delivery := by simp
          herdr := by simp }
      messages := h_ms
      obligations := .none _
      reminders := .none _
      operations := .none _
      deliveries := .none _
      attempts := rfl }⟩

/-- A message into one incarnation; a reply answers an obligation of the store. -/
theorem posts_prompt {key : String} {inc : IncarnationId} {intent : PromptIntent}
    {scheduledAtMs : Millis} {outcome : DeliveryOutcome} {onReuse : StoreError}
    {op : OperationId}
    (h_m : (insertMessage now sender recipient kind body reply).run s = .ok (id, s₁))
    (h_p : (insertPrompt now key inc intent scheduledAtMs outcome onReuse).run s₁ =
      .ok (op, s'))
    (h_intent : intent.messageId = id)
    (h_outcome : outcome = .pending ∨ outcome = .queued)
    (h_reply : kind = .reply → ∃ o ∈ s.obligations, reply.map Prod.fst = some o.askMessageId ∧
      sender = some o.owingAgentId ∧ recipient = o.waitingAgentId) :
    ∃ p, p.message.id = id ∧ p.message.kind = kind ∧ Posts p s.ledger s'.ledger := by
  obtain ⟨m, ms, rfl, h_ms, rfl, rfl, rfl, rfl, h_to, -⟩ := insertMessage_run h_m
  obtain ⟨o, d, os, ds, rfl, h_os, h_ds, h_kind, h_pending, h_message, rfl, h_op, h_herdr,
    h_inc⟩ := insertPrompt_run h_p
  exact ⟨{ message := m, operation := some o, delivery := some d }, rfl, rfl,
    { proper :=
        { reply := fun h => h_to ▸ h_reply h
          obligation := by simp
          reminder := by simp
          operation := by simp [h_kind, h_pending]
          delivery := by simp [h_message, h_intent, h_outcome]
          herdr := by simp [h_op, h_herdr, h_inc] }
      messages := h_ms
      obligations := .none _
      reminders := .none _
      operations := h_os
      deliveries := h_ds
      attempts := rfl }⟩

/-- A message into a sink that the recipient reads for itself. -/
theorem posts_sink {transport : DeliveryTransport} {scheduledAtMs : Millis} {u : Unit}
    (h_m : (insertMessage now sender recipient kind body reply).run s = .ok (id, s₁))
    (h_q : (queueSinkDelivery transport id recipient scheduledAtMs).run s₁ = .ok (u, s'))
    (h_transport : transport ≠ .herdrPrompt)
    (h_reply : kind = .reply → ∃ o ∈ s.obligations, reply.map Prod.fst = some o.askMessageId ∧
      sender = some o.owingAgentId ∧ recipient = o.waitingAgentId) :
    ∃ p, p.message.id = id ∧ p.message.kind = kind ∧ Posts p s.ledger s'.ledger := by
  obtain ⟨m, ms, rfl, h_ms, rfl, rfl, rfl, rfl, h_to, -⟩ := insertMessage_run h_m
  obtain ⟨d, ds, rfl, h_ds, h_message, h_queued, h_op, rfl, -⟩ := queueSinkDelivery_run h_q
  exact ⟨{ message := m, delivery := some d }, rfl, rfl,
    { proper :=
        { reply := fun h => h_to ▸ h_reply h
          obligation := by simp
          reminder := by simp
          operation := by simp
          delivery := by simp [h_message, h_queued]
          herdr := by simp [h_op, h_transport] }
      messages := h_ms
      obligations := .none _
      reminders := .none _
      operations := .none _
      deliveries := h_ds
      attempts := rfl }⟩

/-- An ask into one incarnation, with the obligation it creates and its reminder. -/
theorem posts_ask (interval : Option Millis) {key : String} {inc : IncarnationId}
    {intent : PromptIntent} {scheduledAtMs : Millis} {outcome : DeliveryOutcome}
    {onReuse : StoreError} {op : OperationId} {waiting : LogicalAgentId}
    {replyDelivery : ReplyDelivery}
    {s₂ s₃ : Store} {u v : Unit}
    (h_m : (insertMessage now sender recipient .ask body).run s = .ok (id, s₁))
    (h_o : (insertObligation now id recipient waiting replyDelivery).run s₁ = .ok (u, s₂))
    (h_r : (match interval with
      | some intervalMs => insertReminder id intervalMs
      | none => pure () : StoreTx Unit).run s₂ = .ok (v, s₃))
    (h_p : (insertPrompt now key inc intent scheduledAtMs outcome onReuse).run s₃ =
      .ok (op, s'))
    (h_intent : intent.messageId = id)
    (h_outcome : outcome = .pending ∨ outcome = .queued) :
    ∃ p, Posts p s.ledger s'.ledger := by
  obtain ⟨m, ms, rfl, h_ms, rfl, -, -, h_ask, -⟩ := insertMessage_run h_m
  obtain ⟨ob, obs, rfl, h_obs, h_ob, h_open, h_none⟩ := insertObligation_run h_o
  obtain ⟨r, rs, rfl, h_rs, h_rem⟩ : ∃ r rs,
      s₃ = { s with messages := ms, obligations := obs, obligationReminders := rs } ∧
      s.obligationReminders.Adds r rs ∧
      ∀ x ∈ r, x.askMessageId = m.id ∧ x.nextDueAtMs = none := by
    cases interval with
    | none =>
      simp only [run_pure, Except.ok.injEq, Prod.mk.injEq] at h_r
      exact ⟨none, _, h_r.2.symm, .none _, by simp⟩
    | some intervalMs =>
      obtain ⟨r, rs, rfl, h_rs, h_r, h_due⟩ := insertReminder_run h_r
      exact ⟨some r, rs, rfl, h_rs, by simp [h_r, h_due]⟩
  obtain ⟨o, d, os, ds, rfl, h_os, h_ds, h_kind, h_pending, h_message, rfl, h_op, h_herdr,
    h_inc⟩ := insertPrompt_run h_p
  exact ⟨{ message := m, obligation := some ob, reminder := r, operation := some o,
           delivery := some d },
    { proper :=
        { reply := by simp [h_ask]
          obligation := by simp [h_ob, h_ask, h_open, h_none]
          reminder := fun x h_x => ⟨(h_rem x h_x).1, h_ask, (h_rem x h_x).2⟩
          operation := by simp [h_kind, h_pending]
          delivery := by simp [h_message, h_intent, h_outcome]
          herdr := by simp [h_op, h_herdr, h_inc] }
      messages := h_ms
      obligations := h_obs
      reminders := h_rs
      operations := h_os
      deliveries := h_ds
      attempts := rfl }⟩

end Postings

end Kelpie
