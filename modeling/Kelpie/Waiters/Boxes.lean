/-
  Kelpie.Waiters.Boxes

  The inboxes of the waiters.  A delivery of an inbox keeps its schedule and its
  outcome, until its recipient acknowledges it or comes to its end.

  An ask is delivered by a prompt, so that the sweep of settled asks passes the
  inboxes by.
-/

import Kelpie.Ledger.Linked
import Kelpie.Ledger.Posting
import Kelpie.Waiters.Roll

namespace Kelpie

open Lib Lib.Tx
open DeliveryRow (Routes Posted)
open ObligationRow (Settles Annotates Observes)

-- As in `Kelpie.Store.Frames`.
set_option synthInstance.maxSize 100000

-- ============================================================================
-- Deliveries of inboxes
-- ============================================================================

section Rows

/-- A delivery into an inbox, under no operation and into no incarnation. -/
structure DeliveryRow.Boxed (d : DeliveryRow) : Prop where
  transport : d.deliveryTransport = .socketInbox
  operation : d.operationId = none
  incarnation : d.recipientIncarnationId = none

variable {acked : LogicalAgentId → MessageId → Prop} {ended : LogicalAgentId → Prop}

/-- A queued delivery that its recipient acknowledges, or whose recipient ends. -/
inductive DeliveryRow.Leaves (acked : LogicalAgentId → MessageId → Prop)
    (ended : LogicalAgentId → Prop) (d d' : DeliveryRow) : Prop where
  | acked (agent : LogicalAgentId) (h_agent : d.recipientAgentId = some agent)
      (h : acked agent d.messageId) (h_accepted : d'.outcome = .accepted)
  | ended (agent : LogicalAgentId) (h_agent : d.recipientAgentId = some agent)
      (h : ended agent) (h_unavailable : d'.outcome = .targetUnavailable)

/-- The same delivery, which rests in its inbox or leaves the queue. -/
structure DeliveryRow.Rests (acked : LogicalAgentId → MessageId → Prop)
    (ended : LogicalAgentId → Prop) (d d' : DeliveryRow) : Prop extends DeliveryRow.SameMail d d'
    where
  scheduled : d.Boxed → d'.scheduledAtMs = d.scheduledAtMs
  outcome : d.Boxed → d'.outcome = d.outcome ∨ d.outcome = .queued ∧ d.Leaves acked ended d'

theorem DeliveryRow.Rests.rfl {d : DeliveryRow} : d.Rests acked ended d :=
  ⟨.rfl, fun _ => .refl _, fun _ => .inl (.refl _)⟩

theorem DeliveryRow.SameMail.boxed {d d' : DeliveryRow} (h : d.SameMail d') :
    d'.Boxed ↔ d.Boxed := by
  constructor
  · intro h_box
    exact ⟨h.transport ▸ h_box.transport, h.operation ▸ h_box.operation,
      h.incarnation ▸ h_box.incarnation⟩
  · intro h_box
    exact ⟨h.transport.trans h_box.transport, h.operation.trans h_box.operation,
      h.incarnation.trans h_box.incarnation⟩

/-- What left the queue does not leave it again. -/
theorem DeliveryRow.Leaves.ne_queued {d d' : DeliveryRow} (h : d.Leaves acked ended d') :
    d'.outcome ≠ .queued := by
  cases h with
  | acked _ _ _ h_accepted =>
    rw [h_accepted]
    decide
  | ended _ _ _ h_unavailable =>
    rw [h_unavailable]
    decide

theorem DeliveryRow.Leaves.congr {d d₁ d' d₁' : DeliveryRow} (h : d.Leaves acked ended d')
    (h_mail : d₁.SameMail d) (h_outcome : d₁'.outcome = d'.outcome) :
    d₁.Leaves acked ended d₁' := by
  cases h with
  | acked agent h_agent h h_accepted =>
    exact .acked agent (h_mail.agent ▸ h_agent) (h_mail.message ▸ h) (h_outcome.trans h_accepted)
  | ended agent h_agent h h_unavailable =>
    exact .ended agent (h_mail.agent ▸ h_agent) h (h_outcome.trans h_unavailable)

theorem DeliveryRow.Rests.trans {d d₁ d' : DeliveryRow} (h : d.Rests acked ended d₁)
    (h' : d₁.Rests acked ended d') : d.Rests acked ended d' where
  toSameMail := h.toSameMail.trans h'.toSameMail
  scheduled h_box := (h'.scheduled (h.toSameMail.boxed.mpr h_box)).trans (h.scheduled h_box)
  outcome h_box := by
    rcases h'.outcome (h.toSameMail.boxed.mpr h_box) with h_same' | ⟨h_queued', h_leaves'⟩
    · rcases h.outcome h_box with h_same | ⟨h_queued, h_leaves⟩
      · exact .inl (h_same'.trans h_same)
      · exact .inr ⟨h_queued, h_leaves.congr .rfl h_same'⟩
    · rcases h.outcome h_box with h_same | ⟨-, h_leaves⟩
      · exact .inr ⟨h_same.symm.trans h_queued', h_leaves'.congr h.toSameMail (.refl _)⟩
      · exact absurd h_queued' h_leaves.ne_queued

theorem DeliveryRow.Leaves.mono {acked' : LogicalAgentId → MessageId → Prop}
    {ended' : LogicalAgentId → Prop} {d d' : DeliveryRow} (h : d.Leaves acked ended d')
    (h_acked : ∀ a m, acked a m → acked' a m) (h_ended : ∀ a, ended a → ended' a) :
    d.Leaves acked' ended' d' := by
  cases h with
  | acked agent h_agent h h_accepted => exact .acked agent h_agent (h_acked _ _ h) h_accepted
  | ended agent h_agent h h_unavailable =>
    exact .ended agent h_agent (h_ended _ h) h_unavailable

theorem DeliveryRow.Rests.mono {acked' : LogicalAgentId → MessageId → Prop}
    {ended' : LogicalAgentId → Prop} {d d' : DeliveryRow} (h : d.Rests acked ended d')
    (h_acked : ∀ a m, acked a m → acked' a m) (h_ended : ∀ a, ended a → ended' a) :
    d.Rests acked' ended' d' where
  toSameMail := h.toSameMail
  scheduled := h.scheduled
  outcome h_box := (h.outcome h_box).imp_right (.imp_right (·.mono h_acked h_ended))

/-- What is not in an inbox rests. -/
theorem DeliveryRow.SameMail.rests {d d' : DeliveryRow} (h : d.SameMail d') (h_box : ¬ d.Boxed) :
    d.Rests acked ended d' :=
  ⟨h, fun h_d => absurd h_d h_box, fun h_d => absurd h_d h_box⟩

theorem DeliveryRow.Routes.rests {d d' : DeliveryRow} (h : d.Routes d') :
    d.Rests acked ended d' := by
  by_cases h_box : d.Boxed
  · rw [h.sink h_box.operation h_box.incarnation]
    exact .rfl
  · have h_mail : d.SameMail d' :=
      ⟨h.rowid, h.message, h.transport, h.incarnation, h.agent, h.operation⟩
    exact h_mail.rests h_box

end Rows

-- ============================================================================
-- Inboxes
-- ============================================================================

section Inboxes

variable {acked : LogicalAgentId → MessageId → Prop} {ended : LogicalAgentId → Prop}
  {s s' : Store}

/-- The message goes to its recipient under an operation. -/
def Store.Prompted (s : Store) (message : MessageId) : Prop :=
  ∃ d ∈ s.deliveries, d.messageId = message ∧ d.operationId.isSome

/-- The deliveries rest or leave, the new ones into inboxes are in no incarnation's way, and
    what is newly asked is prompted. -/
structure Boxes (acked : LogicalAgentId → MessageId → Prop) (ended : LogicalAgentId → Prop)
    (s s' : Store) : Prop where
  kept : ∀ d ∈ s.deliveries, ∃ d' ∈ s'.deliveries, d.Rests acked ended d'
  origin : ∀ d' ∈ s'.deliveries, (∃ d ∈ s.deliveries, d.Rests acked ended d') ∨
    (d'.deliveryTransport = .socketInbox → d'.Boxed)
  asked : ∀ o' ∈ s'.obligations, (∃ o ∈ s.obligations, o.askMessageId = o'.askMessageId) ∨
    s'.Prompted o'.askMessageId

theorem Boxes.of_same (h_deliveries : s'.deliveries = s.deliveries)
    (h_obligations : s'.obligations = s.obligations) : Boxes acked ended s s' where
  kept d h_d := ⟨d, h_deliveries ▸ h_d, .rfl⟩
  origin d' h_d' := .inl ⟨d', h_deliveries ▸ h_d', .rfl⟩
  asked o' h_o' := .inl ⟨o', h_obligations ▸ h_o', rfl⟩

/-- Edits of the deliveries. -/
theorem Boxes.of_edits {t : Table DeliveryRow.rowid}
    (h : s.deliveries.Edits (DeliveryRow.Rests acked ended) t) :
    Boxes acked ended s { s with deliveries := t } where
  kept := h.image
  origin d' h_d' := .inl (h.origin d' h_d')
  asked o' h_o' := .inl ⟨o', h_o', rfl⟩

theorem Store.Prompted.boxes {message : MessageId} (h : s.Prompted message)
    (h_boxes : Boxes acked ended s s') : s'.Prompted message := by
  obtain ⟨d, h_d, h_message, h_op⟩ := h
  obtain ⟨d', h_d', h_rests⟩ := h_boxes.kept d h_d
  exact ⟨d', h_d', h_rests.message.trans h_message, h_rests.operation ▸ h_op⟩

instance Boxes.stepwise : Stepwise (Boxes acked ended) where
  refl _ := .of_same rfl rfl
  trans {s₁ s₂ s₃} h h' := by
    constructor
    · intro d h_d
      obtain ⟨d₂, h_d₂, h_rests⟩ := h.kept d h_d
      obtain ⟨d₃, h_d₃, h_rests'⟩ := h'.kept d₂ h_d₂
      exact ⟨d₃, h_d₃, h_rests.trans h_rests'⟩
    · intro d₃ h_d₃
      rcases h'.origin d₃ h_d₃ with ⟨d₂, h_d₂, h_rests'⟩ | h_new
      · rcases h.origin d₂ h_d₂ with ⟨d₁, h_d₁, h_rests⟩ | h_new
        · exact .inl ⟨d₁, h_d₁, h_rests.trans h_rests'⟩
        · refine .inr fun h_socket => h_rests'.toSameMail.boxed.mpr (h_new ?_)
          rw [← h_rests'.transport, h_socket]
      · exact .inr h_new
    · intro o₃ h_o₃
      rcases h'.asked o₃ h_o₃ with ⟨o₂, h_o₂, h_ask⟩ | h_prompted
      · rcases h.asked o₂ h_o₂ with ⟨o₁, h_o₁, h_ask'⟩ | h_prompted
        · exact .inl ⟨o₁, h_o₁, h_ask'.trans h_ask⟩
        · exact .inr (h_ask ▸ h_prompted.boxes h')
      · exact .inr h_prompted

theorem Boxes.mono {acked' : LogicalAgentId → MessageId → Prop} {ended' : LogicalAgentId → Prop}
    (h : Boxes acked ended s s') (h_acked : ∀ a m, acked a m → acked' a m)
    (h_ended : ∀ a, ended a → ended' a) : Boxes acked' ended' s s' where
  kept d h_d := by
    obtain ⟨d', h_d', h_rests⟩ := h.kept d h_d
    exact ⟨d', h_d', h_rests.mono h_acked h_ended⟩
  origin d' h_d' := by
    refine (h.origin d' h_d').imp_left ?_
    rintro ⟨d, h_d, h_rests⟩
    exact ⟨d, h_d, h_rests.mono h_acked h_ended⟩
  asked := h.asked

end Inboxes

-- ============================================================================
-- Transactions
-- ============================================================================

section Transactions

variable {acked : LogicalAgentId → MessageId → Prop} {ended : LogicalAgentId → Prop}
  {s s' : Store}

instance : Ignores (Boxes acked ended) Tab.logicalAgents := ⟨fun _ _ => .of_same rfl rfl⟩
instance : Ignores (Boxes acked ended) Tab.incarnations := ⟨fun _ _ => .of_same rfl rfl⟩
instance : Ignores (Boxes acked ended) Tab.operations := ⟨fun _ _ => .of_same rfl rfl⟩
instance : Ignores (Boxes acked ended) Tab.operationAttempts := ⟨fun _ _ => .of_same rfl rfl⟩
instance : Ignores (Boxes acked ended) Tab.operatorNotices := ⟨fun _ _ => .of_same rfl rfl⟩
instance : Ignores (Boxes acked ended) Tab.messages := ⟨fun _ _ => .of_same rfl rfl⟩
instance : Ignores (Boxes acked ended) Tab.obligationReminders := ⟨fun _ _ => .of_same rfl rfl⟩
instance : Ignores (Boxes acked ended) Tab.reminderAttempts := ⟨fun _ _ => .of_same rfl rfl⟩
instance : Ignores (Boxes acked ended) Tab.schedules := ⟨fun _ _ => .of_same rfl rfl⟩
instance : Ignores (Boxes acked ended) Tab.renews := ⟨fun _ _ => .of_same rfl rfl⟩
instance : Ignores (Boxes acked ended) Tab.renewAttempts := ⟨fun _ _ => .of_same rfl rfl⟩
instance : Ignores (Boxes acked ended) Tab.socketWaiterKeys := ⟨fun _ _ => .of_same rfl rfl⟩
instance : Ignores (Boxes acked ended) Tab.socketInboxKeys := ⟨fun _ _ => .of_same rfl rfl⟩
instance : Ignores (Boxes acked ended) Tab.scheduleFirings := ⟨fun _ _ => .of_same rfl rfl⟩
instance : Ignores (Boxes acked ended) Tab.askPullLeases := ⟨fun _ _ => .of_same rfl rfl⟩
instance : Ignores (Boxes acked ended) Tab.askPullKeys := ⟨fun _ _ => .of_same rfl rfl⟩
instance : IgnoresCounters (Boxes acked ended) :=
  ⟨fun _ _ => .of_same rfl rfl, fun _ _ => .of_same rfl rfl, fun _ _ => .of_same rfl rfl⟩

theorem Boxes.tolerates {e : ObligationRow → ObligationRow → Prop}
    (h_e : ∀ o o', e o o' → o'.askMessageId = o.askMessageId) :
    Tolerates (Boxes acked ended) Tab.obligations e where
  put s t h :=
    { kept := fun d h_d => ⟨d, h_d, .rfl⟩
      origin := fun d' h_d' => .inl ⟨d', h_d', .rfl⟩
      asked := fun o' h_o' => by
        obtain ⟨o, h_o, h_edit⟩ := h.origin o' h_o'
        exact .inl ⟨o, h_o, (h_e o o' h_edit).symm⟩ }

instance : Tolerates (Boxes acked ended) Tab.obligations Settles :=
  Boxes.tolerates fun _ _ h => h.ask

instance : Tolerates (Boxes acked ended) Tab.obligations Annotates :=
  Boxes.tolerates fun _ _ h => h.ask

instance : Tolerates (Boxes acked ended) Tab.obligations Observes :=
  Boxes.tolerates fun _ _ h => h.ask

instance : Tolerates (Boxes acked ended) Tab.deliveries (DeliveryRow.Rests acked ended) :=
  ⟨fun _ _ h => .of_edits h⟩

instance : Mails (Boxes acked ended) where
  edits := ⟨fun _ _ h => .of_edits (h.mono fun _ _ _ _ h_routes => h_routes.rests)⟩
  adds := by
    constructor
    intro s t d h_posted h_adds
    constructor
    · exact fun d₀ h_d₀ => ⟨d₀, (h_adds.mem d₀).mpr (.inl h_d₀), .rfl⟩
    · intro d' h_d'
      rcases (h_adds.mem d').mp h_d' with h_old | h_new
      · exact .inl ⟨d', h_old, .rfl⟩
      · obtain rfl := Option.some_inj.mp h_new
        exact .inr fun h_socket => ⟨h_socket, (h_posted h_socket).1, (h_posted h_socket).2⟩
    · exact fun o' h_o' => .inl ⟨o', h_o', rfl⟩

/-- An ask is recorded with the prompt that delivers it. -/
theorem boxes_ask {now : Millis} {ask : MessageId} {recipient waiting : LogicalAgentId}
    {replyDelivery : ReplyDelivery} {key : String} {inc : IncarnationId} {intent : PromptIntent}
    {scheduledAtMs : Millis} {outcome : DeliveryOutcome} {onReuse : StoreError}
    {op : OperationId} {s₁ s₂ : Store} {u : Unit}
    (h_o : (insertObligation now ask recipient waiting replyDelivery).run s = .ok (u, s₁))
    (h_r : s₂ = { s₁ with obligationReminders := s₂.obligationReminders })
    (h_p : (insertPrompt now key inc intent scheduledAtMs outcome onReuse).run s₂ =
      .ok (op, s'))
    (h_intent : intent.messageId = ask) : Boxes acked ended s s' := by
  obtain ⟨o, os, rfl, h_os, h_ask, -, -⟩ := insertObligation_run h_o
  obtain ⟨_, d, ops, ds, rfl, -, h_ds, -, -, h_message, -, h_op, h_herdr, -⟩ :=
    insertPrompt_run h_p
  have h_deliveries : s₂.deliveries = s.deliveries := by rw [h_r]
  have h_obligations : s₂.obligations = os := by rw [h_r]
  rw [h_deliveries] at h_ds
  constructor
  · exact fun d₀ h_d₀ => ⟨d₀, (h_ds.mem d₀).mpr (.inl h_d₀), .rfl⟩
  · intro d' h_d'
    rcases (h_ds.mem d').mp h_d' with h_old | h_new
    · exact .inl ⟨d', h_old, .rfl⟩
    · obtain rfl := Option.some_inj.mp h_new
      exact .inr fun h_socket => by rw [h_herdr] at h_socket; cases h_socket
  · intro o' h_o'
    have h_mem : o' ∈ os := h_obligations ▸ h_o'
    rcases (h_os.mem o').mp h_mem with h_old | h_new
    · exact .inl ⟨o', h_old, rfl⟩
    · obtain rfl := Option.some_inj.mp h_new
      refine .inr ⟨d, (h_ds.mem d).mpr (.inr rfl), ?_, h_op ▸ rfl⟩
      rw [h_message, h_intent, h_ask]

instance {now recipient inc intent key} :
    Keeps (Boxes acked ended) (createInitialMessage now recipient inc intent key) where
  keeps {s a s'} h := by
    simp only [createInitialMessage, run_bind_reads, run_bind_require_ok] at h
    obtain ⟨-, -, -, -, -, h⟩ := h
    obtain ⟨id, s₁, h_m, h⟩ := run_bind_ok.mp h
    refine Stepwise.trans (Keeps.keeps h_m) ?_
    split at h
    · obtain ⟨_, s₂, h_o, h⟩ := run_bind_ok.mp h
      obtain ⟨_, s₃, h_r, h⟩ := run_bind_ok.mp h
      obtain ⟨op, s₄, h_p, h⟩ := run_bind_ok.mp h
      cases h
      obtain ⟨_, _, rfl, -⟩ := insertReminder_run h_r
      exact boxes_ask h_o rfl h_p rfl
    · exact Keeps.keeps h

instance {now sender recipient inc body key due remind attributed delivery} :
    Keeps (Boxes acked ended) (createAskWithReplyDelivery now sender recipient inc body key due
      remind attributed delivery) where
  keeps {s a s'} h := by
    simp only [createAskWithReplyDelivery, run_bind_require_ok, run_bind_query_ok] at h
    obtain ⟨-, replay, -, h⟩ := h
    cases replay with
    | some replay => exact Keeps.keeps h
    | none =>
      simp only [run_bind_query_ok, run_bind_reads, run_bind_require_ok] at h
      obtain ⟨schedule, -, -, waiting, -, -, -, -, h⟩ := h
      obtain ⟨id, s₁, h_m, h⟩ := run_bind_ok.mp h
      refine Stepwise.trans (Keeps.keeps h_m) ?_
      obtain ⟨_, s₂, h_o, h⟩ := run_bind_ok.mp h
      cases remind with
      | none =>
        obtain ⟨op, s₄, h_p, h⟩ := run_bind_ok.mp h
        cases h
        exact boxes_ask h_o rfl h_p rfl
      | some interval =>
        obtain ⟨_, s₃, h_r, h⟩ := run_bind_ok.mp h
        obtain ⟨op, s₄, h_p, h⟩ := run_bind_ok.mp h
        cases h
        obtain ⟨_, _, rfl, -⟩ := insertReminder_run h_r
        exact boxes_ask h_o rfl h_p rfl

theorem keeps_rests {p : DeliveryRow → Prop} [DecidablePred p] {f : DeliveryRow → DeliveryRow}
    {h_key : ∀ d, (f d).rowid = d.rowid} (h : ∀ d, p d → d.Rests acked ended (f d)) :
    Keeps (Boxes acked ended) (updateRows Tab.deliveries p f h_key : StoreTx Nat) :=
  Tolerates.updateRows (DeliveryRow.Rests acked ended) h fun _ => .rfl

/-- Reading the log of a pull ask is no acknowledgement of an inbox. -/
instance {now message recipient} :
    Keeps (Boxes acked ended) (acceptSinkDelivery now .askPull message recipient) := by
  have h_accept {h_key} : Keeps (Boxes acked ended) (updateRows Tab.deliveries
      (fun d => d.InSink .askPull message recipient ∧ d.outcome = .queued)
      (fun d => { d with outcome := .accepted, resolvedAtMs := some now }) h_key :
      StoreTx Nat) :=
    keeps_rests fun d h_d => DeliveryRow.SameMail.rests ⟨rfl, rfl, rfl, rfl, rfl, rfl⟩
      fun h_box => by
        have h_transport := h_box.transport
        rw [h_d.1.2.2] at h_transport
        cases h_transport
  unfold acceptSinkDelivery
  infer_instance

instance {now ask requester message lease} :
    Keeps (Boxes acked ended) (ackAskPullDelivery now ask requester message lease) := by
  unfold ackAskPullDelivery
  infer_instance

theorem keeps_ackSocketInbox {now recipient message} (h : acked recipient message) :
    Keeps (Boxes acked ended) (ackSocketInboxDelivery now recipient message) := by
  have h_accept {h_key} : Keeps (Boxes acked ended) (updateRows Tab.deliveries
      (fun d => d.InSink .socketInbox message recipient ∧ d.outcome = .queued)
      (fun d => { d with outcome := .accepted, resolvedAtMs := some now }) h_key :
      StoreTx Nat) :=
    keeps_rests fun d h_d => ⟨⟨rfl, rfl, rfl, rfl, rfl, rfl⟩, fun _ => rfl,
      fun _ => .inr ⟨h_d.2, .acked recipient h_d.1.2.1 (h_d.1.1 ▸ h) rfl⟩⟩
  unfold ackSocketInboxDelivery acceptSinkDelivery
  infer_instance

theorem keeps_endSocketWaiter_boxes {now agent due reason} (h : ended agent) :
    Keeps (Boxes acked ended) (endSocketWaiterWithOwingDue now agent due reason) := by
  have h_drop {h_key} : Keeps (Boxes acked ended) (updateRows Tab.deliveries
      (fun d => d.recipientAgentId = some agent ∧ d.deliveryTransport = .socketInbox ∧
        d.outcome = .queued)
      (fun d => { d with outcome := .targetUnavailable, resolvedAtMs := some now }) h_key :
      StoreTx Nat) :=
    keeps_rests fun d h_d => ⟨⟨rfl, rfl, rfl, rfl, rfl, rfl⟩, fun _ => rfl,
      fun _ => .inr ⟨h_d.2.2, .ended agent h_d.1 h rfl⟩⟩
  unfold endSocketWaiterWithOwingDue
  infer_instance

end Transactions

-- ============================================================================
-- Calls
-- ============================================================================

section Calls

variable {s s' : Store}

/-- The deliveries that the call may acknowledge in an inbox. -/
def Call.AcksInbox (c : Call) (agent : LogicalAgentId) (message : MessageId) : Prop :=
  match c with
  | .ackSocketInboxDelivery _ recipient m => agent = recipient ∧ message = m
  | _ => False

/-- Every delivery into an inbox is in no incarnation's way, and every ask is prompted. -/
structure Store.InboxesApart (s : Store) : Prop where
  boxed : ∀ d ∈ s.deliveries, d.deliveryTransport = .socketInbox → d.Boxed
  prompted : ∀ o ∈ s.obligations, s.Prompted o.askMessageId
  linked : Ledger.Linked s.ledger

/-- The sweep of settled asks passes the inboxes by. -/
theorem supersedeSettledQueuedAsks_boxes {acked : LogicalAgentId → MessageId → Prop}
    {ended : LogicalAgentId → Prop} (h_s : s.InboxesApart) {nowMs : Millis} {n : Nat}
    (h : (supersedeSettledQueuedAsks nowMs).run s = .ok (n, s')) : Boxes acked ended s s' := by
  have h_off : ∀ d ∈ s.deliveries,
      (∃ o ∈ s.obligations.find d.messageId, ¬ o.state.Unresolved) → ¬ d.Boxed := by
    rintro d h_d ⟨o, h_find, -⟩ h_box
    -- The ask has the one delivery of its message, which is under an operation.
    obtain ⟨h_o, h_ask⟩ := Table.find_eq_some.mp h_find
    obtain ⟨d₀, h_d₀, h_message, h_op⟩ := h_s.prompted o h_o
    obtain rfl := h_s.linked.only d₀ h_d₀ d h_d (h_message.trans h_ask)
    rw [h_box.operation] at h_op
    cases h_op
  rw [supersedeSettledQueuedAsks, run_bind_reads] at h
  obtain ⟨t, rfl, h_t⟩ := run_updateRows_edits (DeliveryRow.Rests acked ended) h
    (fun d h_d h_p => DeliveryRow.SameMail.rests ⟨rfl, rfl, rfl, rfl, rfl, rfl⟩
      (h_off d h_d h_p.2))
    fun _ _ _ => .rfl
  exact .of_edits h_t

/-- What a call does to the inboxes. -/
theorem Call.boxes (c : Call) (h : c.Step s s') (h_s : s.InboxesApart) :
    Boxes c.AcksInbox c.EndsWaiter s s' := by
  cases c with
  | ackSocketInboxDelivery now recipient message =>
    have h_acks : (Call.ackSocketInboxDelivery now recipient message).AcksInbox recipient
        message := ⟨rfl, rfl⟩
    exact (keeps_ackSocketInbox h_acks).commit h
  | endSocketWaiter now agent due reason =>
    have h_ends : (Call.endSocketWaiter now agent due reason).EndsWaiter agent := rfl
    exact (keeps_endSocketWaiter_boxes h_ends).commit h
  | supersedeSettledQueuedAsks nowMs =>
    obtain ⟨n, h_run⟩ := commit_ok.mp h
    exact supersedeSettledQueuedAsks_boxes h_s h_run
  | _ => exact Keeps.commit h

theorem inboxesApart_empty : Store.empty.InboxesApart where
  boxed _ h_d := absurd h_d Table.notMem_empty
  prompted _ h_o := absurd h_o Table.notMem_empty
  linked := Ledger.linked_empty

theorem Store.InboxesApart.step {c : Call} (h_s : s.InboxesApart) (h : c.Step s s') :
    s'.InboxesApart where
  boxed d' h_d' h_socket := by
    rcases (c.boxes h h_s).origin d' h_d' with ⟨d, h_d, h_rests⟩ | h_new
    · refine h_rests.toSameMail.boxed.mpr (h_s.boxed d h_d ?_)
      rw [← h_rests.transport, h_socket]
    · exact h_new h_socket
  prompted o' h_o' := by
    rcases (c.boxes h h_s).asked o' h_o' with ⟨o, h_o, h_ask⟩ | h_prompted
    · exact h_ask ▸ (h_s.prompted o h_o).boxes (c.boxes h h_s)
    · exact h_prompted
  linked := (linked_invariant (p := fun _ _ => True)).toKept.step (fun _ _ _ => False.elim)
    h_s.linked trivial h

/-- What a run of calls does to the inboxes. -/
theorem StoreRun.boxes {ok : Call → Store → Prop} {acked : LogicalAgentId → MessageId → Prop}
    {ended : LogicalAgentId → Prop} (h : StoreRun ok s s') (h_s : s.InboxesApart)
    (h_acked : ∀ c s, ok c s → ∀ a m, c.AcksInbox a m → acked a m)
    (h_ended : ∀ c s, ok c s → ∀ a, c.EndsWaiter a → ended a) :
    Boxes acked ended s s' ∧ s'.InboxesApart := by
  induction h with
  | refl => exact ⟨Stepwise.refl _, h_s⟩
  | tail c h_run h_ok h_step ih =>
    obtain ⟨h_boxes, h_apart⟩ := ih
    refine ⟨Stepwise.trans h_boxes ?_, h_apart.step h_step⟩
    exact (c.boxes h_step h_apart).mono (h_acked c _ h_ok) (h_ended c _ h_ok)

end Calls

end Kelpie
