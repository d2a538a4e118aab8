/-
  Kelpie.Waiters.Pump

  One pump of the session of a waiter: write what is left to write, offer what is
  queued, and read the acknowledgements.

  The writes may be cut anywhere.  The text of the lines is the wire's, and what a
  connection does during a pump is an input.
-/

import Kelpie.Ledger.Spares
import Kelpie.Slice.Prompts
import Kelpie.Waiters.Boxes

namespace Kelpie

open Lib Lib.Tx

-- ============================================================================
-- Queued deliveries
-- ============================================================================

/-- What a waiter is told of one delivery. -/
structure SocketInboxDelivery where
  messageId : MessageId
  kind : MessageKind
  body : String
  replyTo : Option MessageId
  disposition : Option ReplyDisposition
  attemptNumber : Nat
  senderAgentId : Option LogicalAgentId
  senderPublicName : Option String
  scheduledAtMs : Millis
  createdAtMs : Millis
deriving DecidableEq, Repr

/-- A delivery of the recipient's inbox that is queued and due. -/
structure DeliveryRow.DueFor (d : DeliveryRow) (recipient : LogicalAgentId) (now : Millis) :
    Prop where
  agent : d.recipientAgentId = some recipient
  transport : d.deliveryTransport = .socketInbox
  queued : d.outcome = .queued
  due : d.scheduledAtMs ≤ now

instance (recipient : LogicalAgentId) (now : Millis) :
    DecidablePred fun d : DeliveryRow => d.DueFor recipient now := fun d =>
  decidable_of_iff (d.recipientAgentId = some recipient ∧ d.deliveryTransport = .socketInbox ∧
      d.outcome = .queued ∧ d.scheduledAtMs ≤ now)
    ⟨fun h => ⟨h.1, h.2.1, h.2.2.1, h.2.2.2⟩, fun h => ⟨h.agent, h.transport, h.queued, h.due⟩⟩

/-- What the waiter is told of a delivery of a recorded message. -/
def Store.inboxDelivery (s : Store) (d : DeliveryRow) : Option SocketInboxDelivery :=
  (s.messages.find d.messageId).map fun m =>
    { messageId := m.id, kind := m.kind, body := m.body, replyTo := m.replyToMessageId,
      disposition := m.disposition, attemptNumber := d.attemptNumber,
      senderAgentId := m.senderAgentId, senderPublicName := m.senderAgentId.bind s.publicName,
      scheduledAtMs := d.scheduledAtMs, createdAtMs := m.createdAtMs }

/-- Queued socket-inbox deliveries for one waiter, oldest first. -/
def queuedSocketInboxDeliveries (now : Millis) (recipientAgentId : LogicalAgentId) :
    Query (List SocketInboxDelivery) := fun s => do
  requireActiveSocketWaiter recipientAgentId s
  let rows := s.deliveries.rows.filter (·.DueFor recipientAgentId now)
  return (rows.filterMap s.inboxDelivery).insertionSort fun a b =>
    a.scheduledAtMs < b.scheduledAtMs ∨
      a.scheduledAtMs = b.scheduledAtMs ∧ a.createdAtMs ≤ b.createdAtMs

/-- The agent is an active socket waiter. -/
def Store.HasWaiter (s : Store) (agent : LogicalAgentId) : Prop :=
  ∃ l ∈ s.logicalAgents, l.id = agent ∧ l.ActiveWaiter

section Queued

variable {s : Store} {now : Millis} {waiter : LogicalAgentId}

theorem requireActiveSocketWaiter_iff {u : Unit} :
    requireActiveSocketWaiter waiter s = .ok u ↔ s.HasWaiter waiter := by
  constructor
  · exact requireActiveSocketWaiter_ok
  · rintro ⟨l, h_l, h_id, h_active⟩
    rw [requireActiveSocketWaiter, Table.find_eq_some.mpr ⟨h_l, h_id⟩]
    exact if_pos h_active

/-- The queued deliveries are the due ones of an active waiter. -/
theorem queuedSocketInbox_ok {queued : List SocketInboxDelivery}
    (h : queuedSocketInboxDeliveries now waiter s = .ok queued) :
    s.HasWaiter waiter ∧ ∀ message, message ∈ queued.map (·.messageId) ↔
      (s.messages.find message).isSome ∧
        ∃ d ∈ s.deliveries, d.messageId = message ∧ d.DueFor waiter now := by
  unfold queuedSocketInboxDeliveries at h
  cases h_waiter : requireActiveSocketWaiter waiter s with
  | error e =>
    rw [h_waiter] at h
    cases h
  | ok u =>
    rw [h_waiter] at h
    cases h
    refine ⟨requireActiveSocketWaiter_iff.mp h_waiter, fun message => ?_⟩
    simp only [List.mem_map, List.mem_insertionSort, List.mem_filterMap, List.mem_filter,
      decide_eq_true_eq]
    constructor
    · rintro ⟨x, ⟨d, ⟨h_d, h_due⟩, h_x⟩, rfl⟩
      obtain ⟨m, h_m, rfl⟩ := Option.map_eq_some_iff.mp h_x
      obtain ⟨-, h_id⟩ := Table.find_eq_some.mp h_m
      rw [h_id, h_m]
      exact ⟨rfl, d, h_d, rfl, h_due⟩
    · rintro ⟨h_some, d, h_d, rfl, h_due⟩
      obtain ⟨m, h_m⟩ := Option.isSome_iff_exists.mp h_some
      refine ⟨_, ⟨d, ⟨h_d, h_due⟩, Option.map_eq_some_iff.mpr ⟨m, h_m, rfl⟩⟩, ?_⟩
      exact (Table.find_eq_some.mp h_m).2

end Queued

-- ============================================================================
-- Sessions
-- ============================================================================

/-- What the daemon writes to the connection of a waiter. -/
inductive InboxFrame where
  | delivery (eventId : String) (delivery : SocketInboxDelivery)
  | response (requestId : String) (result : Except SliceError (MessageId × DeliveryOutcome))
  | invalidRequest (message : String)

/-- A line from the connection of a waiter. -/
inductive InboxLine where
  | blank
  | ack (requestId : String) (params : Except String MessageId)
  | other (requestId : String)
  | invalid (message : String)

/-- The encoding of what is written, and the reading of a line. -/
structure Wire where
  encode : InboxFrame → List UInt8
  decode : List UInt8 → InboxLine

/-- Long-lived socket-inbox client. -/
structure InboxSession where
  waiterId : LogicalAgentId
  /-- The connection. -/
  stream : Nat
  readBuf : List UInt8
  writeBuf : List UInt8
  /-- The messages that were put into the buffer. -/
  offered : List MessageId

/-- A session as its inbox is claimed, with what the client sent beyond its claim. -/
def InboxSession.claimed (waiterId : LogicalAgentId) (stream : Nat) (leftover : List UInt8) :
    InboxSession where
  waiterId := waiterId
  stream := stream
  readBuf := leftover
  writeBuf := []
  offered := []

/-- How one write to a connection ends. -/
inductive WriteOutcome where
  | wrote (n : Nat)
  | blocked
  | failed

/-- How one read from a connection ends. -/
inductive ReadOutcome where
  | data (chunk : List UInt8)
  | eof
  | blocked
  | failed

/-- What the connection and the clock do during one pump. -/
structure PumpIo where
  writes : List WriteOutcome
  offeredAt : Millis
  eventIds : MessageId → String
  offerWrites : List WriteOutcome
  read : ReadOutcome
  /-- The reading under which the acknowledgement on each line is stored. -/
  ackedAt : Nat → Millis
  ackWrites : List WriteOutcome

/-- `flush_inbox_write`: what is left in the buffer, unless the connection fails.  A
    connection that is not heard of again blocks. -/
def flushInboxWrite : List WriteOutcome → List UInt8 → Option (List UInt8)
  | _, [] => some []
  | [], b :: bs => some (b :: bs)
  | .wrote n :: outcomes, b :: bs =>
    if n = 0 then none else flushInboxWrite outcomes ((b :: bs).drop n)
  | .blocked :: _, b :: bs => some (b :: bs)
  | .failed :: _, _ :: _ => none

theorem flushInboxWrite_nil (outcomes : List WriteOutcome) :
    flushInboxWrite outcomes [] = some [] := by
  cases outcomes <;> rfl

/-- The complete lines of a buffer, and what follows the last of them. -/
def splitLines : List UInt8 → List (List UInt8) × List UInt8
  | [] => ([], [])
  | b :: bs =>
    match splitLines bs with
    | (lines, rest) =>
      if b = 10 then ([b] :: lines, rest)
      else match lines with
        | [] => ([], b :: rest)
        | line :: lines => ((b :: line) :: lines, rest)

section Pump

variable (wire : Wire)

/-- Put a frame into the buffer, as a line. -/
def enqueueJsonLine (session : InboxSession) (frame : InboxFrame) : InboxSession :=
  { session with writeBuf := session.writeBuf ++ wire.encode frame ++ [10] }

/-- Offer one delivery, once on each connection. -/
def offerDelivery (eventIds : MessageId → String) (session : InboxSession)
    (delivery : SocketInboxDelivery) : InboxSession :=
  if delivery.messageId ∈ session.offered then session
  else
    { enqueueJsonLine wire session (.delivery (eventIds delivery.messageId) delivery) with
      offered := session.offered ++ [delivery.messageId] }

/-- `offer_queued_inbox` -/
def offerQueuedInbox (io : PumpIo) (session : InboxSession) (s : Store) :
    Except StoreError InboxSession := do
  let queued ← queuedSocketInboxDeliveries io.offeredAt session.waiterId s
  return queued.foldl (offerDelivery wire io.eventIds) session

/-- A session with the store that it acknowledges in, and the messages it did so of. -/
structure InboxPump where
  session : InboxSession
  store : Store
  acked : List MessageId

/-- `ack_inbox` -/
def ackInbox (now : Millis) (waiterId : LogicalAgentId) (messageId : MessageId) :
    SliceProg (MessageId × DeliveryOutcome) := do
  let outcome ← stored (ackSocketInboxDelivery now waiterId messageId)
  return (messageId, outcome)

/-- Serve one line of an inbox connection. -/
def serveInboxLine (now : Millis) (line : InboxLine) (p : InboxPump) : InboxPump :=
  match line with
  | .blank => p
  | .ack requestId (.ok messageId) =>
    match (ackInbox now p.session.waiterId messageId).run p.store with
    | (.ok answer, s) =>
      { session := enqueueJsonLine wire p.session (.response requestId (.ok answer))
        store := s
        acked := p.acked ++ [messageId] }
    | (.error e, s) =>
      { p with
        session := enqueueJsonLine wire p.session (.response requestId (.error e))
        store := s }
  | .ack requestId (.error text) =>
    { p with
      session := enqueueJsonLine wire p.session
        (.response requestId (.error (.store (.invalidRecord text)))) }
  | .other requestId =>
    { p with
      session := enqueueJsonLine wire p.session (.response requestId
        (.error (.store (.invalidRecord "inbox connection accepts only inbox.ack")))) }
  | .invalid message =>
    { p with session := enqueueJsonLine wire p.session (.invalidRequest message) }

/-- Serve the lines one after the other, each under its own reading of the clock. -/
def serveInboxLines (ackedAt : Nat → Millis) : List (List UInt8) → InboxPump → InboxPump
  | [], p => p
  | line :: lines, p =>
    serveInboxLines (fun n => ackedAt (n + 1)) lines
      (serveInboxLine wire (ackedAt 0) (wire.decode line) p)

/-- Take the complete lines from the buffer, and serve them. -/
def serveReadBuf (io : PumpIo) (p : InboxPump) : InboxPump :=
  match splitLines p.session.readBuf with
  | (lines, rest) =>
    serveInboxLines wire io.ackedAt lines { p with session := { p.session with readBuf := rest } }

/-- `read_inbox_acks`, and whether the connection lasts. -/
def readInboxAcks (io : PumpIo) (p : InboxPump) : Bool × InboxPump :=
  match io.read with
  | .failed => (false, p)
  | .blocked => (true, serveReadBuf wire io p)
  | .eof => (false, serveReadBuf wire io p)
  | .data chunk =>
    (true, serveReadBuf wire io
      { p with session := { p.session with readBuf := p.session.readBuf ++ chunk } })

/-- `pump_inbox`, and whether the session stays open. -/
def pumpInbox (io : PumpIo) (p : InboxPump) : Bool × InboxPump :=
  match flushInboxWrite io.writes p.session.writeBuf with
  | none => (false, p)
  | some (b :: bs) => (true, { p with session := { p.session with writeBuf := b :: bs } })
  | some [] =>
    match offerQueuedInbox wire io { p.session with writeBuf := [] } p.store with
    | .error _ => (false, { p with session := { p.session with writeBuf := [] } })
    | .ok session =>
      match flushInboxWrite io.offerWrites session.writeBuf with
      | none => (false, { p with session })
      | some (b :: bs) => (true, { p with session := { session with writeBuf := b :: bs } })
      | some [] =>
        match readInboxAcks wire io { p with session := { session with writeBuf := [] } } with
        | (lasts, p) =>
          match flushInboxWrite io.ackWrites p.session.writeBuf with
          | none => (false, p)
          | some rest => (lasts, { p with session := { p.session with writeBuf := rest } })

end Pump

-- ============================================================================
-- Offers
-- ============================================================================

/-- The session with the messages `new` on offer, none of which was before. -/
structure InboxSession.Offers (new : List MessageId) (session session' : InboxSession) : Prop where
  waiter : session'.waiterId = session.waiterId
  stream : session'.stream = session.stream
  offered : session'.offered = session.offered ++ new
  nodup : new.Nodup
  fresh : ∀ m ∈ new, m ∉ session.offered

theorem InboxSession.Offers.none {session session' : InboxSession}
    (h_waiter : session'.waiterId = session.waiterId) (h_stream : session'.stream = session.stream)
    (h_offered : session'.offered = session.offered) : session.Offers [] session' where
  waiter := h_waiter
  stream := h_stream
  offered := by rw [h_offered, List.append_nil]
  nodup := List.nodup_nil
  fresh := by simp

theorem InboxSession.Offers.trans {new new' : List MessageId} {session₁ session₂ session₃ :
    InboxSession} (h : session₁.Offers new session₂) (h' : session₂.Offers new' session₃) :
    session₁.Offers (new ++ new') session₃ where
  waiter := h'.waiter.trans h.waiter
  stream := h'.stream.trans h.stream
  offered := by rw [h'.offered, h.offered, List.append_assoc]
  nodup := by
    refine List.nodup_append.mpr ⟨h.nodup, h'.nodup, fun m h_m m' h_m' h_eq => ?_⟩
    refine h'.fresh m' h_m' ?_
    rw [h.offered, ← h_eq]
    exact List.mem_append_right _ h_m
  fresh m h_m := by
    rcases List.mem_append.mp h_m with h_new | h_new'
    · exact h.fresh m h_new
    · intro h_old
      refine h'.fresh m h_new' ?_
      rw [h.offered]
      exact List.mem_append_left _ h_old

section Offers

variable {wire : Wire} {io : PumpIo} {session session' : InboxSession} {s : Store}

theorem offerDelivery_offers (wire : Wire) (session : InboxSession) (ids : MessageId → String)
    (x : SocketInboxDelivery) :
    ∃ new, session.Offers new (offerDelivery wire ids session x) ∧
      (∀ m ∈ new, m = x.messageId) ∧
      x.messageId ∈ (offerDelivery wire ids session x).offered := by
  unfold offerDelivery
  split
  · rename_i h_offered
    exact ⟨[], .none rfl rfl rfl, by simp, h_offered⟩
  · rename_i h_new
    refine ⟨[x.messageId], ⟨rfl, rfl, rfl, List.nodup_singleton _, ?_⟩, by simp, ?_⟩
    · intro m h_m
      rw [List.mem_singleton.mp h_m]
      exact h_new
    · exact List.mem_append_right _ (List.mem_singleton_self _)

/-- Every queued delivery is on offer afterwards. -/
theorem offerDeliveries_offers (wire : Wire) (session : InboxSession)
    (ids : MessageId → String) (queued : List SocketInboxDelivery) :
    ∃ new, session.Offers new (queued.foldl (offerDelivery wire ids) session) ∧
      (∀ m ∈ new, m ∈ queued.map (·.messageId)) ∧
      ∀ m ∈ queued.map (·.messageId),
        m ∈ (queued.foldl (offerDelivery wire ids) session).offered := by
  induction queued generalizing session with
  | nil => exact ⟨[], .none rfl rfl rfl, by simp, by simp⟩
  | cons x xs ih =>
    obtain ⟨new, h_x, h_new, h_mem⟩ := offerDelivery_offers wire session ids x
    obtain ⟨new', h_xs, h_new', h_all⟩ := ih (offerDelivery wire ids session x)
    refine ⟨new ++ new', h_x.trans h_xs, fun m h_m => ?_, fun m h_m => ?_⟩
    · rw [List.map_cons]
      rcases List.mem_append.mp h_m with h_m | h_m
      · exact List.mem_cons.mpr (.inl (h_new m h_m))
      · exact List.mem_cons.mpr (.inr (h_new' m h_m))
    · rw [List.map_cons] at h_m
      rw [List.foldl_cons]
      rcases List.mem_cons.mp h_m with rfl | h_m
      · rw [h_xs.offered]
        exact List.mem_append_left _ h_mem
      · exact h_all m h_m

/-- What is offered is queued and due, and what is queued and due is on offer. -/
theorem offerQueuedInbox_offers (h : offerQueuedInbox wire io session s = .ok session') :
    s.HasWaiter session.waiterId ∧ ∃ new, session.Offers new session' ∧
      (∀ m ∈ new, ∃ d ∈ s.deliveries, d.messageId = m ∧
        d.DueFor session.waiterId io.offeredAt) ∧
      ∀ d ∈ s.deliveries, (s.messages.find d.messageId).isSome →
        d.DueFor session.waiterId io.offeredAt → d.messageId ∈ session'.offered := by
  unfold offerQueuedInbox at h
  cases h_queued : queuedSocketInboxDeliveries io.offeredAt session.waiterId s with
  | error e =>
    rw [h_queued] at h
    cases h
  | ok queued =>
    rw [h_queued] at h
    cases h
    obtain ⟨h_waiter, h_mem⟩ := queuedSocketInbox_ok h_queued
    obtain ⟨new, h_offers, h_new, h_all⟩ :=
      offerDeliveries_offers wire session io.eventIds queued
    refine ⟨h_waiter, new, h_offers, fun m h_m => ?_, fun d h_d h_some h_due => ?_⟩
    · exact ((h_mem m).mp (h_new m h_m)).2
    · exact h_all d.messageId ((h_mem d.messageId).mpr ⟨h_some, d, h_d, rfl, h_due⟩)

/-- Only the inbox of no active waiter is not offered. -/
theorem offerQueuedInbox_error {e : StoreError}
    (h : offerQueuedInbox wire io session s = .error e) : ¬ s.HasWaiter session.waiterId := by
  intro h_waiter
  have h_ok : requireActiveSocketWaiter session.waiterId s = .ok () :=
    requireActiveSocketWaiter_iff.mpr h_waiter
  unfold offerQueuedInbox queuedSocketInboxDeliveries at h
  rw [h_ok] at h
  cases h

end Offers

-- ============================================================================
-- Acknowledgements
-- ============================================================================

/-- The delivery of the message is in the waiter's inbox, and it accepted it. -/
def Store.InboxAccepted (s : Store) (waiter : LogicalAgentId) (message : MessageId) : Prop :=
  ∃ d ∈ s.deliveries, d.InSink .socketInbox message waiter ∧ d.outcome = .accepted

section Acks

variable {s s' : Store} {now : Millis} {waiter : LogicalAgentId} {message : MessageId}

/-- What was accepted stays so. -/
theorem Store.InboxAccepted.boxes {acked : LogicalAgentId → MessageId → Prop}
    {ended : LogicalAgentId → Prop} (h : s.InboxAccepted waiter message) (h_s : s.InboxesApart)
    (h_boxes : Boxes acked ended s s') : s'.InboxAccepted waiter message := by
  obtain ⟨d, h_d, h_sink, h_accepted⟩ := h
  obtain ⟨d', h_d', h_rests⟩ := h_boxes.kept d h_d
  refine ⟨d', h_d', ⟨?_, ?_, ?_⟩, ?_⟩
  · rw [h_rests.message, h_sink.1]
  · rw [h_rests.agent, h_sink.2.1]
  · rw [h_rests.transport, h_sink.2.2]
  · rcases h_rests.outcome (h_s.boxed d h_d h_sink.2.2) with h_same | ⟨h_queued, -⟩
    · exact h_same.trans h_accepted
    · rw [h_accepted] at h_queued
      cases h_queued

theorem resolveFinalReply_deliveries {answers : MessageId → Prop} [DecidablePred answers]
    {u : Unit} (h : (resolveFinalReply now message answers).run s = .ok (u, s')) :
    s'.deliveries = s.deliveries := by
  rw [resolveFinalReply, run_bind_reads] at h
  split at h
  · cases h
    rfl
  · split at h
    · obtain ⟨_, s₁, h_resolve, h⟩ := run_bind_ok.mp h
      cases h
      obtain ⟨t, rfl, -⟩ := resolveObligation_run h_resolve
      rfl
    · cases h
      rfl

/-- An acknowledgement that succeeds leaves its delivery accepted. -/
theorem ackSocketInboxDelivery_ok {outcome : DeliveryOutcome}
    (h : (ackSocketInboxDelivery now waiter message).run s = .ok (outcome, s')) :
    s'.InboxAccepted waiter message := by
  simp only [ackSocketInboxDelivery, run_bind_query_ok, run_bind_reads, run_bind_orFail_ok] at h
  obtain ⟨_, -, d, h_find, h⟩ := h
  have h_d : d ∈ s.deliveries := List.mem_of_find?_eq_some h_find
  have h_sink : d.InSink .socketInbox message waiter := by
    simpa using List.find?_some h_find
  split at h
  · rename_i h_accepted
    cases h
    exact ⟨d, h_d, h_sink, h_accepted⟩
  · simp only [run_bind_require_ok] at h
    obtain ⟨h_queued, h⟩ := h
    obtain ⟨_, s₁, h_accept, h⟩ := run_bind_ok.mp h
    obtain ⟨_, s₂, h_resolve, h⟩ := run_bind_ok.mp h
    cases h
    obtain ⟨_, s₀, h_update, h⟩ := run_bind_ok.mp h_accept
    cases h
    obtain ⟨t, rfl, h_t⟩ := run_updateRows_edits
      (fun d d' : DeliveryRow => d.InSink .socketInbox message waiter ∧ d.outcome = .queued →
        d'.InSink .socketInbox message waiter ∧ d'.outcome = .accepted) h_update
      (fun d _ h_p _ => ⟨h_p.1, rfl⟩) fun d _ h_not h_p => absurd h_p h_not
    obtain ⟨d', h_d', h_moved⟩ := h_t.image d h_d
    have h_same : s'.deliveries = t := resolveFinalReply_deliveries h_resolve
    exact ⟨d', h_same ▸ h_d', h_moved ⟨h_sink, h_queued⟩⟩

/-- An acknowledgement of what is not queued for the waiter changes nothing. -/
theorem ackSocketInboxDelivery_unqueued {outcome : DeliveryOutcome}
    (h_unqueued : ∀ d ∈ s.deliveries, d.InSink .socketInbox message waiter →
      d.outcome ≠ .queued)
    (h : (ackSocketInboxDelivery now waiter message).run s = .ok (outcome, s')) : s' = s := by
  simp only [ackSocketInboxDelivery, run_bind_query_ok, run_bind_reads, run_bind_orFail_ok] at h
  obtain ⟨_, -, d, h_find, h⟩ := h
  have h_d : d ∈ s.deliveries := List.mem_of_find?_eq_some h_find
  have h_sink : d.InSink .socketInbox message waiter := by
    simpa using List.find?_some h_find
  split at h
  · cases h
    rfl
  · simp only [run_bind_require_ok] at h
    exact absurd h.1 (h_unqueued d h_d h_sink)

/-- How an acknowledgement over the wire ends. -/
theorem ackInbox_cases (s : Store) (now : Millis) (waiter : LogicalAgentId)
    (message : MessageId) :
    (∃ outcome s', (ackSocketInboxDelivery now waiter message).run s = .ok (outcome, s') ∧
      (ackInbox now waiter message).run s = (.ok (message, outcome), s')) ∨
    ∃ e, (ackInbox now waiter message).run s = (.error e, s) := by
  cases h : (ackSocketInboxDelivery now waiter message).run s with
  | ok r =>
    obtain ⟨outcome, s'⟩ := r
    refine .inl ⟨outcome, s', rfl, Prog.run_bind_ok.mpr ⟨outcome, s', ?_, rfl⟩⟩
    simp only [stored, h]
  | error e =>
    refine .inr ⟨.store e, ?_⟩
    simp only [ackInbox, Bind.bind, stored, h]

/-- Acknowledging what is not queued for the waiter changes no row. -/
theorem ackInbox_unqueued (h_unqueued : ∀ d ∈ s.deliveries,
      d.InSink .socketInbox message waiter → d.outcome ≠ .queued) :
    (ackInbox now waiter message).final s = s := by
  rw [Prog.final]
  rcases ackInbox_cases s now waiter message with ⟨outcome, s', h_ack, h_run⟩ | ⟨e, h_run⟩
  · rw [h_run]
    exact ackSocketInboxDelivery_unqueued h_unqueued h_ack
  · rw [h_run]

end Acks

-- ============================================================================
-- One pump
-- ============================================================================

/-- The acknowledgements of the waiter for some messages. -/
def AcksOf (waiter : LogicalAgentId) (messages : List MessageId) (c : Call) (_ : Store) : Prop :=
  ∃ now, ∃ m ∈ messages, c = .ackSocketInboxDelivery now waiter m

/-- A session that served lines: it acknowledged, and offered nothing. -/
structure InboxPump.Serves (p p' : InboxPump) : Prop where
  waiter : p'.session.waiterId = p.session.waiterId
  stream : p'.session.stream = p.session.stream
  offered : p'.session.offered = p.session.offered
  acked : ∀ m ∈ p.acked, m ∈ p'.acked
  run : StoreRun (AcksOf p.session.waiterId p'.acked) p.store p'.store
  accepted : p.store.InboxesApart → ∀ m ∈ p'.acked,
    m ∈ p.acked ∨ p'.store.InboxAccepted p.session.waiterId m

namespace InboxPump

variable {wire : Wire} {io : PumpIo} {p p₁ p' : InboxPump}

theorem Serves.session (h_waiter : p'.session.waiterId = p.session.waiterId)
    (h_stream : p'.session.stream = p.session.stream)
    (h_offered : p'.session.offered = p.session.offered) (h_acked : p'.acked = p.acked)
    (h_store : p'.store = p.store) : p.Serves p' where
  waiter := h_waiter
  stream := h_stream
  offered := h_offered
  acked m h_m := h_acked ▸ h_m
  run := by
    rw [h_store]
    exact .refl
  accepted _ m h_m := .inl (h_acked ▸ h_m)

/-- Acknowledgements end no waiter, and acknowledge for theirs. -/
theorem acks_boxes {waiter : LogicalAgentId} {messages : List MessageId} {s s' : Store}
    (h : StoreRun (AcksOf waiter messages) s s') (h_s : s.InboxesApart) :
    Boxes (fun a m => a = waiter ∧ m ∈ messages) (fun _ => False) s s' ∧ s'.InboxesApart := by
  refine StoreRun.boxes h h_s ?_ ?_
  · rintro c _ ⟨now, m, h_m, rfl⟩ a m' ⟨rfl, rfl⟩
    exact ⟨rfl, h_m⟩
  · rintro c _ ⟨now, m, h_m, rfl⟩ a h_ends
    exact h_ends

theorem Serves.trans (h : p.Serves p₁) (h' : p₁.Serves p') : p.Serves p' where
  waiter := h'.waiter.trans h.waiter
  stream := h'.stream.trans h.stream
  offered := h'.offered.trans h.offered
  acked m h_m := h'.acked m (h.acked m h_m)
  run := by
    refine .trans (h.run.mono ?_) (h.waiter ▸ h'.run)
    rintro c _ ⟨now, m, h_m, h_c⟩
    exact ⟨now, m, h'.acked m h_m, h_c⟩
  accepted h_s m h_m := by
    obtain ⟨-, h_s₁⟩ := acks_boxes h.run h_s
    rcases h'.accepted h_s₁ m h_m with h_old | h_accepted
    · refine (h.accepted h_s m h_old).imp_right fun h_accepted => ?_
      exact h_accepted.boxes h_s₁ (acks_boxes h'.run h_s₁).1
    · exact .inr (h.waiter ▸ h_accepted)

theorem serves_line (now : Millis) (line : InboxLine) :
    p.Serves (serveInboxLine wire now line p) := by
  cases line with
  | blank => exact .session rfl rfl rfl rfl rfl
  | ack requestId params =>
    cases params with
    | error text => exact .session rfl rfl rfl rfl rfl
    | ok message =>
      rcases ackInbox_cases p.store now p.session.waiterId message with
        ⟨outcome, s', h_ack, h_run⟩ | ⟨e, h_run⟩
      · simp only [serveInboxLine, h_run]
        constructor
        · rfl
        · rfl
        · rfl
        · exact fun m h_m => List.mem_append_left _ h_m
        · refine .single (.ackSocketInboxDelivery now p.session.waiterId message)
            ⟨now, message, ?_, rfl⟩ (commit_ok.mpr ⟨outcome, h_ack⟩)
          exact List.mem_append_right _ (List.mem_singleton_self _)
        · intro _ m h_m
          refine (List.mem_append.mp h_m).imp_right fun h_new => ?_
          rw [List.mem_singleton.mp h_new]
          exact ackSocketInboxDelivery_ok h_ack
      · simp only [serveInboxLine, h_run]
        exact .session rfl rfl rfl rfl rfl
  | other requestId => exact .session rfl rfl rfl rfl rfl
  | invalid message => exact .session rfl rfl rfl rfl rfl

theorem serves_lines (ackedAt : Nat → Millis) (lines : List (List UInt8)) :
    p.Serves (serveInboxLines wire ackedAt lines p) := by
  induction lines generalizing p ackedAt with
  | nil => exact .session rfl rfl rfl rfl rfl
  | cons line lines ih => exact (serves_line _ _).trans (ih _)

theorem serves_readBuf : p.Serves (serveReadBuf wire io p) := by
  have h_rest (rest : List UInt8) :
      p.Serves { p with session := { p.session with readBuf := rest } } :=
    .session rfl rfl rfl rfl rfl
  exact (h_rest (splitLines p.session.readBuf).2).trans (serves_lines _ _)

theorem serves_read (wire : Wire) (io : PumpIo) (p : InboxPump) :
    p.Serves (readInboxAcks wire io p).2 := by
  unfold readInboxAcks
  cases io.read with
  | failed => exact .session rfl rfl rfl rfl rfl
  | blocked => exact serves_readBuf
  | eof => exact serves_readBuf
  | data chunk =>
    have h_chunk : p.Serves
        { p with session := { p.session with readBuf := p.session.readBuf ++ chunk } } :=
      .session rfl rfl rfl rfl rfl
    exact h_chunk.trans serves_readBuf

/-- A pump gets no further than its writes, or it offers; it serves lines once every offer
    is written. -/
theorem pump_cases (h_pump : (pumpInbox wire io p).2 = p') :
    (p.Serves p' ∧ p'.acked = p.acked ∧
      (flushInboxWrite io.writes p.session.writeBuf = some [] →
        ¬ p.store.HasWaiter p.session.waiterId)) ∨
    ∃ session, offerQueuedInbox wire io { p.session with writeBuf := [] } p.store =
      .ok session ∧ InboxPump.Serves { p with session } p' ∧
      (p'.acked = p.acked ∨ flushInboxWrite io.offerWrites session.writeBuf = some []) := by
  subst h_pump
  unfold pumpInbox
  split
  · rename_i h_flush
    exact .inl ⟨.session rfl rfl rfl rfl rfl, rfl, fun h => by rw [h_flush] at h; cases h⟩
  · rename_i h_flush
    exact .inl ⟨.session rfl rfl rfl rfl rfl, rfl, fun h => by rw [h_flush] at h; cases h⟩
  · split
    · rename_i h_offer
      have h_none := offerQueuedInbox_error h_offer
      exact .inl ⟨.session rfl rfl rfl rfl rfl, rfl, fun _ => h_none⟩
    · rename_i session h_offer
      refine .inr ⟨session, h_offer, ?_⟩
      split
      · exact ⟨.session rfl rfl rfl rfl rfl, .inl rfl⟩
      · exact ⟨.session rfl rfl rfl rfl rfl, .inl rfl⟩
      · rename_i h_written
        refine ⟨?_, .inr h_written⟩
        have h_flushed : InboxPump.Serves { p with session }
            { p with session := { session with writeBuf := [] } } :=
          .session rfl rfl rfl rfl rfl
        have h_read := h_flushed.trans (serves_read wire io _)
        generalize readInboxAcks wire io _ = read at h_read ⊢
        obtain ⟨lasts, p₂⟩ := read
        dsimp only
        split
        · exact h_read
        · exact h_read.trans (.session rfl rfl rfl rfl rfl)

end InboxPump

end Kelpie
