/-
  Kelpie.Waiters.Inbox

  The daemon's inbox sessions over its store: claims, pumps and acknowledgements
  beside whatever else calls the store.

  A queued delivery is offered once on a connection, again on every later one, and
  no more once its waiter acknowledged it or ended.
-/

import Kelpie.Waiters.Absence
import Kelpie.Waiters.Pump

namespace Kelpie

open Lib Lib.Tx

-- As in `Kelpie.Store.Frames`.
set_option synthInstance.maxSize 100000

-- ============================================================================
-- Sessions over a store
-- ============================================================================

/-- A message that was put on offer, and the reading under which it was queued and due. -/
structure Offer where
  stream : Nat
  waiter : LogicalAgentId
  message : MessageId
  reading : Millis
deriving DecidableEq, Repr

/-- The open sessions over the store, and what happened on them so far. -/
structure InboxWorld where
  store : Store
  sessions : List InboxSession
  /-- The number of connections that claimed an inbox. -/
  connections : Nat
  offers : List Offer
  /-- The acknowledgements that were committed. -/
  acks : List (LogicalAgentId × MessageId)
  /-- The connections that were pumped. -/
  pumps : List Nat

/-- What happens to the inboxes, in any order. -/
inductive InboxLabel where
  /-- Any other part of the daemon calls the store. -/
  | call (c : Call)
  /-- A client claims an inbox; its connection may be lost before it is answered. -/
  | claim (now : Millis) (waiter : LogicalAgentId) (leftover : List UInt8) (answered : Bool)
  | pump (stream : Nat) (io : PumpIo)
  /-- The process ends, and another one serves the store. -/
  | restart

namespace InboxWorld

/-- No session, over an empty store. -/
def empty : InboxWorld where
  store := Store.empty
  sessions := []
  connections := 0
  offers := []
  acks := []
  pumps := []

/-- `park_inbox`: a claim replaces the session of the same waiter. -/
def park (session : InboxSession) (sessions : List InboxSession) : List InboxSession :=
  sessions.filter (·.waiterId ≠ session.waiterId) ++ [session]

/-- The sessions after one of them was pumped. -/
def pumped (lasts : Bool) (session : InboxSession) (sessions : List InboxSession) :
    List InboxSession :=
  if lasts then sessions.map fun x => if x.stream = session.stream then session else x
  else sessions.filter (·.stream ≠ session.stream)

variable (wire : Wire)

/-- What a label does; a claim that is refused does nothing. -/
def next (l : InboxLabel) (w : InboxWorld) : Option InboxWorld :=
  match l with
  | .call c =>
    match c with
    | .ackSocketInboxDelivery .. => none
    | c => (c.commit w.store).toOption.map fun s => { w with store := s }
  | .claim now waiter leftover answered =>
    match (claimInbox now waiter).run w.store with
    | (.error _, _) => none
    | (.ok _, s) =>
      if answered then
        some { w with
          store := s
          connections := w.connections + 1
          sessions := park (.claimed waiter w.connections leftover) w.sessions }
      else some { w with store := s }
  | .pump stream io =>
    (w.sessions.find? (·.stream = stream)).map fun session =>
      match pumpInbox wire io { session, store := w.store, acked := [] } with
      | (lasts, p) => { w with
          store := p.store
          sessions := pumped lasts p.session w.sessions
          offers := w.offers ++ (p.session.offered.drop session.offered.length).map fun m =>
            { stream, waiter := session.waiterId, message := m, reading := io.offeredAt }
          acks := w.acks ++ p.acked.map fun m => (session.waiterId, m)
          pumps := w.pumps ++ [stream] }
  | .restart => some { w with sessions := [] }

end InboxWorld

/-- The states of the inboxes that a run leads to. -/
abbrev InboxRun (wire : Wire) : InboxWorld → InboxWorld → Prop :=
  Run (StepOf (InboxWorld.next wire)) (fun _ _ => True)

/-- The states of the inboxes that are reached from the start. -/
abbrev InboxReachable (wire : Wire) : InboxWorld → Prop := InboxRun wire InboxWorld.empty

-- ============================================================================
-- A pump
-- ============================================================================

/-- A pump of the session puts what is due on offer, and writes all of it. -/
def InboxSession.Written (wire : Wire) (io : PumpIo) (s : Store) (session : InboxSession) :
    Prop :=
  ∃ x, offerQueuedInbox wire io { session with writeBuf := [] } s = .ok x ∧
    flushInboxWrite io.offerWrites x.writeBuf = some []

namespace InboxWorld

variable {wire : Wire} {w₀ w w' : InboxWorld}

/-- What a pump of the connection did: `new` is what it put on offer, `acked` what the waiter
    acknowledged then. -/
structure Pumped (wire : Wire) (stream : Nat) (io : PumpIo) (session session' : InboxSession)
    (new acked : List MessageId) (w w' : InboxWorld) : Prop where
  member : session ∈ w.sessions
  on : session.stream = stream
  fresh : session.Offers new session'
  rightful : ∀ m ∈ new, w.store.HasWaiter session.waiterId ∧
    ∃ d ∈ w.store.deliveries, d.messageId = m ∧ d.DueFor session.waiterId io.offeredAt
  drained : flushInboxWrite io.writes session.writeBuf = some [] →
    w.store.HasWaiter session.waiterId → ∀ d ∈ w.store.deliveries,
      (w.store.messages.find d.messageId).isSome →
      d.DueFor session.waiterId io.offeredAt → d.messageId ∈ session'.offered
  run : StoreRun (AcksOf session.waiterId acked) w.store w'.store
  accepted : w.store.InboxesApart → ∀ m ∈ acked, w'.store.InboxAccepted session.waiterId m
  written : acked = [] ∨ InboxSession.Written wire io w.store session
  sessions : ∀ x ∈ w'.sessions, x = session' ∨ x ∈ w.sessions ∧ x.stream ≠ stream
  connections : w'.connections = w.connections
  offers : w'.offers = w.offers ++ new.map fun m =>
    { stream, waiter := session.waiterId, message := m, reading := io.offeredAt }
  acks : w'.acks = w.acks ++ acked.map fun m => (session.waiterId, m)
  pumps : w'.pumps = w.pumps ++ [stream]

theorem mem_pumped {lasts : Bool} {session x : InboxSession} {sessions : List InboxSession}
    (h : x ∈ pumped lasts session sessions) :
    x = session ∨ x ∈ sessions ∧ x.stream ≠ session.stream := by
  unfold pumped at h
  split at h
  · obtain ⟨y, h_y, rfl⟩ := List.mem_map.mp h
    split
    · exact .inl rfl
    · rename_i h_other
      exact .inr ⟨h_y, h_other⟩
  · rw [List.mem_filter, decide_eq_true_eq] at h
    exact .inr h

theorem pumped_of_step {stream : Nat} {io : PumpIo}
    (h : next wire (.pump stream io) w = some w') :
    ∃ session session' new acked, w.Pumped wire stream io session session' new acked w' := by
  obtain ⟨session, h_find, rfl⟩ := Option.map_eq_some_iff.mp h
  have h_open : session ∈ w.sessions := List.mem_of_find?_eq_some h_find
  obtain rfl : session.stream = stream := by simpa using List.find?_some h_find
  generalize h_p : pumpInbox wire io { session, store := w.store, acked := [] } = r
  obtain ⟨lasts, p⟩ := r
  dsimp only
  -- The pump puts `new` on offer, and what it serves afterwards offers nothing.
  obtain ⟨new, h_new, h_rightful, h_drained, h_written, h_serves⟩ : ∃ new,
      session.Offers new p.session ∧
      (∀ m ∈ new, w.store.HasWaiter session.waiterId ∧
        ∃ d ∈ w.store.deliveries, d.messageId = m ∧ d.DueFor session.waiterId io.offeredAt) ∧
      (flushInboxWrite io.writes session.writeBuf = some [] →
        w.store.HasWaiter session.waiterId → ∀ d ∈ w.store.deliveries,
          (w.store.messages.find d.messageId).isSome →
          d.DueFor session.waiterId io.offeredAt → d.messageId ∈ p.session.offered) ∧
      (p.acked = [] ∨ InboxSession.Written wire io w.store session) ∧
      ∃ x : InboxSession, x.waiterId = session.waiterId ∧
        InboxPump.Serves { session := x, store := w.store, acked := [] } p := by
    rcases InboxPump.pump_cases (congrArg Prod.snd h_p) with
      ⟨h_serves, h_none, h_blocked⟩ | ⟨x, h_offer, h_serves, h_written⟩
    · refine ⟨[], .none h_serves.waiter h_serves.stream h_serves.offered, by simp, ?_,
        .inl h_none, session, rfl, h_serves⟩
      exact fun h_flush h_waiter => absurd h_waiter (h_blocked h_flush)
    · obtain ⟨h_waiter, new, h_new, h_rightful, h_all⟩ := offerQueuedInbox_offers h_offer
      refine ⟨new, ⟨?_, ?_, ?_, h_new.nodup, h_new.fresh⟩, fun m h_m => ⟨h_waiter, ?_⟩, ?_,
        h_written.imp_right fun h => ⟨x, h_offer, h⟩, x, h_new.waiter, h_serves⟩
      · exact h_serves.waiter.trans h_new.waiter
      · exact h_serves.stream.trans h_new.stream
      · exact h_serves.offered.trans h_new.offered
      · exact h_rightful m h_m
      · intro _ _ d h_d h_some h_due
        rw [h_serves.offered]
        exact h_all d h_d h_some h_due
  obtain ⟨x, h_x, h_serves⟩ := h_serves
  refine ⟨session, p.session, new, p.acked, ?_⟩
  constructor
  · exact h_open
  · rfl
  · exact h_new
  · exact h_rightful
  · exact h_drained
  · exact h_x ▸ h_serves.run
  · intro h_apart m h_m
    exact h_x ▸ (h_serves.accepted h_apart m h_m).resolve_left (by simp)
  · exact h_written
  · intro y h_y
    rw [← h_new.stream]
    exact mem_pumped h_y
  · rfl
  · simp [h_new.offered]
  · rfl
  · rfl

-- ============================================================================
-- The store
-- ============================================================================

/-- The call touches a waiter. -/
def Touches (waiter : LogicalAgentId) (c : Call) (_ : Store) : Prop :=
  ∃ now, c = .touchWaiterSeen waiter now

theorem claimInbox_touches {now : Millis} {waiter : LogicalAgentId} (s : Store) :
    StoreRun (Touches waiter) s ((claimInbox now waiter).final s) := by
  have h_touch : Tx.Keeps (StoreRun (Touches waiter)) (touchWaiterSeen waiter now) :=
    keeps_call (.touchWaiterSeen waiter now) (fun _ => rfl) fun _ => ⟨now, rfl⟩
  have h_claim : Prog.Keeps (StoreRun (Touches waiter)) (claimInbox now waiter) := by
    unfold claimInbox tried
    infer_instance
  exact h_claim.keeps s

/-- A step is a run of calls of the store, whose acknowledgements are on record. -/
theorem run_of_step {l : InboxLabel} (h : next wire l w = some w') :
    StoreRun (fun c _ => ∀ a m, c.AcksInbox a m → (a, m) ∈ w'.acks) w.store w'.store := by
  cases l with
  | call c =>
    have h_call (h_c : ∀ a m, ¬ c.AcksInbox a m)
        (h : (c.commit w.store).toOption.map (fun s => { w with store := s }) = some w') :
        StoreRun (fun c _ => ∀ a m, c.AcksInbox a m → (a, m) ∈ w'.acks) w.store w'.store := by
      obtain ⟨s, h_commit, rfl⟩ := Option.map_eq_some_iff.mp h
      exact .single c (fun a m h_acks => absurd h_acks (h_c a m))
        (Call.step_of_mem (Option.mem_def.mpr h_commit))
    cases c with
    | ackSocketInboxDelivery => cases h
    | _ => exact h_call (fun _ _ h_acks => h_acks) h
  | claim now waiter leftover answered =>
    have h_touches (s : Store) (h_s : (claimInbox now waiter).final w.store = s) :
        StoreRun (fun c _ => ∀ a m, c.AcksInbox a m → (a, m) ∈ w'.acks) w.store s := by
      refine (h_s ▸ claimInbox_touches w.store).mono ?_
      rintro c _ ⟨_, rfl⟩ a m h_acks
      exact h_acks.elim
    simp only [next] at h
    split at h
    · cases h
    · rename_i s h_claim
      have h_s := h_touches s (congrArg Prod.snd h_claim)
      split at h
      · obtain rfl := Option.some_inj.mp h
        exact h_s
      · obtain rfl := Option.some_inj.mp h
        exact h_s
  | pump stream io =>
    obtain ⟨session, session', new, acked, h_p⟩ := pumped_of_step h
    refine h_p.run.mono ?_
    rintro c _ ⟨now, m, h_m, rfl⟩ a m' ⟨rfl, rfl⟩
    rw [h_p.acks]
    exact List.mem_append_right _ (List.mem_map.mpr ⟨m', h_m, rfl⟩)
  | restart =>
    obtain rfl := Option.some_inj.mp h
    exact .refl

theorem acks_of_step {l : InboxLabel} (h : next wire l w = some w') :
    ∀ a ∈ w.acks, a ∈ w'.acks := by
  intro a h_a
  cases l with
  | call c =>
    simp only [next] at h
    split at h
    · cases h
    · obtain ⟨s, -, rfl⟩ := Option.map_eq_some_iff.mp h
      exact h_a
  | claim now waiter leftover answered =>
    simp only [next] at h
    split at h
    · cases h
    · split at h
      · obtain rfl := Option.some_inj.mp h
        exact h_a
      · obtain rfl := Option.some_inj.mp h
        exact h_a
  | pump stream io =>
    obtain ⟨session, session', new, acked, h_p⟩ := pumped_of_step h
    rw [h_p.acks]
    exact List.mem_append_left _ h_a
  | restart =>
    obtain rfl := Option.some_inj.mp h
    exact h_a

/-- A run keeps the acknowledgements, and is a run of calls of the store. -/
theorem run_of_run (h : InboxRun wire w w') : (∀ a ∈ w.acks, a ∈ w'.acks) ∧
    StoreRun (fun c _ => ∀ a m, c.AcksInbox a m → (a, m) ∈ w'.acks) w.store w'.store := by
  induction h with
  | refl => exact ⟨fun _ h => h, .refl⟩
  | tail l _ _ h_step ih =>
    obtain ⟨h_acks, h_run⟩ := ih
    have h_more := acks_of_step h_step
    refine ⟨fun a h_a => h_more a (h_acks a h_a), .trans (h_run.mono ?_) (run_of_step h_step)⟩
    exact fun c _ h_c a m h => h_more (a, m) (h_c a m h)

end InboxWorld

section Store

variable {acked : LogicalAgentId → MessageId → Prop} {s s' : Store}

/-- A delivery leaves the queue of its inbox when it is acknowledged, or its waiter is gone. -/
theorem StoreRun.inboxes
    (h : StoreRun (fun c _ => ∀ a m, c.AcksInbox a m → acked a m) s s') (h_s : s.InboxesApart) :
    Boxes acked (fun a => Gone a s') s s' ∧ s'.InboxesApart := by
  induction h with
  | refl => exact ⟨Stepwise.refl _, h_s⟩
  | tail c h_run h_c h_step ih =>
    obtain ⟨h_boxes, h_apart⟩ := ih
    have h_last : StoreRun (fun _ _ => True) _ _ := .single c trivial h_step
    refine ⟨Stepwise.trans (h_boxes.mono (fun _ _ h => h) fun a h_gone => h_gone.run h_last) ?_,
      h_apart.step h_step⟩
    refine (c.boxes h_step h_apart).mono h_c fun a h_ends => ?_
    cases c with
    | endSocketWaiter now waiter due reason =>
      obtain ⟨res, h_end⟩ := commit_ok.mp h_step
      obtain rfl : a = waiter := h_ends
      exact endSocketWaiter_gone h_end
    | _ => exact h_ends.elim

/-- What is queued and due stays so, until it is acknowledged or the waiter is gone. -/
theorem Boxes.due {now : Millis} {waiter : LogicalAgentId} {d : DeliveryRow}
    (h : Boxes acked (fun a => Gone a s') s s') (h_s : s.InboxesApart) (h_d : d ∈ s.deliveries)
    (h_due : d.DueFor waiter now) :
    (∃ d' ∈ s'.deliveries, d'.messageId = d.messageId ∧ d'.DueFor waiter now) ∨
      acked waiter d.messageId ∨ Gone waiter s' := by
  obtain ⟨d', h_d', h_rests⟩ := h.kept d h_d
  have h_box := h_s.boxed d h_d h_due.transport
  rcases h_rests.outcome h_box with h_same | ⟨-, h_leaves⟩
  · refine .inl ⟨d', h_d', h_rests.message, ?_, ?_, ?_, ?_⟩
    · exact h_rests.agent.trans h_due.agent
    · exact h_rests.transport.trans h_due.transport
    · exact h_same.trans h_due.queued
    · rw [h_rests.scheduled h_box]
      exact h_due.due
  · cases h_leaves with
    | acked agent h_agent h_acked =>
      rw [h_due.agent, Option.some_inj] at h_agent
      exact .inr (.inl (h_agent ▸ h_acked))
    | ended agent h_agent h_gone =>
      rw [h_due.agent, Option.some_inj] at h_agent
      exact .inr (.inr (h_agent ▸ h_gone))

/-- A message that was accepted is queued no more. -/
theorem Store.InboxAccepted.not_due {now : Millis} {waiter other : LogicalAgentId}
    {message : MessageId} (h : s.InboxAccepted waiter message) (h_s : s.InboxesApart)
    {d : DeliveryRow} (h_d : d ∈ s.deliveries) (h_message : d.messageId = message) :
    ¬ d.DueFor other now := by
  intro h_due
  obtain ⟨d₀, h_d₀, h_sink, h_accepted⟩ := h
  obtain rfl := h_s.linked.only d₀ h_d₀ d h_d (h_sink.1.trans h_message.symm)
  have h_queued := h_due.queued
  rw [h_accepted] at h_queued
  cases h_queued

theorem Gone.not_waiter {waiter : LogicalAgentId} (h : Gone waiter s) : ¬ s.HasWaiter waiter := by
  rintro ⟨l, h_l, h_id, h_active⟩
  exact h.2 l h_l h_id h_active

end Store

-- ============================================================================
-- The log
-- ============================================================================

/-- The open sessions know what was offered on their connections. -/
structure InboxWorld.Tracked (w : InboxWorld) : Prop where
  streams : ∀ x ∈ w.sessions, x.stream < w.connections
  distinct : ∀ x ∈ w.sessions, ∀ y ∈ w.sessions, x.stream = y.stream → x = y
  shown : ∀ x ∈ w.sessions, ∀ m,
    m ∈ x.offered ↔ ∃ o ∈ w.offers, o.stream = x.stream ∧ o.message = m
  past : ∀ o ∈ w.offers, o.stream ∈ w.pumps
  claimed : ∀ n ∈ w.pumps, n < w.connections
  unpumped : ∀ x ∈ w.sessions, x.stream ∉ w.pumps → x.writeBuf = []
  once : (w.offers.map fun o => (o.stream, o.message)).Nodup

namespace InboxWorld

variable {wire : Wire} {w₀ w w' : InboxWorld}

/-- A claim opens a session on a connection of its own. -/
theorem Tracked.park {waiter : LogicalAgentId} {leftover : List UInt8} {s : Store}
    (h : w.Tracked) : Tracked { w with
      store := s
      connections := w.connections + 1
      sessions := InboxWorld.park (.claimed waiter w.connections leftover) w.sessions } := by
  have h_mem (x : InboxSession)
      (h_x : x ∈ InboxWorld.park (.claimed waiter w.connections leftover) w.sessions) :
      x ∈ w.sessions ∨ x = .claimed waiter w.connections leftover := by
    rcases List.mem_append.mp h_x with h_old | h_new
    · exact .inl (List.mem_filter.mp h_old).1
    · exact .inr (List.mem_singleton.mp h_new)
  constructor
  · intro x h_x
    rcases h_mem x h_x with h_old | rfl
    · exact Nat.lt_succ_of_lt (h.streams x h_old)
    · exact Nat.lt_succ_self _
  · intro x h_x y h_y h_same
    rcases h_mem x h_x with h_x | rfl <;> rcases h_mem y h_y with h_y | rfl
    · exact h.distinct x h_x y h_y h_same
    · exact absurd h_same (Nat.ne_of_lt (h.streams x h_x))
    · exact absurd h_same.symm (Nat.ne_of_lt (h.streams y h_y))
    · rfl
  · intro x h_x m
    rcases h_mem x h_x with h_old | rfl
    · exact h.shown x h_old m
    · refine ⟨fun h_m => absurd h_m List.not_mem_nil, ?_⟩
      -- Nothing was offered on the new connection.
      rintro ⟨o, h_o, h_stream, -⟩
      exact absurd h_stream (Nat.ne_of_lt (h.claimed _ (h.past o h_o)))
  · exact h.past
  · exact fun n h_n => Nat.lt_succ_of_lt (h.claimed n h_n)
  · intro x h_x h_fresh
    rcases h_mem x h_x with h_old | rfl
    · exact h.unpumped x h_old h_fresh
    · rfl
  · exact h.once

theorem Tracked.pump {stream : Nat} {io : PumpIo} {session session' : InboxSession}
    {new : List MessageId} {acked : List MessageId} (h : w.Tracked)
    (h_p : w.Pumped wire stream io session session' new acked w') : w'.Tracked := by
  have h_stream : session'.stream = stream := h_p.fresh.stream.trans h_p.on
  constructor
  · intro x h_x
    rw [h_p.connections]
    rcases h_p.sessions x h_x with rfl | ⟨h_old, -⟩
    · rw [h_p.fresh.stream]
      exact h.streams session h_p.member
    · exact h.streams x h_old
  · intro x h_x y h_y h_same
    rcases h_p.sessions x h_x with rfl | ⟨h_x, h_x_ne⟩ <;>
      rcases h_p.sessions y h_y with rfl | ⟨h_y, h_y_ne⟩
    · rfl
    · exact absurd (h_same.symm.trans h_stream) h_y_ne
    · exact absurd (h_same.trans h_stream) h_x_ne
    · exact h.distinct x h_x y h_y h_same
  · intro x h_x m
    rw [h_p.offers]
    rcases h_p.sessions x h_x with rfl | ⟨h_x, h_ne⟩
    · rw [h_p.fresh.offered, List.mem_append, h.shown session h_p.member m, h_stream, h_p.on]
      constructor
      · rintro (⟨o, h_o, h_on, h_m⟩ | h_m)
        · exact ⟨o, List.mem_append_left _ h_o, h_on, h_m⟩
        · exact ⟨_, List.mem_append_right _ (List.mem_map.mpr ⟨m, h_m, rfl⟩), rfl, rfl⟩
      · rintro ⟨o, h_o, h_on, h_m⟩
        rcases List.mem_append.mp h_o with h_old | h_new
        · exact .inl ⟨o, h_old, h_on, h_m⟩
        · obtain ⟨m', h_m', rfl⟩ := List.mem_map.mp h_new
          exact .inr (h_m ▸ h_m')
    · rw [h.shown x h_x m]
      constructor
      · rintro ⟨o, h_o, h_on⟩
        exact ⟨o, List.mem_append_left _ h_o, h_on⟩
      · rintro ⟨o, h_o, h_on, h_m⟩
        rcases List.mem_append.mp h_o with h_old | h_new
        · exact ⟨o, h_old, h_on, h_m⟩
        · obtain ⟨m', -, rfl⟩ := List.mem_map.mp h_new
          exact absurd h_on.symm h_ne
  · intro o h_o
    rw [h_p.pumps]
    rw [h_p.offers] at h_o
    rcases List.mem_append.mp h_o with h_old | h_new
    · exact List.mem_append_left _ (h.past o h_old)
    · obtain ⟨m', -, rfl⟩ := List.mem_map.mp h_new
      exact List.mem_append_right _ (List.mem_singleton_self _)
  · intro n h_n
    rw [h_p.connections]
    rw [h_p.pumps] at h_n
    rcases List.mem_append.mp h_n with h_old | h_new
    · exact h.claimed n h_old
    · rw [List.mem_singleton.mp h_new, ← h_p.on]
      exact h.streams session h_p.member
  · intro x h_x h_unpumped
    rw [h_p.pumps] at h_unpumped
    rcases h_p.sessions x h_x with rfl | ⟨h_x, -⟩
    · refine absurd ?_ h_unpumped
      rw [h_stream]
      exact List.mem_append_right _ (List.mem_singleton_self _)
    · exact h.unpumped x h_x fun h_old => h_unpumped (List.mem_append_left _ h_old)
  · rw [h_p.offers, List.map_append, List.nodup_append]
    refine ⟨h.once, ?_, ?_⟩
    · rw [List.map_map]
      exact h_p.fresh.nodup.map fun m m' h_same => (Prod.mk.inj h_same).2
    · intro pair h_pair pair' h_pair' h_same
      obtain ⟨o, h_o, rfl⟩ := List.mem_map.mp h_pair
      obtain ⟨o', h_o', rfl⟩ := List.mem_map.mp h_pair'
      obtain ⟨m, h_m, rfl⟩ := List.mem_map.mp h_o'
      -- What is new was not on offer, as the session knows.
      obtain ⟨h_on, h_message⟩ := Prod.mk.inj h_same
      refine h_p.fresh.fresh m h_m ((h.shown session h_p.member m).mpr ⟨o, h_o, ?_, h_message⟩)
      exact h_on.trans h_p.on.symm

theorem Tracked.step {l : InboxLabel} (h : w.Tracked) (h_step : next wire l w = some w') :
    w'.Tracked := by
  have h_store (s : Store) : Tracked { w with store := s } :=
    ⟨h.streams, h.distinct, h.shown, h.past, h.claimed, h.unpumped, h.once⟩
  cases l with
  | call c =>
    simp only [next] at h_step
    split at h_step
    · cases h_step
    · obtain ⟨s, -, rfl⟩ := Option.map_eq_some_iff.mp h_step
      exact h_store s
  | claim now waiter leftover answered =>
    simp only [next] at h_step
    split at h_step
    · cases h_step
    · split at h_step
      · obtain rfl := Option.some_inj.mp h_step
        exact h.park
      · obtain rfl := Option.some_inj.mp h_step
        exact h_store _
  | pump stream io =>
    obtain ⟨session, session', new, acked, h_p⟩ := pumped_of_step h_step
    exact h.pump h_p
  | restart =>
    obtain rfl := Option.some_inj.mp h_step
    exact ⟨by simp, by simp, by simp, h.past, h.claimed, by simp, h.once⟩

/-- The log with the store: every acknowledgement on record accepted its delivery, and the
    sessions are of known agents. -/
structure Sound (w : InboxWorld) : Prop extends Tracked w where
  apart : w.store.InboxesApart
  accepted : ∀ a ∈ w.acks, w.store.InboxAccepted a.1 a.2
  known : ∀ x ∈ w.sessions, ∃ l ∈ w.store.logicalAgents, l.id = x.waiterId

theorem sound_empty : Sound empty where
  streams := by simp [empty]
  distinct := by simp [empty]
  shown := by simp [empty]
  past := by simp [empty]
  claimed := by simp [empty]
  unpumped := by simp [empty]
  once := by simp [empty]
  apart := inboxesApart_empty
  accepted := by simp [empty]
  known := by simp [empty]

/-- The acknowledgements that a step adds to the record are those of a pump. -/
theorem acked_of_step {l : InboxLabel} (h : next wire l w = some w')
    {a : LogicalAgentId × MessageId} (h_a : a ∈ w'.acks) :
    a ∈ w.acks ∨ ∃ stream io session session' new acked,
      l = .pump stream io ∧ w.Pumped wire stream io session session' new acked w' ∧
        a.1 = session.waiterId ∧ a.2 ∈ acked := by
  cases l with
  | call c =>
    simp only [next] at h
    split at h
    · cases h
    · obtain ⟨s, -, rfl⟩ := Option.map_eq_some_iff.mp h
      exact .inl h_a
  | claim now waiter leftover answered =>
    simp only [next] at h
    split at h
    · cases h
    · split at h
      · obtain rfl := Option.some_inj.mp h
        exact .inl h_a
      · obtain rfl := Option.some_inj.mp h
        exact .inl h_a
  | pump stream io =>
    obtain ⟨session, session', new, acked, h_p⟩ := pumped_of_step h
    rw [h_p.acks] at h_a
    refine (List.mem_append.mp h_a).imp_right fun h_new => ?_
    obtain ⟨m, h_m, rfl⟩ := List.mem_map.mp h_new
    exact ⟨stream, io, session, session', new, acked, rfl, h_p, rfl, h_m⟩
  | restart =>
    obtain rfl := Option.some_inj.mp h
    exact .inl h_a

theorem known_of_run {s s' : Store} {ok : Call → Store → Prop} {agent : LogicalAgentId}
    (h : ∃ l ∈ s.logicalAgents, l.id = agent) (h_run : StoreRun ok s s') :
    ∃ l ∈ s'.logicalAgents, l.id = agent := by
  obtain ⟨l, h_l, h_id⟩ := h
  have h_rolls : Rolls (fun _ => True) (fun _ => True) s.logicalAgents s'.logicalAgents :=
    StoreRun.rolls h_run (fun _ _ _ _ _ => trivial) fun _ _ _ _ _ => trivial
  obtain ⟨l', h_l', h_stays⟩ := h_rolls.kept l h_l
  exact ⟨l', h_l', h_stays.id.trans h_id⟩

/-- Every session after a step is of an agent that was known before it. -/
theorem Sound.sessions_known {l : InboxLabel} (h : w.Sound) (h_step : next wire l w = some w')
    {x : InboxSession} (h_x : x ∈ w'.sessions) :
    ∃ l ∈ w.store.logicalAgents, l.id = x.waiterId := by
  cases l with
  | call c =>
    simp only [next] at h_step
    split at h_step
    · cases h_step
    · obtain ⟨s, -, rfl⟩ := Option.map_eq_some_iff.mp h_step
      exact h.known x h_x
  | claim now waiter leftover answered =>
    simp only [next] at h_step
    split at h_step
    · cases h_step
    · rename_i s h_claim
      obtain ⟨h_known, -⟩ := Watch.claimInbox_run h_claim
      split at h_step
      · obtain rfl := Option.some_inj.mp h_step
        rcases List.mem_append.mp h_x with h_old | h_new
        · exact h.known x (List.mem_filter.mp h_old).1
        · rw [List.mem_singleton.mp h_new]
          exact h_known
      · obtain rfl := Option.some_inj.mp h_step
        exact h.known x h_x
  | pump stream io =>
    obtain ⟨session, session', new, acked, h_p⟩ := pumped_of_step h_step
    rcases h_p.sessions x h_x with rfl | ⟨h_old, -⟩
    · rw [h_p.fresh.waiter]
      exact h.known session h_p.member
    · exact h.known x h_old
  | restart =>
    obtain rfl := Option.some_inj.mp h_step
    exact absurd h_x List.not_mem_nil

theorem Sound.step {l : InboxLabel} (h : w.Sound) (h_step : next wire l w = some w') :
    w'.Sound where
  toTracked := h.toTracked.step h_step
  apart := (StoreRun.inboxes (run_of_step h_step) h.apart).2
  accepted a h_a := by
    obtain ⟨h_boxes, h_apart⟩ := StoreRun.inboxes (run_of_step h_step) h.apart
    rcases acked_of_step h_step h_a with h_old | ⟨_, _, _, _, _, _, -, h_p, h_waiter, h_m⟩
    · exact (h.accepted a h_old).boxes h.apart h_boxes
    · rw [h_waiter]
      exact h_p.accepted h.apart a.2 h_m
  known x h_x := known_of_run (h.sessions_known h_step h_x) (run_of_step h_step)

-- ============================================================================
-- Deliveries
-- ============================================================================

/-- The delivery may be put on offer: it is queued and due for an active waiter that did not
    acknowledge it. -/
structure MayOffer (w₀ w : InboxWorld) (l : InboxLabel) (o : Offer) : Prop where
  pump : ∃ io, l = .pump o.stream io ∧ io.offeredAt = o.reading
  due : ∃ d ∈ w.store.deliveries, d.messageId = o.message ∧ d.DueFor o.waiter o.reading
  active : w.store.HasWaiter o.waiter
  unended : ¬ Gone o.waiter w₀.store
  unacked : (o.waiter, o.message) ∉ w.acks

/-- What a step does that follows some earlier state. -/
structure Delivers (wire : Wire) (w₀ : InboxWorld) (l : InboxLabel) (w w' : InboxWorld) :
    Prop where
  /-- A message is offered at most once on a connection. -/
  once : (w'.offers.map fun o => (o.stream, o.message)).Nodup
  /-- Nothing is offered early, after its acknowledgement, or after the end of its waiter. -/
  offered : ∀ o ∈ w'.offers, o ∈ w.offers ∨ w₀.MayOffer w l o
  /-- What was due is on offer after the first pump of a connection, and after every one that
      finds nothing left to write, unless it was acknowledged or the waiter ended. -/
  again : ∀ stream io, l = .pump stream io → ∀ x ∈ w.sessions, x.stream = stream →
    (stream ∉ w.pumps ∨ flushInboxWrite io.writes x.writeBuf = some []) →
    ∀ d ∈ w₀.store.deliveries, d.DueFor x.waiterId io.offeredAt →
      (∃ o ∈ w'.offers, o.stream = stream ∧ o.message = d.messageId) ∨
        (x.waiterId, d.messageId) ∈ w.acks ∨ Gone x.waiterId w.store
  /-- An acknowledgement stays on record, and is read from a session of its waiter once
      everything on offer there is written. -/
  kept : ∀ a ∈ w₀.acks, a ∈ w.acks
  acked : ∀ a ∈ w'.acks, a ∈ w.acks ∨ ∃ stream io, l = .pump stream io ∧
    ∃ x ∈ w.sessions, x.stream = stream ∧ x.waiterId = a.1 ∧
      InboxSession.Written wire io w.store x
  /-- An acknowledgement of what is not queued for the waiter changes no row. -/
  stray : ∀ waiter m, (∀ d ∈ w'.store.deliveries,
      d.InSink .socketInbox m waiter → d.outcome ≠ .queued) →
    ∀ now, (ackInbox now waiter m).final w'.store = w'.store
  /-- A repeated one changes nothing. -/
  repeated : ∀ a ∈ w'.acks, ∀ now, (ackInbox now a.1 a.2).final w'.store = w'.store

theorem Sound.run (h : w.Sound) (h_run : InboxRun wire w w') : w'.Sound :=
  Run.invariant (I := Sound) h_run h fun _ _ _ h_w _ h_step => h_w.step h_step

/-- What is put on offer may be. -/
theorem Sound.offered {l : InboxLabel} (h₀ : w₀.Sound) (h_run : InboxRun wire w₀ w)
    (h_step : next wire l w = some w') {o : Offer} (h_o : o ∈ w'.offers) :
    o ∈ w.offers ∨ w₀.MayOffer w l o := by
  have h : w.Sound := h₀.run h_run
  cases l with
  | call c =>
    simp only [next] at h_step
    split at h_step
    · cases h_step
    · obtain ⟨s, -, rfl⟩ := Option.map_eq_some_iff.mp h_step
      exact .inl h_o
  | claim now waiter leftover answered =>
    simp only [next] at h_step
    split at h_step
    · cases h_step
    · split at h_step
      · obtain rfl := Option.some_inj.mp h_step
        exact .inl h_o
      · obtain rfl := Option.some_inj.mp h_step
        exact .inl h_o
  | restart =>
    obtain rfl := Option.some_inj.mp h_step
    exact .inl h_o
  | pump stream io =>
    obtain ⟨session, session', new, acked, h_p⟩ := pumped_of_step h_step
    rw [h_p.offers] at h_o
    refine (List.mem_append.mp h_o).imp_right fun h_new => ?_
    obtain ⟨m, h_m, rfl⟩ := List.mem_map.mp h_new
    obtain ⟨h_waiter, d, h_d, h_message, h_due⟩ := h_p.rightful m h_m
    refine ⟨⟨io, rfl, rfl⟩, ⟨d, h_d, h_message, h_due⟩, h_waiter, ?_, ?_⟩
    · intro h_gone
      exact (h_gone.run (run_of_run h_run).2).not_waiter h_waiter
    · intro h_acked
      exact (h.accepted _ h_acked).not_due h.apart h_d h_message h_due

/-- What was due is on offer after a pump. -/
theorem Sound.again {stream : Nat} {io : PumpIo} (h₀ : w₀.Sound) (h_run : InboxRun wire w₀ w)
    (h_step : next wire (.pump stream io) w = some w') {x : InboxSession}
    (h_x : x ∈ w.sessions) (h_stream : x.stream = stream)
    (h_flush : stream ∉ w.pumps ∨ flushInboxWrite io.writes x.writeBuf = some [])
    {d : DeliveryRow} (h_d : d ∈ w₀.store.deliveries)
    (h_due : d.DueFor x.waiterId io.offeredAt) :
    (∃ o ∈ w'.offers, o.stream = stream ∧ o.message = d.messageId) ∨
      (x.waiterId, d.messageId) ∈ w.acks ∨ Gone x.waiterId w.store := by
  have h : w.Sound := h₀.run h_run
  have h' : w'.Sound := h.step h_step
  obtain ⟨session, session', new, acked, h_p⟩ := pumped_of_step h_step
  obtain rfl : x = session :=
    h.distinct x h_x session h_p.member (h_stream.trans h_p.on.symm)
  have h_flushed : flushInboxWrite io.writes x.writeBuf = some [] := by
    rcases h_flush with h_first | h_flushed
    · rw [h.unpumped x h_x (h_stream ▸ h_first), flushInboxWrite_nil]
    · exact h_flushed
  obtain ⟨h_boxes, -⟩ := StoreRun.inboxes (run_of_run h_run).2 h₀.apart
  rcases h_boxes.due h₀.apart h_d h_due with ⟨d', h_d', h_message, h_due'⟩ | h_left
  · by_cases h_waiter : w.store.HasWaiter x.waiterId
    · left
      obtain ⟨m, h_m, h_id⟩ := h.apart.linked.message d' h_d'
      have h_find : w.store.messages.find d'.messageId = some m :=
        Table.find_eq_some.mpr ⟨h_m, h_id⟩
      have h_some : (w.store.messages.find d'.messageId).isSome := by
        rw [h_find]
        rfl
      have h_on := h_p.drained h_flushed h_waiter d' h_d' h_some h_due'
      rw [h_p.fresh.offered, List.mem_append, h.shown x h_x] at h_on
      rw [h_p.offers, ← h_message, ← h_stream]
      rcases h_on with ⟨o, h_o, h_old⟩ | h_new
      · exact ⟨o, List.mem_append_left _ h_o, h_old⟩
      · exact ⟨_, List.mem_append_right _ (List.mem_map.mpr ⟨_, h_new, rfl⟩), rfl, rfl⟩
    · refine .inr (.inr ⟨h.known x h_x, fun l h_l h_id h_active => ?_⟩)
      exact h_waiter ⟨l, h_l, h_id, h_active⟩
  · exact .inr h_left

end InboxWorld

/-- A wire of one byte for what is written, on which a line is the message it acknowledges. -/
def byteWire : Wire where
  encode _ := [33]
  decode line :=
    match line with
    | [] => .blank
    | byte :: _ => .ack "a" (.ok byte.toNat)

/-- A pump that writes all there is to write, and reads what is sent. -/
def pumping (read : ReadOutcome) : PumpIo where
  writes := []
  offeredAt := 4
  eventIds _ := "e"
  offerWrites := [.wrote 1, .wrote 1]
  read := read
  ackedAt _ := 5
  ackWrites := [.wrote 2]

end Kelpie
