/-
  Kelpie.Ledger.Polling

  A client that follows the pull log of one ask by its cursor, and the leases and
  acknowledgements of that log.
-/

import Kelpie.Ledger.PullLog

namespace Kelpie

open Lib Lib.Tx Ledger

variable {s s' : Store} {ask : MessageId} {requester : LogicalAgentId}

-- ============================================================================
-- One poll
-- ============================================================================

/-- The ask is a pull ask that the agent waits on. -/
def Store.PullAsk (s : Store) (ask : MessageId) (requester : LogicalAgentId) : Prop :=
  ∃ o ∈ s.obligations.rows, o.askMessageId = ask ∧ o.replyDelivery = .pull ∧
    o.waitingAgentId = requester

instance (s : Store) (ask : MessageId) (requester : LogicalAgentId) :
    Decidable (s.PullAsk ask requester) := inferInstanceAs (Decidable
  (∃ o ∈ s.obligations.rows, o.askMessageId = ask ∧ o.replyDelivery = .pull ∧
    o.waitingAgentId = requester))

theorem requirePullWaiter_ok_iff :
    requirePullWaiter ask requester s = .ok () ↔ s.PullAsk ask requester := by
  unfold requirePullWaiter
  constructor
  · intro h
    split at h
    · cases h
    · rename_i o h_find
      obtain ⟨h_o, h_ask⟩ := Table.find_eq_some.mp h_find
      split at h
      · cases h
      · rename_i h_pull
        split at h
        · cases h
        · rename_i h_waiting
          exact ⟨o, h_o, h_ask, not_not.mp h_pull, not_not.mp h_waiting⟩
  · rintro ⟨o, h_o, h_ask, h_pull, h_waiting⟩
    have h_find : s.obligations.find ask = some o := Table.find_eq_some.mpr ⟨h_o, h_ask⟩
    simp [h_find, h_pull, h_waiting]

/-- The messages with a row in the pull logs of the agent. -/
def Store.pulled (s : Store) (requester : LogicalAgentId) : List MessageRow :=
  (s.deliveries.rows.filter fun d =>
    d.deliveryTransport = .askPull ∧ d.recipientAgentId = some requester).filterMap
      fun d => s.messages.find d.messageId

/-- The reverse events after a cursor, in message order. -/
def Store.pullEvents (s : Store) (ask : MessageId) (requester : LogicalAgentId)
    (after : Int) : List MessageRow :=
  ((s.pulled requester).filter fun m =>
    after < m.id ∧ s.IsReverseEvent ask m).insertionSort fun a b => a.id ≤ b.id

/-- The cursor to poll with next. -/
def cursorAfter (after : Int) (events : List MessageRow) : Int :=
  (events.getLast?.map fun m => (m.id : Int)).getD after

theorem pollAskPull_ok_iff {after : Int} {lease : Option Nat} {r : List MessageRow × Int} :
    pollAskPull ask requester after lease s = .ok r ↔ 0 ≤ after ∧ s.PullAsk ask requester ∧
      (∀ id ∈ lease, requireLiveAskPullLease ask requester id s = .ok ()) ∧
      r = (s.pullEvents ask requester after,
        cursorAfter after (s.pullEvents ask requester after)) := by
  rw [← requirePullWaiter_ok_iff]
  unfold pollAskPull
  by_cases h_after : after < 0
  · simp [h_after, bind, Except.bind]
  · have h_nonneg : 0 ≤ after := by omega
    cases h_waiter : requirePullWaiter ask requester s with
    | error e => simp [h_after, bind, Except.bind]
    | ok u =>
      cases lease with
      | none =>
        simp only [h_after, h_nonneg, bind, Except.bind, pure, Except.pure, if_false,
          Except.ok.injEq, true_and, Option.not_mem_none, false_implies, implies_true]
        constructor <;> (rintro rfl; rfl)
      | some id =>
        cases h_lease : requireLiveAskPullLease ask requester id s with
        | error e => simp [h_after, h_lease, bind, Except.bind]
        | ok u =>
          simp only [h_after, h_nonneg, h_lease, bind, Except.bind, pure, Except.pure, if_false,
            Except.ok.injEq, true_and, Option.mem_some_iff, forall_eq']
          constructor <;> (rintro rfl; rfl)

theorem mem_pullEvents (h_s : Logged s) (h_ask : s.PullAsk ask requester) {after : Int}
    {m : MessageRow} : m ∈ s.pullEvents ask requester after ↔
      m ∈ s.messages ∧ s.IsReverseEvent ask m ∧ after < m.id := by
  simp only [Store.pullEvents, Store.pulled, List.mem_insertionSort, List.mem_filter,
    List.mem_filterMap, decide_eq_true_eq]
  constructor
  · rintro ⟨⟨d, -, h_find⟩, h_after, h_event⟩
    exact ⟨(Table.find_eq_some.mp h_find).1, h_event, h_after⟩
  · rintro ⟨h_m, h_event, h_after⟩
    obtain ⟨o, h_o, rfl, h_pull, rfl⟩ := h_ask
    obtain ⟨d, h_d, h_message, h_transport, h_agent⟩ := h_s.recorded o h_o h_pull m h_m h_event
    refine ⟨⟨d, ⟨h_d, h_transport, h_agent⟩, ?_⟩, h_after, h_event⟩
    exact Table.find_eq_some.mpr ⟨h_m, h_message.symm⟩

/-- A message has one delivery, so that it occurs once among the events. -/
theorem pullEvents_ascending (h_s : Linked s.ledger) {after : Int} :
    (s.pullEvents ask requester after).Pairwise fun a b => a.id < b.id := by
  have h_rows : s.deliveries.rows.Pairwise fun d d' => d.messageId ≠ d'.messageId := by
    have h_keys := List.pairwise_map.mp s.deliveries.keys_nodup
    refine h_keys.imp_of_mem fun {d d'} h_d h_d' h_rowid h_message => h_rowid ?_
    rw [h_s.only d h_d d' h_d' h_message]
  have h_pulled : (s.pulled requester).Pairwise fun a b => a.id ≠ b.id := by
    refine List.pairwise_filterMap.mpr ((h_rows.sublist List.filter_sublist).imp ?_)
    intro d d' h_ne a h_a b h_b
    rw [(Table.find_eq_some.mp h_a).2, (Table.find_eq_some.mp h_b).2]
    exact h_ne
  have h_distinct : (s.pullEvents ask requester after).Pairwise fun a b => a.id ≠ b.id :=
    ((List.perm_insertionSort _ _).pairwise_iff fun h => h.symm).mpr
      (h_pulled.sublist List.filter_sublist)
  have h_sorted : (s.pullEvents ask requester after).Pairwise fun a b => a.id ≤ b.id :=
    List.pairwise_insertionSort _ _
  exact (h_sorted.and h_distinct).imp fun ⟨h_le, h_ne⟩ => Nat.lt_of_le_of_ne h_le h_ne

/-- The next cursor is the old one, or the last event. -/
theorem cursorAfter_cases {after : Int} {events : List MessageRow}
    (h_events : events.Pairwise fun a b => a.id < b.id) :
    (events = [] ∧ cursorAfter after events = after) ∨
      ∃ m ∈ events, cursorAfter after events = m.id ∧ ∀ m' ∈ events, m'.id ≤ m.id := by
  rcases List.eq_nil_or_concat events with rfl | ⟨init, m, rfl⟩
  · exact .inl ⟨rfl, rfl⟩
  · refine .inr ⟨m, by simp, by simp [cursorAfter], fun m' h_m' => ?_⟩
    rw [List.concat_eq_append, List.pairwise_append] at h_events
    rcases List.mem_append.mp (List.concat_eq_append ▸ h_m') with h_init | h_last
    · exact Nat.le_of_lt (h_events.2.2 m' h_init m (List.mem_singleton.mpr rfl))
    · rw [List.mem_singleton.mp h_last]

-- ============================================================================
-- The client
-- ============================================================================

/-- A client that polls the log of one ask with the cursor it was answered last: what it has
    received, and the lease that the latest claim of the ask returned. -/
structure PullClient where
  store : Store := .empty
  cursor : Int := 0
  received : List MessageRow := []
  lease : Option Nat := none

/-- A call on the store by anyone, or a poll of the client with or without a lease. -/
inductive PullEvent where
  | call (c : Call)
  | poll (lease : Option Nat)

/-- The lease that the call returns, when it is a claim of the ask. -/
def Call.claimed (c : Call) (ask : MessageId) (s : Store) : Option Nat :=
  match c with
  | .claimAskPullLease now ask' requester =>
    if ask' = ask then
      ((Kelpie.claimAskPullLease now ask' requester).run s).toOption.map Prod.fst
    else none
  | _ => none

/-- What follows an event that succeeds. -/
def PullClient.next (ask : MessageId) (requester : LogicalAgentId) (e : PullEvent)
    (p : PullClient) : Option PullClient :=
  match e with
  | .call c => (c.commit p.store).toOption.map fun s =>
      { p with store := s, lease := (c.claimed ask p.store).or p.lease }
  | .poll lease => (pollAskPull ask requester p.cursor lease p.store).toOption.map
      fun (events, cursor) => { p with cursor, received := p.received ++ events }

/-- The states of the client that events lead to from an empty store. -/
abbrev PullRun (ask : MessageId) (requester : LogicalAgentId) : PullClient → PullClient → Prop :=
  Run (StepOf (PullClient.next ask requester)) fun _ _ => True

/-- The client has received the reverse events up to its cursor, in order. -/
structure PullClient.Follows (ask : MessageId) (p : PullClient) : Prop where
  linked : Linked p.store.ledger
  logged : Logged p.store
  cursor : (p.cursor = 0 ∧ p.received = []) ∨ ∃ m ∈ p.received, p.cursor = m.id ∧
    ∀ m' ∈ p.received, m'.id ≤ m.id
  ascending : p.received.Pairwise fun a b => a.id < b.id
  events : ∀ m ∈ p.received, m ∈ p.store.messages ∧ p.store.IsReverseEvent ask m
  complete : ∀ m ∈ p.store.messages, p.store.IsReverseEvent ask m → (m.id : Int) ≤ p.cursor →
    m ∈ p.received

variable {p p' : PullClient}

theorem PullClient.follows_empty : PullClient.Follows ask {} where
  linked := linked_empty
  logged := logged_empty
  cursor := .inl ⟨rfl, rfl⟩
  ascending := .nil
  events _ h := absurd h List.not_mem_nil
  complete _ h := absurd h Table.notMem_empty

/-- A later message is after the cursor. -/
theorem PullClient.Follows.after (h : p.Follows ask) {m : MessageRow}
    (h_m : m.Next p.store.messages) : p.cursor < m.id := by
  rcases h.cursor with ⟨h_zero, -⟩ | ⟨m₀, h_m₀, h_cursor, -⟩
  · rw [h_zero]
    exact Int.natCast_pos.mpr h_m.pos
  · rw [h_cursor]
    exact Int.ofNat_lt.mpr (h_m.later m₀ (h.events m₀ h_m₀).1)

theorem PullClient.Follows.call (h : p.Follows ask) {c : Call} {s' : Store}
    (h_step : c.Step p.store s') {lease : Option Nat} :
    PullClient.Follows ask { p with store := s', lease } := by
  obtain ⟨h_grows, h_logged⟩ := c.logs h_step h.logged
  refine
    { linked := (linked_invariant (p := fun _ _ => True)).toKept.step
        (fun _ _ _ => False.elim) h.linked trivial h_step
      logged := h_logged
      cursor := h.cursor
      ascending := h.ascending
      events := fun m h_m => ?_
      complete := fun m h_m h_event h_le => ?_ }
  · obtain ⟨h_mem, h_event⟩ := h.events m h_m
    exact ⟨h_grows.messages m h_mem, h_grows.kept ask m h_mem h_event⟩
  · rcases h_grows.later ask m h_m h_event with ⟨h_old, h_was⟩ | h_next
    · exact h.complete m h_old h_was h_le
    · exact absurd h_le (Int.not_le.mpr (h.after h_next))

/-- A poll catches up with the log. -/
theorem PullClient.Follows.poll (h : p.Follows ask) {lease : Option Nat}
    {events : List MessageRow} {cursor : Int}
    (h_poll : pollAskPull ask requester p.cursor lease p.store = .ok (events, cursor)) :
    PullClient.Follows ask { p with cursor, received := p.received ++ events } ∧
      ∀ m, m ∈ p.received ++ events ↔ m ∈ p.store.messages ∧ p.store.IsReverseEvent ask m := by
  obtain ⟨-, h_ask, -, h_eq⟩ := pollAskPull_ok_iff.mp h_poll
  obtain ⟨h_events, h_cursor⟩ := Prod.mk.inj h_eq
  have h_mem {m : MessageRow} :
      m ∈ events ↔ m ∈ p.store.messages ∧ p.store.IsReverseEvent ask m ∧ p.cursor < m.id := by
    rw [h_events]
    exact mem_pullEvents h.logged h_ask
  have h_ascending : events.Pairwise fun a b => a.id < b.id := by
    rw [h_events]
    exact pullEvents_ascending h.linked
  have h_below {m : MessageRow} (h_m : m ∈ p.received) : (m.id : Int) ≤ p.cursor := by
    rcases h.cursor with ⟨-, h_nil⟩ | ⟨m₀, -, h_eq₀, h_max⟩
    · rw [h_nil] at h_m
      cases h_m
    · rw [h_eq₀]
      exact Int.ofNat_le.mpr (h_max m h_m)
  have h_all (m : MessageRow) : m ∈ p.received ++ events ↔
      m ∈ p.store.messages ∧ p.store.IsReverseEvent ask m := by
    rw [List.mem_append, h_mem]
    constructor
    · rintro (h_m | ⟨h_m, h_event, -⟩)
      · exact h.events m h_m
      · exact ⟨h_m, h_event⟩
    · rintro ⟨h_m, h_event⟩
      rcases Int.lt_or_le p.cursor m.id with h_lt | h_le
      · exact .inr ⟨h_m, h_event, h_lt⟩
      · exact .inl (h.complete m h_m h_event h_le)
  refine ⟨?_, h_all⟩
  exact
    { linked := h.linked
      logged := h.logged
      cursor := by
        rcases cursorAfter_cases h_ascending with ⟨rfl, h_same⟩ | ⟨m, h_m, h_last, h_max⟩
        · rw [List.append_nil, h_cursor, ← h_events, h_same]
          exact h.cursor
        · refine .inr ⟨m, List.mem_append_right _ h_m, ?_, fun m' h_m' => ?_⟩
          · rw [h_cursor, ← h_events, h_last]
          · rcases List.mem_append.mp h_m' with h_old | h_new
            · exact Int.ofNat_le.mp (Int.le_trans (h_below h_old) (Int.le_of_lt (h_mem.mp h_m).2.2))
            · exact h_max m' h_new
      ascending := by
        refine List.pairwise_append.mpr ⟨h.ascending, h_ascending, fun m h_m m' h_m' => ?_⟩
        exact Int.ofNat_lt.mp (Int.lt_of_le_of_lt (h_below h_m) (h_mem.mp h_m').2.2)
      events := fun m h_m => (h_all m).mp h_m
      complete := fun m h_m h_event _ => (h_all m).mpr ⟨h_m, h_event⟩ }

-- ============================================================================
-- Leases
-- ============================================================================

/-- The leases are what they were. -/
def SameLeases (s s' : Store) : Prop := s'.askPullLeases = s.askPullLeases

instance SameLeases.stepwise : Stepwise SameLeases := ⟨fun _ => rfl, fun h h' => h'.trans h⟩

instance : Ignores SameLeases Tab.logicalAgents := ⟨fun _ _ => rfl⟩
instance : Ignores SameLeases Tab.incarnations := ⟨fun _ _ => rfl⟩
instance : Ignores SameLeases Tab.operations := ⟨fun _ _ => rfl⟩
instance : Ignores SameLeases Tab.operationAttempts := ⟨fun _ _ => rfl⟩
instance : Ignores SameLeases Tab.operatorNotices := ⟨fun _ _ => rfl⟩
instance : Ignores SameLeases Tab.messages := ⟨fun _ _ => rfl⟩
instance : Ignores SameLeases Tab.obligations := ⟨fun _ _ => rfl⟩
instance : Ignores SameLeases Tab.deliveries := ⟨fun _ _ => rfl⟩
instance : Ignores SameLeases Tab.obligationReminders := ⟨fun _ _ => rfl⟩
instance : Ignores SameLeases Tab.reminderAttempts := ⟨fun _ _ => rfl⟩
instance : Ignores SameLeases Tab.renewAttempts := ⟨fun _ _ => rfl⟩
instance : Ignores SameLeases Tab.schedules := ⟨fun _ _ => rfl⟩
instance : Ignores SameLeases Tab.renews := ⟨fun _ _ => rfl⟩
instance : Ignores SameLeases Tab.scheduleFirings := ⟨fun _ _ => rfl⟩
instance : Ignores SameLeases Tab.socketWaiterKeys := ⟨fun _ _ => rfl⟩
instance : Ignores SameLeases Tab.socketInboxKeys := ⟨fun _ _ => rfl⟩
instance : Ignores SameLeases Tab.askPullKeys := ⟨fun _ _ => rfl⟩
instance : IgnoresCounters SameLeases := ⟨fun _ _ => rfl, fun _ _ => rfl, fun _ _ => rfl⟩

/-- The lease of the ask. -/
def Store.leaseOf (s : Store) (ask : MessageId) : Option Nat :=
  (s.askPullLeases.find ask).map (·.leaseId)

/-- A claim gives its ask the lease that it returns, and leaves the others theirs. -/
theorem claimAskPullLease_run {now : Millis} {other : MessageId} {lease : Nat}
    (h : (claimAskPullLease now other requester).run s = .ok (lease, s')) :
    s'.leaseOf ask = if other = ask then some lease else s.leaseOf ask := by
  simp only [claimAskPullLease, run_bind_query_ok] at h
  obtain ⟨_, -, h⟩ := h
  obtain ⟨_, s₁, h_delete, h⟩ := run_bind_ok.mp h
  simp only [run_deleteRows, Except.ok.injEq, Prod.mk.injEq] at h_delete
  obtain ⟨-, rfl⟩ := h_delete
  simp only [run_bind_reads] at h
  obtain ⟨_, s₂, h_seq, h⟩ := run_bind_ok.mp h
  cases h_seq
  obtain ⟨_, s₃, h_insert, h⟩ := run_bind_ok.mp h
  cases h
  obtain ⟨t, h_t, h_s₃⟩ := run_insertRow_ok.mp h_insert
  obtain rfl := (Prod.mk.inj h_s₃).2
  have h_mem := (Table.insert?_eq_some h_t).2
  by_cases h_other : other = ask
  · have h_find := Table.find_eq_some.mpr ⟨(h_mem _).mpr (.inr rfl), h_other⟩
    rw [if_pos h_other]
    exact congrArg (Option.map AskPullLeaseRow.leaseId) h_find
  · rw [if_neg h_other]
    refine congrArg (Option.map AskPullLeaseRow.leaseId) (Table.find_congr fun l h_l => ?_)
    refine (h_mem l).trans ⟨?_, ?_⟩
    · rintro (h_old | rfl)
      · exact (Table.mem_delete.mp h_old).1
      · exact absurd h_l h_other
    · exact fun h_old => .inl (Table.mem_delete.mpr ⟨h_old, fun h => h_other (h.symm.trans h_l)⟩)

theorem Call.leaseOf (c : Call) (h : c.Step s s') :
    s'.leaseOf ask = (c.claimed ask s).or (s.leaseOf ask) := by
  have h_same (h_leases : SameLeases s s') : s'.leaseOf ask = s.leaseOf ask := by
    unfold Store.leaseOf
    rw [show s'.askPullLeases = s.askPullLeases from h_leases]
  cases c with
  | claimAskPullLease now other requester =>
    obtain ⟨lease, h_run⟩ := commit_ok.mp h
    rw [claimAskPullLease_run h_run, Call.claimed]
    by_cases h_other : other = ask
    · simp [h_other, h_other ▸ h_run, Except.toOption]
    · simp [h_other]
  | _ => exact h_same (Keeps.commit h)

-- ============================================================================
-- Acknowledgements
-- ============================================================================

section Acknowledgements

variable {now : Millis} {messageId : MessageId} {lease : Nat} {outcome : DeliveryOutcome}

theorem requireLiveAskPullLease_ok
    (h : requireLiveAskPullLease ask requester lease s = .ok ()) : s.leaseOf ask = some lease := by
  unfold requireLiveAskPullLease at h
  split at h
  · cases h
  · rename_i l h_find
    rw [Option.filter_eq_some_iff] at h_find
    split at h
    · rename_i h_id
      rw [Store.leaseOf, h_find.1, Option.map_some, h_id]
    · cases h

/-- The final reply resolves the ask that it answers, which was unresolved. -/
structure Ledger.ResolvesAsk (ask messageId : MessageId) (s s' : Store) : Prop where
  final : s.ledger.Final messageId ask
  unresolved : ∃ o ∈ s.obligations, o.askMessageId = ask ∧ o.state.Unresolved
  resolved : ∃ o' ∈ s'.obligations, o'.askMessageId = ask ∧ o'.state = .resolved ∧
    o'.resolvingMessageId = some messageId

theorem resolveAskPullFinalReply_run {u : Unit}
    (h : (resolveAskPullFinalReply now ask messageId).run s = .ok (u, s')) :
    s'.obligations = s.obligations ∨ ResolvesAsk ask messageId s s' := by
  simp only [resolveAskPullFinalReply, resolveFinalReply, run_bind_reads] at h
  split at h
  · cases h
    exact .inl rfl
  · rename_i a resolving h_final
    split at h
    · rename_i h_ask
      obtain ⟨n, s₁, h_resolve, h⟩ := run_bind_ok.mp h
      cases h
      subst h_ask
      obtain ⟨m, h_m, rfl, h_kind, h_disposition, h_to⟩ := finalReplyAmong_eq_some h_final
      obtain ⟨h_mem, h_id⟩ := Table.find_eq_some.mp (Option.mem_toList.mp h_m)
      unfold resolveObligation at h_resolve
      rcases Nat.eq_zero_or_pos n with rfl | h_pos
      · rw [run_updateRows_zero h_resolve]
        exact .inl rfl
      · obtain ⟨t, rfl, o, h_o, h_p, h_t⟩ := run_updateRows_pos h_resolve h_pos
        exact .inr ⟨⟨m, h_mem, h_id, h_kind, h_disposition, h_to⟩, ⟨o, h_o, h_p⟩,
          _, h_t, h_p.1, rfl, congrArg some h_id⟩
    · cases h
      exact .inl rfl

/-- An acknowledgement is made under the lease of its ask, and changes no obligation or
    resolves the ask by the final reply that it acknowledges. -/
theorem ackAskPullDelivery_run
    (h : (ackAskPullDelivery now ask requester messageId lease).run s = .ok (outcome, s')) :
    s.leaseOf ask = some lease ∧
      (s'.obligations = s.obligations ∨ ResolvesAsk ask messageId s s') := by
  simp only [ackAskPullDelivery, run_bind_query_ok, run_bind_reads, run_bind_orFail_ok] at h
  obtain ⟨_, -, _, h_live, d, -, h⟩ := h
  refine ⟨requireLiveAskPullLease_ok h_live, ?_⟩
  split at h
  · obtain ⟨_, s₁, h_resolve, h⟩ := run_bind_ok.mp h
    cases h
    exact resolveAskPullFinalReply_run h_resolve
  · simp only [run_bind_require_ok] at h
    obtain ⟨-, h⟩ := h
    obtain ⟨_, s₁, h_accept, h⟩ := run_bind_ok.mp h
    obtain ⟨_, s₂, h_resolve, h⟩ := run_bind_ok.mp h
    cases h
    simp only [acceptSinkDelivery, run_bind_ok, run_updateRows, Except.ok.injEq, Prod.mk.injEq,
      run_pure] at h_accept
    obtain ⟨_, _, ⟨-, rfl⟩, -, rfl⟩ := h_accept
    exact (resolveAskPullFinalReply_run h_resolve).imp_right fun h =>
      ⟨h.final, h.unresolved, h.resolved⟩

end Acknowledgements

-- ============================================================================
-- Runs of the client
-- ============================================================================

theorem PullClient.next_call {c : Call} (h : PullClient.next ask requester (.call c) p = some p') :
    c.Step p.store p'.store ∧ p' = { p with
      store := p'.store, lease := (c.claimed ask p.store).or p.lease } := by
  simp only [PullClient.next, Option.map_eq_some_iff] at h
  obtain ⟨s, h_s, rfl⟩ := h
  exact ⟨Call.step_of_mem h_s, rfl⟩

theorem PullClient.next_poll {lease : Option Nat}
    (h : PullClient.next ask requester (.poll lease) p = some p') : ∃ events cursor,
      pollAskPull ask requester p.cursor lease p.store = .ok (events, cursor) ∧
        p' = { p with cursor, received := p.received ++ events } := by
  simp only [PullClient.next, Option.map_eq_some_iff, Prod.exists] at h
  obtain ⟨events, cursor, h_poll, rfl⟩ := h
  refine ⟨events, cursor, ?_, rfl⟩
  cases h_result : pollAskPull ask requester p.cursor lease p.store with
  | error e => simp [h_result, Except.toOption] at h_poll
  | ok r =>
    simp only [h_result, Except.toOption, Option.some_inj] at h_poll
    rw [h_poll]

theorem PullRun.follows (h : PullRun ask requester {} p) : p.Follows ask := by
  refine h.invariant PullClient.follows_empty fun e q q' h_q _ h_next => ?_
  cases e with
  | call c =>
    obtain ⟨h_step, h_q'⟩ := PullClient.next_call h_next
    rw [h_q']
    exact h_q.call h_step
  | poll lease =>
    obtain ⟨events, cursor, h_poll, rfl⟩ := PullClient.next_poll h_next
    exact (h_q.poll h_poll).1

/-- The ask is held under the lease that its latest claim returned. -/
theorem PullRun.lease (h : PullRun ask requester {} p) : p.store.leaseOf ask = p.lease := by
  refine Run.invariant (I := fun q => q.store.leaseOf ask = q.lease) h rfl
    fun e q q' h_q _ h_next => ?_
  cases e with
  | call c =>
    obtain ⟨h_step, h_q'⟩ := PullClient.next_call h_next
    rw [c.leaseOf h_step, h_q, h_q']
  | poll lease =>
    obtain ⟨events, cursor, -, rfl⟩ := PullClient.next_poll h_next
    exact h_q

/-- The store of the client moves by calls. -/
theorem PullRun.storeRun (h : PullRun ask requester p p') :
    StoreRun (fun _ _ => True) p.store p'.store := by
  induction h with
  | refl => exact .refl
  | tail e _ _ h_next ih =>
    cases e with
    | call c => exact .tail c ih trivial (PullClient.next_call h_next).1
    | poll lease =>
      obtain ⟨events, cursor, -, rfl⟩ := PullClient.next_poll h_next
      exact ih

/-- A client that polls the log of an ask from the start, always with the cursor it was
    answered last, receives the reverse events of the ask exactly once and in message order: in
    every state it has received reverse events only, and after every poll all of them; nothing
    but the kind of the ask and its waiting agent stands in the way of a poll.  An
    acknowledgement of the ask is made under the lease that the latest claim returned; it
    changes no obligation unless it is of a final reply, and after one that does no other will. -/
theorem pull_log_exactly_once (h : PullRun ask requester {} p) :
    p.received.Pairwise (fun a b => a.id < b.id) ∧
    (∀ m ∈ p.received, m ∈ p.store.messages ∧ p.store.IsReverseEvent ask m) ∧
    (∀ lease p', PullClient.next ask requester (.poll lease) p = some p' →
      ∀ m, m ∈ p'.received ↔ m ∈ p'.store.messages ∧ p'.store.IsReverseEvent ask m) ∧
    (p.store.PullAsk ask requester →
      ∃ p', PullClient.next ask requester (.poll none) p = some p') ∧
    ∀ now agent messageId lease p', PullClient.next ask requester
        (.call (.ackAskPullDelivery now ask agent messageId lease)) p = some p' →
      p.lease = some lease ∧
      (p'.store.obligations = p.store.obligations ∨
        p.store.ledger.Final messageId ask ∧
        ∀ q, PullRun ask requester p' q → ∀ now agent messageId lease q',
          PullClient.next ask requester
            (.call (.ackAskPullDelivery now ask agent messageId lease)) q = some q' →
          q'.store.obligations = q.store.obligations) := by
  have h_follows := PullRun.follows h
  refine ⟨h_follows.ascending, h_follows.events, ?_, ?_, ?_⟩
  · intro lease p' h_next
    obtain ⟨events, cursor, h_poll, rfl⟩ := PullClient.next_poll h_next
    exact (h_follows.poll h_poll).2
  · intro h_ask
    have h_cursor : 0 ≤ p.cursor := by
      rcases h_follows.cursor with ⟨h_zero, -⟩ | ⟨m, -, h_last, -⟩
      · exact h_zero ▸ Int.le_refl 0
      · rw [h_last]
        exact Int.natCast_nonneg _
    have h_poll : pollAskPull ask requester p.cursor none p.store = .ok _ :=
      pollAskPull_ok_iff.mpr ⟨h_cursor, h_ask, fun _ h_none => absurd h_none (by simp), rfl⟩
    simp only [PullClient.next, h_poll, Except.toOption, Option.map_some]
    exact ⟨_, rfl⟩
  · intro now agent messageId lease p' h_next
    obtain ⟨h_step, -⟩ := PullClient.next_call h_next
    obtain ⟨outcome, h_run⟩ := commit_ok.mp h_step
    obtain ⟨h_lease, h_change⟩ := ackAskPullDelivery_run h_run
    refine ⟨(PullRun.lease h).symm.trans h_lease, h_change.imp_right fun h_resolves => ?_⟩
    refine ⟨h_resolves.final, fun q h_q now agent messageId lease q' h_next' => ?_⟩
    obtain ⟨h_step', -⟩ := PullClient.next_call h_next'
    obtain ⟨outcome', h_run'⟩ := commit_ok.mp h_step'
    refine (ackAskPullDelivery_run h_run').2.resolve_right fun h_again => ?_
    -- The ask that was resolved once is not unresolved later.
    obtain ⟨o, h_o, h_ask, h_state, -⟩ := h_resolves.resolved
    obtain ⟨o', h_o', h_ask', h_open⟩ := h_again.unresolved
    have h_absorbs := absorbs_of_run (PullRun.storeRun h_q)
    obtain ⟨o₁, h_o₁, h_ask₁, h_state₁⟩ :=
      h_absorbs o h_o (by simp [h_state, ObligationState.Unresolved])
    obtain rfl := Table.eq_of_key h_o₁ h_o' (h_ask₁.trans (h_ask.trans h_ask'.symm))
    rw [h_state₁, h_state] at h_open
    simp [ObligationState.Unresolved] at h_open

/-- A pull ask with a progress reply, which is polled and acknowledged, and a cancellation. -/
def polledRun : List PullEvent :=
  [.call (adopting 1 "w1:p1" "t1" "asker" "k1"), .call (adopting 1 "w1:p2" "t2" "worker" "k2"),
    .call (.createAsk 2 1 2 2 "Which branch?" "k3" none none false .pull),
    .call (.createReply 3 1 2 "Looking." .progress "k4" none), .poll none,
    .call (.claimAskPullLease 4 1 1), .call (.ackAskPullDelivery 5 1 1 2 1),
    .call (.cancelWithResponse 6 1 1 "found it" "Cancelled." "Stop." none none), .poll (some 1)]

theorem pull_log_exactly_once_polledRun : ∃ p, PullRun 1 1 {} p ∧
    p.received.map (·.id) = [2, 3] ∧ p.received.Pairwise (fun a b => a.id < b.id) ∧
    ∃ p', PullClient.next 1 1 (.poll none) p = some p' := by
  have h : Script (PullClient.next 1 1) (fun _ _ => True)
      (fun p => p.received.map (·.id) = [2, 3] ∧ p.store.PullAsk 1 1) polledRun {} := by
    decide +kernel
  obtain ⟨p, h_run, h_received, h_ask⟩ := h.run
  obtain ⟨h_ascending, -, -, h_poll, -⟩ := pull_log_exactly_once h_run
  exact ⟨p, h_run, h_received, h_ascending, h_poll h_ask⟩

end Kelpie
