/-
  Kelpie.Ledger.PullLog

  The reverse events of an ask over time: a call adds only later ones, none is
  taken back, and each one of a pull ask is on record for its waiting agent.
-/

import Kelpie.Ledger.StateMachine
import Kelpie.Store.Frames

namespace Kelpie

open Lib Lib.Tx Ledger
open ObligationRow (Settles Annotates Observes Opens)
open MessageRow (Plain)

variable {s s' : Store}

-- ============================================================================
-- Reverse events
-- ============================================================================

theorem isReverseEvent_iff {o : ObligationRow} (h_o : o ∈ s.obligations) {m : MessageRow} :
    s.IsReverseEvent o.askMessageId m ↔ m.replyToMessageId = some o.askMessageId ∨
      o.cancellationResponseMessageId = some m.id := by
  have h_find : s.obligations.find o.askMessageId = some o := Table.find_eq_some.mpr ⟨h_o, rfl⟩
  simp [Store.IsReverseEvent, h_find]

/-- What a log of reverse events may become: no event is lost, and a new one is later than
    every message before it. -/
structure LogGrows (s s' : Store) : Prop where
  messages : ∀ m ∈ s.messages, m ∈ s'.messages
  next : ∀ m ∈ s'.messages, m ∈ s.messages ∨ m.Next s.messages
  kept : ∀ ask, ∀ m ∈ s.messages, s.IsReverseEvent ask m → s'.IsReverseEvent ask m
  later : ∀ ask, ∀ m ∈ s'.messages, s'.IsReverseEvent ask m →
    (m ∈ s.messages ∧ s.IsReverseEvent ask m) ∨ m.Next s.messages

theorem MessageRow.Next.mono {t t' : Table MessageRow.id} {m : MessageRow} (h : m.Next t')
    (h_le : ∀ m₀ ∈ t, m₀ ∈ t') : m.Next t :=
  ⟨h.pos, fun m₀ h_m₀ => h.later m₀ (h_le m₀ h_m₀)⟩

instance LogGrows.stepwise : Stepwise LogGrows where
  refl _ := ⟨fun _ h => h, fun _ h => .inl h, fun _ _ _ h => h, fun _ _ h_m h => .inl ⟨h_m, h⟩⟩
  trans h h' :=
    { messages := fun m h_m => h'.messages m (h.messages m h_m)
      next := fun m h_m => by
        rcases h'.next m h_m with h_old | h_new
        · exact h.next m h_old
        · exact .inr (h_new.mono h.messages)
      kept := fun ask m h_m h_event =>
        h'.kept ask m (h.messages m h_m) (h.kept ask m h_m h_event)
      later := fun ask m h_m h_event => by
        rcases h'.later ask m h_m h_event with ⟨h_old, h_was⟩ | h_new
        · exact h.later ask m h_old h_was
        · exact .inr (h_new.mono h.messages) }

/-- The message is on record in the pull log of the waiting agent. -/
def Store.PullRecord (s : Store) (o : ObligationRow) (m : MessageRow) : Prop :=
  ∃ d ∈ s.deliveries, d.messageId = m.id ∧ d.deliveryTransport = .askPull ∧
    d.recipientAgentId = some o.waitingAgentId

/-- Every reply has the obligation that it answers, a notice to the waiting side has its
    message and a settled obligation, and every reverse event of a pull ask is on record. -/
structure Logged (s : Store) : Prop where
  asked : ∀ m ∈ s.messages, ∀ ask, m.replyToMessageId = some ask →
    ∃ o ∈ s.obligations, o.askMessageId = ask
  noticed : ∀ o ∈ s.obligations, ∀ id, o.cancellationResponseMessageId = some id →
    (∃ m ∈ s.messages, m.id = id) ∧ ¬ o.state.Unresolved
  recorded : ∀ o ∈ s.obligations, o.replyDelivery = .pull → ∀ m ∈ s.messages,
    s.IsReverseEvent o.askMessageId m → s.PullRecord o m

theorem logged_empty : Logged Store.empty where
  asked _ h := absurd h Table.notMem_empty
  noticed _ h := absurd h Table.notMem_empty
  recorded _ h := absurd h Table.notMem_empty

-- ============================================================================
-- One step of the log
-- ============================================================================

/-- The same ask, whose waiting side gets its notice at most once, along with the end. -/
structure ObligationRow.Notices (s s' : Store) (o o' : ObligationRow) : Prop
    extends ObligationRow.SameWait o o' where
  notice : o'.cancellationResponseMessageId = o.cancellationResponseMessageId ∨
    (o.state.Unresolved ∧ ¬ o'.state.Unresolved ∧ ∃ m ∈ s'.messages, m.Next s.messages ∧
      o'.cancellationResponseMessageId = some m.id)

/-- What a transaction does to the messages, the obligations and the records of a log. -/
structure LogStep (s s' : Store) : Prop where
  messages : ∀ m ∈ s.messages, m ∈ s'.messages
  next : ∀ m ∈ s'.messages, m ∈ s.messages ∨ m.Next s.messages
  waits : ∀ o ∈ s.obligations, ∃ o' ∈ s'.obligations, o.Notices s s' o'
  origin : ∀ o' ∈ s'.obligations, (∃ o ∈ s.obligations, o.Notices s s' o') ∨
    (o'.cancellationResponseMessageId = none ∧
      ∀ o ∈ s.obligations, o.askMessageId ≠ o'.askMessageId)
  replies : ∀ m ∈ s'.messages, m.Next s.messages → ∀ ask, m.replyToMessageId = some ask →
    ∃ o ∈ s.obligations, o.askMessageId = ask
  recorded : ∀ o' ∈ s'.obligations, o'.replyDelivery = .pull → ∀ m ∈ s'.messages,
    m.Next s.messages → s'.IsReverseEvent o'.askMessageId m → s'.PullRecord o' m
  mails : SameMails s.ledger s'.ledger
  settled : Absorbs s.ledger s'.ledger

/-- A message that was there before is no later one. -/
theorem MessageRow.Next.fresh {t : Table MessageRow.id} {m : MessageRow} (h : m.Next t)
    {m₀ : MessageRow} (h_m₀ : m₀ ∈ t) : m₀.id ≠ m.id := Nat.ne_of_lt (h.later m₀ h_m₀)

theorem LogStep.logGrows (h : Logged s) (h_step : LogStep s s') : LogGrows s s' := by
  refine ⟨h_step.messages, h_step.next, ?_, ?_⟩
  · rintro ask m h_m (h_reply | ⟨o, h_find, h_notice⟩)
    · exact .inl h_reply
    · obtain ⟨h_o, rfl⟩ := Table.find_eq_some.mp h_find
      obtain ⟨o', h_o', h_same⟩ := h_step.waits o h_o
      rw [← h_same.ask]
      refine (isReverseEvent_iff h_o').mpr (.inr ?_)
      -- The ask is settled already, so that its notice stays.
      rcases h_same.notice with h_kept | ⟨h_open, -⟩
      · exact h_kept.trans h_notice
      · exact absurd h_open (h.noticed o h_o _ h_notice).2
  · rintro ask m h_m h_event
    refine (h_step.next m h_m).imp_left fun h_old => ⟨h_old, ?_⟩
    rcases h_event with h_reply | ⟨o', h_find, h_notice⟩
    · exact .inl h_reply
    · obtain ⟨h_o', rfl⟩ := Table.find_eq_some.mp h_find
      rcases h_step.origin o' h_o' with ⟨o, h_o, h_same⟩ | ⟨h_none, -⟩
      · rw [h_same.ask]
        refine (isReverseEvent_iff h_o).mpr (.inr ?_)
        rcases h_same.notice with h_kept | ⟨-, -, m', h_m', h_next, h_new⟩
        · exact h_kept.symm.trans h_notice
        · rw [h_notice, Option.some_inj] at h_new
          exact absurd h_new (h_next.fresh h_old)
      · rw [h_none] at h_notice
        cases h_notice

theorem LogStep.logged (h : Logged s) (h_step : LogStep s s') : Logged s' where
  asked m h_m ask h_reply := by
    obtain ⟨o, h_o, h_ask⟩ : ∃ o ∈ s.obligations, o.askMessageId = ask := by
      rcases h_step.next m h_m with h_old | h_next
      · exact h.asked m h_old ask h_reply
      · exact h_step.replies m h_m h_next ask h_reply
    obtain ⟨o', h_o', h_same⟩ := h_step.waits o h_o
    exact ⟨o', h_o', h_same.ask.trans h_ask⟩
  noticed o' h_o' id h_notice := by
    rcases h_step.origin o' h_o' with ⟨o, h_o, h_same⟩ | ⟨h_none, -⟩
    · rcases h_same.notice with h_kept | ⟨-, h_closed, m, h_m, -, h_new⟩
      · obtain ⟨⟨m, h_m, h_id⟩, h_settled⟩ := h.noticed o h_o id (h_kept ▸ h_notice)
        refine ⟨⟨m, h_step.messages m h_m, h_id⟩, ?_⟩
        obtain ⟨o₁, h_o₁, h_ask, h_state⟩ := h_step.settled o h_o h_settled
        obtain rfl := Table.eq_of_key h_o₁ h_o' (h_ask.trans h_same.ask.symm)
        rwa [h_state]
      · rw [h_notice, Option.some_inj] at h_new
        exact ⟨⟨m, h_m, h_new.symm⟩, h_closed⟩
    · rw [h_none] at h_notice
      cases h_notice
  recorded o' h_o' h_pull m h_m h_event := by
    rcases (h_step.logGrows h).later _ m h_m h_event with ⟨h_old, h_was⟩ | h_next
    · obtain ⟨o, h_o, h_same⟩ : ∃ o ∈ s.obligations, o.Notices s s' o' := by
        refine (h_step.origin o' h_o').resolve_right ?_
        -- A new ask has no event among the old messages.
        rintro ⟨-, h_fresh⟩
        rcases h_was with h_reply | ⟨o, h_find, -⟩
        · obtain ⟨o, h_o, h_ask⟩ := h.asked m h_old _ h_reply
          exact h_fresh o h_o h_ask
        · obtain ⟨h_o, h_ask⟩ := Table.find_eq_some.mp h_find
          exact h_fresh o h_o h_ask
      rw [h_same.ask] at h_was
      obtain ⟨d, h_d, h_message, h_transport, h_agent⟩ :=
        h.recorded o h_o (h_same.replyDelivery ▸ h_pull) m h_old h_was
      obtain ⟨d', h_d', h_mail⟩ := h_step.mails d h_d
      refine ⟨d', h_d', h_mail.message.trans h_message, h_mail.transport.trans h_transport, ?_⟩
      rw [h_mail.agent, h_agent, h_same.waiting]
    · exact h_step.recorded o' h_o' h_pull m h_m h_next h_event

/-- A step of the log keeps it a log. -/
theorem LogStep.under (h : LogStep s s') : Under Logged LogGrows s s' :=
  fun h_s => ⟨h.logGrows h_s, h.logged h_s⟩

-- ============================================================================
-- Calls that log nothing
-- ============================================================================

/-- The same ask with the same notice to its waiting side. -/
structure ObligationRow.SameNotice (o o' : ObligationRow) : Prop
    extends ObligationRow.SameWait o o' where
  notice : o'.cancellationResponseMessageId = o.cancellationResponseMessageId

/-- No reverse event is new in `s'`. -/
structure Unlogged (s s' : Store) : Prop where
  messages : ∀ m ∈ s.messages, m ∈ s'.messages
  plain : ∀ m ∈ s'.messages, m ∈ s.messages ∨ m.Plain s.messages
  waits : ∀ o ∈ s.obligations, ∃ o' ∈ s'.obligations, o.SameNotice o'
  origin : ∀ o' ∈ s'.obligations, (∃ o ∈ s.obligations, o.SameNotice o') ∨
    (o'.cancellationResponseMessageId = none ∧
      ∀ o ∈ s.obligations, o.askMessageId ≠ o'.askMessageId)

theorem ObligationRow.SameNotice.rfl {o : ObligationRow} : o.SameNotice o := ⟨.rfl, .refl _⟩

theorem ObligationRow.SameNotice.trans {o o' o'' : ObligationRow} (h : o.SameNotice o')
    (h' : o'.SameNotice o'') : o.SameNotice o'' where
  ask := h'.ask.trans h.ask
  waiting := h'.waiting.trans h.waiting
  replyDelivery := h'.replyDelivery.trans h.replyDelivery
  notice := h'.notice.trans h.notice

theorem Unlogged.of_same (h_messages : s'.messages = s.messages)
    (h_obligations : s'.obligations = s.obligations) : Unlogged s s' where
  messages _ h_m := h_messages ▸ h_m
  plain _ h_m := .inl (h_messages ▸ h_m)
  waits o h_o := ⟨o, h_obligations ▸ h_o, .rfl⟩
  origin o h_o := .inl ⟨o, h_obligations ▸ h_o, .rfl⟩

instance Unlogged.stepwise : Stepwise Unlogged where
  refl _ := .of_same rfl rfl
  trans h h' :=
    { messages := fun m h_m => h'.messages m (h.messages m h_m)
      plain := fun m h_m => by
        rcases h'.plain m h_m with h_old | h_new
        · exact h.plain m h_old
        · exact .inr ⟨h_new.toNext.mono h.messages, h_new.reply⟩
      waits := fun o h_o => by
        obtain ⟨o₁, h_o₁, h_same⟩ := h.waits o h_o
        obtain ⟨o₂, h_o₂, h_same'⟩ := h'.waits o₁ h_o₁
        exact ⟨o₂, h_o₂, h_same.trans h_same'⟩
      origin := fun o₂ h_o₂ => by
        rcases h'.origin o₂ h_o₂ with ⟨o₁, h_o₁, h_same'⟩ | ⟨h_none, h_fresh⟩
        · refine (h.origin o₁ h_o₁).imp ?_ ?_
          · rintro ⟨o, h_o, h_same⟩
            exact ⟨o, h_o, h_same.trans h_same'⟩
          · rintro ⟨h_none, h_fresh⟩
            refine ⟨h_same'.notice.trans h_none, fun o h_o h_ask => h_fresh o h_o ?_⟩
            exact h_ask.trans h_same'.ask
        · refine .inr ⟨h_none, fun o h_o h_ask => ?_⟩
          obtain ⟨o₁, h_o₁, h_same⟩ := h.waits o h_o
          exact h_fresh o₁ h_o₁ (h_same.ask.trans h_ask) }

instance : Ignores Unlogged Tab.logicalAgents := ⟨fun _ _ => .of_same rfl rfl⟩
instance : Ignores Unlogged Tab.incarnations := ⟨fun _ _ => .of_same rfl rfl⟩
instance : Ignores Unlogged Tab.operations := ⟨fun _ _ => .of_same rfl rfl⟩
instance : Ignores Unlogged Tab.operationAttempts := ⟨fun _ _ => .of_same rfl rfl⟩
instance : Ignores Unlogged Tab.operatorNotices := ⟨fun _ _ => .of_same rfl rfl⟩
instance : Ignores Unlogged Tab.deliveries := ⟨fun _ _ => .of_same rfl rfl⟩
instance : Ignores Unlogged Tab.obligationReminders := ⟨fun _ _ => .of_same rfl rfl⟩
instance : Ignores Unlogged Tab.reminderAttempts := ⟨fun _ _ => .of_same rfl rfl⟩
instance : Ignores Unlogged Tab.renewAttempts := ⟨fun _ _ => .of_same rfl rfl⟩
instance : Ignores Unlogged Tab.schedules := ⟨fun _ _ => .of_same rfl rfl⟩
instance : Ignores Unlogged Tab.renews := ⟨fun _ _ => .of_same rfl rfl⟩
instance : Ignores Unlogged Tab.scheduleFirings := ⟨fun _ _ => .of_same rfl rfl⟩
instance : Ignores Unlogged Tab.socketWaiterKeys := ⟨fun _ _ => .of_same rfl rfl⟩
instance : Ignores Unlogged Tab.socketInboxKeys := ⟨fun _ _ => .of_same rfl rfl⟩
instance : Ignores Unlogged Tab.askPullLeases := ⟨fun _ _ => .of_same rfl rfl⟩
instance : Ignores Unlogged Tab.askPullKeys := ⟨fun _ _ => .of_same rfl rfl⟩
instance : IgnoresCounters Unlogged :=
  ⟨fun _ _ => .of_same rfl rfl, fun _ _ => .of_same rfl rfl, fun _ _ => .of_same rfl rfl⟩

instance : Admits Unlogged Tab.messages Plain where
  put s t m h_m h :=
    { messages := fun m₀ h_m₀ => (h.mem m₀).mpr (.inl h_m₀)
      plain := fun m' h_m' => by
        refine ((h.mem m').mp h_m').imp_right fun h_new => ?_
        obtain rfl := Option.some_inj.mp h_new
        exact h_m
      waits := fun o h_o => ⟨o, h_o, .rfl⟩
      origin := fun o h_o => .inl ⟨o, h_o, .rfl⟩ }

/-- An edit that keeps the notice of every ask. -/
theorem Unlogged.tolerates {e : ObligationRow → ObligationRow → Prop}
    (h_e : ∀ o o', e o o' → o.SameNotice o') : Tolerates Unlogged Tab.obligations e where
  put s t h :=
    { messages := fun _ h_m => h_m
      plain := fun _ h_m => .inl h_m
      waits := fun o h_o => by
        obtain ⟨o', h_o', h_edit⟩ := h.image o h_o
        exact ⟨o', h_o', h_e o o' h_edit⟩
      origin := fun o' h_o' => by
        obtain ⟨o, h_o, h_edit⟩ := h.origin o' h_o'
        exact .inl ⟨o, h_o, h_e o o' h_edit⟩ }

instance : Tolerates Unlogged Tab.obligations Settles :=
  Unlogged.tolerates fun _ _ h => ⟨h.toSameWait, h.notice⟩

instance : Tolerates Unlogged Tab.obligations Observes :=
  Unlogged.tolerates fun _ _ h => ⟨h.toSameWait, h.notice⟩

instance : Admits Unlogged Tab.obligations Opens where
  put s t r h_r h :=
    { messages := fun _ h_m => h_m
      plain := fun _ h_m => .inl h_m
      waits := fun o h_o => ⟨o, (h.mem o).mpr (.inl h_o), .rfl⟩
      origin := fun o' h_o' => by
        refine ((h.mem o').mp h_o').imp (fun h_o => ⟨o', h_o, .rfl⟩) fun h_new => ?_
        obtain rfl := Option.some_inj.mp h_new
        exact ⟨h_r.notice, h.fresh r rfl⟩ }

theorem ObligationRow.SameNotice.notices {o o' : ObligationRow} (h : o.SameNotice o') :
    o.Notices s s' o' := ⟨h.toSameWait, .inl h.notice⟩

/-- A step that logs nothing is one of the log. -/
theorem Unlogged.logStep (h : Unlogged s s') (h_s : Logged s)
    (h_mails : SameMails s.ledger s'.ledger) (h_settled : Absorbs s.ledger s'.ledger) :
    LogStep s s' where
  messages := h.messages
  next m h_m := (h.plain m h_m).imp_right (·.toNext)
  waits o h_o := by
    obtain ⟨o', h_o', h_same⟩ := h.waits o h_o
    exact ⟨o', h_o', h_same.notices⟩
  origin o' h_o' := by
    refine (h.origin o' h_o').imp_left ?_
    rintro ⟨o, h_o, h_same⟩
    exact ⟨o, h_o, h_same.notices⟩
  replies m h_m h_next ask h_reply := by
    rcases h.plain m h_m with h_old | h_plain
    · exact absurd rfl (h_next.fresh h_old)
    · rw [h_plain.reply] at h_reply
      cases h_reply
  recorded o' h_o' _ m h_m h_next h_event := by
    exfalso
    rcases h.plain m h_m with h_old | h_plain
    · exact h_next.fresh h_old rfl
    · rcases (isReverseEvent_iff h_o').mp h_event with h_reply | h_notice
      · rw [h_plain.reply] at h_reply
        cases h_reply
      · rcases h.origin o' h_o' with ⟨o, h_o, h_same⟩ | ⟨h_none, -⟩
        · -- The notice was there before, and so was its message.
          obtain ⟨⟨m₀, h_m₀, h_id⟩, -⟩ := h_s.noticed o h_o m.id (h_same.notice ▸ h_notice)
          exact h_next.fresh h_m₀ h_id
        · rw [h_none] at h_notice
          cases h_notice
  mails := h_mails
  settled := h_settled

-- ============================================================================
-- Notices
-- ============================================================================

section Notices

variable {now : Millis} {recipient owing : LogicalAgentId} {ask : MessageId}
  {reason body owingBody : String} {due owingDue : Option Millis} {ambiguous ambiguous' : String}

/-- The notice to the waiting side is a later message, in the pull log of a pull ask. -/
theorem waitingSide_run {id : MessageId} {delivery : Option (OperationId × IncarnationId)}
    (h : (recordCancellationSide now recipient ask reason body .waiting due ambiguous).run s =
      .ok ((id, delivery), s')) :
    ∃ m ∈ s'.messages, m.id = id ∧ m.Next s.messages ∧ ∀ o ∈ s.obligations,
      o.askMessageId = ask → o.waitingAgentId = recipient → o.replyDelivery = .pull →
        s'.PullRecord o m := by
  unfold recordCancellationSide at h
  obtain ⟨_, s₁, h_m, h⟩ := run_bind_ok.mp h
  obtain ⟨_, s₂, h_deliver, h⟩ := run_bind_ok.mp h
  cases h
  have h_unlogged : Unlogged s₁ s' := Keeps.keeps h_deliver
  obtain ⟨m, ms, rfl, h_ms, rfl, -, -, -, -, -, h_id⟩ := insertMessage_run h_m
  have h_mem : m ∈ ms := (h_ms.mem m).mpr (.inr rfl)
  refine ⟨m, h_unlogged.messages m h_mem, rfl, MessageRow.next_of_nextId h_id, ?_⟩
  rintro o h_o rfl rfl h_pull
  simp only [deliverCancellation, run_bind_query_ok] at h_deliver
  obtain ⟨identity, -, replyDelivery, h_reply, h⟩ := h_deliver
  have h_find : s.obligations.find o.askMessageId = some o := Table.find_eq_some.mpr ⟨h_o, rfl⟩
  simp only [if_true, obligationReplyDelivery, h_find, Except.ok.injEq] at h_reply
  rw [← h_reply, if_pos h_pull] at h
  obtain ⟨_, s₃, h_q, h⟩ := run_bind_ok.mp h
  cases h
  obtain ⟨d, ds, rfl, h_ds, h_message, -, -, h_transport, h_agent⟩ := queueSinkDelivery_run h_q
  exact ⟨d, (h_ds.mem d).mpr (.inr rfl), h_message, h_transport, h_agent⟩

/-- A settlement that changed a row found the obligation unresolved and left it settled. -/
theorem settleObligations_closes {p : ObligationRow → Prop} [DecidablePred p]
    {state : ObligationState} {requester : Option LogicalAgentId} {n : Nat}
    (h : (settleObligations now p state requester reason).run s = .ok (n, s')) (h_n : n = 1)
    (h_state : state.Discarded) : ∃ o ∈ s.obligations, p o ∧ o.state.Unresolved ∧
      ∃ o' ∈ s'.obligations, o'.askMessageId = o.askMessageId ∧ ¬ o'.state.Unresolved := by
  simp only [settleObligations, run_bind_reads] at h
  obtain ⟨_, s₁, h_update, h⟩ := run_bind_ok.mp h
  simp only [run_bind_require_ok] at h
  obtain ⟨-, h⟩ := h
  cases h
  obtain ⟨t, rfl, o, h_o, ⟨h_p, h_open⟩, h_t⟩ :=
    run_updateRows_pos h_update (h_n ▸ Nat.one_pos)
  refine ⟨o, h_o, h_p, h_open, _, h_t, rfl, ?_⟩
  rcases h_state with rfl | rfl <;> simp [ObligationState.Unresolved]

/-- The same ask, with the notice `id` if it is the one named. -/
structure ObligationRow.Links (name id : MessageId) (o o' : ObligationRow) : Prop
    extends ObligationRow.SameWait o o' where
  named : o.askMessageId = name → o'.cancellationResponseMessageId = some id
  other : o.askMessageId ≠ name →
    o'.cancellationResponseMessageId = o.cancellationResponseMessageId

theorem ObligationRow.SameNotice.links {id : MessageId} {o₁ o₂ o₃ o₄ : ObligationRow}
    (h : o₁.SameNotice o₂) (h_links : o₂.Links ask id o₃) (h' : o₃.SameNotice o₄) :
    o₁.Links ask id o₄ where
  ask := h'.ask.trans (h_links.ask.trans h.ask)
  waiting := h'.waiting.trans (h_links.waiting.trans h.waiting)
  replyDelivery := h'.replyDelivery.trans (h_links.replyDelivery.trans h.replyDelivery)
  named h_ask := h'.notice.trans (h_links.named (h.ask.trans h_ask))
  other h_ask := h'.notice.trans ((h_links.other fun h_eq => h_ask (h.ask.symm.trans h_eq)).trans
    h.notice)

/-- The obligations around the link of one notice. -/
theorem links_obligations {id : MessageId} {s₂ s₃ : Store} (h : Unlogged s s₂)
    (h_links : s₂.obligations.Edits (ObligationRow.Links ask id) s₃.obligations)
    (h' : Unlogged s₃ s') (h_ask : ∃ o ∈ s.obligations, o.askMessageId = ask) :
    (∀ o ∈ s.obligations, ∃ o' ∈ s'.obligations, o.Links ask id o') ∧
    ∀ o' ∈ s'.obligations, (∃ o ∈ s.obligations, o.Links ask id o') ∨
      (o'.cancellationResponseMessageId = none ∧
        ∀ o ∈ s.obligations, o.askMessageId ≠ o'.askMessageId) := by
  refine ⟨fun o h_o => ?_, fun o' h_o' => ?_⟩
  · obtain ⟨o₂, h_o₂, h_same⟩ := h.waits o h_o
    obtain ⟨o₃, h_o₃, h_link⟩ := h_links.image o₂ h_o₂
    obtain ⟨o', h_o', h_same'⟩ := h'.waits o₃ h_o₃
    exact ⟨o', h_o', h_same.links h_link h_same'⟩
  · rcases h'.origin o' h_o' with ⟨o₃, h_o₃, h_same'⟩ | ⟨h_none, h_fresh⟩
    · obtain ⟨o₂, h_o₂, h_link⟩ := h_links.origin o₃ h_o₃
      refine (h.origin o₂ h_o₂).imp ?_ ?_
      · rintro ⟨o, h_o, h_same⟩
        exact ⟨o, h_o, h_same.links h_link h_same'⟩
      · -- An ask that is new is not the one that is named.
        rintro ⟨h_none, h_fresh⟩
        have h_other : o₂.askMessageId ≠ ask := by
          obtain ⟨o, h_o, h_named⟩ := h_ask
          exact fun h_eq => h_fresh o h_o (h_named.trans h_eq.symm)
        refine ⟨h_same'.notice.trans ((h_link.other h_other).trans h_none), fun o h_o h_eq => ?_⟩
        exact h_fresh o h_o (h_eq.trans (h_same'.ask.trans h_link.ask))
    · refine .inr ⟨h_none, fun o h_o h_eq => ?_⟩
      obtain ⟨o₂, h_o₂, h_same⟩ := h.waits o h_o
      obtain ⟨o₃, h_o₃, h_link⟩ := h_links.image o₂ h_o₂
      exact h_fresh o₃ h_o₃ ((h_link.ask.trans h_same.ask).trans h_eq)

/-- Both sides' notices of one ask, their links and its settlement. -/
theorem notices_logStep {p : ObligationRow → Prop} [DecidablePred p] {state : ObligationState}
    {requester : Option LogicalAgentId} {id owingId : MessageId} {n k : Nat}
    {delivery owingDelivery : Option (OperationId × IncarnationId)} {s₁ s₂ s₃ : Store}
    {h_key : ∀ o : ObligationRow, { o with
      cancellationResponseMessageId := some id,
      cancellationOwingMessageId := some owingId }.askMessageId = o.askMessageId}
    (h_waiting : (recordCancellationSide now recipient ask reason body .waiting due
      ambiguous).run s = .ok ((id, delivery), s₁))
    (h_owing : (recordCancellationSide now owing ask reason owingBody .owing owingDue
      ambiguous').run s₁ = .ok ((owingId, owingDelivery), s₂))
    (h_link : (updateRows Tab.obligations (fun o => o.askMessageId = ask)
      (fun o => { o with
        cancellationResponseMessageId := some id, cancellationOwingMessageId := some owingId })
      h_key : StoreTx Nat).run s₂ = .ok (k, s₃))
    (h_settle : (settleObligations now p state requester reason).run s₃ = .ok (n, s'))
    (h_n : n = 1) (h_state : state.Discarded)
    (h_p : ∀ o ∈ s₃.obligations, p o → o.askMessageId = ask ∧ o.waitingAgentId = recipient)
    (h_ask : ∃ o ∈ s.obligations, o.askMessageId = ask) (h_s : Logged s) : LogStep s s' := by
  have h_kept : Keeps (Accounted False) (settleObligations now p state requester reason) :=
    keeps_settleObligations h_state
  have h_sides : Accounted False s s₂ :=
    Stepwise.trans (Keeps.keeps h_waiting) (Keeps.keeps h_owing)
  have h_linked : Accounted False s₂ s₃ := keeps_annotateObligations.keeps h_link
  have h_closing : Accounted False s₃ s' := h_kept.keeps h_settle
  have h_rest : Accounted False s₁ s' :=
    Stepwise.trans (Stepwise.trans (Keeps.keeps h_owing) h_linked) h_closing
  have h_first : Unlogged s s₁ := Keeps.keeps h_waiting
  have h_second : Unlogged s₁ s₂ := Keeps.keeps h_owing
  have h_before : Unlogged s s₂ := Stepwise.trans h_first h_second
  have h_after : Unlogged s₃ s' := Keeps.keeps h_settle
  obtain ⟨m, h_m, rfl, h_next, h_record⟩ := waitingSide_run h_waiting
  obtain ⟨t, rfl, h_t⟩ := run_updateRows_edits (ObligationRow.Links ask m.id) h_link
    (fun o _ h_ask => ⟨⟨rfl, rfl, rfl⟩, fun _ => rfl, fun h_not => absurd h_ask h_not⟩)
    fun o _ h_not => ⟨.rfl, fun h_ask => absurd h_ask h_not, fun _ => rfl⟩
  obtain ⟨h_image, h_origin⟩ := links_obligations h_before h_t h_after h_ask
  -- The ask was unresolved all along, and is settled in the end.
  obtain ⟨o₃, h_o₃, h_p₃, h_open₃, o₄, h_o₄, h_key₄, h_closed⟩ :=
    settleObligations_closes h_settle h_n h_state
  obtain ⟨h_ask₃, h_waiting₃⟩ := h_p o₃ h_o₃ h_p₃
  have h_open (o : ObligationRow) (h_o : o ∈ s.obligations) (h_named : o.askMessageId = ask) :
      o.state.Unresolved := by
    by_contra h_settled
    have h_absorbs : Absorbs s.ledger _ := Path.absorbs (h_sides.trans h_linked)
    obtain ⟨o₁, h_o₁, h_key₁, h_state₁⟩ := h_absorbs o h_o h_settled
    obtain rfl := Table.eq_of_key h_o₁ h_o₃ ((h_key₁.trans h_named).trans h_ask₃.symm)
    exact h_settled (h_state₁ ▸ h_open₃)
  have h_settled (o : ObligationRow) (h_o : o ∈ s'.obligations) (h_named : o.askMessageId = ask) :
      ¬ o.state.Unresolved := by
    obtain rfl := Table.eq_of_key h_o h_o₄ (h_named.trans (h_key₄.trans h_ask₃).symm)
    exact h_closed
  have h_m' : m ∈ s'.messages := h_after.messages m (h_second.messages m h_m)
  have h_notices (o o' : ObligationRow) (h_o : o ∈ s.obligations) (h_o' : o' ∈ s'.obligations)
      (h_link : o.Links ask m.id o') : o.Notices s s' o' := by
    refine ⟨h_link.toSameWait, ?_⟩
    by_cases h_named : o.askMessageId = ask
    · exact .inr ⟨h_open o h_o h_named, h_settled o' h_o' (h_link.ask.trans h_named), m, h_m',
        h_next, h_link.named h_named⟩
    · exact .inl (h_link.other h_named)
  have h_plain (m' : MessageRow) (h_mem : m' ∈ s'.messages) :
      m' ∈ s.messages ∨ m'.Plain s.messages := by
    rcases h_after.plain m' h_mem with h_old | h_new
    · exact h_before.plain m' h_old
    · exact .inr ⟨h_new.toNext.mono h_before.messages, h_new.reply⟩
  have h_recipient (o : ObligationRow) (h_o : o ∈ s.obligations) (h_named : o.askMessageId = ask) :
      o.waitingAgentId = recipient := by
    obtain ⟨o₂, h_o₂, h_same⟩ := h_before.waits o h_o
    obtain ⟨o₁, h_o₁, h_same'⟩ := h_t.image o₂ h_o₂
    have h_key₁ : o₁.askMessageId = ask := h_same'.ask.trans (h_same.ask.trans h_named)
    obtain rfl := Table.eq_of_key h_o₁ h_o₃ (h_key₁.trans h_ask₃.symm)
    rw [← h_same.waiting, ← h_same'.waiting, h_waiting₃]
  have h_mails : SameMails s₁.ledger s'.ledger := Path.sameMails h_rest
  exact
    { messages := fun m' h_mem => h_after.messages m' (h_before.messages m' h_mem)
      next := fun m' h_mem => (h_plain m' h_mem).imp_right (·.toNext)
      waits := fun o h_o => by
        obtain ⟨o', h_o', h_links⟩ := h_image o h_o
        exact ⟨o', h_o', h_notices o o' h_o h_o' h_links⟩
      origin := fun o' h_o' => (h_origin o' h_o').imp_left fun ⟨o, h_o, h_links⟩ =>
        ⟨o, h_o, h_notices o o' h_o h_o' h_links⟩
      replies := fun m' h_mem h_new a h_reply => by
        rcases h_plain m' h_mem with h_old | h_plain
        · exact absurd rfl (h_new.fresh h_old)
        · rw [h_plain.reply] at h_reply
          cases h_reply
      recorded := fun o' h_o' h_pull m' h_mem h_new h_event => by
        have h_notice : o'.cancellationResponseMessageId = some m'.id := by
          refine ((isReverseEvent_iff h_o').mp h_event).resolve_left fun h_reply => ?_
          rcases h_plain m' h_mem with h_old | h_plain
          · exact h_new.fresh h_old rfl
          · rw [h_plain.reply] at h_reply
            cases h_reply
        rcases h_origin o' h_o' with ⟨o, h_o, h_links⟩ | ⟨h_none, -⟩
        · by_cases h_named : o.askMessageId = ask
          · have h_same := (h_links.named h_named).symm.trans h_notice
            rw [Option.some_inj] at h_same
            obtain rfl := Table.eq_of_key h_mem h_m' h_same.symm
            obtain ⟨d, h_d, h_message, h_transport, h_agent⟩ := h_record o h_o h_named
              (h_recipient o h_o h_named) (h_links.replyDelivery ▸ h_pull)
            obtain ⟨d', h_d', h_mail⟩ := h_mails d h_d
            refine ⟨d', h_d', h_mail.message.trans h_message,
              h_mail.transport.trans h_transport, ?_⟩
            rw [h_mail.agent, h_agent, h_links.waiting]
          · -- The notice of another ask was there before.
            obtain ⟨⟨m₀, h_m₀, h_id⟩, -⟩ :=
              h_s.noticed o h_o m'.id ((h_links.other h_named).symm.trans h_notice)
            exact absurd h_id (h_new.fresh h_m₀)
        · rw [h_none] at h_notice
          cases h_notice
      mails := Path.sameMails (Relation.ReflTransGen.trans h_sides (h_linked.trans h_closing))
      settled := Path.absorbs (h_sides.trans (h_linked.trans h_closing)) }

/-- A cancellation with its notices, from the obligation as it is read. -/
theorem recordCancellation_logStep {o : ObligationRow} {created : CreatedCancellation}
    {state : ObligationState} {requester : Option LogicalAgentId} {n : Nat} {s₁ : Store}
    (h_o : o ∈ s.obligations)
    (h : (recordCancellation now o reason body owingBody due owingDue).run s =
      .ok (created, s₁))
    (h_settle : (settleObligations now (fun o' => o'.askMessageId = o.askMessageId) state
      requester reason).run s₁ = .ok (n, s'))
    (h_n : n = 1) (h_state : state.Discarded) (h_s : Logged s) : LogStep s s' := by
  have h_parties : Parties s.ledger s₁.ledger :=
    Path.parties ((inferInstance : Keeps (Accounted False) _).keeps h)
  unfold recordCancellation at h
  obtain ⟨⟨id, delivery⟩, s₂, h_waiting, h⟩ := run_bind_ok.mp h
  obtain ⟨⟨owingId, owingDelivery⟩, s₃, h_owing, h⟩ := run_bind_ok.mp h
  obtain ⟨_, s₄, h_link, h⟩ := run_bind_ok.mp h
  cases h
  refine notices_logStep h_waiting h_owing h_link h_settle h_n h_state ?_ ⟨o, h_o, rfl⟩ h_s
  intro o₁ h_o₁ h_ask
  obtain ⟨o₂, h_o₂, h_same⟩ := h_parties o h_o
  obtain rfl := Table.eq_of_key h_o₂ h_o₁ (h_same.ask.trans h_ask.symm)
  exact ⟨h_ask, h_same.waiting⟩

theorem cancelWithResponse_logStep {requester : LogicalAgentId} {created : CreatedCancellation}
    (h : (cancelWithResponse now requester ask reason body owingBody due owingDue).run s =
      .ok (created, s')) (h_s : Logged s) : LogStep s s' := by
  simp only [cancelWithResponse, run_bind_require_ok, run_bind_query_ok] at h
  obtain ⟨-, o, h_o, h⟩ := h
  obtain ⟨h_mem, rfl⟩ := cancellableObligation_ok h_o
  obtain ⟨_, s₁, h_record, h⟩ := run_bind_ok.mp h
  obtain ⟨n, s₂, h_settle, h⟩ := run_bind_ok.mp h
  simp only [run_bind_require_ok] at h
  obtain ⟨h_n, h⟩ := h
  cases h
  exact recordCancellation_logStep h_mem h_record h_settle h_n (.inl rfl) h_s

theorem orphanAsk_logStep {created : Option CreatedCancellation}
    (h : (orphanAsk now ask).run s = .ok (created, s')) (h_s : Logged s) : LogStep s s' := by
  simp only [orphanAsk, run_bind_reads, run_bind_query_ok] at h
  obtain ⟨-, -, h⟩ := h
  split at h
  · cases h
    exact (Stepwise.refl s : Unlogged s s).logStep h_s (Stepwise.refl _) (Stepwise.refl _)
  · rename_i o h_orphanable
    simp only [Store.orphanable, Option.filter_eq_some_iff] at h_orphanable
    obtain ⟨h_mem, rfl⟩ := Table.find_eq_some.mp h_orphanable.1
    obtain ⟨_, s₁, h_record, h⟩ := run_bind_ok.mp h
    obtain ⟨n, s₂, h_settle, h⟩ := run_bind_ok.mp h
    simp only [run_bind_require_ok] at h
    obtain ⟨h_n, h⟩ := h
    cases h
    exact recordCancellation_logStep h_mem h_record h_settle h_n (.inr rfl) h_s

/-- The log is sound, and the obligations of these asks are on record. -/
def Awaited (asks : List ObligationRow) (s : Store) : Prop :=
  Logged s ∧ ∀ o ∈ asks, ∃ o' ∈ s.obligations, o'.askMessageId = o.askMessageId

theorem Awaited.step {asks : List ObligationRow} (h : Awaited asks s) (h_step : LogStep s s') :
    LogGrows s s' ∧ Awaited asks s' := by
  refine ⟨h_step.logGrows h.1, h_step.logged h.1, fun o h_o => ?_⟩
  obtain ⟨o₁, h_o₁, h_ask⟩ := h.2 o h_o
  obtain ⟨o₂, h_o₂, h_same⟩ := h_step.waits o₁ h_o₁
  exact ⟨o₂, h_o₂, h_same.ask.trans h_ask⟩

/-- A transaction that logs nothing. -/
theorem Keeps.awaited {α : Type} {x : StoreTx α} [Keeps Unlogged x] [Keeps (Accounted False) x]
    {asks : List ObligationRow} : Keeps (Under (Awaited asks) LogGrows) x where
  keeps {s a s'} h h_s := by
    have h_unlogged : Unlogged s s' := Keeps.keeps h
    have h_path : Accounted False s s' := Keeps.keeps h
    exact h_s.step (h_unlogged.logStep h_s.1 (Path.sameMails h_path) (Path.absorbs h_path))

theorem endAsk_awaited {waiter : LogicalAgentId} {name : String} {o : ObligationRow}
    {asks : List ObligationRow} (h_o : o ∈ asks) :
    Keeps (Under (Awaited asks) LogGrows) (endAsk now waiter name reason due o) where
  keeps {s a s'} h := by
    unfold endAsk at h
    obtain ⟨superseded, s₁, h_supersede, h⟩ := run_bind_ok.mp h
    refine Stepwise.trans (Keeps.awaited.keeps h_supersede) ?_
    intro h_s
    split at h
    · cases h
      exact ⟨Stepwise.refl _, h_s⟩
    · obtain ⟨⟨id, delivery⟩, s₂, h_waiting, h⟩ := run_bind_ok.mp h
      obtain ⟨⟨owingId, owingDelivery⟩, s₃, h_owing, h⟩ := run_bind_ok.mp h
      obtain ⟨_, s₄, h_link, h⟩ := run_bind_ok.mp h
      obtain ⟨n, s₅, h_settle, h⟩ := run_bind_ok.mp h
      simp only [run_bind_require_ok] at h
      obtain ⟨h_n, h⟩ := h
      cases h
      exact h_s.step (notices_logStep h_waiting h_owing h_link h_settle h_n (.inl rfl)
        (fun _ _ h_p => h_p) (h_s.2 o h_o) h_s.1)

theorem endSocketWaiter_logs {agent : LogicalAgentId} {dues : MessageId → Option Millis}
    {ended : EndedWaiter}
    (h : (endSocketWaiterWithOwingDue now agent dues reason).run s = .ok (ended, s'))
    (h_s : Logged s) : LogGrows s s' ∧ Logged s' := by
  simp only [endSocketWaiterWithOwingDue, run_bind_query_ok, run_bind_reads] at h
  obtain ⟨_, -, h⟩ := h
  obtain ⟨_, s₁, h_end, h⟩ := run_bind_ok.mp h
  simp only [run_bind_require_ok] at h
  obtain ⟨-, h⟩ := h
  obtain ⟨_, s₂, h_asks, h⟩ := run_bind_ok.mp h
  obtain ⟨_, s₃, h_inbox, h⟩ := run_bind_ok.mp h
  cases h
  have h_awaited : Awaited (s.unresolvedAsksWaitingOn agent) s := by
    refine ⟨h_s, fun o h_o => ⟨o, ?_, rfl⟩⟩
    simp only [Store.unresolvedAsksWaitingOn, List.mem_insertionSort, List.mem_filter] at h_o
    exact h_o.1
  have h_loop : Keeps (Under (Awaited (s.unresolvedAsksWaitingOn agent)) LogGrows)
      (forEach (s.unresolvedAsksWaitingOn agent) fun o =>
        endAsk now agent ((s.publicName agent).getD "") reason (dues o.askMessageId) o) :=
    Keeps.forEach_mem fun _ h_o => endAsk_awaited h_o
  have h_unavailable {h_key} : Keeps (Accounted False) (updateRows Tab.deliveries
      (fun d => d.recipientAgentId = some agent ∧ d.deliveryTransport = .socketInbox ∧
        d.outcome = .queued)
      (fun d => { d with outcome := .targetUnavailable, resolvedAtMs := some now }) h_key :
      StoreTx Nat) :=
    keeps_updateDeliveries fun d h_d =>
      ⟨⟨rfl, rfl, rfl, rfl, rfl, rfl⟩, .inr (.inr ⟨by simp [h_d.2.1], h_d.2.2, .inr rfl⟩)⟩
  obtain ⟨h_grows₁, h_awaited₁⟩ := Keeps.awaited.keeps h_end h_awaited
  obtain ⟨h_grows₂, h_awaited₂⟩ := h_loop.keeps h_asks h_awaited₁
  obtain ⟨h_grows₃, h_awaited₃⟩ := Keeps.awaited.keeps h_inbox h_awaited₂
  exact ⟨Stepwise.trans (Stepwise.trans h_grows₁ h_grows₂) h_grows₃, h_awaited₃.1⟩

end Notices

-- ============================================================================
-- Replies
-- ============================================================================

section Replies

variable {now : Millis} {replyTo : MessageId} {requester : LogicalAgentId}
  {disposition : ReplyDisposition} {body key : String} {due : Option Millis}

theorem recordNewReply_logStep {r : CreatedReply}
    (h : (recordNewReply now replyTo requester body disposition key due).run s = .ok (r, s'))
    (h_s : Logged s) (h_mails : SameMails s.ledger s'.ledger)
    (h_settled : Absorbs s.ledger s'.ledger) : LogStep s s' := by
  simp only [recordNewReply, run_bind_query_ok, run_bind_require_ok] at h
  obtain ⟨o, h_o, identity, -, -, h⟩ := h
  obtain ⟨h_mem, h_ask, h_owing, h_open⟩ := replyableObligation_ok h_o
  obtain ⟨_, s₁, h_m, h⟩ := run_bind_ok.mp h
  obtain ⟨m, ms, rfl, h_ms, rfl, -, -, -, h_to, -, h_id⟩ := insertMessage_run h_m
  have h_next : m.Next s.messages := MessageRow.next_of_nextId h_id
  -- What follows the message logs nothing, and records it for a pull ask.
  obtain ⟨h_rest, h_record⟩ : Unlogged { s with messages := ms } s' ∧
      (o.replyDelivery = .pull → s'.PullRecord o m) := by
    split at h
    · obtain ⟨_, s₂, h_q, h⟩ := run_bind_ok.mp h
      obtain ⟨_, s₃, h_key, h⟩ := run_bind_ok.mp h
      obtain ⟨_, s₄, h_act, h⟩ := run_bind_ok.mp h
      cases h
      refine ⟨Stepwise.trans (Keeps.keeps h_q)
        (Stepwise.trans (Keeps.keeps h_key) (Keeps.keeps h_act)), fun _ => ?_⟩
      have h_same : SameLedger s₂ s₃ := Keeps.keeps h_key
      obtain ⟨d, ds, rfl, h_ds, h_message, -, -, h_transport, h_agent⟩ :=
        queueSinkDelivery_run h_q
      have h_answers := replyActivity_run h_act h_same h_mem h_ask h_owing h_open
      have h_deliveries : s'.deliveries = ds := h_answers.deliveries
      exact ⟨d, h_deliveries ▸ (h_ds.mem d).mpr (.inr rfl), h_message, h_transport, h_agent⟩
    · rename_i h_pull
      refine ⟨?_, fun h_is => absurd h_is h_pull⟩
      split at h <;> exact Keeps.keeps h
  have h_old (m₀ : MessageRow) (h_m₀ : m₀ ∈ s.messages) : m₀ ∈ ms :=
    (h_ms.mem m₀).mpr (.inl h_m₀)
  have h_new (m' : MessageRow) (h_m' : m' ∈ s'.messages) :
      m' ∈ s.messages ∨ m' = m ∨ m'.Plain s.messages := by
    rcases h_rest.plain m' h_m' with h_mem' | h_plain
    · exact ((h_ms.mem m').mp h_mem').imp_right fun h_m => .inl (Option.some_inj.mp h_m).symm
    · exact .inr (.inr ⟨h_plain.toNext.mono h_old, h_plain.reply⟩)
  -- A notice refers to a message that was there before.
  have h_notice (o' : ObligationRow) (h_o' : o' ∈ s'.obligations) (m' : MessageRow)
      (h_m' : m'.Next s.messages) : o'.cancellationResponseMessageId ≠ some m'.id := by
    intro h_is
    rcases h_rest.origin o' h_o' with ⟨o₁, h_o₁, h_same⟩ | ⟨h_none, -⟩
    · obtain ⟨⟨m₀, h_m₀, h_id₀⟩, -⟩ := h_s.noticed o₁ h_o₁ m'.id (h_same.notice ▸ h_is)
      exact h_m'.fresh h_m₀ h_id₀
    · rw [h_none] at h_is
      cases h_is
  exact
    { messages := fun m₀ h_m₀ => h_rest.messages m₀ (h_old m₀ h_m₀)
      next := fun m' h_m' => (h_new m' h_m').imp_right fun h => by
        rcases h with rfl | h_plain
        · exact h_next
        · exact h_plain.toNext
      waits := fun o₁ h_o₁ => by
        obtain ⟨o', h_o', h_same⟩ := h_rest.waits o₁ h_o₁
        exact ⟨o', h_o', h_same.notices⟩
      origin := fun o' h_o' => by
        refine (h_rest.origin o' h_o').imp_left ?_
        rintro ⟨o₁, h_o₁, h_same⟩
        exact ⟨o₁, h_o₁, h_same.notices⟩
      replies := fun m' h_m' h_later ask h_reply => by
        rcases h_new m' h_m' with h_was | rfl | h_plain
        · exact absurd rfl (h_later.fresh h_was)
        · rw [h_to, Option.map_some, Option.some_inj] at h_reply
          exact ⟨o, h_mem, h_ask.trans h_reply⟩
        · rw [h_plain.reply] at h_reply
          cases h_reply
      recorded := fun o' h_o' h_pull m' h_m' h_later h_event => by
        have h_reply := ((isReverseEvent_iff h_o').mp h_event).resolve_right
          (h_notice o' h_o' m' h_later)
        rcases h_new m' h_m' with h_was | rfl | h_plain
        · exact absurd rfl (h_later.fresh h_was)
        · rw [h_to, Option.map_some, Option.some_inj] at h_reply
          obtain ⟨o₁, h_o₁, h_same⟩ := h_rest.waits o h_mem
          obtain rfl := Table.eq_of_key h_o₁ h_o'
            ((h_same.ask.trans h_ask).trans h_reply)
          obtain ⟨d, h_d, h_message, h_transport, h_agent⟩ :=
            h_record (h_same.replyDelivery ▸ h_pull)
          exact ⟨d, h_d, h_message, h_transport, h_same.waiting ▸ h_agent⟩
        · rw [h_plain.reply] at h_reply
          cases h_reply
      mails := h_mails
      settled := h_settled }

end Replies

-- ============================================================================
-- Every call
-- ============================================================================

/-- No call takes an event back or adds one before the end of a log. -/
theorem Call.logs (c : Call) (h : c.Step s s') (h_s : Logged s) : LogGrows s s' ∧ Logged s' := by
  have h_mails : SameMails s.ledger s'.ledger := c.sameMails h
  have h_settled : Absorbs s.ledger s'.ledger := c.absorbs h
  have h_quiet (h_unlogged : Unlogged s s') : LogGrows s s' ∧ Logged s' :=
    (h_unlogged.logStep h_s h_mails h_settled).under h_s
  cases c with
  | createReply now replyTo requester body disposition key due =>
    obtain ⟨_, h_run⟩ := commit_ok.mp h
    rcases createReply_cases h_run with rfl | h_record
    · exact ⟨Stepwise.refl _, h_s⟩
    · exact (recordNewReply_logStep h_record h_s h_mails h_settled).under h_s
  | cancelWithResponse now requester ask reason body owingBody due owingDue =>
    obtain ⟨_, h_run⟩ := commit_ok.mp h
    exact (cancelWithResponse_logStep h_run h_s).under h_s
  | orphanAsk now ask =>
    obtain ⟨_, h_run⟩ := commit_ok.mp h
    exact (orphanAsk_logStep h_run h_s).under h_s
  | endSocketWaiter now agent dues reason =>
    obtain ⟨_, h_run⟩ := commit_ok.mp h
    exact endSocketWaiter_logs h_run h_s
  | _ => exact h_quiet (Keeps.commit h)

end Kelpie
