/-
  Kelpie.Renews.Prepares

  The prepares of renews: the operation under the fixed key of a renew prompts
  the ask that the renew has linked, and the ask is owed while the renew awaits
  its reply only.

  All of it is kept by every call but the two that a prepare itself makes, the
  creation of the ask and its link; these keep it together.
-/

import Kelpie.Schedules.Keys
import Kelpie.Schedules.Prepare

namespace Kelpie

open Lib Lib.Tx Ledger Book

variable {s s' : Store} {c : Call}

-- ============================================================================
-- Recorded messages
-- ============================================================================

/-- Every ask and every reminder is of a recorded message. -/
structure Ledger.Mailed (g : Ledger) : Prop where
  obligation : ∀ o ∈ g.obligations, ∃ m ∈ g.messages, m.id = o.askMessageId
  reminder : ∀ r ∈ g.reminders, ∃ m ∈ g.messages, m.id = r.askMessageId

theorem Ledger.Mailed.posts {g g' : Ledger} {p : Posting} (h : Mailed g) (h_posts : Posts p g g') :
    Mailed g' where
  obligation o h_o := by
    rcases (h_posts.obligations.mem o).mp h_o with h_old | h_new
    · obtain ⟨m, h_m, h_id⟩ := h.obligation o h_old
      exact ⟨m, (h_posts.messages.mem m).mpr (.inl h_m), h_id⟩
    · exact ⟨p.message, (h_posts.messages.mem _).mpr (.inr rfl),
        (h_posts.proper.obligation o h_new).1.symm⟩
  reminder r h_r := by
    rcases (h_posts.reminders.mem r).mp h_r with h_old | h_new
    · obtain ⟨m, h_m, h_id⟩ := h.reminder r h_old
      exact ⟨m, (h_posts.messages.mem m).mpr (.inl h_m), h_id⟩
    · exact ⟨p.message, (h_posts.messages.mem _).mpr (.inr rfl),
        (h_posts.proper.reminder r h_new).1.symm⟩

theorem Ledger.Mailed.rewrites {g g' : Ledger} {e : ObligationReminderRow →
    ObligationReminderRow → Prop} (h : Mailed g) (h_re : Rewrites g g')
    (h_rem : g.reminders.Edits e g'.reminders)
    (h_e : ∀ r r', e r r' → r'.askMessageId = r.askMessageId) : Mailed g' where
  obligation o' h_o' := by
    obtain ⟨o, h_o, h_same⟩ := h_re.obligations.origin o' h_o'
    rw [h_re.messages, h_same.ask]
    exact h.obligation o h_o
  reminder r' h_r' := by
    obtain ⟨r, h_r, h_rr⟩ := h_rem.origin r' h_r'
    rw [h_re.messages, h_e r r' h_rr]
    exact h.reminder r h_r

theorem mailed_invariant {p : Call → Store → Prop} : Ledger.Invariant False p Ledger.Mailed where
  empty := ⟨fun _ h => absurd h Table.notMem_empty, fun _ h => absurd h Table.notMem_empty⟩
  effect {g g'} h h_effect := by
    have h_same (h_rem : g'.reminders = g.reminders) (h_re : Rewrites g g') : Mailed g' := by
      refine h.rewrites (e := Eq) h_re ?_ fun r r' h_r => congrArg _ h_r.symm
      rw [h_rem]
      exact .refl (fun _ => rfl) _
    rcases h_effect.cases with ⟨p, h_posts⟩ | ⟨o, t, -, -, rfl⟩ | h_re
    · exact h.posts h_posts
    · exact ⟨h.obligation, h.reminder⟩
    · cases h_effect with
      | post h_posts => exact h.posts h_posts
      | remind h_t => exact h.rewrites h_re h_t fun _ _ h_r => h_r.1
      | _ => exact h_same rfl h_re
  accepts h _ h_accepts := by
    refine h.rewrites h_accepts.rewrites h_accepts.reminders fun r r' h_r => ?_
    rcases h_r with rfl | ⟨h_ask, -⟩
    · rfl
    · exact h_ask
  answers h _ _ _ h_answers := by
    refine h.rewrites h_answers.rewrites h_answers.reminders fun r r' h_r => ?_
    rcases h_r with rfl | ⟨h_ask, h_ask', -⟩
    · rfl
    · exact h_ask'.trans h_ask.symm
  sweep h _ _ := ⟨h.obligation, h.reminder⟩

-- ============================================================================
-- Phases
-- ============================================================================

/-- The renew ends, or goes on in its cycle: it does not go back to its schedule. -/
structure RenewRow.GoesOn (r r' : RenewRow) : Prop where
  scheduled : r'.phase = .scheduled → r.phase = .scheduled
  armed : r'.phase.Armed → r.phase.Armed ∧ (r.phase = .scheduled → r'.phase = .scheduled)

theorem RenewRow.GoesOn.rfl {r : RenewRow} : r.GoesOn r := ⟨fun h => h, fun h => ⟨h, fun h => h⟩⟩

theorem Book.Moved.goesOn {r r' : RenewRow} (h : Moved r r') : r.GoesOn r' :=
  ⟨h.scheduled.mp, fun h_armed => ⟨h.armed.mp h_armed, h.scheduled.mpr⟩⟩

theorem Book.Closed.goesOn {id : RenewId} {r r' : RenewRow} (h : Closed id r r') : r.GoesOn r' := by
  rcases h with ⟨-, rfl⟩ | ⟨-, -, -, -, h_not⟩
  · exact .rfl
  · refine ⟨fun h_phase => ?_, fun h_armed => absurd h_armed h_not⟩
    rw [h_phase] at h_not
    exact absurd (by decide) h_not

/-- Where a renew comes from: it went on, it is new on its schedule, or the call has linked
    its prepare ask. -/
theorem Book.Turn.started {b b' : Book} (h : Turn b c b') {r' : RenewRow} (h_r' : r' ∈ b'.renews) :
    (∃ r ∈ b.renews, r.id = r'.id ∧ r.GoesOn r') ∨
      (r'.phase = .scheduled ∧ r'.askMessageId = none ∧ ∀ r ∈ b.renews, r.id ≠ r'.id) ∨
      ∃ ask deadline, c = .markRenewPreparing r'.id ask deadline := by
  have h_old (h_mem : r' ∈ b.renews) : ∃ r ∈ b.renews, r.id = r'.id ∧ r.GoesOn r' :=
    ⟨r', h_mem, rfl, .rfl⟩
  have h_closed {id : RenewId} {rs : Table RenewRow.id} (h_rs : b.renews.Edits (Closed id) rs)
      (h_mem : r' ∈ rs) : ∃ r ∈ b.renews, r.id = r'.id ∧ r.GoesOn r' := by
    obtain ⟨r, h_r, h_rr⟩ := h_rs.origin r' h_mem
    exact ⟨r, h_r, h_rr.same.key.symm, h_rr.goesOn⟩
  cases h with
  | same | compose | fire | cancel => exact .inl (h_old h_r')
  | move _ _ h_rs =>
    obtain ⟨r, h_r, h_moved⟩ := h_rs.origin r' h_r'
    exact .inl ⟨r, h_r, h_moved.key.symm, h_moved.goesOn⟩
  | link h_rs =>
    obtain ⟨r, h_r, h_rr⟩ := h_rs.origin r' h_r'
    rcases h_rr with ⟨-, rfl⟩ | ⟨h_id, h_same, -⟩
    · exact .inl (h_old h_r)
    · rw [← h_same.key] at h_id
      subst h_id
      exact .inr (.inr ⟨_, _, rfl⟩)
  | arm _ h_new _ _ _ h_rs =>
    rcases (h_rs.mem r').mp h_r' with h_mem | h_some
    · exact .inl (h_old h_mem)
    · obtain rfl := Option.mem_some.mp h_some
      exact .inr (.inl ⟨h_new.1, h_new.2.2, h_rs.fresh _ rfl⟩)
  | close _ _ h_rs | stop _ _ h_rs => exact .inl (h_closed h_rs h_r')
  | next _ h_rs h_next =>
    obtain ⟨-, -, -, h_new, -, -, h_add, -⟩ := h_next
    rcases (h_add.mem r').mp h_r' with h_mem | h_some
    · exact .inl (h_closed h_rs h_mem)
    · obtain rfl := Option.mem_some.mp h_some
      refine .inr (.inl ⟨h_new.1, h_new.2.2.1, fun r h_r h_id => ?_⟩)
      obtain ⟨r₁, h_r₁, h_rr⟩ := h_rs.image r h_r
      exact h_add.fresh _ rfl r₁ h_r₁ (h_rr.same.key.trans h_id)

/-- A renew that is off its schedule stays so, and keeps its prepare ask. -/
theorem Book.Turn.kept {b b' : Book} (h : Turn b c b') {r : RenewRow} (h_r : r ∈ b.renews)
    (h_phase : r.phase ≠ .scheduled) : ∃ r' ∈ b'.renews, r'.id = r.id ∧
      r'.phase ≠ .scheduled ∧ r'.askMessageId = r.askMessageId := by
  have h_closed {id : RenewId} {rs : Table RenewRow.id} (h_rs : b.renews.Edits (Closed id) rs) :
      ∃ r' ∈ rs, r'.id = r.id ∧ r'.phase ≠ .scheduled ∧ r'.askMessageId = r.askMessageId := by
    obtain ⟨r', h_r', h_rr⟩ := h_rs.image r h_r
    refine ⟨r', h_r', h_rr.same.key, fun h_eq => h_phase (h_rr.goesOn.scheduled h_eq), ?_⟩
    rcases h_rr with ⟨-, rfl⟩ | ⟨-, -, h_ask, -⟩
    · rfl
    · exact h_ask
  cases h with
  | same | compose | fire | cancel => exact ⟨r, h_r, rfl, h_phase, rfl⟩
  | move _ _ h_rs =>
    obtain ⟨r', h_r', h_moved⟩ := h_rs.image r h_r
    exact ⟨r', h_r', h_moved.key, fun h_eq => h_phase (h_moved.scheduled.mp h_eq), h_moved.ask⟩
  | link h_rs =>
    obtain ⟨r', h_r', h_rr⟩ := h_rs.image r h_r
    rcases h_rr with ⟨-, rfl⟩ | ⟨-, -, h_was, -⟩
    · exact ⟨r', h_r', rfl, h_phase, rfl⟩
    · exact absurd h_was h_phase
  | arm _ _ _ _ _ h_rs => exact ⟨r, (h_rs.mem r).mpr (.inl h_r), rfl, h_phase, rfl⟩
  | close _ _ h_rs | stop _ _ h_rs => exact h_closed h_rs
  | next _ h_rs h_next =>
    obtain ⟨-, -, -, -, -, -, h_add, -⟩ := h_next
    obtain ⟨r', h_r', h_rest⟩ := h_closed h_rs
    exact ⟨r', (h_add.mem r').mpr (.inl h_r'), h_rest⟩

-- ============================================================================
-- Prepares
-- ============================================================================

/-- The message that the operation prompts. -/
def OperationRow.prompted (o : OperationRow) : Option MessageId :=
  match o.intent with
  | .prompt intent => some intent.messageId
  | _ => none

/-- The operations under the prepare keys belong to the renews that awaited their asks. -/
structure Store.Prepares (s : Store) : Prop where
  linked : ∀ o ∈ s.operations, ∀ id, o.idempotencyKey = renewPrepareKey id →
    ∃ r ∈ s.renews, r.id = id ∧ r.phase ≠ .scheduled ∧ o.prompted.isSome ∧
      r.askMessageId = o.prompted
  single : ∀ o ∈ s.operations, ∀ o' ∈ s.operations, ∀ id,
    o.idempotencyKey = renewPrepareKey id → o'.idempotencyKey = renewPrepareKey id → o = o'
  asked : ∀ r ∈ s.renews, r.phase.Armed → r.phase ≠ .scheduled →
    ∃ o ∈ s.operations, o.idempotencyKey = renewPrepareKey r.id
  owed : ∀ r ∈ s.renews, ∀ ask, r.askMessageId = some ask → r.Awaiting ∨ Settled s ask

/-- The call is none of those that a prepare makes. -/
def Call.OffPrepares (c : Call) : Prop :=
  (∀ id ask deadline, c ≠ .markRenewPreparing id ask deadline) ∧
    ∀ id, c.givenKey? ≠ some (renewPrepareKey id)

theorem Store.Prepares.empty : Store.empty.Prepares where
  linked _ h := absurd h Table.notMem_empty
  single _ h := absurd h Table.notMem_empty
  asked _ h := absurd h Table.notMem_empty
  owed _ h := absurd h Table.notMem_empty

/-- An operation under a prepare key was there before a call that makes no prepare. -/
theorem Call.OffPrepares.origin (h_c : c.OffPrepares) (h : c.Step s s') {o' : OperationRow}
    (h_o' : o' ∈ s'.operations) {id : RenewId} (h_key : o'.idempotencyKey = renewPrepareKey id) :
    ∃ o ∈ s.operations, o.SameOrder o' := by
  rcases (c.addsKeys h).origin o' h_o' with h_old | h_given | ⟨a, ask, h_eq, -⟩ |
    ⟨id', cycle, h_eq, -⟩
  · exact h_old
  · exact absurd (h_given.trans (congrArg some h_key)) (h_c.2 id)
  · exact absurd (h_eq.symm.trans h_key) cancellationKey_ne_renew
  · exact absurd (h_eq.symm.trans h_key) scheduleKey_ne_renew

theorem Store.Prepares.step (h_s : s.Prepares) (h_prepared : s.Prepared) (h_c : c.OffPrepares)
    (h : c.Step s s') : s'.Prepares where
  linked o' h_o' id h_key := by
    obtain ⟨o, h_o, h_same⟩ := h_c.origin h h_o' h_key
    obtain ⟨r, h_r, h_id, h_phase, h_some, h_ask⟩ := h_s.linked o h_o id (h_same.key ▸ h_key)
    obtain ⟨r', h_r', h_id', h_phase', h_ask'⟩ := (c.turn h).kept h_r h_phase
    have h_prompted : o'.prompted = o.prompted := by
      unfold OperationRow.prompted
      rw [h_same.intent]
    rw [h_prompted]
    exact ⟨r', h_r', h_id'.trans h_id, h_phase', h_some, h_ask'.trans h_ask⟩
  single o₁' h_o₁' o₂' h_o₂' id h_key₁ h_key₂ := by
    obtain ⟨o₁, h_o₁, h_same₁⟩ := h_c.origin h h_o₁' h_key₁
    obtain ⟨o₂, h_o₂, h_same₂⟩ := h_c.origin h h_o₂' h_key₂
    obtain rfl := h_s.single o₁ h_o₁ o₂ h_o₂ id (h_same₁.key ▸ h_key₁) (h_same₂.key ▸ h_key₂)
    exact Table.eq_of_key h_o₁' h_o₂' (h_same₁.id.trans h_same₂.id.symm)
  asked r' h_r' h_armed h_phase := by
    rcases (c.turn h).started h_r' with ⟨r, h_r, h_id, h_on⟩ | ⟨h_new, -⟩ | ⟨ask, deadline, h_eq⟩
    · obtain ⟨h_was, h_sched⟩ := h_on.armed h_armed
      obtain ⟨o, h_o, h_key⟩ := h_s.asked r h_r h_was fun h_eq => h_phase (h_sched h_eq)
      obtain ⟨o', h_o', h_same⟩ := (c.addsKeys h).kept o h_o
      exact ⟨o', h_o', h_same.key.trans (h_id ▸ h_key)⟩
    · exact absurd h_new h_phase
    · exact absurd h_eq (h_c.1 _ _ _)
  owed r' h_r' ask h_ask := by
    obtain ⟨r, h_r, h_same, h_origin⟩ := (c.turn h).asked h_r' h_ask
    rcases h_origin with ⟨h_old, -⟩ | ⟨deadline, h_eq⟩
    · rcases h_s.owed r h_r ask h_old with h_awaiting | h_settled
      · by_cases h_moves : c.MovesOn r.id
        · obtain ⟨o, h_o, h_key, -⟩ := h_prepared.waits r h_r ask h_old
          obtain ⟨o', h_o', h_key', h_state⟩ := h_moves.withdraws h h_r h_old o h_o h_key
          refine .inr ⟨o', h_o', h_key', ?_⟩
          rw [h_state]
          split
          · simp [ObligationState.Unresolved]
          · assumption
        · obtain ⟨r'', h_r'', h_id, h_awaiting'⟩ :=
            c.staysAwaiting h h_moves ⟨r, h_r, rfl, h_awaiting⟩
          obtain rfl := Table.eq_of_key h_r' h_r'' (h_same.key.trans h_id.symm)
          exact .inl h_awaiting'
      · exact .inr (h_settled.step c h)
    · exact absurd h_eq (h_c.1 _ _ _)

-- ============================================================================
-- Owners
-- ============================================================================

/-- The incarnations stay, each with its agent. -/
def KeepsOwners (is is' : Table IncarnationRow.id) : Prop :=
  ∀ i ∈ is, ∃ i' ∈ is', i'.id = i.id ∧ i'.logicalAgentId = i.logicalAgentId

theorem KeepsOwners.trans {is₁ is₂ is₃ : Table IncarnationRow.id} (h : KeepsOwners is₁ is₂)
    (h' : KeepsOwners is₂ is₃) : KeepsOwners is₁ is₃ := by
  intro i h_i
  obtain ⟨i₂, h_i₂, h_id, h_agent⟩ := h i h_i
  obtain ⟨i₃, h_i₃, h_id', h_agent'⟩ := h' i₂ h_i₂
  exact ⟨i₃, h_i₃, h_id'.trans h_id, h_agent'.trans h_agent⟩

theorem KeepsOwners.of_edits {is is' : Table IncarnationRow.id}
    {e : IncarnationRow → IncarnationRow → Prop} (h : is.Edits e is')
    (h_e : ∀ i i', e i i' → i'.id = i.id ∧ i'.logicalAgentId = i.logicalAgentId) :
    KeepsOwners is is' := by
  intro i h_i
  obtain ⟨i', h_i', h_ii⟩ := h.image i h_i
  exact ⟨i', h_i', h_e i i' h_ii⟩

theorem Roster.Change.keepsOwners {ok : Prop} {r r' : Roster} (h : Roster.Change ok r r') :
    KeepsOwners r.incarnations r'.incarnations := by
  cases h with
  | enroll | note | rename => exact fun i h_i => ⟨i, h_i, rfl, rfl⟩
  | settle h_t => exact .of_edits h_t fun _ _ h_i => ⟨h_i.key, h_i.agent⟩
  | pend _ h_t => exact .of_edits h_t fun _ _ h_i => ⟨h_i.key, h_i.agent⟩
  | occupy _ _ h_t => exact .of_edits h_t fun _ _ h_i => ⟨h_i.key, h_i.agent⟩
  | declare _ _ _ h_t | bind _ _ _ _ h_t =>
    exact fun i h_i => ⟨i, (h_t.mem i).mpr (.inl h_i), rfl, rfl⟩

theorem Call.keepsOwners (c : Call) (h : c.Step s s') :
    KeepsOwners s.incarnations s'.incarnations := by
  cases c.enrols h with
  | orderly h_orderly =>
    have h_changes {r r' : Roster} (h : Roster.Changes (s.roster.Unique ∧ c.FindsFree s) r r') :
        KeepsOwners r.incarnations r'.incarnations := by
      induction h with
      | refl => exact fun i h_i => ⟨i, h_i, rfl, rfl⟩
      | tail _ h_change ih => exact ih.trans h_change.keepsOwners
    exact h_changes h_orderly
  | reconciled _ _ h_rec =>
    exact .of_edits h_rec.incarnations fun _ _ h_i => ⟨h_i.same.id, h_i.same.agent⟩
  | continued _ h_continued =>
    obtain ⟨rows, h_rows, -⟩ := h_continued.incarnations
    exact fun i h_i => ⟨i, (h_rows.mem i).mpr (.inl h_i), rfl, rfl⟩

/-- Every renew is of an incarnation of its agent. -/
def Store.RenewsOwned (s : Store) : Prop :=
  ∀ r ∈ s.renews, ∃ i ∈ s.incarnations, i.id = r.incarnationId ∧
    i.logicalAgentId = r.logicalAgentId

theorem Reachable.renewsOwned {ok : Call → Store → Prop} (h : Reachable ok s) : s.RenewsOwned := by
  refine h.invariant (fun _ h_r => absurd h_r Table.notMem_empty) fun c s s' h_s _ h_step => ?_
  have h_kept {i : IncarnationRow} (h_i : i ∈ s.incarnations) {inc : IncarnationId}
      {agent : LogicalAgentId} (h_id : i.id = inc) (h_agent : i.logicalAgentId = agent) :
      ∃ i' ∈ s'.incarnations, i'.id = inc ∧ i'.logicalAgentId = agent := by
    obtain ⟨i', h_i', h_id', h_agent'⟩ := c.keepsOwners h_step i h_i
    exact ⟨i', h_i', h_id'.trans h_id, h_agent'.trans h_agent⟩
  intro r' h_r'
  rcases c.renewAgent h_step h_r' with ⟨r, h_r, h_inc, h_agent⟩ | ⟨i, h_i, h_id, h_agent⟩
  · obtain ⟨i, h_i, h_id, h_owner⟩ := h_s r h_r
    exact h_kept h_i (h_id.trans h_inc) (h_owner.trans h_agent)
  · exact h_kept h_i h_id h_agent

-- ============================================================================
-- The ask of a prepare
-- ============================================================================

section Ask

variable {now : Millis} {sender recipient : LogicalAgentId} {inc : IncarnationId}
  {body key : String} {remind : Millis} {created : CreatedPrompt}

theorem replay_of_free {kind : MessageKind} {replyTo : Option MessageId}
    (h_free : ∀ o ∈ s.operations, o.idempotencyKey ≠ key) :
    replayPromptByIdempotencyKey key kind sender replyTo s = .ok none := by
  have h_none : s.operations.rows.filter (·.idempotencyKey = key) = [] :=
    List.filter_eq_nil_iff.mpr fun o h_o => by simpa using h_free o h_o
  simp [replayPromptByIdempotencyKey, Store.replayCandidate, h_none]

theorem insertRow_commits {ρ κ : Type} [DecidableEq κ] {k : ρ → κ} {T : TableOf Store k}
    {r : ρ} {e : StoreError} (h : (T.get s).find (k r) = none) : (insertRow T r e).Commits s :=
  .of_run (run_insertRow_ok.mpr ⟨_, dif_pos h, rfl⟩)

/-- The ask of a renew is created under a key that no operation has. -/
theorem createAsk_commits {r : RenewRow} (h_r : r ∈ s.renews) (h_mailed : s.ledger.Mailed)
    (h_owned : s.RenewsOwned) (h_agent : s.roster.Bindable r.logicalAgentId)
    (h_remind : 0 < remind) (h_free : ∀ o ∈ s.operations, o.idempotencyKey ≠ key) :
    (createAskWithReplyDelivery now r.logicalAgentId r.logicalAgentId r.incarnationId body key
      none (some remind) false .inject).Commits s := by
  obtain ⟨i, h_i, h_inc, h_owner⟩ := h_owned r h_r
  obtain ⟨l, h_l, h_id, h_transport⟩ := h_agent
  have h_find_i : s.incarnations.find r.incarnationId = some i :=
    Table.find_eq_some.mpr ⟨h_i, h_inc⟩
  have h_find_l : s.logicalAgents.find r.logicalAgentId = some l :=
    Table.find_eq_some.mpr ⟨h_l, h_id⟩
  have h_waiting : waiterIdentity r.logicalAgentId s =
      .ok { transport := l.deliveryTransport, ended := false } := by
    simp [waiterIdentity, h_find_l, h_transport]
  unfold createAskWithReplyDelivery
  rw [commits_bind_require, commits_bind_query (replay_of_free h_free)]
  refine ⟨fun interval h_interval => Option.mem_some.mp h_interval ▸ h_remind, ?_⟩
  dsimp only
  rw [commits_bind_query (q := fun _ => deliverySchedule now none) (a := (now, .pending)) rfl,
    commits_bind_reads, commits_bind_require, commits_bind_query h_waiting]
  refine ⟨by rw [h_find_i, Option.map_some, h_owner], ?_⟩
  rw [commits_bind_require, commits_bind_require, commits_bind_require]
  refine ⟨nofun, rfl, nofun, ?_⟩
  -- The message gets a number that no obligation and no reminder has.
  have h_later {m : MessageId} (h_m : ∃ m' ∈ s.messages, m'.id = m) : m ≠ s.messages.nextId := by
    obtain ⟨m', h_m', rfl⟩ := h_m
    exact (Table.key_lt_nextId h_m').ne
  have h_obligation : s.obligations.find s.messages.nextId = none :=
    Table.find_eq_none.mpr fun o h_o => h_later (h_mailed.obligation o h_o)
  have h_reminder : s.obligationReminders.find s.messages.nextId = none :=
    Table.find_eq_none.mpr fun r h_r => h_later (h_mailed.reminder r h_r)
  have h_count : s.operations.count (·.HoldsKey key) = 0 :=
    Table.count_eq_zero.mpr fun o h_o h_holds => h_free o h_o h_holds.1
  have h_message : (insertMessage now (some r.logicalAgentId) r.logicalAgentId .ask body).Commits
      s := by
    unfold insertMessage
    rw [commits_bind_reads, commits_bind_require, commits_bind_require, commits_bind_reads,
      commits_bind_require, h_find_l]
    refine ⟨fun id h_id => ?_, rfl, nofun, .of_run run_appendRow⟩
    rw [← Option.mem_some.mp h_id, h_find_l]
    rfl
  refine h_message.bind fun id s₁ h_run => ?_
  obtain ⟨m, ms, rfl, -, rfl, -, -, -, -, -, h_next⟩ := insertMessage_run h_run
  rw [h_next]
  refine Commits.bind (insertRow_commits h_obligation) fun _ s₂ h_run => ?_
  obtain ⟨o, os, rfl, -⟩ := insertObligation_run h_run
  have h_reminds : (insertReminder s.messages.nextId remind).Commits
      { s with messages := ms, obligations := os } := by
    unfold insertReminder
    rw [commits_bind_require]
    exact ⟨h_remind, insertRow_commits h_reminder⟩
  refine h_reminds.bind fun _ s₃ h_run => ?_
  obtain ⟨rem, rems, rfl, -⟩ := insertReminder_run h_run
  refine Commits.bind ?_ fun _ _ _ => commits_pure
  unfold insertPrompt
  refine Commits.bind ?_ fun _ _ _ => Commits.bind ?_ fun _ _ _ => commits_pure
  · unfold insertOperation
    rw [commits_bind_reads, commits_bind_require]
    exact ⟨h_count, .of_run run_appendRow⟩
  · exact (Commits.of_run run_appendRow).bind fun _ _ _ => commits_pure

/-- A new ask: its message, its obligation and its prompt, and nothing else. -/
structure RecordsAsk (key : String) (ask : MessageId) (s s' : Store) : Prop where
  rest : s' = { s with
    messages := s'.messages, obligations := s'.obligations,
    obligationReminders := s'.obligationReminders, operations := s'.operations,
    deliveries := s'.deliveries }
  message : ∃ m ∈ s'.messages, m.id = ask
  operation : ∃ o, s.operations.Adds (some o) s'.operations ∧
    s'.operations.rows = s.operations.rows ++ [o] ∧ o.idempotencyKey = key ∧
    o.kind = .prompt ∧ o.outcome = .pending ∧ o.prompted = some ask

theorem createAsk_records
    (h_new : replayPromptByIdempotencyKey key .ask sender none s = .ok none)
    (h : (createAskWithReplyDelivery now sender recipient inc body key none (some remind) false
      .inject).run s = .ok (created, s')) : RecordsAsk key created.messageId s s' := by
  simp only [createAskWithReplyDelivery, run_bind_require_ok, run_bind_query_ok] at h
  obtain ⟨-, replay, h_replay, h⟩ := h
  obtain rfl := Except.ok.inj (h_new.symm.trans h_replay)
  simp only [run_bind_require_ok, run_bind_query_ok, run_bind_reads] at h
  obtain ⟨_, -, -, _, -, -, -, -, h⟩ := h
  obtain ⟨ask, s₁, h_message, h⟩ := run_bind_ok.mp h
  obtain ⟨_, s₂, h_obligation, h⟩ := run_bind_ok.mp h
  obtain ⟨_, s₃, h_reminder, h⟩ := run_bind_ok.mp h
  obtain ⟨op, s₄, h_prompt, h⟩ := run_bind_ok.mp h
  obtain ⟨rfl, rfl⟩ := Prod.mk.inj (Except.ok.inj h)
  obtain ⟨m, ms, rfl, h_ms, rfl, -⟩ := insertMessage_run h_message
  obtain ⟨o, os, rfl, -⟩ := insertObligation_run h_obligation
  obtain ⟨rem, rems, rfl, -⟩ := insertReminder_run h_reminder
  obtain ⟨_, s₅, h_op, h_prompt⟩ := run_bind_ok.mp h_prompt
  simp only [insertOperation, run_bind_reads, run_bind_require_ok] at h_op
  obtain ⟨ops, rfl, h_ops, h_rows⟩ := run_appendRow_rows h_op.2
  simp only [insertHerdrDelivery, run_bind_ok, run_appendRow, Except.ok.injEq, Prod.mk.injEq,
    run_pure] at h_prompt
  obtain ⟨_, _, ⟨_, _, ⟨-, rfl⟩, -, rfl⟩, -, rfl⟩ := h_prompt
  exact ⟨rfl, ⟨m, (h_ms.mem m).mpr (.inr rfl), rfl⟩, _, h_ops, h_rows, rfl, rfl, rfl, rfl⟩

/-- A scheduled renew awaits its ask as soon as the ask is recorded. -/
theorem markRenewPreparing_commits {r : RenewRow} {ask : MessageId} {deadline : Millis}
    (h_r : r ∈ s.renews) (h_phase : r.phase = .scheduled) (h_checks : r.Checks)
    (h_message : ∃ m ∈ s.messages, m.id = ask) :
    (markRenewPreparing r.id ask deadline).Commits s := by
  obtain ⟨h_timeout, h_every, h_remaining, -⟩ := h_checks
  unfold markRenewPreparing
  rw [commits_bind_reads]
  refine Commits.bind (updateRenew_commits h_r rfl h_phase ?_) fun _ _ _ => ?_
  · exact ⟨h_timeout, h_every, h_remaining, by simp, .inr (.inr rfl)⟩
  · rw [commits_require]
    exact Table.isSome_find.mpr h_message

/-- No operation is under the prepare key of a scheduled renew. -/
theorem Store.Prepares.free (h_s : s.Prepares) {r : RenewRow} (h_r : r ∈ s.renews)
    (h_phase : r.phase = .scheduled) {o : OperationRow} (h_o : o ∈ s.operations) :
    o.idempotencyKey ≠ renewPrepareKey r.id := by
  intro h_key
  obtain ⟨r', h_r', h_id, h_off, -⟩ := h_s.linked o h_o r.id h_key
  obtain rfl := Table.eq_of_key h_r h_r' h_id.symm
  exact h_off h_phase

/-- The ask of a prepare, with its link. -/
theorem Store.Prepares.prepare (h_s : s.Prepares) {r : RenewRow} (h_r : r ∈ s.renews)
    (h_phase : r.phase = .scheduled) {ask : MessageId} {s₁ : Store}
    (h_ask : RecordsAsk (renewPrepareKey r.id) ask s s₁)
    (h_settled : ∀ other, Settled s other → Settled s₁ other) {deadline : Millis} {u : Unit}
    (h_mark : (markRenewPreparing r.id ask deadline).run s₁ = .ok (u, s')) : s'.Prepares := by
  obtain ⟨op, h_adds, -, h_key, -, -, h_prompted⟩ := h_ask.operation
  have h_renews : s₁.renews = s.renews := by rw [h_ask.rest]
  simp only [markRenewPreparing, run_bind_reads] at h_mark
  obtain ⟨_, s₂, h_update, h_mark⟩ := run_bind_ok.mp h_mark
  simp only [run_require_ok, Prod.mk.injEq] at h_mark
  obtain ⟨-, -, rfl⟩ := h_mark
  obtain ⟨rs, rfl, -, h_rs⟩ := updateRenew_run h_update
  rw [h_renews] at h_rs
  -- The linked renew, and the others as they were.
  have h_linked : ∃ r' ∈ rs, r'.id = r.id ∧ r'.phase = .preparing ∧
      r'.askMessageId = some ask := by
    obtain ⟨r', h_r', h_rr⟩ := h_rs.image r h_r
    obtain ⟨-, -, rfl⟩ := h_rr.resolve_left fun h => h.1 rfl
    exact ⟨_, h_r', rfl, rfl, rfl⟩
  have h_other {r' : RenewRow} (h_r' : r' ∈ rs) : r' ∈ s.renews ∨
      r'.id = r.id ∧ r'.phase = .preparing ∧ r'.askMessageId = some ask := by
    obtain ⟨r₀, h_r₀, h_rr⟩ := h_rs.origin r' h_r'
    rcases h_rr with ⟨-, rfl⟩ | ⟨h_id, -, rfl⟩
    · exact .inl h_r₀
    · exact .inr ⟨h_id, rfl, rfl⟩
  have h_kept {r₀ : RenewRow} (h_r₀ : r₀ ∈ s.renews) (h_off : r₀.phase ≠ .scheduled) :
      r₀ ∈ rs := by
    obtain ⟨r', h_r', h_rr⟩ := h_rs.image r₀ h_r₀
    rcases h_rr with ⟨-, rfl⟩ | ⟨-, h_was, -⟩
    · exact h_r'
    · exact absurd h_was h_off
  constructor
  · intro o h_o id h_o_key
    rcases (h_adds.mem o).mp h_o with h_old | h_new
    · obtain ⟨r₀, h_r₀, h_id, h_off, h_rest⟩ := h_s.linked o h_old id h_o_key
      exact ⟨r₀, h_kept h_r₀ h_off, h_id, h_off, h_rest⟩
    · cases h_new
      obtain ⟨r', h_r', h_id, h_preparing, h_link⟩ := h_linked
      have h_same := renewPrepareKey_inj (h_key.symm.trans h_o_key)
      refine ⟨r', h_r', h_id.trans h_same, ?_, ?_, h_link.trans h_prompted.symm⟩
      · rw [h_preparing]
        decide
      · rw [h_prompted]
        rfl
  · intro o₁ h_o₁ o₂ h_o₂ id h_key₁ h_key₂
    have h_apart {o : OperationRow} (h_o : o ∈ s.operations)
        (h_o_key : o.idempotencyKey = op.idempotencyKey) : False :=
      h_s.free h_r h_phase h_o (h_o_key.trans h_key)
    rcases (h_adds.mem o₁).mp h_o₁ with h_old₁ | h_new₁ <;>
      rcases (h_adds.mem o₂).mp h_o₂ with h_old₂ | h_new₂
    · exact h_s.single o₁ h_old₁ o₂ h_old₂ id h_key₁ h_key₂
    · cases h_new₂
      exact (h_apart h_old₁ (h_key₁.trans h_key₂.symm)).elim
    · cases h_new₁
      exact (h_apart h_old₂ (h_key₂.trans h_key₁.symm)).elim
    · cases h_new₁
      cases h_new₂
      rfl
  · intro r' h_r' h_armed h_off
    rcases h_other h_r' with h_old | ⟨h_id, -⟩
    · obtain ⟨o, h_o, h_o_key⟩ := h_s.asked r' h_old h_armed h_off
      exact ⟨o, (h_adds.mem o).mpr (.inl h_o), h_o_key⟩
    · exact ⟨op, (h_adds.mem op).mpr (.inr rfl), h_id ▸ h_key⟩
  · intro r' h_r' other h_other_ask
    rcases h_other h_r' with h_old | ⟨-, h_preparing, -⟩
    · exact (h_s.owed r' h_old other h_other_ask).imp_right (h_settled other)
    · exact .inl (.inl h_preparing)

end Ask

end Kelpie
