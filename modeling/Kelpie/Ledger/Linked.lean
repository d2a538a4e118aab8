/-
  Kelpie.Ledger.Linked

  How the rows of a ledger refer to each other, in every state that the store
  reaches: a delivery is the only one of its message and of its operation, a
  reply joins the parties of the obligation it answers, and an accepted delivery
  stays accepted.
-/

import Kelpie.Ledger.Step

namespace Kelpie

open Lib

namespace Ledger

-- ============================================================================
-- Rewritten rows
-- ============================================================================

/-- No row is new in `g'`, and every row is still what it was. -/
structure Rewrites (g g' : Ledger) : Prop where
  messages : g'.messages = g.messages
  obligations : g.obligations.Edits ObligationRow.SameParties g'.obligations
  deliveries : g.deliveries.Edits DeliveryRow.SameMail g'.deliveries
  operations : g.operations.Edits OperationRow.SameTask g'.operations

variable {strict : Prop} {g g' : Ledger}

theorem Rewrites.refl (g : Ledger) : Rewrites g g where
  messages := rfl
  obligations := .refl (fun _ => .rfl) _
  deliveries := .refl (fun _ => .rfl) _
  operations := .refl (fun _ => .rfl) _

theorem Ended.sameTask {id : OperationId} {outcome : OperationOutcome} {r r' : OperationRow}
    (h : Ended id outcome r r') : r.SameTask r' := by
  rcases h with ⟨-, rfl⟩ | ⟨-, -, h_task, -⟩
  · exact .rfl
  · exact h_task

theorem Dropped.sameMail {id : OperationId} {outcome : DeliveryOutcome} {d d' : DeliveryRow}
    (h : Dropped id outcome d d') : d.SameMail d' := by
  rcases h with ⟨-, rfl⟩ | ⟨-, h_mail, -⟩
  · exact .rfl
  · exact h_mail

theorem OperationSuperseded.sameTask {id : OperationId} {r r' : OperationRow}
    (h : OperationSuperseded id r r') : r.SameTask r' := by
  rcases h with ⟨-, rfl⟩ | ⟨-, -, h_task, -⟩
  · exact .rfl
  · exact h_task

theorem DeliverySuperseded.sameMail {id : OperationId} {d d' : DeliveryRow}
    (h : DeliverySuperseded id d d') : d.SameMail d' := by
  rcases h with ⟨-, rfl⟩ | ⟨-, -, h_mail, -⟩
  · exact .rfl
  · exact h_mail

theorem Resolved.sameParties {ask resolving : MessageId} {o o' : ObligationRow}
    (h : Resolved ask resolving o o') : o.SameParties o' := by
  rcases h with rfl | ⟨-, -, h_parties, -⟩
  · exact .rfl
  · exact h_parties

theorem Succeeded.sameTask {id : OperationId} {r r' : OperationRow} (h : Succeeded id r r') :
    r.SameTask r' := by
  rcases h with ⟨-, rfl⟩ | ⟨-, -, h_task, -⟩
  · exact .rfl
  · exact h_task

theorem AskSwept.sameMail {d d' : DeliveryRow} (h : g.AskSwept d d') : d.SameMail d' := by
  rcases h with rfl | ⟨h_mail, -⟩
  · exact .rfl
  · exact h_mail

/-- An effect posts a message, declares an operation that delivers none, or rewrites. -/
theorem Effect.cases (h : Effect strict g g') :
    (∃ p, Posts p g g') ∨
    (∃ o t, o.kind ≠ .prompt ∧ g.operations.Adds (some o) t ∧
      g' = { g with operations := t }) ∨
    Rewrites g g' := by
  cases h with
  | post h => exact .inl ⟨_, h⟩
  | operate h_kind h => exact .inr (.inl ⟨_, _, h_kind, h, rfl⟩)
  | conduct h =>
    exact .inr (.inr { Rewrites.refl g with operations := h.mono fun _ _ _ _ => And.left })
  | deliver h =>
    exact .inr (.inr { Rewrites.refl g with deliveries := h.mono fun _ _ _ _ => And.left })
  | fail _ _ _ h_os h_ds =>
    exact .inr (.inr { Rewrites.refl g with
      operations := h_os.mono fun _ _ _ _ => Ended.sameTask
      deliveries := h_ds.mono fun _ _ _ _ => Dropped.sameMail })
  | supersede _ h_os h_ds =>
    exact .inr (.inr { Rewrites.refl g with
      operations := h_os.mono fun _ _ _ _ => OperationSuperseded.sameTask
      deliveries := h_ds.mono fun _ _ _ _ => DeliverySuperseded.sameMail })
  | resolve _ _ h =>
    exact .inr (.inr { Rewrites.refl g with
      obligations := h.mono fun _ _ _ _ => Resolved.sameParties })
  | amend h =>
    exact .inr (.inr { Rewrites.refl g with obligations := h.mono fun _ _ _ _ => And.left })
  | remind h => exact .inr (.inr { Rewrites.refl g with })
  | attempt h => exact .inr (.inr { Rewrites.refl g with })

theorem Accepts.rewrites {id : OperationId} {inc : IncarnationId} (h : Accepts id inc g g') :
    Rewrites g g' where
  messages := h.messages
  obligations := h.obligations.mono fun o _ o' _ h_o => by
    rcases h_o with rfl | ⟨resolving, -, -, h_o⟩
    · exact .rfl
    · exact h_o.sameParties
  deliveries := h.deliveries.mono fun _ _ _ _ => DeliveryAccepted.sameMail
  operations := h.operations.mono fun _ _ _ _ => Succeeded.sameTask

theorem Answers.rewrites {ask : MessageId} {requester : LogicalAgentId}
    {disposition : ReplyDisposition} (h : Answers ask requester disposition g g') :
    Rewrites g g' where
  messages := h.messages
  obligations := h.obligations.mono fun _ _ _ _ => And.left
  deliveries := h.deliveries ▸ .refl (fun _ => .rfl) _
  operations := h.operations ▸ .refl (fun _ => .rfl) _

theorem rewrites_sweep {t : Table DeliveryRow.rowid} (h : g.deliveries.Edits g.AskSwept t) :
    Rewrites g { g with deliveries := t } :=
  { Rewrites.refl g with deliveries := h.mono fun _ _ _ _ => AskSwept.sameMail }

-- ============================================================================
-- Parties
-- ============================================================================

/-- The obligations stay, between the parties that they were between. -/
def Parties (g g' : Ledger) : Prop :=
  ∀ o ∈ g.obligations, ∃ o' ∈ g'.obligations, o.SameParties o'

instance Parties.stepwise : Tx.Stepwise Parties where
  refl _ o h_o := ⟨o, h_o, .rfl⟩
  trans h h' o h_o := by
    obtain ⟨o₂, h_o₂, h_same⟩ := h o h_o
    obtain ⟨o₃, h_o₃, h_same'⟩ := h' o₂ h_o₂
    exact ⟨o₃, h_o₃, h_same'.ask.trans h_same.ask, h_same'.owing.trans h_same.owing,
      h_same'.waiting.trans h_same.waiting⟩

theorem Rewrites.parties (h : Rewrites g g') : Parties g g' :=
  fun o h_o => h.obligations.image o h_o

theorem Posts.parties {p : Posting} (h : Posts p g g') : Parties g g' :=
  fun o h_o => ⟨o, (h.obligations.mem o).mpr (.inl h_o), .rfl⟩

theorem Effect.parties (h : Effect strict g g') : Parties g g' := by
  rcases h.cases with ⟨p, h_posts⟩ | ⟨o, t, -, -, rfl⟩ | h_rewrites
  · exact h_posts.parties
  · exact Parties.stepwise.refl g
  · exact h_rewrites.parties

theorem Path.parties (h : Path strict g g') : Parties g g' := by
  induction h with
  | refl => exact Parties.stepwise.refl g
  | tail _ h_effect ih => exact Parties.stepwise.trans ih h_effect.parties

-- ============================================================================
-- Mail
-- ============================================================================

/-- The deliveries stay, to the recipients that they were to. -/
def SameMails (g g' : Ledger) : Prop :=
  ∀ d ∈ g.deliveries, ∃ d' ∈ g'.deliveries, d.SameMail d'

instance SameMails.stepwise : Tx.Stepwise SameMails where
  refl _ d h_d := ⟨d, h_d, .rfl⟩
  trans h h' d h_d := by
    obtain ⟨d₂, h_d₂, h_same⟩ := h d h_d
    obtain ⟨d₃, h_d₃, h_same'⟩ := h' d₂ h_d₂
    exact ⟨d₃, h_d₃, h_same.trans h_same'⟩

theorem Rewrites.sameMails (h : Rewrites g g') : SameMails g g' :=
  fun d h_d => h.deliveries.image d h_d

theorem Posts.sameMails {p : Posting} (h : Posts p g g') : SameMails g g' :=
  fun d h_d => ⟨d, (h.deliveries.mem d).mpr (.inl h_d), .rfl⟩

theorem Effect.sameMails (h : Effect strict g g') : SameMails g g' := by
  rcases h.cases with ⟨p, h_posts⟩ | ⟨o, t, -, -, rfl⟩ | h_rewrites
  · exact h_posts.sameMails
  · exact SameMails.stepwise.refl g
  · exact h_rewrites.sameMails

theorem Path.sameMails (h : Path strict g g') : SameMails g g' := by
  induction h with
  | refl => exact SameMails.stepwise.refl g
  | tail _ h_effect ih => exact SameMails.stepwise.trans ih h_effect.sameMails

-- ============================================================================
-- Links
-- ============================================================================

/-- The references between the rows of a ledger. -/
structure Linked (g : Ledger) : Prop where
  message : ∀ d ∈ g.deliveries, ∃ m ∈ g.messages, m.id = d.messageId
  only : ∀ d ∈ g.deliveries, ∀ d' ∈ g.deliveries, d.messageId = d'.messageId → d = d'
  operation : ∀ d ∈ g.deliveries, ∀ id, d.operationId = some id →
    ∃ o ∈ g.operations, o.id = id ∧ o.kind = .prompt ∧
      d.recipientIncarnationId = some o.targetIncarnationId
  single : ∀ d ∈ g.deliveries, ∀ d' ∈ g.deliveries, ∀ id, d.operationId = some id →
    d'.operationId = some id → d = d'
  herdr : ∀ d ∈ g.deliveries, d.deliveryTransport = .herdrPrompt ↔ d.operationId.isSome
  reply : ∀ m ∈ g.messages, m.kind = .reply → ∃ o ∈ g.obligations,
    m.replyToMessageId = some o.askMessageId ∧ m.senderAgentId = some o.owingAgentId ∧
      m.recipientAgentId = o.waitingAgentId

theorem Linked.rewrites (h : Linked g) (h_re : Rewrites g g') : Linked g' where
  message d' h_d' := by
    obtain ⟨d, h_d, h_mail⟩ := h_re.deliveries.origin d' h_d'
    obtain ⟨m, h_m, h_id⟩ := h.message d h_d
    exact ⟨m, h_re.messages ▸ h_m, h_id.trans h_mail.message.symm⟩
  only d₁' h_d₁' d₂' h_d₂' h_message := by
    obtain ⟨d₁, h_d₁, h_mail₁⟩ := h_re.deliveries.origin d₁' h_d₁'
    obtain ⟨d₂, h_d₂, h_mail₂⟩ := h_re.deliveries.origin d₂' h_d₂'
    rw [h_mail₁.message, h_mail₂.message] at h_message
    obtain rfl := h.only d₁ h_d₁ d₂ h_d₂ h_message
    exact Table.eq_of_key h_d₁' h_d₂' (h_mail₁.rowid.trans h_mail₂.rowid.symm)
  operation d' h_d' id h_op := by
    obtain ⟨d, h_d, h_mail⟩ := h_re.deliveries.origin d' h_d'
    obtain ⟨o, h_o, h_id, h_kind, h_target⟩ := h.operation d h_d id (h_mail.operation ▸ h_op)
    obtain ⟨o', h_o', h_task⟩ := h_re.operations.image o h_o
    refine ⟨o', h_o', h_task.id.trans h_id, h_task.kind.trans h_kind, ?_⟩
    rw [h_mail.incarnation, h_task.target, h_target]
  single d₁' h_d₁' d₂' h_d₂' id h_op₁ h_op₂ := by
    obtain ⟨d₁, h_d₁, h_mail₁⟩ := h_re.deliveries.origin d₁' h_d₁'
    obtain ⟨d₂, h_d₂, h_mail₂⟩ := h_re.deliveries.origin d₂' h_d₂'
    obtain rfl := h.single d₁ h_d₁ d₂ h_d₂ id (h_mail₁.operation ▸ h_op₁)
      (h_mail₂.operation ▸ h_op₂)
    exact Table.eq_of_key h_d₁' h_d₂' (h_mail₁.rowid.trans h_mail₂.rowid.symm)
  herdr d' h_d' := by
    obtain ⟨d, h_d, h_mail⟩ := h_re.deliveries.origin d' h_d'
    rw [h_mail.transport, h_mail.operation]
    exact h.herdr d h_d
  reply m h_m h_kind := by
    obtain ⟨o, h_o, h_to, h_sender, h_recipient⟩ := h.reply m (h_re.messages ▸ h_m) h_kind
    obtain ⟨o', h_o', h_same⟩ := h_re.obligations.image o h_o
    refine ⟨o', h_o', ?_⟩
    rw [h_same.ask, h_same.owing, h_same.waiting]
    exact ⟨h_to, h_sender, h_recipient⟩

/-- A delivery of a posting is new, and so is what it refers to. -/
theorem Posts.notDelivered {p : Posting} (h_g : Linked g) (h : Posts p g g') {d : DeliveryRow}
    (h_d : d ∈ g.deliveries) : d.messageId ≠ p.message.id ∧
      ∀ o ∈ p.operation, d.operationId ≠ some o.id := by
  constructor
  · obtain ⟨m, h_m, h_id⟩ := h_g.message d h_d
    exact h_id ▸ h.messages.fresh p.message rfl m h_m
  · intro o h_o h_op
    obtain ⟨o', h_o', h_id, -⟩ := h_g.operation d h_d o.id h_op
    exact h.operations.fresh o h_o o' h_o' h_id

theorem Linked.posts {p : Posting} (h : Linked g) (h_posts : Posts p g g') : Linked g' where
  message d h_d := by
    rcases (h_posts.deliveries.mem d).mp h_d with h_old | h_new
    · obtain ⟨m, h_m, h_id⟩ := h.message d h_old
      exact ⟨m, (h_posts.messages.mem m).mpr (.inl h_m), h_id⟩
    · exact ⟨p.message, (h_posts.messages.mem _).mpr (.inr rfl),
        (h_posts.proper.delivery d h_new).1.symm⟩
  only d₁ h_d₁ d₂ h_d₂ h_message := by
    rcases (h_posts.deliveries.mem d₁).mp h_d₁ with h_old₁ | h_new₁ <;>
      rcases (h_posts.deliveries.mem d₂).mp h_d₂ with h_old₂ | h_new₂
    · exact h.only d₁ h_old₁ d₂ h_old₂ h_message
    · rw [(h_posts.proper.delivery d₂ h_new₂).1] at h_message
      exact absurd h_message (h_posts.notDelivered h h_old₁).1
    · rw [(h_posts.proper.delivery d₁ h_new₁).1] at h_message
      exact absurd h_message.symm (h_posts.notDelivered h h_old₂).1
    · exact Option.mem_unique h_new₁ h_new₂
  operation d h_d id h_op := by
    rcases (h_posts.deliveries.mem d).mp h_d with h_old | h_new
    · obtain ⟨o, h_o, h_rest⟩ := h.operation d h_old id h_op
      exact ⟨o, (h_posts.operations.mem o).mpr (.inl h_o), h_rest⟩
    · obtain ⟨h_id, -, h_target⟩ := h_posts.proper.herdr d h_new
      rw [h_id, Option.map_eq_some_iff] at h_op
      obtain ⟨o, h_o, rfl⟩ := h_op
      exact ⟨o, (h_posts.operations.mem o).mpr (.inr h_o), rfl,
        (h_posts.proper.operation o h_o).1, h_target o h_o⟩
  single d₁ h_d₁ d₂ h_d₂ id h_op₁ h_op₂ := by
    have h_new {d : DeliveryRow} (h_d : d ∈ p.delivery) (h_op : d.operationId = some id) :
        ∃ o ∈ p.operation, o.id = id := by
      rw [(h_posts.proper.herdr d h_d).1, Option.map_eq_some_iff] at h_op
      exact h_op
    rcases (h_posts.deliveries.mem d₁).mp h_d₁ with h_old₁ | h_new₁ <;>
      rcases (h_posts.deliveries.mem d₂).mp h_d₂ with h_old₂ | h_new₂
    · exact h.single d₁ h_old₁ d₂ h_old₂ id h_op₁ h_op₂
    · obtain ⟨o, h_o, rfl⟩ := h_new h_new₂ h_op₂
      exact absurd h_op₁ ((h_posts.notDelivered h h_old₁).2 o h_o)
    · obtain ⟨o, h_o, rfl⟩ := h_new h_new₁ h_op₁
      exact absurd h_op₂ ((h_posts.notDelivered h h_old₂).2 o h_o)
    · exact Option.mem_unique h_new₁ h_new₂
  herdr d h_d := by
    rcases (h_posts.deliveries.mem d).mp h_d with h_old | h_new
    · exact h.herdr d h_old
    · obtain ⟨h_id, h_herdr, -⟩ := h_posts.proper.herdr d h_new
      rw [h_id, Option.isSome_map]
      exact h_herdr
  reply m h_m h_kind := by
    have h_old {o : ObligationRow} (h_o : o ∈ g.obligations) : o ∈ g'.obligations :=
      (h_posts.obligations.mem o).mpr (.inl h_o)
    rcases (h_posts.messages.mem m).mp h_m with h_m | h_m
    · obtain ⟨o, h_o, h_rest⟩ := h.reply m h_m h_kind
      exact ⟨o, h_old h_o, h_rest⟩
    · obtain rfl := Option.mem_some.mp h_m
      obtain ⟨o, h_o, h_rest⟩ := h_posts.proper.reply h_kind
      exact ⟨o, h_old h_o, h_rest⟩

theorem Linked.operate {o : OperationRow} {t : Table OperationRow.id} (h : Linked g)
    (h_t : g.operations.Adds (some o) t) : Linked { g with operations := t } :=
  { h with
    operation := fun d h_d id h_op => by
      obtain ⟨o', h_o', h_rest⟩ := h.operation d h_d id h_op
      exact ⟨o', (h_t.mem o').mpr (.inl h_o'), h_rest⟩ }

theorem Linked.effect (h : Linked g) (h_effect : Effect strict g g') : Linked g' := by
  rcases h_effect.cases with ⟨p, h_posts⟩ | ⟨o, t, -, h_t, rfl⟩ | h_re
  · exact h.posts h_posts
  · exact h.operate h_t
  · exact h.rewrites h_re

theorem linked_empty : Linked Store.empty.ledger := by
  constructor <;> intro _ h <;> exact absurd h Table.notMem_empty

/-- The operation of a delivery is a prompt. -/
theorem Linked.isPrompt (h : Linked g) {d : DeliveryRow} {o : OperationRow}
    (h_d : d ∈ g.deliveries) (h_o : o ∈ g.operations) (h_op : d.operationId = some o.id) :
    o.kind = .prompt := by
  obtain ⟨o', h_o', h_id, h_kind, -⟩ := h.operation d h_d o.id h_op
  obtain rfl := Table.eq_of_key h_o' h_o h_id
  exact h_kind

-- ============================================================================
-- Accepted deliveries
-- ============================================================================

/-- The rows refer to each other, and the operation of an accepted delivery has come to its
    end. -/
structure Sound (g : Ledger) : Prop extends Linked g where
  closed : ∀ d ∈ g.deliveries, d.outcome = .accepted → ∀ o ∈ g.operations,
    d.operationId = some o.id → ¬ o.outcome.Live

/-- A moved delivery that is accepted now was so before, or is a row of a sink. -/
theorem Moved.accepted {d d' : DeliveryRow} (h : Moved d d') (h_d' : d'.outcome = .accepted) :
    d.outcome = .accepted ∨ d.deliveryTransport ≠ .herdrPrompt := by
  rcases h.2 with h_same | ⟨-, h_submitted⟩ | ⟨h_sink, -, -⟩
  · exact .inl (h_same ▸ h_d')
  · rw [h_submitted] at h_d'
    cases h_d'
  · exact .inr h_sink

theorem Sound.effect (h : Sound g) (h_effect : Effect strict g g') : Sound g' := by
  refine ⟨h.toLinked.effect h_effect, fun d' h_d' h_accepted o' h_o' h_op => ?_⟩
  cases h_effect with
  | post h_posts =>
    rcases (h_posts.deliveries.mem d').mp h_d' with h_d | h_d
    · rcases (h_posts.operations.mem o').mp h_o' with h_o | h_o
      · exact h.closed d' h_d h_accepted o' h_o h_op
      · exact absurd h_op ((h_posts.notDelivered h.toLinked h_d).2 o' h_o)
    · rcases (h_posts.proper.delivery d' h_d).2 with h_new | h_new <;> simp [h_new] at h_accepted
  | operate h_kind h_t =>
    rcases (h_t.mem o').mp h_o' with h_o | h_o
    · exact h.closed d' h_d' h_accepted o' h_o h_op
    · obtain ⟨o, h_o', h_id, -⟩ := h.operation d' h_d' o'.id h_op
      exact absurd h_id (h_t.fresh o' h_o o h_o')
  | conduct h_t =>
    obtain ⟨o, h_o, h_task, h_outcome⟩ := h_t.origin o' h_o'
    have h_end := h.closed d' h_d' h_accepted o h_o (h_task.id ▸ h_op)
    rcases h_outcome with h_same | ⟨h_live, -⟩
    · rwa [h_same]
    · exact absurd h_live h_end
  | deliver h_t =>
    obtain ⟨d, h_d, h_moved⟩ := h_t.origin d' h_d'
    rw [h_moved.1.operation] at h_op
    rcases h_moved.accepted h_accepted with h_acc | h_sink
    · exact h.closed d h_d h_acc o' h_o' h_op
    · exact absurd ((h.herdr d h_d).mpr (by simp [h_op])) h_sink
  | fail h_live h_outcome h_dropped h_os h_ds =>
    obtain ⟨d, h_d, h_drop⟩ := h_ds.origin d' h_d'
    obtain ⟨o, h_o, h_end⟩ := h_os.origin o' h_o'
    rcases h_end with ⟨h_id, rfl⟩ | ⟨-, -, -, h_ended⟩
    · -- Another operation: its deliveries are not dropped.
      rcases h_drop with ⟨-, rfl⟩ | ⟨h_op', h_mail, -⟩
      · exact h.closed d' h_d h_accepted o' h_o h_op
      · rw [h_mail.operation, h_op', Option.some_inj] at h_op
        exact absurd h_op.symm h_id
    · rwa [h_ended]
  | supersede _ h_os h_ds =>
    obtain ⟨d, h_d, h_drop⟩ := h_ds.origin d' h_d'
    obtain ⟨o, h_o, h_end⟩ := h_os.origin o' h_o'
    rcases h_drop with ⟨-, rfl⟩ | ⟨-, -, -, h_superseded⟩
    · rcases h_end with ⟨-, rfl⟩ | ⟨-, -, -, h_ended⟩
      · exact h.closed d' h_d h_accepted o' h_o h_op
      · rw [h_ended]
        decide
    · rw [h_superseded] at h_accepted
      cases h_accepted
  | resolve | amend | remind | attempt => exact h.closed d' h_d' h_accepted o' h_o' h_op

theorem Sound.accepts {id : OperationId} {inc : IncarnationId} (h : Sound g)
    (h_accepts : Accepts id inc g g') : Sound g' := by
  refine ⟨h.toLinked.rewrites h_accepts.rewrites, fun d' h_d' h_accepted o' h_o' h_op => ?_⟩
  obtain ⟨d, h_d, h_deliver⟩ := h_accepts.deliveries.origin d' h_d'
  obtain ⟨o, h_o, h_succeed⟩ := h_accepts.operations.origin o' h_o'
  rcases h_succeed with ⟨h_id, rfl⟩ | ⟨-, -, -, h_succeeded⟩
  · rcases h_deliver with ⟨-, rfl⟩ | ⟨h_op', -, -, h_mail, -⟩
    · exact h.closed d' h_d h_accepted o' h_o h_op
    · rw [h_mail.operation, h_op', Option.some_inj] at h_op
      exact absurd h_op.symm h_id
  · rw [h_succeeded]
    decide

theorem Sound.answers {ask : MessageId} {requester : LogicalAgentId}
    {disposition : ReplyDisposition} (h : Sound g)
    (h_answers : Answers ask requester disposition g g') : Sound g' := by
  refine ⟨h.toLinked.rewrites h_answers.rewrites, ?_⟩
  rw [h_answers.deliveries, h_answers.operations]
  exact h.closed

theorem Sound.sweep {t : Table DeliveryRow.rowid} (h : Sound g)
    (h_t : g.deliveries.Edits g.AskSwept t) : Sound { g with deliveries := t } := by
  refine ⟨h.toLinked.rewrites (rewrites_sweep h_t), fun d' h_d' h_accepted o h_o h_op => ?_⟩
  obtain ⟨d, h_d, h_swept⟩ := h_t.origin d' h_d'
  rcases h_swept with rfl | ⟨-, -, h_superseded, -⟩
  · exact h.closed d' h_d h_accepted o h_o h_op
  · rw [h_superseded] at h_accepted
    cases h_accepted

theorem sound_empty : Sound Store.empty.ledger :=
  ⟨linked_empty, fun _ h => absurd h Table.notMem_empty⟩

-- ============================================================================
-- Acceptance stays
-- ============================================================================

theorem Accepted.of_edits {e : DeliveryRow → DeliveryRow → Prop} {messageId : MessageId}
    (h : g.Accepted messageId) (h_edits : g.deliveries.Edits e g'.deliveries)
    (h_e : ∀ d ∈ g.deliveries, d.outcome = .accepted → ∀ d', e d d' →
      d.SameMail d' ∧ d'.outcome = .accepted) : g'.Accepted messageId := by
  obtain ⟨d, h_d, h_message, h_accepted⟩ := h
  obtain ⟨d', h_d', h_edit⟩ := h_edits.image d h_d
  obtain ⟨h_mail, h_accepted'⟩ := h_e d h_d h_accepted d' h_edit
  exact ⟨d', h_d', h_mail.message.trans h_message, h_accepted'⟩

theorem Accepted.effect {messageId : MessageId} (h_g : Sound g) (h : g.Accepted messageId)
    (h_effect : Effect strict g g') : g'.Accepted messageId := by
  cases h_effect with
  | post h_posts =>
    obtain ⟨d, h_d, h_rest⟩ := h
    exact ⟨d, (h_posts.deliveries.mem d).mpr (.inl h_d), h_rest⟩
  | deliver h_t =>
    refine h.of_edits h_t fun d _ h_accepted d' h_moved => ⟨h_moved.1, ?_⟩
    rcases h_moved.2 with h_same | ⟨h_unsent, -⟩ | ⟨-, h_queued, -⟩
    · exact h_same.trans h_accepted
    · rcases h_unsent with h | h <;> simp [h] at h_accepted
    · simp [h_queued] at h_accepted
  | fail h_live h_outcome h_dropped h_os h_ds =>
    refine h.of_edits h_ds fun d h_d h_accepted d' h_drop => ?_
    rcases h_drop with ⟨-, rfl⟩ | ⟨h_op, -, -⟩
    · exact ⟨.rfl, h_accepted⟩
    · -- The operation that fails is live, so it has no accepted delivery.
      obtain ⟨r, h_r, rfl, h_live⟩ := h_live
      exact absurd h_live (h_g.closed d h_d h_accepted r h_r h_op)
  | supersede _ h_os h_ds =>
    refine h.of_edits h_ds fun d _ h_accepted d' h_drop => ?_
    rcases h_drop with ⟨-, rfl⟩ | ⟨-, h_queued, -⟩
    · exact ⟨.rfl, h_accepted⟩
    · simp [h_queued] at h_accepted
  | operate | conduct | resolve | amend | remind | attempt => exact h

theorem Accepted.accepts {messageId : MessageId} {id : OperationId} {inc : IncarnationId}
    (h : g.Accepted messageId) (h_accepts : Accepts id inc g g') : g'.Accepted messageId := by
  refine h.of_edits h_accepts.deliveries fun d _ h_accepted d' h_deliver => ?_
  rcases h_deliver with ⟨-, rfl⟩ | ⟨-, -, h_submitted, -⟩
  · exact ⟨.rfl, h_accepted⟩
  · simp [h_submitted] at h_accepted

theorem Accepted.answers {messageId ask : MessageId} {requester : LogicalAgentId}
    {disposition : ReplyDisposition} (h : g.Accepted messageId)
    (h_answers : Answers ask requester disposition g g') : g'.Accepted messageId := by
  unfold Accepted
  rw [h_answers.deliveries]
  exact h

theorem Accepted.sweep {messageId : MessageId} {t : Table DeliveryRow.rowid}
    (h : g.Accepted messageId) (h_t : g.deliveries.Edits g.AskSwept t) :
    Accepted { g with deliveries := t } messageId := by
  refine h.of_edits h_t fun d _ h_accepted d' h_swept => ?_
  rcases h_swept with rfl | ⟨-, h_queued, -⟩
  · exact ⟨.rfl, h_accepted⟩
  · simp [h_queued] at h_accepted

/-- The acceptance of an operation accepts its delivery where that was submitted. -/
theorem Accepts.accepted {messageId : MessageId} {id : OperationId} {inc : IncarnationId}
    (h : Accepts id inc g g') {d : DeliveryRow} (h_d : d ∈ g.deliveries)
    (h_message : d.messageId = messageId) (h_op : d.operationId = some id)
    (h_inc : d.recipientIncarnationId = some inc) (h_submitted : d.outcome = .submitted) :
    g'.Accepted messageId := by
  obtain ⟨d', h_d', h_deliver⟩ := h.deliveries.image d h_d
  rcases h_deliver with ⟨h_not, -⟩ | ⟨-, -, -, h_mail, h_accepted⟩
  · exact absurd ⟨h_op, h_inc, h_submitted⟩ h_not
  · exact ⟨d', h_d', h_mail.message.trans h_message, h_accepted⟩

/-- An accepted message has no other delivery. -/
theorem Accepted.all (h_g : Linked g) {messageId : MessageId} (h : g.Accepted messageId) :
    ∀ d ∈ g.deliveries, d.messageId = messageId → d.outcome = .accepted := by
  intro d h_d h_message
  obtain ⟨d', h_d', h_message', h_accepted⟩ := h
  obtain rfl := h_g.only d h_d d' h_d' (h_message.trans h_message'.symm)
  exact h_accepted

end Ledger

theorem linked_invariant {p : Call → Store → Prop} : Ledger.Invariant False p Ledger.Linked where
  empty := Ledger.linked_empty
  effect h h_effect := h.effect h_effect
  accepts h _ h_accepts := h.rewrites h_accepts.rewrites
  answers h _ _ _ h_answers := h.rewrites h_answers.rewrites
  sweep h _ h_t := h.rewrites (Ledger.rewrites_sweep h_t)

theorem Call.parties (c : Call) {s s' : Store} (h : c.Step s s') :
    Ledger.Parties s.ledger s'.ledger := by
  have h_account : Account False s.ledger s'.ledger c := c.account h False.elim
  cases h_account with
  | path h_path => exact Ledger.Path.parties h_path
  | accept h_accepts => exact h_accepts.rewrites.parties
  | reply _ h_posts h_answers =>
    exact Ledger.Parties.stepwise.trans h_posts.parties h_answers.rewrites.parties
  | sweep h_g' h_t =>
    rw [h_g']
    exact (Ledger.rewrites_sweep h_t).parties

theorem Call.sameMails (c : Call) {s s' : Store} (h : c.Step s s') :
    Ledger.SameMails s.ledger s'.ledger := by
  have h_account : Account False s.ledger s'.ledger c := c.account h False.elim
  cases h_account with
  | path h_path => exact Ledger.Path.sameMails h_path
  | accept h_accepts => exact h_accepts.rewrites.sameMails
  | reply _ h_posts h_answers =>
    exact Ledger.SameMails.stepwise.trans h_posts.sameMails h_answers.rewrites.sameMails
  | sweep h_g' h_t =>
    rw [h_g']
    exact (Ledger.rewrites_sweep h_t).sameMails

/-- The message has a delivery, and every delivery it has is accepted. -/
def Store.DeliveryAccepted (s : Store) (messageId : MessageId) : Prop :=
  (∃ d ∈ s.deliveries.rows, d.messageId = messageId) ∧
    ∀ d ∈ s.deliveries.rows, d.messageId = messageId → d.outcome = .accepted

instance (s : Store) : DecidablePred s.DeliveryAccepted := fun messageId =>
  inferInstanceAs (Decidable ((∃ d ∈ s.deliveries.rows, d.messageId = messageId) ∧
    ∀ d ∈ s.deliveries.rows, d.messageId = messageId → d.outcome = .accepted))

theorem Ledger.Linked.deliveryAccepted_iff {s : Store} (h : Ledger.Linked s.ledger)
    {messageId : MessageId} : s.DeliveryAccepted messageId ↔ s.ledger.Accepted messageId := by
  constructor
  · rintro ⟨⟨d, h_d, h_message⟩, h_all⟩
    exact ⟨d, h_d, h_message, h_all d h_d h_message⟩
  · intro h_accepted
    refine ⟨?_, h_accepted.all h⟩
    obtain ⟨d, h_d, h_message, -⟩ := h_accepted
    exact ⟨d, h_d, h_message⟩

end Kelpie
