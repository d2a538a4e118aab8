/-
  Kelpie.Ledger.Effects

  The mail ledger: messages with their obligations, deliveries, operations and
  reminders, and the effects that may change it.

  An effect says which rows may change and how, with the guard under which it
  happens; it does not say which call brings it about.  The calls of the store
  that the claims of acceptance, settlement and arming turn on (an accepted
  delivery, a recorded reply, the sweep of settled asks) have relations of their
  own; every other call is a path of effects.
-/

import Mathlib.Logic.Relation
import Kelpie.Store.Schema

namespace Kelpie

open Lib

-- ============================================================================
-- Rows that stay themselves
-- ============================================================================

/-- The same operation: only its outcome and its times differ. -/
structure OperationRow.SameTask (r r' : OperationRow) : Prop where
  id : r'.id = r.id
  kind : r'.kind = r.kind
  target : r'.targetIncarnationId = r.targetIncarnationId

theorem OperationRow.SameTask.rfl {r : OperationRow} : r.SameTask r := ⟨.refl _, .refl _, .refl _⟩

/-- The same delivery: only its outcome, its times and its evidence differ. -/
structure DeliveryRow.SameMail (d d' : DeliveryRow) : Prop where
  rowid : d'.rowid = d.rowid
  message : d'.messageId = d.messageId
  transport : d'.deliveryTransport = d.deliveryTransport
  incarnation : d'.recipientIncarnationId = d.recipientIncarnationId
  agent : d'.recipientAgentId = d.recipientAgentId
  operation : d'.operationId = d.operationId

theorem DeliveryRow.SameMail.rfl {d : DeliveryRow} : d.SameMail d :=
  ⟨.refl _, .refl _, .refl _, .refl _, .refl _, .refl _⟩

theorem DeliveryRow.SameMail.trans {d d' d'' : DeliveryRow} (h : d.SameMail d')
    (h' : d'.SameMail d'') : d.SameMail d'' where
  rowid := h'.rowid.trans h.rowid
  message := h'.message.trans h.message
  transport := h'.transport.trans h.transport
  incarnation := h'.incarnation.trans h.incarnation
  agent := h'.agent.trans h.agent
  operation := h'.operation.trans h.operation

/-- The same obligation between the same parties. -/
structure ObligationRow.SameParties (o o' : ObligationRow) : Prop where
  ask : o'.askMessageId = o.askMessageId
  owing : o'.owingAgentId = o.owingAgentId
  waiting : o'.waitingAgentId = o.waitingAgentId

theorem ObligationRow.SameParties.rfl {o : ObligationRow} : o.SameParties o :=
  ⟨.refl _, .refl _, .refl _⟩

/-- A reminder with a due time. -/
def ObligationReminderRow.Armed (r : ObligationReminderRow) : Prop := r.nextDueAtMs.isSome

-- ============================================================================
-- The ledger
-- ============================================================================

/-- The tables that record mail and what is owed for it. -/
structure Ledger where
  messages : Table MessageRow.id
  obligations : Table ObligationRow.askMessageId
  deliveries : Table DeliveryRow.rowid
  operations : Table OperationRow.id
  reminders : Table ObligationReminderRow.askMessageId
  attempts : Table ReminderAttemptRow.id

/-- The ledger of a store. -/
def Store.ledger (s : Store) : Ledger where
  messages := s.messages
  obligations := s.obligations
  deliveries := s.deliveries
  operations := s.operations
  reminders := s.obligationReminders
  attempts := s.reminderAttempts

namespace Ledger

/-- A delivery of the message whose outcome is `accepted`. -/
def Accepted (g : Ledger) (messageId : MessageId) : Prop :=
  ∃ d ∈ g.deliveries, d.messageId = messageId ∧ d.outcome = .accepted

/-- The operation delivers the message. -/
def Carries (g : Ledger) (operationId : OperationId) (messageId : MessageId) : Prop :=
  ∃ d ∈ g.deliveries, d.operationId = some operationId ∧ d.messageId = messageId

/-- A recorded final reply to the ask. -/
def Final (g : Ledger) (messageId askMessageId : MessageId) : Prop :=
  ∃ m ∈ g.messages, m.id = messageId ∧ m.kind = .reply ∧ m.disposition = some .final ∧
    m.replyToMessageId = some askMessageId

/-- The reminder of the ask is armed. -/
def ReminderArmed (g : Ledger) (askMessageId : MessageId) : Prop :=
  ∃ r ∈ g.reminders, r.askMessageId = askMessageId ∧ r.Armed

-- ============================================================================
-- Posting
-- ============================================================================

/-- One new message with everything that is recorded along with it. -/
structure Posting where
  message : MessageRow
  obligation : Option ObligationRow := none
  reminder : Option ObligationReminderRow := none
  operation : Option OperationRow := none
  delivery : Option DeliveryRow := none

/-- The parts of a posting belong to its message, and nothing of it has been sent. -/
structure Posting.Proper (p : Posting) (g : Ledger) : Prop where
  reply : p.message.kind = .reply → ∃ o ∈ g.obligations,
    p.message.replyToMessageId = some o.askMessageId ∧
      p.message.senderAgentId = some o.owingAgentId ∧
      p.message.recipientAgentId = o.waitingAgentId
  obligation : ∀ o ∈ p.obligation, o.askMessageId = p.message.id ∧ p.message.kind = .ask ∧
    o.state = .open ∧ o.resolvingMessageId = none
  reminder : ∀ r ∈ p.reminder, r.askMessageId = p.message.id ∧ p.message.kind = .ask ∧
    r.nextDueAtMs = none
  operation : ∀ o ∈ p.operation, o.kind = .prompt ∧ o.outcome = .pending
  delivery : ∀ d ∈ p.delivery, d.messageId = p.message.id ∧
    (d.outcome = .pending ∨ d.outcome = .queued)
  -- A Herdr delivery is the one that has an operation, of the incarnation it goes to.
  herdr : ∀ d ∈ p.delivery, d.operationId = p.operation.map (·.id) ∧
    (d.deliveryTransport = .herdrPrompt ↔ p.operation.isSome) ∧
    ∀ o ∈ p.operation, d.recipientIncarnationId = some o.targetIncarnationId

/-- `g'` is `g` with the posting `p`. -/
structure Posts (p : Posting) (g g' : Ledger) : Prop where
  proper : p.Proper g
  messages : g.messages.Adds (some p.message) g'.messages
  obligations : g.obligations.Adds p.obligation g'.obligations
  reminders : g.reminders.Adds p.reminder g'.reminders
  operations : g.operations.Adds p.operation g'.operations
  deliveries : g.deliveries.Adds p.delivery g'.deliveries
  attempts : g'.attempts = g.attempts

-- ============================================================================
-- Edits
-- ============================================================================

/-- An operation comes closer to its end, or stays; under `strict` only one that delivers
    no message. -/
def Conducted (strict : Prop) (r r' : OperationRow) : Prop :=
  r.SameTask r' ∧ (r'.outcome = r.outcome ∨ r.outcome.Live ∧ (strict → r.kind ≠ .prompt))

/-- A delivery is submitted, rescheduled, or read by the recipient of a sink. -/
def Moved (d d' : DeliveryRow) : Prop :=
  d.SameMail d' ∧ (d'.outcome = d.outcome ∨
    ((d.outcome = .pending ∨ d.outcome = .queued) ∧ d'.outcome = .submitted) ∨
    (d.deliveryTransport ≠ .herdrPrompt ∧ d.outcome = .queued ∧
      (d'.outcome = .accepted ∨ d'.outcome = .targetUnavailable)))

/-- The operation `id` ends with `outcome`. -/
def Ended (id : OperationId) (outcome : OperationOutcome) (r r' : OperationRow) : Prop :=
  (r.id ≠ id ∧ r' = r) ∨ (r.id = id ∧ r.outcome.Live ∧ r.SameTask r' ∧ r'.outcome = outcome)

/-- The deliveries of the operation `id` that have not ended do so with `outcome`. -/
def Dropped (id : OperationId) (outcome : DeliveryOutcome) (d d' : DeliveryRow) : Prop :=
  (d.operationId ≠ some id ∧ d' = d) ∨
    (d.operationId = some id ∧ d.SameMail d' ∧
      (d'.outcome = outcome ∨ (¬ d.outcome.Live ∧ d'.outcome = d.outcome)))

/-- The pending operation `id` is superseded. -/
def OperationSuperseded (id : OperationId) (r r' : OperationRow) : Prop :=
  (¬ (r.id = id ∧ r.outcome = .pending) ∧ r' = r) ∨
    (r.id = id ∧ r.outcome = .pending ∧ r.SameTask r' ∧ r'.outcome = .superseded)

/-- The queued deliveries of the operation `id` are superseded. -/
def DeliverySuperseded (id : OperationId) (d d' : DeliveryRow) : Prop :=
  (¬ (d.operationId = some id ∧ d.outcome = .queued) ∧ d' = d) ∨
    (d.operationId = some id ∧ d.outcome = .queued ∧ d.SameMail d' ∧
      d'.outcome = .superseded)

/-- The unresolved obligation of `ask` is resolved by the message `resolving`. -/
def Resolved (ask resolving : MessageId) (o o' : ObligationRow) : Prop :=
  o' = o ∨ (o.askMessageId = ask ∧ o.state.Unresolved ∧ o.SameParties o' ∧
    o'.state = .resolved ∧ o'.resolvingMessageId = some resolving)

/-- An obligation is annotated, or closed without a reply while it is unresolved. -/
def Amended (o o' : ObligationRow) : Prop :=
  o.SameParties o' ∧ o'.resolvingMessageId = o.resolvingMessageId ∧
    (o'.state = o.state ∨
      (o.state.Unresolved ∧ (o'.state = .cancelled ∨ o'.state = .orphaned)))

/-- A reminder changes, and is armed by it only where an attempt was made of it. -/
def Reminded (g : Ledger) (r r' : ObligationReminderRow) : Prop :=
  r'.askMessageId = r.askMessageId ∧ (r.Armed → r'.Armed) ∧
    (r'.Armed → r.Armed ∨ ∃ a ∈ g.attempts, a.askMessageId = r.askMessageId)

-- ============================================================================
-- Effects
-- ============================================================================

/-- One change of the ledger that keeps to its rules.  Under `strict` the operations of
    launches, adoptions, clears and retirements are kept apart from the prompts. -/
inductive Effect (strict : Prop) (g : Ledger) : Ledger → Prop where
  | post {p : Posting} {g' : Ledger} (h : Posts p g g') : Effect strict g g'
  | operate {o : OperationRow} {t : Table OperationRow.id} (h_kind : o.kind ≠ .prompt)
      (h : g.operations.Adds (some o) t) : Effect strict g { g with operations := t }
  | conduct {t : Table OperationRow.id} (h : g.operations.Edits (Conducted strict) t) :
      Effect strict g { g with operations := t }
  | deliver {t : Table DeliveryRow.rowid} (h : g.deliveries.Edits Moved t) :
      Effect strict g { g with deliveries := t }
  | fail {id : OperationId} {outcome : OperationOutcome} {dropped : DeliveryOutcome}
      {os : Table OperationRow.id} {ds : Table DeliveryRow.rowid}
      (h_live : ∃ r ∈ g.operations, r.id = id ∧ r.outcome.Live)
      (h_outcome : ¬ outcome.Live) (h_dropped : strict → ¬ dropped.Live)
      (h_os : g.operations.Edits (Ended id outcome) os)
      (h_ds : g.deliveries.Edits (Dropped id dropped) ds) :
      Effect strict g { g with operations := os, deliveries := ds }
  | supersede {id : OperationId} {os : Table OperationRow.id} {ds : Table DeliveryRow.rowid}
      (h_queued : ∃ d ∈ g.deliveries, d.operationId = some id ∧ d.outcome = .queued)
      (h_os : g.operations.Edits (OperationSuperseded id) os)
      (h_ds : g.deliveries.Edits (DeliverySuperseded id) ds) :
      Effect strict g { g with operations := os, deliveries := ds }
  | resolve {ask resolving : MessageId} {t : Table ObligationRow.askMessageId}
      (h_final : g.Final resolving ask) (h_accepted : g.Accepted resolving)
      (h : g.obligations.Edits (Resolved ask resolving) t) :
      Effect strict g { g with obligations := t }
  | amend {t : Table ObligationRow.askMessageId} (h : g.obligations.Edits Amended t) :
      Effect strict g { g with obligations := t }
  | remind {t : Table ObligationReminderRow.askMessageId}
      (h : g.reminders.Edits g.Reminded t) : Effect strict g { g with reminders := t }
  | attempt {t : Table ReminderAttemptRow.id}
      (h : ∀ a ∈ t, (∃ a' ∈ g.attempts, a'.askMessageId = a.askMessageId) ∨
        g.ReminderArmed a.askMessageId) : Effect strict g { g with attempts := t }

/-- Any number of effects. -/
abbrev Path (strict : Prop) : Ledger → Ledger → Prop :=
  Relation.ReflTransGen (Effect strict)

-- ============================================================================
-- Acceptances, replies and the sweep of settled asks
-- ============================================================================

/-- The pending operation `id` succeeds. -/
def Succeeded (id : OperationId) (r r' : OperationRow) : Prop :=
  (r.id ≠ id ∧ r' = r) ∨
    (r.id = id ∧ r.outcome = .pending ∧ r.SameTask r' ∧ r'.outcome = .succeeded)

/-- The submitted delivery of `id` into the incarnation is accepted. -/
def DeliveryAccepted (id : OperationId) (incarnation : IncarnationId) (d d' : DeliveryRow) :
    Prop :=
  (¬ (d.operationId = some id ∧ d.recipientIncarnationId = some incarnation ∧
      d.outcome = .submitted) ∧ d' = d) ∨
    (d.operationId = some id ∧ d.recipientIncarnationId = some incarnation ∧
      d.outcome = .submitted ∧ d.SameMail d' ∧ d'.outcome = .accepted)

/-- An enabled reminder of an ask that the operation delivers is armed. -/
def Arms (g : Ledger) (id : OperationId) (r r' : ObligationReminderRow) : Prop :=
  r' = r ∨ (r'.askMessageId = r.askMessageId ∧ r'.Armed ∧ r.disabledAtMs = none ∧
    r.suspendedAtMs = none ∧ g.Carries id r.askMessageId)

/-- Herdr accepted the operation `id` for the incarnation: its ask is armed and the final
    reply among its messages resolves, whatever became of the delivery. -/
structure Accepts (id : OperationId) (incarnation : IncarnationId) (g g' : Ledger) : Prop where
  operation : ∃ r ∈ g.operations, r.id = id ∧ r.targetIncarnationId = incarnation ∧
    r.outcome = .pending
  operations : g.operations.Edits (Succeeded id) g'.operations
  deliveries : g.deliveries.Edits (DeliveryAccepted id incarnation) g'.deliveries
  reminders : g.reminders.Edits (g.Arms id) g'.reminders
  obligations : g.obligations.Edits (fun o o' => o' = o ∨ ∃ resolving,
    g.Final resolving o.askMessageId ∧ g.Carries id resolving ∧
      Resolved o.askMessageId resolving o o') g'.obligations
  messages : g'.messages = g.messages
  attempts : g'.attempts = g.attempts

/-- A progress reply to `ask` moves its obligation to `in_progress`. -/
def Answered (ask : MessageId) (disposition : ReplyDisposition) (o o' : ObligationRow) : Prop :=
  o.SameParties o' ∧ o'.resolvingMessageId = o.resolvingMessageId ∧ (o'.state = o.state ∨
    (o.askMessageId = ask ∧ disposition = .progress ∧ o'.state = .inProgress))

/-- The enabled reminder of `ask` is armed anew. -/
def Refreshed (ask : MessageId) (r r' : ObligationReminderRow) : Prop :=
  r' = r ∨ (r.askMessageId = ask ∧ r'.askMessageId = ask ∧ r.disabledAtMs = none ∧
    r.suspendedAtMs = none ∧ r'.Armed)

/-- A reply of `requester` to `ask` is recorded: activity on the obligation it owes and on
    its reminder. -/
structure Answers (ask : MessageId) (requester : LogicalAgentId)
    (disposition : ReplyDisposition) (g g' : Ledger) : Prop where
  owed : ∃ o ∈ g.obligations, o.askMessageId = ask ∧ o.owingAgentId = requester ∧
    o.state.Unresolved
  obligations : g.obligations.Edits (Answered ask disposition) g'.obligations
  reminders : g.reminders.Edits (Refreshed ask) g'.reminders
  messages : g'.messages = g.messages
  deliveries : g'.deliveries = g.deliveries
  operations : g'.operations = g.operations
  attempts : g'.attempts = g.attempts

/-- The queued delivery of a settled ask is superseded, and its operation is not. -/
def AskSwept (g : Ledger) (d d' : DeliveryRow) : Prop :=
  d' = d ∨ (d.SameMail d' ∧ d.outcome = .queued ∧ d'.outcome = .superseded ∧
    ∃ o ∈ g.obligations, o.askMessageId = d.messageId ∧ ¬ o.state.Unresolved)

end Ledger

end Kelpie
