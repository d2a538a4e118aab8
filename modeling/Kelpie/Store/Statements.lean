/-
  Kelpie.Store.Statements

  Inserts and reads that several transactions share: fresh rows with the checks
  the schema makes on them, the receive path of an agent, and the refusals that
  guard the public names.
-/

import Mathlib.Data.List.Sort
import Kelpie.Store.Schema

namespace Kelpie

open Lib Lib.Tx

-- ============================================================================
-- Inserts
-- ============================================================================

/-- `map_constraint`: a reused key, as the client is told. -/
def idempotencyKeyExists : StoreError := .conflict "idempotency key already exists"

/-- A new agent, of a parent that exists. -/
def insertLogicalAgent (now : Millis) (name : String) (parent : Parent)
    (deliveryTransport : DeliveryTransport) : StoreTx LogicalAgentId := do
  let agents ← reads (·.logicalAgents)
  require (∀ id ∈ parent.id?, (agents.find id).isSome) (.sql .constraint)
  appendRow Tab.logicalAgents fun id =>
    { id, publicName := name, parent, createdAtMs := now, deliveryTransport }

/-- `INSERT INTO incarnations`, with the trigger that clears an archive mark. -/
def insertIncarnation (row : IncarnationId → IncarnationRow) (h : ∀ n, (row n).id = n := by
    intro _; rfl) : StoreTx IncarnationId := do
  let id ← appendRow Tab.incarnations row h
  let _ ← updateRows Tab.logicalAgents
    (fun l => l.id = (row id).logicalAgentId ∧ l.archivedAtMs.isSome)
    (fun l => { l with archivedAtMs := none })
  return id

/-- The rows under the partial unique index `operations_live_idempotency_key`. -/
def OperationRow.HoldsKey (o : OperationRow) (key : String) : Prop :=
  o.idempotencyKey = key ∧ (o.kind ≠ .prompt ∨ o.outcome ≠ .failed)

instance (key : String) : DecidablePred fun o : OperationRow => o.HoldsKey key :=
  fun o => inferInstanceAs
    (Decidable (o.idempotencyKey = key ∧ (o.kind ≠ .prompt ∨ o.outcome ≠ .failed)))

/-- A new operation, unless another holds the key; a failed prompt gives its key up. -/
def insertOperation (now : Millis) (idempotencyKey : String) (kind : OperationKind)
    (targetIncarnationId : IncarnationId) (intent : OperationIntent)
    (outcome : OperationOutcome) (onReuse : StoreError)
    (resolvedAtMs : Option Millis := none) : StoreTx OperationId := do
  let held ← reads (·.operations.count (·.HoldsKey idempotencyKey))
  require (held = 0) onReuse
  appendRow Tab.operations fun id =>
    { id, idempotencyKey, kind, targetIncarnationId, intent, createdAtMs := now,
      resolvedAtMs, outcome }

/-- `INSERT INTO messages`, with its foreign keys. -/
def insertMessage (now : Millis) (sender : Option LogicalAgentId)
    (recipient : LogicalAgentId) (kind : MessageKind) (body : String)
    (reply : Option (MessageId × ReplyDisposition) := none) : StoreTx MessageId := do
  let agents ← reads (·.logicalAgents)
  require (∀ id ∈ sender, (agents.find id).isSome) (.sql .constraint)
  require ((agents.find recipient).isSome) (.sql .constraint)
  let messages ← reads (·.messages)
  require (∀ r ∈ reply, (messages.find r.1).isSome) (.sql .constraint)
  appendRow Tab.messages fun id =>
    { id, senderAgentId := sender, recipientAgentId := recipient, kind, body,
      createdAtMs := now, replyToMessageId := reply.map Prod.fst,
      disposition := reply.map Prod.snd, createsObligation := kind = .ask }

/-- `next_obligation_sequence`. -/
def Store.nextObligationSequence (s : Store) : Nat :=
  (s.obligations.rows.map (·.creationSequence)).foldr max 0 + 1

/-- The obligation of a new ask, next in the order of creation. -/
def insertObligation (now : Millis) (askMessageId : MessageId)
    (owingAgentId waitingAgentId : LogicalAgentId) (replyDelivery : ReplyDelivery) :
    StoreTx Unit := do
  let creationSequence ← reads (·.nextObligationSequence)
  insertRow Tab.obligations
    { askMessageId, owingAgentId, waitingAgentId, creationSequence, createdAtMs := now,
      lastActivityAtMs := now, state := .open, replyDelivery }
    (.sql .constraint)

/-- The reminder of a new ask, not armed yet. -/
def insertReminder (askMessageId : MessageId) (intervalMs : Millis) : StoreTx Unit := do
  require (0 < intervalMs) (.sql .constraint)
  insertRow Tab.obligationReminders { askMessageId, intervalMs } (.sql .constraint)

/-- A `herdr_prompt` delivery row of one operation. -/
def insertHerdrDelivery (messageId : MessageId) (recipientIncarnationId : IncarnationId)
    (scheduledAtMs : Millis) (outcome : DeliveryOutcome) (operationId : OperationId) :
    StoreTx Unit := do
  let _ ← appendRow Tab.deliveries fun rowid =>
    { rowid, messageId, deliveryTransport := .herdrPrompt,
      recipientIncarnationId := some recipientIncarnationId, scheduledAtMs, outcome,
      operationId := some operationId }

/-- A queued row of a sink that the recipient reads for itself: its socket inbox
    or the pull log of one ask. -/
def queueSinkDelivery (transport : DeliveryTransport) (messageId : MessageId)
    (recipientAgentId : LogicalAgentId) (scheduledAtMs : Millis) : StoreTx Unit := do
  let _ ← appendRow Tab.deliveries fun rowid =>
    { rowid, messageId, deliveryTransport := transport,
      recipientAgentId := some recipientAgentId, scheduledAtMs, outcome := .queued }

/-- Queue a message to the inbox of a socket waiter. -/
def queueSocketInboxDeliveryAt (messageId : MessageId) (recipientAgentId : LogicalAgentId)
    (scheduledAtMs : Millis) : StoreTx Unit :=
  queueSinkDelivery .socketInbox messageId recipientAgentId scheduledAtMs

/-- Queue a reply to be polled. -/
def queueAskPullDelivery (messageId : MessageId) (recipientAgentId : LogicalAgentId)
    (now : Millis) : StoreTx Unit :=
  queueSinkDelivery .askPull messageId recipientAgentId now

/-- A new notice to the operator. -/
def insertOperatorNotice (now : Millis) (body : String) : StoreTx OperatorNoticeId :=
  appendRow Tab.operatorNotices fun id => { id, body, createdAtMs := now }

-- ============================================================================
-- Attempts
-- ============================================================================

/-- `MAX(attempt_number)` of one operation, `0` before its first attempt. -/
def Store.lastAttempt (s : Store) (operationId : OperationId) : Nat :=
  ((s.operationAttempts.rows.filter (·.operationId = operationId)).map
    (·.attemptNumber)).foldr max 0

/-- Change the newest attempt of one operation; answer whether there was one. -/
def updateLastAttempt (operationId : OperationId)
    (f : OperationAttemptRow → OperationAttemptRow)
    (h : ∀ r, (f r).key = r.key := by intro _; rfl) : StoreTx Nat := do
  let last ← reads (·.lastAttempt operationId)
  updateRows Tab.operationAttempts
    (fun a => a.operationId = operationId ∧ a.attemptNumber = last) f h

-- ============================================================================
-- Receive paths
-- ============================================================================

/-- What `waiter_identity` reads of an agent. -/
structure WaiterIdentity where
  transport : DeliveryTransport
  ended : Bool
deriving DecidableEq, Repr

/-- How an agent that waits for an answer is reached, and whether it has ended. -/
def waiterIdentity (logicalAgentId : LogicalAgentId) : Query WaiterIdentity := fun s =>
  match s.logicalAgents.find logicalAgentId with
  | none => .error (.conflict s!"waiting agent {logicalAgentId} is absent")
  | some l => .ok
    { transport := l.deliveryTransport,
      ended := l.deliveryTransport = .socketInbox ∧ l.targetingEndedAtMs.isSome }

/-- A socket waiter that still is a delivery target. -/
def LogicalAgentRow.ActiveWaiter (l : LogicalAgentRow) : Prop :=
  l.deliveryTransport = .socketInbox ∧ l.targetingEndedAtMs = none

instance : DecidablePred LogicalAgentRow.ActiveWaiter := fun l =>
  inferInstanceAs
    (Decidable (l.deliveryTransport = .socketInbox ∧ l.targetingEndedAtMs = none))

/-- The agent is a socket waiter that has not ended. -/
def requireActiveSocketWaiter (logicalAgentId : LogicalAgentId) : Query Unit := fun s =>
  match s.logicalAgents.find logicalAgentId with
  | none => .error (.conflict s!"socket waiter {logicalAgentId} is absent")
  | some l =>
    if l.ActiveWaiter then .ok ()
    else .error
      (.conflict s!"logical agent {logicalAgentId} is not an active socket waiter")

/-- The Ready incarnations of one agent, oldest first. -/
def Store.readyIncarnations (s : Store) (logicalAgentId : LogicalAgentId) :
    List IncarnationId :=
  ((s.incarnations.rows.filter fun i =>
    i.logicalAgentId = logicalAgentId ∧ i.state = .ready).insertionSort
      (fun a b => a.createdAtMs ≤ b.createdAtMs)).map (·.id)

/-- The one Ready incarnation of an agent that waits for an answer. -/
def readyIncarnationForAgent (logicalAgentId : LogicalAgentId) : Query IncarnationId :=
  fun s => match s.readyIncarnations logicalAgentId with
  | [incarnationId] => .ok incarnationId
  | [] => .error (.conflict s!"no ready incarnation for waiting agent {logicalAgentId}")
  | _ => .error (.conflict
      s!"ambiguous ready incarnation for waiting agent {logicalAgentId}")

/-- The Ready incarnation of an agent, if it has exactly one; two are a conflict. -/
def optionalReadyIncarnation (logicalAgentId : LogicalAgentId) (conflict : String) :
    Query (Option IncarnationId) :=
  fun s => match s.readyIncarnations logicalAgentId with
  | [incarnationId] => .ok (some incarnationId)
  | [] => .ok none
  | _ => .error (.conflict conflict)

/-- How the answer to the ask is delivered. -/
def obligationReplyDelivery (askMessageId : MessageId) : Query ReplyDelivery := fun s =>
  match s.obligations.find askMessageId with
  | none => .error (.conflict "obligation is absent")
  | some o => .ok o.replyDelivery

-- ============================================================================
-- Names and keys
-- ============================================================================

/-- No active socket waiter has the name. -/
def refuseNameHeldBySocketWaiter (name : String) : Query Unit := fun s =>
  match s.logicalAgents.rows.find? (fun l => l.publicName = name ∧ l.ActiveWaiter) with
  | some l => .error (.conflict s!"socket waiter {l.id} already holds public name {name}")
  | none => .ok ()

/-- The agent is no socket waiter, which has no pane. -/
def refusePaneBindOfSocketInbox (logicalAgentId : LogicalAgentId) : Query Unit := fun s =>
  if ∃ l ∈ s.logicalAgents.find logicalAgentId, l.deliveryTransport = .socketInbox then
    .error (.conflict
      s!"cannot bind a pane to socket-inbox logical agent {logicalAgentId}")
  else .ok ()

/-- The agent's current public name. -/
def Store.publicName (s : Store) (logicalAgentId : LogicalAgentId) : Option String :=
  (s.logicalAgents.find logicalAgentId).map (·.publicName)

/-- No incarnation that starts or is Ready has the name, and none is about to take it. -/
def refuseLiveOrPendingAlias (name : String) : Query Unit := fun s =>
  match s.incarnations.rows.find? (fun i =>
      s.publicName i.logicalAgentId = some name ∧ (i.state = .starting ∨ i.state = .ready)) with
  | some i => .error (.conflict s!"alias {name} is already bound to incarnation {i.id}")
  | none =>
    match s.incarnations.rows.find? (fun i =>
        i.pendingRenameTo = some name ∧ i.state = .ready) with
    | some i => .error (.conflict
        s!"alias {name} is already a pending rename target for incarnation {i.id}")
    | none => .ok ()

/-- `idempotency_conflict`. -/
def idempotencyConflict (key : String) (operationId : OperationId)
    (outcome : OperationOutcome) : StoreError :=
  .conflict (s!"idempotency key {key} belongs to prior operation {operationId} with outcome " ++
    s!"{outcome.name}; refusing retry")

/-- The operations under one key, the one that answers for it first:
    `ORDER BY (kind != 'prompt' OR outcome != 'failed') DESC, created_at_ms DESC, id DESC`. -/
def Store.operationsByKey (s : Store) (key : String) : List OperationRow :=
  (s.operations.rows.filter (·.idempotencyKey = key)).insertionSort fun a b =>
    if a.HoldsKey key ↔ b.HoldsKey key then
      b.createdAtMs < a.createdAtMs ∨ (a.createdAtMs = b.createdAtMs ∧ b.id ≤ a.id)
    else a.HoldsKey key

/-- No operation was ever recorded under the key. -/
def refuseReusedNonPromptIdempotencyKey (key : String) : Query Unit := fun s =>
  match s.operationsByKey key with
  | o :: _ => .error (idempotencyConflict key o.id o.outcome)
  | [] => .ok ()

end Kelpie
