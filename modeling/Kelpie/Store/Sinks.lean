/-
  Kelpie.Store.Sinks

  The sinks that a recipient reads for itself: the inboxes of pane-less socket
  waiters and the pull logs of single asks.
-/

import Kelpie.Store.Messaging

namespace Kelpie

open Lib Lib.Tx

-- ============================================================================
-- Socket waiters
-- ============================================================================

/-- `valid_herdr_name`: a lowercase letter, then lowercase letters, digits, `-` and `_`,
    32 characters at most. -/
def validHerdrName (name : String) : Bool :=
  match name.toList with
  | [] => false
  | first :: rest => first.isLower && rest.length < 32 &&
      rest.all fun c => c.isLower || c.isDigit || c = '-' || c = '_'

/-- The replay of `waiter.register` under a key bound to `l`. -/
def replaySocketWaiter (l : LogicalAgentRow) (publicName : String) (parent : Parent) :
    Except StoreError LogicalAgentId :=
  if l.targetingEndedAtMs.isSome then
    .error (.conflict "waiter.register idempotency key is bound to an ended waiter")
  else if l.publicName ≠ publicName ∨ l.parent ≠ parent then
    .error (.conflict
      "waiter.register idempotency key already bound to a different waiter")
  else .ok l.id

/-- Register a pane-less logical agent as a socket-inbox waiter. -/
def registerSocketWaiter (now : Millis) (publicName : String) (parent : Parent)
    (idempotencyKey : String) : StoreTx LogicalAgentId := do
  require (validHerdrName publicName = true)
    (.invalidRecord s!"{publicName} is not a legal Herdr agent name")
  let s ← reads id
  match (s.socketWaiterKeys.find idempotencyKey).bind
      fun k => s.logicalAgents.find k.logicalAgentId with
  | some l => query fun _ => replaySocketWaiter l publicName parent
  | none => do
    query (refuseNameHeldBySocketWaiter publicName)
    query (refuseLiveOrPendingAlias publicName)
    require (∀ id ∈ parent.id?, (s.logicalAgents.find id).isSome)
      (.conflict "parent logical agent does not exist")
    let logicalAgentId ← insertLogicalAgent now publicName parent .socketInbox
    insertRow Tab.socketWaiterKeys { idempotencyKey, logicalAgentId } idempotencyKeyExists
    return logicalAgentId

/-- Record server-observed contact with a socket waiter's claiming connection. -/
def touchWaiterSeen (logicalAgentId : LogicalAgentId) (nowMs : Millis) : StoreTx Bool := do
  let changed ← updateRows Tab.logicalAgents
    (fun l => l.id = logicalAgentId ∧ l.ActiveWaiter)
    (fun l => { l with waiterLastSeenAtMs := some nowMs })
  return changed = 1

/-- Move every claimed waiter's clock forward after a daemon restart. -/
def bootResetWaiterSeen (nowMs : Millis) : StoreTx Nat :=
  updateRows Tab.logicalAgents
    (fun l => l.ActiveWaiter ∧ l.waiterLastSeenAtMs.isSome)
    (fun l => { l with waiterLastSeenAtMs := some nowMs })

-- ============================================================================
-- Acknowledgements
-- ============================================================================

/-- Resolve the obligation that the final reply `messageId` answers, when it answers
    one that `answers` admits. -/
def resolveFinalReply (now : Millis) (messageId : MessageId) (answers : MessageId → Prop)
    [DecidablePred answers] : StoreTx Unit := do
  let messages ← reads (·.messages)
  match finalReplyAmong (messages.find messageId).toList with
  | none => pure ()
  | some (askMessageId, resolvingMessageId) =>
    if answers askMessageId then
      let _ ← resolveObligation now askMessageId resolvingMessageId

/-- The obligation that a final reply answers is resolved as its inbox accepts it. -/
def resolveSocketInboxFinalReply (now : Millis) (messageId : MessageId) : StoreTx Unit :=
  resolveFinalReply now messageId fun _ => True

/-- The obligation of the polled ask is resolved as its final reply is acknowledged. -/
def resolveAskPullFinalReply (now : Millis) (askMessageId messageId : MessageId) :
    StoreTx Unit :=
  resolveFinalReply now messageId fun replyTo => replyTo = askMessageId

/-- The rows of one message in one sink of the recipient. -/
def DeliveryRow.InSink (d : DeliveryRow) (transport : DeliveryTransport)
    (messageId : MessageId) (recipientAgentId : LogicalAgentId) : Prop :=
  d.messageId = messageId ∧ d.recipientAgentId = some recipientAgentId ∧
    d.deliveryTransport = transport

instance (transport : DeliveryTransport) (messageId : MessageId)
    (recipientAgentId : LogicalAgentId) :
    DecidablePred fun d : DeliveryRow => d.InSink transport messageId recipientAgentId :=
  fun d => inferInstanceAs (Decidable (d.messageId = messageId ∧
    d.recipientAgentId = some recipientAgentId ∧ d.deliveryTransport = transport))

/-- Accept the queued row of one message in a sink. -/
def acceptSinkDelivery (now : Millis) (transport : DeliveryTransport)
    (messageId : MessageId) (recipientAgentId : LogicalAgentId) : StoreTx Unit := do
  let _ ← updateRows Tab.deliveries
    (fun d => d.InSink transport messageId recipientAgentId ∧ d.outcome = .queued)
    (fun d => { d with outcome := .accepted, resolvedAtMs := some now })
    (DeliveryRow.accepted_id now)

/-- Acknowledge one queued socket-inbox delivery for this waiter. -/
def ackSocketInboxDelivery (now : Millis) (recipientAgentId : LogicalAgentId)
    (messageId : MessageId) : StoreTx DeliveryOutcome := do
  query (requireActiveSocketWaiter recipientAgentId)
  let deliveries ← reads (·.deliveries)
  let delivery ← orFail
    (deliveries.rows.find? (·.InSink .socketInbox messageId recipientAgentId))
    (.conflict s!"no socket-inbox delivery {messageId} for waiter {recipientAgentId}")
  if delivery.outcome = .accepted then
    return .accepted
  else
    require (delivery.outcome = .queued)
      (.conflict (s!"socket-inbox delivery {messageId} for {recipientAgentId} is " ++
        s!"{delivery.outcome.name}"))
    acceptSinkDelivery now .socketInbox messageId recipientAgentId
    resolveSocketInboxFinalReply now messageId
    return .accepted

-- ============================================================================
-- Pull logs
-- ============================================================================

/-- The requester polls an ask of its own that is answered by polling. -/
def requirePullWaiter (askMessageId : MessageId) (requesterAgentId : LogicalAgentId) :
    Query Unit := fun s =>
  match s.obligations.find askMessageId with
  | none => .error (.conflict "obligation is absent")
  | some o =>
    if o.replyDelivery ≠ .pull then .error (.conflict "ask is not a pull reply sink")
    else if o.waitingAgentId ≠ requesterAgentId then
      .error (.conflict "only the waiting agent can poll or ack this pull sink")
    else .ok ()

/-- The requester holds the latest lease on the ask. -/
def requireLiveAskPullLease (askMessageId : MessageId) (requesterAgentId : LogicalAgentId)
    (leaseId : Nat) : Query Unit := fun s =>
  match (s.askPullLeases.find askMessageId).filter
      (·.waitingAgentId = requesterAgentId) with
  | none => .error (.conflict "ask-pull lease is absent")
  | some lease =>
    if lease.leaseId = leaseId then .ok ()
    else .error (.conflict "ask-pull lease is stale")

/-- Claim or rotate the pull-sink lease for one ask. -/
def claimAskPullLease (now : Millis) (askMessageId : MessageId)
    (requesterAgentId : LogicalAgentId) : StoreTx Nat := do
  query (requirePullWaiter askMessageId requesterAgentId)
  deleteRows Tab.askPullLeases (fun l => l.askMessageId = askMessageId)
  let leaseId ← reads (·.askPullLeasesSeq + 1)
  writes fun s => { s with askPullLeasesSeq := leaseId }
  insertRow Tab.askPullLeases
    { leaseId, askMessageId, waitingAgentId := requesterAgentId, claimedAtMs := now }
    (.sql .constraint)
  return leaseId

/-- A reverse event of one ask: a reply to it, or its waiting-side cancellation. -/
def Store.IsReverseEvent (s : Store) (askMessageId : MessageId) (m : MessageRow) : Prop :=
  m.replyToMessageId = some askMessageId ∨
    ∃ o ∈ s.obligations.find askMessageId, o.cancellationResponseMessageId = some m.id

instance (s : Store) (askMessageId : MessageId) :
    DecidablePred (s.IsReverseEvent askMessageId) := fun m =>
  inferInstanceAs (Decidable (m.replyToMessageId = some askMessageId ∨
    ∃ o ∈ s.obligations.find askMessageId, o.cancellationResponseMessageId = some m.id))

/-- Non-destructive poll of one ask-pull log: the events after the cursor in message
    order, and the cursor to poll with next. -/
def pollAskPull (askMessageId : MessageId) (requesterAgentId : LogicalAgentId)
    (after : Int) (leaseId : Option Nat) : Query (List MessageRow × Int) := fun s => do
  if after < 0 then
    .error (.invalidRecord "replies cursor must not be negative")
  requirePullWaiter askMessageId requesterAgentId s
  match leaseId with
  | some leaseId => requireLiveAskPullLease askMessageId requesterAgentId leaseId s
  | none => pure ()
  let rows := s.deliveries.rows.filter fun d =>
    d.deliveryTransport = .askPull ∧ d.recipientAgentId = some requesterAgentId
  let events := (rows.filterMap fun d => s.messages.find d.messageId).filter fun m =>
    after < m.id ∧ s.IsReverseEvent askMessageId m
  let events := events.insertionSort fun a b => a.id ≤ b.id
  return (events, (events.getLast?.map fun m => (m.id : Int)).getD after)

/-- Acknowledge one ask-pull delivery under a live lease. -/
def ackAskPullDelivery (now : Millis) (askMessageId : MessageId)
    (requesterAgentId : LogicalAgentId) (messageId : MessageId) (leaseId : Nat) :
    StoreTx DeliveryOutcome := do
  query (requirePullWaiter askMessageId requesterAgentId)
  query (requireLiveAskPullLease askMessageId requesterAgentId leaseId)
  let s ← reads id
  let row := s.deliveries.rows.find? fun d =>
    d.InSink .askPull messageId requesterAgentId ∧
      ∃ m ∈ s.messages.find d.messageId, s.IsReverseEvent askMessageId m
  let delivery ← orFail row
    (.conflict s!"no ask-pull delivery {messageId} for ask {askMessageId}")
  if delivery.outcome = .accepted then
    resolveAskPullFinalReply now askMessageId messageId
    return .accepted
  else
    require (delivery.outcome = .queued)
      (.conflict (s!"ask-pull delivery {messageId} for {askMessageId} is " ++
        s!"{delivery.outcome.name}"))
    acceptSinkDelivery now .askPull messageId requesterAgentId
    resolveAskPullFinalReply now askMessageId messageId
    return .accepted

end Kelpie
