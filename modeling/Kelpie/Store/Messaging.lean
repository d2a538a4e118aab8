/-
  Kelpie.Store.Messaging

  Creation of tells, asks and replies over the three receive paths, with the
  replays of a repeated idempotency key.
-/

import Kelpie.Store.Attempts

namespace Kelpie

open Lib Lib.Tx

-- ============================================================================
-- Replays
-- ============================================================================

/-- Recorded receipt for a completed Herdr prompt operation. -/
structure PromptOperationReplay where
  operationId : OperationId
  messageId : MessageId
  messageKind : MessageKind
  recipientAgentId : LogicalAgentId
  recipientIncarnationId : IncarnationId
  deliveryOutcome : DeliveryOutcome
  waitingAgentId : Option LogicalAgentId
  replyTo : Option MessageId
  disposition : Option ReplyDisposition
  obligationState : Option ObligationState
  remindAfterMs : Option Millis
  replyDelivery : Option ReplyDelivery
  intent : OperationIntent
deriving DecidableEq, Repr

/-- `format!("{kind:?}")`. -/
def MessageKind.debug : MessageKind → String
  | .tell => "Tell"
  | .ask => "Ask"
  | .reply => "Reply"
  | .cancellation => "Cancellation"

/-- The operation that answers for a key in a replay:
    `ORDER BY (o.outcome != 'failed') DESC, o.created_at_ms DESC, o.id DESC LIMIT 1`. -/
def Store.replayCandidate (s : Store) (key : String) : Option OperationRow :=
  ((s.operations.rows.filter (·.idempotencyKey = key)).insertionSort fun a b =>
    if a.outcome ≠ .failed ↔ b.outcome ≠ .failed then
      b.createdAtMs < a.createdAtMs ∨ (a.createdAtMs = b.createdAtMs ∧ b.id ≤ a.id)
    else a.outcome ≠ .failed).head?

/-- The receipt of a succeeded prompt operation. -/
def Store.promptReplay (s : Store) (o : OperationRow) (expectedKind : MessageKind)
    (expectedSender : LogicalAgentId) (expectedReplyTo : Option MessageId) :
    Except StoreError PromptOperationReplay :=
  match s.deliveries.rows.find? (·.operationId = some o.id) with
  | none => .error (.invalidRecord
      s!"succeeded prompt operation {o.id} has no message kind")
  | some d =>
  match s.messages.find d.messageId with
  | none => .error (.invalidRecord
      s!"succeeded prompt operation {o.id} has no message kind")
  | some m =>
  let obligation := s.obligations.find
    (if m.kind = .reply then m.replyToMessageId.getD 0 else m.id)
  let sender := if m.kind = .ask then
      m.senderAgentId.or (obligation.map (·.waitingAgentId))
    else m.senderAgentId
  if m.kind ≠ expectedKind then
    .error (.conflict (s!"idempotency key {o.idempotencyKey} belongs to prior operation " ++
      s!"{o.id} with outcome succeeded, but not to a matching {expectedKind.debug} prompt; " ++
      "refusing replay"))
  else if sender ≠ some expectedSender ∨ m.replyToMessageId ≠ expectedReplyTo then
    .error (.conflict (s!"idempotency key {o.idempotencyKey} belongs to prior operation " ++
      s!"{o.id} with outcome succeeded, but to a different sender or reply correlation; " ++
      "refusing replay"))
  else do
    let replyDelivery ← if m.kind = .ask then
        (obligationReplyDelivery m.id s).map some
      else .ok none
    return {
      operationId := o.id, messageId := m.id, messageKind := m.kind,
      recipientAgentId := m.recipientAgentId,
      recipientIncarnationId := o.targetIncarnationId, deliveryOutcome := d.outcome,
      waitingAgentId := obligation.map (·.waitingAgentId), replyTo := m.replyToMessageId,
      disposition := m.disposition, obligationState := obligation.map (·.state),
      remindAfterMs := (s.obligationReminders.find m.id).map (·.intervalMs),
      replyDelivery, intent := o.intent }

/-- Replay a completed prompt operation by its key, without a write. -/
def replayPromptByIdempotencyKey (key : String) (expectedKind : MessageKind)
    (expectedSender : LogicalAgentId) (expectedReplyTo : Option MessageId) :
    Query (Option PromptOperationReplay) := fun s =>
  match s.replayCandidate key with
  | none => .ok none
  | some o =>
    if o.kind ≠ .prompt then .error (idempotencyConflict key o.id o.outcome)
    else if o.outcome = .failed then .ok none
    else if o.outcome ≠ .succeeded then .error (idempotencyConflict key o.id o.outcome)
    else (s.promptReplay o expectedKind expectedSender expectedReplyTo).map some

/-- IDs atomically created for one reply and its delivery. -/
structure CreatedReply where
  messageId : MessageId
  operationId : Option OperationId
  recipientIncarnation : Option IncarnationId
  disposition : ReplyDisposition
deriving DecidableEq, Repr

/-- Replay a reply queued to a pull sink under a repeated key. -/
def replayAskPullReply (key : String) (requesterAgentId : LogicalAgentId)
    (replyTo : MessageId) : Query (Option CreatedReply) := fun s =>
  match (s.askPullKeys.find key).bind fun k => s.messages.find k.messageId with
  | none => .ok none
  | some m =>
    if m.senderAgentId ≠ some requesterAgentId then .error idempotencyKeyExists
    else if m.replyToMessageId ≠ some replyTo then .error idempotencyKeyExists
    else match m.disposition with
      | none => .error (.sql .queryReturnedNoRows)
      | some disposition => .ok (some
          { messageId := m.id, operationId := none, recipientIncarnation := none,
            disposition })

/-- The message stored under one socket-inbox key. -/
def Store.socketInboxKeyMessage (s : Store) (key : String) : Option MessageRow :=
  (s.socketInboxKeys.find key).bind fun k => s.messages.find k.messageId

/-- Replay a tell queued to a socket waiter under a repeated key. -/
def replaySocketInboxTell (key : String) (sender : LogicalAgentId) :
    Query (Option MessageId) := fun s =>
  match s.socketInboxKeyMessage key with
  | none => .ok none
  | some m =>
    if m.kind ≠ .tell ∨ m.senderAgentId ≠ some sender then
      .error (.conflict (s!"idempotency key {key} already belongs to socket-inbox message " ++
        s!"{m.id} with a different kind or sender; refusing replay"))
    else .ok (some m.id)

/-- Replay a reply queued to a socket waiter under a repeated key. -/
def replaySocketInboxReply (key : String) (requesterAgentId : LogicalAgentId)
    (replyTo : MessageId) : Query (Option CreatedReply) := fun s =>
  match s.socketInboxKeyMessage key with
  | none => .ok none
  | some m =>
    if m.kind ≠ .reply ∨ m.senderAgentId ≠ some requesterAgentId ∨
        m.replyToMessageId ≠ some replyTo then
      .error (.conflict (s!"idempotency key {key} already belongs to socket-inbox message " ++
        s!"{m.id} with a different kind, sender, or reply correlation; refusing replay"))
    else match m.disposition with
      | none => .error (.invalidRecord
          s!"replayed socket-inbox reply {m.id} has no disposition")
      | some disposition => .ok (some
          { messageId := m.id, operationId := none, recipientIncarnation := none,
            disposition })

-- ============================================================================
-- Tells and asks
-- ============================================================================

/-- Scheduled time and first outcome of a Herdr delivery. -/
def deliverySchedule (now : Millis) (dueAtMs : Option Millis) :
    Except StoreError (Millis × DeliveryOutcome) :=
  match dueAtMs with
  | none => .ok (now, .pending)
  | some due =>
    if due < 0 then .error (.invalidRecord "due_at_ms must not be negative")
    else .ok (due, .queued)

/-- IDs atomically created for one message and its delivery operation. -/
structure CreatedPrompt where
  messageId : MessageId
  operationId : OperationId
deriving DecidableEq, Repr

/-- The operation and the delivery row of one message into one incarnation. -/
def insertPrompt (now : Millis) (idempotencyKey : String) (recipient : IncarnationId)
    (intent : PromptIntent) (scheduledAtMs : Millis) (outcome : DeliveryOutcome)
    (onReuse : StoreError := idempotencyKeyExists) : StoreTx OperationId := do
  let operationId ← insertOperation now idempotencyKey .prompt recipient (.prompt intent)
    .pending onReuse
  insertHerdrDelivery intent.messageId recipient scheduledAtMs outcome operationId
  return operationId

/-- Persist a launch's structured initial message and delivery operation. -/
def createInitialMessage (now : Millis) (recipient : LogicalAgentId)
    (recipientIncarnation : IncarnationId) (intent : InitialMessageIntent)
    (idempotencyKey : String) : StoreTx CreatedPrompt := do
  require (¬ (intent.kind = .ask ∧ intent.sender = none))
    (.conflict "an operator-attributed initial ask needs an agent waiting identity")
  require (¬ (intent.kind ≠ .ask ∧ intent.replyDelivery = .pull))
    (.conflict "reply_delivery pull is only valid on an ask")
  let incarnations ← reads (·.incarnations)
  require (∃ i ∈ incarnations.find recipientIncarnation,
      i.state = .ready ∧ i.logicalAgentId = recipient)
    (.conflict "initial-message recipient is not the exact ready incarnation")
  let agents ← reads (·.logicalAgents)
  require (∀ sender ∈ intent.sender, (agents.find sender).isSome)
    (.conflict "initial-message sender logical agent is absent")
  require (¬ (intent.kind = .ask ∧ intent.replyDelivery = .pull ∧
      ∃ sender ∈ intent.sender, ∃ l ∈ agents.find sender,
        l.deliveryTransport = .socketInbox))
    (.conflict "socket_inbox waiters already have a sink and refuse reply_delivery pull")
  let kind : MessageKind := match intent.kind with
    | .tell => .tell
    | .ask => .ask
  let messageId ← insertMessage now intent.sender recipient kind intent.body
  match intent.kind, intent.sender with
  | .ask, some sender => do
    insertObligation now messageId recipient sender intent.replyDelivery
    insertReminder messageId defaultReminderIntervalMs
  | _, _ => pure ()
  let operationId ← insertPrompt now idempotencyKey recipientIncarnation { messageId }
    now .pending
  return { messageId, operationId }
where
  /-- `DEFAULT_REMINDER_INTERVAL_MS`. -/
  defaultReminderIntervalMs : Millis := 2700000

/-- Persist an ask and its immutable reverse-path policy. -/
def createAskWithReplyDelivery (now : Millis) (sender recipient : LogicalAgentId)
    (recipientIncarnation : IncarnationId) (body idempotencyKey : String)
    (dueAtMs remindAfterMs : Option Millis) (operatorAttributed : Bool)
    (replyDelivery : ReplyDelivery) : StoreTx CreatedPrompt := do
  require (∀ interval ∈ remindAfterMs, 0 < interval)
    (.conflict "reminder interval must be greater than zero")
  let replay ← query (replayPromptByIdempotencyKey idempotencyKey .ask sender none)
  match replay with
  | some replay => do
    let stored := replay.replyDelivery.getD .inject
    require (stored = replyDelivery)
      (.conflict s!"idempotency key already recorded reply_delivery {stored.asStr}")
    return { messageId := replay.messageId, operationId := replay.operationId }
  | none => do
    let schedule ← query fun _ => deliverySchedule now dueAtMs
    let incarnations ← reads (·.incarnations)
    require ((incarnations.find recipientIncarnation).map (·.logicalAgentId) =
        some recipient)
      (.conflict "recipient incarnation does not belong to the recipient logical agent")
    let waiting ← query (waiterIdentity sender)
    require (¬ (operatorAttributed = true ∧ waiting.transport ≠ .socketInbox))
      (.conflict "operator attribution does not make operator the waiter")
    require (waiting.ended = false)
      (.conflict s!"socket waiter {sender} is no longer a delivery target")
    require (¬ (replyDelivery = .pull ∧ waiting.transport = .socketInbox))
      (.conflict "socket_inbox waiters already have a sink and refuse reply_delivery pull")
    let messageId ← insertMessage now (if operatorAttributed then none else some sender)
      recipient .ask body
    insertObligation now messageId recipient sender replyDelivery
    match remindAfterMs with
    | some intervalMs => insertReminder messageId intervalMs
    | none => pure ()
    let operationId ← insertPrompt now idempotencyKey recipientIncarnation
      { messageId, recipientIncarnationId := some recipientIncarnation, dueAtMs }
      schedule.1 schedule.2
    return { messageId, operationId }

/-- Persist a tell that should fire once, now or at `dueAtMs`. -/
def createTellWithDue (now : Millis) (sender recipient : LogicalAgentId)
    (recipientIncarnation : IncarnationId) (body idempotencyKey : String)
    (dueAtMs : Option Millis) : StoreTx CreatedPrompt := do
  let replay ← query (replayPromptByIdempotencyKey idempotencyKey .tell sender none)
  match replay with
  | some replay =>
    return { messageId := replay.messageId, operationId := replay.operationId }
  | none => do
    let schedule ← query fun _ => deliverySchedule now dueAtMs
    let incarnations ← reads (·.incarnations)
    require (∃ i ∈ incarnations.find recipientIncarnation,
        i.state = .ready ∧ i.logicalAgentId = recipient)
      (.conflict "recipient incarnation is not the recipient's exact ready incarnation")
    let agents ← reads (·.logicalAgents)
    require ((agents.find sender).isSome) (.conflict "sender logical agent is absent")
    let messageId ← insertMessage now (some sender) recipient .tell body
    let operationId ← insertPrompt now idempotencyKey recipientIncarnation
      { messageId, dueAtMs } schedule.1 schedule.2
    return { messageId, operationId }

/-- Persist a tell to an active socket waiter's durable inbox. -/
def createSocketTell (now : Millis) (sender recipient : LogicalAgentId)
    (body idempotencyKey : String) (dueAtMs : Option Millis) : StoreTx MessageId := do
  let replay ← query (replaySocketInboxTell idempotencyKey sender)
  match replay with
  | some messageId => return messageId
  | none => do
    let schedule ← query fun _ => deliverySchedule now dueAtMs
    query (requireActiveSocketWaiter recipient)
    let agents ← reads (·.logicalAgents)
    require ((agents.find sender).isSome) (.conflict "sender logical agent is absent")
    let messageId ← insertMessage now (some sender) recipient .tell body
    queueSocketInboxDeliveryAt messageId recipient schedule.1
    insertRow Tab.socketInboxKeys { idempotencyKey, messageId } idempotencyKeyExists
    return messageId

-- ============================================================================
-- Replies
-- ============================================================================

/-- Reply activity pushes an enabled reminder of the ask to a full interval from now. -/
def refreshReminderActivity (now : Millis) (askMessageId : MessageId) : StoreTx Unit := do
  let _ ← updateRows Tab.obligationReminders
    (fun r => r.askMessageId = askMessageId ∧ r.disabledAtMs = none ∧
      r.suspendedAtMs = none)
    (fun r => { r with
      nextDueAtMs := some (max (r.nextDueAtMs.getD 0) (sqlAdd now r.intervalMs)) })

/-- Progress moves the obligation to `in_progress`; a final only records activity. -/
def applyReplyObligationActivity (now : Millis) (replyTo : MessageId)
    (disposition : ReplyDisposition) : StoreTx Unit := do
  match disposition with
  | .progress => do
    let _ ← updateRows Tab.obligations (fun o => o.askMessageId = replyTo)
      (fun o => { o with state := .inProgress, lastActivityAtMs := now })
    refreshReminderActivity now replyTo
  | .final => do
    let _ ← updateRows Tab.obligations
      (fun o => o.askMessageId = replyTo ∧ o.state.Unresolved)
      (fun o => { o with lastActivityAtMs := now })
    refreshReminderActivity now replyTo

/-- The obligation that a reply may be recorded against. -/
def replyableObligation (replyTo : MessageId) (requesterAgentId : LogicalAgentId) :
    Query ObligationRow := fun s =>
  match s.obligations.find replyTo with
  | none => .error (.conflict "reply_to does not name an obligation")
  | some o =>
    if ¬ o.state.Unresolved then .error (.conflict "obligation is already terminal")
    else if requesterAgentId ≠ o.owingAgentId then
      .error (.conflict "requester does not own the obligation")
    else .ok o

/-- Record a reply whose key is new, on the waiter's receive path. -/
def recordNewReply (now : Millis) (replyTo : MessageId) (requesterAgentId : LogicalAgentId)
    (body : String) (disposition : ReplyDisposition) (idempotencyKey : String)
    (dueAtMs : Option Millis) : StoreTx CreatedReply := do
  let obligation ← query (replyableObligation replyTo requesterAgentId)
  let waiting := obligation.waitingAgentId
  let identity ← query (waiterIdentity waiting)
  require (identity.ended = false)
    (.conflict s!"socket waiter {waiting} is no longer a delivery target")
  let messageId ← insertMessage now (some obligation.owingAgentId) waiting .reply body
    (some (replyTo, disposition))
  if obligation.replyDelivery = .pull then
    queueAskPullDelivery messageId waiting now
    insertRow Tab.askPullKeys { idempotencyKey, messageId } idempotencyKeyExists
    applyReplyObligationActivity now replyTo disposition
    return { messageId, operationId := none, recipientIncarnation := none, disposition }
  if identity.transport = .socketInbox then
    queueSocketInboxDeliveryAt messageId waiting now
    insertRow Tab.socketInboxKeys { idempotencyKey, messageId } idempotencyKeyExists
    applyReplyObligationActivity now replyTo disposition
    return { messageId, operationId := none, recipientIncarnation := none, disposition }
  require (identity.transport = .herdrPrompt)
    (.invalidRecord s!"logical agent {waiting} cannot have delivery_transport ask_pull")
  let recipientIncarnation ← query (readyIncarnationForAgent waiting)
  let operationId ← insertPrompt now idempotencyKey recipientIncarnation
    { messageId, replyTo := some replyTo, disposition := some disposition,
      recipientIncarnationId := some recipientIncarnation }
    (dueAtMs.getD now) (if dueAtMs.isSome then .queued else .pending)
  applyReplyObligationActivity now replyTo disposition
  return { messageId, operationId := some operationId,
           recipientIncarnation := some recipientIncarnation, disposition }

/-- Persist a reply for immediate or delayed delivery. -/
def createReplyWithDue (now : Millis) (replyTo : MessageId)
    (requesterAgentId : LogicalAgentId) (body : String) (disposition : ReplyDisposition)
    (idempotencyKey : String) (dueAtMs : Option Millis) : StoreTx CreatedReply := do
  let replay ← query
    (replayPromptByIdempotencyKey idempotencyKey .reply requesterAgentId (some replyTo))
  match replay with
  | some replay => do
    let disposition ← orFail replay.disposition
      (.invalidRecord s!"replayed reply {replay.messageId} has no disposition")
    return { messageId := replay.messageId, operationId := some replay.operationId,
             recipientIncarnation := some replay.recipientIncarnationId, disposition }
  | none => do
    let pulled ← query (replayAskPullReply idempotencyKey requesterAgentId replyTo)
    match pulled with
    | some replay => return replay
    | none => do
      let queued ← query (replaySocketInboxReply idempotencyKey requesterAgentId replyTo)
      match queued with
      | some replay => return replay
      | none =>
        recordNewReply now replyTo requesterAgentId body disposition idempotencyKey dueAtMs

end Kelpie
