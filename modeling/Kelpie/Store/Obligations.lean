/-
  Kelpie.Store.Obligations

  The ends of an obligation other than its final reply: cancellation by request,
  cancellation before the first write, orphaning of a stranded ask, the
  retirement of a socket waiter, and what a side is told of it afterwards.
-/

import Kelpie.Store.Sinks

namespace Kelpie

open Lib Lib.Tx

-- ============================================================================
-- Guards
-- ============================================================================

/-- The check on `obligations.cancellation_reason`: not empty once spaces are trimmed. -/
def HasText (reason : String) : Prop := reason.toList.any (· ≠ ' ') = true

instance : DecidablePred HasText :=
  fun reason => inferInstanceAs (Decidable (reason.toList.any (· ≠ ' ') = true))

/-- A renew prepare ask is ended by its renew, not by a cancel. -/
def refuseRenewPrepareAskCancel (askMessageId : MessageId) : Query Unit := fun s =>
  match s.renews.rows.find? (fun r => r.askMessageId = some askMessageId ∧ r.phase.Armed) with
  | some r => .error (.conflict (s!"ask {askMessageId} is the prepare obligation of renew " ++
      s!"{r.id}; cancel the policy with renew.cancel, not cancel"))
  | none => .ok ()

/-- A renew that has not ended asked `askMessageId`. -/
def Store.PrepareAsk (s : Store) (askMessageId : MessageId) : Prop :=
  ∃ r ∈ s.renews.rows, r.askMessageId = some askMessageId ∧ r.phase.Armed

instance (s : Store) : DecidablePred s.PrepareAsk := fun askMessageId =>
  inferInstanceAs (Decidable
    (∃ r ∈ s.renews.rows, r.askMessageId = some askMessageId ∧ r.phase.Armed))

/-- The state as the database spells it. -/
def ObligationState.name : ObligationState → String
  | .open => "open"
  | .inProgress => "in_progress"
  | .resolved => "resolved"
  | .cancelled => "cancelled"
  | .orphaned => "orphaned"

/-- Explain a cancel refused because the obligation is already settled. -/
def settledObligationRefusal (askMessageId : MessageId) (state : ObligationState) : String :=
  let detail := match state with
    | .resolved => "a final reply already resolved it"
    | .cancelled => "it was already cancelled"
    | .orphaned => "Kelpie already closed it because a party stopped running; both sides " ++
        "were notified and no reply is owed"
    | _ => "it is no longer open"
  s!"obligation {askMessageId} is already settled ({state.name}): {detail}. Nothing is left " ++
    "to cancel; `kelpie pending` shows what is still open."

/-- The unresolved obligation that a cancel may settle. -/
def cancellableObligation (askMessageId : MessageId) : Query ObligationRow := fun s =>
  match s.obligations.find askMessageId with
  | none => .error (.conflict "obligation is absent")
  | some o =>
    if o.state.Unresolved then do
      refuseRenewPrepareAskCancel askMessageId s
      return o
    else .error (.conflict (settledObligationRefusal askMessageId o.state))

-- ============================================================================
-- Settlement without a reply
-- ============================================================================

/-- `UPDATE obligations SET state = ..., cancellation_* ... WHERE state IN ('open',
    'in_progress')`, for the obligations that also meet `p`. -/
def settleObligations (now : Millis) (p : ObligationRow → Prop) [DecidablePred p]
    (state : ObligationState) (requester : Option LogicalAgentId) (reason : String) :
    StoreTx Nat := do
  let agents ← reads (·.logicalAgents)
  let changed ← updateRows Tab.obligations (fun o => p o ∧ o.state.Unresolved)
    (fun o => { o with
      state, lastActivityAtMs := now, cancellationRequesterAgentId := requester,
      cancellationReason := some reason })
  require (changed ≠ 0 → (∀ id ∈ requester, (agents.find id).isSome) ∧ HasText reason)
    (.sql .constraint)
  return changed

/-- Cancel one exact unresolved obligation under a same-user requester claim. -/
def cancelObligation (now : Millis) (requesterAgentId : LogicalAgentId)
    (askMessageId : MessageId) (reason : String) : StoreTx Unit := do
  require (trim reason ≠ "") (.conflict "cancellation reason must not be empty")
  let _ ← query (cancellableObligation askMessageId)
  let changed ← settleObligations now (fun o => o.askMessageId = askMessageId) .cancelled
    (some requesterAgentId) reason
  require (changed = 1) (.conflict "obligation changed before cancellation committed")

-- ============================================================================
-- Notices
-- ============================================================================

/-- The reserved key of a cancellation prompt. -/
def cancellationKey (audience : CancellationAudience) (askMessageId : MessageId) : String :=
  match audience with
  | .waiting => s!"kelpie:cancellation:{askMessageId}"
  | .owing => s!"kelpie:owing-cancellation:{askMessageId}"

/-- The prompt of a notice about a settled ask, under the key of its side. -/
def insertCancellationPrompt (now : Millis) (messageId askMessageId : MessageId)
    (reason : String) (recipientIncarnation : IncarnationId)
    (audience : CancellationAudience) (dueAtMs : Option Millis) : StoreTx OperationId :=
  insertPrompt now (cancellationKey audience askMessageId) recipientIncarnation
    { messageId, cancelledAsk := some askMessageId, reason := some reason,
      audience := some audience, recipientIncarnationId := some recipientIncarnation }
    (dueAtMs.getD now) (if dueAtMs.isSome then .queued else .pending)

/-- The receive path of a cancellation notice. -/
def deliverCancellation (now : Millis) (messageId : MessageId)
    (recipientAgent : LogicalAgentId) (askMessageId : MessageId) (reason : String)
    (audience : CancellationAudience) (dueAtMs : Option Millis) (ambiguousReady : String) :
    StoreTx (Option (OperationId × IncarnationId)) := do
  let identity ← query (waiterIdentity recipientAgent)
  let replyDelivery ← query fun s =>
    if audience = .waiting then obligationReplyDelivery askMessageId s else .ok .inject
  if replyDelivery = .pull then
    queueAskPullDelivery messageId recipientAgent now
    return none
  else if identity.transport = .socketInbox then
    if identity.ended = false then
      queueSocketInboxDeliveryAt messageId recipientAgent now
    return none
  else
    require (identity.transport = .herdrPrompt) (.invalidRecord
      s!"logical agent {recipientAgent} cannot have delivery_transport ask_pull")
    let ready ← query (optionalReadyIncarnation recipientAgent ambiguousReady)
    match ready with
    | none => return none
    | some recipientIncarnation => do
      let operationId ← insertCancellationPrompt now messageId askMessageId reason
        recipientIncarnation audience dueAtMs
      return some (operationId, recipientIncarnation)

/-- Record one side's cancellation message, and its delivery when that side has a
    receive path. -/
def recordCancellationSide (now : Millis) (recipientAgent : LogicalAgentId)
    (askMessageId : MessageId) (reason body : String) (audience : CancellationAudience)
    (dueAtMs : Option Millis) (ambiguousReady : String) :
    StoreTx (MessageId × Option (OperationId × IncarnationId)) := do
  let messageId ← insertMessage now none recipientAgent .cancellation body
  let delivery ← deliverCancellation now messageId recipientAgent askMessageId reason
    audience dueAtMs ambiguousReady
  return (messageId, delivery)

/-- IDs atomically created for a cancellation and its response messages. -/
structure CreatedCancellation where
  messageId : MessageId
  delivery : Option (OperationId × IncarnationId)
  owingMessageId : MessageId
  owingDelivery : Option (OperationId × IncarnationId)
deriving DecidableEq, Repr

/-- Both sides' notices, linked from the obligation. -/
def recordCancellation (now : Millis) (obligation : ObligationRow)
    (reason body owingBody : String) (dueAtMs owingDueAtMs : Option Millis) :
    StoreTx CreatedCancellation := do
  let (messageId, delivery) ← recordCancellationSide now obligation.waitingAgentId
    obligation.askMessageId reason body .waiting dueAtMs
    "ambiguous ready incarnation for waiting agent"
  let (owingMessageId, owingDelivery) ← recordCancellationSide now obligation.owingAgentId
    obligation.askMessageId reason owingBody .owing owingDueAtMs
    "ambiguous ready incarnation for owing agent"
  let _ ← updateRows Tab.obligations
    (fun o => o.askMessageId = obligation.askMessageId)
    (fun o => { o with
      cancellationResponseMessageId := some messageId,
      cancellationOwingMessageId := some owingMessageId })
  return { messageId, delivery, owingMessageId, owingDelivery }

/-- Cancel one unresolved obligation and compose Kelpie's cancellation notices. -/
def cancelWithResponse (now : Millis) (requesterAgentId : LogicalAgentId)
    (askMessageId : MessageId) (reason body owingBody : String)
    (dueAtMs owingDueAtMs : Option Millis) : StoreTx CreatedCancellation := do
  require (trim reason ≠ "") (.conflict "cancellation reason must not be empty")
  let obligation ← query (cancellableObligation askMessageId)
  let created ← recordCancellation now obligation reason body owingBody dueAtMs owingDueAtMs
  let changed ← settleObligations now (fun o => o.askMessageId = askMessageId) .cancelled
    (some requesterAgentId) reason
  require (changed = 1) (.conflict "obligation changed before cancellation committed")
  return created

-- ============================================================================
-- Cancellation before the first write
-- ============================================================================

/-- Supersede a queued delivery and its pending operation; answer the rows changed. -/
def supersedeQueued (now : Millis) (operationId : OperationId)
    (requesterAgentId : LogicalAgentId) (reason : String) : StoreTx (Nat × Nat) := do
  let agents ← reads (·.logicalAgents)
  require ((agents.find requesterAgentId).isSome) (.sql .constraint)
  let deliveries ← updateRows Tab.deliveries
    (fun d => d.operationId = some operationId ∧ d.outcome = .queued)
    (fun d => { d with
      outcome := .superseded, resolvedAtMs := some now, cancelledAtMs := some now,
      cancellationRequesterAgentId := some requesterAgentId,
      cancellationReason := some reason })
  let operations ← updateRows Tab.operations
    (fun o => o.id = operationId ∧ o.outcome = .pending)
    (fun o => { o with outcome := .superseded, resolvedAtMs := some now })
  return (deliveries, operations)

/-- An attempt of the operation that went past preparation. -/
def Store.Submitted (s : Store) (operationId : OperationId) : Prop :=
  ∃ a ∈ s.operationAttempts.rows, a.operationId = operationId ∧ a.phase ≠ .prepared

instance (s : Store) : DecidablePred s.Submitted := fun operationId =>
  inferInstanceAs (Decidable
    (∃ a ∈ s.operationAttempts.rows, a.operationId = operationId ∧ a.phase ≠ .prepared))

/-- Cancel a queued delivery only before the first Herdr write. -/
def cancelQueuedDelivery (now : Millis) (requesterAgentId : LogicalAgentId)
    (messageId : MessageId) (reason : String) : StoreTx Bool := do
  require (trim reason ≠ "") (.conflict "cancellation reason must not be empty")
  let s ← reads id
  match s.messages.find messageId, s.deliveries.rows.find? (·.messageId = messageId) with
  | some message, some delivery => do
    let operationId ← orFail delivery.operationId (.sql .queryReturnedNoRows)
    if delivery.outcome ≠ .queued then
      return false
    else
      require (message.kind = .tell → message.senderAgentId = some requesterAgentId)
        (.conflict "requester does not own the scheduled tell")
      require (message.kind = .ask → (s.obligations.find messageId).isSome)
        (.conflict "obligation is absent")
      query fun s =>
        if message.kind = .ask then refuseRenewPrepareAskCancel messageId s else .ok ()
      require (¬ s.Submitted operationId) (.conflict
        "scheduled delivery already submitted to Herdr is not cancellable")
      let changed ← supersedeQueued now operationId requesterAgentId reason
      require (changed.1 = 1)
        (.conflict "queued delivery changed before cancellation committed")
      require (changed.2 = 1)
        (.conflict "queued operation changed before cancellation committed")
      if message.kind = .ask then
        let settled ← settleObligations now (fun o => o.askMessageId = messageId) .cancelled
          (some requesterAgentId) reason
        require (settled = 1)
          (.conflict "obligation changed before scheduled cancellation committed")
      return true
  | _, _ => return false

/-- Retire queued ask deliveries whose obligation is already settled. -/
def supersedeSettledQueuedAsks (nowMs : Millis) : StoreTx Nat := do
  let obligations ← reads (·.obligations)
  updateRows Tab.deliveries
    (fun d => d.outcome = .queued ∧
      ∃ o ∈ obligations.find d.messageId, ¬ o.state.Unresolved)
    (fun d => { d with
      outcome := .superseded, resolvedAtMs := some nowMs, cancelledAtMs := some nowMs,
      cancellationReason :=
        some "obligation settled before the scheduled delivery fired" })

-- ============================================================================
-- Stranded asks
-- ============================================================================

/-- `party_present_expression`: the agent can still take part in an ask. -/
def Store.PartyPresent (s : Store) (agent : LogicalAgentId) : Prop :=
  (∃ l ∈ s.logicalAgents.find agent, l.ActiveWaiter) ∨
  (∃ i ∈ s.incarnations.rows,
    i.logicalAgentId = agent ∧ (i.state = .ready ∨ i.state = .starting)) ∨
  (∃ o ∈ s.operations.rows,
    (o.kind = .start ∨ o.kind = .adopt ∨ o.kind = .clear ∨ o.kind = .retire) ∧
      o.outcome.Live ∧
      ∃ i ∈ s.incarnations.find o.targetIncarnationId, i.logicalAgentId = agent) ∨
  (∃ r ∈ s.renews.rows, r.logicalAgentId = agent ∧ r.phase.Armed)

instance (s : Store) : DecidablePred s.PartyPresent := fun agent => by
  unfold Store.PartyPresent
  infer_instance

/-- A final reply to the ask whose delivery is not known to have failed. -/
def Store.InFlightFinal (s : Store) (askMessageId : MessageId) : Prop :=
  ∃ m ∈ s.messages.rows, (m.kind = .reply ∧ m.disposition = some .final ∧
      m.replyToMessageId = some askMessageId) ∧
    ∃ d ∈ s.deliveries.rows, d.messageId = m.id ∧
      (d.outcome = .queued ∨ d.outcome = .submitted ∨ d.outcome = .accepted ∨
        d.outcome = .unknown)

instance (s : Store) : DecidablePred s.InFlightFinal := fun askMessageId => by
  unfold Store.InFlightFinal
  infer_instance

/-- Refresh each open obligation's counterparty-absence clock from durable state. -/
def observeAskAvailability (nowMs : Millis) : StoreTx Nat := do
  let s ← reads id
  updateRows Tab.obligations
    (fun o => o.state.Unresolved ∧
      (o.unavailableSinceMs.isSome ↔
        (s.PartyPresent o.waitingAgentId ∧ s.PartyPresent o.owingAgentId)))
    (fun o => { o with
      unavailableSinceMs := if o.unavailableSinceMs.isSome then none else some nowMs })

/-- Open obligations whose required party has been absent past grace. -/
def Store.strandedAsks (s : Store) (nowMs graceMs : Millis) : List ObligationRow :=
  (s.obligations.rows.filter fun o => o.state.Unresolved ∧
    (∃ since ∈ o.unavailableSinceMs, graceMs ≤ nowMs - since) ∧
    (¬ ∃ r ∈ s.renews.rows, r.askMessageId = some o.askMessageId ∧ r.phase.Armed) ∧
    ¬ s.InFlightFinal o.askMessageId).insertionSort
      fun a b => a.creationSequence ≤ b.creationSequence

/-- Who is missing, as the notices say it. -/
def missingParty (waitingPresent owingPresent : Bool) : String :=
  match waitingPresent, owingPresent with
  | false, false => "both parties"
  | false, true => "the asker"
  | true, _ => "the responder"

/-- The unresolved obligation that nothing holds back from being orphaned. -/
def Store.orphanable (s : Store) (askMessageId : MessageId) : Option ObligationRow :=
  (s.obligations.find askMessageId).filter fun o => o.state.Unresolved ∧
    ¬ s.InFlightFinal askMessageId ∧
    ¬ (s.PartyPresent o.waitingAgentId ∧ s.PartyPresent o.owingAgentId)

/-- Settle one stranded ask `orphaned` with notices recorded for both sides. -/
def orphanAsk (now : Millis) (askMessageId : MessageId) :
    StoreTx (Option CreatedCancellation) := do
  let s ← reads id
  query fun s =>
    if ∃ o ∈ s.obligations.find askMessageId, o.state.Unresolved then
      refuseRenewPrepareAskCancel askMessageId s
    else .ok ()
  match s.orphanable askMessageId with
  | none => return none
  | some obligation => do
    let missing := missingParty (s.PartyPresent obligation.waitingAgentId)
      (s.PartyPresent obligation.owingAgentId)
    let reason := s!"{missing} is no longer running"
    let created ← recordCancellation now obligation reason
      (s!"Your ask {askMessageId} was closed by Kelpie because {missing} is no longer running. " ++
        "No reply is owed. Re-ask if it still matters.")
      (s!"Stop working on ask {askMessageId}. It was closed by Kelpie because {missing} is no " ++
        "longer running. No reply is owed.")
      none none
    let changed ← settleObligations now (fun o => o.askMessageId = askMessageId) .orphaned
      none reason
    require (changed = 1) (.conflict "obligation changed before orphan committed")
    return some created

-- ============================================================================
-- Retirement of a socket waiter
-- ============================================================================

/-- Supersede the queued, never submitted Herdr delivery of an ask together with its
    obligation; answer whether the obligation was settled so. -/
def supersedeUnsubmittedAskDelivery (now : Millis) (askId : MessageId)
    (waiter : LogicalAgentId) (reason : String) : StoreTx Bool := do
  let s ← reads id
  let row := s.deliveries.rows.find? fun d =>
    d.messageId = askId ∧ d.deliveryTransport = .herdrPrompt
  match row.bind (fun d => d.operationId.map fun o => (d, o)) with
  | none => return false
  | some (delivery, operationId) =>
    if delivery.outcome ≠ .queued ∨ s.Submitted operationId then
      return false
    else
      let _ ← supersedeQueued now operationId waiter reason
      let settled ← settleObligations now
        (fun o => o.askMessageId = askId ∧ o.waitingAgentId = waiter) .cancelled
        (some waiter) reason
      return settled = 1

/-- One owing stop-notice recorded while ending a socket waiter. -/
structure OwingRetireNotice where
  askMessageId : MessageId
  messageId : MessageId
  delivery : Option (OperationId × IncarnationId)
deriving DecidableEq, Repr

/-- Settle one ask that the ending waiter waits on. -/
def endAsk (now : Millis) (waiter : LogicalAgentId) (publicName reason : String)
    (owingDueAtMs : Option Millis) (obligation : ObligationRow) :
    StoreTx (Option OwingRetireNotice) := do
  let askId := obligation.askMessageId
  let superseded ← supersedeUnsubmittedAskDelivery now askId waiter reason
  if superseded then
    return none
  else
    let (waitingMessageId, _) ← recordCancellationSide now waiter askId reason
      (s!"Your ask {askId} was cancelled by {publicName}. Reason: {reason}. No reply is owed. " ++
        "Re-ask the current holder of the name if the question still matters.")
      .waiting none "ambiguous ready incarnation for waiting agent"
    let (owingMessageId, owingDelivery) ←
      recordCancellationSide now obligation.owingAgentId askId reason
        (s!"Stop working on ask {askId}. It was cancelled by {publicName}. Reason: {reason}. " ++
          "No reply is owed.")
        .owing owingDueAtMs "ambiguous ready incarnation for owing agent"
    let _ ← updateRows Tab.obligations (fun o => o.askMessageId = askId)
      (fun o => { o with
        cancellationResponseMessageId := some waitingMessageId,
        cancellationOwingMessageId := some owingMessageId })
    let settled ← settleObligations now
      (fun o => o.askMessageId = askId ∧ o.waitingAgentId = waiter) .cancelled
      (some waiter) reason
    require (settled = 1)
      (.conflict "obligation changed before waiter retirement committed")
    return some { askMessageId := askId, messageId := owingMessageId,
                  delivery := owingDelivery }

/-- Open and in-progress asks an agent is waiting on, oldest first. -/
def Store.unresolvedAsksWaitingOn (s : Store) (waiting : LogicalAgentId) :
    List ObligationRow :=
  (s.obligations.rows.filter fun o =>
    o.waitingAgentId = waiting ∧ o.state.Unresolved).insertionSort
      fun a b => a.creationSequence ≤ b.creationSequence

/-- Result of ending a socket waiter as a delivery target. -/
structure EndedWaiter where
  cancelledAskIds : List MessageId
  owingNotices : List OwingRetireNotice
deriving DecidableEq, Repr

/-- End a socket waiter, cancelling its waits with optional owing schedules. -/
def endSocketWaiterWithOwingDue (now : Millis) (logicalAgentId : LogicalAgentId)
    (owingDueAtMs : MessageId → Option Millis) (reason : String) : StoreTx EndedWaiter := do
  query (requireActiveSocketWaiter logicalAgentId)
  let s ← reads id
  let publicName := (s.publicName logicalAgentId).getD ""
  let changed ← updateRows Tab.logicalAgents
    (fun l => l.id = logicalAgentId ∧ l.ActiveWaiter)
    (fun l => { l with targetingEndedAtMs := some now })
  require (changed = 1)
    (.conflict s!"logical agent {logicalAgentId} is not an active socket waiter")
  let asks := s.unresolvedAsksWaitingOn logicalAgentId
  let notices ← forEach asks fun o =>
    endAsk now logicalAgentId publicName reason (owingDueAtMs o.askMessageId) o
  let _ ← updateRows Tab.deliveries
    (fun d => d.recipientAgentId = some logicalAgentId ∧
      d.deliveryTransport = .socketInbox ∧ d.outcome = .queued)
    (fun d => { d with outcome := .targetUnavailable, resolvedAtMs := some now })
  return { cancelledAskIds := asks.map (·.askMessageId),
           owingNotices := notices.filterMap id }

-- ============================================================================
-- Cancellations while away
-- ============================================================================

/-- One closed ask whose notice no receive path has accepted, as its side is told of it. -/
structure CancelledWhileAway where
  askMessageId : MessageId
  state : ObligationState
  reason : String
  cancelledBy : Option LogicalAgentId
  cancelledAtMs : Millis
deriving DecidableEq, Repr

namespace ObligationRow

/-- The agent of that side of the ask. -/
def party (o : ObligationRow) : CancellationAudience → LogicalAgentId
  | .waiting => o.waitingAgentId
  | .owing => o.owingAgentId

/-- The notice that was recorded for that side when the ask was closed. -/
def notice (o : ObligationRow) : CancellationAudience → Option MessageId
  | .waiting => o.cancellationResponseMessageId
  | .owing => o.cancellationOwingMessageId

/-- The closed ask as a row of the query; the reason is read as a text. -/
def whileAway (o : ObligationRow) : Except StoreError CancelledWhileAway :=
  match o.cancellationReason with
  | none => .error (.sql .invalidColumnType)
  | some reason => .ok
      { askMessageId := o.askMessageId, state := o.state, reason,
        cancelledBy := o.cancellationRequesterAgentId, cancelledAtMs := o.lastActivityAtMs }

end ObligationRow

namespace Store

/-- The creation times of the incarnations of the agent that meet `p`. -/
def creations (s : Store) (agent : LogicalAgentId) (p : IncarnationRow → Prop)
    [DecidablePred p] : List Millis :=
  (s.incarnations.rows.filter fun i => i.logicalAgentId = agent ∧ p i).map (·.createdAtMs)

/-- `COALESCE(MAX(created_at_ms) of those before the newest, 0)`: where the window begins. -/
def awaySince (s : Store) (agent : LogicalAgentId) : Millis :=
  let created := s.creations agent fun _ => True
  (created.filter fun t => ∃ newest ∈ created.max?, t < newest).max?.getD 0

/-- `COALESCE(MAX(created_at_ms) of the Ready ones, i64::MAX)`: where the window ends. -/
def awayUntil (s : Store) (agent : LogicalAgentId) : Millis :=
  (s.creations agent fun i => i.state = .ready).max?.getD i64Max

/-- The ask was closed without a reply, and the side of `agent` has not received the notice;
    the owing side is told only of asks that have one. -/
def Unreceived (s : Store) (audience : CancellationAudience) (agent : LogicalAgentId)
    (o : ObligationRow) : Prop :=
  o.party audience = agent ∧ (o.state = .cancelled ∨ o.state = .orphaned) ∧
    (audience = .owing → (o.notice audience).isSome) ∧
    ¬ ∃ d ∈ s.deliveries.rows, o.notice audience = some d.messageId ∧ d.outcome = .accepted

instance (s : Store) (audience : CancellationAudience) (agent : LogicalAgentId) :
    DecidablePred (s.Unreceived audience agent) := fun o => by
  unfold Unreceived
  infer_instance

/-- The closed asks that the side of `agent` has not received and that were closed in its window,
    the twenty latest. -/
def closedWhileAway (s : Store) (audience : CancellationAudience) (agent : LogicalAgentId) :
    List ObligationRow :=
  ((s.obligations.rows.filter fun o => s.Unreceived audience agent o ∧
    s.awaySince agent < o.lastActivityAtMs ∧ o.lastActivityAtMs ≤ s.awayUntil agent).insertionSort
      fun a b => b.lastActivityAtMs ≤ a.lastActivityAtMs).take 20

end Store

/-- The query of both sides. -/
def cancelledSide (audience : CancellationAudience) (agent : LogicalAgentId) :
    Query (List CancelledWhileAway) := fun s =>
  if (s.logicalAgents.find agent).isSome then
    (s.closedWhileAway audience agent).mapM (·.whileAway)
  else .error (.conflict "logical agent is absent")

/-- Cancellations of this agent's waits that no pane has received. -/
def cancelledWhileAway (waitingAgentId : LogicalAgentId) : Query (List CancelledWhileAway) :=
  cancelledSide .waiting waitingAgentId

/-- Cancellations of asks this agent owed that no pane has received. -/
def cancelledOwingWhileAway (owingAgentId : LogicalAgentId) : Query (List CancelledWhileAway) :=
  cancelledSide .owing owingAgentId

end Kelpie
