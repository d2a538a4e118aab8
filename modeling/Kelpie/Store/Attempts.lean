/-
  Kelpie.Store.Attempts

  The outcomes of external attempts: submission, acceptance, rejection and the
  ambiguous end, with the delivery rows and the obligations they settle.
-/

import Kelpie.Store.Lifecycle

namespace Kelpie

open Lib Lib.Tx

-- ============================================================================
-- Submission
-- ============================================================================

/-- The exact prepared request enters the external write boundary. -/
def submitAttempt (operationId : OperationId) (attemptNumber : Nat) (requestId : String) :
    StoreTx Unit := do
  let changed ← updateRows Tab.operationAttempts
    (fun a => a.operationId = operationId ∧ a.attemptNumber = attemptNumber ∧
      a.requestId = requestId ∧ a.phase = .prepared)
    (fun a => { a with phase := .submitted })
  require (changed = 1) (.conflict "attempt is not the exact prepared request")

/-- Persist that a prepared request is entering the external write boundary. -/
def markSubmitted (now : Millis) (operationId : OperationId) (attemptNumber : Nat)
    (requestId : String) : StoreTx Unit := do
  submitAttempt operationId attemptNumber requestId
  let _ ← updateRows Tab.deliveries
    (fun d => d.operationId = some operationId ∧ d.outcome = .pending)
    (fun d => { d with
      outcome := .submitted, attemptedAtMs := some now, herdrRequestId := some requestId })

/-- Move a queued delivery to `submitted` immediately before the Herdr write. -/
def submitQueuedDelivery (operationId : OperationId) (attemptNumber : Nat)
    (requestId : String) (nowMs : Millis) : StoreTx Unit := do
  submitAttempt operationId attemptNumber requestId
  let deliveryChanged ← updateRows Tab.deliveries
    (fun d => d.operationId = some operationId ∧ d.outcome = .queued ∧
      d.scheduledAtMs ≤ nowMs)
    (fun d => { d with
      outcome := .submitted, attemptedAtMs := some nowMs,
      herdrRequestId := some requestId })
  require (deliveryChanged = 1)
    (.conflict "queued delivery is no longer due or was cancelled before the Herdr write")

-- ============================================================================
-- Ambiguous and rejected results
-- ============================================================================

/-- Settle the exact live operation with `outcome`. -/
def settleOperation (now : Millis) (operationId : OperationId)
    (incarnationId : IncarnationId) (outcome : OperationOutcome) (stale : StoreError) :
    StoreTx Unit := do
  let changed ← updateRows Tab.operations
    (fun o => o.Owns operationId incarnationId ∧ o.outcome.Live)
    (fun o => { o with outcome, resolvedAtMs := some now })
  require (changed = 1) stale

/-- `mark_unknown_with_clear_spacing`'s effect on the queued prompts of the incarnation:
    they wait until the settle delay after the last submitted attempt. -/
def postponeQueuedPrompts (operationId : OperationId) (incarnationId : IncarnationId)
    (delayMs : Millis) : StoreTx Unit := do
  let attempts ← reads (·.operationAttempts)
  let starts : List Millis := (attempts.rows.filter fun a =>
    a.operationId = operationId ∧ a.phase ≠ .prepared).map (·.startedAtMs)
  match starts.max? with
  | none => pure ()
  | some lastStart =>
    let _ ← updateRows Tab.deliveries
      (fun d => d.recipientIncarnationId = some incarnationId ∧ d.outcome = .queued)
      (fun d => { d with scheduledAtMs := max d.scheduledAtMs (sqlAdd lastStart delayMs) })

/-- Mark an attempted operation unknown, with its deliveries, and space the next prompt if it was
    a clear. -/
def markUnknownWithClearSpacing (now : Millis) (operationId : OperationId)
    (incarnationId : IncarnationId) (evidence : String)
    (promptSettleDelayMs : Option Millis) : StoreTx Unit := do
  settleOperation now operationId incarnationId .unknown
    (.conflict "unknown result does not own the current operation")
  let _ ← updateLastAttempt operationId fun a =>
    { a with phase := .unknown, evidence := some evidence, resolvedAtMs := some now }
  let _ ← updateRows Tab.incarnations (fun i => i.id = incarnationId ∧ i.state = .starting)
    (fun i => { i with state := .unknown })
  let _ ← updateRows Tab.deliveries
    (fun d => d.operationId = some operationId ∧
      (d.outcome = .pending ∨ d.outcome = .submitted ∨ d.outcome = .accepted ∨
        d.outcome = .queued))
    (fun d => { d with outcome := .unknown, resolvedAtMs := some now })
  match promptSettleDelayMs with
  | some delayMs => postponeQueuedPrompts operationId incarnationId delayMs
  | none => pure ()

/-- Preserve an ambiguous external result without retrying it. -/
def markUnknown (now : Millis) (operationId : OperationId) (incarnationId : IncarnationId)
    (evidence : String) : StoreTx Unit :=
  markUnknownWithClearSpacing now operationId incarnationId evidence none

/-- Preserve an ambiguous clear and durably postpone queued follow-up prompts. -/
def markClearUnknown (now : Millis) (operationId : OperationId)
    (incarnationId : IncarnationId) (evidence : String) (promptSettleDelayMs : Millis) :
    StoreTx Unit := do
  let operations ← reads (·.operations)
  require (∃ o ∈ operations.find operationId, o.kind = .clear)
    (.conflict "clear unknown result does not name a clear operation")
  markUnknownWithClearSpacing now operationId incarnationId evidence
    (some promptSettleDelayMs)

/-- Journal one retryable rejection without ending the operation. -/
def rejectAttempt (now : Millis) (operationId : OperationId)
    (incarnationId : IncarnationId) (evidence : String) : StoreTx Unit := do
  let operations ← reads (·.operations)
  require (∃ o ∈ operations.find operationId, o.outcome = .pending ∧
      o.targetIncarnationId = incarnationId)
    (.conflict "retryable rejection does not own the current pending operation")
  let changed ← updateLastAttempt operationId fun a =>
    { a with phase := .rejected, evidence := some evidence, resolvedAtMs := some now }
  require (changed = 1) (.conflict "retryable rejection has no attempt to resolve")

/-- Persist a decisive structured Herdr rejection. -/
def markRejected (now : Millis) (operationId : OperationId) (incarnationId : IncarnationId)
    (evidence : String) (deliveryOutcome : DeliveryOutcome) : StoreTx Unit := do
  settleOperation now operationId incarnationId .failed
    (.conflict "rejection does not own the current operation")
  let _ ← updateLastAttempt operationId fun a =>
    { a with phase := .rejected, evidence := some evidence, resolvedAtMs := some now }
  let _ ← updateRows Tab.incarnations (fun i => i.id = incarnationId ∧ i.state = .starting)
    (fun i => { i with state := .failed })
  let _ ← updateRows Tab.deliveries
    (fun d => d.operationId = some operationId ∧ d.outcome.Live)
    (fun d => { d with outcome := deliveryOutcome, resolvedAtMs := some now })

-- ============================================================================
-- Acceptance
-- ============================================================================

/-- The messages delivered by one operation. -/
def Store.messagesOfOperation (s : Store) (operationId : OperationId) : List MessageRow :=
  (s.deliveries.rows.filter fun d => d.operationId = some operationId).filterMap
    fun d => s.messages.find d.messageId

/-- The final reply among some messages, with the ask it answers. -/
def finalReplyAmong (messages : List MessageRow) : Option (MessageId × MessageId) :=
  messages.findSome? fun m =>
    if m.kind = .reply ∧ m.disposition = some .final then
      m.replyToMessageId.map fun ask => (ask, m.id)
    else none

/-- `UPDATE obligations SET state = 'resolved' ... WHERE state IN ('open', 'in_progress')`. -/
def resolveObligation (now : Millis) (askMessageId resolvingMessageId : MessageId) :
    StoreTx Nat :=
  updateRows Tab.obligations
    (fun o => o.askMessageId = askMessageId ∧ o.state.Unresolved)
    (fun o => { o with
      state := .resolved, lastActivityAtMs := now,
      resolvingMessageId := some resolvingMessageId })

/-- Arm the reminder of an ask whose delivery was accepted. -/
def armReminder (now : Millis) (operationId : OperationId) : StoreTx Unit := do
  let messages ← reads (·.messagesOfOperation operationId)
  match messages.find? (·.kind = .ask) with
  | none => pure ()
  | some ask =>
    let _ ← updateRows Tab.obligationReminders
      (fun r => r.askMessageId = ask.id ∧ r.disabledAtMs = none ∧ r.suspendedAtMs = none)
      (fun r => { r with
        nextDueAtMs := some (sqlAdd now r.intervalMs), boundaryCheckAtMs := some now })

/-- Commit Herdr acceptance with the prompt's submission evidence. -/
def acceptDeliveryWithSubmission (now : Millis) (operationId : OperationId)
    (incarnationId : IncarnationId) (paneId terminalId : String)
    (submission : Option String) : StoreTx Unit := do
  let incarnations ← reads (·.incarnations)
  require (∃ i ∈ incarnations.find incarnationId, i.ReadyOn paneId terminalId)
    (.conflict "delivery response belongs to a replacement runtime")
  let changed ← updateRows Tab.operations
    (fun o => o.Owns operationId incarnationId ∧ o.outcome = .pending)
    (fun o => { o with outcome := .succeeded, resolvedAtMs := some now })
    (OperationRow.succeeded_id now)
  require (changed = 1) (.conflict "delivery operation is no longer pending")
  -- The number of rows this changes is not looked at.
  let _ ← updateRows Tab.deliveries
    (fun d => d.operationId = some operationId ∧
      d.recipientIncarnationId = some incarnationId ∧ d.outcome = .submitted)
    (fun d => { d with outcome := .accepted, resolvedAtMs := some now })
  let _ ← updateLastAttempt operationId fun a =>
    { a with phase := .responseCommitted, resolvedAtMs := some now,
             evidence := submission.or a.evidence }
  armReminder now operationId
  let messages ← reads (·.messagesOfOperation operationId)
  match finalReplyAmong messages with
  | none => pure ()
  | some (askMessageId, resolvingMessageId) =>
    let resolved ← resolveObligation now askMessageId resolvingMessageId
    require (resolved = 1)
      (.conflict "final delivery acceptance cannot resolve a terminal or absent obligation")

end Kelpie
