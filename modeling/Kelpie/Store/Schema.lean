/-
  Kelpie.Store.Schema

  The tables of the durable store, as the last migration leaves them, and the
  statements that transactions are made of.

  Every table carries the uniqueness of its primary key.  The partial unique
  index on live idempotency keys and the foreign keys are checked where rows are
  inserted; a violation abandons the transaction.
-/

import Kelpie.Domain
import Kelpie.Lib.Rows

namespace Kelpie

open Lib

-- ============================================================================
-- Rows
-- ============================================================================

/-- A row of `logical_agents`: an agent that outlives its processes. -/
structure LogicalAgentRow where
  id : LogicalAgentId
  publicName : String
  parent : Parent
  createdAtMs : Millis
  deliveryTransport : DeliveryTransport
  targetingEndedAtMs : Option Millis := none
  waiterLastSeenAtMs : Option Millis := none
  archivedAtMs : Option Millis := none

/-- A row of `incarnations`: one process of an agent, the seat it was meant for and the seat it
    was observed on. -/
structure IncarnationRow where
  id : IncarnationId
  logicalAgentId : LogicalAgentId
  herdrSession : String
  intendedPaneId : String
  expectedTerminalId : String
  observedPaneId : Option String := none
  observedTerminalId : Option String := none
  backendKind : String
  backendArgs : List String
  workingDirectory : String
  createdAtMs : Millis
  terminalAtMs : Option Millis := none
  terminalReason : Option String := none
  state : IncarnationState
  observedNativeSession : Option NativeSession := none
  requestedModel : Option String := none
  requestedProvider : Option String := none
  requestedEffort : Option String := none
  pendingRenameTo : Option String := none
  nativeSessionRotatedAtMs : Option Millis := none

/-- A row of `operations`: a request that Kelpie carries out at most once. -/
structure OperationRow where
  id : OperationId
  idempotencyKey : String
  kind : OperationKind
  targetIncarnationId : IncarnationId
  intent : OperationIntent
  createdAtMs : Millis
  resolvedAtMs : Option Millis := none
  outcome : OperationOutcome

/-- A row of `operation_attempts`: one try of an operation. -/
structure OperationAttemptRow where
  operationId : OperationId
  attemptNumber : Nat
  requestId : String
  startedAtMs : Millis
  resolvedAtMs : Option Millis := none
  phase : AttemptPhase
  evidence : Option String := none

/-- The primary key of the table. -/
abbrev OperationAttemptRow.key (a : OperationAttemptRow) : OperationId × Nat :=
  (a.operationId, a.attemptNumber)

/-- A row of `operator_notices`. -/
structure OperatorNoticeRow where
  id : OperatorNoticeId
  body : String
  createdAtMs : Millis

/-- A row of `messages`: a tell, an ask, or a reply to an ask. -/
structure MessageRow where
  id : MessageId
  senderAgentId : Option LogicalAgentId
  recipientAgentId : LogicalAgentId
  kind : MessageKind
  body : String
  createdAtMs : Millis
  replyToMessageId : Option MessageId := none
  disposition : Option ReplyDisposition := none
  createsObligation : Bool

/-- A row of `obligations`: who owes whom the answer to an ask, and how it was settled. -/
structure ObligationRow where
  askMessageId : MessageId
  owingAgentId : LogicalAgentId
  waitingAgentId : LogicalAgentId
  creationSequence : Nat
  createdAtMs : Millis
  lastActivityAtMs : Millis
  state : ObligationState
  resolvingMessageId : Option MessageId := none
  cancellationRequesterAgentId : Option LogicalAgentId := none
  cancellationReason : Option String := none
  cancellationResponseMessageId : Option MessageId := none
  cancellationOwingMessageId : Option MessageId := none
  replyDelivery : ReplyDelivery
  unavailableSinceMs : Option Millis := none

/-- One delivery of one message.  The row has no declared primary key, so it
    goes by its `rowid`. -/
structure DeliveryRow where
  rowid : Nat
  messageId : MessageId
  deliveryTransport : DeliveryTransport
  recipientIncarnationId : Option IncarnationId := none
  recipientAgentId : Option LogicalAgentId := none
  attemptNumber : Nat := 1
  scheduledAtMs : Millis
  attemptedAtMs : Option Millis := none
  resolvedAtMs : Option Millis := none
  herdrRequestId : Option String := none
  outcome : DeliveryOutcome
  operationId : Option OperationId := none
  cancellationRequesterAgentId : Option LogicalAgentId := none
  cancellationReason : Option String := none
  cancelledAtMs : Option Millis := none

/-- A row of `obligation_reminders`: when the owing agent is reminded of an ask. -/
structure ObligationReminderRow where
  askMessageId : MessageId
  intervalMs : Millis
  nextDueAtMs : Option Millis := none
  snoozedUntilMs : Option Millis := none
  disabledAtMs : Option Millis := none
  suspendedAtMs : Option Millis := none
  lastAcceptedAtMs : Option Millis := none
  boundaryCheckAtMs : Option Millis := none
  sawWorkingAtMs : Option Millis := none

/-- A row of `reminder_attempts`: one reminder that was sent. -/
structure ReminderAttemptRow where
  id : Nat
  askMessageId : MessageId
  recipientIncarnationId : IncarnationId
  requestId : String
  startedAtMs : Millis
  resolvedAtMs : Option Millis := none
  phase : AttemptPhase
  evidence : Option String := none

/-- A row of `schedules`: a tell or a renew that repeats, and the cycle it is in. -/
structure ScheduleRow where
  id : ScheduleId
  kind : ScheduleKind
  logicalAgentId : LogicalAgentId
  incarnationId : Option IncarnationId := none
  requesterAgentId : LogicalAgentId
  body : Option String := none
  intervalMs : Millis
  clock : ScheduleClock
  nextFireAtMs : Millis
  activeRemainingMs : Option Millis := none
  occupancySampledAtMs : Option Millis := none
  cycle : Nat
  state : ScheduleState
  idempotencyKey : Option String := none
  createdAtMs : Millis
  resolvedAtMs : Option Millis := none
  terminationReason : Option String := none

/-- A row of `renews`: one cycle of the renewal of an agent's context, and what it has come to. -/
structure RenewRow where
  id : RenewId
  logicalAgentId : LogicalAgentId
  incarnationId : IncarnationId
  requesterAgentId : LogicalAgentId
  preparePrompt : String
  resumePrompt : String
  onTimeout : RenewTimeout
  prepareTimeoutMs : Millis
  everyMs : Option Millis := none
  cycle : Nat
  scheduledAtMs : Millis
  phase : RenewPhase
  askMessageId : Option MessageId := none
  prepareDeadlineMs : Option Millis := none
  preClearSession : Option NativeSession := none
  createdAtMs : Millis
  resolvedAtMs : Option Millis := none
  terminationReason : Option String := none
  clearDeadlineMs : Option Millis := none
  clearStallNotifiedAtMs : Option Millis := none
  injectNotBeforeMs : Option Millis := none
  activeRemainingMs : Option Millis := none
  occupancySampledAtMs : Option Millis := none
  scheduleId : Option ScheduleId := none

/-- A row of `renew_attempts`: one try of a step of a renew. -/
structure RenewAttemptRow where
  id : Nat
  renewId : RenewId
  incarnationId : IncarnationId
  step : RenewStep
  requestId : String
  startedAtMs : Millis
  resolvedAtMs : Option Millis := none
  phase : AttemptPhase
  evidence : Option String := none

/-- The key under which a socket waiter was registered. -/
structure SocketWaiterKeyRow where
  idempotencyKey : String
  logicalAgentId : LogicalAgentId

/-- The key under which a reply was queued to a sink that has no operation. -/
structure MessageKeyRow where
  idempotencyKey : String
  messageId : MessageId

/-- A row of `schedule_firings`: what became of one cycle of a schedule. -/
structure ScheduleFiringRow where
  scheduleId : ScheduleId
  cycle : Nat
  dueAtMs : Millis
  firedAtMs : Millis
  outcome : ScheduleFiringOutcome
  messageId : Option MessageId := none
  renewId : Option RenewId := none
  detail : Option String := none

/-- The primary key of the table. -/
abbrev ScheduleFiringRow.key (f : ScheduleFiringRow) : ScheduleId × Nat :=
  (f.scheduleId, f.cycle)

/-- A row of `ask_pull_leases`: the lease under which the replies to an ask are polled. -/
structure AskPullLeaseRow where
  leaseId : Nat
  askMessageId : MessageId
  waitingAgentId : LogicalAgentId
  claimedAtMs : Millis

-- ============================================================================
-- The store
-- ============================================================================

/-- The durable tables, the two sequences whose rows can be deleted, and the
    operation floor that a live daemon claims. -/
structure Store where
  logicalAgents : Table LogicalAgentRow.id := .empty
  incarnations : Table IncarnationRow.id := .empty
  operations : Table OperationRow.id := .empty
  operationAttempts : Table OperationAttemptRow.key := .empty
  operatorNotices : Table OperatorNoticeRow.id := .empty
  messages : Table MessageRow.id := .empty
  obligations : Table ObligationRow.askMessageId := .empty
  deliveries : Table DeliveryRow.rowid := .empty
  obligationReminders : Table ObligationReminderRow.askMessageId := .empty
  reminderAttempts : Table ReminderAttemptRow.id := .empty
  reminderAttemptsSeq : Nat := 0
  schedules : Table ScheduleRow.id := .empty
  renews : Table RenewRow.id := .empty
  renewAttempts : Table RenewAttemptRow.id := .empty
  socketWaiterKeys : Table SocketWaiterKeyRow.idempotencyKey := .empty
  socketInboxKeys : Table MessageKeyRow.idempotencyKey := .empty
  scheduleFirings : Table ScheduleFiringRow.key := .empty
  askPullLeases : Table AskPullLeaseRow.askMessageId := .empty
  askPullLeasesSeq : Nat := 0
  askPullKeys : Table MessageKeyRow.idempotencyKey := .empty
  liveOperationFloor : Option OperationId := none

/-- The store right after the migrations. -/
def Store.empty : Store := {}

/-- A store transaction: it commits with a result, or fails and rolls back. -/
abbrev StoreTx := Tx Store StoreError

/-- A read-only query that may fail on what it finds. -/
abbrev Query (α : Type) := Store → Except StoreError α

-- ============================================================================
-- The tables by name
-- ============================================================================

/-! Each name below is one table of the store, for the statements of
    `Kelpie.Lib.Rows`. -/

namespace Tab

/-- `logical_agents` -/
def logicalAgents : TableOf Store LogicalAgentRow.id :=
  ⟨(·.logicalAgents), fun t s => { s with logicalAgents := t }⟩

/-- `incarnations` -/
def incarnations : TableOf Store IncarnationRow.id :=
  ⟨(·.incarnations), fun t s => { s with incarnations := t }⟩

/-- `operations` -/
def operations : TableOf Store OperationRow.id :=
  ⟨(·.operations), fun t s => { s with operations := t }⟩

/-- `operation_attempts` -/
def operationAttempts : TableOf Store OperationAttemptRow.key :=
  ⟨(·.operationAttempts), fun t s => { s with operationAttempts := t }⟩

/-- `operator_notices` -/
def operatorNotices : TableOf Store OperatorNoticeRow.id :=
  ⟨(·.operatorNotices), fun t s => { s with operatorNotices := t }⟩

/-- `messages` -/
def messages : TableOf Store MessageRow.id :=
  ⟨(·.messages), fun t s => { s with messages := t }⟩

/-- `obligations` -/
def obligations : TableOf Store ObligationRow.askMessageId :=
  ⟨(·.obligations), fun t s => { s with obligations := t }⟩

/-- `deliveries` -/
def deliveries : TableOf Store DeliveryRow.rowid :=
  ⟨(·.deliveries), fun t s => { s with deliveries := t }⟩

/-- `obligation_reminders` -/
def obligationReminders : TableOf Store ObligationReminderRow.askMessageId :=
  ⟨(·.obligationReminders), fun t s => { s with obligationReminders := t }⟩

/-- `reminder_attempts` -/
def reminderAttempts : TableOf Store ReminderAttemptRow.id :=
  ⟨(·.reminderAttempts), fun t s => { s with reminderAttempts := t }⟩

/-- `schedules` -/
def schedules : TableOf Store ScheduleRow.id :=
  ⟨(·.schedules), fun t s => { s with schedules := t }⟩

/-- `renews` -/
def renews : TableOf Store RenewRow.id :=
  ⟨(·.renews), fun t s => { s with renews := t }⟩

/-- `renew_attempts` -/
def renewAttempts : TableOf Store RenewAttemptRow.id :=
  ⟨(·.renewAttempts), fun t s => { s with renewAttempts := t }⟩

/-- `socket_waiter_keys` -/
def socketWaiterKeys : TableOf Store SocketWaiterKeyRow.idempotencyKey :=
  ⟨(·.socketWaiterKeys), fun t s => { s with socketWaiterKeys := t }⟩

/-- `socket_inbox_keys` -/
def socketInboxKeys : TableOf Store MessageKeyRow.idempotencyKey :=
  ⟨(·.socketInboxKeys), fun t s => { s with socketInboxKeys := t }⟩

/-- `schedule_firings` -/
def scheduleFirings : TableOf Store ScheduleFiringRow.key :=
  ⟨(·.scheduleFirings), fun t s => { s with scheduleFirings := t }⟩

/-- `ask_pull_leases` -/
def askPullLeases : TableOf Store AskPullLeaseRow.askMessageId :=
  ⟨(·.askPullLeases), fun t s => { s with askPullLeases := t }⟩

/-- `ask_pull_keys` -/
def askPullKeys : TableOf Store MessageKeyRow.idempotencyKey :=
  ⟨(·.askPullKeys), fun t s => { s with askPullKeys := t }⟩

end Tab

-- ============================================================================
-- Edits that several transactions make
-- ============================================================================

theorem OperationRow.succeeded_id (now : Millis) (o : OperationRow) :
    ({ o with outcome := .succeeded, resolvedAtMs := some now } : OperationRow).id = o.id := rfl

theorem DeliveryRow.accepted_id (now : Millis) (d : DeliveryRow) :
    ({ d with outcome := .accepted, resolvedAtMs := some now } : DeliveryRow).rowid = d.rowid := rfl

theorem IncarnationRow.learned_id (live : NativeSession) (i : IncarnationRow) :
    ({ i with observedNativeSession := some live } : IncarnationRow).id = i.id := rfl

theorem IncarnationRow.rotated_id (now : Millis) (live : NativeSession) (i : IncarnationRow) :
    ({ i with observedNativeSession := some live, nativeSessionRotatedAtMs := some now } :
      IncarnationRow).id = i.id := rfl

theorem IncarnationRow.renamed_id (i : IncarnationRow) :
    ({ i with pendingRenameTo := none } : IncarnationRow).id = i.id := rfl

end Kelpie
