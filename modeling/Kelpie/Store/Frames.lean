/-
  Kelpie.Store.Frames

  A relation between stores that does not look at the tables a transaction writes
  is kept by it.

  Each instance names these tables, so that a relation over a few tables has its
  frame from the `Ignores` instances of the others, and is proved only for the
  transactions that write what it looks at.
-/

import Kelpie.Store.Calls

namespace Kelpie

open Lib Lib.Tx

-- The instance of a transaction holds one instance for each of its statements and for each
-- table that they touch; those of the long transactions are larger than the default bound.
set_option synthInstance.maxSize 100000

/-- `R` does not look at the sequences and the operation floor, which are no tables. -/
class IgnoresCounters (R : Store → Store → Prop) : Prop where
  reminderAttempts : ∀ s n, R s { s with reminderAttemptsSeq := n }
  askPullLeases : ∀ s n, R s { s with askPullLeasesSeq := n }
  operationFloor : ∀ s floor, R s { s with liveOperationFloor := floor }

-- ============================================================================
-- Tables apart
-- ============================================================================

instance : Apart Tab.incarnations Tab.logicalAgents := ⟨fun _ _ => rfl⟩
instance : Apart Tab.incarnations Tab.operations := ⟨fun _ _ => rfl⟩
instance : Apart Tab.incarnations Tab.operationAttempts := ⟨fun _ _ => rfl⟩
instance : Apart Tab.incarnations Tab.operatorNotices := ⟨fun _ _ => rfl⟩
instance : Apart Tab.incarnations Tab.messages := ⟨fun _ _ => rfl⟩
instance : Apart Tab.incarnations Tab.obligations := ⟨fun _ _ => rfl⟩
instance : Apart Tab.incarnations Tab.deliveries := ⟨fun _ _ => rfl⟩
instance : Apart Tab.incarnations Tab.obligationReminders := ⟨fun _ _ => rfl⟩
instance : Apart Tab.incarnations Tab.reminderAttempts := ⟨fun _ _ => rfl⟩
instance : Apart Tab.incarnations Tab.schedules := ⟨fun _ _ => rfl⟩
instance : Apart Tab.incarnations Tab.renews := ⟨fun _ _ => rfl⟩
instance : Apart Tab.incarnations Tab.renewAttempts := ⟨fun _ _ => rfl⟩
instance : Apart Tab.incarnations Tab.socketWaiterKeys := ⟨fun _ _ => rfl⟩
instance : Apart Tab.incarnations Tab.socketInboxKeys := ⟨fun _ _ => rfl⟩
instance : Apart Tab.incarnations Tab.scheduleFirings := ⟨fun _ _ => rfl⟩
instance : Apart Tab.incarnations Tab.askPullLeases := ⟨fun _ _ => rfl⟩
instance : Apart Tab.incarnations Tab.askPullKeys := ⟨fun _ _ => rfl⟩

instance {R₀} [hR : Stepwise R₀] : IgnoresCounters (Over Tab.incarnations R₀) :=
  ⟨fun _ _ => hR.refl _, fun _ _ => hR.refl _, fun _ _ => hR.refl _⟩

instance : Apart Tab.operations Tab.logicalAgents := ⟨fun _ _ => rfl⟩
instance : Apart Tab.operations Tab.incarnations := ⟨fun _ _ => rfl⟩
instance : Apart Tab.operations Tab.operationAttempts := ⟨fun _ _ => rfl⟩
instance : Apart Tab.operations Tab.operatorNotices := ⟨fun _ _ => rfl⟩
instance : Apart Tab.operations Tab.messages := ⟨fun _ _ => rfl⟩
instance : Apart Tab.operations Tab.obligations := ⟨fun _ _ => rfl⟩
instance : Apart Tab.operations Tab.deliveries := ⟨fun _ _ => rfl⟩
instance : Apart Tab.operations Tab.obligationReminders := ⟨fun _ _ => rfl⟩
instance : Apart Tab.operations Tab.reminderAttempts := ⟨fun _ _ => rfl⟩
instance : Apart Tab.operations Tab.schedules := ⟨fun _ _ => rfl⟩
instance : Apart Tab.operations Tab.renews := ⟨fun _ _ => rfl⟩
instance : Apart Tab.operations Tab.renewAttempts := ⟨fun _ _ => rfl⟩
instance : Apart Tab.operations Tab.socketWaiterKeys := ⟨fun _ _ => rfl⟩
instance : Apart Tab.operations Tab.socketInboxKeys := ⟨fun _ _ => rfl⟩
instance : Apart Tab.operations Tab.scheduleFirings := ⟨fun _ _ => rfl⟩
instance : Apart Tab.operations Tab.askPullLeases := ⟨fun _ _ => rfl⟩
instance : Apart Tab.operations Tab.askPullKeys := ⟨fun _ _ => rfl⟩

instance {R₀} [hR : Stepwise R₀] : IgnoresCounters (Over Tab.operations R₀) :=
  ⟨fun _ _ => hR.refl _, fun _ _ => hR.refl _, fun _ _ => hR.refl _⟩

-- ============================================================================
-- Edits of obligations and new messages
-- ============================================================================

namespace ObligationRow

/-- The same ask, waited on by the same agent over the same reverse path. -/
structure SameWait (o o' : ObligationRow) : Prop where
  ask : o'.askMessageId = o.askMessageId
  waiting : o'.waitingAgentId = o.waitingAgentId
  replyDelivery : o'.replyDelivery = o.replyDelivery

/-- An edit of the state: neither the clock of an absence nor the notice to the waiting side
    changes. -/
structure Settles (o o' : ObligationRow) : Prop extends SameWait o o' where
  clock : o'.unavailableSinceMs = o.unavailableSinceMs
  notice : o'.cancellationResponseMessageId = o.cancellationResponseMessageId

/-- An edit of the state that does not discard the ask. -/
structure Resolves (o o' : ObligationRow) : Prop extends Settles o o' where
  state : o'.state = o.state ∨ ¬ o'.state.Discarded

/-- An edit that closes an unresolved ask with a reason. -/
structure Closes (o o' : ObligationRow) : Prop extends Settles o o' where
  closed : o' = o ∨ (o.state.Unresolved ∧ o'.cancellationReason.isSome)

/-- An edit that resolves an unresolved ask. -/
structure Fulfils (o o' : ObligationRow) : Prop extends Resolves o o' where
  closed : o' = o ∨ o.state.Unresolved

/-- An edit of the notices. -/
structure Annotates (o o' : ObligationRow) : Prop extends SameWait o o' where
  clock : o'.unavailableSinceMs = o.unavailableSinceMs
  state : o'.state = o.state
  owing : o'.owingAgentId = o.owingAgentId
  activity : o'.lastActivityAtMs = o.lastActivityAtMs
  reason : o'.cancellationReason = o.cancellationReason

/-- An edit of the clock of an unresolved ask. -/
structure Observes (o o' : ObligationRow) : Prop extends SameWait o o' where
  notice : o'.cancellationResponseMessageId = o.cancellationResponseMessageId
  state : o'.state = o.state
  unresolved : o' = o ∨ o.state.Unresolved

/-- An obligation as it is recorded. -/
structure Opens (t : Table ObligationRow.askMessageId) (o : ObligationRow) : Prop where
  state : o.state = .open
  clock : o.unavailableSinceMs = none
  notice : o.cancellationResponseMessageId = none

theorem SameWait.rfl {o : ObligationRow} : o.SameWait o := ⟨.refl _, .refl _, .refl _⟩

theorem Settles.rfl {o : ObligationRow} : o.Settles o := ⟨.rfl, .refl _, .refl _⟩

theorem Resolves.rfl {o : ObligationRow} : o.Resolves o := ⟨.rfl, .inl (.refl _)⟩

theorem Closes.rfl {o : ObligationRow} : o.Closes o := ⟨.rfl, .inl (.refl _)⟩

theorem Fulfils.rfl {o : ObligationRow} : o.Fulfils o := ⟨.rfl, .inl (.refl _)⟩

theorem Annotates.rfl {o : ObligationRow} : o.Annotates o :=
  ⟨.rfl, .refl _, .refl _, .refl _, .refl _, .refl _⟩

theorem Observes.rfl {o : ObligationRow} : o.Observes o := ⟨.rfl, .refl _, .refl _, .inl (.refl _)⟩

end ObligationRow

namespace IncarnationRow

/-- The same incarnation, with the time of its last session rotation. -/
structure SameRotation (i i' : IncarnationRow) : Prop where
  id : i'.id = i.id
  rotated : i'.nativeSessionRotatedAtMs = i.nativeSessionRotatedAtMs

theorem SameRotation.rfl {i : IncarnationRow} : i.SameRotation i := ⟨.refl _, .refl _⟩

/-- An incarnation whose session has not rotated. -/
def Unrotated (_ : Table IncarnationRow.id) (i : IncarnationRow) : Prop :=
  i.nativeSessionRotatedAtMs = none

end IncarnationRow

namespace OperationRow

/-- The same operation: a live one may have ended in `outcome`. -/
structure Concludes (outcome : OperationOutcome) (o o' : OperationRow) : Prop where
  id : o'.id = o.id
  key : o'.idempotencyKey = o.idempotencyKey
  kind : o'.kind = o.kind
  target : o'.targetIncarnationId = o.targetIncarnationId
  intent : o'.intent = o.intent
  created : o'.createdAtMs = o.createdAtMs
  ends : o' = o ∨ o.outcome.Live ∧ o'.outcome = outcome

theorem Concludes.rfl {outcome : OperationOutcome} {o : OperationRow} : o.Concludes outcome o :=
  ⟨.refl _, .refl _, .refl _, .refl _, .refl _, .refl _, .inl (.refl _)⟩

/-- The condition holds of live operations only. -/
class OnlyLive (p : OperationRow → Prop) : Prop where
  live : ∀ o, p o → o.outcome.Live

instance : OnlyLive fun o => o.outcome.Live := ⟨fun _ h => h⟩

instance : OnlyLive fun o => o.outcome = .pending := ⟨fun _ h => .inl h⟩

instance : OnlyLive fun o => o.outcome = .accepted := ⟨fun _ h => .inr h⟩

instance {p q : OperationRow → Prop} [hq : OnlyLive q] : OnlyLive fun o => p o ∧ q o :=
  ⟨fun o h => hq.live o h.2⟩

instance (priority := low) {p q : OperationRow → Prop} [hp : OnlyLive p] :
    OnlyLive fun o => p o ∧ q o :=
  ⟨fun o h => hp.live o h.1⟩

/-- An operation that is recorded under `key`. -/
def Under (key : String) (_ : Table OperationRow.id) (o : OperationRow) : Prop :=
  o.idempotencyKey = key

end OperationRow

namespace DeliveryRow

/-- The same delivery; one of a sink, under no operation and into no incarnation, is not
    touched. -/
structure Routes (d d' : DeliveryRow) : Prop where
  rowid : d'.rowid = d.rowid
  message : d'.messageId = d.messageId
  transport : d'.deliveryTransport = d.deliveryTransport
  incarnation : d'.recipientIncarnationId = d.recipientIncarnationId
  agent : d'.recipientAgentId = d.recipientAgentId
  operation : d'.operationId = d.operationId
  sink : d.operationId = none → d.recipientIncarnationId = none → d' = d

theorem Routes.rfl {d : DeliveryRow} : d.Routes d :=
  ⟨.refl _, .refl _, .refl _, .refl _, .refl _, .refl _, fun _ _ => .refl _⟩

/-- A delivery as it is recorded: one into an inbox is under no operation and into no
    incarnation. -/
def Posted (_ : Table DeliveryRow.rowid) (d : DeliveryRow) : Prop :=
  d.deliveryTransport = .socketInbox → d.operationId = none ∧ d.recipientIncarnationId = none

/-- The condition holds of no delivery of a sink. -/
class OffSinks (p : DeliveryRow → Prop) : Prop where
  off : ∀ d, p d → ¬ (d.operationId = none ∧ d.recipientIncarnationId = none)

instance {op : OperationId} : OffSinks fun d => d.operationId = some op :=
  ⟨fun _ h h_sink => by simp [h_sink.1] at h⟩

instance {inc : IncarnationId} : OffSinks fun d => d.recipientIncarnationId = some inc :=
  ⟨fun _ h h_sink => by simp [h_sink.2] at h⟩

instance {p q : DeliveryRow → Prop} [hp : OffSinks p] : OffSinks fun d => p d ∧ q d :=
  ⟨fun d h => hp.off d h.1⟩

end DeliveryRow

/-- A message later than those of `t`. -/
structure MessageRow.Next (t : Table MessageRow.id) (m : MessageRow) : Prop where
  pos : 0 < m.id
  later : ∀ m₀ ∈ t, m₀.id < m.id

/-- A later message that is no reply. -/
structure MessageRow.Plain (t : Table MessageRow.id) (m : MessageRow) : Prop
    extends MessageRow.Next t m where
  reply : m.replyToMessageId = none

theorem MessageRow.next_of_nextId {t : Table MessageRow.id} {m : MessageRow}
    (h : m.id = t.nextId) : m.Next t where
  pos := by
    rw [h]
    exact Nat.succ_pos _
  later _ h_m₀ := h ▸ Table.key_lt_nextId h_m₀

open ObligationRow (Settles Resolves Closes Fulfils Annotates Observes Opens)
open IncarnationRow (SameRotation Unrotated)
open OperationRow (Concludes OnlyLive Under)
open MessageRow (Plain)
open DeliveryRow (Routes Posted OffSinks)

variable {R : Store → Store → Prop}

/-- `R` tolerates what becomes of the deliveries outside the sinks, and admits new ones. -/
class Mails (R : Store → Store → Prop) : Prop where
  edits : Tolerates R Tab.deliveries Routes
  adds : Admits R Tab.deliveries Posted

instance [Grows R Tab.deliveries] : Mails R := ⟨Grows.tolerates fun _ _ h => h.rowid, inferInstance⟩

instance [Grows R Tab.obligations] : Tolerates R Tab.obligations Settles :=
  Grows.tolerates fun _ _ h => h.ask

instance [Grows R Tab.obligations] : Tolerates R Tab.obligations Annotates :=
  Grows.tolerates fun _ _ h => h.ask

instance [Grows R Tab.obligations] : Tolerates R Tab.obligations Observes :=
  Grows.tolerates fun _ _ h => h.ask

instance [Tolerates R Tab.obligations Settles] : Tolerates R Tab.obligations Resolves :=
  .mono fun _ _ h => h.toSettles

instance [Tolerates R Tab.obligations Settles] : Tolerates R Tab.obligations Closes :=
  .mono fun _ _ h => h.toSettles

instance [Tolerates R Tab.obligations Resolves] : Tolerates R Tab.obligations Fulfils :=
  .mono fun _ _ h => h.toResolves

instance [Grows R Tab.incarnations] : Tolerates R Tab.incarnations SameRotation :=
  Grows.tolerates fun _ _ h => h.id

instance {outcome} [Grows R Tab.operations] : Tolerates R Tab.operations (Concludes outcome) :=
  Grows.tolerates fun _ _ h => h.id

variable [Stepwise R]

-- ============================================================================
-- Statements
-- ============================================================================

section Statements

instance {now name parent transport} [Grows R Tab.logicalAgents] :
    Keeps R (insertLogicalAgent now name parent transport) := by
  unfold insertLogicalAgent
  infer_instance

instance {row h} [Grows R Tab.logicalAgents] [Grows R Tab.incarnations] :
    Keeps R (insertIncarnation row h) := by
  unfold insertIncarnation
  infer_instance

/-- An incarnation is recorded with a session that has not rotated. -/
theorem keeps_insertIncarnation {row : IncarnationId → IncarnationRow} {h}
    [Grows R Tab.logicalAgents] [Admits R Tab.incarnations Unrotated]
    (h_row : ∀ id, (row id).nativeSessionRotatedAtMs = none) :
    Keeps R (insertIncarnation row h) := by
  have h_append : Keeps R (appendRow Tab.incarnations row h : StoreTx Nat) :=
    Admits.appendRow Unrotated fun _ => h_row _
  unfold insertIncarnation
  infer_instance

/-- The rows that name no rotation. -/
instance {agent session intended expected pane terminal backend args dir created terminalAt reason
      state native model provider effort pending h} [Grows R Tab.logicalAgents]
    [Admits R Tab.incarnations Unrotated] :
    Keeps R (insertIncarnation (fun id =>
      { id, logicalAgentId := agent, herdrSession := session, intendedPaneId := intended,
        expectedTerminalId := expected, observedPaneId := pane, observedTerminalId := terminal,
        backendKind := backend, backendArgs := args, workingDirectory := dir,
        createdAtMs := created, terminalAtMs := terminalAt, terminalReason := reason, state,
        observedNativeSession := native, requestedModel := model, requestedProvider := provider,
        requestedEffort := effort, pendingRenameTo := pending,
        nativeSessionRotatedAtMs := none }) h) :=
  keeps_insertIncarnation fun _ => rfl

/-- The edits that write no rotation. -/
instance {p} {pane terminal reason pending : IncarnationRow → Option String}
    {state : IncarnationRow → IncarnationState} {terminalAt : IncarnationRow → Option Millis}
    {native : IncarnationRow → Option NativeSession} {h_key} [DecidablePred p]
    [Tolerates R Tab.incarnations SameRotation] :
    Keeps R (updateRows Tab.incarnations p (fun i => { i with
      observedPaneId := pane i, observedTerminalId := terminal i, state := state i,
      terminalAtMs := terminalAt i, terminalReason := reason i,
      observedNativeSession := native i, pendingRenameTo := pending i }) h_key : StoreTx Nat) :=
  Tolerates.updateRows SameRotation (fun _ _ => ⟨rfl, rfl⟩) fun _ => .rfl

instance {now key kind target intent outcome onReuse resolvedAtMs}
    [Admits R Tab.operations (Under key)] :
    Keeps R (insertOperation now key kind target intent outcome onReuse resolvedAtMs) := by
  have h_row {h_key} : Keeps R (appendRow Tab.operations (fun id =>
      { id, idempotencyKey := key, kind, targetIncarnationId := target, intent,
        createdAtMs := now, resolvedAtMs, outcome }) h_key : StoreTx Nat) :=
    Admits.appendRow (Under key) fun _ => rfl
  unfold insertOperation
  infer_instance

instance {p outcome resolvedAtMs h_key} [DecidablePred p] [hp : OnlyLive p]
    [Tolerates R Tab.operations (Concludes outcome)] :
    Keeps R (updateRows Tab.operations p (fun o => { o with outcome, resolvedAtMs }) h_key :
      StoreTx Nat) :=
  Tolerates.updateRows (Concludes outcome)
    (fun o h => ⟨rfl, rfl, rfl, rfl, rfl, rfl, .inr ⟨hp.live o h, rfl⟩⟩) fun _ => .rfl

instance {p outcome h_key} [DecidablePred p] [hp : OnlyLive p]
    [Tolerates R Tab.operations (Concludes outcome)] :
    Keeps R (updateRows Tab.operations p (fun o => { o with outcome }) h_key : StoreTx Nat) :=
  Tolerates.updateRows (Concludes outcome)
    (fun o h => ⟨rfl, rfl, rfl, rfl, rfl, rfl, .inr ⟨hp.live o h, rfl⟩⟩) fun _ => .rfl

instance {now sender recipient kind body reply} [Grows R Tab.messages] :
    Keeps R (insertMessage now sender recipient kind body reply) := by
  unfold insertMessage
  infer_instance

instance {now sender recipient kind body} [Admits R Tab.messages Plain] :
    Keeps R (insertMessage now sender recipient kind body) := by
  have h_message {h_key} : Keeps R (appendRow Tab.messages (fun id =>
      { id, senderAgentId := sender, recipientAgentId := recipient, kind, body,
        createdAtMs := now,
        replyToMessageId := (none : Option (MessageId × ReplyDisposition)).map Prod.fst,
        disposition := (none : Option (MessageId × ReplyDisposition)).map Prod.snd,
        createsObligation := kind = .ask }) h_key : StoreTx Nat) :=
    Admits.appendRow Plain fun _ => ⟨MessageRow.next_of_nextId rfl, rfl⟩
  unfold insertMessage
  infer_instance

instance {now ask owing waiting delivery} [Admits R Tab.obligations Opens] :
    Keeps R (insertObligation now ask owing waiting delivery) := by
  have h_insert {n} : Keeps R (insertRow Tab.obligations
      { askMessageId := ask, owingAgentId := owing, waitingAgentId := waiting,
        creationSequence := n, createdAtMs := now, lastActivityAtMs := now, state := .open,
        replyDelivery := delivery } (.sql .constraint) : StoreTx Unit) :=
    Admits.insertRow Opens fun _ => ⟨rfl, rfl, rfl⟩
  unfold insertObligation
  infer_instance

instance {ask interval} [Grows R Tab.obligationReminders] :
    Keeps R (insertReminder ask interval) := by
  unfold insertReminder
  infer_instance

/-- The edits of the deliveries that no sink holds. -/
instance {p} [DecidablePred p] [hp : OffSinks p] {scheduled : DeliveryRow → Millis}
    {attempted resolved cancelled : DeliveryRow → Option Millis}
    {request reason : DeliveryRow → Option String} {outcome : DeliveryRow → DeliveryOutcome}
    {requester : DeliveryRow → Option LogicalAgentId} {h_key} [hR : Mails R] :
    Keeps R (updateRows Tab.deliveries p
      (fun d => { d with
        scheduledAtMs := scheduled d, attemptedAtMs := attempted d, resolvedAtMs := resolved d,
        herdrRequestId := request d, outcome := outcome d,
        cancellationRequesterAgentId := requester d, cancellationReason := reason d,
        cancelledAtMs := cancelled d }) h_key : StoreTx Nat) :=
  have := hR.edits
  Tolerates.updateRows Routes (fun d h_d => ⟨rfl, rfl, rfl, rfl, rfl, rfl,
    fun h_op h_inc => absurd ⟨h_op, h_inc⟩ (hp.off d h_d)⟩) fun _ => .rfl

instance {message recipient scheduled outcome op} [hR : Mails R] :
    Keeps R (insertHerdrDelivery message recipient scheduled outcome op) := by
  have h_append {h_key} : Keeps R (appendRow Tab.deliveries (fun rowid =>
      { rowid, messageId := message, deliveryTransport := .herdrPrompt,
        recipientIncarnationId := some recipient, scheduledAtMs := scheduled, outcome,
        operationId := some op }) h_key : StoreTx Nat) :=
    have := hR.adds
    Admits.appendRow Posted fun _ h_socket => by cases h_socket
  unfold insertHerdrDelivery
  infer_instance

instance {transport message recipient scheduled} [hR : Mails R] :
    Keeps R (queueSinkDelivery transport message recipient scheduled) := by
  have h_append {h_key} : Keeps R (appendRow Tab.deliveries (fun rowid =>
      { rowid, messageId := message, deliveryTransport := transport,
        recipientAgentId := some recipient, scheduledAtMs := scheduled,
        outcome := .queued }) h_key : StoreTx Nat) :=
    have := hR.adds
    Admits.appendRow Posted fun _ _ => ⟨rfl, rfl⟩
  unfold queueSinkDelivery
  infer_instance

instance {message recipient scheduled} [Mails R] :
    Keeps R (queueSocketInboxDeliveryAt message recipient scheduled) := by
  unfold queueSocketInboxDeliveryAt
  infer_instance

instance {message recipient now} [Mails R] :
    Keeps R (queueAskPullDelivery message recipient now) := by
  unfold queueAskPullDelivery
  infer_instance

instance {now body} [Grows R Tab.operatorNotices] :
    Keeps R (insertOperatorNotice now body) := by
  unfold insertOperatorNotice
  infer_instance

instance {now body} [Grows R Tab.operatorNotices] : Keeps R (insertRestoreNotice now body) := by
  unfold insertRestoreNotice
  infer_instance

instance {op f h} [Grows R Tab.operationAttempts] : Keeps R (updateLastAttempt op f h) := by
  unfold updateLastAttempt
  infer_instance

instance {now key recipient intent scheduled outcome onReuse} [Admits R Tab.operations (Under key)]
    [Mails R] :
    Keeps R (insertPrompt now key recipient intent scheduled outcome onReuse) := by
  unfold insertPrompt
  infer_instance

end Statements

-- ============================================================================
-- Incarnations
-- ============================================================================

section Lifecycle

instance {now existing name parent} [Grows R Tab.logicalAgents] :
    Keeps R (continueOrCreateAgent now existing name parent) := by
  unfold continueOrCreateAgent
  split <;> infer_instance

instance {now intent} [Grows R Tab.logicalAgents] [Admits R Tab.incarnations Unrotated]
    [Admits R Tab.operations (Under intent.idempotencyKey)] :
    Keeps R (declareStart now intent) := by
  unfold declareStart
  infer_instance

instance {intent evidence} : Keeps R (checkAdoptEvidence intent evidence) := by
  unfold checkAdoptEvidence
  infer_instance

instance {now intent evidence state outcome resolved} [Grows R Tab.logicalAgents]
    [Admits R Tab.incarnations Unrotated] [Admits R Tab.operations (Under intent.idempotencyKey)] :
    Keeps R (insertAdoptBinding now intent evidence state outcome resolved) := by
  unfold insertAdoptBinding
  infer_instance

instance {now intent evidence} [Grows R Tab.logicalAgents] [Admits R Tab.incarnations Unrotated]
    [Admits R Tab.operations (Under intent.idempotencyKey)] :
    Keeps R (declareAdopt now intent evidence) := by
  unfold declareAdopt
  infer_instance

instance {now intent evidence} [Grows R Tab.logicalAgents] [Admits R Tab.incarnations Unrotated]
    [Admits R Tab.operations (Under intent.idempotencyKey)] :
    Keeps R (declareAdoptPending now intent evidence) := by
  unfold declareAdoptPending
  infer_instance

instance {now op inc request} [Tolerates R Tab.incarnations SameRotation]
    [Grows R Tab.operationAttempts] : Keeps R (beginAttempt now op inc request) := by
  unfold beginAttempt
  infer_instance

instance {inc name} [Tolerates R Tab.incarnations SameRotation] :
    Keeps R (declareRename inc name) := by
  unfold declareRename
  infer_instance

instance {inc name} [Grows R Tab.logicalAgents] [Tolerates R Tab.incarnations SameRotation] :
    Keeps R (commitRename inc name) := by
  unfold commitRename
  infer_instance

instance {inc} [Tolerates R Tab.incarnations SameRotation] : Keeps R (abandonRename inc) := by
  unfold abandonRename
  infer_instance

instance {inc pane terminal session} [Tolerates R Tab.incarnations SameRotation] :
    Keeps R (fillObservedNativeSession inc pane terminal session) := by
  unfold fillObservedNativeSession
  infer_instance

instance {inc session} [Tolerates R Tab.incarnations SameRotation] :
    Keeps R (replaceObservedNativeSession inc session) := by
  unfold replaceObservedNativeSession
  infer_instance

instance {now inc key} [Tolerates R Tab.incarnations SameRotation]
    [Admits R Tab.operations (Under key)] : Keeps R (requestRetirement now inc key) := by
  unfold requestRetirement
  infer_instance

instance {now op inc agent} [Tolerates R Tab.incarnations SameRotation]
    [Tolerates R Tab.operations (Concludes .succeeded)] [Grows R Tab.operationAttempts] :
    Keeps R (acceptAdoptReady now op inc agent) := by
  unfold acceptAdoptReady
  infer_instance

instance {op inc pane terminal} [Tolerates R Tab.incarnations SameRotation]
    [Tolerates R Tab.operations (Concludes .accepted)] [Grows R Tab.operationAttempts] :
    Keeps R (acceptStartSubmission op inc pane terminal) := by
  unfold acceptStartSubmission
  infer_instance

instance {now predecessor inc} [Tolerates R Tab.incarnations SameRotation] :
    Keeps R (demotePredecessor now predecessor inc) := by
  unfold demotePredecessor
  infer_instance

instance {now op inc agent supersedes} [Tolerates R Tab.incarnations SameRotation]
    [Tolerates R Tab.operations (Concludes .succeeded)] [Grows R Tab.operationAttempts] :
    Keeps R (acceptStartReady now op inc agent supersedes) := by
  unfold acceptStartReady
  cases supersedes <;> infer_instance

end Lifecycle

-- ============================================================================
-- Attempts
-- ============================================================================

section Attempts

instance {op attempt request} [Grows R Tab.operationAttempts] :
    Keeps R (submitAttempt op attempt request) := by
  unfold submitAttempt
  infer_instance

instance {now op attempt request} [Grows R Tab.operationAttempts] [Mails R] :
    Keeps R (markSubmitted now op attempt request) := by
  unfold markSubmitted
  infer_instance

instance {op attempt request nowMs} [Grows R Tab.operationAttempts] [Mails R] :
    Keeps R (submitQueuedDelivery op attempt request nowMs) := by
  unfold submitQueuedDelivery
  infer_instance

instance {now op inc outcome stale} [Tolerates R Tab.operations (Concludes outcome)] :
    Keeps R (settleOperation now op inc outcome stale) := by
  unfold settleOperation
  infer_instance

instance {op inc delay} [Mails R] :
    Keeps R (postponeQueuedPrompts op inc delay) := by
  unfold postponeQueuedPrompts
  refine @Keeps.bind _ _ _ _ _ _ _ _ inferInstance fun attempts => ?_
  dsimp only
  split <;> infer_instance

instance {now op inc evidence delay} [Tolerates R Tab.incarnations SameRotation]
    [Tolerates R Tab.operations (Concludes .unknown)] [Grows R Tab.operationAttempts] [Mails R] :
    Keeps R (markUnknownWithClearSpacing now op inc evidence delay) := by
  unfold markUnknownWithClearSpacing
  cases delay <;> infer_instance

instance {now op inc evidence} [Tolerates R Tab.incarnations SameRotation]
    [Tolerates R Tab.operations (Concludes .unknown)] [Grows R Tab.operationAttempts] [Mails R] :
    Keeps R (markUnknown now op inc evidence) := by
  unfold markUnknown
  infer_instance

instance {now op inc evidence delay} [Tolerates R Tab.incarnations SameRotation]
    [Tolerates R Tab.operations (Concludes .unknown)] [Grows R Tab.operationAttempts] [Mails R] :
    Keeps R (markClearUnknown now op inc evidence delay) := by
  unfold markClearUnknown
  infer_instance

instance {now op inc evidence outcome} [Tolerates R Tab.incarnations SameRotation]
    [Tolerates R Tab.operations (Concludes .failed)] [Grows R Tab.operationAttempts] [Mails R] :
    Keeps R (markRejected now op inc evidence outcome) := by
  unfold markRejected
  infer_instance

instance {now op inc evidence} [Grows R Tab.operationAttempts] :
    Keeps R (rejectAttempt now op inc evidence) := by
  unfold rejectAttempt
  infer_instance

instance {now ask resolving} [Tolerates R Tab.obligations Fulfils] :
    Keeps R (resolveObligation now ask resolving) :=
  Tolerates.updateRows Fulfils
    (fun _ h => ⟨⟨⟨⟨rfl, rfl, rfl⟩, rfl, rfl⟩, .inr (by simp [ObligationState.Discarded])⟩,
      .inr h.2⟩)
    fun _ => .rfl

instance {now op} [Grows R Tab.obligationReminders] : Keeps R (armReminder now op) := by
  unfold armReminder
  refine @Keeps.bind _ _ _ _ _ _ _ _ inferInstance fun messages => ?_
  split <;> infer_instance

instance {now op inc pane terminal submission} [Tolerates R Tab.operations (Concludes .succeeded)]
    [Grows R Tab.operationAttempts] [Tolerates R Tab.obligations Fulfils]
    [Mails R]
    [Grows R Tab.obligationReminders] :
    Keeps R (acceptDeliveryWithSubmission now op inc pane terminal submission) := by
  have h_resolve (messages : List MessageRow) : Keeps R
      (match finalReplyAmong messages with
      | none => (Pure.pure () : StoreTx Unit)
      | some (ask, resolving) => do
        let resolved ← resolveObligation now ask resolving
        require (resolved = 1) (.conflict
          "final delivery acceptance cannot resolve a terminal or absent obligation")) := by
    split <;> infer_instance
  unfold acceptDeliveryWithSubmission
  infer_instance

end Attempts

-- ============================================================================
-- Messages
-- ============================================================================

section Messages

instance {now recipient inc intent key} [Admits R Tab.operations (Under key)]
    [Admits R Tab.messages Plain] [Admits R Tab.obligations Opens] [Mails R]
    [Grows R Tab.obligationReminders] :
    Keeps R (createInitialMessage now recipient inc intent key) where
  keeps {s a s'} h := by
    simp only [createInitialMessage, run_bind_reads, run_bind_require_ok] at h
    obtain ⟨-, -, -, -, -, h⟩ := h
    obtain ⟨_, s₁, h_message, h⟩ := run_bind_ok.mp h
    refine Stepwise.trans (Keeps.keeps h_message) ?_
    split at h <;> exact Keeps.keeps h

instance {now sender recipient inc body key due remind attributed delivery}
    [Admits R Tab.operations (Under key)] [Admits R Tab.messages Plain]
    [Admits R Tab.obligations Opens] [Mails R] [Grows R Tab.obligationReminders] :
    Keeps R (createAskWithReplyDelivery now sender recipient inc body key due remind
      attributed delivery) := by
  unfold createAskWithReplyDelivery
  refine @Keeps.bind _ _ _ _ _ _ _ _ inferInstance fun _ => ?_
  refine @Keeps.bind _ _ _ _ _ _ _ _ inferInstance fun replay => ?_
  cases replay with
  | some replay => infer_instance
  | none => cases remind <;> infer_instance

instance {now sender recipient inc body key due} [Admits R Tab.operations (Under key)]
    [Admits R Tab.messages Plain] [Mails R] :
    Keeps R (createTellWithDue now sender recipient inc body key due) := by
  unfold createTellWithDue
  refine @Keeps.bind _ _ _ _ _ _ _ _ inferInstance fun replay => ?_
  cases replay <;> infer_instance

instance {now sender recipient body key due} [Admits R Tab.messages Plain] [Mails R]
    [Grows R Tab.socketInboxKeys] :
    Keeps R (createSocketTell now sender recipient body key due) := by
  unfold createSocketTell
  refine @Keeps.bind _ _ _ _ _ _ _ _ inferInstance fun replay => ?_
  cases replay <;> infer_instance

instance {now ask} [Grows R Tab.obligationReminders] :
    Keeps R (refreshReminderActivity now ask) := by
  unfold refreshReminderActivity
  infer_instance

instance {now ask disposition} [Tolerates R Tab.obligations Resolves]
    [Grows R Tab.obligationReminders] :
    Keeps R (applyReplyObligationActivity now ask disposition) := by
  unfold applyReplyObligationActivity
  cases disposition with
  | progress =>
    refine @Keeps.bind _ _ _ _ _ _ _ _ ?_ fun _ => inferInstance
    exact Tolerates.updateRows Resolves
      (fun _ _ => ⟨⟨⟨rfl, rfl, rfl⟩, rfl, rfl⟩, .inr (by simp [ObligationState.Discarded])⟩)
      fun _ => .rfl
  | final =>
    refine @Keeps.bind _ _ _ _ _ _ _ _ ?_ fun _ => inferInstance
    exact Tolerates.updateRows Resolves (fun _ _ => ⟨⟨⟨rfl, rfl, rfl⟩, rfl, rfl⟩, .inl rfl⟩)
      fun _ => .rfl

instance {now replyTo requester body disposition key due} [Admits R Tab.operations (Under key)]
    [Grows R Tab.messages] [Tolerates R Tab.obligations Resolves] [Mails R]
    [Grows R Tab.obligationReminders] [Grows R Tab.socketInboxKeys]
    [Grows R Tab.askPullKeys] :
    Keeps R (recordNewReply now replyTo requester body disposition key due) := by
  unfold recordNewReply
  infer_instance

/-- A reply is recorded anew, or an earlier one is answered again. -/
theorem keeps_createReplyWithDue {now replyTo requester body disposition key due}
    [Keeps R (recordNewReply now replyTo requester body disposition key due)] :
    Keeps R (createReplyWithDue now replyTo requester body disposition key due) := by
  unfold createReplyWithDue
  refine @Keeps.bind _ _ _ _ _ _ _ _ inferInstance fun replay => ?_
  cases replay with
  | some replay => infer_instance
  | none =>
    refine @Keeps.bind _ _ _ _ _ _ _ _ inferInstance fun pulled => ?_
    cases pulled with
    | some replay => infer_instance
    | none =>
      refine @Keeps.bind _ _ _ _ _ _ _ _ inferInstance fun queued => ?_
      cases queued <;> infer_instance

instance {now replyTo requester body disposition key due} [Admits R Tab.operations (Under key)]
    [Grows R Tab.messages] [Tolerates R Tab.obligations Resolves] [Mails R]
    [Grows R Tab.obligationReminders] [Grows R Tab.socketInboxKeys]
    [Grows R Tab.askPullKeys] :
    Keeps R (createReplyWithDue now replyTo requester body disposition key due) :=
  keeps_createReplyWithDue

instance {now name parent key} [Grows R Tab.logicalAgents] [Grows R Tab.socketWaiterKeys] :
    Keeps R (registerSocketWaiter now name parent key) := by
  unfold registerSocketWaiter
  refine @Keeps.bind _ _ _ _ _ _ _ _ inferInstance fun _ => ?_
  refine @Keeps.bind _ _ _ _ _ _ _ _ inferInstance fun _ => ?_
  split <;> infer_instance

instance {agent nowMs} [Grows R Tab.logicalAgents] : Keeps R (touchWaiterSeen agent nowMs) := by
  unfold touchWaiterSeen
  infer_instance

instance {nowMs} [Grows R Tab.logicalAgents] : Keeps R (bootResetWaiterSeen nowMs) := by
  unfold bootResetWaiterSeen
  infer_instance

instance {now message answers} [DecidablePred answers] [Tolerates R Tab.obligations Fulfils] :
    Keeps R (resolveFinalReply now message answers) := by
  unfold resolveFinalReply
  refine @Keeps.bind _ _ _ _ _ _ _ _ inferInstance fun messages => ?_
  split <;> infer_instance

instance {now message} [Tolerates R Tab.obligations Fulfils] :
    Keeps R (resolveSocketInboxFinalReply now message) := by
  unfold resolveSocketInboxFinalReply
  infer_instance

instance {now ask message} [Tolerates R Tab.obligations Fulfils] :
    Keeps R (resolveAskPullFinalReply now ask message) := by
  unfold resolveAskPullFinalReply
  infer_instance

instance {now transport message recipient} [Grows R Tab.deliveries] :
    Keeps R (acceptSinkDelivery now transport message recipient) := by
  unfold acceptSinkDelivery
  infer_instance

instance {now recipient message} [Tolerates R Tab.obligations Fulfils] [Grows R Tab.deliveries] :
    Keeps R (ackSocketInboxDelivery now recipient message) := by
  unfold ackSocketInboxDelivery
  infer_instance

instance {now ask requester} [Ignores R Tab.askPullLeases] [IgnoresCounters R] :
    Keeps R (claimAskPullLease now ask requester) := by
  have h_seq {lease} : Keeps R
      (writes fun s => { s with askPullLeasesSeq := lease } : StoreTx Unit) :=
    .writes fun s => IgnoresCounters.askPullLeases s lease
  unfold claimAskPullLease
  infer_instance

instance {now ask requester message lease} [Tolerates R Tab.obligations Fulfils]
    [Grows R Tab.deliveries] :
    Keeps R (ackAskPullDelivery now ask requester message lease) := by
  unfold ackAskPullDelivery
  infer_instance

end Messages

-- ============================================================================
-- Obligations
-- ============================================================================

section Obligations

instance {now p state requester reason} [DecidablePred p] [Tolerates R Tab.obligations Closes] :
    Keeps R (settleObligations now p state requester reason) := by
  have h_settle {h_key} : Keeps R (updateRows Tab.obligations
      (fun o => p o ∧ o.state.Unresolved)
      (fun o => { o with
        state, lastActivityAtMs := now, cancellationRequesterAgentId := requester,
        cancellationReason := some reason }) h_key : StoreTx Nat) :=
    Tolerates.updateRows Closes
      (fun _ h => ⟨⟨⟨rfl, rfl, rfl⟩, rfl, rfl⟩, .inr ⟨h.2, rfl⟩⟩) fun _ => .rfl
  unfold settleObligations
  infer_instance

instance {now requester ask reason} [Tolerates R Tab.obligations Closes] :
    Keeps R (cancelObligation now requester ask reason) := by
  unfold cancelObligation
  infer_instance

instance {now message ask reason recipient audience due}
    [Admits R Tab.operations (Under (cancellationKey audience ask))] [Mails R] :
    Keeps R (insertCancellationPrompt now message ask reason recipient audience due) := by
  unfold insertCancellationPrompt
  infer_instance

instance {now message recipient ask reason audience due ambiguous}
    [Admits R Tab.operations (Under (cancellationKey audience ask))] [Mails R] :
    Keeps R (deliverCancellation now message recipient ask reason audience due ambiguous) := by
  have h_deliver (ready : Option IncarnationId) : Keeps R
      (match ready with
      | none => (Pure.pure none : StoreTx (Option (OperationId × IncarnationId)))
      | some inc => do
        let op ← insertCancellationPrompt now message ask reason inc audience due
        return some (op, inc)) := by
    cases ready <;> infer_instance
  unfold deliverCancellation
  infer_instance

instance {now recipient ask reason body audience due ambiguous}
    [Admits R Tab.operations (Under (cancellationKey audience ask))] [Admits R Tab.messages Plain]
    [Mails R] :
    Keeps R (recordCancellationSide now recipient ask reason body audience due ambiguous) := by
  unfold recordCancellationSide
  infer_instance

instance {now obligation reason body owingBody due owingDue}
    [∀ audience, Admits R Tab.operations (Under (cancellationKey audience obligation.askMessageId))]
    [Admits R Tab.messages Plain] [Tolerates R Tab.obligations Annotates] [Mails R] :
    Keeps R (recordCancellation now obligation reason body owingBody due owingDue) := by
  have h_link {p : ObligationRow → Prop} [DecidablePred p] {waiting owing : Option MessageId}
      {h_key} : Keeps R (updateRows Tab.obligations p
        (fun o => { o with
          cancellationResponseMessageId := waiting, cancellationOwingMessageId := owing })
        h_key : StoreTx Nat) :=
    Tolerates.updateRows Annotates (fun _ _ => ⟨⟨rfl, rfl, rfl⟩, rfl, rfl, rfl, rfl, rfl⟩)
      fun _ => .rfl
  unfold recordCancellation
  infer_instance

theorem cancellableObligation_ok {s : Store} {ask : MessageId} {o : ObligationRow}
    (h : cancellableObligation ask s = .ok o) :
    o ∈ s.obligations ∧ o.askMessageId = ask := by
  unfold cancellableObligation at h
  split at h
  · cases h
  · rename_i o' h_find
    split at h
    · cases h_refuse : refuseRenewPrepareAskCancel ask s with
      | error e => simp [h_refuse] at h
      | ok u =>
        simp only [h_refuse] at h
        cases h
        exact Table.find_eq_some.mp h_find
    · cases h

theorem Store.orphanable_ask {s : Store} {ask : MessageId} {o : ObligationRow}
    (h : s.orphanable ask = some o) : o.askMessageId = ask :=
  (Table.find_eq_some.mp (Option.filter_eq_some_iff.mp h).1).2

instance {now requester ask reason body owingBody due owingDue}
    [∀ audience, Admits R Tab.operations (Under (cancellationKey audience ask))]
    [Admits R Tab.messages Plain] [Tolerates R Tab.obligations Closes]
    [Tolerates R Tab.obligations Annotates] [Mails R] :
    Keeps R (cancelWithResponse now requester ask reason body owingBody due owingDue) where
  keeps {s a s'} h := by
    simp only [cancelWithResponse, run_bind_require_ok, run_bind_query_ok] at h
    obtain ⟨-, o, h_o, h⟩ := h
    obtain ⟨-, rfl⟩ := cancellableObligation_ok h_o
    exact Keeps.keeps h

instance {now op requester reason} [Tolerates R Tab.operations (Concludes .superseded)] [Mails R] :
    Keeps R (supersedeQueued now op requester reason) := by
  unfold supersedeQueued
  infer_instance

instance {now requester message reason} [Tolerates R Tab.operations (Concludes .superseded)]
    [Tolerates R Tab.obligations Closes] [Mails R] :
    Keeps R (cancelQueuedDelivery now requester message reason) where
  keeps {s a s'} h := by
    simp only [cancelQueuedDelivery, run_bind_reads, run_bind_require_ok] at h
    obtain ⟨-, h⟩ := h
    split at h <;> exact Keeps.keeps h

instance {nowMs} [Grows R Tab.deliveries] : Keeps R (supersedeSettledQueuedAsks nowMs) := by
  unfold supersedeSettledQueuedAsks
  infer_instance

instance {nowMs} [Tolerates R Tab.obligations Observes] :
    Keeps R (observeAskAvailability nowMs) := by
  have h_clock {p : ObligationRow → Prop} [DecidablePred p] {h_key} :
      Keeps R (updateRows Tab.obligations (fun o => o.state.Unresolved ∧ p o)
        (fun o => { o with
          unavailableSinceMs := if o.unavailableSinceMs.isSome then none else some nowMs })
        h_key : StoreTx Nat) :=
    Tolerates.updateRows Observes (fun _ h => ⟨⟨rfl, rfl, rfl⟩, rfl, rfl, .inr h.1⟩)
      fun _ => .rfl
  unfold observeAskAvailability
  infer_instance

instance {now ask} [∀ audience, Admits R Tab.operations (Under (cancellationKey audience ask))]
    [Admits R Tab.messages Plain] [Tolerates R Tab.obligations Closes]
    [Tolerates R Tab.obligations Annotates] [Mails R] : Keeps R (orphanAsk now ask) where
  keeps {s a s'} h := by
    simp only [orphanAsk, run_bind_reads, run_bind_query_ok] at h
    obtain ⟨-, -, h⟩ := h
    split at h
    · exact Keeps.keeps h
    · rename_i o h_o
      obtain rfl := Store.orphanable_ask h_o
      exact Keeps.keeps h

instance {now ask waiter reason} [Tolerates R Tab.operations (Concludes .superseded)]
    [Tolerates R Tab.obligations Closes] [Mails R] :
    Keeps R (supersedeUnsubmittedAskDelivery now ask waiter reason) where
  keeps {s a s'} h := by
    simp only [supersedeUnsubmittedAskDelivery, run_bind_reads] at h
    split at h <;> exact Keeps.keeps h

instance {now waiter name reason due obligation}
    [Tolerates R Tab.operations (Concludes .superseded)]
    [∀ audience, Admits R Tab.operations (Under (cancellationKey audience obligation.askMessageId))]
    [Admits R Tab.messages Plain] [Tolerates R Tab.obligations Closes]
    [Tolerates R Tab.obligations Annotates] [Mails R] :
    Keeps R (endAsk now waiter name reason due obligation) := by
  have h_link {p : ObligationRow → Prop} [DecidablePred p] {waiting owing : Option MessageId}
      {h_key} : Keeps R (updateRows Tab.obligations p
        (fun o => { o with
          cancellationResponseMessageId := waiting, cancellationOwingMessageId := owing })
        h_key : StoreTx Nat) :=
    Tolerates.updateRows Annotates (fun _ _ => ⟨⟨rfl, rfl, rfl⟩, rfl, rfl, rfl, rfl, rfl⟩)
      fun _ => .rfl
  unfold endAsk
  infer_instance

instance {now agent due reason} [Grows R Tab.logicalAgents]
    [Tolerates R Tab.operations (Concludes .superseded)]
    [∀ audience ask, Admits R Tab.operations (Under (cancellationKey audience ask))]
    [Admits R Tab.messages Plain] [Tolerates R Tab.obligations Closes]
    [Tolerates R Tab.obligations Annotates] [Grows R Tab.deliveries] :
    Keeps R (endSocketWaiterWithOwingDue now agent due reason) := by
  unfold endSocketWaiterWithOwingDue
  infer_instance

end Obligations

-- ============================================================================
-- Reminders
-- ============================================================================

section Reminders

instance {ask sawWorking next} [Grows R Tab.obligationReminders] :
    Keeps R (observeReminderLifecycle ask sawWorking next) := by
  unfold observeReminderLifecycle
  infer_instance

instance {reminder request nowMs} [Ignores R Tab.reminderAttempts] [IgnoresCounters R] :
    Keeps R (prepareReminderAttempt reminder request nowMs) := by
  have h_seq {attempt} : Keeps R
      (writes fun s => { s with reminderAttemptsSeq := attempt } : StoreTx Unit) :=
    .writes fun s => IgnoresCounters.reminderAttempts s attempt
  unfold prepareReminderAttempt
  infer_instance

instance {request} [Ignores R Tab.reminderAttempts] :
    Keeps R (submitReminderAttempt request) := by
  unfold submitReminderAttempt
  infer_instance

instance {request outcome evidence nowMs} [Grows R Tab.obligationReminders]
    [Ignores R Tab.reminderAttempts] :
    Keeps R (resolveReminderAttempt request outcome evidence nowMs) := by
  unfold resolveReminderAttempt
  infer_instance

instance {ask nowMs recheck} [Grows R Tab.obligationReminders] :
    Keeps R (deferBusyReminder ask nowMs recheck) := by
  unfold deferBusyReminder
  infer_instance

instance {now} [Grows R Tab.obligationReminders] [Ignores R Tab.reminderAttempts] :
    Keeps R (reconcileReminderAttempts now) := by
  unfold reconcileReminderAttempts
  infer_instance

instance {requester ask p f h refusal} [DecidablePred p] [Grows R Tab.obligationReminders] :
    Keeps R (changeReminder requester ask p f h refusal) := by
  unfold changeReminder
  infer_instance

instance {now requester ask untilMs} [Grows R Tab.obligationReminders] :
    Keeps R (snoozeReminder now requester ask untilMs) := by
  unfold snoozeReminder
  infer_instance

instance {now requester ask every} [Grows R Tab.obligationReminders] :
    Keeps R (increaseReminderInterval now requester ask every) := by
  unfold increaseReminderInterval
  infer_instance

instance {now requester ask} [Grows R Tab.obligationReminders] :
    Keeps R (disableReminder now requester ask) := by
  unfold disableReminder
  infer_instance

end Reminders

-- ============================================================================
-- Renews and schedules
-- ============================================================================

section Renews

instance {row h} [Grows R Tab.renews] : Keeps R (insertRenew row h) := by
  unfold insertRenew
  infer_instance

instance {renew p f h refusal} [DecidablePred p] [Grows R Tab.renews] :
    Keeps R (updateRenew renew p f h refusal) := by
  unfold updateRenew
  infer_instance

instance {now renew reason} [Tolerates R Tab.obligations Closes] :
    Keeps R (cancelUnansweredPrepare now renew reason) where
  keeps {s a s'} h := by
    simp only [cancelUnansweredPrepare, run_bind_reads] at h
    split at h <;> exact Keeps.keeps h

instance {now renew outcome} [Grows R Tab.schedules] [Grows R Tab.renews]
    [Grows R Tab.scheduleFirings] : Keeps R (armNextRenewCycle now renew outcome) where
  keeps {s a s'} h := by
    simp only [armNextRenewCycle, run_bind_reads] at h
    split at h <;> exact Keeps.keeps h

instance {now intent} [Grows R Tab.schedules] [Grows R Tab.renews] :
    Keeps R (createRenew now intent) := by
  unfold createRenew
  cases intent.everyMs <;> infer_instance

instance {renew accumulating nowMs} [Grows R Tab.schedules] [Grows R Tab.renews] :
    Keeps R (accrueRenewOccupancy renew accumulating nowMs) := by
  unfold accrueRenewOccupancy
  infer_instance

instance {renew ask deadline} [Grows R Tab.renews] :
    Keeps R (markRenewPreparing renew ask deadline) := by
  unfold markRenewPreparing
  infer_instance

instance {now renew} [Tolerates R Tab.obligations Closes] [Grows R Tab.renews] :
    Keeps R (markRenewReady now renew) := by
  unfold markRenewReady
  infer_instance

instance {renew session deadline notBefore} [Grows R Tab.renews] :
    Keeps R (markRenewClearing renew session deadline notBefore) := by
  unfold markRenewClearing
  infer_instance

instance {renew nowMs} [Grows R Tab.renews] :
    Keeps R (claimRenewClearStallNotice renew nowMs) := by
  unfold claimRenewClearStallNotice
  infer_instance

instance {renew} [Grows R Tab.renews] : Keeps R (markRenewInjected renew) := by
  unfold markRenewInjected
  infer_instance

instance {renew} [Grows R Tab.renews] : Keeps R (markRenewTimedOut renew) := by
  unfold markRenewTimedOut
  infer_instance

instance {now renew} [Grows R Tab.schedules] [Grows R Tab.renews]
    [Grows R Tab.scheduleFirings] : Keeps R (completeRenew now renew) := by
  unfold completeRenew
  infer_instance

instance {now renew reason} [Tolerates R Tab.obligations Closes] [Grows R Tab.schedules]
    [Grows R Tab.renews] [Grows R Tab.scheduleFirings] :
    Keeps R (abortRenew now renew reason) := by
  unfold abortRenew
  infer_instance

instance {now renew reason} [Grows R Tab.schedules] [Grows R Tab.renews]
    [Grows R Tab.scheduleFirings] : Keeps R (abandonRenewProof now renew reason) := by
  unfold abandonRenewProof
  infer_instance

instance {now renew p reason refusal state} [DecidablePred p] [Tolerates R Tab.obligations Closes]
    [Grows R Tab.schedules] [Grows R Tab.renews] :
    Keeps R (endRenew now renew p reason refusal state) := by
  unfold endRenew
  infer_instance

instance {now renew reason} [Tolerates R Tab.obligations Closes] [Grows R Tab.schedules]
    [Grows R Tab.renews] : Keeps R (terminateRenew now renew reason) := by
  unfold terminateRenew
  infer_instance

instance {now renew reason notice} [Grows R Tab.operatorNotices]
    [Tolerates R Tab.obligations Closes]
    [Grows R Tab.schedules] [Grows R Tab.renews] :
    Keeps R (terminateRenewAnnounced now renew reason notice) := by
  unfold terminateRenewAnnounced
  infer_instance

instance {now renew requester reason notice} [Grows R Tab.operatorNotices]
    [Tolerates R Tab.obligations Closes] [Grows R Tab.schedules] [Grows R Tab.renews] :
    Keeps R (cancelRenew now renew requester reason notice) := by
  unfold cancelRenew
  infer_instance

instance {renew inc step request nowMs} [Grows R Tab.renewAttempts] :
    Keeps R (prepareRenewAttempt renew inc step request nowMs) := by
  unfold prepareRenewAttempt
  infer_instance

instance {request} [Grows R Tab.renewAttempts] : Keeps R (submitRenewAttempt request) := by
  unfold submitRenewAttempt
  infer_instance

instance {request outcome evidence nowMs} [Grows R Tab.renewAttempts] :
    Keeps R (resolveRenewAttempt request outcome evidence nowMs) := by
  unfold resolveRenewAttempt
  infer_instance

instance {now sender recipient body interval first key} [Grows R Tab.schedules] :
    Keeps R (createTellSchedule now sender recipient body interval first key) where
  keeps {s a s'} h := by
    simp only [createTellSchedule, run_bind_require_ok, run_bind_reads] at h
    obtain ⟨-, h⟩ := h
    split at h <;> exact Keeps.keeps h

instance {item nowMs outcome message detail} [Grows R Tab.scheduleFirings] :
    Keeps R (insertFiring item nowMs outcome message detail) := by
  unfold insertFiring
  infer_instance

instance {item nowMs}
    [Admits R Tab.operations (Under s!"kelpie:schedule:{item.scheduleId}:{item.cycle}")]
    [Grows R Tab.operatorNotices] [Admits R Tab.messages Plain] [Mails R] [Grows R Tab.schedules]
    [Grows R Tab.scheduleFirings] : Keeps R (fireTellSchedule item nowMs) where
  keeps {s a s'} h := by
    simp only [fireTellSchedule, run_bind_reads, run_bind_require_ok] at h
    obtain ⟨-, h⟩ := h
    obtain ⟨_, s₁, h_advance, h⟩ := run_bind_ok.mp h
    refine Stepwise.trans (Keeps.keeps h_advance) ?_
    split at h
    · exact Keeps.keeps h
    · split at h <;> exact Keeps.keeps h

instance {now schedule requester reason} [Grows R Tab.schedules] :
    Keeps R (cancelSchedule now schedule requester reason) := by
  unfold cancelSchedule
  infer_instance

instance {now recipient inc command session delay key} [Admits R Tab.operations (Under key)] :
    Keeps R (createClear now recipient inc command session delay key) := by
  unfold createClear
  infer_instance

instance {now op inc session delay} [Grows R Tab.incarnations]
    [Tolerates R Tab.operations (Concludes .succeeded)] [Grows R Tab.operationAttempts] [Mails R] :
    Keeps R (completeClear now op inc session delay) := by
  unfold completeClear
  cases session <;> infer_instance

instance {now op} [Tolerates R Tab.operations (Concludes .failed)] :
    Keeps R (failUnattemptedClear now op) := by
  unfold failUnattemptedClear
  infer_instance

end Renews

-- ============================================================================
-- Recovery
-- ============================================================================

section Recovery

instance {now binding bound} [Grows R Tab.incarnations] :
    Keeps R (refreshRotatedSession now binding bound) := by
  unfold refreshRotatedSession
  split
  · split <;> infer_instance
  · infer_instance

instance {inc live} [Tolerates R Tab.incarnations SameRotation] :
    Keeps R (learnMissingNativeSession inc live) := by
  unfold learnMissingNativeSession
  split <;> infer_instance

instance {now inc} [Tolerates R Tab.incarnations SameRotation] : Keeps R (markLost now inc) := by
  unfold markLost
  infer_instance

instance {now snapshot binding} [Grows R Tab.logicalAgents] [Grows R Tab.incarnations] :
    Keeps R (reconcileReadyBinding now snapshot binding) := by
  unfold reconcileReadyBinding
  infer_instance

instance {now snapshot} [Grows R Tab.logicalAgents] [Grows R Tab.incarnations] :
    Keeps R (reconcileReadyIncarnations now snapshot) := by
  unfold reconcileReadyIncarnations
  infer_instance

instance {now name snapshot} [Tolerates R Tab.incarnations SameRotation] :
    Keeps R (releaseAbsentAliasBinding now name snapshot) where
  keeps {s a s'} h := by
    simp only [releaseAbsentAliasBinding, run_bind_reads] at h
    split at h
    · exact Keeps.keeps h
    · split at h <;> exact Keeps.keeps h

instance {now row} [Tolerates R Tab.incarnations SameRotation] [Grows R Tab.operatorNotices] :
    Keeps R (settleAbsentUnknownStart now row) := by
  unfold settleAbsentUnknownStart
  infer_instance

instance {now op inc pane terminal snapshot} [Tolerates R Tab.incarnations SameRotation]
    [Tolerates R Tab.operations (Concludes .succeeded)] :
    Keeps R (reconcileRetirement now op inc pane terminal snapshot) := by
  unfold reconcileRetirement
  infer_instance

instance {now s snapshot session} [Grows R Tab.operatorNotices] :
    Keeps R (continueSession now s snapshot session) := by
  unfold continueSession
  split <;> infer_instance

instance {now s pending c} [Grows R Tab.logicalAgents] [Admits R Tab.incarnations Unrotated]
    [Grows R Tab.operatorNotices] : Keeps R (continueOnto now s pending c) := by
  unfold continueOnto
  split <;> infer_instance

instance {now snapshot} [Grows R Tab.logicalAgents] [Admits R Tab.incarnations Unrotated]
    [Grows R Tab.operatorNotices] : Keeps R (continueRestoredOccupants now snapshot) := by
  unfold continueRestoredOccupants
  infer_instance

instance [IgnoresCounters R] : Keeps R claimLiveOperations :=
  .writes fun s => IgnoresCounters.operationFloor s _

instance {nowMs grace} [Grows R Tab.logicalAgents] :
    Keeps R (archiveDeadIdentities nowMs grace) := by
  unfold archiveDeadIdentities
  infer_instance

end Recovery

end Kelpie
