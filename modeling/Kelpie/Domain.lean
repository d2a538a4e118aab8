/-
  Kelpie.Domain

  Domain types of the durable coordination state: identifiers, the lifecycle
  enumerations with their stored texts, the launch, adoption and prompt intents,
  and the Herdr observations that the store is given as evidence.
-/

namespace Kelpie

-- ============================================================================
-- Identifiers and time
-- ============================================================================

/-- Durable ids are positive integers that the database allocates per table. -/
abbrev LogicalAgentId := Nat

/-- The number of an incarnation. -/
abbrev IncarnationId := Nat

/-- The number of an operation. -/
abbrev OperationId := Nat

/-- The number of a message; an ask and its obligation go by it as well. -/
abbrev MessageId := Nat

/-- The number of a notice to the operator. -/
abbrev OperatorNoticeId := Nat

/-- The number of a renew. -/
abbrev RenewId := Nat

/-- The number of a schedule. -/
abbrev ScheduleId := Nat

/-- Unix epoch milliseconds, and differences of them. -/
abbrev Millis := Int

/-- The largest stored integer. -/
def i64Max : Int := 9223372036854775807

/-- The smallest stored integer. -/
def i64Min : Int := -9223372036854775808

/-- `i64::saturating_add`. -/
def saturatingAdd (a b : Int) : Int := max i64Min (min i64Max (a + b))

/-- The double nearest to a natural number: 53 significant bits, and of two equally near
    ones the even one. -/
def nearestReal (n : Nat) : Nat :=
  let unit := Nat.pow 2 (n.log2 - 52)
  let below := n / unit * unit
  if 2 * (n - below) < unit ∨ (2 * (n - below) = unit ∧ n / unit % 2 = 0) then below
  else below + unit

/-- `a + b` as SQLite adds two stored integers.  Past the largest of them it adds the
    doubles nearest to both, and the column stores the REAL: a number above `i64Max`. -/
def sqlAdd (a b : Int) : Int :=
  if a + b ≤ i64Max then a + b
  else nearestReal (nearestReal a.toNat + nearestReal b.toNat)

theorem sqlAdd_of_le {a b : Int} (h : a + b ≤ i64Max) : sqlAdd a b = a + b := if_pos h

-- ============================================================================
-- Lifecycle enumerations
-- ============================================================================

/-- A logical agent's durable parent relationship. -/
inductive Parent where
  | parentless
  | agent (id : LogicalAgentId)
deriving DecidableEq, Repr

/-- The parent's id, as `parent_agent_id` stores it. -/
def Parent.id? : Parent → Option LogicalAgentId
  | .parentless => none
  | .agent id => some id

/-- Lifecycle state for one exact runtime binding attempt. -/
inductive IncarnationState where
  | declared
  | starting
  | ready
  | failed
  | unknown
  | retiring
  | retired
  | lost
  | superseded
deriving DecidableEq, Repr

/-- The kinds of durable operation. -/
inductive OperationKind where
  | start
  | prompt
  | resume
  | retire
  | notification
  | adopt
  | clear
deriving DecidableEq, Repr

/-- Durable outcome for an external operation. -/
inductive OperationOutcome where
  | pending
  | accepted
  | succeeded
  | failed
  | superseded
  | unknown
deriving DecidableEq, Repr

/-- `operation_outcome_name`. -/
def OperationOutcome.name : OperationOutcome → String
  | .pending => "pending"
  | .accepted => "accepted"
  | .succeeded => "succeeded"
  | .failed => "failed"
  | .superseded => "superseded"
  | .unknown => "unknown"

/-- An operation that Herdr or the daemon may still settle. -/
def OperationOutcome.Live (o : OperationOutcome) : Prop := o = .pending ∨ o = .accepted

instance : DecidablePred OperationOutcome.Live :=
  fun o => inferInstanceAs (Decidable (o = .pending ∨ o = .accepted))

/-- Phase of one external attempt of an operation. -/
inductive AttemptPhase where
  | prepared
  | submitted
  | accepted
  | responseCommitted
  | rejected
  | unknown
deriving DecidableEq, Repr

/-- Semantic kind of a stored message. -/
inductive MessageKind where
  | tell
  | ask
  | reply
  | cancellation
deriving DecidableEq, Repr

/-- Explicit semantic kind for a launch's initial message. -/
inductive InitialMessageKind where
  | tell
  | ask
deriving DecidableEq, Repr

/-- How reverse traffic for one ask reaches the waiting agent. -/
inductive ReplyDelivery where
  | inject
  | pull
deriving DecidableEq, Repr

/-- `ReplyDelivery::as_str`. -/
def ReplyDelivery.asStr : ReplyDelivery → String
  | .inject => "inject"
  | .pull => "pull"

/-- Disposition of a reply message. -/
inductive ReplyDisposition where
  | progress
  | final
deriving DecidableEq, Repr

/-- State of the final-reply obligation created by an ask. -/
inductive ObligationState where
  | «open»
  | inProgress
  | resolved
  | cancelled
  | orphaned
deriving DecidableEq, Repr

/-- `state IN ('open', 'in_progress')`: a final reply is still owed. -/
def ObligationState.Unresolved (s : ObligationState) : Prop := s = .open ∨ s = .inProgress

instance : DecidablePred ObligationState.Unresolved :=
  fun s => inferInstanceAs (Decidable (s = .open ∨ s = .inProgress))

/-- The obligation was closed without its final reply. -/
def ObligationState.Discarded (s : ObligationState) : Prop := s = .cancelled ∨ s = .orphaned

instance : DecidablePred ObligationState.Discarded :=
  fun s => inferInstanceAs (Decidable (s = .cancelled ∨ s = .orphaned))

/-- Local delivery client of a logical agent, or of one delivery row. -/
inductive DeliveryTransport where
  | herdrPrompt
  | socketInbox
  | askPull
deriving DecidableEq, Repr

/-- Outcome of one terminal-input delivery attempt. -/
inductive DeliveryOutcome where
  | pending
  | submitted
  | accepted
  | queued
  | unknown
  | rejected
  | targetUnavailable
  | superseded
deriving DecidableEq, Repr

/-- `delivery_outcome_name`. -/
def DeliveryOutcome.name : DeliveryOutcome → String
  | .pending => "pending"
  | .submitted => "submitted"
  | .accepted => "accepted"
  | .queued => "queued"
  | .unknown => "unknown"
  | .rejected => "rejected"
  | .targetUnavailable => "target_unavailable"
  | .superseded => "superseded"

/-- A delivery that has not come to an end. -/
def DeliveryOutcome.Live (o : DeliveryOutcome) : Prop :=
  o = .pending ∨ o = .queued ∨ o = .submitted

instance : DecidablePred DeliveryOutcome.Live :=
  fun o => inferInstanceAs (Decidable (o = .pending ∨ o = .queued ∨ o = .submitted))

/-- Which occupant a cancellation notice is for. -/
inductive CancellationAudience where
  | waiting
  | owing
deriving DecidableEq, Repr

/-- Phase of one renew of an incarnation's backend-native context. -/
inductive RenewPhase where
  | scheduled
  | preparing
  | ready
  | clearing
  | injected
  | done
  | timedOut
  | aborted
  | terminated
deriving DecidableEq, Repr

/-- `phase NOT IN ('done','aborted','terminated')`. -/
def RenewPhase.Armed (p : RenewPhase) : Prop := p ≠ .done ∧ p ≠ .aborted ∧ p ≠ .terminated

instance : DecidablePred RenewPhase.Armed :=
  fun p => inferInstanceAs (Decidable (p ≠ .done ∧ p ≠ .aborted ∧ p ≠ .terminated))

/-- What to do when the prepare deadline elapses with no final reply. -/
inductive RenewTimeout where
  | abort
  | proceed
deriving DecidableEq, Repr

/-- Which of a renew's two external effects an attempt record describes. -/
inductive RenewStep where
  | clear
  | inject
deriving DecidableEq, Repr

/-- What a schedule repeats. -/
inductive ScheduleKind where
  | tell
  | renew
deriving DecidableEq, Repr

/-- The clock that a schedule runs on: the time of day, or the time that its agent works. -/
inductive ScheduleClock where
  | wall
  | active
deriving DecidableEq, Repr

/-- A schedule is active until it is cancelled, or ended with its incarnation. -/
inductive ScheduleState where
  | active
  | cancelled
  | terminated
deriving DecidableEq, Repr

/-- Outcome of one repeating schedule firing. -/
inductive ScheduleFiringOutcome where
  | materialized
  | targetUnavailable
  | skipped
deriving DecidableEq, Repr

-- ============================================================================
-- Observations
-- ============================================================================

/-- A backend-native conversation reference: its `value` member when that is a
    string, and the text of the rest. -/
structure NativeSession where
  value : Option String
  rest : String := ""
deriving DecidableEq, Repr

/-- A live agent as Herdr reports it. -/
structure AgentObservation where
  terminalId : String
  paneId : String
  name : Option String := none
  agent : Option String := none
  interactiveReady : Bool := false
  launchPending : Bool := false
  agentSession : Option NativeSession := none
deriving DecidableEq, Repr

/-- A live pane of the authoritative snapshot. -/
structure PaneObservation where
  paneId : String
  terminalId : String
  cwd : Option String := none
deriving DecidableEq, Repr

/-- Authoritative present-state baseline returned by Herdr. -/
structure Snapshot where
  panes : List PaneObservation
  agents : List AgentObservation
deriving DecidableEq, Repr

/-- Snapshot-derived evidence required to adopt a live Herdr agent. -/
structure AdoptEvidence where
  paneId : String
  terminalId : String
  publicName : String
  backendKind : String
  workingDirectory : String
  launchPending : Bool
  nativeAgentSession : Option NativeSession
deriving DecidableEq, Repr

-- ============================================================================
-- Intents
-- ============================================================================

/-- Initial message stored in launch intent before runtime effects begin. -/
structure InitialMessageIntent where
  sender : Option LogicalAgentId
  kind : InitialMessageKind
  body : String
  replyDelivery : ReplyDelivery := .inject
deriving DecidableEq, Repr

/-- Complete durable intent for starting one incarnation. -/
structure StartIntent where
  publicName : String
  logicalAgentId : Option LogicalAgentId := none
  parent : Parent := .parentless
  herdrSession : String := ""
  paneId : String
  expectedTerminalId : String
  backendKind : String
  backendArgs : List String := []
  initialMessage : InitialMessageIntent
  workingDirectory : String := ""
  idempotencyKey : String
  requestedModel : Option String := none
  requestedProvider : Option String := none
  requestedEffort : Option String := none
  supersedes : Option IncarnationId := none
deriving DecidableEq, Repr

/-- Explicit adoption of an already-running Herdr agent. -/
structure AdoptIntent where
  paneId : String
  expectedTerminalId : String
  publicName : Option String := none
  logicalAgentId : Option LogicalAgentId := none
  parent : Parent := .parentless
  herdrSession : String := ""
  backendKind : Option String := none
  backendArgs : List String := []
  requestedModel : Option String := none
  requestedProvider : Option String := none
  requestedEffort : Option String := none
  idempotencyKey : String
deriving DecidableEq, Repr

/-- The JSON recorded with a prompt operation. -/
structure PromptIntent where
  messageId : MessageId
  replyTo : Option MessageId := none
  disposition : Option ReplyDisposition := none
  recipientIncarnationId : Option IncarnationId := none
  dueAtMs : Option Millis := none
  cancelledAsk : Option MessageId := none
  reason : Option String := none
  audience : Option CancellationAudience := none
  scheduleId : Option ScheduleId := none
  scheduleCycle : Option Int := none
deriving DecidableEq, Repr

/-- The JSON recorded with a standalone clear. -/
structure ClearIntent where
  recipient : LogicalAgentId
  command : String
  preClearSession : NativeSession
  promptSettleDelayMs : Millis
deriving DecidableEq, Repr

/-- `operations.intent_json`. -/
inductive OperationIntent where
  | start (intent : StartIntent)
  | adopt (intent : AdoptIntent) (evidence : AdoptEvidence)
  | prompt (intent : PromptIntent)
  | clear (intent : ClearIntent)
  | retire (incarnationId : IncarnationId)
deriving DecidableEq, Repr

-- ============================================================================
-- Store errors
-- ============================================================================

/-- Failures that the database itself reports. -/
inductive SqlError where
  | queryReturnedNoRows
  | invalidColumnType
  | constraint
deriving DecidableEq, Repr

/-- Durable-store failures with invariant context. -/
inductive StoreError where
  | sql (e : SqlError)
  | invalidRecord (message : String)
  | conflict (message : String)
deriving DecidableEq, Repr

end Kelpie
