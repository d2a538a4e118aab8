/-
  Kelpie.Store.Schedules

  Wall-clock repeating tells: their creation under an idempotency key, and the
  firing of one due cycle on the target's current receive path.
-/

import Kelpie.Store.Renew

namespace Kelpie

open Lib Lib.Tx

-- ============================================================================
-- Creation
-- ============================================================================

/-- Durable result of creating or replaying a repeating tell schedule. -/
structure CreatedSchedule where
  scheduleId : ScheduleId
  recipient : LogicalAgentId
  intervalMs : Millis
  nextFireAtMs : Millis
  state : ScheduleState
deriving DecidableEq, Repr

/-- What the requester of the schedule is told of it. -/
def ScheduleRow.created (c : ScheduleRow) : CreatedSchedule :=
  { scheduleId := c.id, recipient := c.logicalAgentId, intervalMs := c.intervalMs,
    nextFireAtMs := c.nextFireAtMs, state := c.state }

/-- The tell schedule recorded under one key. -/
def Store.tellScheduleUnder (s : Store) (key : String) : Option ScheduleRow :=
  s.schedules.rows.find? fun c => c.idempotencyKey = some key ∧ c.kind = .tell

/-- Persist a wall-clock repeating tell bound to a logical agent. -/
def createTellSchedule (now : Millis) (sender recipient : LogicalAgentId) (body : String)
    (intervalMs firstFireAtMs : Millis) (idempotencyKey : String) :
    StoreTx CreatedSchedule := do
  require (0 < intervalMs ∧ 0 ≤ firstFireAtMs) (.invalidRecord
    "schedule interval must be positive and first fire must be non-negative")
  let s ← reads id
  match s.tellScheduleUnder idempotencyKey with
  | some c => do
    require (c.logicalAgentId = recipient ∧ c.intervalMs = intervalMs ∧
        c.requesterAgentId = sender ∧ c.body = some body)
      (.conflict "idempotency key belongs to a different schedule intent")
    return c.created
  | none => do
    require ((s.logicalAgents.find sender).isSome)
      (.conflict "schedule sender logical agent is absent")
    require ((s.logicalAgents.find recipient).isSome)
      (.conflict "schedule recipient logical agent is absent")
    require (∀ c ∈ s.schedules.rows, c.idempotencyKey ≠ some idempotencyKey)
      idempotencyKeyExists
    let scheduleId ← appendRow Tab.schedules fun id =>
      { id, kind := .tell, logicalAgentId := recipient, requesterAgentId := sender,
        body := some body, intervalMs, clock := .wall, nextFireAtMs := firstFireAtMs,
        cycle := 1, state := .active, idempotencyKey := some idempotencyKey,
        createdAtMs := now }
    return { scheduleId, recipient, intervalMs, nextFireAtMs := firstFireAtMs,
             state := .active }

-- ============================================================================
-- Firing
-- ============================================================================

/-- A due wall-clock tell schedule. -/
structure DueTellSchedule where
  scheduleId : ScheduleId
  sender : LogicalAgentId
  recipient : LogicalAgentId
  body : String
  intervalMs : Millis
  cycle : Nat
  dueAtMs : Millis
deriving DecidableEq, Repr

/-- Wall-clock tell schedules whose next firing is due. -/
def Store.dueTellSchedules (s : Store) (nowMs : Millis) : List DueTellSchedule :=
  let due := s.schedules.rows.filter fun c =>
    c.kind = .tell ∧ c.state = .active ∧ c.nextFireAtMs ≤ nowMs
  let due := due.insertionSort fun a b =>
    a.nextFireAtMs < b.nextFireAtMs ∨
      (a.nextFireAtMs = b.nextFireAtMs ∧ a.createdAtMs ≤ b.createdAtMs)
  due.map fun c =>
    { scheduleId := c.id, sender := c.requesterAgentId, recipient := c.logicalAgentId,
      body := c.body.getD "", intervalMs := c.intervalMs, cycle := c.cycle,
      dueAtMs := c.nextFireAtMs }

/-- Durable disposition of one selected schedule cycle. -/
structure ScheduleFiring where
  scheduleId : ScheduleId
  cycle : Nat
  outcome : ScheduleFiringOutcome
  messageId : Option MessageId
deriving DecidableEq, Repr

/-- The current receive path of a schedule's target. -/
inductive FiringPath where
  | socket
  | herdr (incarnation : IncarnationId)
  | unavailable
deriving DecidableEq, Repr

/-- How the target of a schedule can be reached now: its inbox, its one Ready incarnation, or not
    at all. -/
def Store.firingPath (s : Store) (recipient : LogicalAgentId) : FiringPath :=
  match (s.logicalAgents.find recipient).filter (·.targetingEndedAtMs = none) with
  | none => .unavailable
  | some l =>
    match l.deliveryTransport, s.readyIncarnations recipient with
    | .socketInbox, _ => .socket
    | .herdrPrompt, [incarnation] => .herdr incarnation
    | _, _ => .unavailable

/-- A delivery of an earlier firing has not come to an end. -/
def Store.FiringUnresolved (s : Store) (scheduleId : ScheduleId) : Prop :=
  ∃ f ∈ s.scheduleFirings.rows, f.scheduleId = scheduleId ∧
    ∃ d ∈ s.deliveries.rows, some d.messageId = f.messageId ∧ d.outcome.Live

instance (s : Store) : DecidablePred s.FiringUnresolved := fun scheduleId =>
  inferInstanceAs (Decidable (∃ f ∈ s.scheduleFirings.rows, f.scheduleId = scheduleId ∧
    ∃ d ∈ s.deliveries.rows, some d.messageId = f.messageId ∧ d.outcome.Live))

/-- The outcome of the schedule's latest recorded cycle. -/
def Store.previousFiring (s : Store) (scheduleId : ScheduleId) :
    Option ScheduleFiringOutcome :=
  (((s.scheduleFirings.rows.filter (·.scheduleId = scheduleId)).insertionSort
    fun a b => b.cycle ≤ a.cycle).head?).map (·.outcome)

/-- Put the outcome of a cycle on record, once. -/
def insertFiring (item : DueTellSchedule) (nowMs : Millis) (outcome : ScheduleFiringOutcome)
    (messageId : Option MessageId) (detail : Option String) : StoreTx ScheduleFiring := do
  insertRow Tab.scheduleFirings
    { scheduleId := item.scheduleId, cycle := item.cycle, dueAtMs := item.dueAtMs,
      firedAtMs := nowMs, outcome, messageId, detail }
    (.sql .constraint)
  return { scheduleId := item.scheduleId, cycle := item.cycle, outcome, messageId }

/-- Atomically record and materialize one due tell schedule firing. -/
def fireTellSchedule (item : DueTellSchedule) (nowMs : Millis) : StoreTx ScheduleFiring := do
  let s ← reads id
  require (∃ c ∈ s.schedules.find item.scheduleId, c.state = .active ∧
      c.cycle = item.cycle ∧ c.nextFireAtMs ≤ nowMs)
    (.conflict "schedule firing is no longer due")
  let _ ← updateRows Tab.schedules
    (fun c => c.id = item.scheduleId ∧ c.cycle = item.cycle ∧ c.state = .active)
    (fun c => { c with
      cycle := c.cycle + 1, nextFireAtMs := saturatingAdd nowMs item.intervalMs })
  if s.FiringUnresolved item.scheduleId then
    insertFiring item nowMs .skipped none (some "prior schedule delivery is unresolved")
  else
    match s.firingPath item.recipient with
    | .unavailable => do
      let fired ← insertFiring item nowMs .targetUnavailable none
        (some "target has no unique addressable receive path")
      if s.previousFiring item.scheduleId ≠ some .targetUnavailable then
        let _ ← insertOperatorNotice nowMs
          (s!"schedule {item.scheduleId} cycle {item.cycle} target {item.recipient} " ++
            "unavailable; no message delivered")
      return fired
    | .socket => do
      let messageId ← insertMessage nowMs (some item.sender) item.recipient .tell item.body
      queueSocketInboxDeliveryAt messageId item.recipient nowMs
      insertFiring item nowMs .materialized (some messageId) none
    | .herdr incarnation => do
      let messageId ← insertMessage nowMs (some item.sender) item.recipient .tell item.body
      let _ ← insertPrompt nowMs s!"kelpie:schedule:{item.scheduleId}:{item.cycle}"
        incarnation
        { messageId, scheduleId := some item.scheduleId, scheduleCycle := some item.cycle }
        nowMs .queued (.sql .constraint)
      insertFiring item nowMs .materialized (some messageId) none

-- ============================================================================
-- Cancellation
-- ============================================================================

/-- Cancel an active repeating schedule as its requester or target. -/
def cancelSchedule (now : Millis) (scheduleId : ScheduleId) (requester : LogicalAgentId)
    (reason : String) : StoreTx Unit := do
  require (trim reason ≠ "")
    (.invalidRecord "schedule cancellation reason must not be empty")
  let changed ← updateRows Tab.schedules
    (fun c => c.id = scheduleId ∧ c.kind = .tell ∧ c.state = .active ∧
      (c.requesterAgentId = requester ∨ c.logicalAgentId = requester))
    (fun c => { c with
      state := .cancelled, resolvedAtMs := some now, terminationReason := some reason })
  require (changed = 1)
    (.conflict "schedule is absent, ended, or requester is not its owner or target")

end Kelpie
