/-
  Kelpie.Store.Renew

  Renews of an incarnation's native context: the phases of one cycle, the shared
  schedule of a standing policy, and the attempts of the two external effects.
-/

import Kelpie.Store.Reminders

namespace Kelpie

open Lib Lib.Tx

-- ============================================================================
-- Rows
-- ============================================================================

/-- Complete durable intent for renewing one incarnation's context. -/
structure RenewIntent where
  logicalAgentId : LogicalAgentId
  incarnationId : IncarnationId
  requesterAgentId : LogicalAgentId
  preparePrompt : String
  resumePrompt : String
  onTimeout : RenewTimeout
  prepareTimeoutMs : Millis
  everyMs : Option Millis := none
  scheduledAtMs : Millis
deriving DecidableEq, Repr

/-- The checks that the schema makes on one row of `renews`. -/
def RenewRow.Checks (r : RenewRow) : Prop :=
  0 < r.prepareTimeoutMs ∧ (∀ every ∈ r.everyMs, 0 < every) ∧
    (∀ remaining ∈ r.activeRemainingMs, 0 ≤ remaining) ∧
    (r.phase = .clearing ∨ r.phase = .injected ∨ r.phase = .done →
      r.preClearSession.isSome) ∧
    (r.phase = .scheduled ∨ r.phase = .terminated ∨ r.askMessageId.isSome)

instance : DecidablePred RenewRow.Checks := fun r => by
  unfold RenewRow.Checks
  infer_instance

/-- `INSERT INTO renews`, with its checks, its foreign keys and the unique index on the
    armed renew of one incarnation. -/
def insertRenew (row : RenewId → RenewRow) (h : ∀ n, (row n).id = n := by intro _; rfl) :
    StoreTx RenewId := do
  let s ← reads id
  let r := row 0
  require (r.Checks ∧ (s.logicalAgents.find r.logicalAgentId).isSome ∧
      (s.logicalAgents.find r.requesterAgentId).isSome ∧
      (s.incarnations.find r.incarnationId).isSome)
    (.sql .constraint)
  require (∀ other ∈ s.renews.rows, other.incarnationId = r.incarnationId →
      ¬ other.phase.Armed)
    (.sql .constraint)
  appendRow Tab.renews row h

/-- Change one renew that meets `p`; refuse when it does not. -/
def updateRenew (renewId : RenewId) (p : RenewRow → Prop) [DecidablePred p]
    (f : RenewRow → RenewRow) (h : ∀ r, (f r).id = r.id) (refusal : String) :
    StoreTx Unit := do
  let renews ← reads (·.renews)
  let changed ← updateRows Tab.renews (fun r => r.id = renewId ∧ p r) f h
  require (changed = 1) (.conflict refusal)
  require (∀ r ∈ renews.find renewId, (f r).Checks) (.sql .constraint)

-- ============================================================================
-- Cycles
-- ============================================================================

/-- Settle a prepare ask the cycle has moved past without an answer. -/
def cancelUnansweredPrepare (now : Millis) (renewId : RenewId) (reason : String) :
    StoreTx Bool := do
  let renews ← reads (·.renews)
  match (renews.find renewId).bind fun r => r.askMessageId.map fun ask => (r, ask) with
  | none => return false
  | some (renew, askMessageId) =>
    let changed ← settleObligations now (fun o => o.askMessageId = askMessageId) .cancelled
      (some renew.requesterAgentId) reason
    return changed = 1

/-- The standing policy's schedule, which must agree with the cycle that just ended. -/
def sharedSchedule (renew : RenewRow) (everyMs : Millis) : Query ScheduleRow := fun s =>
  match renew.scheduleId with
  | none => .error (.invalidRecord s!"recurring renew {renew.id} has no shared schedule")
  | some scheduleId =>
    match (s.schedules.find scheduleId).filter (·.kind = .renew) with
    | none => .error (.invalidRecord
        s!"recurring renew {renew.id} references absent shared schedule {scheduleId}")
    | some schedule =>
      if schedule.state ≠ .active ∨ schedule.intervalMs ≠ everyMs ∨
          schedule.cycle ≠ renew.cycle then
        .error (.invalidRecord
          s!"recurring renew {renew.id} disagrees with shared schedule {scheduleId}")
      else .ok schedule

/-- Record the cycle that ended and insert the next one of a standing policy. -/
def armNextRenewCycle (now : Millis) (renewId : RenewId)
    (firingOutcome : ScheduleFiringOutcome) : StoreTx (Option RenewId) := do
  let renews ← reads (·.renews)
  match (renews.find renewId).bind fun r => r.everyMs.map fun every => (r, every) with
  | none => return none
  | some (renew, everyMs) =>
    let schedule ← query (sharedSchedule renew everyMs)
    let firings ← reads (·.scheduleFirings)
    if firings.find (schedule.id, renew.cycle) = none then
      insertRow Tab.scheduleFirings
        { scheduleId := schedule.id, cycle := renew.cycle, dueAtMs := schedule.nextFireAtMs,
          firedAtMs := now, outcome := firingOutcome, renewId := some renewId }
        (.sql .constraint)
    let _ ← updateRows Tab.schedules (fun c => c.id = schedule.id ∧ c.state = .active)
      (fun c => { c with
        cycle := renew.cycle + 1,
        nextFireAtMs := saturatingAdd now schedule.intervalMs,
        activeRemainingMs := some schedule.intervalMs, occupancySampledAtMs := some now })
    let next ← insertRenew fun id =>
      { id, logicalAgentId := renew.logicalAgentId, incarnationId := renew.incarnationId,
        requesterAgentId := renew.requesterAgentId, preparePrompt := renew.preparePrompt,
        resumePrompt := renew.resumePrompt, onTimeout := renew.onTimeout,
        prepareTimeoutMs := renew.prepareTimeoutMs, everyMs := some everyMs,
        cycle := renew.cycle + 1, scheduledAtMs := saturatingAdd now everyMs,
        phase := .scheduled, createdAtMs := now,
        activeRemainingMs := some schedule.intervalMs, occupancySampledAtMs := some now,
        scheduleId := renew.scheduleId }
    return some next

/-- Schedule a renew of one exact Ready incarnation, with the schedule of its policy. -/
def createRenew (now : Millis) (intent : RenewIntent) : StoreTx RenewId := do
  let s ← reads id
  require (∃ i ∈ s.incarnations.find intent.incarnationId,
      i.logicalAgentId = intent.logicalAgentId ∧ i.state = .ready)
    (.conflict "renew target is not an exact Ready incarnation of that logical agent")
  require (∀ r ∈ s.renews.rows, r.incarnationId = intent.incarnationId → ¬ r.phase.Armed)
    (.conflict "incarnation already has an active renew")
  require (¬ s.ClearInFlight intent.incarnationId)
    (.conflict "incarnation already has an active clear")
  let remaining := max 0 (intent.scheduledAtMs - now)
  let scheduleId ← match intent.everyMs with
    | none => pure none
    | some everyMs => do
      require (0 < everyMs ∧ (s.logicalAgents.find intent.logicalAgentId).isSome ∧
          (s.logicalAgents.find intent.requesterAgentId).isSome)
        (.sql .constraint)
      let scheduleId ← appendRow Tab.schedules fun id =>
        { id, kind := .renew, logicalAgentId := intent.logicalAgentId,
          incarnationId := some intent.incarnationId,
          requesterAgentId := intent.requesterAgentId, intervalMs := everyMs,
          clock := .active, nextFireAtMs := intent.scheduledAtMs,
          activeRemainingMs := some remaining, occupancySampledAtMs := some now, cycle := 1,
          state := .active, createdAtMs := now }
      pure (some scheduleId)
  insertRenew fun id =>
    { id, logicalAgentId := intent.logicalAgentId, incarnationId := intent.incarnationId,
      requesterAgentId := intent.requesterAgentId, preparePrompt := intent.preparePrompt,
      resumePrompt := intent.resumePrompt, onTimeout := intent.onTimeout,
      prepareTimeoutMs := intent.prepareTimeoutMs, everyMs := intent.everyMs, cycle := 1,
      scheduledAtMs := intent.scheduledAtMs, phase := .scheduled, createdAtMs := now,
      activeRemainingMs := intent.everyMs.map fun _ => remaining,
      occupancySampledAtMs := intent.everyMs.map fun _ => now, scheduleId }

-- ============================================================================
-- Occupancy
-- ============================================================================

/-- `RENEW_OCCUPANCY_MAX_CREDIT_MS`. -/
def renewOccupancyMaxCreditMs : Millis := 2000

/-- The active time that one occupancy sample uses up. -/
def ScheduleRow.occupancyCredit (c : ScheduleRow) (accumulating : Bool) (nowMs : Millis) :
    Millis :=
  match accumulating, c.occupancySampledAtMs with
  | true, some sampledAt => min (max 0 (nowMs - sampledAt)) renewOccupancyMaxCreditMs
  | _, _ => 0

/-- Apply one occupancy sample to a scheduled `--every` cycle. -/
def accrueRenewOccupancy (renewId : RenewId) (accumulating : Bool) (nowMs : Millis) :
    StoreTx Unit := do
  let renews ← reads (·.renews)
  let scheduleId := ((renews.find renewId).filter (·.phase = .scheduled)).bind (·.scheduleId)
  let changed ← updateRows Tab.schedules
    (fun c => some c.id = scheduleId ∧ c.kind = .renew ∧ c.state = .active ∧
      c.activeRemainingMs.isSome)
    (fun c =>
      let remaining := max 0 (c.activeRemainingMs.getD 0 - c.occupancyCredit accumulating nowMs)
      { c with
        activeRemainingMs := some remaining, occupancySampledAtMs := some nowMs,
        nextFireAtMs := sqlAdd nowMs remaining })
  require (changed = 1) (.conflict "renew is not a scheduled interval policy")
  let schedules ← reads (·.schedules)
  let schedule := scheduleId.bind schedules.find
  let _ ← updateRows Tab.renews
    (fun r => r.id = renewId ∧ r.phase = .scheduled ∧ r.everyMs.isSome)
    (fun r => { r with
      activeRemainingMs := schedule.bind (·.activeRemainingMs),
      occupancySampledAtMs := some nowMs,
      scheduledAtMs := (schedule.map (·.nextFireAtMs)).getD r.scheduledAtMs })

-- ============================================================================
-- Phases
-- ============================================================================

/-- Record that a renew's prepare ask was delivered and is now awaited. -/
def markRenewPreparing (renewId : RenewId) (ask : MessageId) (deadlineMs : Millis) :
    StoreTx Unit := do
  let messages ← reads (·.messages)
  updateRenew renewId (·.phase = .scheduled)
    (fun r => { r with
      phase := .preparing, askMessageId := some ask, prepareDeadlineMs := some deadlineMs })
    (fun _ => rfl) "renew is not scheduled"
  require ((messages.find ask).isSome) (.sql .constraint)

/-- Record that the agent confirmed its checkpoint and may be cleared. -/
def markRenewReady (now : Millis) (renewId : RenewId) : StoreTx Unit := do
  updateRenew renewId (fun r => r.phase = .preparing ∨ r.phase = .timedOut)
    (fun r => { r with phase := .ready }) (fun _ => rfl)
    "renew is not awaiting a prepare reply"
  let _ ← cancelUnansweredPrepare now renewId
    "renew proceeded without the prepare reply it asked for"

/-- Record the pre-clear session reference immediately before the clear. -/
def markRenewClearing (renewId : RenewId) (preClearSession : NativeSession)
    (clearDeadlineMs : Millis) (injectNotBeforeMs : Option Millis) : StoreTx Unit :=
  updateRenew renewId (·.phase = .ready)
    (fun r => { r with
      phase := .clearing, preClearSession := some preClearSession,
      clearDeadlineMs := some clearDeadlineMs, injectNotBeforeMs })
    (fun _ => rfl) "renew is not ready to clear"

/-- Record that this renew's stalled clear has been reported once. -/
def claimRenewClearStallNotice (renewId : RenewId) (nowMs : Millis) : StoreTx Bool := do
  let changed ← updateRows Tab.renews
    (fun r => r.id = renewId ∧ (r.phase = .clearing ∨ r.phase = .injected) ∧
      r.clearStallNotifiedAtMs = none)
    (fun r => { r with clearStallNotifiedAtMs := some nowMs })
  return changed = 1

/-- Record that the resume prompt was accepted by the cleared incarnation. -/
def markRenewInjected (renewId : RenewId) : StoreTx Unit :=
  updateRenew renewId (·.phase = .clearing) (fun r => { r with phase := .injected })
    (fun _ => rfl) "renew is not clearing"

/-- Record that the prepare deadline elapsed with no final reply. -/
def markRenewTimedOut (renewId : RenewId) : StoreTx Unit :=
  updateRenew renewId (·.phase = .preparing) (fun r => { r with phase := .timedOut })
    (fun _ => rfl) "renew is not preparing"

/-- Complete a renew and, for a policy, arm its next cycle. -/
def completeRenew (now : Millis) (renewId : RenewId) : StoreTx (Option RenewId) := do
  updateRenew renewId (·.phase = .injected)
    (fun r => { r with phase := .done, resolvedAtMs := some now }) (fun _ => rfl)
    "renew is not injected"
  armNextRenewCycle now renewId .materialized

/-- Abandon a renew without clearing, preserving the agent's context. -/
def abortRenew (now : Millis) (renewId : RenewId) (reason : String) :
    StoreTx (Option RenewId) := do
  updateRenew renewId
    (fun r => r.phase = .scheduled ∨ r.phase = .preparing ∨ r.phase = .timedOut ∨
      r.phase = .ready)
    (fun r => { r with
      phase := .aborted, resolvedAtMs := some now, terminationReason := some reason })
    (fun _ => rfl) "renew is absent, terminal, or already past its clear"
  let _ ← cancelUnansweredPrepare now renewId reason
  armNextRenewCycle now renewId .skipped

/-- End a renew whose clear was never proven, and arm the next cycle. -/
def abandonRenewProof (now : Millis) (renewId : RenewId) (reason : String) :
    StoreTx (Option RenewId) := do
  updateRenew renewId (·.phase = .injected)
    (fun r => { r with
      phase := .terminated, resolvedAtMs := some now, terminationReason := some reason })
    (fun _ => rfl) "renew is not injected"
  armNextRenewCycle now renewId .materialized

-- ============================================================================
-- Ends of a policy
-- ============================================================================

/-- Terminate a renew that meets `p`, settle its prepare ask and end its schedule. -/
def endRenew (now : Millis) (renewId : RenewId) (p : RenewRow → Prop) [DecidablePred p]
    (reason refusal : String) (scheduleState : ScheduleState) : StoreTx Unit := do
  updateRenew renewId p
    (fun r => { r with
      phase := .terminated, resolvedAtMs := some now, terminationReason := some reason })
    (fun _ => rfl) refusal
  let _ ← cancelUnansweredPrepare now renewId reason
  let renews ← reads (·.renews)
  let scheduleId := (renews.find renewId).bind (·.scheduleId)
  let _ ← updateRows Tab.schedules (fun c => some c.id = scheduleId ∧ c.state = .active)
    (fun c => { c with
      state := scheduleState, resolvedAtMs := some now, terminationReason := some reason })

/-- End a renew because its incarnation is no longer Ready. -/
def terminateRenew (now : Millis) (renewId : RenewId) (reason : String) : StoreTx Unit :=
  endRenew now renewId (·.phase.Armed) reason "renew is absent or terminal" .terminated

/-- End a renew and record its operator notice as one durable fact. -/
def terminateRenewAnnounced (now : Millis) (renewId : RenewId) (reason notice : String) :
    StoreTx OperatorNoticeId := do
  terminateRenew now renewId reason
  insertOperatorNotice now notice

/-- The phase as the database spells it. -/
def RenewPhase.name : RenewPhase → String
  | .scheduled => "scheduled"
  | .preparing => "preparing"
  | .ready => "ready"
  | .clearing => "clearing"
  | .injected => "injected"
  | .done => "done"
  | .timedOut => "timed_out"
  | .aborted => "aborted"
  | .terminated => "terminated"

/-- Say which rule refused a cancel, so the caller knows what to do next. -/
def Store.cancelRenewRefusal (s : Store) (renewId : RenewId) (caller : LogicalAgentId) :
    String :=
  match s.renews.find renewId with
  | none => s!"renew {renewId} does not exist"
  | some r =>
    if caller ≠ r.requesterAgentId ∧ caller ≠ r.logicalAgentId then
      s!"renew {renewId} may be cancelled only by its requester {r.requesterAgentId} or its " ++
        s!"target {r.logicalAgentId}, not by {caller}"
    else if r.phase = .clearing then
      s!"renew {renewId} has already cleared this cycle and has not injected its resume " ++
        "prompt yet; cancelling now would leave the agent with an emptied context. Cancel " ++
        "once the cycle finishes"
    else s!"renew {renewId} already ended ({r.phase.name})"

/-- End a renew on purpose, at the request of an agent entitled to end it. -/
def cancelRenew (now : Millis) (renewId : RenewId) (requesterAgentId : LogicalAgentId)
    (reason notice : String) : StoreTx OperatorNoticeId := do
  let s ← reads id
  endRenew now renewId
    (fun r => r.phase.Armed ∧ r.phase ≠ .clearing ∧
      (r.requesterAgentId = requesterAgentId ∨ r.logicalAgentId = requesterAgentId))
    reason (s.cancelRenewRefusal renewId requesterAgentId) .cancelled
  insertOperatorNotice now notice

-- ============================================================================
-- Attempts
-- ============================================================================

/-- Open an attempt record for one of a renew's two external effects. -/
def prepareRenewAttempt (renewId : RenewId) (incarnationId : IncarnationId)
    (step : RenewStep) (requestId : String) (nowMs : Millis) : StoreTx Unit := do
  let s ← reads id
  require ((s.renews.find renewId).isSome ∧ (s.incarnations.find incarnationId).isSome ∧
      ∀ a ∈ s.renewAttempts.rows, a.requestId ≠ requestId)
    (.sql .constraint)
  let _ ← appendRow Tab.renewAttempts fun id =>
    { id, renewId, incarnationId, step, requestId, startedAtMs := nowMs,
      phase := .prepared }

/-- Mark a prepared renew attempt as submitted immediately before the write. -/
def submitRenewAttempt (requestId : String) : StoreTx Unit := do
  let changed ← updateRows Tab.renewAttempts
    (fun a => a.requestId = requestId ∧ a.phase = .prepared)
    (fun a => { a with phase := .submitted })
  require (changed = 1) (.conflict "renew attempt is not prepared")

/-- Resolve a submitted renew attempt with its terminal outcome, which takes the same
    three forms as a reminder's. -/
def resolveRenewAttempt (requestId : String) (outcome : ReminderOutcome)
    (evidence : Option String) (nowMs : Millis) : StoreTx Unit := do
  let changed ← updateRows Tab.renewAttempts
    (fun a => a.requestId = requestId ∧ a.phase = .submitted)
    (fun a => { a with phase := outcome.phase, resolvedAtMs := some nowMs, evidence })
  require (changed = 1) (.conflict "renew attempt is not submitted")

/-- Whether a renew already submitted the given step to Herdr. -/
def Store.renewStepSubmitted (s : Store) (renewId : RenewId) (step : RenewStep) : Bool :=
  s.renewAttempts.rows.any fun a =>
    a.renewId = renewId ∧ a.step = step ∧ a.phase ≠ .prepared

end Kelpie
