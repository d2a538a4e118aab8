/-
  Kelpie.Store.Reminders

  Reply reminders of unanswered asks: when they are due, the attempts to inject
  them, and the changes an owing agent makes to their timing.
-/

import Kelpie.Store.Obligations

namespace Kelpie

open Lib Lib.Tx

-- ============================================================================
-- Eligibility
-- ============================================================================

/-- Neither disabled by the owing agent nor suspended after an ambiguous attempt. -/
def ObligationReminderRow.Enabled (r : ObligationReminderRow) : Prop :=
  r.disabledAtMs = none ∧ r.suspendedAtMs = none

instance : DecidablePred ObligationReminderRow.Enabled :=
  fun r => inferInstanceAs (Decidable (r.disabledAtMs = none ∧ r.suspendedAtMs = none))

/-- `MAX(next_due_at_ms, COALESCE(snoozed_until_ms, 0)) <= now`: never before it is armed. -/
def ObligationReminderRow.DueAt (r : ObligationReminderRow) (nowMs : Millis) : Prop :=
  ∃ due ∈ r.nextDueAtMs, max due (r.snoozedUntilMs.getD 0) ≤ nowMs

instance (nowMs : Millis) : DecidablePred fun r : ObligationReminderRow => r.DueAt nowMs :=
  fun r => inferInstanceAs
    (Decidable (∃ due ∈ r.nextDueAtMs, max due (r.snoozedUntilMs.getD 0) ≤ nowMs))

/-- A standalone clear of the incarnation has no terminal outcome yet. -/
def Store.ClearInFlight (s : Store) (incarnationId : IncarnationId) : Prop :=
  ∃ o ∈ s.operations.rows,
    o.kind = .clear ∧ o.targetIncarnationId = incarnationId ∧ o.outcome.Live

instance (s : Store) : DecidablePred s.ClearInFlight := fun incarnationId =>
  inferInstanceAs (Decidable (∃ o ∈ s.operations.rows,
    o.kind = .clear ∧ o.targetIncarnationId = incarnationId ∧ o.outcome.Live))

/-- One overdue reminder whose owing agent has one exact Ready incarnation. -/
structure DueReminder where
  askMessageId : MessageId
  owingAgentId : LogicalAgentId
  waitingAgentId : LogicalAgentId
  recipientIncarnation : IncarnationId
  intervalMs : Millis
deriving DecidableEq, Repr

/-- The reminder of one row when it is due for exactly one Ready incarnation. -/
def Store.dueReminder (s : Store) (nowMs : Millis) (r : ObligationReminderRow) :
    Option DueReminder := do
  let o ← s.obligations.find r.askMessageId
  guard (o.state.Unresolved ∧ r.Enabled ∧ r.DueAt nowMs ∧
    ¬ s.InFlightFinal r.askMessageId)
  match s.readyIncarnations o.owingAgentId with
  | [incarnation] => do
    guard (¬ s.ClearInFlight incarnation)
    return { askMessageId := r.askMessageId, owingAgentId := o.owingAgentId,
             waitingAgentId := o.waitingAgentId, recipientIncarnation := incarnation,
             intervalMs := r.intervalMs }
  | _ => none

/-- Overdue reminders bound to one exact Ready owing incarnation. -/
def Store.dueReminders (s : Store) (nowMs : Millis) : List DueReminder :=
  s.obligationReminders.rows.filterMap (s.dueReminder nowMs)

/-- Durable reminder timing as an inspection of its ask reports it. -/
structure ReminderInfo where
  intervalMs : Millis
  snoozedUntilMs : Option Millis
  nextEligibleAtMs : Option Millis
  disabledAtMs : Option Millis
  suspendedAtMs : Option Millis
deriving DecidableEq, Repr

/-- Inspect durable reminder timing without changing its obligation. -/
def Store.reminderInfo (s : Store) (ask : MessageId) : Option ReminderInfo := do
  let r ← s.obligationReminders.find ask
  let o ← s.obligations.find ask
  return { intervalMs := r.intervalMs, snoozedUntilMs := r.snoozedUntilMs,
           nextEligibleAtMs :=
             if r.Enabled ∧ o.state.Unresolved then
               r.nextDueAtMs.map (max · (r.snoozedUntilMs.getD 0))
             else none,
           disabledAtMs := r.disabledAtMs, suspendedAtMs := r.suspendedAtMs }

-- ============================================================================
-- Attempts
-- ============================================================================

/-- Record one fresh lifecycle observation for an unanswered ask. -/
def observeReminderLifecycle (ask : MessageId) (sawWorking : Bool)
    (nextCheckAtMs : Millis) : StoreTx Unit := do
  let obligations ← reads (·.obligations)
  let changed ← updateRows Tab.obligationReminders
    (fun r => r.askMessageId = ask ∧ r.Enabled ∧ r.lastAcceptedAtMs = none ∧
      ∃ o ∈ obligations.find ask, o.state = .open)
    (fun r => { r with
      boundaryCheckAtMs := some nextCheckAtMs,
      sawWorkingAtMs :=
        if sawWorking then r.sawWorkingAtMs.or (some nextCheckAtMs) else r.sawWorkingAtMs })
  require (changed = 1)
    (.conflict "reminder is no longer eligible for lifecycle observation")

/-- Journal a reminder before its Herdr write boundary. -/
def prepareReminderAttempt (reminder : DueReminder) (requestId : String)
    (nowMs : Millis) : StoreTx Unit := do
  let s ← reads id
  require (∃ r ∈ s.obligationReminders.find reminder.askMessageId,
      r.Enabled ∧ r.DueAt nowMs ∧ ¬ s.InFlightFinal reminder.askMessageId ∧
      ∃ o ∈ s.obligations.find reminder.askMessageId, o.state.Unresolved ∧
      ∃ i ∈ s.incarnations.find reminder.recipientIncarnation,
        i.state = .ready ∧ i.logicalAgentId = o.owingAgentId)
    (.conflict "reminder is no longer due for the exact Ready incarnation")
  require (∀ a ∈ s.reminderAttempts.rows, a.requestId ≠ requestId) (.sql .constraint)
  let id := s.reminderAttemptsSeq + 1
  writes fun s => { s with reminderAttemptsSeq := id }
  insertRow Tab.reminderAttempts
    { id, askMessageId := reminder.askMessageId,
      recipientIncarnationId := reminder.recipientIncarnation, requestId,
      startedAtMs := nowMs, phase := .prepared }
    (.sql .constraint)

/-- Mark a prepared reminder as submitted immediately before the Herdr write. -/
def submitReminderAttempt (requestId : String) : StoreTx Unit := do
  let changed ← updateRows Tab.reminderAttempts
    (fun a => a.requestId = requestId ∧ a.phase = .prepared)
    (fun a => { a with phase := .submitted })
  require (changed = 1) (.conflict "reminder attempt is not prepared")

/-- How a submitted reminder attempt can end. -/
inductive ReminderOutcome where
  | accepted
  | rejected
  | unknown
deriving DecidableEq, Repr

/-- The phase of the attempt that ends so. -/
def ReminderOutcome.phase : ReminderOutcome → AttemptPhase
  | .accepted => .accepted
  | .rejected => .rejected
  | .unknown => .unknown

/-- Resolve a reminder and advance its cooldown or suspend unknown retries. -/
def resolveReminderAttempt (requestId : String) (outcome : ReminderOutcome)
    (evidence : Option String) (nowMs : Millis) : StoreTx Unit := do
  let attempts ← reads (·.reminderAttempts)
  let attempt ← orFail
    (attempts.rows.find? fun a => a.requestId = requestId ∧ a.phase = .submitted)
    (.conflict "reminder attempt is not submitted")
  let _ ← updateRows Tab.reminderAttempts
    (fun a => a.requestId = requestId ∧ a.phase = .submitted)
    (fun a => { a with phase := outcome.phase, resolvedAtMs := some nowMs, evidence })
  if outcome = .unknown then
    let _ ← updateRows Tab.obligationReminders
      (fun r => r.askMessageId = attempt.askMessageId)
      (fun r => { r with suspendedAtMs := some nowMs })
  else
    let _ ← updateRows Tab.obligationReminders
      (fun r => r.askMessageId = attempt.askMessageId)
      (fun r => { r with
        nextDueAtMs := some (max (r.nextDueAtMs.getD 0) (sqlAdd nowMs r.intervalMs)),
        lastAcceptedAtMs := if outcome = .accepted then some nowMs else r.lastAcceptedAtMs,
        boundaryCheckAtMs := none })

/-- Postpone a due reminder after a fresh snapshot reports a busy lifecycle. -/
def deferBusyReminder (ask : MessageId) (nowMs recheckMs : Millis) : StoreTx Unit := do
  let obligations ← reads (·.obligations)
  let changed ← updateRows Tab.obligationReminders
    (fun r => r.askMessageId = ask ∧ r.Enabled ∧
      ∃ o ∈ obligations.find ask, o.state.Unresolved)
    -- `MAX` of a null is null: an unarmed reminder stays unarmed.
    (fun r => { r with nextDueAtMs := r.nextDueAtMs.map (max · (sqlAdd nowMs recheckMs)) })
  require (changed = 1) (.conflict "reminder is no longer active for busy deferral")

/-- Suspend reminder attempts left at or beyond the external write boundary. -/
def reconcileReminderAttempts (now : Millis) : StoreTx Nat := do
  let s ← reads id
  if s.liveOperationFloor.isSome then
    return 0
  else
    deleteRows Tab.reminderAttempts (fun a => a.phase = .prepared)
    let submitted := (s.reminderAttempts.rows.filter (·.phase = .submitted)).map
      (·.askMessageId)
    let changed ← updateRows Tab.reminderAttempts (fun a => a.phase = .submitted)
      (fun a => { a with
        phase := .unknown, resolvedAtMs := some now,
        evidence := some "kelpied restarted after reminder submission" })
    let _ ← updateRows Tab.obligationReminders (fun r => r.askMessageId ∈ submitted)
      (fun r => { r with suspendedAtMs := some now })
    return changed

-- ============================================================================
-- Changes by the owing agent
-- ============================================================================

/-- The requester owes the ask, and the ask is unresolved. -/
def Store.OwesAsk (s : Store) (requester : LogicalAgentId) (ask : MessageId) : Prop :=
  ∃ o ∈ s.obligations.find ask, o.owingAgentId = requester ∧ o.state.Unresolved

instance (s : Store) (requester : LogicalAgentId) : DecidablePred (s.OwesAsk requester) :=
  fun ask => inferInstanceAs (Decidable
    (∃ o ∈ s.obligations.find ask, o.owingAgentId = requester ∧ o.state.Unresolved))

/-- Change an enabled policy under the owing agent's claim. -/
def changeReminder (requester : LogicalAgentId) (ask : MessageId)
    (p : ObligationReminderRow → Prop) [DecidablePred p]
    (f : ObligationReminderRow → ObligationReminderRow)
    (h : ∀ r, (f r).askMessageId = r.askMessageId) (refusal : String) : StoreTx Unit := do
  let s ← reads id
  let changed ← updateRows Tab.obligationReminders
    (fun r => r.askMessageId = ask ∧ r.disabledAtMs = none ∧ p r ∧ s.OwesAsk requester ask)
    f h
  require (changed = 1) (.conflict refusal)

/-- Snooze reminders without resolving the owned obligation. -/
def snoozeReminder (now : Millis) (requester : LogicalAgentId) (ask : MessageId)
    (untilMs : Millis) : StoreTx Unit := do
  require (now < untilMs) (.conflict "snooze must end in the future")
  changeReminder requester ask (fun _ => True)
    (fun r => { r with snoozedUntilMs := some untilMs }) (fun _ => rfl)
    "reminder is absent, disabled, terminal, or not owned by requester"

/-- Increase reminder spacing while preserving later deadlines and snoozes. -/
def increaseReminderInterval (now : Millis) (requester : LogicalAgentId)
    (ask : MessageId) (everyMs : Millis) : StoreTx Unit := do
  require (0 < everyMs ∧ now + everyMs ≤ i64Max)
    (.invalidRecord "interval must be positive without overflow")
  changeReminder requester ask (fun r => r.intervalMs ≤ everyMs)
    (fun r => { r with
      nextDueAtMs := r.nextDueAtMs.map fun due =>
        if r.intervalMs < everyMs then
          max (max due (r.snoozedUntilMs.getD 0)) (now + everyMs)
        else due,
      intervalMs := everyMs }) (fun _ => rfl)
    "reminder absent, disabled, terminal, not owned, or interval decreased"

/-- Disable reminders without resolving the owned obligation. -/
def disableReminder (now : Millis) (requester : LogicalAgentId) (ask : MessageId) :
    StoreTx Unit :=
  changeReminder requester ask (fun _ => True)
    (fun r => { r with disabledAtMs := some now }) (fun _ => rfl)
    "reminder is absent, disabled, terminal, or not owned by requester"

end Kelpie
