/-
  Kelpie.Slice.Sweep

  The absence sweep: the recovery against the snapshot that it observed, the
  waiters whose connection was away past the grace, and the asks that miss a
  party.
-/

import Kelpie.Slice.Prompts

namespace Kelpie

open Lib Lib.Tx

-- As in `Kelpie.Store.Frames`.
set_option synthInstance.maxSize 100000

-- ============================================================================
-- Expired waiters
-- ============================================================================

/-- The waiter was seen once, and its connection has been absent past grace. -/
def LogicalAgentRow.Expired (l : LogicalAgentRow) (nowMs graceMs : Millis) : Prop :=
  l.ActiveWaiter ∧ ∃ seen ∈ l.waiterLastSeenAtMs, graceMs ≤ nowMs - seen

instance (nowMs graceMs : Millis) :
    DecidablePred fun l : LogicalAgentRow => l.Expired nowMs graceMs := fun l => by
  unfold LogicalAgentRow.Expired
  infer_instance

/-- Active socket waiters whose claiming connection has been absent past grace. -/
def Store.expiredWaiters (s : Store) (nowMs graceMs : Millis) : List LogicalAgentId :=
  ((s.logicalAgents.rows.filter (·.Expired nowMs graceMs)).insertionSort fun a b =>
    a.createdAtMs < b.createdAtMs ∨ a.createdAtMs = b.createdAtMs ∧ a.id ≤ b.id).map (·.id)

theorem mem_expiredWaiters {s : Store} {nowMs graceMs : Millis} {agent : LogicalAgentId} :
    agent ∈ s.expiredWaiters nowMs graceMs ↔
      ∃ l ∈ s.logicalAgents, l.Expired nowMs graceMs ∧ l.id = agent := by
  simp [Store.expiredWaiters, List.mem_insertionSort, Table.mem_def, and_assoc]

-- ============================================================================
-- Schedules of prompts
-- ============================================================================

section Programs

variable (config : SliceConfig)

/-- `prompt_schedule`: when a prompt becomes due, and whether it waits for that. -/
def promptSchedule (now : Millis) (recipient : IncarnationId) (dueAtMs : Option Millis) :
    Query (Option Millis × Bool) := fun s =>
  let clearInFlight : Bool := s.ClearInFlight recipient
  let spacingDueAtMs : Millis :=
    ((s.lastClearSpacingAtMs recipient).map fun resolved =>
      saturatingAdd resolved config.promptSettleDelayMs).getD 0
  let effective : Option Millis :=
    match dueAtMs with
    | some due => if now < spacingDueAtMs then some (max due spacingDueAtMs) else some due
    | none =>
      if clearInFlight then some now
      else if now < spacingDueAtMs then some spacingDueAtMs
      else none
  .ok (effective, clearInFlight || effective.any (now < ·))

-- ============================================================================
-- The end of a waiter
-- ============================================================================

/-- The unresolved asks on whose answers an agent waits. -/
def asksWaitingOn (waiting : LogicalAgentId) : Query (List MessageId) := fun s =>
  match s.logicalAgents.find waiting with
  | none => .error (.conflict "logical agent is absent")
  | some _ => .ok ((s.unresolvedAsksWaitingOn waiting).map (·.askMessageId))

/-- The incarnation that a notice to the owing side of an ask goes to. -/
def cancelOwingIncarnation (askMessageId : MessageId) : Query (Option IncarnationId) := fun s =>
  match s.obligations.find askMessageId with
  | none => .error (.conflict "obligation is absent")
  | some o =>
    match s.incarnations.rows.filter fun i =>
        i.logicalAgentId = o.owingAgentId ∧ i.state = .ready with
    | [] => .ok none
    | [i] => .ok (some i.id)
    | _ => .error (.conflict "ambiguous ready incarnation for owing agent")

/-- `ask_info`, of which a notice takes the name of the responder. -/
def askResponderName (askMessageId : MessageId) : Query String := fun s =>
  match (s.obligations.find askMessageId).bind fun o => s.publicName o.owingAgentId with
  | none => .error (.conflict "ask message does not name an obligation")
  | some name => .ok name

/-- The attributes of a cancellation, which must be safe without quotes. -/
def checkCancellationAttrs (role address : String) (cancelledAsk : MessageId) :
    Query Unit := fun _ => do
  let _ ← validatedAttr role address
  let _ ← validatedAttr "cancelled-ask" (toString cancelledAsk)
  return ()

/-- The prompt of a cancellation notice, to the pane of its recipient. -/
def prepareCancellationNotice (operationId : OperationId) (recipient : IncarnationId) :
    SliceProg PreparedPrompt := do
  let (paneId, _) ← stored (query (readyBinding recipient))
  return { operationId, recipientIncarnation := recipient, paneId,
           requestId := s!"kelpie:owing-cancellation:{operationId}", queued := false }

/-- The schedule of the notice to the owing side of an ask. -/
def owingSchedule (now : Millis) (askMessageId : MessageId) :
    SliceProg (MessageId × Option Millis × Bool) := do
  let owing ← stored (query (cancelOwingIncarnation askMessageId))
  match owing with
  | some incarnation => do
    let schedule ← stored (query (promptSchedule config now incarnation none))
    return (askMessageId, schedule)
  | none => return (askMessageId, none, false)

/-- The prompt of one owing notice, unless it is deferred. -/
def prepareOwingNotice (deferred : List MessageId) (notice : OwingRetireNotice) :
    SliceProg (Option PreparedPrompt) :=
  if notice.askMessageId ∈ deferred then
    return none
  else
    match notice.delivery with
    | none => return none
    | some (operationId, incarnation) => do
      let owing ← stored (query (askResponderName notice.askMessageId))
      stored (query (checkCancellationAttrs "owing" owing notice.askMessageId))
      let prepared ← prepareCancellationNotice operationId incarnation
      return some prepared

/-- What is left to do after a waiter ended. -/
structure PreparedWaiterRetire where
  cancelledAskIds : List MessageId
  prompts : List PreparedPrompt

/-- End a waiter with all its asks; the notices to busy agents are scheduled for later. -/
def prepareRetireWaiter (now : Millis) (agent : LogicalAgentId) (reason : String) :
    SliceProg PreparedWaiterRetire := do
  let asks ← stored (query (asksWaitingOn agent))
  let schedules ← Prog.forEach asks (owingSchedule config now)
  let owingDueAtMs (ask : MessageId) : Option Millis :=
    (schedules.find? (·.1 = ask)).bind (·.2.1)
  let deferred := (schedules.filter (·.2.2)).map (·.1)
  let ended ← stored (endSocketWaiterWithOwingDue now agent owingDueAtMs reason)
  let prompts ← Prog.forEach ended.owingNotices (prepareOwingNotice deferred)
  return { cancelledAskIds := ended.cancelledAskIds, prompts := prompts.filterMap id }

-- ============================================================================
-- Orphaned asks
-- ============================================================================

/-- `cancellation_rendering_for_operation`. -/
def cancellationRendering (operationId : OperationId) :
    Query (MessageId × String × CancellationAudience) := fun s =>
  match s.operations.find operationId with
  | none => .error (.sql .queryReturnedNoRows)
  | some o =>
    match o.intent with
    | .prompt intent =>
      match intent.cancelledAsk, intent.reason with
      | none, _ =>
        .error (.invalidRecord "cancellation operation intent is missing cancelled_ask")
      | some _, none =>
        .error (.invalidRecord "cancellation operation intent is missing reason")
      | some ask, some reason => .ok (ask, reason, intent.audience.getD .waiting)
    | _ => .error (.invalidRecord "cancellation operation intent is missing cancelled_ask")

/-- The agent of an incarnation. -/
def logicalAgentOf (incarnationId : IncarnationId) : Query LogicalAgentId := fun s =>
  match s.incarnations.find incarnationId with
  | some i => .ok i.logicalAgentId
  | none => .error (.conflict s!"incarnation {incarnationId} is absent")

/-- The prompt of one cancellation that its operation describes. -/
def draftCancellationPrompt (operationId : OperationId) (recipient : IncarnationId) :
    SliceProg PreparedPrompt := do
  let agent ← stored (query (logicalAgentOf recipient))
  let (paneId, _) ← stored (query (readyBinding recipient))
  let (cancelledAsk, _, audience) ← stored (query (cancellationRendering operationId))
  let address ← stored (query (agentAddress agent))
  match audience with
  | .waiting => do
    stored (query (checkCancellationAttrs "waiting" address cancelledAsk))
    return { operationId, recipientIncarnation := recipient, paneId,
             requestId := s!"kelpie:cancellation:{operationId}", queued := false }
  | .owing => do
    stored (query (checkCancellationAttrs "owing" address cancelledAsk))
    return { operationId, recipientIncarnation := recipient, paneId,
             requestId := s!"kelpie:owing-cancellation:{operationId}", queued := false }

/-- The prompts of both sides of a cancellation, none of them deferred. -/
def cancellationPrompts (created : CreatedCancellation) : SliceProg (List PreparedPrompt) :=
  Prog.forEach (created.delivery.toList ++ created.owingDelivery.toList) fun delivery =>
    draftCancellationPrompt delivery.1 delivery.2

-- ============================================================================
-- The sweep
-- ============================================================================

/-- The outcome of a sweep. -/
structure AbsenceSweep where
  expiredWaiters : List LogicalAgentId
  orphanedAsks : List MessageId
  prompts : List PreparedPrompt

/-- Retire one expired waiter, and say so. -/
def sweepExpired (now : Millis) (waiter : LogicalAgentId) : SliceProg (List PreparedPrompt) := do
  let address ← stored (query (agentAddress waiter))
  let prepared ← prepareRetireWaiter config now waiter "waiter connection lost"
  let _ ← stored (insertOperatorNotice now
    (s!"socket waiter {waiter} ({address}) was retired because its claiming connection was " ++
      s!"absent past the grace; {prepared.cancelledAskIds.length} ask(s) cancelled"))
  return prepared.prompts

/-- Orphan one stranded ask; answer with its prompts when it was still open. -/
def sweepStranded (now : Millis) (obligation : ObligationRow) :
    SliceProg (Option (MessageId × List PreparedPrompt)) := do
  let created ← stored (orphanAsk now obligation.askMessageId)
  match created with
  | none => return none
  | some created => do
    let prompts ← cancellationPrompts created
    return some (obligation.askMessageId, prompts)

/-- `sweep_absent_asks`, at the reading `nowMs`; what it records is stamped `now`. -/
def sweepAbsentAsks (now nowMs graceMs : Millis) : SliceProg AbsenceSweep := do
  let expired ← Prog.reads (Store.expiredWaiters · nowMs graceMs)
  let retired ← Prog.forEach expired (sweepExpired config now)
  let _ ← stored (observeAskAvailability nowMs)
  let stranded ← Prog.reads (Store.strandedAsks · nowMs graceMs)
  let orphaned ← Prog.forEach stranded (sweepStranded now)
  let orphaned := orphaned.filterMap id
  return { expiredWaiters := expired, orphanedAsks := orphaned.map (·.1),
           prompts := retired.flatten ++ orphaned.flatMap (·.2) }

/-- A program of the store alone. -/
def ofStoreProg {α : Type} (x : Prog Store StoreError α) : SliceProg α :=
  ⟨fun s => match x.run s with
    | (.ok a, s') => (.ok a, s')
    | (.error e, s') => (.error (.store e), s')⟩

/-- Settle the reminders and the operations that a snapshot decides. -/
def recoverWithSnapshot (now : Millis) (snapshot : Snapshot) : SliceProg RecoveryReport := do
  let _ ← stored (reconcileReminderAttempts now)
  ofStoreProg (reconcile now snapshot)

end Programs

-- ============================================================================
-- Runs of calls
-- ============================================================================

section Calls

variable {ok : Call → Store → Prop} {α : Type}

/-- A transaction that is a call is a run of one step. -/
theorem keeps_call {x : StoreTx α} (c : Call) (h : ∀ s, c.commit s = x.commit s)
    (h_ok : ∀ s, ok c s) : Keeps (StoreRun ok) x where
  keeps {s a s'} h_run := by
    refine .single c (h_ok s) ?_
    rw [Call.Step, h]
    exact commit_ok.mpr ⟨a, h_run⟩

theorem final_ofStoreProg (x : Prog Store StoreError α) (s : Store) :
    (ofStoreProg x).final s = x.final s := by
  unfold Prog.final ofStoreProg
  dsimp only
  split
  · rename_i h
    rw [h]
  · rename_i h
    rw [h]

instance {R : Store → Store → Prop} {x : Prog Store StoreError α} [hx : Prog.Keeps R x] :
    Prog.Keeps R (ofStoreProg x) where
  keeps s := by
    rw [final_ofStoreProg]
    exact hx.keeps s

/-- The call is one that a recovery makes. -/
def Call.Recovers (c : Call) : Prop :=
  match c with
  | .reconcileReminderAttempts .. | .reconcileReadyIncarnations ..
  | .continueRestoredOccupants .. | .settleAbsentUnknownStart .. | .reconcileRetirement ..
  | .acceptStartReady .. | .acceptAdoptReady .. | .markUnknown .. | .markClearUnknown ..
  | .failUnattemptedClear .. | .createOperatorNotice .. => True
  | _ => False

/-- The call is one that a recovery makes once the Ready bindings are reconciled. -/
def Call.RecoversLater (c : Call) : Prop :=
  match c with
  | .continueRestoredOccupants .. | .settleAbsentUnknownStart .. | .reconcileRetirement ..
  | .acceptStartReady _ _ _ _ none | .acceptAdoptReady .. | .markUnknown .. | .markClearUnknown ..
  | .failUnattemptedClear .. | .createOperatorNotice .. => True
  | _ => False

/-- The call is one that a sweep over the `expired` waiters makes. -/
def Call.Sweeps (expired : List LogicalAgentId) (c : Call) : Prop :=
  match c with
  | .endSocketWaiter _ agent _ _ => agent ∈ expired
  | .observeAskAvailability .. | .orphanAsk .. | .createOperatorNotice .. => True
  | _ => False

section Recovery

variable {now : Millis} {snapshot : Snapshot}

instance : Keeps (StoreRun fun c _ => c.Recovers) (reconcileReminderAttempts now) :=
  keeps_call (.reconcileReminderAttempts now) (fun _ => rfl) fun _ => trivial

instance : Keeps (StoreRun fun c _ => c.Recovers) (reconcileReadyIncarnations now snapshot) :=
  keeps_call (.reconcileReadyIncarnations now snapshot) (fun _ => rfl) fun _ => trivial

instance : Keeps (StoreRun fun c _ => c.RecoversLater) (continueRestoredOccupants now snapshot) :=
  keeps_call (.continueRestoredOccupants now snapshot) (fun _ => rfl) fun _ => trivial

instance {row} : Keeps (StoreRun fun c _ => c.RecoversLater) (settleAbsentUnknownStart now row) :=
  keeps_call (.settleAbsentUnknownStart now row) (fun _ => rfl) fun _ => trivial

instance {op inc pane terminal} :
    Keeps (StoreRun fun c _ => c.RecoversLater)
      (reconcileRetirement now op inc pane terminal snapshot) :=
  keeps_call (.reconcileRetirement now op inc pane terminal snapshot) (fun _ => rfl)
    fun _ => trivial

instance {op inc agent} : Keeps (StoreRun fun c _ => c.RecoversLater)
    (acceptStartReady now op inc agent none) :=
  keeps_call (.acceptStartReady now op inc agent none) (fun _ => rfl) fun _ => trivial

instance {op inc agent} :
    Keeps (StoreRun fun c _ => c.RecoversLater) (acceptAdoptReady now op inc agent) :=
  keeps_call (.acceptAdoptReady now op inc agent) (fun _ => rfl) fun _ => trivial

instance {op inc evidence} :
    Keeps (StoreRun fun c _ => c.RecoversLater) (markUnknown now op inc evidence) :=
  keeps_call (.markUnknown now op inc evidence) (fun _ => rfl) fun _ => trivial

instance {op inc evidence delay} :
    Keeps (StoreRun fun c _ => c.RecoversLater) (markClearUnknown now op inc evidence delay) :=
  keeps_call (.markClearUnknown now op inc evidence delay) (fun _ => rfl) fun _ => trivial

instance {op} : Keeps (StoreRun fun c _ => c.RecoversLater) (failUnattemptedClear now op) :=
  keeps_call (.failUnattemptedClear now op) (fun _ => rfl) fun _ => trivial

instance {body} : Keeps (StoreRun fun c _ => c.RecoversLater) (insertOperatorNotice now body) :=
  keeps_call (.createOperatorNotice now body) (fun _ => rfl) fun _ => trivial

instance {c} : Prog.Keeps (StoreRun fun c _ => c.RecoversLater) (recoverStart now snapshot c) := by
  have h_settle (intent : StartIntent) : Prog.Keeps (StoreRun fun c _ => c.RecoversLater)
      (match c.startedAgent intent snapshot with
        | none => return false
        | some agent => do
          let r ← Prog.attempt (acceptStartReady now c.operationId c.incarnationId agent none)
          match r with
          | .ok () => return true
          | .error (.conflict _) => return false
          | .error e => Prog.fail e : Prog Store StoreError Bool) := by
    split
    · infer_instance
    · refine @Prog.Keeps.bind _ _ _ _ _ _ _ _ inferInstance fun r => ?_
      split <;> infer_instance
  unfold recoverStart
  infer_instance

instance {c} : Prog.Keeps (StoreRun fun c _ => c.RecoversLater) (recoverAdopt now snapshot c) := by
  have h_settle (intended : String) : Prog.Keeps (StoreRun fun c _ => c.RecoversLater)
      (match c.adoptedAgent intended snapshot with
        | none => return false
        | some agent => do
          let r ← Prog.attempt (acceptAdoptReady now c.operationId c.incarnationId agent)
          match r with
          | .ok () => return true
          | .error _ => return false : Prog Store StoreError Bool) := by
    split
    · infer_instance
    · refine @Prog.Keeps.bind _ _ _ _ _ _ _ _ inferInstance fun r => ?_
      split <;> infer_instance
  unfold recoverAdopt
  infer_instance

instance {c} : Prog.Keeps (StoreRun fun c _ => c.RecoversLater) (recoverUnknown now c) := by
  unfold recoverUnknown
  infer_instance

instance {c report} :
    Prog.Keeps (StoreRun fun c _ => c.RecoversLater) (recoverUnattempted now c report) := by
  unfold recoverUnattempted
  infer_instance

instance {report c} :
    Prog.Keeps (StoreRun fun c _ => c.RecoversLater) (recoverCandidate now snapshot report c) := by
  unfold recoverCandidate
  dsimp only
  infer_instance

instance {report cs} : Prog.Keeps (StoreRun fun c _ => c.RecoversLater)
    (recoverCandidates now snapshot report cs) := by
  induction cs generalizing report with
  | nil => exact Prog.Keeps.pure report
  | cons c cs ih =>
    unfold recoverCandidates
    infer_instance

instance {nowMs} :
    Prog.Keeps (StoreRun fun c _ => c.RecoversLater) (reconcileMissedDueWakes now nowMs) := by
  unfold reconcileMissedDueWakes
  infer_instance

instance :
    Prog.Keeps (StoreRun fun c _ => c.RecoversLater) (settleAbsentUnknownStarts now snapshot) := by
  unfold settleAbsentUnknownStarts
  infer_instance

theorem Call.RecoversLater.recovers {c : Call} (h : c.RecoversLater) : c.Recovers := by
  cases c with
  | acceptStartReady => trivial
  | reconcileReminderAttempts => exact h.elim
  | reconcileReadyIncarnations => exact h.elim
  | _ => exact h

instance (priority := low) {x : StoreTx α}
    [hx : Keeps (StoreRun fun c _ => c.RecoversLater) x] :
    Keeps (StoreRun fun c _ => c.Recovers) x where
  keeps h := (hx.keeps h).mono fun _ _ => Call.RecoversLater.recovers

instance (priority := low) {x : Prog Store StoreError α}
    [hx : Prog.Keeps (StoreRun fun c _ => c.RecoversLater) x] :
    Prog.Keeps (StoreRun fun c _ => c.Recovers) x where
  keeps s := (hx.keeps s).mono fun _ _ => Call.RecoversLater.recovers

instance : Prog.Keeps (StoreRun fun c _ => c.Recovers) (reconcile now snapshot) := by
  unfold reconcile
  infer_instance

instance : Prog.Keeps (StoreRun fun c _ => c.Recovers) (recoverWithSnapshot now snapshot) := by
  unfold recoverWithSnapshot
  infer_instance

/-- A recovery is a run of the calls that a recovery makes. -/
theorem recover_run (s : Store) :
    StoreRun (fun c _ => c.Recovers) s ((recoverWithSnapshot now snapshot).final s) :=
  Prog.Keeps.keeps s

end Recovery

section Sweep

variable {config : SliceConfig} {now nowMs graceMs : Millis} {expired : List LogicalAgentId}

/-- A read is part of every run. -/
instance {q : Query α} : Keeps (StoreRun ok) (query q : StoreTx α) := inferInstance

theorem keeps_endSocketWaiter {agent : LogicalAgentId} {due : MessageId → Option Millis}
    {reason : String} (h : agent ∈ expired) :
    Keeps (StoreRun fun c _ => c.Sweeps expired)
      (endSocketWaiterWithOwingDue now agent due reason) :=
  keeps_call (.endSocketWaiter now agent due reason) (fun _ => rfl) fun _ => h

instance : Keeps (StoreRun fun c _ => c.Sweeps expired) (observeAskAvailability nowMs) :=
  keeps_call (.observeAskAvailability nowMs) (fun _ => rfl) fun _ => trivial

instance {ask} : Keeps (StoreRun fun c _ => c.Sweeps expired) (orphanAsk now ask) :=
  keeps_call (.orphanAsk now ask) (fun _ => rfl) fun _ => trivial

instance {body} : Keeps (StoreRun fun c _ => c.Sweeps expired) (insertOperatorNotice now body) :=
  keeps_call (.createOperatorNotice now body) (fun _ => rfl) fun _ => trivial

instance {ask} : Prog.Keeps (StoreRun ok) (owingSchedule config now ask) := by
  unfold owingSchedule
  refine @Prog.Keeps.bind _ _ _ _ _ _ _ _ inferInstance fun owing => ?_
  split <;> infer_instance

instance {op inc} : Prog.Keeps (StoreRun ok) (prepareCancellationNotice op inc) := by
  unfold prepareCancellationNotice
  infer_instance

instance {deferred notice} : Prog.Keeps (StoreRun ok) (prepareOwingNotice deferred notice) := by
  unfold prepareOwingNotice
  split
  · infer_instance
  · split <;> infer_instance

instance {op inc} : Prog.Keeps (StoreRun ok) (draftCancellationPrompt op inc) := by
  unfold draftCancellationPrompt
  refine @Prog.Keeps.bind _ _ _ _ _ _ _ _ inferInstance fun agent => ?_
  refine @Prog.Keeps.bind _ _ _ _ _ _ _ _ inferInstance fun binding => ?_
  refine @Prog.Keeps.bind _ _ _ _ _ _ _ _ inferInstance fun rendering => ?_
  refine @Prog.Keeps.bind _ _ _ _ _ _ _ _ inferInstance fun address => ?_
  split <;> infer_instance

instance {created} : Prog.Keeps (StoreRun ok) (cancellationPrompts created) := by
  unfold cancellationPrompts
  infer_instance

theorem keeps_sweepExpired {agent : LogicalAgentId} (h : agent ∈ expired) :
    Prog.Keeps (StoreRun fun c _ => c.Sweeps expired) (sweepExpired config now agent) := by
  have h_end {due : MessageId → Option Millis} {reason : String} :
      Keeps (StoreRun fun c _ => c.Sweeps expired)
        (endSocketWaiterWithOwingDue now agent due reason) := keeps_endSocketWaiter h
  have h_retire {reason} : Prog.Keeps (StoreRun fun c _ => c.Sweeps expired)
      (prepareRetireWaiter config now agent reason) := by
    unfold prepareRetireWaiter
    infer_instance
  unfold sweepExpired
  infer_instance

instance {o} :
    Prog.Keeps (StoreRun fun c _ => c.Sweeps expired) (sweepStranded now o) := by
  unfold sweepStranded
  refine @Prog.Keeps.bind _ _ _ _ _ _ _ _ inferInstance fun created => ?_
  split <;> infer_instance

/-- A sweep is a run of calls, and the waiters that these end were expired before it. -/
theorem sweep_run (config : SliceConfig) (now nowMs graceMs : Millis) (s : Store) :
    StoreRun (fun c _ => c.Sweeps (s.expiredWaiters nowMs graceMs)) s
      ((sweepAbsentAsks config now nowMs graceMs).final s) := by
  have h_retired : Prog.Keeps (StoreRun fun c _ => c.Sweeps (s.expiredWaiters nowMs graceMs))
      (Prog.forEach (s.expiredWaiters nowMs graceMs) (sweepExpired config now)) :=
    .forEach_mem fun _ h => keeps_sweepExpired h
  have h_read : (Prog.reads (Store.expiredWaiters · nowMs graceMs) : SliceProg _).run s =
      (.ok (s.expiredWaiters nowMs graceMs), s) := rfl
  rw [sweepAbsentAsks, Prog.final_bind_ok h_read]
  exact Prog.Keeps.keeps s

end Sweep

end Calls

end Kelpie
