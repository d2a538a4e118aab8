/-
  Kelpie.Renews.Daemon

  The daemon that drives renews: its parked cycles, the passes over what is owed,
  and the events of the executor.

  A step is one handler of the daemon, which runs to its end before the next, or
  one store call of any other part of it.  A handler in which the daemon dies
  leaves the journal it has written, and a daemon without memory.
-/

import Kelpie.Renews.Driver

namespace Kelpie

open Lib Lib.Tx

-- ============================================================================
-- Parked cycles
-- ============================================================================

/-- What a parked cycle waits for. -/
inductive RenewParkState where
  | probe
  | clearingSend (write : RenewClearWrite)
  | rotationGet
  | injectSend (write : RenewInjectWrite)
  | confirmGet
deriving DecidableEq, Repr

/-- What becomes of the command that is sent on a lease: its channel is closed, the worker
    gives up before it takes the command, or the worker takes it. -/
inductive LeaseSending where
  | closed
  | lost
  | taken
deriving DecidableEq, Repr

/-- A renew that waits for a job of Herdr or a lease. -/
structure AwaitingRenew where
  item : DueRenew
  state : RenewParkState
  herdrJob : Option JobId := none
  /-- The lease that it holds, with what became of the command sent on it. -/
  lease : Option LeaseSending := none
deriving DecidableEq, Repr

/-- The job that the cycle waits for. -/
def AwaitingRenew.job (r : AwaitingRenew) (jobId : JobId) : HerdrJob :=
  match r.state with
  | .probe => .agentGet jobId s!"kelpie:renew:probe:{r.item.renewId}" r.item.paneId
  | .clearingSend write => .openPane jobId write.paneId false
  | .rotationGet => .agentGet jobId s!"kelpie:renew:rotation:{r.item.renewId}" r.item.paneId
  | .injectSend write => .openPane jobId write.paneId false
  | .confirmGet => .agentGet jobId s!"kelpie:renew:confirm:{r.item.renewId}" r.item.paneId

/-- The write that the cycle waits to send. -/
def RenewParkState.sending : RenewParkState → Option RenewStep
  | .clearingSend _ => some .clear
  | .injectSend _ => some .inject
  | .probe | .rotationGet | .confirmGet => none

-- ============================================================================
-- Handlers
-- ============================================================================

variable (config : SliceConfig)

/-- Terminate the ended renews and read what is owed. -/
def beginRenewPass (nowMs : Millis) (clock : Nat → Millis) : RenewProcess (List DueRenew) := do
  let items ← Process.result do
    terminateEndedRenews clock
    commits (query (actionableRenews nowMs))
  match items with
  | .ok items => return items
  | .error e => do
    noteRenewDriveError config (clock 0) e
    return []

/-- How a pass goes on after one renew. -/
inductive RenewDrive where
  | next
  | park (state : RenewParkState)
  | stop
deriving DecidableEq, Repr

/-- A renew that cannot advance now is left for the next pass; another failure ends this
    pass. -/
def driving {α : Type} (now : Millis) (p : RenewProcess α) (f : α → RenewDrive) :
    RenewProcess RenewDrive := do
  match ← p.result with
  | .ok a => return f a
  | .error e =>
    if e.RenewDriveSkips then return .next
    else do
      noteRenewDriveError config now e
      return .stop

/-- The body of the loop of `park_due_renews`. -/
def driveRenew (item : DueRenew) (nowMs : Millis) (clock : Nat → Millis) :
    RenewProcess RenewDrive :=
  match item.phase with
  | .scheduled => do
    let spacing ← Process.result (commits
      (reads fun s : Store => decide (s.PromptSpacingActive config item.incarnationId nowMs)))
    match spacing with
    | .error e => do
      noteRenewDriveError config (clock 3) e
      return .next
    | .ok true => return .next
    | .ok false => driving config (clock 3) (beginRenewPrepare item nowMs (clock 0)) fun _ => .next
  | .preparing =>
    driving config (clock 3) (renewSettlePrepare item nowMs (clock 0)) fun _ => .next
  | .timedOut => driving config (clock 3) (renewApplyTimeout item clock) fun _ => .next
  | .ready => driving config (clock 3) (renewClearReadyToProbe config item nowMs) fun probes =>
      if probes then .park .probe else .next
  | .clearing => return .park .rotationGet
  | .injected =>
    if item.injectNotBeforeMs = none then
      driving config (clock 3) (finishRenew item (clock 0)) fun _ => .next
    else return .park .confirmGet
  | .done | .aborted | .terminated => return .next

/-- The agent of a result that must be one. -/
def agentResult (read : String) :
    Except HerdrError HerdrJobResult → Except SliceError AgentObservation
  | .ok (.agent agent) => .ok agent
  | .ok _ => .error (.herdr (.unexpected s!"renew {read} returned a non-agent result"))
  | .error e => .error (.herdr e)

/-- The outcome of a write. -/
def sentResult (write : String) : Except HerdrError HerdrJobResult → Except HerdrError Unit
  | .ok (.prompt _) | .ok (.agent _) => .ok ()
  | .ok _ => .error (.unexpected s!"renew {write} returned a non-agent result")
  | .error e => .error e

/-- `drop_parked_renew` on a failure: the cycle is parked no longer. -/
def settling (now : Millis) (p : RenewProcess (Option RenewParkState)) :
    RenewProcess (Option RenewParkState) := do
  match ← p.result with
  | .ok state => return state
  | .error e => do
    if ¬ e.RenewDriveSkips then noteRenewDriveError config now e
    return none

/-- `on_renew_done`: what the cycle waits for next, if it stays parked. -/
def onRenewDone (r : AwaitingRenew) (result : Except HerdrError HerdrJobResult)
    (nowMs : Millis) (clock : Nat → Millis) : RenewProcess (Option RenewParkState) :=
  settling config (clock 3) <| match r.state with
  | .probe => do
    let observed ← Process.ofExcept (agentResult "probe" result)
    let write ← recordRenewClearing r.item nowMs observed
    return some (.clearingSend write)
  | .clearingSend write => do
    applyRenewAttemptResult r.item.renewId write.requestId nowMs (sentResult "clear" result)
    return none
  | .rotationGet => do
    let observed ← Process.ofExcept (agentResult "rotation" result)
    let write ← renewInjectDecision r.item nowMs (clock 0) observed
    return write.map .injectSend
  | .injectSend write => do
    applyRenewInjectResult r.item nowMs write (sentResult "inject" result)
    return none
  | .confirmGet => do
    let observed ← Process.ofExcept (agentResult "confirm" result)
    if ← applyRenewConfirmObservation r.item nowMs clock observed then
      finishRenew r.item (clock 4)
    return none

-- ============================================================================
-- The daemon
-- ============================================================================

/-- The store with its journal, and the memory of the daemon. -/
structure RenewWorld where
  journal : RenewJournal := { state := .empty }
  /-- What the current pass has yet to drive, and its reading of the clock. -/
  due : List DueRenew := []
  passNowMs : Millis := 0
  awaiting : List AwaitingRenew := []
  nextHerdrJob : JobId := 1
  /-- The jobs that were submitted to the executor. -/
  jobs : List HerdrJob := []

namespace RenewWorld

/-- The daemon dies and starts again. -/
def restart (w : RenewWorld) (journal : RenewJournal) : RenewWorld :=
  { journal, jobs := w.jobs }

/-- A cycle of the renew is parked. -/
def InFlight (w : RenewWorld) (renewId : RenewId) : Prop :=
  ∃ r ∈ w.awaiting, r.item.renewId = renewId

instance (w : RenewWorld) : DecidablePred w.InFlight := fun _ => by
  unfold InFlight
  infer_instance

/-- `renew_index_for_job`. -/
def parked (w : RenewWorld) (jobId : JobId) : Option AwaitingRenew :=
  w.awaiting.find? fun r => r.herdrJob = some jobId

/-- `finish_parked_renew`. -/
def unpark (w : RenewWorld) (r : AwaitingRenew) : RenewWorld :=
  { w with awaiting := w.awaiting.erase r }

/-- Put a renew in the place of another. -/
def replace (w : RenewWorld) (r r' : AwaitingRenew) : RenewWorld :=
  { w with awaiting := w.awaiting.map fun q => if q = r then r' else q }

/-- Submit the job of a parked cycle under the next number. -/
def submitJob (w : RenewWorld) (r : AwaitingRenew) : RenewWorld :=
  { w.replace r { r with herdrJob := some w.nextHerdrJob } with
    nextHerdrJob := w.nextHerdrJob + 1, jobs := w.jobs ++ [r.job w.nextHerdrJob] }

/-- `advance_awaiting_renews`: every parked cycle without a job submits its own. -/
def advanceAwaiting (w : RenewWorld) : RenewWorld :=
  (w.awaiting.filter (·.herdrJob = none)).foldl submitJob w

/-- One pass over a renew that is owed. -/
def drive (w : RenewWorld) (item : DueRenew) (rest : List DueRenew) (clock : Nat → Millis)
    (fates : List (Fate StoreError)) : RenewWorld :=
  if w.InFlight item.renewId then { w with due := rest }
  else
    match (driveRenew config item w.passNowMs clock).run fates w.journal with
    | (none, journal) => w.restart journal
    | (some (.ok .next), journal) => { w with journal, due := rest }
    | (some (.ok (.park state)), journal) =>
      { w with journal, due := rest, awaiting := w.awaiting ++ [{ item, state }] }
    | (some (.ok .stop), journal) | (some (.error _), journal) => { w with journal, due := [] }

/-- `on_renew_opened`: send the write of the cycle on its open connection. -/
def opened (w : RenewWorld) (r : AwaitingRenew) (step : RenewStep) (lease : LeaseSending) :
    RenewWorld :=
  match lease with
  | .closed => w.unpark r
  | .lost => w.replace r { r with lease := some .lost }
  | .taken =>
    { w.replace r { r with lease := some .taken } with
      journal := { w.journal with log := w.journal.log ++ [.sends r.item.renewId step] } }

/-- What the agent of a read shows. -/
def observing (w : RenewWorld) (r : AwaitingRenew)
    (result : Except HerdrError HerdrJobResult) : RenewJournal :=
  match r.state.sending, result with
  | none, .ok (.agent agent) =>
    { w.journal with log := w.journal.log ++ [.observes r.item.renewId agent] }
  | _, _ => w.journal

/-- The job of a renew ends with a result. -/
def done (w : RenewWorld) (r : AwaitingRenew) (result : Except HerdrError HerdrJobResult)
    (nowMs : Millis) (clock : Nat → Millis) (fates : List (Fate StoreError)) : RenewWorld :=
  match (onRenewDone config r result nowMs clock).run fates (w.observing r result) with
  | (none, journal) => w.restart journal
  | (some (.ok (some state)), journal) =>
    let r' : AwaitingRenew := { item := r.item, state }
    ({ w.replace r r' with journal }).submitJob r'
  | (some (.ok none), journal) | (some (.error _), journal) => { w.unpark r with journal }

end RenewWorld

-- ============================================================================
-- Steps
-- ============================================================================

/-- The calls that the driver alone makes. -/
def Call.DrivesRenew : Call → Prop
  | .markRenewPreparing .. | .markRenewReady .. | .markRenewClearing ..
  | .claimRenewClearStallNotice .. | .markRenewInjected .. | .markRenewTimedOut ..
  | .completeRenew .. | .abortRenew .. | .abandonRenewProof .. | .terminateRenew ..
  | .terminateRenewAnnounced .. | .prepareRenewAttempt .. | .submitRenewAttempt ..
  | .resolveRenewAttempt .. | .replaceObservedNativeSession .. => True
  | _ => False

instance : DecidablePred Call.DrivesRenew := fun c => by
  apply Call.casesOn (motive := fun c => Decidable (c.DrivesRenew)) c <;>
    intros <;>
    dsimp only [Call.DrivesRenew] <;>
    infer_instance

/-- What a call of another part of the daemon does to a renew: an agent may cancel it. -/
def Call.renewActs (c : Call) (s : Store) : List RenewAct :=
  match c with
  | .cancelRenew _ renewId _ _ _ => endsRenew renewId .cancelled s ()
  | _ => []

/-- A handler of the daemon, or an event of the executor, with its readings of the clock
    and the fates of its transactions. -/
inductive RenewLabel where
  | call (c : Call)
  | pass (nowMs : Millis) (clock : Nat → Millis) (fates : List (Fate StoreError))
  | drive (clock : Nat → Millis) (fates : List (Fate StoreError))
  | advance
  | opened (jobId : JobId) (lease : LeaseSending)
  | done (jobId : JobId) (result : Except HerdrError HerdrJobResult) (nowMs : Millis)
      (clock : Nat → Millis) (fates : List (Fate StoreError))
  | failed (jobId : JobId)
  | crash

namespace RenewWorld

/-- What the daemon does of the renews under a label: nothing that the source would not do there.
    -/
def next (label : RenewLabel) (w : RenewWorld) : Option RenewWorld :=
  match label with
  | .call c => do
    guard (w.due = [] ∧ ¬ c.DrivesRenew)
    let store ← (c.commit w.journal.state).toOption
    return { w with journal :=
      { state := store, log := w.journal.log ++ c.renewActs w.journal.state } }
  | .pass nowMs clock fates => do
    guard (w.due = [])
    match (beginRenewPass config nowMs clock).run fates w.journal with
    | (none, journal) => return w.restart journal
    | (some (.ok due), journal) => return { w with journal, due, passNowMs := nowMs }
    | (some (.error _), journal) => return { w with journal }
  | .drive clock fates =>
    match w.due with
    | [] => none
    | item :: rest => some (w.drive config item rest clock fates)
  | .advance => do
    guard (w.due = [])
    return w.advanceAwaiting
  | .opened jobId lease => do
    guard (w.due = [])
    let r ← w.parked jobId
    let step ← r.state.sending
    -- A worker opens its connection once.
    guard (r.lease = none)
    return w.opened r step lease
  | .done jobId result nowMs clock fates => do
    guard (w.due = [])
    let r ← w.parked jobId
    -- A connection answers the command that its worker took.
    guard (r.state.sending = none ∨ r.lease = some .taken)
    return w.done config r result nowMs clock fates
  | .failed jobId => do
    guard (w.due = [])
    let r ← w.parked jobId
    return w.unpark r
  | .crash => some (w.restart w.journal)

end RenewWorld

/-- The runs of the driver, with the calls beside it, whose labels meet `ok`. -/
abbrev RenewRun (ok : RenewLabel → RenewWorld → Prop) : RenewWorld → RenewWorld → Prop :=
  Run (StepOf (RenewWorld.next config)) ok

/-- The worlds that steps which meet `ok` reach from an empty store. -/
def RenewReachable (ok : RenewLabel → RenewWorld → Prop) (w : RenewWorld) : Prop :=
  RenewRun config ok {} w

end Kelpie
