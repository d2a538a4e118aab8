/-
  Kelpie.Herdr.Exec

  The executor that runs Herdr requests off the daemon thread: its queues, the
  channels to its workers, and the workers themselves.

  Snapshots share one lane and each pane has its own.  The executor and its
  workers keep one record of what happened to each job, in order; no function
  of the source reads it.
-/

import Mathlib.Data.List.AList
import Kelpie.Domain
import Kelpie.Lib.Runs

namespace Kelpie

open Lib

-- ============================================================================
-- Jobs and events
-- ============================================================================

/-- The number of a job. -/
abbrev JobId := Nat

/-- Errors retain transport and Herdr rejection distinctions. -/
inductive HerdrError where
  | unavailable (kind message : String)
  | malformed (message : String)
  | rejected (code message : String)
  | incompatible (actual supported : Nat)
  | incompatibleEndpoint (actual supported : Nat)
  | unexpected (message : String)
  | readinessTimeout (millis : Nat)
deriving DecidableEq, Repr

/-- Herdr's current observed lifecycle status for an agent runtime. -/
inductive AgentStatus where
  | idle
  | working
  | blocked
  | done
  | unknown
deriving DecidableEq, Repr

/-- Exact live identity plus Herdr's current lifecycle observation. -/
structure LifecycleObservation where
  agent : AgentObservation
  agentStatus : AgentStatus
deriving DecidableEq, Repr

/-- One unit of Herdr work. FIFO within a lane. -/
inductive HerdrJob where
  | snapshot (jobId : JobId) (negotiate : Bool)
  | lifecycleSnapshot (jobId : JobId)
  | openPane (jobId : JobId) (paneId : String) (negotiate : Bool)
  | agentGet (jobId : JobId) (requestId target : String)
deriving DecidableEq, Repr

/-- Where a lease or request failed relative to the write boundary. -/
inductive FailPhase where
  | connect
  | write
  | read
  | lease
deriving DecidableEq, Repr

/-- Successful Herdr payload for a finished job. -/
inductive HerdrJobResult where
  | snapshot (snapshot : Snapshot)
  | lifecycle (observations : List LifecycleObservation)
  | prompt (agent : AgentObservation)
  | agent (agent : AgentObservation)
  | closed
deriving DecidableEq, Repr

/-- Completion (and optional write-boundary) for one job. -/
inductive HerdrEvent where
  | opened (jobId : JobId)
  | written (jobId : JobId) (afterWritePause : String)
  | done (jobId : JobId) (result : Except HerdrError HerdrJobResult)
  | failed (jobId : JobId) (phase : FailPhase) (error : HerdrError)
  | dropped (jobId : JobId)
deriving DecidableEq

/-- Jobs of one lane run one after the other. -/
inductive Lane where
  | snapshot
  | pane (paneId : String)
deriving DecidableEq, Repr

/-- `job_id_of`. -/
def HerdrJob.jobId : HerdrJob → JobId
  | .snapshot jobId _ => jobId
  | .lifecycleSnapshot jobId => jobId
  | .openPane jobId _ _ => jobId
  | .agentGet jobId _ _ => jobId

/-- `lane_for`. -/
def HerdrJob.lane : HerdrJob → Lane
  | .snapshot _ _ => .snapshot
  | .lifecycleSnapshot _ => .snapshot
  | .openPane _ paneId _ => .pane paneId
  | .agentGet _ _ target => .pane target

/-- The job that an event is about. -/
def HerdrEvent.jobId : HerdrEvent → JobId
  | .opened jobId => jobId
  | .written jobId _ => jobId
  | .done jobId _ => jobId
  | .failed jobId _ _ => jobId
  | .dropped jobId => jobId

/-- The job whose lane the event frees. -/
def terminalJobId : HerdrEvent → Option JobId
  | .dropped jobId => some jobId
  | .failed jobId _ _ => some jobId
  | .opened _ | .written _ _ | .done _ _ => none

/-- Two snapshots of one kind. -/
def HerdrJob.Joins : HerdrJob → HerdrJob → Prop
  | .snapshot _ _, .snapshot _ _ => True
  | .lifecycleSnapshot _, .lifecycleSnapshot _ => True
  | _, _ => False

instance (queued job : HerdrJob) : Decidable (queued.Joins job) := by
  unfold HerdrJob.Joins
  split <;> infer_instance

/-- The queued snapshot that a snapshot of the same kind may share. -/
def coalescingLeader (queue : List HerdrJob) (job : HerdrJob) : Option JobId :=
  (queue.find? fun queued => queued.Joins job).map (·.jobId)

/-- The error as a follower of the job receives it. -/
def cloneHerdrError : HerdrError → HerdrError
  | .unavailable kind message => .unavailable kind message
  | .malformed message => .malformed message
  | .rejected code message => .rejected code message
  | .incompatible actual supported => .incompatible actual supported
  | .incompatibleEndpoint actual supported => .incompatibleEndpoint actual supported
  | .unexpected message => .unexpected message
  | .readinessTimeout millis => .readinessTimeout millis

/-- The event as a follower of its job receives it; only completion events are fanned
    out. -/
def cloneFollowerEvent (event : HerdrEvent) (jobId : JobId) : Option HerdrEvent :=
  match event with
  | .done _ result => some (.done jobId (match result with
    | .ok value => .ok value
    | .error error => .error (cloneHerdrError error)))
  | .failed _ phase error => some (.failed jobId phase (cloneHerdrError error))
  | .dropped _ => some (.dropped jobId)
  -- `unreachable!`
  | .opened _ | .written _ _ => none

-- ============================================================================
-- The executor
-- ============================================================================

/-- What happened, as the record keeps it. -/
inductive HerdrEntry where
  | submitted (job : HerdrJob)
  | joined (follower leader : JobId)
  | dispatched (job : HerdrJob)
  | requested (jobId : JobId)
  | reported (event : HerdrEvent)
  | received (event : HerdrEvent)
deriving DecidableEq

/-- The queues of the executor and its ends of the two channels: the jobs sent that no
    worker has taken, and the events sent that were not received. -/
structure HerdrExec where
  jobTx : List HerdrJob := []
  eventRx : List HerdrEvent := []
  queued : AList (fun _ : Lane => List HerdrJob) := ∅
  inFlight : AList (fun _ : Lane => JobId) := ∅
  coalesced : AList (fun _ : JobId => List JobId) := ∅
  pendingEvents : List HerdrEvent := []
  /-- What happened so far. -/
  record : List HerdrEntry := []

namespace HerdrExec

/-- Put an entry on record. -/
def note (e : HerdrExec) (entry : HerdrEntry) : HerdrExec :=
  { e with record := e.record ++ [entry] }

/-- Hand a job to the workers, with its lane taken. -/
def dispatch (e : HerdrExec) (lane : Lane) (job : HerdrJob) : HerdrExec :=
  { e with
    inFlight := e.inFlight.insert lane job.jobId
    jobTx := e.jobTx ++ [job]
    record := e.record ++ [.dispatched job] }

/-- Let `job` share the queued request of `leader`. -/
def join (e : HerdrExec) (leader : JobId) (job : HerdrJob) : HerdrExec :=
  { e with
    coalesced := e.coalesced.insert leader
      (((e.coalesced.lookup leader).getD []) ++ [job.jobId])
    record := e.record ++ [.joined job.jobId leader] }

/-- Put `job` at the end of the queue of `lane`. -/
def enqueue (e : HerdrExec) (lane : Lane) (job : HerdrJob) : HerdrExec :=
  { e with queued := e.queued.insert lane (((e.queued.lookup lane).getD []) ++ [job]) }

/-- Queue `job` behind any in-flight work on its lane, or dispatch it now. -/
def submit (e : HerdrExec) (job : HerdrJob) : HerdrExec :=
  let lane := job.lane
  let e := e.note (.submitted job)
  match e.queued.lookup lane with
  | some queue =>
    match coalescingLeader queue job with
    | some leader => e.join leader job
    | none => e.enqueue lane job
  | none =>
    if lane ∈ e.inFlight then
      match (e.queued.lookup lane).bind (coalescingLeader · job) with
      | some leader => e.join leader job
      | none => e.enqueue lane job
    else e.dispatch lane job

/-- A `Done` goes to the followers of its job, which stay followers. -/
def fanOutDone (e : HerdrExec) (event : HerdrEvent) : HerdrExec :=
  match event with
  | .done jobId _ =>
    { e with pendingEvents := e.pendingEvents ++
        ((e.coalesced.lookup jobId).getD []).filterMap (cloneFollowerEvent event) }
  | _ => e

/-- A terminal event goes to the followers of its job, which it has no longer. -/
def releaseFollowers (e : HerdrExec) (event : HerdrEvent) (jobId : JobId) : HerdrExec :=
  { e with
    pendingEvents := e.pendingEvents ++
      ((e.coalesced.lookup jobId).getD []).filterMap (cloneFollowerEvent event)
    coalesced := e.coalesced.erase jobId }

/-- The lane that `jobId` is in flight on. -/
def laneOf (e : HerdrExec) (jobId : JobId) : Option Lane :=
  (e.inFlight.entries.find? fun entry => entry.2 = jobId).map (·.1)

/-- Dispatch the next job of the lane that `jobId` was in flight on. -/
def freeLane (e : HerdrExec) (jobId : JobId) : HerdrExec :=
  match e.laneOf jobId with
  | none => e
  | some lane =>
    let e := { e with inFlight := e.inFlight.erase lane }
    match e.queued.lookup lane with
    | some (next :: rest) =>
      let e := if rest = [] then { e with queued := e.queued.erase lane }
        else { e with queued := e.queued.insert lane rest }
      e.dispatch lane next
    | _ => e

/-- A job that ends tells its followers, and frees its lane. -/
def finish (e : HerdrExec) (event : HerdrEvent) : HerdrExec :=
  match terminalJobId event with
  | some jobId => (e.releaseFollowers event jobId).freeLane jobId
  | none => e

/-- Non-blocking event drain helper for one event. -/
def tryRecv (e : HerdrExec) : Option (HerdrEvent × HerdrExec) :=
  match e.pendingEvents with
  | event :: rest =>
    some (event, ({ e with pendingEvents := rest } : HerdrExec).note (.received event))
  | [] =>
    match e.eventRx with
    | event :: rest =>
      let e := ({ e with eventRx := rest } : HerdrExec).note (.received event)
      some (event, (e.fanOutDone event).finish event)
    | [] => none

end HerdrExec

-- ============================================================================
-- Workers
-- ============================================================================

/-- One request on a leased connection; what it asks for is in `params`, which no branch
    of the worker looks at. -/
structure LeaseSend where
  requestId : String
  method : String
  afterWritePause : String
  readTimeout : Option Nat
deriving DecidableEq, Repr

/-- What becomes of a request on a leased connection: the read budget may be refused;
    otherwise the bytes may be flushed, and Herdr's result, as an agent result, may be
    read. -/
structure LeaseReply where
  timeoutRefused : Option HerdrError := none
  wrote : Bool := true
  raw : Except HerdrError (Except HerdrError AgentObservation)

/-- What becomes of a job that was taken: the result of its one call, or of the connection
    that it opens. -/
inductive JobReply where
  | snapshot (result : Except HerdrError Snapshot)
  | lifecycle (result : Except HerdrError (List LifecycleObservation))
  | agent (result : Except HerdrError AgentObservation)
  | connection (result : Except HerdrError Unit)

/-- Where a worker is in its loop. -/
inductive WorkerStage where
  /-- It has taken its job and waits for Herdr. -/
  | calling
  /-- It holds an open socket and waits for a command. -/
  | leased
  /-- It returns to the pool once its events are sent. -/
  | leaving
deriving DecidableEq, Repr

/-- A worker that holds a job, with the events it is about to send. -/
structure Worker where
  job : HerdrJob
  stage : WorkerStage := .calling
  outbox : List HerdrEvent := []

/-- `HerdrError::Unexpected("herdr lease exceeded 30s")`. -/
def leaseExceeded : HerdrError := .unexpected "herdr lease exceeded 30s"

/-- `worker_loop` after the call that its job makes. -/
def HerdrJob.answer : HerdrJob → JobReply → Option (WorkerStage × List HerdrEvent)
  | .snapshot jobId _, .snapshot result =>
    some (.leaving, [.done jobId (result.map .snapshot), .dropped jobId])
  | .lifecycleSnapshot jobId, .lifecycle result =>
    some (.leaving, [.done jobId (result.map .lifecycle), .dropped jobId])
  | .agentGet jobId _ _, .agent result =>
    some (.leaving, [.done jobId (result.map .agent), .dropped jobId])
  | .openPane jobId _ _, .connection (.ok ()) => some (.leased, [.opened jobId])
  -- Negotiating or connecting failed.
  | .openPane jobId _ _, .connection (.error error) =>
    some (.leaving, [.failed jobId .connect error])
  | _, _ => none

/-- The completion of a request whose result arrived. -/
def sendResult (method : String) (parsed : Except HerdrError AgentObservation) :
    Except HerdrError HerdrJobResult :=
  if method = "agent.prompt" then parsed.map .prompt
  else if method = "agent.start" ∨ method = "agent.get" ∨ method = "agent.rename" then
    parsed.map .agent
  else if method = "pane.close" then .ok .closed
  else .error (.unexpected "lease send returned an unexpected result")

/-- What the holder of a lease receives on it. -/
inductive LeaseInput where
  | send (cmd : LeaseSend) (reply : LeaseReply)
  /-- `LeaseCmd::Drop`, or the sender is gone. -/
  | drop
  /-- Nothing came within the time to live. -/
  | timeout

/-- One pass of `run_lease`. -/
def leaseAnswer (jobId : JobId) : LeaseInput → WorkerStage × List HerdrEvent
  | .drop => (.leaving, [.dropped jobId])
  | .timeout => (.leaving, [.failed jobId .lease leaseExceeded])
  | .send cmd reply =>
    match cmd.readTimeout, reply.timeoutRefused with
    | some _, some error => (.leaving, [.failed jobId .connect error])
    | _, _ =>
      (.leased,
        (if reply.wrote then [.written jobId cmd.afterWritePause] else []) ++
        [match reply.raw with
          | .ok parsed => .done jobId (sendResult cmd.method parsed)
          -- The worker keeps the socket, also after a failure.
          | .error error => .failed jobId (if reply.wrote then .read else .write) error])

-- ============================================================================
-- The executor with its workers
-- ============================================================================

/-- The executor, and the workers that carry out its jobs. -/
structure HerdrWorld where
  exec : HerdrExec := {}
  workers : AList (fun _ : JobId => Worker) := ∅

/-- A step of the daemon thread (`submit`, `receive`) or of a worker. -/
inductive HerdrStep where
  | submit (job : HerdrJob)
  | receive
  | take
  | answer (jobId : JobId) (reply : JobReply)
  | command (jobId : JobId) (input : LeaseInput)
  | send (jobId : JobId)
  | leave (jobId : JobId)

namespace HerdrWorld

/-- `HerdrExec::spawn_workers`, with every worker waiting for a job. -/
def spawn : HerdrWorld := {}

/-- The next state of an executor with a pool of `pool` workers. -/
def next (pool : Nat) (step : HerdrStep) (w : HerdrWorld) : Option HerdrWorld :=
  match step with
  | .submit job => some { w with exec := w.exec.submit job }
  | .receive => w.exec.tryRecv.map fun r => { w with exec := r.2 }
  | .take =>
    match w.exec.jobTx with
    | job :: rest =>
      if w.workers.keys.length < pool then
        some {
          exec := ({ w.exec with jobTx := rest } : HerdrExec).note (.requested job.jobId),
          workers := w.workers.insert job.jobId { job } }
      else none
    | [] => none
  | .answer jobId reply => do
    let worker ← w.workers.lookup jobId
    guard (worker.stage = .calling)
    let (stage, events) ← worker.job.answer reply
    return { w with workers := w.workers.insert jobId { worker with stage, outbox := events } }
  | .command jobId input => do
    let worker ← w.workers.lookup jobId
    guard (worker.stage = .leased ∧ worker.outbox = [])
    let (stage, events) := leaseAnswer worker.job.jobId input
    return { w with workers := w.workers.insert jobId { worker with stage, outbox := events } }
  | .send jobId => do
    let worker ← w.workers.lookup jobId
    let event ← worker.outbox.head?
    let exec : HerdrExec := { w.exec with eventRx := w.exec.eventRx ++ [event] }
    return {
      exec := exec.note (.reported event),
      workers := w.workers.insert jobId { worker with outbox := worker.outbox.tail } }
  | .leave jobId => do
    let worker ← w.workers.lookup jobId
    guard (worker.stage = .leaving ∧ worker.outbox = [])
    return { w with workers := w.workers.erase jobId }

end HerdrWorld

-- ============================================================================
-- Reading the record
-- ============================================================================

namespace HerdrExec

/-- The jobs that were submitted, in order. -/
def submitted (record : List HerdrEntry) : List HerdrJob :=
  record.filterMap fun
    | .submitted job => some job
    | _ => none

/-- The jobs that were dispatched, in order. -/
def dispatched (record : List HerdrEntry) : List HerdrJob :=
  record.filterMap fun
    | .dispatched job => some job
    | _ => none

/-- The events about `jobId` that its worker sent. -/
def reported (record : List HerdrEntry) (jobId : JobId) : List HerdrEvent :=
  record.filterMap fun
    | .reported event => if event.jobId = jobId then some event else none
    | _ => none

/-- The events about `jobId` that the daemon received. -/
def received (record : List HerdrEntry) (jobId : JobId) : List HerdrEvent :=
  record.filterMap fun
    | .received event => if event.jobId = jobId then some event else none
    | _ => none

/-- A terminal event of the job was received. -/
def Finished (record : List HerdrEntry) (jobId : JobId) : Prop :=
  ∃ event ∈ received record jobId, (terminalJobId event).isSome

/-- The jobs that share the request of another one, each with that one. -/
def joins (record : List HerdrEntry) : List (JobId × JobId) :=
  record.filterMap fun
    | .joined follower leader => some (follower, leader)
    | _ => none

/-- The job does not share the request of another one. -/
def Leads (record : List HerdrEntry) (jobId : JobId) : Prop :=
  jobId ∉ (joins record).map Prod.fst

instance (record : List HerdrEntry) : DecidablePred (Leads record) := fun _ =>
  inferInstanceAs (Decidable (_ ∉ _))

/-- The jobs of a lane that share no other request, as they were submitted. -/
def leadersOn (record : List HerdrEntry) (lane : Lane) : List HerdrJob :=
  (submitted record).filter fun job => job.lane = lane ∧ Leads record job.jobId

/-- The jobs of a lane, as they were submitted. -/
def submittedOn (record : List HerdrEntry) (lane : Lane) : List HerdrJob :=
  (submitted record).filter fun job => job.lane = lane

/-- The jobs of a lane, as they were dispatched. -/
def dispatchedOn (record : List HerdrEntry) (lane : Lane) : List HerdrJob :=
  (dispatched record).filter fun job => job.lane = lane

end HerdrExec

/-- The job ids that the daemon submits are fresh: `alloc_job`. -/
def HerdrStep.Fresh (step : HerdrStep) (w : HerdrWorld) : Prop :=
  match step with
  | .submit job => ∀ j ∈ HerdrExec.submitted w.exec.record, j.jobId ≠ job.jobId
  | _ => True

/-- The states of an executor whose pool is asked for `workers` workers: it has at least
    one. -/
abbrev HerdrReachable (workers : Nat) (w : HerdrWorld) : Prop :=
  Run (StepOf (HerdrWorld.next (max workers 1))) HerdrStep.Fresh HerdrWorld.spawn w

end Kelpie
