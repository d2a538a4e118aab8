/-
  Kelpie.Serving.Handlers

  The daemon's handlers of executor events and the passes over its parked requests,
  with what each writes to the clients.

  What the operations of the coordinator return to the handlers is given with each
  step.  What the daemon sends on a lease is left out: only whether the lease still
  takes it is kept.
-/

import Kelpie.Lib.Parked
import Kelpie.Serving.Tables

namespace Kelpie

open Lib

-- ============================================================================
-- The coordinator
-- ============================================================================

/-- A Ready incarnation with its agent. -/
structure ReadyIdentity where
  logicalAgentId : LogicalAgentId
  incarnationId : IncarnationId
  publicName : String

/-- What a snapshot says of a pane to be closed: it is gone already, or has to be closed. -/
inductive RetireAfterSnapshot where
  | done (released : Bool)
  | close (work : RetireCloseWork)

/-- What a snapshot says of a pane to be adopted: it is bound, or gets its name first. -/
inductive AdoptAfterSnapshot where
  | ready (created : DeclaredStart)
  | rename (work : AdoptRename)

/-- What came of sending a launch: it was taken, or the pane is busy. -/
inductive StartSubmit where
  | submitted (declared : DeclaredStart) (deadline : Millis)
  | busyRetry (declared : DeclaredStart) (deadline busyDeadline notBefore : Millis)
      (attemptIndex : Nat)

/-- What came of sending a clear: it is over, or its rotation is awaited. -/
inductive ClearSubmission where
  | complete (result : ClearResult)
  | awaiting (awaiting : AwaitingClear)

/-- A cancellation notice ready to write after a Herdr connection exists. -/
structure PreparedCancellation where
  waiting : Bool
  prepared : PreparedPrompt

/-- The notice to the owing side of one ask, with its prompt if it is to be written now. -/
structure PreparedWaiterRetireNotice where
  askMessageId : MessageId
  messageId : MessageId
  prepared : Option PreparedPrompt

/-- How a clear begins: it is over already, or has to be sent. -/
inductive ClearDispatch where
  | complete (cleared : ClearResult)
  | awaiting (state : AwaitingClearState)

/-- What the operations of the coordinator return in one step, with the readings of the
    clock and the state of the lease that the step is about. -/
structure KelpieCalls where
  nowMs : Millis
  initialMessageSettle : Millis
  /-- A command sent on the lease is taken. -/
  leaseOpen : Bool
  declareStartFromSnapshot : Except RequestError (DeclaredStart × Millis × Millis)
  checkPaneMatchesIntent : Except RequestError Unit
  commitStartIntent : Except RequestError Unit
  applyAgentStartResult : Except RequestError StartSubmit
  applyStartObservation : Except RequestError (Option DeclaredStart)
  beginInitialMessage : Except RequestError (PreparedPrompt × MessageId)
  readLaunchResult : Except RequestError Value
  commitPromptIntent : Except RequestError Unit
  commitReminderIntent : Except RequestError Unit
  completePromptDelivery : Except RequestError Unit
  fillPromptResult : Value → Value
  readyBinding : Except RequestError String
  commitClearIntent : Except RequestError Unit
  beginClearAfterProbe : Except RequestError OperationId
  applyClearCommandResult : Except RequestError ClearSubmission
  /-- The observed session is not the one before the clear. -/
  sessionRotated : Bool
  finishClear : Except RequestError ClearResult
  markClearUnknown : Except RequestError Unit
  prepareNameProjectionRepair : Except RequestError (Option RenameWork)
  /-- The report, for a count of reprojected names. -/
  recoverWithSnapshot : Except RequestError (Nat → Value)
  renderReport : Except RequestError Value
  paneAdoptAfterSnapshot : Except RequestError AdoptAfterSnapshot
  aliasAfterSnapshot : Except RequestError AdoptAfterSnapshot
  adoptAfterSnapshot : Except RequestError AdoptAfterSnapshot
  readyIdentityForPane : Except RequestError ReadyIdentity
  refreshNativeSession : Except RequestError Unit
  attributionResponse : Except RequestError Value
  whoIdentityResponse : Except RequestError Value
  submitAdoptRenameIntent : Except RequestError String
  applyAdoptRenameError : RequestError
  applyAdoptConfirmError : RequestError
  acceptAdoptConfirm : Except RequestError DeclaredStart
  commitRenameIntent : Except RequestError RenameWork
  verifyRenameAfterSnapshot : Except RequestError Unit
  applyRenameWriteError : RequestError
  abandonRenameBeforeWrite : RequestError
  commitRenameConfirm : Except RequestError ReadyIdentity
  createOperatorNotice : Except RequestError Unit
  retireAfterSnapshot : Except RequestError RetireAfterSnapshot
  completeRetireConfirm : Except RequestError (OperationId × Bool)
  /-- The poll of an ask, and whether it found events. -/
  pollAskPull : Except RequestError (Value × Bool)
  prepareClientPrompt : Except RequestError (Value × Option PreparedPrompt)
  /-- The recipient of a clear, and when it may be probed. -/
  resolveClear : Except RequestError (ResolvedClear × Millis)
deriving Inhabited

/-- A clear always waits for the prompts before it to settle. -/
def beginClear (k : KelpieCalls) : Except RequestError ClearDispatch :=
  k.resolveClear.map fun clear => .awaiting (.settling clear.1 clear.2)

/-- The error of an answer that does not fit. -/
def unexpected (text : String) : RequestError := .herdr (.unexpected text)

/-- The answer to a `clear`. -/
def clearResult (cleared : ClearResult) : Value := .object [
  ("operation_id", .nat cleared.operationId),
  ("recipient", .nat cleared.recipient),
  ("recipient_incarnation", .nat cleared.recipientIncarnation),
  ("outcome", .string cleared.outcome.name)]

/-- How an answer says whether a notice was delivered. -/
def responseWord (delivered : Bool) : Value :=
  .string (if delivered then "delivered" else "recorded")

/-- The answer to a `cancel`. -/
def cancelResult (outcome : CancelOutcome) : Value := .object [
  ("state", .string "cancelled"),
  ("response", responseWord outcome.delivered),
  ("message_id", (outcome.messageId.map fun id => .string (toString id)).getD .null),
  ("owing_response", responseWord outcome.owingDelivered),
  ("owing_message_id", (outcome.owingMessageId.map fun id => .string (toString id)).getD .null)]

/-- The answer to a `waiter.retire`. -/
def waiterRetireResult (logicalAgentId : LogicalAgentId) (ended : WaiterRetireOutcome) : Value :=
  .object [
    ("logical_agent_id", .nat logicalAgentId),
    ("targeting_ended", .bool true),
    ("cancelled_ask_ids", .array (ended.cancelledAskIds.map .nat)),
    ("owing_notices", .array (ended.owingNotices.map fun notice => .object [
      ("ask_message_id", .nat notice.askMessageId),
      ("message_id", .nat notice.messageId),
      ("owing_response", responseWord notice.delivered)]))]

/-- The answer to `whoami` and to `rename`. -/
def readyIdentityResult (identity : ReadyIdentity) : Value := .object [
  ("logical_agent_id", .nat identity.logicalAgentId),
  ("incarnation_id", .nat identity.incarnationId),
  ("public_name", .string identity.publicName)]

-- ============================================================================
-- Tables
-- ============================================================================

/-- The job that an entry waits for. -/
def Awaiting.job : (t : Awaiting) → t.Entry → Option JobId
  | .starts, start => start.herdrJob
  | .clears, clear => clear.herdrJob
  | .replies, _ => none
  | .prompts, prompt => some prompt.1
  | .cancels, _ => none
  | .waiterRetires, _ => none
  | .reads, read => some read.1
  | .adopts, adopt => adopt.herdrJob
  | .renames, rename => rename.herdrJob
  | .retires, retire => retire.herdrJob

/-- `remember_recovery_snapshot`. -/
def RenameReply.remember (snapshot : Snapshot) : RenameReply → RenameReply
  | .recover namesReprojected _ => .recover namesReprojected snapshot
  | .rpc => .rpc

/-- The stage that a job is in once it is submitted. -/
def HerdrJob.stage : HerdrJob → JobStage
  | .openPane _ _ _ => .opening
  | .snapshot _ _ | .lifecycleSnapshot _ | .agentGet _ _ _ => .calling

namespace Daemon

variable (k : KelpieCalls)

/-- The daemon with other entries in a table. -/
def put (t : Awaiting) (entries : List t.Entry) (d : Daemon) : Daemon :=
  { d with awaiting := Function.update d.awaiting t entries }

/-- Park an entry. -/
def push (t : Awaiting) (e : t.Entry) (d : Daemon) : Daemon := d.put t (d.awaiting t ++ [e])

/-- Put an entry in the place of the one there. -/
def setAt (t : Awaiting) (index : Nat) (e : t.Entry) (d : Daemon) : Daemon :=
  d.put t ((d.awaiting t).set index e)

/-- Take an entry out of its table. -/
def removeAt (t : Awaiting) (index : Nat) (d : Daemon) : Daemon :=
  d.put t ((d.awaiting t).eraseIdx index)

/-- The first entry that waits for the job, with its index. -/
def entryForJob (t : Awaiting) (jobId : JobId) (d : Daemon) : Option (Nat × t.Entry) :=
  locate (fun e => t.job e = some jobId) (d.awaiting t)

/-- Write the response to one request. -/
def answer (stream : StreamId) (requestId : String) (result : Except RequestError Value)
    (d : Daemon) : Daemon :=
  { d with responses := d.responses ++ [(stream, respond requestId result)] }

/-- The next number of a job. -/
def allocJob (d : Daemon) : JobId × Daemon :=
  (d.nextHerdrJob, { d with nextHerdrJob := d.nextHerdrJob + 1 })

/-- Submit a job to Herdr, for the table that its events go to. -/
def submitOwned (job : HerdrJob) (owner : HerdrOwner) (d : Daemon) : Daemon :=
  { d with
    herdrOwners := Function.update d.herdrOwners job.jobId (some owner)
    herdrExec := Function.update d.herdrExec job.jobId (some job.stage) }

/-- The executor owes nothing for the job: it has reported, or its lease is dropped. -/
def endJob (jobId : JobId) (d : Daemon) : Daemon :=
  { d with herdrExec := Function.update d.herdrExec jobId none }

/-- The lease of the job has taken a command. -/
def sentOn (jobId : JobId) (d : Daemon) : Daemon :=
  { d with herdrExec := Function.update d.herdrExec jobId (some .sent) }

/-- Give a lease back, if there is one. -/
def dropLease (lease : Option JobId) (d : Daemon) : Daemon :=
  match lease with
  | some jobId => d.endJob jobId
  | none => d

-- ============================================================================
-- Parking
-- ============================================================================

/-- Park a launch, with the snapshot that it waits for. -/
def parkStart (awaiting : AwaitingStart) (d : Daemon) : Daemon :=
  let (jobId, d) := d.allocJob
  let d := d.submitOwned (.snapshot jobId awaiting.declared.isNone) .start
  d.push .starts { awaiting with herdrJob := some jobId, phase := .snapshot }

/-- Park a prompt, with the lease that it waits for. -/
def parkPrompt (awaiting : AwaitingPrompt) (d : Daemon) : Daemon :=
  let (jobId, d) := d.allocJob
  let d := d.submitOwned (.openPane jobId awaiting.prepared.paneId false) .prompt
  d.push .prompts (jobId, awaiting)

/-- Park a request, with the snapshot that it waits for. -/
def parkRead (read : AwaitingRead) (d : Daemon) : Daemon :=
  let (jobId, d) := d.allocJob
  let job : HerdrJob := match read.kind with
    | .report _ => .lifecycleSnapshot jobId
    | .recover _ | .whoami _ _ | .ofAlias _ _ _ | .attribution _ | .whoAttribution _
    | .whoPane _ _ _ => .snapshot jobId true
  let d := d.submitOwned job .clientRead
  d.push .reads (jobId, read)

/-- Park a retirement, with the snapshot that it waits for. -/
def parkRetire (retire : AwaitingRetireClose) (d : Daemon) : Daemon :=
  match retire.state with
  | .snapshot _ =>
    let (jobId, d) := d.allocJob
    let d := d.submitOwned (.snapshot jobId true) .retire
    d.push .retires { retire with herdrJob := some jobId }
  | .closing _ | .confirm _ => d

/-- Park a rename, with the snapshot that it waits for. -/
def parkRename (rename : AwaitingRename) (d : Daemon) : Daemon :=
  match rename.state with
  | .snapshot _ =>
    let (jobId, d) := d.allocJob
    let d := d.submitOwned (.snapshot jobId true) .rename
    d.push .renames { rename with herdrJob := some jobId }
  | .opening _ | .projectionOpening _ | .sending _ | .confirm _ => d

/-- Park an adoption, with the snapshot that it waits for. -/
def parkAdopt (adopt : AwaitingAdopt) (d : Daemon) : Daemon :=
  let (jobId, d) := d.allocJob
  let d := d.submitOwned (.snapshot jobId true) .adopt
  d.push .adopts { adopt with herdrJob := some jobId }

/-- A prompt that the daemon writes for itself or for a session of notices. -/
def noticePrompt (prepared : PreparedPrompt) (owner : PromptOwner)
    (reminder : Option PreparedReminder := none) : AwaitingPrompt where
  requestId := ""
  stream := none
  prepared := prepared
  resultJson := .null
  owner := owner
  reminder := reminder

/-- The largest count of notices, `u32::MAX`. -/
def u32Max : Nat := 4294967295

/-- Park a cancellation until its notices are settled. -/
def parkCancel (requestId : String) (stream : StreamId) (outcome : CancelOutcome)
    (prompts : List PreparedCancellation) (d : Daemon) : Daemon :=
  let session := d.nextCancelSession
  let d := { d with nextCancelSession := d.nextCancelSession + 1 }
  let remaining := min prompts.length u32Max
  let d := d.push .cancels (session, { requestId, stream, outcome, remaining })
  prompts.foldl
    (fun d prompt => d.parkPrompt (noticePrompt prompt.prepared (.cancel session prompt.waiting))) d

/-- Park a retirement until its notices are settled. -/
def parkWaiterRetire (requestId : String) (stream : StreamId) (logicalAgentId : LogicalAgentId)
    (cancelledAskIds : List MessageId) (notices : List PreparedWaiterRetireNotice) (d : Daemon) :
    Daemon :=
  let session := d.nextWaiterRetireSession
  let d := { d with nextWaiterRetireSession := d.nextWaiterRetireSession + 1 }
  let prompts := notices.filterMap fun notice => notice.prepared.map (notice.askMessageId, ·)
  let remaining := min prompts.length u32Max
  let outcome : WaiterRetireOutcome := {
    cancelledAskIds
    owingNotices := notices.map fun notice =>
      { askMessageId := notice.askMessageId, messageId := notice.messageId, delivered := false } }
  if remaining = 0 then
    d.answer stream requestId (.ok (waiterRetireResult logicalAgentId outcome))
  else
    let d := d.push .waiterRetires
      (session, { requestId, stream, logicalAgentId, outcome, remaining })
    prompts.foldl
      (fun d prompt => d.parkPrompt (noticePrompt prompt.2 (.waiterRetire session prompt.1))) d

-- ============================================================================
-- Starts
-- ============================================================================

/-- Answer a parked launch with an error. -/
def failStartAt (index : Nat) (error : RequestError) (d : Daemon) : Daemon :=
  match (d.awaiting .starts)[index]? with
  | none => d
  | some start =>
    ((d.removeAt .starts index).dropLease start.lease).answer start.stream start.requestId
      (.error error)

/-- Answer a parked launch. -/
def answerStartAt (index : Nat) (result : Except RequestError Value) (d : Daemon) : Daemon :=
  match (d.awaiting .starts)[index]? with
  | none => d
  | some start =>
    ((d.removeAt .starts index).dropLease start.lease).answer start.stream start.requestId result

/-- Ask for the lease on which the launch is sent. -/
def openStartLease (index : Nat) (start : AwaitingStart) (busyDeadline : Millis)
    (attemptIndex : Nat) (d : Daemon) : Daemon :=
  let (jobId, d) := d.allocJob
  let d := d.submitOwned (.openPane jobId start.intent.paneId false) .start
  d.setAt .starts index
    { start with herdrJob := some jobId, phase := .opening busyDeadline attemptIndex }

/-- Ask for the lease on which the initial message is sent. -/
def openInitialMessage (index : Nat) (start : AwaitingStart) (prepared : PreparedPrompt)
    (messageId : MessageId) (d : Daemon) : Daemon :=
  let (jobId, d) := d.allocJob
  let d := d.submitOwned (.openPane jobId prepared.paneId false) .start
  d.setAt .starts index
    { start with herdrJob := some jobId, phase := .initial prepared messageId }

/-- `answer_initial_without_write`, where the launch was declared. -/
def answerInitialWithoutWrite (index : Nat) (start : AwaitingStart) (d : Daemon) : Daemon :=
  match start.phase, start.declared with
  | .initial _ _, some _ => d.answerStartAt index k.readLaunchResult
  | _, _ => d

/-- The initial message is settled: answer with the launch as it is on record. -/
def onInitialDone (index : Nat) (start : AwaitingStart) (d : Daemon) : Daemon :=
  match start.phase with
  | .initial _ _ =>
    match start.declared with
    -- `fail_parked_start` comes back here, and does not end.
    | none => d
    | some _ => d.answerStartAt index k.readLaunchResult
  | _ => d

/-- Answer a launch with an error, unless only its initial message is concerned. -/
def failParkedStart (jobId : JobId) (error : RequestError) (d : Daemon) : Daemon :=
  match d.entryForJob .starts jobId with
  | none => d
  | some (index, start) =>
    match start.phase with
    | .initial _ _ =>
      if start.intentCommitted then d.onInitialDone k index start
      else d.answerInitialWithoutWrite k index start
    | _ => d.failStartAt index error

/-- The snapshot of a launch: declare it, or find its pane still busy. -/
def onStartSnapshot (index : Nat) (start : AwaitingStart)
    (result : Except HerdrError HerdrJobResult) (d : Daemon) : Daemon :=
  match result with
  | .ok (.snapshot _) =>
    match start.declared with
    | none =>
      match k.declareStartFromSnapshot with
      | .ok (declared, deadline, busyDeadline) =>
        d.openStartLease index
          { start with declared := some declared, deadline, busyDeadline, attemptIndex := 1 }
          busyDeadline 1
      | .error error => d.failStartAt index error
    | some _ =>
      match k.checkPaneMatchesIntent with
      | .error conflict => d.failStartAt index conflict
      | .ok () => d.openStartLease index start start.busyDeadline (start.attemptIndex + 1)
  | .ok _ => d.failStartAt index (unexpected "start snapshot returned a non-snapshot result")
  | .error error => d.failStartAt index (.herdr error)

/-- The launched agent is ready: record its initial message, and send it once it has settled. -/
def parkInitialMessage (index : Nat) (start : AwaitingStart) (started : DeclaredStart)
    (d : Daemon) : Daemon :=
  match k.beginInitialMessage with
  | .ok (prepared, messageId) =>
    let start := { start with declared := some started, herdrJob := none, intentCommitted := false }
    if k.initialMessageSettle = 0 then d.openInitialMessage index start prepared messageId
    else d.setAt .starts index
      { start with phase := .settling prepared messageId (k.nowMs + k.initialMessageSettle) }
  | .error error => d.failStartAt index error

/-- The launch was sent: wait for its agent, or try again later. -/
def onStartSend (index : Nat) (jobId : JobId) (start : AwaitingStart) (d : Daemon) : Daemon :=
  match start.declared with
  | none => d.failParkedStart k jobId (unexpected "start send completed with no declaration")
  | some _ =>
    let d := d.dropLease start.lease
    match k.applyAgentStartResult with
    | .ok (.submitted declared deadline) =>
      d.setAt .starts index
        { start with
          lease := none, declared := some declared, deadline, herdrJob := none, phase := .ready }
    | .ok (.busyRetry declared deadline busyDeadline notBefore attemptIndex) =>
      d.setAt .starts index
        { start with
          lease := none, declared := some declared, deadline, herdrJob := none, attemptIndex,
          busyDeadline, phase := .busy busyDeadline notBefore }
    | .error error => d.failStartAt index error

/-- The agent was looked at: it is ready, or is looked at again. -/
def onStartReadyGet (index : Nat) (jobId : JobId) (start : AwaitingStart) (d : Daemon) : Daemon :=
  match start.declared with
  | none => d.failParkedStart k jobId (unexpected "ready poll with no declaration")
  | some _ =>
    let start := { start with herdrJob := none }
    match k.applyStartObservation with
    | .ok none => d.setAt .starts index start
    | .ok (some started) => d.parkInitialMessage k index start started
    | .error error => d.failStartAt index error

/-- The job of a launch ended. -/
def onStartDone (jobId : JobId) (result : Except HerdrError HerdrJobResult) (d : Daemon) :
    Daemon :=
  match d.entryForJob .starts jobId with
  | none => d
  | some (index, start) =>
    match start.phase with
    | .snapshot => d.onStartSnapshot k index start result
    | .sending _ _ => d.onStartSend k index jobId start
    | .ready => d.onStartReadyGet k index jobId start
    | .initial _ _ => d.onInitialDone k index start
    | .opening _ _ | .busy _ _ | .settling _ _ _ => d

/-- The lease of an initial message is open: commit it, and send it. -/
def onInitialOpened (index : Nat) (jobId : JobId) (start : AwaitingStart) (d : Daemon) : Daemon :=
  match k.commitPromptIntent with
  | .ok () =>
    if k.leaseOpen then
      (d.sentOn jobId).setAt .starts index
        { start with intentCommitted := true, lease := some jobId }
    else d.answerInitialWithoutWrite k index start
  | .error _ => (d.endJob jobId).answerInitialWithoutWrite k index start

/-- The lease of a launch is open: commit the attempt, and send it. -/
def onStartOpened (jobId : JobId) (d : Daemon) : Daemon :=
  match d.entryForJob .starts jobId with
  | none => d.endJob jobId
  | some (index, start) =>
    match start.phase with
    | .initial _ _ => d.onInitialOpened k index jobId start
    | phase =>
      match start.declared with
      | none =>
        (d.endJob jobId).failParkedStart k jobId
          (.store (.invalidRecord "start opened before it was declared"))
      | some _ =>
        let (busyDeadline, attemptIndex) := match phase with
          | .opening busyDeadline attemptIndex | .sending busyDeadline attemptIndex =>
            (busyDeadline, attemptIndex)
          | _ => (start.deadline, 1)
        match k.commitStartIntent with
        | .ok () =>
          let start := { start with intentCommitted := true }
          if k.leaseOpen then
            (d.sentOn jobId).setAt .starts index
              { start with lease := some jobId, phase := .sending busyDeadline attemptIndex }
          else
            (d.setAt .starts index start).failParkedStart k jobId
              (unexpected "herdr lease closed before start send")
        | .error error => (d.endJob jobId).failParkedStart k jobId error

/-- A decisive outcome of a command that was sent; any other failure fails the start. -/
def onStartFailed (jobId : JobId) (error : HerdrError) (d : Daemon) : Daemon :=
  match error, d.entryForJob .starts jobId with
  | .rejected _ _, some (_, start) =>
    match start.phase with
    | .sending _ _ => d.onStartDone k jobId (.error error)
    | _ => d.failParkedStart k jobId (.herdr error)
  | _, _ => d.failParkedStart k jobId (.herdr error)

/-- Observe one awaiting start. -/
def advanceAwaitingStart (index : Nat) (d : Daemon) : Daemon :=
  match (d.awaiting .starts)[index]? with
  | none => d
  | some start =>
    if start.herdrJob.isSome then d
    else
      match start.phase with
      | .busy busyDeadline notBefore =>
        if k.nowMs < notBefore then d
        else if busyDeadline ≤ k.nowMs then
          d.failStartAt index
            (.store (.conflict "pane stayed busy until the start retry budget elapsed"))
        else
          -- `park_busy_retry_snapshot`
          let (jobId, d) := d.allocJob
          let d := d.submitOwned (.snapshot jobId false) .start
          d.setAt .starts index { start with herdrJob := some jobId, phase := .snapshot }
      | .ready =>
        -- `submit_start_ready_get`
        match start.declared with
        | none => d
        | some declared =>
          let (jobId, d) := d.allocJob
          let d := d.submitOwned
            (.agentGet jobId s!"kelpie:start-ready:{declared.operationId}" start.intent.paneId)
            .start
          d.setAt .starts index { start with herdrJob := some jobId }
      | .settling prepared messageId untilMs =>
        if k.nowMs < untilMs then d else d.openInitialMessage index start prepared messageId
      | .snapshot | .opening _ _ | .sending _ _ | .initial _ _ => d

-- ============================================================================
-- Clears
-- ============================================================================

/-- Answer a parked clear. -/
def answerClearAt (index : Nat) (result : Except RequestError ClearResult) (d : Daemon) : Daemon :=
  match (d.awaiting .clears)[index]? with
  | none => d
  | some clear =>
    ((d.removeAt .clears index).dropLease clear.lease).answer clear.stream clear.requestId
      (result.map clearResult)

/-- Answer a parked clear with an error. -/
def failClearAt (index : Nat) (error : RequestError) (d : Daemon) : Daemon :=
  d.answerClearAt index (.error error)

/-- The same, found by its job. -/
def failParkedClear (jobId : JobId) (error : RequestError) (d : Daemon) : Daemon :=
  match d.entryForJob .clears jobId with
  | none => d
  | some (index, _) => d.failClearAt index error

/-- Look whether the session of the cleared agent has rotated. -/
def startClearRotationGet (index : Nat) (clear : AwaitingClearRequest) (d : Daemon) : Daemon :=
  match clear.state with
  | .rotation awaiting =>
    let (jobId, d) := d.allocJob
    let d := d.submitOwned
      (.agentGet jobId s!"kelpie:clear:rotation:{awaiting.operationId}" awaiting.paneId) .clear
    d.setAt .clears index { clear with herdrJob := some jobId }
  | .settling _ _ | .probe _ _ | .sending _ _ _ => d

/-- The lease of a clear is open: commit the attempt, and send it. -/
def onClearOpened (jobId : JobId) (d : Daemon) : Daemon :=
  match d.entryForJob .clears jobId with
  | none => d.endJob jobId
  | some (index, clear) =>
    match clear.state with
    | .sending _ _ _ =>
      match k.commitClearIntent with
      | .ok () =>
        if k.leaseOpen then
          (d.sentOn jobId).setAt .clears index { clear with lease := some jobId }
        else d.failParkedClear jobId (unexpected "herdr lease closed before clear send")
      | .error error => (d.endJob jobId).failParkedClear jobId error
    | .settling _ _ | .probe _ _ | .rotation _ => d.endJob jobId

/-- The agent to be cleared was looked at: record the clear, and ask for its lease. -/
def onClearProbe (index : Nat) (jobId : JobId) (clear : AwaitingClearRequest)
    (result : Except HerdrError HerdrJobResult) (d : Daemon) : Daemon :=
  match result with
  | .ok (.agent _) =>
    match clear.state with
    | .probe resolved paneId =>
      match k.beginClearAfterProbe with
      | .ok operationId =>
        let (openId, d) := d.allocJob
        let d := d.submitOwned (.openPane openId paneId false) .clear
        d.setAt .clears index
          { clear with herdrJob := some openId, state := .sending resolved paneId operationId }
      | .error error => d.failClearAt index error
    | .settling _ _ | .sending _ _ _ | .rotation _ => d
  | .ok _ => d.failParkedClear jobId (unexpected "clear probe returned a non-agent result")
  | .error error => d.failParkedClear jobId (.herdr error)

/-- The clear was sent: it is over, or its rotation is awaited. -/
def onClearCommand (index : Nat) (jobId : JobId) (clear : AwaitingClearRequest) (d : Daemon) :
    Daemon :=
  match clear.state with
  | .sending _ _ _ =>
    let clear' := { clear with lease := none }
    let d := (d.dropLease clear.lease).setAt .clears index clear'
    match k.applyClearCommandResult with
    | .ok (.complete cleared) => d.answerClearAt index (.ok cleared)
    | .ok (.awaiting awaiting) =>
      d.startClearRotationGet index { clear' with herdrJob := none, state := .rotation awaiting }
    | .error error => d.failParkedClear jobId error
  | .settling _ _ | .probe _ _ | .rotation _ => d

/-- What an observation says of a clear; one that fails leaves it unknown. -/
def applyClearRotationObservation (awaiting : AwaitingClear)
    (observed : Except HerdrError AgentObservation) : Except RequestError (Option ClearResult) :=
  match observed with
  | .error error => do
    k.markClearUnknown
    .error (.herdr error)
  | .ok _ =>
    if k.sessionRotated then k.finishClear.map some
    else if awaiting.deadline ≤ k.nowMs then do
      k.markClearUnknown
      .error (.clearRotationTimeout awaiting.backendKind)
    else .ok none

/-- The observation that a completed job brings. -/
def rotationObserved : Except HerdrError HerdrJobResult → Except HerdrError AgentObservation
  | .ok (.agent agent) => .ok agent
  | .ok _ => .error (.unexpected "clear rotation returned a non-agent result")
  | .error error => .error error

/-- The cleared agent was looked at. -/
def onClearRotation (index : Nat) (jobId : JobId) (clear : AwaitingClearRequest)
    (result : Except HerdrError HerdrJobResult) (d : Daemon) : Daemon :=
  match clear.state with
  | .rotation awaiting =>
    let d := d.setAt .clears index { clear with herdrJob := none }
    match applyClearRotationObservation k awaiting (rotationObserved result) with
    | .ok none => d
    | .ok (some cleared) => d.answerClearAt index (.ok cleared)
    | .error error =>
      let d := { d with failed := d.failed ++ [RequestTicket.mk clear.stream clear.requestId] }
      -- The entry no longer waits for this job.
      d.failParkedClear jobId error
  | .settling _ _ | .probe _ _ | .sending _ _ _ => d

/-- The job of a clear ended. -/
def onClearDone (jobId : JobId) (result : Except HerdrError HerdrJobResult) (d : Daemon) :
    Daemon :=
  match d.entryForJob .clears jobId with
  | none => d
  | some (index, clear) =>
    match clear.state with
    | .probe _ _ => d.onClearProbe k index jobId clear result
    | .sending _ _ _ => d.onClearCommand k index jobId clear
    | .rotation _ => d.onClearRotation k index jobId clear result
    | .settling _ _ => d

/-- Observe one awaiting clear. -/
def advanceAwaitingClear (index : Nat) (d : Daemon) : Daemon :=
  match (d.awaiting .clears)[index]? with
  | none => d
  | some clear =>
    if clear.herdrJob.isSome then d
    else
      match clear.state with
      | .settling resolved notBeforeMs =>
        if k.nowMs < notBeforeMs then d
        else
          -- `start_clear_probe`
          match k.readyBinding with
          | .error error => d.failClearAt index error
          | .ok paneId =>
            let (jobId, d) := d.allocJob
            let d := d.submitOwned
              (.agentGet jobId s!"kelpie:clear:probe:{resolved.idempotencyKey}" paneId) .clear
            d.setAt .clears index
              { clear with herdrJob := some jobId, state := .probe resolved paneId }
      | .rotation _ => d.startClearRotationGet index clear
      | .probe _ _ | .sending _ _ _ => d

-- ============================================================================
-- Prompts and their sessions
-- ============================================================================

/-- A notice of a cancellation is settled; the last of them answers it. -/
def noteCancelNotice (session : Nat) (waiting ok : Bool) (d : Daemon) : Daemon :=
  match locate (fun cancel : Nat × AwaitingCancel => cancel.1 = session) (d.awaiting .cancels) with
  | none => d
  | some (index, _, cancel) =>
    let outcome :=
      if waiting then { cancel.outcome with delivered := ok }
      else { cancel.outcome with owingDelivered := ok }
    let remaining := cancel.remaining - 1
    if remaining ≠ 0 then d.setAt .cancels index (session, { cancel with outcome, remaining })
    else
      (d.removeAt .cancels index).answer cancel.stream cancel.requestId
        (.ok (cancelResult outcome))

/-- The notices with the delivery of the first one for `ask` noted. -/
def noteDelivered (ask : MessageId) (ok : Bool) :
    List WaiterRetireOwingNotice → List WaiterRetireOwingNotice
  | [] => []
  | notice :: rest =>
    if notice.askMessageId = ask then { notice with delivered := ok } :: rest
    else notice :: noteDelivered ask ok rest

/-- A notice of a retirement is settled; the last of them answers it. -/
def noteWaiterRetireNotice (session : Nat) (ask : MessageId) (ok : Bool) (d : Daemon) : Daemon :=
  match locate (fun retire : Nat × AwaitingWaiterRetire => retire.1 = session)
      (d.awaiting .waiterRetires) with
  | none => d
  | some (index, _, retire) =>
    let outcome := { retire.outcome with
      owingNotices := noteDelivered ask ok retire.outcome.owingNotices }
    let remaining := retire.remaining - 1
    if remaining ≠ 0 then
      d.setAt .waiterRetires index (session, { retire with outcome, remaining })
    else
      (d.removeAt .waiterRetires index).answer retire.stream retire.requestId
        (.ok (waiterRetireResult retire.logicalAgentId outcome))

/-- Answer the client of a prompt, if it has one. -/
def writeParkedPrompt (awaiting : AwaitingPrompt) (delivered : Except RequestError Unit)
    (d : Daemon) : Daemon :=
  match awaiting.stream with
  | none => d
  | some stream =>
    d.answer stream awaiting.requestId (delivered.map fun () => awaiting.resultJson)

/-- What follows once it is known whether the prompt was delivered. -/
def settleParkedPrompt (awaiting : AwaitingPrompt) (delivered : Except RequestError Unit)
    (d : Daemon) : Daemon :=
  match awaiting.owner with
  | .cancel session waiting => d.noteCancelNotice session waiting delivered.isOk
  | .waiterRetire session ask => d.noteWaiterRetireNotice session ask delivered.isOk
  | .client | .internal =>
    let resultJson :=
      if delivered.isOk then k.fillPromptResult awaiting.resultJson else awaiting.resultJson
    d.writeParkedPrompt { awaiting with resultJson } delivered

/-- A prompt was sent: record the delivery, and tell whoever waits for it. -/
def finishParkedPrompt (jobId : JobId) (d : Daemon) : Daemon :=
  match d.entryForJob .prompts jobId with
  | none => d
  | some (index, _, awaiting) =>
    let d := (d.removeAt .prompts index).dropLease awaiting.lease
    match awaiting.reminder with
    | some _ => d
    | none => d.settleParkedPrompt k awaiting k.completePromptDelivery

/-- A prompt failed: record that, and tell whoever waits for it. -/
def failParkedPrompt (jobId : JobId) (error : HerdrError) (d : Daemon) : Daemon :=
  match d.entryForJob .prompts jobId with
  | none => d
  | some (index, _, awaiting) =>
    let d := (d.removeAt .prompts index).dropLease awaiting.lease
    match awaiting.reminder with
    | some _ => d
    | none => d.settleParkedPrompt k awaiting
      (if awaiting.intentCommitted then k.completePromptDelivery else .error (.herdr error))

/-- Answer a prompt with an error, and record nothing. -/
def answerParkedPrompt (jobId : JobId) (error : RequestError) (d : Daemon) : Daemon :=
  match d.entryForJob .prompts jobId with
  | none => d
  | some (index, _, awaiting) =>
    ((d.removeAt .prompts index).dropLease awaiting.lease).writeParkedPrompt awaiting (.error error)

/-- The lease of a prompt is open: commit what is about to be sent, and send it. -/
def onPromptOpened (jobId : JobId) (d : Daemon) : Daemon :=
  match d.entryForJob .prompts jobId with
  | none => d.endJob jobId
  | some (index, _, awaiting) =>
    let committed := { awaiting with intentCommitted := true }
    let send :=
      if k.leaseOpen then
        (d.sentOn jobId).setAt .prompts index (jobId, { committed with lease := some jobId })
      else
        (d.setAt .prompts index (jobId, committed)).failParkedPrompt k jobId
          (.unexpected "herdr lease closed before send")
    match awaiting.reminder with
    | some _ =>
      match k.commitReminderIntent with
      | .ok () => send
      | .error _ =>
        (d.endJob jobId).failParkedPrompt k jobId (.unexpected "reminder is no longer due")
    | none =>
      match k.commitPromptIntent with
      | .ok () => send
      | .error error => (d.endJob jobId).answerParkedPrompt jobId error

-- ============================================================================
-- Retirements
-- ============================================================================

/-- The error of a pane that may have been closed. -/
def retireCloseError (work : RetireCloseWork) : HerdrError → RequestError
  | .rejected code message => .herdr (.rejected code message)
  | other => .unknownOutcome (toString work.operation) other

/-- Answer a parked retirement. -/
def answerRetireAt (index : Nat) (result : Except RequestError (OperationId × Bool))
    (d : Daemon) : Daemon :=
  match (d.awaiting .retires)[index]? with
  | none => d
  | some retire =>
    ((d.removeAt .retires index).dropLease retire.lease).answer retire.stream retire.requestId
      (result.map fun done => .object [
        ("operation_id", .nat done.1), ("pane_released", .bool done.2)])

/-- Answer a parked retirement with an error. -/
def failRetireAt (index : Nat) (error : RequestError) (d : Daemon) : Daemon :=
  d.answerRetireAt index (.error error)

/-- The lease of a retirement is open: close the pane. -/
def onRetireOpened (jobId : JobId) (d : Daemon) : Daemon :=
  match d.entryForJob .retires jobId with
  | none => d.endJob jobId
  | some (index, retire) =>
    match retire.state with
    | .closing _ =>
      if k.leaseOpen then
        (d.sentOn jobId).setAt .retires index { retire with lease := some jobId }
      else d.failRetireAt index (unexpected "herdr lease closed before retire close")
    | .snapshot _ | .confirm _ => d.endJob jobId

/-- The job of a retirement ended: go on to its next step, or answer. -/
def onRetireDone (jobId : JobId) (result : Except HerdrError HerdrJobResult) (d : Daemon) :
    Daemon :=
  match d.entryForJob .retires jobId with
  | none => d
  | some (index, retire) =>
    match retire.state with
    | .snapshot preflight =>
      match result with
      | .ok (.snapshot _) =>
        match k.retireAfterSnapshot with
        | .ok (.done released) => d.answerRetireAt index (.ok (preflight.operationId, released))
        | .ok (.close work) =>
          let (next, d) := d.allocJob
          let d := d.submitOwned (.openPane next work.pane false) .retire
          d.setAt .retires index { retire with state := .closing work, herdrJob := some next }
        | .error error => d.failRetireAt index error
      | .ok _ => d.failRetireAt index (unexpected "retire snapshot returned wrong result")
      | .error error => d.failRetireAt index (.herdr error)
    | .closing work =>
      let retire' := { retire with lease := none }
      let d := (d.dropLease retire.lease).setAt .retires index retire'
      match result with
      | .ok .closed =>
        let (next, d) := d.allocJob
        let d := d.submitOwned (.snapshot next false) .retire
        d.setAt .retires index { retire' with state := .confirm work, herdrJob := some next }
      | .ok _ => d.failRetireAt index (unexpected "retire close returned wrong result")
      | .error error => d.failRetireAt index (retireCloseError work error)
    | .confirm work =>
      d.answerRetireAt index (match result with
        | .ok (.snapshot _) => k.completeRetireConfirm
        | .ok _ => .error (unexpected "retire confirmation returned wrong result")
        | .error source => .error (retireCloseError work source))

/-- The job of a retirement failed, before or after the pane may have been closed. -/
def onRetireFailed (jobId : JobId) (phase : FailPhase) (source : HerdrError) (d : Daemon) :
    Daemon :=
  match d.entryForJob .retires jobId with
  | none => d
  | some (index, retire) =>
    d.failRetireAt index (match retire.state, phase with
      | .closing work, .read | .closing work, .lease => retireCloseError work source
      | _, _ => .herdr source)

end Daemon

end Kelpie
