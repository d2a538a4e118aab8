/-
  Kelpie.Serving.Events

  The handlers of renames, adoptions and reads, which hand a request on from one table
  to another, and what the daemon does with each event of its executor.
-/

import Kelpie.Serving.Handlers

namespace Kelpie

open Lib

namespace Daemon

variable (k : KelpieCalls)

-- ============================================================================
-- Renames
-- ============================================================================

/-- Answer a parked rename: to its client, or to the recovery that repairs a name by it. -/
def answerRenameAt (index : Nat) (result : Except RequestError ReadyIdentity) (d : Daemon) :
    Daemon :=
  match (d.awaiting .renames)[index]? with
  | none => d
  | some rename =>
    let d := (d.removeAt .renames index).dropLease rename.lease
    match rename.reply with
    | .recover namesReprojected _ =>
      match result with
      | .ok _ =>
        d.parkRead {
          requestId := rename.requestId
          stream := rename.stream
          kind := .recover (namesReprojected + 1) }
      | .error _ =>
        let result := do
          k.createOperatorNotice
          let report ← k.recoverWithSnapshot
          pure (report namesReprojected)
        d.answer rename.stream rename.requestId result
    | .rpc => d.answer rename.stream rename.requestId (result.map readyIdentityResult)

/-- Answer a parked rename with an error. -/
def failRenameAt (index : Nat) (error : RequestError) (d : Daemon) : Daemon :=
  d.answerRenameAt k index (.error error)

/-- The lease of a rename is open: commit what is about to be sent, and send it. -/
def onRenameOpened (jobId : JobId) (d : Daemon) : Daemon :=
  match d.entryForJob .renames jobId with
  | none => d.endJob jobId
  | some (index, rename) =>
    let send (work : Except RequestError RenameWork) : Daemon :=
      match work with
      | .ok work =>
        if k.leaseOpen then
          (d.sentOn jobId).setAt .renames index
            { rename with state := .sending work, lease := some jobId }
        else d.failRenameAt k index k.applyRenameWriteError
      | .error error => (d.endJob jobId).failRenameAt k index error
    match rename.state with
    | .opening _ => send k.commitRenameIntent
    | .projectionOpening work => send (.ok work)
    | .snapshot _ | .sending _ | .confirm _ => d.endJob jobId

/-- The job of a rename ended: go on to its next step, or answer. -/
def onRenameDone (jobId : JobId) (result : Except HerdrError HerdrJobResult) (d : Daemon) :
    Daemon :=
  match d.entryForJob .renames jobId with
  | none => d
  | some (index, rename) =>
    match rename.state with
    | .snapshot preflight =>
      match result with
      | .ok (.snapshot _) =>
        match k.verifyRenameAfterSnapshot with
        | .ok () =>
          let (next, d) := d.allocJob
          let d := d.submitOwned (.openPane next preflight.paneId false) .rename
          d.setAt .renames index { rename with state := .opening preflight, herdrJob := some next }
        | .error error => d.failRenameAt k index error
      | .ok _ => d.failRenameAt k index (unexpected "rename snapshot returned wrong result")
      | .error error => d.failRenameAt k index (.herdr error)
    | .opening _ => d.failRenameAt k index (unexpected "rename lease completed before send")
    | .projectionOpening _ =>
      d.failRenameAt k index (unexpected "name projection lease completed before send")
    | .sending work =>
      let rename' := { rename with lease := none }
      let d := (d.dropLease rename.lease).setAt .renames index rename'
      match result with
      | .ok (.agent _) =>
        let (next, d) := d.allocJob
        let d := d.submitOwned (.snapshot next false) .rename
        d.setAt .renames index { rename' with state := .confirm work, herdrJob := some next }
      | .ok _ => d.failRenameAt k index (unexpected "rename returned wrong result")
      | .error _ => d.failRenameAt k index k.applyRenameWriteError
    | .confirm _ =>
      match result with
      | .ok (.snapshot snapshot) =>
        let d := d.setAt .renames index { rename with reply := rename.reply.remember snapshot }
        d.answerRenameAt k index k.commitRenameConfirm
      | .ok _ =>
        d.failRenameAt k index (unexpected "rename confirmation returned wrong result")
      | .error _ => d.failRenameAt k index k.applyRenameWriteError

/-- The job of a rename failed, before or after the name may have been written. -/
def onRenameFailed (jobId : JobId) (phase : FailPhase) (source : HerdrError) (d : Daemon) :
    Daemon :=
  match d.entryForJob .renames jobId with
  | none => d
  | some (index, rename) =>
    d.failRenameAt k index (match rename.state, phase with
      | .sending _, .read | .sending _, .lease => k.applyRenameWriteError
      | .sending _, .connect | .sending _, .write => k.abandonRenameBeforeWrite
      | _, _ => .herdr source)

-- ============================================================================
-- Bound requests
-- ============================================================================

/-- Serve a request whose alias is bound now. -/
def resumeBoundRequest (request : ClientRequest) (stream : StreamId) (d : Daemon) : Daemon :=
  if request.method = "ask" ∨ request.method = "tell" ∨ request.method = "reply" then
    match k.prepareClientPrompt with
    | .ok (resultJson, none) => d.answer stream request.id (.ok resultJson)
    | .ok (resultJson, some prepared) =>
      d.parkPrompt {
        requestId := request.id
        stream := some stream
        prepared := prepared
        resultJson := resultJson
        owner := .client }
    | .error error => d.answer stream request.id (.error error)
  else if request.method = "clear" then
    match beginClear k with
    | .ok (.complete cleared) => d.answer stream request.id (.ok (clearResult cleared))
    | .ok (.awaiting state) => d.push .clears { requestId := request.id, state, stream }
    | .error error => d.answer stream request.id (.error error)
  else
    d.answer stream request.id
      (.error (.store (.invalidRecord "cannot resume this method after alias bind")))

-- ============================================================================
-- Adoptions
-- ============================================================================

/-- Answer an adoption that was made to name a pane. -/
def answerWhoAdoptAt (index : Nat) (result : Except RequestError Value) (d : Daemon) : Daemon :=
  match (d.awaiting .adopts)[index]? with
  | none => d
  | some adopt =>
    ((d.removeAt .adopts index).dropLease adopt.lease).answer adopt.stream adopt.requestId result

/-- Answer a parked adoption: to its client, or by taking up the request that waited for it. -/
def answerAdoptAt (index : Nat) (created : Except RequestError DeclaredStart) (d : Daemon) :
    Daemon :=
  match (d.awaiting .adopts)[index]? with
  | none => d
  | some adopt =>
    let d := (d.removeAt .adopts index).dropLease adopt.lease
    match adopt.resume, created with
    | some resume, .ok _ => d.resumeBoundRequest k resume adopt.stream
    | some _, .error error => d.answer adopt.stream adopt.requestId (.error error)
    | none, created =>
      d.answer adopt.stream adopt.requestId (match adopt.reply, created with
        | .rpc, .ok created => .ok (.object [
            ("logical_agent_id", .nat created.logicalAgentId),
            ("incarnation_id", .nat created.incarnationId),
            ("operation_id", .nat created.operationId),
            ("outcome", .string "succeeded")])
        | .whoami, .ok created => .ok (match k.readyIdentityForPane with
          | .ok identity => readyIdentityResult identity
          | .error _ => .object [
              ("logical_agent_id", .nat created.logicalAgentId),
              ("incarnation_id", .nat created.incarnationId)])
        | .who _, .ok _ =>
          .error (unexpected "who adoption completed without its confirming snapshot")
        | _, .error error => .error error)

/-- Answer a parked adoption with an error. -/
def failAdoptAt (index : Nat) (error : RequestError) (d : Daemon) : Daemon :=
  d.answerAdoptAt k index (.error error)

/-- The same, found by its job. -/
def failParkedAdopt (jobId : JobId) (error : RequestError) (d : Daemon) : Daemon :=
  match d.entryForJob .adopts jobId with
  | none => d
  | some (index, _) => d.failAdoptAt k index error

/-- The lease of an adoption is open: commit the name that is about to be sent, and send it. -/
def onAdoptOpened (jobId : JobId) (d : Daemon) : Daemon :=
  match d.entryForJob .adopts jobId with
  | none => d.endJob jobId
  | some (index, adopt) =>
    match adopt.state with
    | .renaming work _ =>
      match k.submitAdoptRenameIntent with
      | .ok intentId =>
        if k.leaseOpen then
          (d.sentOn jobId).setAt .adopts index
            { adopt with state := .renaming work intentId, lease := some jobId }
        else d.failParkedAdopt k jobId k.applyAdoptRenameError
      | .error error => (d.endJob jobId).failParkedAdopt k jobId error
    | .snapshot _ | .confirm _ => d.endJob jobId

/-- The snapshot of an adoption: bind at once, or send the intended name first. -/
def onAdoptSnapshot (index : Nat) (adopt : AwaitingAdopt)
    (result : Except HerdrError HerdrJobResult) (d : Daemon) : Daemon :=
  match result with
  | .ok (.snapshot _) =>
    match k.adoptAfterSnapshot with
    | .ok (.ready created) => d.answerAdoptAt k index (.ok created)
    | .ok (.rename work) =>
      let (jobId, d) := d.allocJob
      let d := d.submitOwned (.openPane jobId work.paneId false) .adopt
      d.setAt .adopts index { adopt with herdrJob := some jobId, state := .renaming work "" }
    | .error error => d.failAdoptAt k index error
  | .ok _ => d.failAdoptAt k index (unexpected "adopt snapshot returned the wrong Herdr result")
  | .error error => d.failAdoptAt k index (.herdr error)

/-- The name was sent: look whether the agent has it. -/
def onAdoptRenamed (index : Nat) (adopt : AwaitingAdopt) (work : AdoptRename)
    (result : Except HerdrError HerdrJobResult) (d : Daemon) : Daemon :=
  let adopt' := { adopt with lease := none }
  let d := (d.dropLease adopt.lease).setAt .adopts index adopt'
  match result with
  | .ok (.agent _) =>
    let (jobId, d) := d.allocJob
    let d := d.submitOwned (.snapshot jobId false) .adopt
    d.setAt .adopts index { adopt' with herdrJob := some jobId, state := .confirm work }
  | .ok _ | .error _ => d.failAdoptAt k index k.applyAdoptRenameError

/-- The identity of the agent, its native session refreshed first if asked. -/
def whoAnswer (refresh : Bool) : Except RequestError Value := do
  if refresh then k.refreshNativeSession
  k.whoIdentityResponse

/-- The agent was looked at again: complete the adoption, or fail it. -/
def onAdoptConfirm (index : Nat) (adopt : AwaitingAdopt)
    (result : Except HerdrError HerdrJobResult) (d : Daemon) : Daemon :=
  match result with
  | .ok (.snapshot _) =>
    match k.acceptAdoptConfirm with
    | .ok created =>
      match adopt.reply with
      | .who refresh => d.answerWhoAdoptAt index (whoAnswer k refresh)
      | .rpc | .whoami => d.answerAdoptAt k index (.ok created)
    | .error error => d.failAdoptAt k index error
  | .ok _ | .error _ => d.failAdoptAt k index k.applyAdoptConfirmError

/-- The job of an adoption ended. -/
def onAdoptDone (jobId : JobId) (result : Except HerdrError HerdrJobResult) (d : Daemon) :
    Daemon :=
  match d.entryForJob .adopts jobId with
  | none => d
  | some (index, adopt) =>
    match adopt.state with
    | .snapshot _ => d.onAdoptSnapshot k index adopt result
    | .renaming work _ => d.onAdoptRenamed k index adopt work result
    | .confirm _ => d.onAdoptConfirm k index adopt result

/-- The job of an adoption failed, before or after the name may have been sent. -/
def onAdoptFailed (jobId : JobId) (source : HerdrError) (d : Daemon) : Daemon :=
  match d.entryForJob .adopts jobId with
  | none => d
  | some (index, adopt) =>
    d.failAdoptAt k index (match adopt.state with
      | .renaming _ requestId =>
        if requestId ≠ "" then k.applyAdoptRenameError else .herdr source
      | .snapshot _ => .herdr source
      | .confirm _ => k.applyAdoptConfirmError)

/-- Rename the occupant of a pane before the request goes on. -/
def parkAdoptRename (read : AwaitingRead) (reply : AdoptReply) (resume : Option ClientRequest)
    (work : AdoptRename) (d : Daemon) : Daemon :=
  let (jobId, d) := d.allocJob
  let d := d.submitOwned (.openPane jobId work.paneId false) .adopt
  d.push .adopts {
    requestId := read.requestId
    stream := read.stream
    reply := reply
    resume := resume
    state := .renaming work ""
    herdrJob := some jobId }

-- ============================================================================
-- Reads
-- ============================================================================

/-- Answer a recovery, once a name that is out of step has been sent again. -/
def finishRecoverSnapshot (read : AwaitingRead) (namesReprojected : Nat) (snapshot : Snapshot)
    (d : Daemon) : Daemon :=
  match k.prepareNameProjectionRepair with
  | .ok (some work) =>
    let (next, d) := d.allocJob
    let d := d.submitOwned (.openPane next work.paneId false) .rename
    d.push .renames {
      requestId := read.requestId
      stream := read.stream
      reply := .recover namesReprojected snapshot
      state := .projectionOpening work
      herdrJob := some next }
  | .ok none =>
    d.answer read.stream read.requestId (k.recoverWithSnapshot.map (· namesReprojected))
  | .error error => d.answer read.stream read.requestId (.error error)

/-- Answer `whoami` from the snapshot, adopting the pane where it can be. -/
def finishWhoamiSnapshot (read : AwaitingRead) (d : Daemon) : Daemon :=
  match k.paneAdoptAfterSnapshot with
  | .ok (.ready _) =>
    d.answer read.stream read.requestId (k.readyIdentityForPane.map readyIdentityResult)
  | .ok (.rename work) => d.parkAdoptRename read .whoami none work
  | .error error => d.answer read.stream read.requestId (.error error)

/-- Answer `who` from the snapshot, adopting the pane where it can be. -/
def finishWhoSnapshot (read : AwaitingRead) (refresh : Bool) (d : Daemon) : Daemon :=
  match k.paneAdoptAfterSnapshot with
  | .ok (.ready _) => d.answer read.stream read.requestId (whoAnswer k refresh)
  | .ok (.rename work) => d.parkAdoptRename read (.who refresh) none work
  | .error error => d.answer read.stream read.requestId (.error error)

/-- Bind the agent that a request names, and take the request up again. -/
def finishAliasSnapshot (read : AwaitingRead) (resume : ClientRequest) (d : Daemon) : Daemon :=
  match k.aliasAfterSnapshot with
  | .ok (.ready _) => d.resumeBoundRequest k resume read.stream
  | .ok (.rename work) => d.parkAdoptRename read .rpc (some resume) work
  | .error error => d.answer read.stream read.requestId (.error error)

/-- The snapshot that a client's request waits for is there. -/
def onClientReadDone (jobId : JobId) (result : Except HerdrError HerdrJobResult) (d : Daemon) :
    Daemon :=
  match d.entryForJob .reads jobId with
  | none => d
  | some (index, _, read) =>
    let d := d.removeAt .reads index
    match read.kind, result with
    | .recover namesReprojected, .ok (.snapshot snapshot) =>
      d.finishRecoverSnapshot k read namesReprojected snapshot
    | .report _, .ok (.lifecycle _) => d.answer read.stream read.requestId k.renderReport
    | .whoami _ _, .ok (.snapshot _) => d.finishWhoamiSnapshot k read
    | .ofAlias _ _ resume, .ok (.snapshot _) => d.finishAliasSnapshot k read resume
    | .attribution _, .ok (.snapshot _) =>
      d.answer read.stream read.requestId (do
        k.refreshNativeSession
        k.attributionResponse)
    | .whoAttribution _, .ok (.snapshot _) =>
      d.answer read.stream read.requestId (whoAnswer k true)
    | .whoPane _ _ refresh, .ok (.snapshot _) => d.finishWhoSnapshot k read refresh
    | _, .ok _ =>
      d.answer read.stream read.requestId
        (.error (unexpected "client read returned the wrong Herdr result"))
    | _, .error error => d.answer read.stream read.requestId (.error (.herdr error))

/-- Answer a request that waits for a snapshot with an error. -/
def failClientRead (jobId : JobId) (error : RequestError) (d : Daemon) : Daemon :=
  match d.entryForJob .reads jobId with
  | none => d
  | some (index, _, read) =>
    (d.removeAt .reads index).answer read.stream read.requestId (.error error)

-- ============================================================================
-- Replies
-- ============================================================================

/-- Poll one awaiting ask. -/
def advanceRepliesWait (index : Nat) (d : Daemon) : Daemon :=
  match (d.awaiting .replies)[index]? with
  | none => d
  | some wait =>
    match k.pollAskPull with
    | .error error =>
      (d.removeAt .replies index).answer wait.stream wait.requestId (.error error)
    | .ok (poll, found) =>
      if found ∨ wait.deadline ≤ k.nowMs then
        (d.removeAt .replies index).answer wait.stream wait.requestId (.ok poll)
      else d

-- ============================================================================
-- Events
-- ============================================================================

/-- One event of the executor, as `drain_herdr_events` hands it to its handler.  A job of
    the daemon's own holds no client's connection. -/
def onEvent (event : HerdrEvent) (d : Daemon) : Daemon :=
  match event with
  | .opened jobId =>
    match d.herdrOwners jobId with
    | some .prompt => d.onPromptOpened k jobId
    | some .start => d.onStartOpened k jobId
    | some .clear => d.onClearOpened k jobId
    | some .adopt => d.onAdoptOpened k jobId
    | some .rename => d.onRenameOpened k jobId
    | some .retire => d.onRetireOpened k jobId
    | some .renew => d
    | some .reminderSnapshot | some .clientRead | some .bootRecover | some .obligationSweep
    | none => d.endJob jobId
  | .written _ _ => d
  | .done jobId result =>
    let d := d.endJob jobId
    match d.herdrOwners jobId with
    | some .prompt => d.finishParkedPrompt k jobId
    | some .start => d.onStartDone k jobId result
    | some .clear => d.onClearDone k jobId result
    | some .clientRead => d.onClientReadDone k jobId result
    | some .adopt => d.onAdoptDone k jobId result
    | some .rename => d.onRenameDone k jobId result
    | some .retire => d.onRetireDone k jobId result
    | some .renew | some .reminderSnapshot | some .bootRecover | some .obligationSweep
    | none => d
  | .failed jobId phase error =>
    let d := d.endJob jobId
    match d.herdrOwners jobId with
    | some .prompt => d.failParkedPrompt k jobId error
    | some .start => d.onStartFailed k jobId error
    | some .clear => d.failParkedClear jobId (.herdr error)
    | some .clientRead => d.failClientRead jobId (.herdr error)
    | some .adopt => d.onAdoptFailed k jobId error
    | some .rename => d.onRenameFailed k jobId phase error
    | some .retire => d.onRetireFailed jobId phase error
    | some .renew | some .reminderSnapshot | some .bootRecover | some .obligationSweep
    | none => d
  | .dropped jobId => { d with herdrOwners := Function.update d.herdrOwners jobId none }

end Daemon

end Kelpie
