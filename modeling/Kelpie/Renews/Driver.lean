/-
  Kelpie.Renews.Driver

  The driver of renews: what is owed to each cycle, and the handlers that move a
  cycle from phase to phase.

  Each handler is a program of store transactions, any of which the database may
  fail and before any of which the daemon may die.  The transactions that the
  order of a cycle rests on note in a journal what they did; no handler reads
  it.  The clock is read again by every transaction that needs it.
-/

import Kelpie.Lib.Journal
import Kelpie.Lib.Process
import Kelpie.Slice.Reads

namespace Kelpie

open Lib Lib.Tx

-- ============================================================================
-- What is owed
-- ============================================================================

/-- One renew with what its next phase needs, as one pass reads it. -/
structure DueRenew where
  renewId : RenewId
  logicalAgentId : LogicalAgentId
  incarnationId : IncarnationId
  requesterAgentId : LogicalAgentId
  preparePrompt : String
  resumePrompt : String
  paneId : String
  phase : RenewPhase
  onTimeout : RenewTimeout
  prepareTimeoutMs : Millis
  cycle : Nat
  preClearSession : Option NativeSession
  prepareDeadlineMs : Option Millis
  clearDeadlineMs : Option Millis
  clearStallNotified : Bool
  injectNotBeforeMs : Option Millis
  prepareObligationState : Option ObligationState
  prepareSettledAtMs : Option Millis
deriving DecidableEq, Repr

/-- The scheduled time of the renew has come, or its cycle is under way. -/
def RenewRow.Owed (s : Store) (nowMs : Millis) (r : RenewRow) : Prop :=
  match r.phase with
  | .scheduled =>
    match r.everyMs with
    | none => r.scheduledAtMs ≤ nowMs
    | some _ => ∃ c ∈ r.scheduleId.bind s.schedules.find,
        c.state = .active ∧ c.activeRemainingMs.getD 0 ≤ 0
  | .preparing | .ready | .clearing | .injected | .timedOut => True
  | .done | .aborted | .terminated => False

instance (s : Store) (nowMs : Millis) : DecidablePred (RenewRow.Owed s nowMs) := fun r => by
  unfold RenewRow.Owed
  split
  · split <;> infer_instance
  all_goals infer_instance

/-- The row of a renew that the driver takes up now, with what it knows of its ask and its seat.
    -/
def Store.dueRenew (s : Store) (nowMs : Millis) (r : RenewRow) :
    Option (Except StoreError DueRenew) := do
  let i ← s.incarnations.find r.incarnationId
  guard (i.state = .ready ∧ ¬ s.ClearInFlight r.incarnationId ∧ r.Owed s nowMs)
  let obligation := r.askMessageId.bind s.obligations.find
  return match i.observedPaneId, i.observedTerminalId with
  | some paneId, some _ => .ok
      { renewId := r.id, logicalAgentId := r.logicalAgentId, incarnationId := r.incarnationId,
        requesterAgentId := r.requesterAgentId, preparePrompt := r.preparePrompt,
        resumePrompt := r.resumePrompt, paneId, phase := r.phase, onTimeout := r.onTimeout,
        prepareTimeoutMs := r.prepareTimeoutMs, cycle := r.cycle,
        preClearSession := r.preClearSession, prepareDeadlineMs := r.prepareDeadlineMs,
        clearDeadlineMs := r.clearDeadlineMs,
        clearStallNotified := r.clearStallNotifiedAtMs.isSome,
        injectNotBeforeMs := r.injectNotBeforeMs,
        prepareObligationState := obligation.map (·.state),
        prepareSettledAtMs := (obligation.filter (·.state = .resolved)).map
          (·.lastActivityAtMs) }
  | _, _ => .error (.sql .invalidColumnType)

/-- The renews by the time of their creation. -/
def Store.renewsByAge (s : Store) : List RenewRow :=
  s.renews.rows.insertionSort fun a b => a.createdAtMs ≤ b.createdAtMs

/-- Return renews whose next phase transition is owed. -/
def actionableRenews (nowMs : Millis) : Query (List DueRenew) := fun s =>
  (s.renewsByAge.filterMap (s.dueRenew nowMs)).mapM id

/-- The renews whose incarnation is gone. -/
def Store.terminableRenews (s : Store) : List RenewId :=
  (s.renewsByAge.filter fun r => r.phase.Armed ∧
    ∀ i ∈ s.incarnations.find r.incarnationId, i.state ≠ .ready).map (·.id)

-- ============================================================================
-- The journal
-- ============================================================================

/-- How a renew ended. -/
inductive RenewEnd where
  | completed
  | abandoned (nowMs : Millis)
  | aborted
  | lost
  | cancelled
deriving DecidableEq, Repr

/-- What the driver did, with the readings that it rests on. -/
inductive RenewAct where
  /-- The pre-clear session was recorded, and with it the deadlines of the cycle. -/
  | records (renewId : RenewId) (nowMs : Millis) (session : NativeSession)
      (rotation : RotationTiming)
  /-- An attempt was marked submitted. -/
  | submits (renewId : RenewId) (step : RenewStep) (nowMs : Millis)
  /-- A worker took the command of the attempt on its open connection. -/
  | sends (renewId : RenewId) (step : RenewStep)
  | observes (renewId : RenewId) (agent : AgentObservation)
  /-- The notice of a stalled clear was written. -/
  | reports (renewId : RenewId)
  | ends (renewId : RenewId) (phase : RenewPhase) (how : RenewEnd)
deriving DecidableEq, Repr

/-- The store with what the driver did to it. -/
abbrev RenewJournal := Journaled Store RenewAct

/-- A handler of the driver: transactions, each of which may fail and before each of which the
    daemon may die. -/
abbrev RenewProcess := Process RenewJournal StoreError SliceError

/-- One transaction of a handler. -/
def commits {α : Type} (x : StoreTx α) (note : Store → α → List RenewAct := fun _ _ => []) :
    RenewProcess α :=
  Process.tx .store (x.noting note)

/-- The renew ended in the phase that the transaction found it in. -/
def endsRenew {α : Type} (renewId : RenewId) (how : RenewEnd) (s : Store) (_ : α) :
    List RenewAct :=
  ((s.renews.find renewId).map fun r => .ends renewId r.phase how).toList

-- ============================================================================
-- Notices
-- ============================================================================

variable (config : SliceConfig)

/-- An error that the next pass retries, or that a record already tells. -/
def SliceError.RenewDriveSkips : SliceError → Prop
  | .herdr _ | .unknownOutcome _ _ | .unsupportedBackend _ | .store (.conflict _) => True
  | .store _ => False

instance : DecidablePred SliceError.RenewDriveSkips := fun e => by
  unfold SliceError.RenewDriveSkips
  split <;> infer_instance

/-- Tell the operator that a drive failed; a failure to tell is let go. -/
def noteRenewDriveError (now : Millis) (error : SliceError) : RenewProcess Unit :=
  Process.attempt ((insertOperatorNotice now
    s!"renew drive failed: {config.errorText error}").noting fun _ _ => [])

/-- Tell the operator what became of a renew. -/
def recordRenewNotice (now : Millis) (item : DueRenew) (detail : String)
    (acts : List RenewAct := []) : RenewProcess Unit := do
  let address ← commits (query (agentAddress item.logicalAgentId))
  let _ ← commits (insertOperatorNotice now s!"{address}: {detail}") fun _ _ => acts

/-- Compose the notice for a policy whose incarnation stopped being Ready. -/
def renewTerminationNotice (renewId : RenewId) (r : RenewRow) : Query String := fun s => do
  let address ← agentAddress r.logicalAgentId s
  let rule := match r.everyMs with
    | none => "one-shot renew"
    | some everyMs => s!"renew policy every {formatDurationMs everyMs}"
  return s!"{address} (agent {r.logicalAgentId} incarnation {r.incarnationId}): {rule} " ++
    s!"{renewId} terminated at cycle {r.cycle} because its incarnation is no longer Ready. " ++
    "Adoption restores addressing, not the policy; re-arm with kelpie renew if that context " ++
    "still needs bounding."

/-- End the renews whose incarnation is gone, each with its notice. -/
def terminateEndedRenews (clock : RenewId → Millis) : RenewProcess Unit := do
  let ids ← commits (reads Store.terminableRenews)
  Process.forEach ids fun renewId => do
    match ← commits (reads fun s : Store => s.renews.find renewId) with
    | none => Process.fail (.store (.invalidRecord
        s!"renew {renewId} vanished between selection and termination"))
    | some r => do
      let notice ← commits (query (renewTerminationNotice renewId r))
      let _ ← commits (terminateRenewAnnounced (clock renewId) renewId
        "incarnation is no longer Ready" notice) (endsRenew renewId .lost)

-- ============================================================================
-- Preparing
-- ============================================================================

/-- Deliver the prepare prompt as a disclosed ask and start its deadline.  What follows is
    the delivery of one prompt. -/
def beginRenewPrepare (item : DueRenew) (nowMs now : Millis) : RenewProcess Unit := do
  let requester ← commits (query (agentAddress item.requesterAgentId))
  let deadlineMs := saturatingAdd nowMs item.prepareTimeoutMs
  let ask ← commits (createAskWithReplyDelivery now item.logicalAgentId item.logicalAgentId
    item.incarnationId item.preparePrompt s!"kelpie:renew:prepare:{item.renewId}" none
    (some item.prepareTimeoutMs) false .inject)
  commits (markRenewPreparing item.renewId ask.messageId deadlineMs)
  let _ ← commits (query fun _ => validatedAttr "from" requester)
  let _ ← commits (query (readyPane item.incarnationId))

/-- Promote a renew whose agent confirmed its checkpoint, or time it out. -/
def renewSettlePrepare (item : DueRenew) (nowMs now : Millis) : RenewProcess Unit :=
  if item.prepareObligationState = some .resolved then commits (markRenewReady now item.renewId)
  else if ∃ due ∈ item.prepareDeadlineMs, due ≤ nowMs then
    commits (markRenewTimedOut item.renewId)
  else pure ()

/-- Apply the caller's recorded timeout disposition. There is no default. -/
def renewApplyTimeout (item : DueRenew) (clock : Nat → Millis) : RenewProcess Unit := do
  let detail := s!"renew cycle {item.cycle} prepare deadline elapsed with no final reply"
  match item.onTimeout with
  | .abort => do
    let _ ← commits (abortRenew (clock 0) item.renewId detail) (endsRenew item.renewId .aborted)
    recordRenewNotice (clock 1) item
      s!"{detail}; context left intact and the renew was abandoned"
  | .proceed => do
    commits (markRenewReady (clock 0) item.renewId)
    recordRenewNotice (clock 1) item
      s!"{detail}; clearing anyway as requested, unsaved work is lost"

-- ============================================================================
-- Clearing
-- ============================================================================

/-- `CLEAR_ROTATION_STALL_MS` -/
def clearRotationStallMs : Millis := 60000

/-- `CLEAR_PROOF_ABANDON_MS` -/
def clearProofAbandonMs : Millis := 600000

/-- The JSON text of a session that Herdr does not report. -/
def NativeSession.null : NativeSession := { value := none, rest := "null" }

/-- The agent is seen in another session than before its clear. -/
def SessionRotated (preClearSession : NativeSession) (observed : AgentObservation) : Prop :=
  ∃ current ∈ observed.agentSession, current ≠ preClearSession

instance (session : NativeSession) : DecidablePred (SessionRotated session) := fun _ => by
  unfold SessionRotated
  infer_instance

/-- Whether the clear may be probed for: it was never submitted, and the reply that
    authorises it has settled. -/
def renewClearReadyToProbe (item : DueRenew) (nowMs : Millis) : RenewProcess Bool := do
  let submitted ← commits (reads fun s : Store => s.renewStepSubmitted item.renewId .clear)
  return ¬ submitted ∧ ¬ ∃ settled ∈ item.prepareSettledAtMs,
    nowMs < saturatingAdd settled config.promptSettleDelayMs

/-- Clear command ready to write after the pre-clear session is durable. -/
structure RenewClearWrite where
  requestId : String
  paneId : String
  command : String
deriving DecidableEq, Repr

/-- The earliest time of the injection, for a backend that cannot wait for its rotation. -/
def RotationTiming.injectNotBeforeMs (rotation : RotationTiming) (nowMs : Millis) :
    Option Millis :=
  match rotation with
  | .onClear => none
  | .onNextPrompt => some (saturatingAdd nowMs promptSettleDelayMs)

/-- Record the pre-clear session reference, and mark the one clear submitted. -/
def recordRenewClearing (item : DueRenew) (nowMs : Millis) (observed : AgentObservation) :
    RenewProcess RenewClearWrite := do
  let backendKind ← commits (query (incarnationBackendKind item.incarnationId))
  match clearProtocolFor backendKind with
  | none => Process.fail (.unsupportedBackend backendKind)
  | some protocol => do
    let session := observed.agentSession.getD .null
    commits (markRenewClearing item.renewId session (saturatingAdd nowMs clearRotationStallMs)
      (protocol.rotation.injectNotBeforeMs nowMs)) fun _ _ =>
        [.records item.renewId nowMs session protocol.rotation]
    let requestId := s!"kelpie:renew:clear:{item.renewId}"
    commits (prepareRenewAttempt item.renewId item.incarnationId .clear requestId nowMs)
    commits (submitRenewAttempt requestId) fun _ _ => [.submits item.renewId .clear nowMs]
    return { requestId, paneId := item.paneId, command := protocol.command }

/-- Resolve a submitted attempt by the result of its write. -/
def applyRenewAttemptResult (renewId : RenewId) (requestId : String) (nowMs : Millis)
    (result : Except HerdrError Unit) : RenewProcess Unit :=
  match result with
  | .ok () => commits (resolveRenewAttempt requestId .accepted none nowMs)
  | .error (.rejected code message) => do
    let source := HerdrError.rejected code message
    commits (resolveRenewAttempt requestId .rejected (some source.text) nowMs)
    Process.fail (.herdr source)
  | .error source => do
    commits (resolveRenewAttempt requestId .unknown (some source.text) nowMs)
    Process.fail (.unknownOutcome (toString renewId) source)

-- ============================================================================
-- Injecting
-- ============================================================================

/-- Report an unproven clear once. -/
def reportClearStall (item : DueRenew) (nowMs now : Millis) (consequence : String) :
    RenewProcess Unit := do
  if (∃ due ∈ item.clearDeadlineMs, due ≤ nowMs) ∧ item.clearStallNotified = false then
    if ← commits (claimRenewClearStallNotice item.renewId nowMs) then
      let backendKind ← commits (query (incarnationBackendKind item.incarnationId))
      recordRenewNotice now item
        (s!"renew cycle {item.cycle} cleared this {backendKind} agent over " ++
          s!"{clearRotationStallMs / 1000}s ago and its backend-native session has not " ++
          s!"rotated; {consequence}")
        [.reports item.renewId]

/-- Resume prompt ready to write after rotation and settle checks. -/
structure RenewInjectWrite where
  requestId : String
  paneId : String
  rotated : Bool
  observed : AgentObservation
deriving DecidableEq, Repr

/-- Mark an injection submitted once the backend's own barrier allows it. -/
def renewInjectDecision (item : DueRenew) (nowMs now : Millis) (observed : AgentObservation) :
    RenewProcess (Option RenewInjectWrite) := do
  match item.preClearSession with
  | none => Process.fail (.store (.invalidRecord "clearing renew has no pre-clear session"))
  | some session =>
    if ∃ earliest ∈ item.injectNotBeforeMs, nowMs < earliest then return none
    else if item.injectNotBeforeMs = none ∧ ¬ SessionRotated session observed then do
      reportClearStall item nowMs now
        ("the context may be gone with the resume prompt still unsent, and Kelpie " ++
          "will keep retrying the injection until it lands")
      return none
    else do
      let requester ← commits (query (agentAddress item.requesterAgentId))
      let _ ← commits (query fun _ => validatedAttr "from" requester)
      let requestId := s!"kelpie:renew:inject:{item.renewId}:{nowMs}"
      commits (prepareRenewAttempt item.renewId item.incarnationId .inject requestId nowMs)
      commits (submitRenewAttempt requestId) fun _ _ => [.submits item.renewId .inject nowMs]
      return some
        { requestId, paneId := item.paneId, rotated := SessionRotated session observed,
          observed }

/-- Commit an accepted injection, or resolve the attempt that failed. -/
def applyRenewInjectResult (item : DueRenew) (nowMs : Millis) (write : RenewInjectWrite)
    (result : Except HerdrError Unit) : RenewProcess Unit :=
  match result with
  | .ok () => do
    commits (resolveRenewAttempt write.requestId .accepted none nowMs)
    commits (markRenewInjected item.renewId)
    match write.rotated, write.observed.agentSession with
    | true, some session =>
      commits (replaceObservedNativeSession item.incarnationId session)
    | _, _ => pure ()
  | .error source => applyRenewAttemptResult item.renewId write.requestId nowMs (.error source)

-- ============================================================================
-- Confirming
-- ============================================================================

/-- Stop waiting for a rotation that is not coming, once it is late enough. -/
def abandonUnprovenCycle (item : DueRenew) (nowMs : Millis) (clock : Nat → Millis) :
    RenewProcess Unit := do
  match item.clearDeadlineMs.map (saturatingAdd · clearProofAbandonMs) with
  | none => pure ()
  | some deadline =>
    if nowMs < deadline then pure ()
    else do
      let next ← commits (abandonRenewProof (clock 0) item.renewId
        (s!"clear never proven: cycle {item.cycle} injected its resume prompt and the " ++
          "backend-native session never rotated")) (endsRenew item.renewId (.abandoned nowMs))
      let consequence :=
        if next.isSome then "this cycle is abandoned and the next one is armed on schedule"
        else "this cycle is abandoned and nothing further is scheduled"
      recordRenewNotice (clock 1) item
        (s!"renew cycle {item.cycle} was never proven cleared " ++
          s!"{clearProofAbandonMs / 60000} minutes after its resume prompt was injected; the " ++
          "context was probably never bounded and that prompt probably went into it — " ++
          consequence)

/-- Whether the observation proves the clear; without the proof, report and in the end
    abandon the cycle. -/
def applyRenewConfirmObservation (item : DueRenew) (nowMs : Millis) (clock : Nat → Millis)
    (observed : AgentObservation) : RenewProcess Bool := do
  match item.preClearSession with
  | none => Process.fail (.store (.invalidRecord "injected renew has no pre-clear session"))
  | some session =>
    if ¬ SessionRotated session observed then do
      reportClearStall item nowMs (clock 2)
        ("the resume prompt was accepted and no new conversation appeared, so the clear " ++
          "may never have landed and that prompt may have gone into the context it was " ++
          "meant to replace; the context is not bounded and the cycle needs a look")
      abandonUnprovenCycle item nowMs clock
      return false
    else do
      match observed.agentSession with
      | some session => commits (replaceObservedNativeSession item.incarnationId session)
      | none => pure ()
      return true

/-- Complete the cycle. -/
def finishRenew (item : DueRenew) (now : Millis) : RenewProcess Unit := do
  let _ ← commits (completeRenew now item.renewId) (endsRenew item.renewId .completed)

end Kelpie
