/-
  Kelpie.Store.Recovery

  Reconciliation of the durable state with one fresh Herdr snapshot: the Ready
  bindings, the continuation of restored occupants, and the operations that an
  earlier process left unresolved.
-/

import Kelpie.Lib.Prog
import Kelpie.Store.Clear

namespace Kelpie

open Lib Lib.Tx

-- ============================================================================
-- Live observations
-- ============================================================================

/-- The agent sits on the pane and terminal, with that backend. -/
def liveSeatAndBackend (agent : AgentObservation) (paneId terminalId backendKind : String) :
    Bool :=
  agent.paneId = paneId ∧ agent.terminalId = terminalId ∧ agent.agent = some backendKind

/-- The agent sits there under the name as well. -/
def exactLiveBinding (agent : AgentObservation)
    (paneId terminalId backendKind publicName : String) : Bool :=
  liveSeatAndBackend agent paneId terminalId backendKind ∧ agent.name = some publicName

/-- `agent.name.as_deref().filter(|name| !name.is_empty())`. -/
def AgentObservation.liveName (agent : AgentObservation) : Option String :=
  agent.name.filter (· ≠ "")

/-- `native_session_id_value` of a live agent. -/
def AgentObservation.sessionId (agent : AgentObservation) : Option String :=
  agent.agentSession.bind (·.value)

/-- Some agent of the snapshot occupies the exact pane and terminal. -/
def Snapshot.Occupied (snapshot : Snapshot) (paneId terminalId : String) : Prop :=
  ∃ agent ∈ snapshot.agents, agent.paneId = paneId ∧ agent.terminalId = terminalId

instance (snapshot : Snapshot) (paneId terminalId : String) :
    Decidable (snapshot.Occupied paneId terminalId) :=
  inferInstanceAs (Decidable
    (∃ agent ∈ snapshot.agents, agent.paneId = paneId ∧ agent.terminalId = terminalId))

/-- Record a notice once: an equal one is not repeated. -/
def insertRestoreNotice (now : Millis) (body : String) : StoreTx Unit := do
  let notices ← reads (·.operatorNotices)
  if ∃ n ∈ notices.rows, n.body = body then
    return ()
  else
    let _ ← insertOperatorNotice now body

-- ============================================================================
-- Ready bindings
-- ============================================================================

/-- What recovery reads of one Ready incarnation. -/
structure ReadyBinding where
  id : IncarnationId
  paneId : String
  terminalId : String
  publicName : String
  backendKind : String
  nativeSession : Option NativeSession
  pendingRenameTo : Option String
deriving DecidableEq, Repr

/-- The binding of a Ready incarnation as it is reconciled, if it has one. -/
def Store.readyBinding (s : Store) (i : IncarnationRow) :
    Option (Except StoreError ReadyBinding) := do
  guard (i.state = .ready)
  let publicName ← s.publicName i.logicalAgentId
  return match i.observedPaneId, i.observedTerminalId with
  | some paneId, some terminalId => .ok
      { id := i.id, paneId, terminalId, publicName, backendKind := i.backendKind,
        nativeSession := i.observedNativeSession, pendingRenameTo := i.pendingRenameTo }
  | _, _ => .error (.sql .invalidColumnType)

/-- The Ready bindings; every one of them must have recorded its seat. -/
def readyBindings : Query (List ReadyBinding) := fun s =>
  (s.incarnations.rows.filterMap s.readyBinding).mapM id

/-- The live agent that still is the binding, the one that lost its name on the same
    seat, and the one that already carries the pending name. -/
def ReadyBinding.exactLive (b : ReadyBinding) (snapshot : Snapshot) :
    Option AgentObservation :=
  snapshot.agents.find? fun a =>
    exactLiveBinding a b.paneId b.terminalId b.backendKind b.publicName

/-- The agent on the seat of the binding, if it has no name. -/
def ReadyBinding.unnamedLive (b : ReadyBinding) (snapshot : Snapshot) :
    Option AgentObservation :=
  snapshot.agents.find? fun a =>
    liveSeatAndBackend a b.paneId b.terminalId b.backendKind ∧ a.liveName = none

/-- The agent on the seat of the binding, if it has the name that a rename is to give it. -/
def ReadyBinding.renamedLive (b : ReadyBinding) (snapshot : Snapshot) :
    Option AgentObservation :=
  b.pendingRenameTo.bind fun target => snapshot.agents.find? fun a =>
    exactLiveBinding a b.paneId b.terminalId b.backendKind target

/-- Counts of `reconcile_ready_incarnations`. -/
structure ReadyReport where
  markedLost : Nat := 0
  sessionsRefreshed : Nat := 0
  sessionsLearned : Nat := 0
deriving DecidableEq, Repr

/-- Both reports, counted together. -/
def ReadyReport.add (a b : ReadyReport) : ReadyReport :=
  { markedLost := a.markedLost + b.markedLost,
    sessionsRefreshed := a.sessionsRefreshed + b.sessionsRefreshed,
    sessionsLearned := a.sessionsLearned + b.sessionsLearned }

/-- Replace the recorded session of a Ready incarnation that rotated it. -/
def refreshRotatedSession (now : Millis) (b : ReadyBinding)
    (bound : Option AgentObservation) : StoreTx Nat :=
  match bound.bind (·.agentSession), b.nativeSession with
  | some live, some stored =>
    if stored ≠ live then
      updateRows Tab.incarnations (fun i => i.id = b.id ∧ i.state = .ready)
        (fun i => { i with
          observedNativeSession := some live, nativeSessionRotatedAtMs := some now })
        (IncarnationRow.rotated_id now live)
    else pure 0
  | _, _ => pure 0

/-- Record the session Herdr reports for a Ready binding that has none yet. -/
def learnMissingNativeSession (incarnationId : IncarnationId)
    (exactLive : Option AgentObservation) : StoreTx Nat :=
  match exactLive.bind (·.agentSession) with
  | none => pure 0
  | some live => updateRows Tab.incarnations
      (fun i => i.id = incarnationId ∧ i.state = .ready ∧ i.observedNativeSession = none)
      (fun i => { i with observedNativeSession := some live })
      (IncarnationRow.learned_id live)

/-- Mark a Ready incarnation lost on authoritative absence. -/
def markLost (now : Millis) (incarnationId : IncarnationId) : StoreTx Nat :=
  updateRows Tab.incarnations (fun i => i.id = incarnationId ∧ i.state = .ready)
    (fun i => { i with
      state := .lost, terminalAtMs := some now,
      terminalReason := some "authoritative_binding_absence" })

/-- Reconcile one Ready binding with the snapshot. -/
def reconcileReadyBinding (now : Millis) (snapshot : Snapshot) (b : ReadyBinding) :
    StoreTx ReadyReport := do
  let exactLive := b.exactLive snapshot
  let unnamedLive := b.unnamedLive snapshot
  let renamedLive := b.renamedLive snapshot
  let sessionsRefreshed ←
    refreshRotatedSession now b ((renamedLive.or exactLive).or unnamedLive)
  let sessionsLearned ← if b.nativeSession = none then
      learnMissingNativeSession b.id exactLive
    else pure 0
  if renamedLive.isSome then
    -- The rename reached Herdr but not the commit: finish it.
    let incarnations ← reads (·.incarnations)
    let _ ← updateRows Tab.logicalAgents
      (fun l => some l.id = (incarnations.find b.id).map (·.logicalAgentId))
      (fun l => { l with publicName := b.pendingRenameTo.getD "" })
    let _ ← updateRows Tab.incarnations (fun i => i.id = b.id)
      (fun i => { i with pendingRenameTo := none })
      IncarnationRow.renamed_id
    return { sessionsRefreshed, sessionsLearned }
  else if exactLive.isSome then
    -- The rename never took effect in Herdr; keep the committed name.
    let _ ← updateRows Tab.incarnations
      (fun i => i.id = b.id ∧ b.pendingRenameTo.isSome)
      (fun i => { i with pendingRenameTo := none })
      IncarnationRow.renamed_id
    return { sessionsRefreshed, sessionsLearned }
  else if unnamedLive.isNone then
    let markedLost ← markLost now b.id
    return { markedLost, sessionsRefreshed, sessionsLearned }
  else
    return { sessionsRefreshed, sessionsLearned }

/-- Compare every Ready incarnation with the snapshot: those without their live agent are lost,
    the others learn its session. -/
def reconcileReadyIncarnations (now : Millis) (snapshot : Snapshot) :
    StoreTx ReadyReport := do
  let bindings ← query readyBindings
  let reports ← forEach bindings (reconcileReadyBinding now snapshot)
  return reports.foldr ReadyReport.add {}

/-- Release a Ready alias binding the snapshot says is no longer live. -/
def releaseAbsentAliasBinding (now : Millis) (publicName : String) (snapshot : Snapshot) :
    StoreTx (Option IncarnationId) := do
  let s ← reads id
  match s.incarnations.rows.find? (fun i =>
      i.state = .ready ∧ s.publicName i.logicalAgentId = some publicName) with
  | none => return none
  | some i =>
    match i.observedPaneId, i.observedTerminalId with
    | some paneId, some terminalId =>
      if snapshot.Occupied paneId terminalId then
        return none
      else
        let changed ← markLost now i.id
        return if changed = 1 then some i.id else none
    | _, _ => return none

-- ============================================================================
-- Starts that stayed unknown
-- ============================================================================

/-- An `unknown` start that no live operation owns. -/
structure UnknownStart where
  incarnationId : IncarnationId
  logicalAgentId : LogicalAgentId
  publicName : String
  intendedPaneId : String
  observedPaneId : Option String
  observedTerminalId : Option String
deriving DecidableEq, Repr

/-- An incarnation whose start stayed unknown, once no operation on it is live. -/
def Store.unknownStart (s : Store) (i : IncarnationRow) : Option UnknownStart := do
  guard (i.state = .unknown)
  guard (∀ o ∈ s.operations.rows, o.targetIncarnationId = i.id → ¬ o.outcome.Live)
  let publicName ← s.publicName i.logicalAgentId
  return { incarnationId := i.id, logicalAgentId := i.logicalAgentId, publicName,
           intendedPaneId := i.intendedPaneId, observedPaneId := i.observedPaneId,
           observedTerminalId := i.observedTerminalId }

/-- No agent of the snapshot carries the name or occupies the recorded seat. -/
def UnknownStart.AbsentFrom (row : UnknownStart) (snapshot : Snapshot) : Prop :=
  ∀ agent ∈ snapshot.agents, agent.name ≠ some row.publicName ∧
    ∀ pane ∈ row.observedPaneId, agent.paneId = pane →
      ∃ terminal ∈ row.observedTerminalId, agent.terminalId ≠ terminal

instance (snapshot : Snapshot) :
    DecidablePred fun row : UnknownStart => row.AbsentFrom snapshot := fun row => by
  unfold UnknownStart.AbsentFrom
  infer_instance

/-- The evidence that is recorded when it is settled as lost. -/
def UnknownStart.reason (row : UnknownStart) : String :=
  if row.observedPaneId.isSome then "unknown_start_binding_absence"
  else "unknown_start_never_bound"

/-- Where no live agent was found, for the operator. -/
def UnknownStart.place (row : UnknownStart) : String :=
  match row.observedPaneId, row.observedTerminalId with
  | some pane, some terminal =>
    s!"no live agent carries that name or occupies its recorded pane {pane} terminal {terminal}"
  | some pane, none =>
    s!"no live agent carries that name or occupies its recorded pane {pane}"
  | none, _ =>
    s!"no live agent carries that name (intended pane {row.intendedPaneId})"

/-- Settle one absent unknown start as lost, with its notice. -/
def settleAbsentUnknownStart (now : Millis) (row : UnknownStart) : StoreTx Bool := do
  let changed ← updateRows Tab.incarnations
    (fun i => i.id = row.incarnationId ∧ i.state = .unknown ∧
      i.observedPaneId = row.observedPaneId ∧ i.observedTerminalId = row.observedTerminalId)
    (fun i => { i with
      state := .lost, terminalAtMs := some now, terminalReason := some row.reason })
  if changed ≠ 1 then
    return false
  else
    insertRestoreNotice now
      (s!"recovery settled incarnation {row.incarnationId} of logical agent " ++
        s!"{row.logicalAgentId} ({row.publicName}) as lost: its start outcome stayed " ++
        s!"unknown and {row.place}")
    return true

/-- `settle_absent_unknown_starts`: one transaction for each row. -/
def settleAbsentUnknownStarts (now : Millis) (snapshot : Snapshot) :
    Prog Store StoreError Nat := do
  let rows ← Prog.reads fun s : Store => s.incarnations.rows.filterMap s.unknownStart
  let settled ← Prog.forEach (rows.filter (·.AbsentFrom snapshot)) fun row =>
    Prog.atomically (settleAbsentUnknownStart now row)
  return settled.countP id

-- ============================================================================
-- Retirements
-- ============================================================================

/-- Complete a retirement when the exact binding is gone from a snapshot. -/
def reconcileRetirement (now : Millis) (operationId : OperationId)
    (incarnationId : IncarnationId) (paneId terminalId : String) (snapshot : Snapshot) :
    StoreTx Bool := do
  if snapshot.Occupied paneId terminalId then
    return false
  else
    let changed ← updateRows Tab.incarnations
      (fun i => i.id = incarnationId ∧ i.state = .retiring)
      (fun i => { i with
        state := .retired, terminalAtMs := some now,
        terminalReason := some "authoritative_absence" })
    require (changed = 1) (.conflict "retirement result cannot mutate this incarnation")
    let _ ← updateRows Tab.operations (fun o => o.id = operationId ∧ o.outcome = .accepted)
      (fun o => { o with outcome := .succeeded, resolvedAtMs := some now })
      (OperationRow.succeeded_id now)
    return true

-- ============================================================================
-- Continuation of restored occupants
-- ============================================================================

/-- One incarnation with the agent it belongs to: a row of the continuation queries. -/
structure Occupancy where
  incarnation : IncarnationRow
  agent : LogicalAgentRow

namespace Occupancy

/-- The native session that the incarnation was last seen in. -/
def sessionId (r : Occupancy) : Option String :=
  r.incarnation.observedNativeSession.bind (·.value)

/-- `state IN ('lost', 'unknown', 'declared', 'failed')`. -/
def Continuable (r : Occupancy) : Prop :=
  r.incarnation.state = .lost ∨ r.incarnation.state = .unknown ∨
    r.incarnation.state = .declared ∨ r.incarnation.state = .failed

instance : DecidablePred Continuable := fun r =>
  inferInstanceAs (Decidable (r.incarnation.state = .lost ∨ r.incarnation.state = .unknown ∨
    r.incarnation.state = .declared ∨ r.incarnation.state = .failed))

end Occupancy

/-- `newer` was created after `i`, or in the same millisecond under a larger id. -/
def IncarnationRow.OlderThan (i newer : IncarnationRow) : Prop :=
  i.createdAtMs < newer.createdAtMs ∨
    (i.createdAtMs = newer.createdAtMs ∧ i.id < newer.id)

instance (i : IncarnationRow) : DecidablePred i.OlderThan := fun newer =>
  inferInstanceAs (Decidable (i.createdAtMs < newer.createdAtMs ∨
    (i.createdAtMs = newer.createdAtMs ∧ i.id < newer.id)))

/-- The order in which the newest session row of an agent is chosen: ids are compared as
    texts there. -/
def IncarnationRow.TextOlderThan (i newer : IncarnationRow) : Prop :=
  i.createdAtMs < newer.createdAtMs ∨
    (i.createdAtMs = newer.createdAtMs ∧ toString i.id < toString newer.id)

instance (i : IncarnationRow) : DecidablePred i.TextOlderThan := fun newer =>
  inferInstanceAs (Decidable (i.createdAtMs < newer.createdAtMs ∨
    (i.createdAtMs = newer.createdAtMs ∧ toString i.id < toString newer.id)))

namespace Store

/-- Every incarnation with its agent. -/
def occupancies (s : Store) : List Occupancy :=
  s.incarnations.rows.filterMap fun incarnation =>
    (s.logicalAgents.find incarnation.logicalAgentId).map fun agent => { incarnation, agent }

/-- The newest incarnation of the agent, in a state that recovery leaves alone, or an
    agent that has no pane. -/
def Blocked (s : Store) (logicalAgentId : LogicalAgentId) : Prop :=
  ∃ r ∈ s.occupancies, r.agent.id = logicalAgentId ∧
    (∀ i ∈ s.incarnations.rows, i.logicalAgentId = logicalAgentId →
      ¬ r.incarnation.OlderThan i) ∧
    (r.agent.deliveryTransport = .socketInbox ∨ r.incarnation.state = .ready ∨
      r.incarnation.state = .starting ∨ r.incarnation.state = .retiring ∨
      r.incarnation.state = .retired ∨ r.incarnation.state = .superseded)

instance (s : Store) : DecidablePred s.Blocked := fun logicalAgentId => by
  unfold Blocked
  infer_instance

/-- `continuable_session_rows`, of the agents that are not blocked. -/
def continuableSessionRows (s : Store) : List Occupancy :=
  s.occupancies.filter fun r => r.Continuable ∧ r.sessionId.isSome ∧
    r.agent.deliveryTransport ≠ .socketInbox ∧ ¬ s.Blocked r.agent.id

/-- The newest session row of each agent. -/
def lastByAgent (s : Store) : List Occupancy :=
  s.continuableSessionRows.filter fun r => ∀ r' ∈ s.continuableSessionRows,
    r'.agent.id = r.agent.id → ¬ r.incarnation.TextOlderThan r'.incarnation

/-- `continuable_seat_rows`: continuable incarnations that recorded a pane, newest first. -/
def continuableSeatRows (s : Store) : List Occupancy :=
  (s.occupancies.filter fun r => r.Continuable ∧ r.incarnation.observedPaneId.isSome ∧
    r.agent.deliveryTransport = .herdrPrompt).insertionSort
      fun a b => ¬ a.incarnation.OlderThan b.incarnation

/-- `newest_incarnation_by_pane` names this incarnation for its pane. -/
def HoldsItsPane (s : Store) (i : IncarnationRow) : Prop :=
  ∀ other ∈ s.incarnations.rows, other.observedPaneId = i.observedPaneId →
    ¬ i.OlderThan other

instance (s : Store) : DecidablePred s.HoldsItsPane := fun i =>
  inferInstanceAs (Decidable (∀ other ∈ s.incarnations.rows,
    other.observedPaneId = i.observedPaneId → ¬ i.OlderThan other))

/-- `ready_seat_keys` holds the occupant's seat. -/
def SeatReady (s : Store) (agent : AgentObservation) : Prop :=
  ∃ i ∈ s.incarnations.rows, i.ReadyOn agent.paneId agent.terminalId

instance (s : Store) : DecidablePred s.SeatReady := fun agent =>
  inferInstanceAs (Decidable
    (∃ i ∈ s.incarnations.rows, i.ReadyOn agent.paneId agent.terminalId))

/-- `ready_logical_agent_ids` holds the agent. -/
def AgentReady (s : Store) (logicalAgentId : LogicalAgentId) : Prop :=
  ∃ i ∈ s.incarnations.rows,
    i.logicalAgentId = logicalAgentId ∧ (i.state = .starting ∨ i.state = .ready)

instance (s : Store) : DecidablePred s.AgentReady := fun logicalAgentId =>
  inferInstanceAs (Decidable (∃ i ∈ s.incarnations.rows,
    i.logicalAgentId = logicalAgentId ∧ (i.state = .starting ∨ i.state = .ready)))

/-- `ready_alias_owners` holds the name under another agent. -/
def AliasReadyElsewhere (s : Store) (name : String) (logicalAgentId : LogicalAgentId) :
    Prop :=
  ∃ i ∈ s.incarnations.rows, i.logicalAgentId ≠ logicalAgentId ∧
    (((i.state = .starting ∨ i.state = .ready) ∧
        s.publicName i.logicalAgentId = some name) ∨
      (i.state = .ready ∧ i.pendingRenameTo = some name))

instance (s : Store) (name : String) : DecidablePred (s.AliasReadyElsewhere name) :=
  fun logicalAgentId => by
    unfold AliasReadyElsewhere
    infer_instance

/-- `active_waiter_aliases` holds the name. -/
def AliasWaiting (s : Store) (name : String) : Prop :=
  ∃ l ∈ s.logicalAgents.rows, l.ActiveWaiter ∧ l.publicName = name

instance (s : Store) : DecidablePred s.AliasWaiting := fun name =>
  inferInstanceAs (Decidable
    (∃ l ∈ s.logicalAgents.rows, l.ActiveWaiter ∧ l.publicName = name))

end Store

/-- A live occupant, the row it continues, and the backend it runs. -/
structure Continuation where
  agent : AgentObservation
  source : Occupancy
  backendKind : String

/-- The settled agents of the snapshot that run one native session. -/
def Snapshot.occupantsOf (snapshot : Snapshot) (session : String) : List AgentObservation :=
  snapshot.agents.filter fun a => a.launchPending = false ∧ a.sessionId = some session

/-- The native sessions that settled agents of the snapshot run, each of them once. -/
def Snapshot.liveSessions (snapshot : Snapshot) : List String :=
  ((snapshot.agents.filter (·.launchPending = false)).filterMap (·.sessionId)).dedup

/-- The single row whose binding is strictly the most recent, if there is one. -/
def newestStrictly (rows : List Occupancy) : Option Occupancy :=
  match rows.filter fun r => ∀ r' ∈ rows, ¬ r.incarnation.OlderThan r'.incarnation with
  | [newest] => some newest
  | _ => none

/-- What recovery does about one live native session. -/
inductive SessionVerdict where
  | skip
  | ambiguous
  | continues (c : Continuation)

/-- The rows that a live session may continue, by the name its occupant still carries. -/
def Store.sessionMatches (s : Store) (session : String) : List Occupancy :=
  s.lastByAgent.filter (·.sessionId = some session)

/-- Judge the unique occupant of one session against the rows that match it. -/
def Store.judgeOccupant (s : Store) (agent : AgentObservation) (rows : List Occupancy) :
    SessionVerdict :=
  let named := match agent.liveName with
    | some live => rows.filter (·.agent.publicName = live)
    | none => rows
  match newestStrictly named with
  | none => .ambiguous
  | some source =>
    if s.SeatReady agent ∨ s.AgentReady source.agent.id then .skip
    else match agent.agent.filter (· ≠ "") with
      | none => .skip
      | some backendKind =>
        if ∃ name ∈ agent.liveName, name ≠ source.agent.publicName then .skip
        else if source.incarnation.observedPaneId = some agent.paneId ∧
            source.incarnation.observedTerminalId = some agent.terminalId then .skip
        else .continues { agent, source, backendKind }

/-- What recovery does about a session: the one live agent in it is judged by the rows that
    recorded the session; without exactly one, several rows are ambiguous. -/
def Store.judgeSession (s : Store) (snapshot : Snapshot) (session : String) :
    SessionVerdict :=
  match snapshot.occupantsOf session, s.sessionMatches session with
  | [agent], r :: rows => s.judgeOccupant agent (r :: rows)
  | _, rows => if 2 ≤ rows.length then .ambiguous else .skip

/-- `ambiguous_restore_notice`. -/
def ambiguousRestoreNotice (occupants : List AgentObservation)
    (logicalIds : List LogicalAgentId) : String :=
  let ids := (logicalIds.map toString).insertionSort (· ≤ ·)
  let seat := (occupants.head?.map fun a => (a.paneId, a.terminalId)).getD ("-", "-")
  let listed := ", ".intercalate ids
  s!"recovery did not continue native session onto pane {seat.1} terminal {seat.2}: " ++
    s!"{ids.length} logical agents match ({listed})"

/-- Act on the verdict about one session: a notice, or a continuation to make. -/
def continueSession (now : Millis) (s : Store) (snapshot : Snapshot) (session : String) :
    StoreTx (Option Continuation) :=
  match s.judgeSession snapshot session with
  | .skip => pure none
  | .continues c => pure (some c)
  | .ambiguous => do
    insertRestoreNotice now (ambiguousRestoreNotice (snapshot.occupantsOf session)
      ((s.sessionMatches session).map (·.agent.id)))
    return none

/-- `str::trim_end_matches('/')`. -/
def trimEndSlashes (path : String) : String :=
  String.ofList ((path.toList.reverse.dropWhile (· = '/')).reverse)

/-- The live agent a lost identity may continue onto at its recorded pane. -/
def seatOccupant (snapshot : Snapshot) (row : Occupancy) : Option AgentObservation := do
  let paneId ← row.incarnation.observedPaneId
  let [agent] := snapshot.agents.filter fun a => a.paneId = paneId ∧ a.launchPending = false
    | none
  guard (row.incarnation.observedTerminalId ≠ some agent.terminalId)
  guard (agent.agent = some row.incarnation.backendKind)
  guard (∀ name ∈ agent.liveName, name = row.agent.publicName)
  let pane ← snapshot.panes.find? (·.paneId = paneId)
  let cwd ← pane.cwd
  guard (trimEndSlashes cwd = trimEndSlashes row.incarnation.workingDirectory)
  return agent

/-- The continuation of one recorded seat, for an agent that its session did not already
    continue. -/
def Store.continueSeat (s : Store) (snapshot : Snapshot)
    (sessionContinued : List LogicalAgentId) (row : Occupancy) : Option Continuation := do
  guard (s.HoldsItsPane row.incarnation)
  guard (¬ s.Blocked row.agent.id ∧ row.agent.id ∉ sessionContinued ∧
    ¬ s.AgentReady row.agent.id)
  let agent ← seatOccupant snapshot row
  guard (¬ s.SeatReady agent)
  return { agent, source := row, backendKind := row.incarnation.backendKind }

/-- The distinct agents that continue under one name. -/
def aliasClaimants (pending : List Continuation) (name : String) : List LogicalAgentId :=
  ((pending.filter (·.source.agent.publicName = name)).map (·.source.agent.id)).dedup

/-- Why a continuation under the source's name is refused, if it is. -/
def Store.refuseContinuation (s : Store) (pending : List Continuation) (c : Continuation) :
    Option String :=
  let id := c.source.agent.id
  let name := c.source.agent.publicName
  let claimants := aliasClaimants pending name
  let listed := ", ".intercalate ((claimants.map toString).insertionSort (· ≤ ·))
  if 2 ≤ claimants.length then
    some (s!"recovery did not continue alias {name}: {claimants.length} logical agents " ++
      s!"match ({listed})")
  else if s.AliasReadyElsewhere name id then
    some (s!"recovery did not continue logical agent {id} ({name}): alias already bound to a " ++
      "live or starting agent")
  else if s.AliasWaiting name then
    some (s!"recovery did not continue logical agent {id} ({name}): alias already bound to a " ++
      "socket waiter")
  else none

/-- Bind one occupant to the agent it continues, or record why not. -/
def continueOnto (now : Millis) (s : Store) (pending : List Continuation)
    (c : Continuation) : StoreTx Bool :=
  match s.refuseContinuation pending c with
  | some refusal => do
    insertRestoreNotice now refusal
    return false
  | none => do
    let source := c.source.incarnation
    let incarnationId ← insertIncarnation fun id =>
      { id, logicalAgentId := c.source.agent.id, herdrSession := source.herdrSession,
        intendedPaneId := c.agent.paneId, expectedTerminalId := c.agent.terminalId,
        observedPaneId := some c.agent.paneId,
        observedTerminalId := some c.agent.terminalId,
        backendKind := c.backendKind, backendArgs := source.backendArgs,
        workingDirectory := source.workingDirectory, createdAtMs := now, state := .ready,
        observedNativeSession := c.agent.agentSession,
        requestedModel := source.requestedModel,
        requestedProvider := source.requestedProvider,
        requestedEffort := source.requestedEffort }
    insertRestoreNotice now
      (s!"recovery continued logical agent {c.source.agent.id} ({c.source.agent.publicName}) " ++
        s!"onto pane {c.agent.paneId} terminal {c.agent.terminalId} as incarnation " ++
        s!"{incarnationId}")
    return true

/-- Continue unique lost agents onto Herdr-restored occupants. -/
def continueRestoredOccupants (now : Millis) (snapshot : Snapshot) : StoreTx Nat := do
  let s ← reads id
  if s.lastByAgent.isEmpty ∧ s.continuableSeatRows.isEmpty then
    return 0
  else
    let judged ← forEach snapshot.liveSessions (continueSession now s snapshot)
    let bySession := judged.filterMap id
    let bySeat := s.continuableSeatRows.filterMap
      (s.continueSeat snapshot (bySession.map (·.source.agent.id)))
    let pending := bySession ++ bySeat
    let continued ← forEach pending (continueOnto now s pending)
    return continued.countP id

-- ============================================================================
-- Interrupted operations
-- ============================================================================

/-- What one reconciliation did, in numbers. -/
structure RecoveryReport where
  startsRecovered : Nat := 0
  outcomesMarkedUnknown : Nat := 0
  untouchedPendingIntents : Nat := 0
  unattemptedClearsFailed : Nat := 0
  retirementsCompleted : Nat := 0
  retirementsStillLive : Nat := 0
  incarnationsMarkedLost : Nat := 0
  incarnationsContinued : Nat := 0
  nativeSessionsRefreshed : Nat := 0
  nativeSessionsLearned : Nat := 0
  unknownStartsSettled : Nat := 0
deriving DecidableEq, Repr

/-- An operation that an earlier process left unresolved. -/
structure RecoveryCandidate where
  operationId : OperationId
  incarnationId : IncarnationId
  kind : OperationKind
  paneId : String
  terminalId : String
  intent : OperationIntent
  attempted : Bool
deriving DecidableEq, Repr

/-- The candidate that recovery makes of one operation: a live one, at or under the floor
    of a live daemon. -/
def Store.recoveryCandidate (s : Store) (o : OperationRow) : Option RecoveryCandidate := do
  guard (o.outcome.Live ∧ ∀ floor ∈ s.liveOperationFloor, o.id ≤ floor)
  let i ← s.incarnations.find o.targetIncarnationId
  return { operationId := o.id, incarnationId := i.id, kind := o.kind,
           paneId := i.intendedPaneId, terminalId := i.expectedTerminalId,
           intent := o.intent, attempted := s.Submitted o.id }

/-- The operations that a reconciliation has to settle. -/
def Store.recoveryCandidates (s : Store) : List RecoveryCandidate :=
  s.operations.rows.filterMap s.recoveryCandidate

/-- The live agent that proves an interrupted start ready. -/
def RecoveryCandidate.startedAgent (c : RecoveryCandidate) (intent : StartIntent)
    (snapshot : Snapshot) : Option AgentObservation :=
  snapshot.agents.find? fun a => a.paneId = c.paneId ∧ a.terminalId = c.terminalId ∧
    a.name = some intent.publicName ∧ a.agent = some intent.backendKind ∧
    a.interactiveReady = true ∧ a.launchPending = false

/-- The live agent that carries the name an interrupted adoption claimed. -/
def RecoveryCandidate.adoptedAgent (c : RecoveryCandidate) (intended : String)
    (snapshot : Snapshot) : Option AgentObservation :=
  snapshot.agents.find? fun a => a.paneId = c.paneId ∧ a.terminalId = c.terminalId ∧
    a.name = some intended ∧ a.launchPending = false

/-- `serde_json::from_str::<StartIntent>` of the stored intent. -/
def OperationIntent.asStart : OperationIntent → Except StoreError StartIntent
  | .start intent => .ok intent
  | _ => .error (.invalidRecord "stored intent is not a start intent")

/-- `adopt_intended_name`. -/
def OperationIntent.adoptIntendedName : OperationIntent → Except StoreError String
  | .adopt _ evidence =>
    if evidence.publicName = "" then
      .error (.invalidRecord "adopt intent is missing public_name")
    else .ok evidence.publicName
  | _ => .error (.invalidRecord "adopt intent is missing public_name")

/-- `clear_prompt_settle_delay_ms`. -/
def OperationIntent.clearPromptSettleDelayMs : OperationIntent → Except StoreError Millis
  | .clear intent => .ok intent.promptSettleDelayMs
  | _ => .error (.invalidRecord "clear intent is missing prompt_settle_delay_ms")

/-- The notice about a prompt of which nobody knows whether it arrived. -/
def unknownPromptNotice (operationId : OperationId) (incarnationId : IncarnationId) :
    String :=
  s!"prompt operation {operationId} has unknown delivery outcome for incarnation " ++
    s!"{incarnationId}"

/-- Try the readiness evidence of an interrupted start. -/
def recoverStart (now : Millis) (snapshot : Snapshot) (c : RecoveryCandidate) :
    Prog Store StoreError Bool := do
  let intent ← Prog.ofExcept c.intent.asStart
  match c.startedAgent intent snapshot with
  | none => return false
  | some agent => do
    -- The predecessor that the intent supersedes is not passed on.
    let r ← Prog.attempt (acceptStartReady now c.operationId c.incarnationId agent none)
    match r with
    | .ok () => return true
    | .error (.conflict _) => return false
    | .error e => Prog.fail e

/-- Try the name evidence of an interrupted adoption. -/
def recoverAdopt (now : Millis) (snapshot : Snapshot) (c : RecoveryCandidate) :
    Prog Store StoreError Bool := do
  let intended ← Prog.ofExcept c.intent.adoptIntendedName
  match c.adoptedAgent intended snapshot with
  | none => return false
  | some agent => do
    let r ← Prog.attempt (acceptAdoptReady now c.operationId c.incarnationId agent)
    match r with
    | .ok () => return true
    | .error _ => return false

/-- Preserve an attempted operation whose outcome the snapshot cannot prove. -/
def recoverUnknown (now : Millis) (c : RecoveryCandidate) : Prog Store StoreError Unit := do
  let evidence :=
    "fresh snapshot cannot prove the attempted external effect's terminal outcome"
  if c.kind = .clear then
    let delayMs ← Prog.ofExcept c.intent.clearPromptSettleDelayMs
    Prog.atomically (markClearUnknown now c.operationId c.incarnationId evidence delayMs)
    let _ ← Prog.atomically (insertOperatorNotice now
      (s!"clear operation {c.operationId} has unknown outcome after recovery for incarnation " ++
        s!"{c.incarnationId}"))
  else
    Prog.atomically (markUnknown now c.operationId c.incarnationId evidence)
    if c.kind = .prompt then
      let _ ← Prog.atomically
        (insertOperatorNotice now (unknownPromptNotice c.operationId c.incarnationId))

/-- An intent that no attempt went past preparation stays pending; a clear fails. -/
def recoverUnattempted (now : Millis) (c : RecoveryCandidate) (report : RecoveryReport) :
    Prog Store StoreError RecoveryReport := do
  let failed ← if c.kind = .clear then
      Prog.atomically (failUnattemptedClear now c.operationId)
    else pure false
  if failed then
    let _ ← Prog.atomically (insertOperatorNotice now
      s!"clear operation {c.operationId} failed during recovery before any Herdr write")
    return { report with unattemptedClearsFailed := report.unattemptedClearsFailed + 1 }
  else
    return { report with untouchedPendingIntents := report.untouchedPendingIntents + 1 }

/-- Recover one interrupted operation. -/
def recoverCandidate (now : Millis) (snapshot : Snapshot) (report : RecoveryReport)
    (c : RecoveryCandidate) : Prog Store StoreError RecoveryReport := do
  if c.kind = .retire then
    let completed ← Prog.atomically (reconcileRetirement now c.operationId c.incarnationId
      c.paneId c.terminalId snapshot)
    if completed then
      return { report with retirementsCompleted := report.retirementsCompleted + 1 }
    else
      return { report with retirementsStillLive := report.retirementsStillLive + 1 }
  else if c.attempted = false then
    recoverUnattempted now c report
  else
    let started ← if c.kind = .start then recoverStart now snapshot c else pure false
    if started then
      return { report with startsRecovered := report.startsRecovered + 1 }
    else
      let adopted ← if c.kind = .adopt then recoverAdopt now snapshot c else pure false
      if adopted then
        return report
      else
        recoverUnknown now c
        return { report with outcomesMarkedUnknown := report.outcomesMarkedUnknown + 1 }

/-- Settle the candidates one after the other; an error ends the reconciliation. -/
def recoverCandidates (now : Millis) (snapshot : Snapshot) :
    RecoveryReport → List RecoveryCandidate → Prog Store StoreError RecoveryReport
  | report, [] => pure report
  | report, c :: cs => do
    let report ← recoverCandidate now snapshot report c
    recoverCandidates now snapshot report cs

-- ============================================================================
-- Missed wakes
-- ============================================================================

/-- `json_extract(o.intent_json, '$.schedule_id')`. -/
def OperationIntent.scheduleId : OperationIntent → Option ScheduleId
  | .prompt intent => intent.scheduleId
  | _ => none

/-- The operation and incarnation of a queued delivery that came due while no daemon
    ran; schedule firings are left to their schedule. -/
def Store.missedDueWake (s : Store) (nowMs : Millis) (d : DeliveryRow) :
    Option (OperationId × IncarnationId) := do
  guard (d.outcome = .queued ∧ d.scheduledAtMs ≤ nowMs)
  let o ← d.operationId.bind s.operations.find
  guard (o.outcome.Live)
  guard (o.intent.scheduleId = none)
  let recipient ← d.recipientIncarnationId
  guard (¬ s.ClearInFlight recipient)
  return (o.id, recipient)

/-- Mark the wakes unknown that fell due while the daemon was not running, each in a transaction
    of its own. -/
def reconcileMissedDueWakes (now nowMs : Millis) : Prog Store StoreError Nat := do
  let overdue ← Prog.reads fun s : Store => s.deliveries.rows.filterMap (s.missedDueWake nowMs)
  let marked ← Prog.forEach overdue fun wake => do
    Prog.atomically (markUnknown now wake.1 wake.2
      "due time elapsed while kelpied was not running; no new attempt is recorded")
    let _ ← Prog.atomically
      (insertOperatorNotice now (unknownPromptNotice wake.1 wake.2))
    return ()
  return marked.length

-- ============================================================================
-- Reconciliation
-- ============================================================================

/-- Reconcile interrupted operations against one fresh Herdr snapshot. -/
def reconcile (now : Millis) (snapshot : Snapshot) :
    Prog Store StoreError RecoveryReport := do
  let candidates ← Prog.reads Store.recoveryCandidates
  let ready ← Prog.atomically (reconcileReadyIncarnations now snapshot)
  let incarnationsContinued ← Prog.atomically (continueRestoredOccupants now snapshot)
  let unknownStartsSettled ← settleAbsentUnknownStarts now snapshot
  let floor ← Prog.reads (·.liveOperationFloor)
  let outcomesMarkedUnknown ← if floor.isSome then pure 0
    else reconcileMissedDueWakes now now
  recoverCandidates now snapshot
    { incarnationsMarkedLost := ready.markedLost, incarnationsContinued,
      nativeSessionsRefreshed := ready.sessionsRefreshed,
      nativeSessionsLearned := ready.sessionsLearned, unknownStartsSettled,
      outcomesMarkedUnknown }
    candidates

-- ============================================================================
-- Upkeep
-- ============================================================================

/-- Mark every operation created from now on as owned by this live process. -/
def claimLiveOperations : StoreTx Unit :=
  writes fun s => { s with
    liveOperationFloor := some ((s.operations.rows.map (·.id)).foldr max 0) }

/-- The latest terminal evidence of one incarnation. -/
def Store.terminalEvidence (s : Store) (i : IncarnationRow) : Millis :=
  let resolved := (s.operations.rows.filter (·.targetIncarnationId = i.id)).filterMap
    (·.resolvedAtMs)
  i.terminalAtMs.getD (resolved.max?.getD i.createdAtMs)

/-- A Herdr identity that is dead, that nothing unresolved names, and that stayed so for
    the grace period. -/
def Store.Archivable (s : Store) (nowMs graceMs : Millis) (l : LogicalAgentRow) : Prop :=
  l.archivedAtMs = none ∧ l.deliveryTransport = .herdrPrompt ∧
    (∃ i ∈ s.incarnations.rows, i.logicalAgentId = l.id) ∧
    (∀ i ∈ s.incarnations.rows, i.logicalAgentId = l.id →
      (i.state = .failed ∨ i.state = .lost ∨ i.state = .retired ∨ i.state = .superseded) ∧
      (∀ o ∈ s.operations.rows, o.targetIncarnationId = i.id → ¬ o.outcome.Live) ∧
      s.terminalEvidence i ≤ nowMs - graceMs) ∧
    (∀ o ∈ s.obligations.rows, o.state.Unresolved →
      o.owingAgentId ≠ l.id ∧ o.waitingAgentId ≠ l.id) ∧
    (∀ c ∈ s.schedules.rows, c.state = .active →
      c.logicalAgentId ≠ l.id ∧ c.requesterAgentId ≠ l.id) ∧
    ∀ r ∈ s.renews.rows, r.phase.Armed → r.logicalAgentId ≠ l.id

instance (s : Store) (nowMs graceMs : Millis) :
    DecidablePred (s.Archivable nowMs graceMs) := fun l => by
  unfold Store.Archivable
  infer_instance

/-- Archive logical identities that are dead and have stayed dead. -/
def archiveDeadIdentities (nowMs graceMs : Millis) : StoreTx Nat := do
  let s ← reads id
  updateRows Tab.logicalAgents (s.Archivable nowMs graceMs)
    (fun l => { l with archivedAtMs := some nowMs })

end Kelpie
