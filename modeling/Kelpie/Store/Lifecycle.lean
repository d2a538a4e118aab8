/-
  Kelpie.Store.Lifecycle

  Incarnations from their declaration to Ready: starts, adoptions, handoffs,
  renames and retirement requests.
-/

import Kelpie.Store.Statements

namespace Kelpie

open Lib Lib.Tx

-- ============================================================================
-- Text
-- ============================================================================

/-- The characters with the Unicode property `White_Space`. -/
def isWhitespace (c : Char) : Bool :=
  (9 ≤ c.toNat && c.toNat ≤ 13) || c.toNat = 0x20 || c.toNat = 0x85 || c.toNat = 0xA0 ||
    c.toNat = 0x1680 || (0x2000 ≤ c.toNat && c.toNat ≤ 0x200A) || c.toNat = 0x2028 ||
    c.toNat = 0x2029 || c.toNat = 0x202F || c.toNat = 0x205F || c.toNat = 0x3000

/-- `str::trim`. -/
def trim (text : String) : String :=
  String.ofList
    ((text.toList.dropWhile isWhitespace).reverse.dropWhile isWhitespace).reverse

/-- A blank value counts as none. -/
def emptyToNone (value : Option String) : Option String :=
  (value.map trim).filter (· ≠ "")

-- ============================================================================
-- Declarations
-- ============================================================================

/-- IDs atomically created for one start or adopt intent. -/
structure DeclaredStart where
  logicalAgentId : LogicalAgentId
  incarnationId : IncarnationId
  operationId : OperationId
deriving DecidableEq, Repr

/-- Reuse the exact logical agent under the name it now takes, or create one. -/
def continueOrCreateAgent (now : Millis) (existing : Option LogicalAgentId)
    (publicName : String) (parent : Parent) : StoreTx LogicalAgentId :=
  match existing with
  | some existing => do
    let agents ← reads (·.logicalAgents)
    require ((agents.find existing).isSome)
      (.conflict "logical agent to continue does not exist")
    query (refusePaneBindOfSocketInbox existing)
    -- Public names are live aliases attached to the current occupant.
    let _ ← updateRows Tab.logicalAgents (fun l => l.id = existing)
      (fun l => { l with publicName })
    return existing
  | none => insertLogicalAgent now publicName parent .herdrPrompt

/-- Record a launch before anything is sent: the agent, a declared incarnation on the intended
    seat and the operation. -/
def declareStart (now : Millis) (intent : StartIntent) : StoreTx DeclaredStart := do
  query (refuseReusedNonPromptIdempotencyKey intent.idempotencyKey)
  query (refuseNameHeldBySocketWaiter intent.publicName)
  let logicalAgentId ←
    continueOrCreateAgent now intent.logicalAgentId intent.publicName intent.parent
  let incarnationId ← insertIncarnation fun id =>
    { id, logicalAgentId, herdrSession := intent.herdrSession,
      intendedPaneId := intent.paneId, expectedTerminalId := intent.expectedTerminalId,
      backendKind := intent.backendKind, backendArgs := intent.backendArgs,
      workingDirectory := intent.workingDirectory, createdAtMs := now, state := .declared,
      requestedModel := emptyToNone intent.requestedModel,
      requestedProvider := emptyToNone intent.requestedProvider,
      requestedEffort := emptyToNone intent.requestedEffort }
  let operationId ← insertOperation now intent.idempotencyKey .start incarnationId
    (.start intent) .pending idempotencyKeyExists
  return { logicalAgentId, incarnationId, operationId }

/-- The unresolved obligations that touch a name's claimants: `NameInfo::unresolved`. -/
def Store.unresolvedUnderName (s : Store) (publicName : String) : List ObligationRow :=
  s.obligations.rows.filter fun o => o.state.Unresolved ∧
    (s.publicName o.waitingAgentId = some publicName ∨
      s.publicName o.owingAgentId = some publicName)

/-- The agents under a name that are not archived: `NameInfo::claimants`. -/
def Store.claimants (s : Store) (publicName : String) : List LogicalAgentRow :=
  s.logicalAgents.rows.filter fun l => l.publicName = publicName ∧ l.archivedAtMs = none

/-- The opening of `name_conflict_message`; the listing of the asks and of the
    remedies that follows it is left out. -/
def Store.nameConflictMessage (s : Store) (publicName : String) : String :=
  let claimants := (s.claimants publicName).length
  let unresolved := (s.unresolvedUnderName publicName).length
  s!"public name {publicName} belongs to {claimants} logical agent(s); create-new under it " ++
    s!"would strand {unresolved} unresolved obligation(s)"

/-- The checks of `insert_adopt_binding` on its arguments alone. -/
def checkAdoptEvidence (intent : AdoptIntent) (evidence : AdoptEvidence) : StoreTx Unit := do
  require (evidence.paneId = intent.paneId ∧ evidence.terminalId = intent.expectedTerminalId)
    (.conflict "adopt evidence does not match the exact pane and terminal selector")
  require (evidence.launchPending = false)
    (.conflict "adopt requires a live agent that is not launch-pending")
  let requested := intent.publicName.getD ""
  require (∀ name ∈ intent.publicName, evidence.publicName = name)
    (.conflict (s!"live agent name {evidence.publicName} does not match requested " ++
      s!"{requested}; rename the live Herdr agent to {requested} first, then adopt it"))
  require (∀ kind ∈ intent.backendKind, evidence.backendKind = kind)
    (.conflict "live backend kind does not match the requested backend kind")
  require (evidence.backendKind ≠ "" ∧ evidence.publicName ≠ "")
    (.conflict "adopt requires an observed backend kind and public name")

/-- A Ready incarnation on one exact pane and terminal. -/
def IncarnationRow.ReadyOn (i : IncarnationRow) (paneId terminalId : String) : Prop :=
  i.state = .ready ∧ i.observedPaneId = some paneId ∧ i.observedTerminalId = some terminalId

instance (paneId terminalId : String) :
    DecidablePred fun i : IncarnationRow => i.ReadyOn paneId terminalId :=
  fun i => inferInstanceAs (Decidable (i.state = .ready ∧ i.observedPaneId = some paneId ∧
    i.observedTerminalId = some terminalId))

/-- A seat on which an incarnation is Ready is not adopted. -/
def refuseAdoptedSeat (paneId terminalId : String) : Query Unit := fun s =>
  match s.incarnations.rows.find? (·.ReadyOn paneId terminalId) with
  | some i => .error (.conflict
      s!"exact live binding is already adopted by ready incarnation {i.id}")
  | none => .ok ()

/-- A name that a Ready incarnation has is not adopted. -/
def refuseReadyAlias (publicName : String) : Query Unit := fun s =>
  match s.incarnations.rows.find? (fun i =>
      i.state = .ready ∧ s.publicName i.logicalAgentId = some publicName) with
  | some i => .error (.conflict
      s!"ready alias {publicName} is already bound to incarnation {i.id}")
  | none => .ok ()

/-- A create-new adopt under a name that a prior agent still holds unresolved
    obligations under would strand them. -/
def refuseForeignUnresolved (publicName : String) (continued : Option LogicalAgentId) :
    Query Unit := fun s =>
  if ∃ o ∈ s.unresolvedUnderName publicName,
      continued ≠ some o.waitingAgentId ∧ continued ≠ some o.owingAgentId then
    .error (.conflict (s.nameConflictMessage publicName))
  else .ok ()

/-- Record an adoption with the binding that was observed, once no other incarnation has the seat
    or the name. -/
def insertAdoptBinding (now : Millis) (intent : AdoptIntent) (evidence : AdoptEvidence)
    (incarnationState : IncarnationState) (operationOutcome : OperationOutcome)
    (resolved : Bool) : StoreTx DeclaredStart := do
  checkAdoptEvidence intent evidence
  query (refuseReusedNonPromptIdempotencyKey intent.idempotencyKey)
  query (refuseAdoptedSeat evidence.paneId evidence.terminalId)
  query (refuseReadyAlias evidence.publicName)
  query (refuseNameHeldBySocketWaiter evidence.publicName)
  query (refuseForeignUnresolved evidence.publicName intent.logicalAgentId)
  let logicalAgentId ←
    continueOrCreateAgent now intent.logicalAgentId evidence.publicName intent.parent
  let incarnationId ← insertIncarnation fun id =>
    { id, logicalAgentId, herdrSession := intent.herdrSession,
      intendedPaneId := evidence.paneId, expectedTerminalId := evidence.terminalId,
      observedPaneId := some evidence.paneId, observedTerminalId := some evidence.terminalId,
      backendKind := evidence.backendKind, backendArgs := intent.backendArgs,
      workingDirectory := evidence.workingDirectory, createdAtMs := now,
      state := incarnationState,
      observedNativeSession := evidence.nativeAgentSession,
      requestedModel := emptyToNone intent.requestedModel,
      requestedProvider := emptyToNone intent.requestedProvider,
      requestedEffort := emptyToNone intent.requestedEffort }
  let operationId ← insertOperation now intent.idempotencyKey .adopt incarnationId
    (.adopt intent evidence) operationOutcome idempotencyKeyExists
    (if resolved then some now else none)
  return { logicalAgentId, incarnationId, operationId }

/-- Adopt a named live agent: the incarnation is Ready at once. -/
def declareAdopt (now : Millis) (intent : AdoptIntent) (evidence : AdoptEvidence) :
    StoreTx DeclaredStart := do
  require (evidence.publicName ≠ "") (.conflict "adopt requires a live Herdr public name")
  insertAdoptBinding now intent evidence .ready .succeeded true

/-- Record an adoption that is pending until the agent is seen under its intended name. -/
def declareAdoptPending (now : Millis) (intent : AdoptIntent) (evidence : AdoptEvidence) :
    StoreTx DeclaredStart := do
  require (evidence.publicName ≠ "")
    (.conflict "pending adopt requires the intended Herdr public name")
  insertAdoptBinding now intent evidence .declared .pending false

-- ============================================================================
-- Readiness
-- ============================================================================

/-- The seat, name and backend that a declared incarnation must be observed with. -/
structure ExpectedBinding where
  paneId : String
  terminalId : String
  name : String
  kind : String
deriving DecidableEq, Repr

/-- `i.intended_pane_id, i.expected_terminal_id, l.public_name, i.backend_kind` of one
    incarnation in one of `states`. -/
def Store.expectedBinding (s : Store) (states : List IncarnationState)
    (incarnationId : IncarnationId) : Option ExpectedBinding := do
  let i ← s.incarnations.find incarnationId
  guard (i.state ∈ states)
  let name ← s.publicName i.logicalAgentId
  return { paneId := i.intendedPaneId, terminalId := i.expectedTerminalId, name,
           kind := i.backendKind }

/-- The observation names the expected pane, terminal, name and backend, and the
    runtime is past its launch. -/
def ExpectedBinding.ObservedBy (e : ExpectedBinding) (agent : AgentObservation) : Prop :=
  agent.paneId = e.paneId ∧ agent.terminalId = e.terminalId ∧ agent.name = some e.name ∧
    agent.agent = some e.kind ∧ agent.launchPending = false

instance (e : ExpectedBinding) : DecidablePred e.ObservedBy :=
  fun agent => inferInstanceAs (Decidable (agent.paneId = e.paneId ∧
    agent.terminalId = e.terminalId ∧ agent.name = some e.name ∧
    agent.agent = some e.kind ∧ agent.launchPending = false))

/-- The operation that a result may settle, on the incarnation it was recorded for. -/
def OperationRow.Owns (o : OperationRow) (operationId : OperationId)
    (incarnationId : IncarnationId) : Prop :=
  o.id = operationId ∧ o.targetIncarnationId = incarnationId

instance (operationId : OperationId) (incarnationId : IncarnationId) :
    DecidablePred fun o : OperationRow => o.Owns operationId incarnationId :=
  fun o => inferInstanceAs
    (Decidable (o.id = operationId ∧ o.targetIncarnationId = incarnationId))

/-- Complete a pending adoption on an observation of exactly its binding under the intended name.
    -/
def acceptAdoptReady (now : Millis) (operationId : OperationId)
    (incarnationId : IncarnationId) (agent : AgentObservation) : StoreTx Unit := do
  let expected ← reads (·.expectedBinding [.declared, .starting] incarnationId)
  let notProved := StoreError.conflict
    "Herdr observation does not prove the claimed adopt name is live"
  let exact ← orFail expected notProved
  require (exact.ObservedBy agent) notProved
  query (refuseNameHeldBySocketWaiter exact.name)
  let changed ← updateRows Tab.operations
    (fun o => o.Owns operationId incarnationId ∧ o.outcome.Live)
    (fun o => { o with outcome := .succeeded, resolvedAtMs := some now })
  require (changed = 1)
    (.conflict "stale adopt readiness observation cannot mutate this incarnation")
  let _ ← updateRows Tab.incarnations (fun i => i.id = incarnationId)
    (fun i => { i with
      state := .ready, observedPaneId := some agent.paneId,
      observedTerminalId := some agent.terminalId,
      observedNativeSession := agent.agentSession.or i.observedNativeSession })
  let _ ← updateLastAttempt operationId
    (fun a => { a with phase := .responseCommitted, resolvedAtMs := some now })

/-- Journal an external attempt before any Herdr request write. -/
def beginAttempt (now : Millis) (operationId : OperationId) (incarnationId : IncarnationId)
    (requestId : String) : StoreTx Nat := do
  let operations ← reads (·.operations)
  require (∃ o ∈ operations.find operationId, o.outcome = .pending ∧
      o.targetIncarnationId = incarnationId)
    (.conflict "operation no longer belongs to the exact pending incarnation")
  let last ← reads (·.lastAttempt operationId)
  insertRow Tab.operationAttempts
    { operationId, attemptNumber := last + 1, requestId, startedAtMs := now,
      phase := .prepared }
    (.sql .constraint)
  let _ ← updateRows Tab.incarnations
    (fun i => i.id = incarnationId ∧ i.state = .declared)
    (fun i => { i with state := .starting })
  return last + 1

/-- Record Herdr's acceptance of a start without claiming runtime readiness. -/
def acceptStartSubmission (operationId : OperationId) (incarnationId : IncarnationId)
    (paneId terminalId : String) : StoreTx Unit := do
  let incarnations ← reads (·.incarnations)
  require (∃ i ∈ incarnations.find incarnationId, i.state = .starting ∧
      i.intendedPaneId = paneId ∧ i.expectedTerminalId = terminalId)
    (.conflict "Herdr result does not name the exact intended incarnation binding")
  let changed ← updateRows Tab.operations
    (fun o => o.Owns operationId incarnationId ∧ o.outcome = .pending)
    (fun o => { o with outcome := .accepted })
  require (changed = 1)
    (.conflict "stale start acceptance cannot mutate this incarnation")
  let _ ← updateRows Tab.incarnations (fun i => i.id = incarnationId)
    (fun i => { i with
      observedPaneId := some paneId, observedTerminalId := some terminalId })
  let _ ← updateLastAttempt operationId (fun a => { a with phase := .accepted })

/-- Demote the predecessor of a handoff: it must still be Ready, and an
    incarnation of the successor's logical agent. -/
def demotePredecessor (now : Millis) (predecessor incarnationId : IncarnationId) :
    StoreTx Unit := do
  let incarnations ← reads (·.incarnations)
  let demoted ← updateRows Tab.incarnations
    (fun i => i.id = predecessor ∧ i.state = .ready ∧
      some i.logicalAgentId = (incarnations.find incarnationId).map (·.logicalAgentId))
    (fun i => { i with
      state := .superseded, terminalAtMs := some now,
      terminalReason := some "superseded by a handoff to a new incarnation" })
  require (demoted = 1)
    (.conflict "handoff predecessor is not a ready incarnation of the same logical agent")

/-- Resolve a start only from a later authoritative exact-ready observation. -/
def acceptStartReady (now : Millis) (operationId : OperationId)
    (incarnationId : IncarnationId) (agent : AgentObservation)
    (supersedes : Option IncarnationId) : StoreTx Unit := do
  let expected ← reads (·.expectedBinding [.starting] incarnationId)
  let notProved := StoreError.conflict
    "Herdr observation does not prove the exact intended incarnation is ready"
  let exact ← orFail expected notProved
  require (exact.ObservedBy agent ∧ agent.interactiveReady = true) notProved
  query (refuseNameHeldBySocketWaiter exact.name)
  let changed ← updateRows Tab.operations
    (fun o => o.Owns operationId incarnationId ∧ o.outcome.Live)
    (fun o => { o with outcome := .succeeded, resolvedAtMs := some now })
  require (changed = 1)
    (.conflict "stale readiness observation cannot mutate this incarnation")
  let _ ← updateRows Tab.incarnations (fun i => i.id = incarnationId)
    (fun i => { i with
      state := .ready, observedPaneId := some agent.paneId,
      observedTerminalId := some agent.terminalId,
      observedNativeSession := agent.agentSession })
  let _ ← updateLastAttempt operationId
    (fun a => { a with phase := .responseCommitted, resolvedAtMs := some now })
  match supersedes with
  | some predecessor => demotePredecessor now predecessor incarnationId
  | none => pure ()

-- ============================================================================
-- Renames
-- ============================================================================

/-- Record the intent to move a Ready binding to a new public name. -/
def declareRename (incarnationId : IncarnationId) (newName : String) : StoreTx Unit := do
  let s ← reads id
  let taken := s.incarnations.rows.find? fun i =>
    i.state = .ready ∧ s.publicName i.logicalAgentId = some newName ∧ i.id ≠ incarnationId
  let holder := (taken.map (·.id)).getD 0
  require (taken = none)
    (.conflict s!"ready alias {newName} is already bound to incarnation {holder}")
  query (refuseNameHeldBySocketWaiter newName)
  let changed ← updateRows Tab.incarnations
    (fun i => i.id = incarnationId ∧ i.state = .ready ∧ i.pendingRenameTo = none)
    (fun i => { i with pendingRenameTo := some newName })
  require (changed = 1)
    (.conflict "only a ready incarnation with no pending rename can be renamed")

/-- Commit a rename Herdr has confirmed. -/
def commitRename (incarnationId : IncarnationId) (newName : String) : StoreTx Unit := do
  let incarnations ← reads (·.incarnations)
  let owner := (incarnations.find incarnationId).filter fun i =>
    i.state = .ready ∧ i.pendingRenameTo = some newName
  let incarnation ← orFail owner
    (.conflict "no matching pending rename for this ready incarnation")
  query (refuseNameHeldBySocketWaiter newName)
  let _ ← updateRows Tab.logicalAgents (fun l => l.id = incarnation.logicalAgentId)
    (fun l => { l with publicName := newName })
  let _ ← updateRows Tab.incarnations (fun i => i.id = incarnationId)
    (fun i => { i with pendingRenameTo := none })

/-- Drop a pending rename Herdr refused, leaving the committed name in place. -/
def abandonRename (incarnationId : IncarnationId) : StoreTx Unit := do
  let _ ← updateRows Tab.incarnations (fun i => i.id = incarnationId)
    (fun i => { i with pendingRenameTo := none })

/-- Record a native session that a backend only created after binding. -/
def fillObservedNativeSession (incarnationId : IncarnationId) (paneId terminalId : String)
    (session : NativeSession) : StoreTx Bool := do
  let changed ← updateRows Tab.incarnations
    (fun i => i.id = incarnationId ∧ i.ReadyOn paneId terminalId ∧
      i.observedNativeSession = none)
    (fun i => { i with observedNativeSession := some session })
  return changed = 1

/-- Replace the recorded session: a renew makes the stored reference false. -/
def replaceObservedNativeSession (incarnationId : IncarnationId)
    (nativeSession : NativeSession) : StoreTx Unit := do
  let changed ← updateRows Tab.incarnations (fun i => i.id = incarnationId)
    (fun i => { i with observedNativeSession := some nativeSession })
  require (changed = 1) (.conflict "incarnation is absent")

-- ============================================================================
-- Retirement
-- ============================================================================

/-- Record durable retirement intent without causing a runtime effect. -/
def requestRetirement (now : Millis) (incarnationId : IncarnationId)
    (idempotencyKey : String) : StoreTx OperationId := do
  query (refuseReusedNonPromptIdempotencyKey idempotencyKey)
  let changed ← updateRows Tab.incarnations
    (fun i => i.id = incarnationId ∧ i.state = .ready)
    (fun i => { i with state := .retiring })
  require (changed = 1)
    (.conflict "only an exact ready incarnation can enter retirement")
  insertOperation now idempotencyKey .retire incarnationId (.retire incarnationId)
    .accepted idempotencyKeyExists

end Kelpie
