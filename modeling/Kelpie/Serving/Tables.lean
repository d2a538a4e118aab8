/-
  Kelpie.Serving.Tables

  The tables of the daemon in which a client's request waits, one for each kind of
  work, and what the coordinator hands the daemon to park.

  A connection serves one request.  An entry keeps the connection that its answer
  goes to, or none when the daemon works for itself.
-/

import Mathlib.Data.Fintype.Basic
import Kelpie.Slice.Prompts

namespace Kelpie

-- ============================================================================
-- Requests and responses
-- ============================================================================

/-- One client connection. -/
abbrev StreamId := Nat

/-- `serde_json::Value`; a number is kept as its text. -/
inductive Value where
  | null
  | bool (b : Bool)
  | number (text : String)
  | string (text : String)
  | array (items : List Value)
  | object (members : List (String × Value))
deriving Inhabited

/-- A number as JSON writes it. -/
def Value.nat (n : Nat) : Value := .number (toString n)

/-- One local client request. -/
structure ClientRequest where
  id : String
  method : String
  params : Value

/-- What a request may fail with: the store's and Herdr's failures, those that only a
    launch or a clear has, and a line that is no request. -/
inductive RequestError where
  | store (error : StoreError)
  | herdr (error : HerdrError)
  | liveConflict (message : String)
  | paneOccupied (paneId terminalId : String) (backendKind publicName : Option String)
  | unknownOutcome (operationId : String) (source : HerdrError)
  | unsupportedBackend (backendKind : String)
  | clearRotationTimeout (backendKind : String)
  | clearUnproven (operationId : String)
  | invalidRequest (message : String)
deriving DecidableEq, Inhabited

/-- One local client response correlated by request ID. -/
structure ClientResponse where
  id : String
  result : Option Value := none
  error : Option RequestError := none

/-- One correlated response. -/
def respond (requestId : String) : Except RequestError Value → ClientResponse
  | .ok result => { id := requestId, result := some result }
  | .error error => { id := requestId, error := some error }

/-- A request as a client knows it: the connection it was sent on, and its id. -/
structure RequestTicket where
  stream : StreamId
  requestId : String
deriving DecidableEq, Repr

-- ============================================================================
-- Parked work
-- ============================================================================

/-- How far a launch has come. -/
inductive StartPhase where
  | snapshot
  | opening (busyDeadline : Millis) (attemptIndex : Nat)
  | sending (busyDeadline : Millis) (attemptIndex : Nat)
  | busy (busyDeadline notBefore : Millis)
  | ready
  /-- The initial message is durable but not yet typed. -/
  | settling (prepared : PreparedPrompt) (messageId : MessageId) (untilMs : Millis)
  | initial (prepared : PreparedPrompt) (messageId : MessageId)

/-- A parked launch. -/
structure AwaitingStart where
  requestId : String
  intent : StartIntent
  declared : Option DeclaredStart := none
  deadline : Millis
  stream : StreamId
  phase : StartPhase := .snapshot
  herdrJob : Option JobId := none
  lease : Option JobId := none
  intentCommitted : Bool := false
  attemptIndex : Nat := 1
  busyDeadline : Millis

/-- For whom a prompt is sent: its client, the daemon itself, or a cancellation or retirement that
    counts it. -/
inductive PromptOwner where
  | client
  | internal
  | cancel (session : Nat) (waiting : Bool)
  | waiterRetire (session : Nat) (ask : MessageId)
deriving DecidableEq

/-- A reminder prompt ready to write after a Herdr connection exists. -/
structure PreparedReminder where
  askMessageId : MessageId
  requestId : String

/-- A prompt whose Herdr write is running off-thread. -/
structure AwaitingPrompt where
  requestId : String
  stream : Option StreamId
  prepared : PreparedPrompt
  resultJson : Value
  lease : Option JobId := none
  intentCommitted : Bool := false
  owner : PromptOwner
  reminder : Option PreparedReminder := none

/-- What became of the two notices of a cancellation. -/
structure CancelOutcome where
  delivered : Bool
  messageId : Option MessageId
  owingDelivered : Bool
  owingMessageId : Option MessageId

/-- A parked cancellation, and how many of its notices are still under way. -/
structure AwaitingCancel where
  requestId : String
  stream : StreamId
  outcome : CancelOutcome
  remaining : Nat

/-- The notice to the owing agent of one ask. -/
structure WaiterRetireOwingNotice where
  askMessageId : MessageId
  messageId : MessageId
  delivered : Bool

/-- The asks that ended with a waiter, and the notices about them. -/
structure WaiterRetireOutcome where
  cancelledAskIds : List MessageId
  owingNotices : List WaiterRetireOwingNotice

/-- A parked retirement of a waiter, and how many of its notices are still under way. -/
structure AwaitingWaiterRetire where
  requestId : String
  stream : StreamId
  logicalAgentId : LogicalAgentId
  outcome : WaiterRetireOutcome
  remaining : Nat

/-- A clear whose recipient is known. -/
structure ResolvedClear where
  recipient : LogicalAgentId
  recipientIncarnation : IncarnationId
  idempotencyKey : String

/-- What the client of a clear is told. -/
structure ClearResult where
  operationId : OperationId
  recipient : LogicalAgentId
  recipientIncarnation : IncarnationId
  outcome : OperationOutcome

/-- An accepted on-clear command whose session rotation is still unobserved. -/
structure AwaitingClear where
  operationId : OperationId
  recipientIncarnation : IncarnationId
  paneId : String
  backendKind : String
  deadline : Millis

/-- How far a clear has come. -/
inductive AwaitingClearState where
  | settling (clear : ResolvedClear) (notBeforeMs : Millis)
  | probe (clear : ResolvedClear) (paneId : String)
  | sending (clear : ResolvedClear) (paneId : String) (operationId : OperationId)
  | rotation (awaiting : AwaitingClear)

/-- A parked clear. -/
structure AwaitingClearRequest where
  requestId : String
  state : AwaitingClearState
  stream : StreamId
  herdrJob : Option JobId := none
  lease : Option JobId := none

/-- Bounded long-poll for one ask-pull log. -/
structure AwaitingReplies where
  requestId : String
  stream : StreamId
  deadline : Millis

/-- Unnamed occupant whose Ready commit waits on a confirmed rename. -/
structure AdoptRename where
  declared : DeclaredStart
  paneId : String

/-- To which request an adoption answers. -/
inductive AdoptReply where
  | rpc
  | whoami
  | who (refresh : Bool)

/-- How far an adoption has come. -/
inductive AdoptParkState where
  | snapshot (intent : AdoptIntent)
  | renaming (work : AdoptRename) (requestId : String)
  | confirm (work : AdoptRename)

/-- A parked adoption. -/
structure AwaitingAdopt where
  requestId : String
  stream : StreamId
  reply : AdoptReply
  resume : Option ClientRequest := none
  state : AdoptParkState
  herdrJob : Option JobId := none
  lease : Option JobId := none

/-- What a snapshot is read for. -/
inductive ClientReadKind where
  | recover (namesReprojected : Nat)
  | report (active : Bool)
  | whoami (paneId lazyKey : String)
  | ofAlias (name lazyKey : String) (resume : ClientRequest)
  | attribution (incarnationId : IncarnationId)
  | whoAttribution (incarnationId : IncarnationId)
  | whoPane (paneId lazyKey : String) (refresh : Bool)

/-- A request that waits for a snapshot. -/
structure AwaitingRead where
  requestId : String
  stream : StreamId
  kind : ClientReadKind

/-- A rename that was checked before its snapshot. -/
structure RenamePreflight where
  paneId : String

/-- Live rename whose commit waits on a confirming snapshot. -/
structure RenameWork where
  paneId : String
  requestId : String

/-- How far a rename has come. -/
inductive RenameParkState where
  | snapshot (preflight : RenamePreflight)
  | opening (preflight : RenamePreflight)
  | projectionOpening (work : RenameWork)
  | sending (work : RenameWork)
  | confirm (work : RenameWork)

/-- To whom a rename answers. -/
inductive RenameReply where
  | rpc
  | recover (namesReprojected : Nat) (snapshot : Snapshot)

/-- A parked rename. -/
structure AwaitingRename where
  requestId : String
  stream : StreamId
  reply : RenameReply
  state : RenameParkState
  herdrJob : Option JobId := none
  lease : Option JobId := none

/-- A retirement that was recorded before its snapshot. -/
structure RetirePreflight where
  operationId : OperationId

/-- Close whose retirement commit waits on a confirming snapshot. -/
structure RetireCloseWork where
  operation : OperationId
  pane : String

/-- How far a retirement has come. -/
inductive RetireParkState where
  | snapshot (preflight : RetirePreflight)
  | closing (work : RetireCloseWork)
  | confirm (work : RetireCloseWork)

/-- A parked retirement whose pane is to be closed. -/
structure AwaitingRetireClose where
  requestId : String
  stream : StreamId
  state : RetireParkState
  herdrJob : Option JobId := none
  lease : Option JobId := none

-- ============================================================================
-- Tables
-- ============================================================================

/-- The tables of parked requests. -/
inductive Awaiting where
  | starts
  | clears
  | replies
  | prompts
  | cancels
  | waiterRetires
  | reads
  | adopts
  | renames
  | retires
deriving DecidableEq, Repr

instance : Fintype Awaiting where
  elems := {.starts, .clears, .replies, .prompts, .cancels, .waiterRetires, .reads, .adopts,
    .renames, .retires}
  complete t := by cases t <;> decide

/-- The entries of a table; where the source keeps a map, an entry has its key. -/
abbrev Awaiting.Entry : Awaiting → Type
  | .starts => AwaitingStart
  | .clears => AwaitingClearRequest
  | .replies => AwaitingReplies
  | .prompts => JobId × AwaitingPrompt
  | .cancels => Nat × AwaitingCancel
  | .waiterRetires => Nat × AwaitingWaiterRetire
  | .reads => JobId × AwaitingRead
  | .adopts => AwaitingAdopt
  | .renames => AwaitingRename
  | .retires => AwaitingRetireClose

/-- The part of the daemon that a job was submitted for. -/
inductive HerdrOwner where
  | prompt
  | start
  | reminderSnapshot
  | clear
  | clientRead
  | renew
  | adopt
  | rename
  | retire
  | bootRecover
  | obligationSweep
deriving DecidableEq, Repr

/-- How far the executor is with a job whose outcome it still owes. -/
inductive JobStage where
  /-- One request to Herdr is under way. -/
  | calling
  /-- A connection is being opened. -/
  | opening
  /-- A command was sent on the connection. -/
  | sent
deriving DecidableEq, Repr

theorem JobStage.opening_ne_calling : opening ≠ calling := by decide

theorem JobStage.sent_ne_calling : sent ≠ calling := by decide

/-- What the daemon keeps of its clients, with what its executor owes it. -/
structure Daemon where
  awaiting : (t : Awaiting) → List t.Entry := fun _ => []
  herdrOwners : JobId → Option HerdrOwner := fun _ => none
  nextHerdrJob : JobId := 1
  nextCancelSession : Nat := 1
  nextWaiterRetireSession : Nat := 1
  herdrExec : JobId → Option JobStage := fun _ => none
  /-- The responses written so far, each with its connection. -/
  responses : List (StreamId × ClientResponse) := []
  /-- The clears whose observation has ended in an error; no function reads it. -/
  failed : List RequestTicket := []

end Kelpie
