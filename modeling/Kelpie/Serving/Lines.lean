/-
  Kelpie.Serving.Lines

  How the daemon serves a request line: it answers, it parks the request, or it gives
  the connection up.

  A line of five methods is given up when its params do not parse, where the other
  methods answer with the error.  How serde reads params is a parameter.
-/

import Kelpie.Lib.Runs
import Kelpie.Serving.Events

namespace Kelpie

open Lib

-- ============================================================================
-- Params
-- ============================================================================

/-- The parameters of `report`. -/
structure ReportParams where
  live : Bool := false
  active : Bool := false

/-- The parameters of `rename`. -/
structure RenameParams where
  agentId : Option LogicalAgentId := none
  byAlias : Option String := none
  name : String

/-- The parameters of `retire`. -/
structure RetireParams where
  incarnationId : IncarnationId
  idempotencyKey : String
  closePane : Bool := false

/-- The parameters of `waiter.retire`. -/
structure WaiterRetireParams where
  logicalAgentId : Option LogicalAgentId := none
  byAlias : Option String := none

/-- The derived deserializers of the params that are read where a line is served. -/
structure ParamReaders where
  report : Value → Except String ReportParams
  adopt : Value → Except String AdoptIntent
  rename : Value → Except String RenameParams
  retire : Value → Except String RetireParams
  waiterRetire : Value → Except String WaiterRetireParams

/-- The params of the request parse, if its method is one of those. -/
def ParamReaders.Reads (readers : ParamReaders) (request : ClientRequest) : Prop :=
  (request.method = "report" → (readers.report request.params).isOk) ∧
    (request.method = "adopt" → (readers.adopt request.params).isOk) ∧
    (request.method = "rename" → (readers.rename request.params).isOk) ∧
    (request.method = "retire" → (readers.retire request.params).isOk) ∧
    (request.method = "waiter.retire" → (readers.waiterRetire request.params).isOk)

instance (readers : ParamReaders) (request : ClientRequest) :
    Decidable (readers.Reads request) := by
  unfold ParamReaders.Reads
  infer_instance

-- ============================================================================
-- Serving
-- ============================================================================

/-- The replies to an ask, or how long to wait for one. -/
inductive RepliesDispatch where
  | ready (result : Value)
  | wait (deadline : Millis)

/-- What a `who` reads from Herdr first. -/
inductive WhoRead where
  | pane (paneId lazyKey : String) (refresh : Bool)
  | attribution (incarnationId : IncarnationId)

/-- The read that a `who` waits for. -/
def WhoRead.kind : WhoRead → ClientReadKind
  | .pane paneId lazyKey refresh => .whoPane paneId lazyKey refresh
  | .attribution incarnationId => .whoAttribution incarnationId

/-- What the operations return to the serving of one line. -/
structure LineCalls extends KelpieCalls where
  prepareStart : Except RequestError (StartIntent × Millis)
  repliesDispatch : Except RequestError RepliesDispatch
  claimInbox : Except RequestError LogicalAgentId
  /-- The alias to bind first, with the key of its lazy adoption. -/
  pendingAliasBind : Option (String × String)
  prepareAttributionRead : Except RequestError (Option IncarnationId)
  dispatchAttribution : Except RequestError Value
  prepareWhoRead : Except RequestError (Option WhoRead)
  dispatchWho : Except RequestError Value
  dispatchReport : Except RequestError Value
  prepareWhoamiRead : Except RequestError (Option (String × String))
  dispatchWhoami : Except RequestError Value
  resolveReadyAlias : Except RequestError LogicalAgentId
  prepareRename : Except RequestError RenamePreflight
  prepareRetireClose : Except RequestError RetirePreflight
  resolveWaiterRetireTarget : Except RequestError LogicalAgentId
  prepareRetireWaiter :
    Except RequestError (List MessageId × List PreparedWaiterRetireNotice)
  prepareCancel : Except RequestError (CancelOutcome × List PreparedCancellation)
  /-- The result of the method that the request names. -/
  method : Except RequestError Value
deriving Inhabited

/-- What serving one connection produced. -/
inductive Served where
  | answered
  | awaitingStart (awaiting : AwaitingStart)
  | awaitingClear (awaiting : AwaitingClearRequest)
  | inbox (waiter : LogicalAgentId) (stream : StreamId)
  | awaitingReplies (wait : AwaitingReplies)
  | awaitingPrompt (awaiting : AwaitingPrompt)
  | awaitingCancel (requestId : String) (stream : StreamId) (outcome : CancelOutcome)
      (prompts : List PreparedCancellation)
  | awaitingWaiterRetire (requestId : String) (stream : StreamId)
      (logicalAgentId : LogicalAgentId) (cancelledAskIds : List MessageId)
      (notices : List PreparedWaiterRetireNotice)
  | awaitingRead (read : AwaitingRead)
  | awaitingAdopt (adopt : AwaitingAdopt)
  | awaitingRename (rename : AwaitingRename)
  | awaitingRetire (retire : AwaitingRetireClose)

/-- The methods that `dispatch` knows. -/
def dispatchMethods : List String := [
  "whoami", "who", "recover", "start", "handoff", "adopt", "ask", "replies.claim", "replies",
  "replies.ack", "waiter.register", "waiter.retire", "tell", "renew", "renew.cancel",
  "schedule.cancel", "schedule.list", "reply", "pending", "name.info", "ask.info", "attribution",
  "report", "rename", "cancel", "reminder.snooze", "reminder.interval", "reminder.disable",
  "notice.create", "notice.list", "retire"]

namespace Daemon

variable (readers : ParamReaders) (k : LineCalls)

/-- The request is answered at once. -/
def answerNow (stream : StreamId) (requestId : String) (result : Except RequestError Value)
    (d : Daemon) : Except String Served × Daemon :=
  (.ok .answered, d.answer stream requestId result)

/-- A request that is answered at once, by its method. -/
def dispatch (request : ClientRequest) : Except RequestError Value :=
  if request.method ∈ dispatchMethods then k.method
  else .error (.store (.invalidRecord s!"unknown client method {request.method}"))

/-- Look at Herdr first when the request names an alias that is not bound. -/
def aliasRead (request : ClientRequest) (stream : StreamId) (name lazyKey : String) :
    AwaitingRead where
  requestId := request.id
  stream := stream
  kind := .ofAlias name lazyKey request

/-- Serve `start`: park the launch until its deadline. -/
def serveStart (request : ClientRequest) (stream : StreamId) (d : Daemon) :
    Except String Served × Daemon :=
  match k.prepareStart with
  | .ok (intent, readinessTimeoutMs) =>
    let deadline := k.nowMs + readinessTimeoutMs
    (.ok (.awaitingStart
      { requestId := request.id, intent, deadline, stream, busyDeadline := deadline }), d)
  | .error error => d.answerNow stream request.id (.error error)

/-- Serve `replies`: answer with what is there, or wait. -/
def beginReplies (request : ClientRequest) (stream : StreamId) (d : Daemon) :
    Except String Served × Daemon :=
  match k.repliesDispatch with
  | .ok (.ready result) => d.answerNow stream request.id (.ok result)
  | .ok (.wait deadline) =>
    (.ok (.awaitingReplies { requestId := request.id, stream, deadline }), d)
  | .error error => d.answerNow stream request.id (.error error)

/-- Serve `inbox.claim`: the connection becomes the session of the waiter. -/
def serveInboxClaim (request : ClientRequest) (stream : StreamId) (d : Daemon) :
    Except String Served × Daemon :=
  match k.claimInbox with
  | .ok waiterId =>
    (.ok (.inbox waiterId stream), d.answer stream request.id (.ok (.object [
      ("logical_agent_id", .nat waiterId),
      ("claimed", .bool true),
      ("delivery_transport", .string "socket_inbox")])))
  | .error error => d.answerNow stream request.id (.error error)

/-- Serve a prompt: bind the name it is addressed to first, then record it, and park it until it
    is sent. -/
def servePrompt (request : ClientRequest) (stream : StreamId) (d : Daemon) :
    Except String Served × Daemon :=
  match k.pendingAliasBind with
  | some (name, lazyKey) => (.ok (.awaitingRead (aliasRead request stream name lazyKey)), d)
  | none =>
    match k.prepareClientPrompt with
    | .ok (resultJson, none) => d.answerNow stream request.id (.ok resultJson)
    | .ok (resultJson, some prepared) =>
      (.ok (.awaitingPrompt {
        requestId := request.id
        stream := some stream
        prepared := prepared
        resultJson := resultJson
        owner := .client }), d)
    | .error error => d.answerNow stream request.id (.error error)

/-- Serve `clear`: bind the name it is addressed to first, then begin it, and park it unless it is
    over at once. -/
def serveClear (request : ClientRequest) (stream : StreamId) (d : Daemon) :
    Except String Served × Daemon :=
  match k.pendingAliasBind with
  | some (name, lazyKey) => (.ok (.awaitingRead (aliasRead request stream name lazyKey)), d)
  | none =>
    match beginClear k.toKelpieCalls with
    | .ok (.complete cleared) => d.answerNow stream request.id (.ok (clearResult cleared))
    | .ok (.awaiting state) =>
      (.ok (.awaitingClear { requestId := request.id, state, stream }), d)
    | .error error => d.answerNow stream request.id (.error error)

/-- Park a read where one is needed first, or answer. -/
def serveRead (request : ClientRequest) (stream : StreamId)
    (prepared : Except RequestError (Option ClientReadKind)) (result : Except RequestError Value)
    (d : Daemon) : Except String Served × Daemon :=
  match prepared with
  | .ok (some kind) => (.ok (.awaitingRead { requestId := request.id, stream, kind }), d)
  | .ok none => d.answerNow stream request.id result
  | .error error => d.answerNow stream request.id (.error error)

/-- Serve `report`, from a snapshot if it is to be live. -/
def serveReport (request : ClientRequest) (stream : StreamId) (d : Daemon) :
    Except String Served × Daemon :=
  match readers.report request.params with
  | .error error => (.error error, d)
  | .ok params =>
    if params.live then
      (.ok (.awaitingRead { requestId := request.id, stream, kind := .report params.active }), d)
    else d.answerNow stream request.id k.dispatchReport

/-- Serve `adopt`: park it until a snapshot shows the pane. -/
def serveAdopt (request : ClientRequest) (stream : StreamId) (d : Daemon) :
    Except String Served × Daemon :=
  match readers.adopt request.params with
  | .error error => (.error error, d)
  | .ok intent =>
    (.ok (.awaitingAdopt
      { requestId := request.id, stream, reply := .rpc, state := .snapshot intent }), d)

/-- Serve `rename`: park it until a snapshot shows the agent. -/
def serveRename (request : ClientRequest) (stream : StreamId) (d : Daemon) :
    Except String Served × Daemon :=
  match readers.rename request.params with
  | .error error => (.error error, d)
  | .ok params =>
    let agentId : Except RequestError LogicalAgentId := match params.agentId, params.byAlias with
      | some agentId, none => .ok agentId
      | none, some _ => k.resolveReadyAlias
      | _, _ => .error (.store (.invalidRecord "provide exactly one of agent_id or alias"))
    match agentId.bind fun _ => k.prepareRename with
    | .ok preflight =>
      (.ok (.awaitingRename
        { requestId := request.id, stream, reply := .rpc, state := .snapshot preflight }), d)
    | .error error => d.answerNow stream request.id (.error error)

/-- Serve `retire`, which is parked only if the pane is to be closed. -/
def serveRetire (request : ClientRequest) (stream : StreamId) (d : Daemon) :
    Except String Served × Daemon :=
  match readers.retire request.params with
  | .error error => (.error error, d)
  | .ok params =>
    if ¬ params.closePane then d.answerNow stream request.id (dispatch k request)
    else
      match k.prepareRetireClose with
      | .ok preflight =>
        (.ok (.awaitingRetire { requestId := request.id, stream, state := .snapshot preflight }), d)
      | .error error => d.answerNow stream request.id (.error error)

/-- Serve `waiter.retire`: park it as long as notices are to be sent. -/
def serveWaiterRetire (request : ClientRequest) (stream : StreamId) (d : Daemon) :
    Except String Served × Daemon :=
  match readers.waiterRetire request.params with
  | .error error => (.error error, d)
  | .ok _ =>
    match k.resolveWaiterRetireTarget with
    | .error error => d.answerNow stream request.id (.error error)
    | .ok logicalAgentId =>
      match k.prepareRetireWaiter with
      | .ok (cancelledAskIds, notices) =>
        (.ok (.awaitingWaiterRetire request.id stream logicalAgentId cancelledAskIds notices), d)
      | .error error => d.answerNow stream request.id (.error error)

/-- Serve `cancel`: park it as long as notices are to be sent. -/
def serveCancel (request : ClientRequest) (stream : StreamId) (d : Daemon) :
    Except String Served × Daemon :=
  match k.prepareCancel with
  | .ok (outcome, []) => d.answerNow stream request.id (.ok (cancelResult outcome))
  | .ok (outcome, prompts) => (.ok (.awaitingCancel request.id stream outcome prompts), d)
  | .error error => d.answerNow stream request.id (.error error)

/-- Serve a line that parses as a request; one that does not is answered without an id. -/
def serveParsedLine (stream : StreamId) (line : Except String ClientRequest) (d : Daemon) :
    Except String Served × Daemon :=
  match line with
  | .error message => d.answerNow stream "" (.error (.invalidRequest message))
  | .ok request =>
    match request.method with
    | "start" | "handoff" => d.serveStart k request stream
    | "replies" => d.beginReplies k request stream
    | "inbox.claim" => d.serveInboxClaim k request stream
    | "ask" | "tell" | "reply" => d.servePrompt k request stream
    | "clear" => d.serveClear k request stream
    | "recover" =>
      (.ok (.awaitingRead { requestId := request.id, stream, kind := .recover 0 }), d)
    | "attribution" =>
      d.serveRead request stream (k.prepareAttributionRead.map (·.map .attribution))
        k.dispatchAttribution
    | "who" => d.serveRead request stream (k.prepareWhoRead.map (·.map WhoRead.kind)) k.dispatchWho
    | "report" => d.serveReport readers k request stream
    | "whoami" =>
      d.serveRead request stream
        (k.prepareWhoamiRead.map (·.map fun pane => .whoami pane.1 pane.2)) k.dispatchWhoami
    | "adopt" => d.serveAdopt readers request stream
    | "rename" => d.serveRename readers k request stream
    | "retire" => d.serveRetire readers k request stream
    | "waiter.retire" => d.serveWaiterRetire readers k request stream
    | "cancel" => d.serveCancel k request stream
    | _ => d.answerNow stream request.id (dispatch k request)

/-- Park what serving a line left to do. -/
def parkServed (served : Served) (d : Daemon) : Daemon :=
  match served with
  | .answered | .inbox _ _ => d
  | .awaitingStart awaiting => d.parkStart awaiting
  | .awaitingClear awaiting => d.push .clears awaiting
  | .awaitingReplies wait => d.push .replies wait
  | .awaitingPrompt awaiting => d.parkPrompt awaiting
  | .awaitingCancel requestId stream outcome prompts =>
    d.parkCancel requestId stream outcome prompts
  | .awaitingWaiterRetire requestId stream logicalAgentId cancelledAskIds notices =>
    d.parkWaiterRetire requestId stream logicalAgentId cancelledAskIds notices
  | .awaitingRead read => d.parkRead read
  | .awaitingAdopt adopt => d.parkAdopt adopt
  | .awaitingRename rename => d.parkRename rename
  | .awaitingRetire retire => d.parkRetire retire

/-- Serve a line.  Where serving it fails, the connection is dropped. -/
def dispatchLine (stream : StreamId) (line : Except String ClientRequest) (d : Daemon) : Daemon :=
  match d.serveParsedLine readers k stream line with
  | (.ok served, d) => d.parkServed served
  | (.error _, d) => d

end Daemon

end Kelpie
