/-
  Kelpie.Cli.Commands

  The typed commands of the client, and how each is parsed from the arguments
  behind its name.
-/

import Kelpie.Cli.Tokens
import Kelpie.Cli.Calendar
import Kelpie.Domain

namespace Kelpie

open Lib

-- ============================================================================
-- Commands
-- ============================================================================

/-- Caller identity supplied on the command line. -/
inductive Caller where
  | alias (name : String)
  | id (id : String)
  | pane (pane : String)
deriving DecidableEq

/-- Which identity an attribution lookup names. -/
inductive AttributionTarget where
  | incarnation (id : String)
  | agent (id : String)
  | alias (name : String)
  | pane (pane : String)
deriving DecidableEq

/-- One logical agent selected by durable id or current public name. -/
inductive AgentTarget where
  | id (id : String)
  | alias (name : String)
deriving DecidableEq

/-- An agent and its incarnation, by their numbers. -/
structure ExactRecipient where
  recipient : String
  incarnation : String
deriving DecidableEq

/-- One allowed recipient addressing form. -/
inductive Recipient where
  | alias (name : String)
  | exact (ids : ExactRecipient)
  | agent (id : String)
deriving DecidableEq

/-- Where a message body is read from. -/
inductive BodySource where
  | stdin
  | file (path : String)
  | literal (text : String)
deriving DecidableEq

/-- One requested delivery time, before the client consults a clock. -/
inductive Due where
  | atMs (ms : Int)
  | inMs (ms : Int)
deriving DecidableEq

/-- Under whom a launched agent is recorded. -/
inductive StartParent where
  | parentless
  | agent (id : String)
deriving DecidableEq

/-- Everything one renew needs: two prompts, a disposition, and a schedule. -/
structure RenewArgs where
  recipient : Option ExactRecipient
  requester : Option Caller
  preparePrompt : BodySource
  prompt : BodySource
  onTimeout : RenewTimeout
  prepareTimeoutMs : Int
  everyMs : Option Int
  due : Option Due
  idempotencyKey : Option String
deriving DecidableEq

/-- Parsed typed start. -/
structure StartCommand where
  publicName : String
  logicalAgentId : Option String
  parent : StartParent
  herdrSession : String
  paneId : String
  terminalId : String
  backendKind : String
  backendArgs : List String
  initialKind : InitialMessageKind
  initialSender : Option String
  body : BodySource
  workingDirectory : String
  idempotencyKey : Option String
  readinessTimeoutMs : Nat
  keepOpen : Bool
  requestedModel : Option String
  requestedProvider : Option String
  requestedEffort : Option String
  supersedes : Option String
  replyDelivery : Option ReplyDelivery
deriving DecidableEq

/-- Everything `adopt` needs. -/
structure AdoptArgs where
  paneId : String
  terminalId : String
  publicName : Option String
  backendKind : Option String
  logicalAgentId : Option String
  herdrSession : String
  backendArgs : List String
  requestedModel : Option String
  requestedProvider : Option String
  requestedEffort : Option String
  idempotencyKey : Option String
deriving DecidableEq

/-- One typed client command. -/
inductive Command where
  | tell (recipient : Recipient) (body : BodySource) (sender : Option Caller)
    (idempotencyKey : Option String) (due : Option Due) (everyMs : Option Int)
  | ask (recipient : Recipient) (body : BodySource) (sender : Option Caller)
    (idempotencyKey : Option String) (due : Option Due) (remindAfterMs : Option Int)
    (noRemind fromOperator : Bool) (replyDelivery : Option ReplyDelivery)
  | reply (replyTo : String) (requester : Option Caller) (body : BodySource)
    (disposition : ReplyDisposition) (idempotencyKey : Option String)
  | clear (recipient : Recipient) (idempotencyKey : Option String)
  | renew (args : RenewArgs)
  | pending (target : Option Caller)
  | recover
  | whoami (target : Option Caller)
  | who (target : Option AttributionTarget) (adoptCaller history resolve refresh : Bool)
  | attribution (target : AttributionTarget) (refresh : Bool)
  | report (live active : Bool)
  | nameInfo (name : String)
  | askInfo (askId : String)
  | rename (target : Option Caller) (name : String)
  | adopt (args : AdoptArgs)
  | notice (body : BodySource)
  | notices
  | cancel (askId reason : String) (requester : Option Caller)
  | renewCancel (renewId reason : String) (requester : Option Caller)
  | scheduleCancel (scheduleId reason : String) (requester : Option Caller)
  | schedules (target : Option Caller)
  | reminderSnooze (askId : String) (untilMs forMs : Option Int) (requester : Option Caller)
  | reminderInterval (askId : String) (everyMs : Int) (requester : Option Caller)
  | reminderDisable (askId : String) (requester : Option Caller)
  | retire (incarnationId : String) (idempotencyKey : Option String) (closePane : Bool)
  | start (command : StartCommand)
  | waiterRegister (publicName : String) (parent : StartParent) (idempotencyKey : Option String)
  | waiterRetire (target : AgentTarget)
  | repliesClaim (askId : String) (requester : Option Caller)
  | replies (askId after : String) (leaseId : Option String) (timeoutMs : Option Int)
    (requester : Option Caller)
  | repliesAck (askId messageId leaseId : String) (requester : Option Caller)
deriving DecidableEq

-- ============================================================================
-- Numbers
-- ============================================================================

/-- The number that the digits write, if they are digits and there are any. -/
def digitsValue (digits : List Char) : Option Nat :=
  if digits = [] ∨ ¬ digits.all Char.isDigit then none else some (Nat.ofDigitChars 10 digits 0)

/-- `parse::<i64>` -/
def parseI64 (text : String) : Option Int :=
  match text.toList with
  | '-' :: digits => (digitsValue digits).bind fun n => checkedI64 (-n)
  | '+' :: digits => (digitsValue digits).bind fun n => checkedI64 n
  | digits => (digitsValue digits).bind fun n => checkedI64 n

/-- `parse::<u64>` -/
def parseU64 (text : String) : Option Nat :=
  match text.toList with
  | '+' :: digits => (digitsValue digits).filter (· < 2 ^ 64)
  | digits => (digitsValue digits).filter (· < 2 ^ 64)

/-- The milliseconds of one unit. -/
def unitMs : List Char → Option Int
  | ['s'] => some 1000
  | ['m'] => some (60 * 1000)
  | ['h'] => some (60 * 60 * 1000)
  | ['d'] => some (24 * 60 * 60 * 1000)
  | _ => none

/-- A number and a unit, in milliseconds. -/
def parseDurationFor (flag value : String) : Except String Int :=
  let digits := value.toList.takeWhile Char.isDigit
  let unit := value.toList.dropWhile Char.isDigit
  if unit = [] ∨ digits = [] then .error s!"{flag} must look like 10m, 2h, 30s, or 1d"
  else match unitMs unit with
  | none => .error s!"{flag} unit must be s, m, h, or d"
  | some multiplier =>
    match checkedI64 (Nat.ofDigitChars 10 digits 0) with
    | none => .error s!"{flag} overflowed"
    | some amount =>
      if amount ≤ 0 then .error s!"{flag} must be a positive duration"
      else match checkedI64 (amount * multiplier) with
      | some ms => .ok ms
      | none => .error s!"{flag} overflowed"

/-- The value of `--due-in`, in milliseconds. -/
def parseDurationMs (value : String) : Except String Int := parseDurationFor "--due-in" value

/-- An integer from `least` on, or the error. -/
def integerFrom (least : Int) (error value : String) : Except String Int :=
  match parseI64 value with
  | some n => if n < least then .error error else .ok n
  | none => .error error

/-- Refuse the arguments if the condition holds. -/
def refuse (c : Prop) [Decidable c] (error : String) : Except String Unit :=
  if c then .error error else .ok ()

-- ============================================================================
-- Takes of a command
-- ============================================================================

/-- The caller, by one of the flags that name it. -/
def takeCaller : Take (Option Caller) := do
  let sender ← takeValue "--sender"
  let senderId ← takeValue "--sender-id"
  let pane ← takeValue "--pane"
  match sender, senderId, pane with
  | none, none, none => return none
  | some name, none, none => return some (.alias name)
  | none, some id, none => return some (.id id)
  | none, none, some pane => return some (.pane pane)
  | _, _, _ => Prog.fail "use only one of --sender, --sender-id, or --pane"

/-- One agent, by its name or by one of the flags that name a caller. -/
def takeSingleTarget (command : String) : Take (Option Caller) := do
  let caller ← takeCaller
  let positional ← takePositional
  match positional, caller with
  | none, none => return none
  | some name, none => return some (.alias name)
  | none, some caller => return some caller
  | some _, some _ =>
    Prog.fail s!"{command} accepts only one target form: a name or one caller flag"

/-- Where the body is read from, by exactly one of three flags. -/
def takeBody (command : String) : Take BodySource := do
  let stdin ← takeBool "--stdin"
  let file ← takeValue "--file"
  let body ← takeValue "--body"
  match stdin, file, body with
  | true, none, none => return .stdin
  | false, some path, none => return .file path
  | false, none, some text => return .literal text
  | false, none, none => Prog.fail s!"{command} requires --stdin, --file PATH, or --body TEXT"
  | _, _, _ => Prog.fail "use exactly one of --stdin, --file, or --body"

/-- Take one body from an explicitly named text/file flag pair. -/
def takeNamedBody (verb textFlag fileFlag : String) : Take BodySource := do
  let text ← takeAllValues textFlag
  let file ← takeAllValues fileFlag
  match text, file with
  | [value], [] => return .literal value
  | [], [path] => return .file path
  | [], [] => Prog.fail s!"{verb} requires {textFlag} or {fileFlag}"
  | _, _ => Prog.fail s!"{verb} accepts exactly one of {textFlag} or {fileFlag}"

/-- Accept exactly one of `--due-at-ms`, `--due-in`, or `--due-at`. -/
def takeDue (verb : String) : Take (Option Due) := do
  let atMs ← takeAllValues "--due-at-ms"
  let inValues ← takeAllValues "--due-in"
  let atValues ← takeAllValues "--due-at"
  -- An ask is delivered now: a due time would leave an obligation the recipient cannot see.
  if verb = "ask" ∧ atMs.length + inValues.length + atValues.length > 0 then
    Prog.fail ("ask does not accept --due-in, --due-at, or --due-at-ms: an ask is delivered " ++
      "now. Use --remind-after-ms to be reminded about an unanswered ask, or tell for a " ++
      "message that should arrive later")
  else match atMs, inValues, atValues with
  | [], [], [] => return none
  | [value], [], [] =>
    let ms ← Prog.ofExcept (integerFrom 0 s!"{verb} --due-at-ms must be a non-negative integer"
      value)
    return some (.atMs ms)
  | [], [value], [] =>
    let ms ← Prog.ofExcept (parseDurationMs value)
    return some (.inMs ms)
  | [], [], [value] =>
    let ms ← Prog.ofExcept (parseUtcRfc3339Ms value)
    return some (.atMs ms)
  | _, _, _ => Prog.fail s!"{verb} allows only one of --due-in, --due-at, or --due-at-ms"

/-- An interval that may be given once, where the verb accepts one. -/
def takeEvery (accepts : Except String Unit) : Take (Option Int) := do
  match ← takeAllValues "--every" with
  | [] => return none
  | [value] =>
    Prog.ofExcept accepts
    let ms ← Prog.ofExcept (parseDurationFor "--every" value)
    return some ms
  | _ => Prog.fail "--every specified more than once"

/-- The value of `--reply-delivery`, which a tell does not take. -/
def takeReplyDelivery (verb : String) : Take (Option ReplyDelivery) := do
  match ← takeValue "--reply-delivery" with
  | none => return none
  | some value =>
    if verb = "tell" then Prog.fail "tell does not accept --reply-delivery"
    else if value = "inject" then return some .inject
    else if value = "pull" then return some .pull
    else Prog.fail s!"--reply-delivery must be inject or pull, not {value}"

/-- What an attribution is about, if the arguments say so. -/
def takeOptionalAttributionTarget (command : String) : Take (Option AttributionTarget) := do
  let incarnationId ← takeValue "--incarnation-id"
  let agentId ← takeValue "--agent-id"
  let pane ← takeValue "--pane"
  let name ← takePositional
  match incarnationId, agentId, pane, name with
  | some id, none, none, none => return some (.incarnation id)
  | none, some id, none, none => return some (.agent id)
  | none, none, some pane, none => return some (.pane pane)
  | none, none, none, some name => return some (.alias name)
  | none, none, none, none => return none
  | _, _, _, _ => Prog.fail (s!"{command} accepts exactly one target: a name, --pane, " ++
      "--agent-id, or --incarnation-id")

/-- Without a target the pane of the caller is meant, from `HERDR_PANE_ID`. -/
def takeAttributionTarget (callerPane : Option String) (command : String) :
    Take AttributionTarget := do
  let target ← takeOptionalAttributionTarget command
  match target.or ((callerPane.filter (· ≠ "")).map .pane) with
  | some target => return target
  | none => Prog.fail "cannot resolve caller; set HERDR_PANE_ID or pass a target"

namespace Problems

/-- Read the `--keep-open` / `--no-keep-open` pair, noting a bad combination. -/
def takeKeepOpen (command : String) : Parse Bool := do
  let keepOpen ← switch "--keep-open"
  let noKeepOpen ← switch "--no-keep-open"
  match keepOpen, noKeepOpen with
  | true, false => return true
  | false, true => return false
  | _, _ =>
    note s!"{command} requires exactly one of --keep-open or --no-keep-open"
    return false

/-- The parent of a launched agent, by one of two flags. -/
def takeParent (command : String) : Parse (Option StartParent) := do
  let parentless ← switch "--parentless"
  let parentId ← value "--parent-id"
  match parentless, parentId with
  | true, none => return some .parentless
  | false, some id => return some (.agent id)
  | _, _ =>
    note s!"{command} requires exactly one of --parentless or --parent-id"
    return none

/-- The kind of an initial message, by exactly one of two flags. -/
def takeInitialKind (command : String) : Parse InitialMessageKind := do
  let tell ← switch "--tell"
  let ask ← switch "--ask"
  match tell, ask with
  | true, false => return .tell
  | false, true => return .ask
  | _, _ =>
    note s!"{command} requires exactly one of --tell or --ask"
    return .tell

/-- `--replace` belongs to `handoff`, and only to it. -/
def takeSupersedes (handoff : Bool) : Parse (Option String) := do
  let supersedes ← value "--replace"
  match handoff, supersedes with
  | true, none =>
    note ("handoff requires --replace INCARNATION-ID: name the incarnation " ++
      "the new one takes over from")
    return none
  | false, some incarnation =>
    note ("start does not accept --replace; use handoff to replace a running " ++
      "incarnation of the same logical agent")
    return some incarnation
  | _, _ => return supersedes

/-- The value of `--timeout-ms`. -/
def takeReadinessTimeoutMs : Parse (Option Nat) := do
  match ← required "--timeout-ms" with
  | none => return none
  | some timeout =>
    match parseU64 timeout with
    | some milliseconds => return some milliseconds
    | none =>
      note "invalid --timeout-ms"
      return none

/-- An option that only one of the verbs takes. -/
def takeInitialReplyDelivery (initialKind : InitialMessageKind) :
    Parse (Option ReplyDelivery) := do
  let replyDelivery ← noting none (Kelpie.takeReplyDelivery "start")
  if replyDelivery.isSome ∧ initialKind ≠ .ask then
    note "start --reply-delivery is only valid with --ask"
    return replyDelivery
  else return replyDelivery

end Problems

-- ============================================================================
-- Messages
-- ============================================================================

/-- The command that sends a message of the kind. -/
def InitialMessageKind.verb : InitialMessageKind → String
  | .tell => "tell"
  | .ask => "ask"

/-- The value of `--remind-after`, which a tell does not take. -/
def remindAfter (kind : InitialMessageKind) : List String → Except String (Option Int)
  | [] => .ok none
  | [value] =>
    match kind with
    | .ask =>
      (integerFrom 1 "ask --remind-after-ms must be a positive integer" value).map some
    | .tell => .error "tell does not accept --remind-after-ms"
  | _ => .error "--remind-after-ms specified more than once"

/-- Whether the message is the operator's, by the value of `--from`. -/
def operatorOrigin (kind : InitialMessageKind) : Option String → Except String Bool
  | none => .ok false
  | some origin =>
    if origin ≠ "operator" then .error "--from only accepts operator"
    else match kind with
    | .ask => .ok true
    | .tell => .error "tell does not accept --from"

/-- The recipient of a message: a name, the two numbers, or the number of the agent if it repeats.
    -/
def messageRecipient (kind : InitialMessageKind) (everyMs : Option Int)
    (positional recipientId recipientIncarnation : Option String) : Except String Recipient :=
  match positional, recipientId, recipientIncarnation with
  | some name, none, none => .ok (.alias name)
  | none, some recipient, some incarnation => .ok (.exact ⟨recipient, incarnation⟩)
  | none, some recipient, none =>
    if kind = .tell ∧ everyMs.isSome then .ok (.agent recipient)
    else .error (kind.verb ++ " requires exactly one of <recipient> or --recipient-id plus " ++
      "--recipient-incarnation; repeating tells also accept --recipient-id alone")
  | _, _, _ => .error (kind.verb ++ " requires exactly one of <recipient> or --recipient-id " ++
      "plus --recipient-incarnation; repeating tells also accept --recipient-id alone")

/-- `parse_message_command` -/
def parseMessageCommand (kind : InitialMessageKind) : Take Command := do
  let recipientId ← takeValue "--recipient-id"
  let recipientIncarnation ← takeValue "--recipient-incarnation"
  let sender ← takeCaller
  let body ← takeBody kind.verb
  let idempotencyKey ← takeValue "--idempotency-key"
  let due ← takeDue kind.verb
  let everyMs ← takeEvery (refuse (kind ≠ .tell) "ask does not accept --every")
  Prog.ofExcept (refuse (everyMs.isSome ∧ due.isSome)
    "tell accepts either a one-shot due time or --every, not both")
  let reminderValues ← takeAllValues "--remind-after-ms"
  let noRemind ← takeBool "--no-remind"
  let remindAfterMs ← Prog.ofExcept (remindAfter kind reminderValues)
  Prog.ofExcept (refuse (kind = .tell ∧ noRemind) "tell does not accept --no-remind")
  Prog.ofExcept (refuse (remindAfterMs.isSome ∧ noRemind)
    "ask accepts only one of --remind-after-ms or --no-remind")
  let origin ← takeValue "--from"
  let fromOperator ← Prog.ofExcept (operatorOrigin kind origin)
  let replyDelivery ← takeReplyDelivery kind.verb
  let positional ← takePositional
  finish kind.verb
  let recipient ← Prog.ofExcept
    (messageRecipient kind everyMs positional recipientId recipientIncarnation)
  match kind with
  | .tell => return .tell recipient body sender idempotencyKey due everyMs
  | .ask =>
    return .ask recipient body sender idempotencyKey due remindAfterMs noRemind fromOperator
      replyDelivery

/-- The disposition of a reply, by exactly one of two flags. -/
def replyDisposition (progress final : Bool) : Except String ReplyDisposition :=
  match progress, final with
  | true, false => .ok .progress
  | false, true => .ok .final
  | _, _ => .error "reply requires exactly one of --progress or --final"

/-- The arguments of `reply`. -/
def parseReply : Take Command := do
  let progress ← takeBool "--progress"
  let final ← takeBool "--final"
  let body ← takeBody "reply"
  let idempotencyKey ← takeValue "--idempotency-key"
  let requester ← takeCaller
  let replyTo ← takeName
    "usage: kelpie reply <ask-id> --progress|--final --stdin|--file|--body"
  finish "reply"
  let disposition ← Prog.ofExcept (replyDisposition progress final)
  return .reply replyTo requester body disposition idempotencyKey

/-- The recipient of a clear: a name, or the two numbers. -/
def clearRecipient (positional recipientId recipientIncarnation : Option String) :
    Except String Recipient :=
  match positional, recipientId, recipientIncarnation with
  | some name, none, none => .ok (.alias name)
  | none, some recipient, some incarnation => .ok (.exact ⟨recipient, incarnation⟩)
  | _, _, _ => .error ("clear requires exactly one of <recipient> or --recipient-id plus " ++
      "--recipient-incarnation")

/-- The arguments of `clear`. -/
def parseClear : Take Command := do
  let recipientId ← takeValue "--recipient-id"
  let recipientIncarnation ← takeValue "--recipient-incarnation"
  let idempotencyKey ← takeValue "--idempotency-key"
  let positional ← takePositional
  finish "clear"
  let recipient ← Prog.ofExcept (clearRecipient positional recipientId recipientIncarnation)
  return .clear recipient idempotencyKey

/-- The arguments of `cancel`. -/
def parseCancel : Take Command := do
  let reason ← takeNeeded "--reason" "missing --reason"
  let requester ← takeCaller
  let askId ← takeName "usage: kelpie cancel <ask-id> --reason TEXT"
  finish "cancel"
  return .cancel askId reason requester

/-- The arguments of `notice`. -/
def parseNotice : Take Command := do
  let body ← takeBody "notice"
  finish "notice"
  return .notice body

-- ============================================================================
-- Renews and schedules
-- ============================================================================

/-- Default window an agent gets to write its checkpoint before the deadline. -/
def defaultPrepareTimeoutMs : Int := 10 * 60 * 1000

/-- What a renew does when its prepare is not answered in time. -/
def onTimeoutOf : Option String → Except String RenewTimeout
  | some value =>
    if value = "abort" then .ok .abort
    else if value = "proceed" then .ok .proceed
    else .error s!"--on-timeout must be abort or proceed, not {value}"
  | none => .error ("renew requires --on-timeout abort|proceed: there is no safe default when " ++
      "an agent never confirms its checkpoint")

/-- How long a prepare may take, by at most one of two flags. -/
def prepareTimeoutMs (timeoutValues timeoutMsValues : List String) : Except String Int :=
  match timeoutValues, timeoutMsValues with
  | [], [] => .ok defaultPrepareTimeoutMs
  | [value], [] => parseDurationFor "--prepare-timeout" value
  | [], [value] => integerFrom 1 "--prepare-timeout-ms must be a positive integer" value
  | _, _ => .error "use exactly one of --prepare-timeout or --prepare-timeout-ms"

/-- A renew has no alias form, and no recipient means the caller's own incarnation. -/
def renewRecipient (positional recipientId recipientIncarnation : Option String) :
    Except String (Option ExactRecipient) :=
  match positional, recipientId, recipientIncarnation with
  | none, none, none => .ok none
  | none, some recipient, some incarnation => .ok (some ⟨recipient, incarnation⟩)
  | some name, _, _ => .error (s!"renew does not take an alias: {name} is a live address " ++
      "another agent may hold, and a policy aimed at the wrong one clears its conversation " ++
      "every cycle. Pass no recipient to renew yourself, or --recipient-id with " ++
      "--recipient-incarnation to renew another agent deliberately")
  | _, _, _ => .error ("renew requires --recipient-id and --recipient-incarnation together, or " ++
      "neither to renew yourself")

/-- The arguments of `renew`. -/
def parseRenew : Take Command := do
  let recipientId ← takeValue "--recipient-id"
  let recipientIncarnation ← takeValue "--recipient-incarnation"
  let requester ← takeCaller
  let preparePrompt ← takeNamedBody "renew" "--prepare-prompt" "--prepare-prompt-file"
  let prompt ← takeNamedBody "renew" "--prompt" "--prompt-file"
  let idempotencyKey ← takeValue "--idempotency-key"
  let onTimeoutValue ← takeValue "--on-timeout"
  let onTimeout ← Prog.ofExcept (onTimeoutOf onTimeoutValue)
  let timeoutValues ← takeAllValues "--prepare-timeout"
  let timeoutMsValues ← takeAllValues "--prepare-timeout-ms"
  let prepareTimeoutMs ← Prog.ofExcept (prepareTimeoutMs timeoutValues timeoutMsValues)
  let everyMs ← takeEvery (.ok ())
  let due ← takeDue "renew"
  Prog.ofExcept (refuse (everyMs.isSome ∧ due.isSome) ("renew accepts either a one-shot due " ++
    "time or --every, not both: --every re-arms itself after each cycle"))
  let positional ← takePositional
  finish "renew"
  let recipient ← Prog.ofExcept (renewRecipient positional recipientId recipientIncarnation)
  return .renew { recipient, requester, preparePrompt, prompt, onTimeout, prepareTimeoutMs,
                  everyMs, due, idempotencyKey }

/-- The arguments of `renew-cancel`. -/
def parseRenewCancel : Take Command := do
  let requester ← takeCaller
  let reason ← takeNeeded "--reason" ("renew-cancel requires --reason: a policy that ends " ++
    "without saying why is the silence renew reporting exists to avoid")
  let renewId ← takeName "usage: kelpie renew-cancel <renew-id> --reason TEXT"
  finish "renew-cancel"
  return .renewCancel renewId reason requester

/-- The arguments of `schedule-cancel`. -/
def parseScheduleCancel : Take Command := do
  let requester ← takeCaller
  let reason ← takeNeeded "--reason" "schedule-cancel requires --reason"
  let scheduleId ← takeName "usage: kelpie schedule-cancel <schedule-id> --reason TEXT"
  finish "schedule-cancel"
  return .scheduleCancel scheduleId reason requester

/-- The arguments of `schedules`. -/
def parseSchedules : Take Command := do
  let target ← takeSingleTarget "schedules"
  finish "schedules"
  return .schedules target

-- ============================================================================
-- Reminders and pulled replies
-- ============================================================================

/-- A value that is read when it is there. -/
def readOption (read : String → Except String Int) : Option String → Except String (Option Int)
  | none => .ok none
  | some value => (read value).map some

/-- The arguments of `reminder-snooze`. -/
def parseReminderSnooze : Take Command := do
  let requester ← takeCaller
  let untilValue ← takeValue "--until-ms"
  let duration ← takeValue "--for"
  Prog.ofExcept (refuse (untilValue.isSome = duration.isSome)
    "provide exactly one of --until-ms or --for")
  let untilMs ← Prog.ofExcept
    (readOption (integerFrom 0 "--until-ms must be a non-negative integer") untilValue)
  let forMs ← Prog.ofExcept (readOption (parseDurationFor "--for") duration)
  let askId ← takeName "usage: kelpie reminder-snooze <ask-id> --until-ms MS"
  finish "reminder-snooze"
  return .reminderSnooze askId untilMs forMs requester

/-- The arguments of `reminder-interval`. -/
def parseReminderInterval : Take Command := do
  let requester ← takeCaller
  let every ← takeNeeded "--every" "missing --every"
  let everyMs ← Prog.ofExcept (parseDurationFor "--every" every)
  let askId ← takeName "missing ask id"
  finish "reminder-interval"
  return .reminderInterval askId everyMs requester

/-- The arguments of `reminder-disable`. -/
def parseReminderDisable : Take Command := do
  let requester ← takeCaller
  let askId ← takeName "usage: kelpie reminder-disable <ask-id>"
  finish "reminder-disable"
  return .reminderDisable askId requester

/-- The arguments of `replies-claim`. -/
def parseRepliesClaim : Take Command := do
  let askId ← takeName "replies-claim requires <ask-id>"
  let requester ← takeCaller
  finish "replies-claim"
  return .repliesClaim askId requester

/-- A wait of at most a minute, which may also be none. -/
def repliesTimeoutMs (value : String) : Except String Int := do
  if value = "0" ∨ value = "0s" then .ok 0
  else
    let parsed ← parseDurationFor "--timeout" value
    if parsed > 60000 then .error "replies --timeout must be at most 60s" else .ok parsed

/-- The arguments of `replies`. -/
def parseReplies : Take Command := do
  let askId ← takeName "replies requires <ask-id>"
  let after ← takeNeeded "--after" "replies requires --after"
  let leaseId ← takeValue "--lease"
  let timeout ← takeValue "--timeout"
  let timeoutMs ← Prog.ofExcept (readOption repliesTimeoutMs timeout)
  let requester ← takeCaller
  finish "replies"
  return .replies askId after leaseId timeoutMs requester

/-- The arguments of `replies-ack`. -/
def parseRepliesAck : Take Command := do
  let askId ← takeName "replies-ack requires <ask-id>"
  let messageId ← takeName "replies-ack requires <message-id>"
  let leaseId ← takeNeeded "--lease" "replies-ack requires --lease"
  let requester ← takeCaller
  finish "replies-ack"
  return .repliesAck askId messageId leaseId requester

-- ============================================================================
-- Identities
-- ============================================================================

/-- The arguments of `pending`. -/
def parsePending : Take Command := do
  let target ← takeSingleTarget "pending"
  finish "pending"
  return .pending target

/-- The arguments of `whoami`. -/
def parseWhoami : Take Command := do
  let senderId ← takeValue "--sender-id"
  Prog.ofExcept (refuse senderId.isSome
    "whoami does not accept --sender-id; use an alias or --pane")
  let target ← takeSingleTarget "whoami"
  finish "whoami"
  return .whoami target

/-- The target is given by a name. -/
def AttributionTarget.isAlias : AttributionTarget → Bool
  | .alias _ => true
  | _ => false

/-- The arguments of `who`; without any but `--refresh` the caller may be adopted. -/
def parseWho (args : List String) : Take Command := do
  let history ← takeBool "--history"
  let resolve ← takeBool "--resolve"
  let refresh ← takeBool "--refresh"
  let adoptCaller := args.all (· = "--refresh")
  let target ← takeOptionalAttributionTarget "who"
  finish "who"
  Prog.ofExcept (refuse (history ∧ ¬ target.any (·.isAlias)) "who --history requires an alias")
  Prog.ofExcept (refuse (history ∧ refresh) "who --history does not accept --refresh")
  Prog.ofExcept (refuse (resolve ∧ ¬ target.any (·.isAlias)) "who --resolve requires an alias")
  Prog.ofExcept (refuse (resolve ∧ (history ∨ refresh))
    "who --resolve does not accept --history or --refresh")
  return .who target adoptCaller history resolve refresh

/-- The arguments of `ask-info`. -/
def parseAskInfo : Take Command := do
  let askId ← takeName "usage: kelpie ask-info <ask-id>"
  finish "ask-info"
  return .askInfo askId

/-- The arguments of `name-info`. -/
def parseNameInfo : Take Command := do
  let name ← takeName "usage: kelpie name-info <alias>"
  finish "name-info"
  return .nameInfo name

/-- The arguments of `attribution`. -/
def parseAttribution (callerPane : Option String) : Take Command := do
  let refresh ← takeBool "--refresh"
  let target ← takeAttributionTarget callerPane "attribution"
  finish "attribution"
  return .attribution target refresh

/-- The arguments of `rename`. -/
def parseRename : Take Command := do
  let name ← takeNeeded "--name" "missing --name"
  let target ← takeSingleTarget "rename"
  finish "rename"
  return .rename target name

/-- The arguments of `report`. -/
def parseReport : Take Command := do
  let live ← takeBool "--live"
  let active ← takeBool "--active"
  finish "report"
  return .report live active

/-- A command without arguments. -/
def parseBare (command : String) (result : Command) : Take Command := do
  finish command
  return result

/-- The arguments of `retire`. -/
def parseRetire : Take Command := do
  let incarnationId ← takeNeeded "--incarnation" "missing --incarnation"
  let idempotencyKey ← takeValue "--idempotency-key"
  let closePane ← takeBool "--close-pane"
  finish "retire"
  return .retire incarnationId idempotencyKey closePane

/-- An agent by its number or its name. -/
def agentTarget : Option String → Option String → Except String AgentTarget
  | some id, none => .ok (.id id)
  | none, some name => .ok (.alias name)
  | _, _ => .error "waiter-retire requires exactly one of <alias> or --logical-id"

/-- The arguments of `waiter-retire`. -/
def parseWaiterRetire : Take Command := do
  let logicalAgentId ← takeValue "--logical-id"
  let name ← takePositional
  finish "waiter-retire"
  let target ← Prog.ofExcept (agentTarget logicalAgentId name)
  return .waiterRetire target

-- ============================================================================
-- Launches
-- ============================================================================

/-- `ok_or(otherwise)` -/
def needed {α : Type} (otherwise : String) : Option α → Except String α
  | some a => .ok a
  | none => .error otherwise

/-- The arguments of `start`, and those of `handoff`, which names the launch that it supersedes.
    -/
def parseStart (handoff : Bool) : Parse Command := do
  let command := if handoff then "handoff" else "start"
  let supersedes ← Problems.takeSupersedes handoff
  let publicName ← Problems.required "--name"
  let paneId ← Problems.required "--pane"
  let terminalId ← Problems.required "--terminal"
  let backendKind ← Problems.required "--backend"
  let workingDirectory ← Problems.required "--cwd"
  let readinessTimeoutMs ← Problems.takeReadinessTimeoutMs
  let keepOpen ← Problems.takeKeepOpen command
  let parent ← Problems.takeParent command
  let initialKind ← Problems.takeInitialKind command
  let initialSender ← Problems.value "--sender-id"
  let body ← Problems.noting none do
    let body ← takeBody command
    return some body
  let backendArgs ← Problems.noting [] (takeAllValues "--arg")
  let logicalAgentId ← Problems.value "--logical-id"
  let session ← Problems.value "--session"
  let requestedModel ← Problems.value "--requested-model"
  let requestedProvider ← Problems.value "--requested-provider"
  let requestedEffort ← Problems.value "--requested-effort"
  let idempotencyKey ← Problems.value "--idempotency-key"
  let replyDelivery ← Problems.takeInitialReplyDelivery initialKind
  Problems.resolve command
  let publicName ← Prog.ofExcept (needed "missing --name" publicName)
  let paneId ← Prog.ofExcept (needed "missing --pane" paneId)
  let terminalId ← Prog.ofExcept (needed "missing --terminal" terminalId)
  let backendKind ← Prog.ofExcept (needed "missing --backend" backendKind)
  let workingDirectory ← Prog.ofExcept (needed "missing --cwd" workingDirectory)
  let readinessTimeoutMs ← Prog.ofExcept (needed "missing --timeout-ms" readinessTimeoutMs)
  let parent ← Prog.ofExcept (needed "missing --parentless or --parent-id" parent)
  let body ← Prog.ofExcept (needed "missing --stdin, --file, or --body" body)
  return .start { publicName, logicalAgentId, parent, herdrSession := session.getD "default",
                  paneId, terminalId, backendKind, backendArgs, initialKind, initialSender, body,
                  workingDirectory, idempotencyKey, readinessTimeoutMs, keepOpen, requestedModel,
                  requestedProvider, requestedEffort, supersedes, replyDelivery }

/-- The arguments of `adopt`. -/
def parseAdopt : Parse Command := do
  let paneId ← Problems.required "--pane"
  let terminalId ← Problems.required "--terminal"
  let publicName ← Problems.value "--name"
  let backendKind ← Problems.value "--backend"
  let logicalAgentId ← Problems.value "--logical-id"
  let session ← Problems.value "--session"
  let backendArgs ← Problems.noting [] (takeAllValues "--arg")
  let requestedModel ← Problems.value "--requested-model"
  let requestedProvider ← Problems.value "--requested-provider"
  let requestedEffort ← Problems.value "--requested-effort"
  let idempotencyKey ← Problems.value "--idempotency-key"
  Problems.resolve "adopt"
  let paneId ← Prog.ofExcept (needed "missing --pane" paneId)
  let terminalId ← Prog.ofExcept (needed "missing --terminal" terminalId)
  return .adopt { paneId, terminalId, publicName, backendKind, logicalAgentId,
                  herdrSession := session.getD "default", backendArgs, requestedModel,
                  requestedProvider, requestedEffort, idempotencyKey }

/-- The arguments of `waiter-register`. -/
def parseWaiterRegister : Parse Command := do
  let publicName ← Problems.required "--name"
  let parent ← Problems.takeParent "waiter-register"
  let idempotencyKey ← Problems.value "--idempotency-key"
  Problems.resolve "waiter-register"
  let publicName ← Prog.ofExcept (needed "missing --name" publicName)
  let parent ← Prog.ofExcept (needed "missing --parentless or --parent-id" parent)
  return .waiterRegister publicName parent idempotencyKey

-- ============================================================================
-- Invocations
-- ============================================================================

/-- What a parse asks of the world around it: the pane of the caller, the default socket, which
    paths exist, and which words the usage text has a block for. -/
structure Surroundings where
  callerPane : Option String
  defaultSocket : String
  pathExists : String → Bool
  hasUsage : String → Bool

/-- How the client should speak to the daemon. -/
inductive Invocation where
  | skill
  | version
  | help (command : Option String)
  | raw (socket : String)
  | typed (socket : String) (json : Bool) (command : Command)
deriving DecidableEq

/-- A parse of the arguments behind the name of a command. -/
def Tokens.parse (x : Take Command) (args : List String) : Except String Command :=
  (x.run (.new args)).1

/-- Parse the arguments of a command that reports all its problems at once. -/
def Problems.parse (x : Parse Command) (args : List String) : Except String Command :=
  (x.run ⟨.new args, []⟩).1

/-- `parse_command`: the command by its name and its arguments. -/
def parseCommand (env : Surroundings) (name : String) (args : List String) :
    Except String Command :=
  match name with
  | "tell" => Tokens.parse (parseMessageCommand .tell) args
  | "ask" => Tokens.parse (parseMessageCommand .ask) args
  | "reply" => Tokens.parse parseReply args
  | "clear" => Tokens.parse parseClear args
  | "renew" => Tokens.parse parseRenew args
  | "renew-cancel" => Tokens.parse parseRenewCancel args
  | "schedule-cancel" => Tokens.parse parseScheduleCancel args
  | "schedules" => Tokens.parse parseSchedules args
  | "pending" => Tokens.parse parsePending args
  | "recover" => Tokens.parse (parseBare "recover" .recover) args
  | "whoami" => Tokens.parse parseWhoami args
  | "who" => Tokens.parse (parseWho args) args
  | "name-info" => Tokens.parse parseNameInfo args
  | "ask-info" => Tokens.parse parseAskInfo args
  | "attribution" => Tokens.parse (parseAttribution env.callerPane) args
  | "rename" => Tokens.parse parseRename args
  | "report" => Tokens.parse parseReport args
  | "start" => Problems.parse (parseStart false) args
  | "handoff" => Problems.parse (parseStart true) args
  | "adopt" => Problems.parse parseAdopt args
  | "waiter-register" => Problems.parse parseWaiterRegister args
  | "waiter-retire" => Tokens.parse parseWaiterRetire args
  | "replies-claim" => Tokens.parse parseRepliesClaim args
  | "replies" => Tokens.parse parseReplies args
  | "replies-ack" => Tokens.parse parseRepliesAck args
  | "notice" => Tokens.parse parseNotice args
  | "notices" => Tokens.parse (parseBare "notices" .notices) args
  | "cancel" => Tokens.parse parseCancel args
  | "reminder-snooze" => Tokens.parse parseReminderSnooze args
  | "reminder-interval" => Tokens.parse parseReminderInterval args
  | "reminder-disable" => Tokens.parse parseReminderDisable args
  | "retire" => Tokens.parse parseRetire args
  | other => .error s!"unknown command {other}"

/-- The global flags before the name of the command.  Other flags there go with the rest. -/
def takeGlobals (socket : Option String) (json : Bool) (rest : List String) :
    List String → Except String (Option String × Bool × List String)
  | [] => .ok (socket, json, rest)
  | arg :: args =>
    if arg = "--socket" then
      if socket.isSome then .error "--socket specified more than once"
      else match args with
      | [] => .error "--socket needs a value"
      | value :: args =>
        if startsWithDash value then .error "--socket needs a value"
        else takeGlobals (some value) json rest args
    else if arg = "--json" then
      if json then .error "--json specified more than once"
      else takeGlobals socket true rest args
    else if startsWithDash arg then takeGlobals socket json (rest ++ [arg]) args
    else .ok (socket, json, rest ++ arg :: args)

/-- A path, or a name that ends in `.sock` or exists. -/
def isRawSocketToken (env : Surroundings) (token : String) : Bool :=
  let beforeLast := (token.toList.reverse.dropWhile (· ≠ '.')).tail
  let extension := (token.toList.reverse.takeWhile (· ≠ '.')).reverse
  token.toList.contains '/' ∨
    (beforeLast ≠ [] ∧ extension.map Char.toLower = "sock".toList) ∨
    env.pathExists token

/-- Parse `argv` after the program name. -/
def parseInvocation (env : Surroundings) (args : List String) : Except String Invocation :=
  if args = [] then .ok (.help none)
  else if args = ["--skill"] then .ok .skill
  else if args = ["--version"] ∨ args = ["-V"] then .ok .version
  else if args.any fun arg => arg = "--help" ∨ arg = "-h" then .ok (.help (args.find? env.hasUsage))
  else do
    let (socket, json, rest) ← takeGlobals none false [] args
    match rest with
    | [] => .ok (.help none)
    | name :: rest =>
      if isRawSocketToken env name ∧ rest = [] then .ok (.raw name)
      else do
        let command ← parseCommand env name rest
        return .typed (socket.getD env.defaultSocket) json command

end Kelpie
