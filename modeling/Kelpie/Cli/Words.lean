/-
  Kelpie.Cli.Words

  A command line that is accepted is, to the letter, the global flags, the name of
  the command, and the flags, values and names that the command was read from.
-/

import Kelpie.Cli.Commands

namespace Kelpie

open Lib

-- ============================================================================
-- Words of a command
-- ============================================================================

/-- The words that name a caller. -/
def callerWords : Option Caller → List (List String)
  | none => []
  | some (.alias name) => [["--sender", name]]
  | some (.id id) => [["--sender-id", id]]
  | some (.pane pane) => [["--pane", pane]]

/-- A target is a caller, or its bare name. -/
inductive TargetWords : Option Caller → List (List String) → Prop where
  | caller (target : Option Caller) : TargetWords target (callerWords target)
  | name (name : String) : TargetWords (some (.alias name)) [[name]]

/-- The words that say where a body is read from. -/
def BodySource.words : BodySource → List (List String)
  | .stdin => [["--stdin"]]
  | .file path => [["--file", path]]
  | .literal text => [["--body", text]]

/-- The prompts of a renew are given in place or by a file. -/
inductive NamedBodyWords (textFlag fileFlag : String) :
    BodySource → List (List String) → Prop where
  | literal (text : String) : NamedBodyWords textFlag fileFlag (.literal text) [[textFlag, text]]
  | file (path : String) : NamedBodyWords textFlag fileFlag (.file path) [[fileFlag, path]]

/-- A value that was read from a text, where it was given. -/
inductive ReadWords {α : Type} (flag : String) (read : String → Except String α) :
    Option α → List (List String) → Prop where
  | none : ReadWords flag read none []
  | some {text : String} {a : α} (h : read text = .ok a) :
    ReadWords flag read (some a) [[flag, text]]

/-- The words that give a time of delivery; a duration and a date are given in many ways. -/
inductive DueWords : Option Due → List (List String) → Prop where
  | none : DueWords none []
  | atMs {text error : String} {ms : Int} (h : integerFrom 0 error text = .ok ms) :
    DueWords (some (.atMs ms)) [["--due-at-ms", text]]
  | inMs {text : String} {ms : Int} (h : parseDurationMs text = .ok ms) :
    DueWords (some (.inMs ms)) [["--due-in", text]]
  | at {text : String} {ms : Int} (h : parseUtcRfc3339Ms text = .ok ms) :
    DueWords (some (.atMs ms)) [["--due-at", text]]

/-- The words that give the timeout of a prepare. -/
inductive PrepareTimeoutWords : Int → List (List String) → Prop where
  | default : PrepareTimeoutWords defaultPrepareTimeoutMs []
  | duration {text : String} {ms : Int} (h : parseDurationFor "--prepare-timeout" text = .ok ms) :
    PrepareTimeoutWords ms [["--prepare-timeout", text]]
  | ms {text error : String} {ms : Int} (h : integerFrom 1 error text = .ok ms) :
    PrepareTimeoutWords ms [["--prepare-timeout-ms", text]]

/-- The flags that name a recipient. -/
def Recipient.idWords : Recipient → List (List String)
  | .alias _ => []
  | .exact ids => [["--recipient-id", ids.recipient], ["--recipient-incarnation", ids.incarnation]]
  | .agent id => [["--recipient-id", id]]

/-- The recipient by its name. -/
def Recipient.nameWords : Recipient → List (List String)
  | .alias name => [[name]]
  | _ => []

/-- The words that say how the answer is delivered. -/
def replyDeliveryWords (replyDelivery : Option ReplyDelivery) : List (List String) :=
  optionWords "--reply-delivery" (replyDelivery.map ReplyDelivery.asStr)

/-- The words that name the target of an attribution. -/
def AttributionTarget.words : AttributionTarget → List (List String)
  | .incarnation id => [["--incarnation-id", id]]
  | .agent id => [["--agent-id", id]]
  | .alias name => [[name]]
  | .pane p => [["--pane", p]]

/-- The value of `--on-timeout`. -/
def RenewTimeout.text : RenewTimeout → String
  | .abort => "abort"
  | .proceed => "proceed"

/-- The words that name a parent. -/
def StartParent.words : StartParent → List (List String)
  | .parentless => [["--parentless"]]
  | .agent id => [["--parent-id", id]]

/-- The flag that says whether the pane stays open. -/
def keepOpenWords (keepOpen : Bool) : List (List String) :=
  if keepOpen then [["--keep-open"]] else [["--no-keep-open"]]

/-- The flag of the kind of an initial message. -/
def InitialMessageKind.words : InitialMessageKind → List (List String)
  | .tell => [["--tell"]]
  | .ask => [["--ask"]]

/-- The flag of a disposition. -/
def ReplyDisposition.words : ReplyDisposition → List (List String)
  | .progress => [["--progress"]]
  | .final => [["--final"]]

/-- The words of a launch.  Its session may be left out, and its timeout is a text. -/
def StartCommand.words (c : StartCommand) (session : Option String) (timeout : String) :
    List (List String) :=
  optionWords "--replace" c.supersedes ++ [["--name", c.publicName], ["--pane", c.paneId],
    ["--terminal", c.terminalId], ["--backend", c.backendKind], ["--cwd", c.workingDirectory],
    ["--timeout-ms", timeout]] ++ keepOpenWords c.keepOpen ++ c.parent.words ++
    c.initialKind.words ++ optionWords "--sender-id" c.initialSender ++ c.body.words ++
    valuesWords "--arg" c.backendArgs ++ optionWords "--logical-id" c.logicalAgentId ++
    optionWords "--session" session ++ optionWords "--requested-model" c.requestedModel ++
    optionWords "--requested-provider" c.requestedProvider ++
    optionWords "--requested-effort" c.requestedEffort ++
    optionWords "--idempotency-key" c.idempotencyKey ++ replyDeliveryWords c.replyDelivery

/-- The words of an adoption. -/
def AdoptArgs.words (c : AdoptArgs) (session : Option String) : List (List String) :=
  [["--pane", c.paneId], ["--terminal", c.terminalId]] ++ optionWords "--name" c.publicName ++
    optionWords "--backend" c.backendKind ++ optionWords "--logical-id" c.logicalAgentId ++
    optionWords "--session" session ++ valuesWords "--arg" c.backendArgs ++
    optionWords "--requested-model" c.requestedModel ++
    optionWords "--requested-provider" c.requestedProvider ++
    optionWords "--requested-effort" c.requestedEffort ++
    optionWords "--idempotency-key" c.idempotencyKey

/-- The words that a command is read from, each of them once. -/
inductive CommandWords (env : Surroundings) :
    String → Command → List (List String) → Prop where
  | tell {recipient : Recipient} {body : BodySource} {sender : Option Caller}
    {key : Option String} {due : Option Due} {everyMs : Option Int} {w_due w_every}
    (h_due : DueWords due w_due)
    (h_every : ReadWords "--every" (parseDurationFor "--every") everyMs w_every)
    (h_clock : everyMs = none ∨ due = none) :
    CommandWords env "tell" (.tell recipient body sender key due everyMs)
      (recipient.idWords ++ callerWords sender ++ body.words ++
        optionWords "--idempotency-key" key ++ w_due ++ w_every ++ recipient.nameWords)
  | ask {recipient : Recipient} {body : BodySource} {sender : Option Caller}
    {key : Option String} {remindAfterMs : Option Int} {noRemind fromOperator : Bool}
    {replyDelivery : Option ReplyDelivery} {w_remind}
    (h_remind : ReadWords "--remind-after-ms"
      (integerFrom 1 "ask --remind-after-ms must be a positive integer") remindAfterMs w_remind)
    (h_one : remindAfterMs = none ∨ noRemind = false) :
    CommandWords env "ask"
      (.ask recipient body sender key none remindAfterMs noRemind fromOperator replyDelivery)
      (recipient.idWords ++ callerWords sender ++ body.words ++
        optionWords "--idempotency-key" key ++ w_remind ++ switchWords "--no-remind" noRemind ++
        (if fromOperator then [["--from", "operator"]] else []) ++
        replyDeliveryWords replyDelivery ++ recipient.nameWords)
  | reply {replyTo : String} {requester : Option Caller} {body : BodySource}
    {disposition : ReplyDisposition} {key : Option String} :
    CommandWords env "reply" (.reply replyTo requester body disposition key)
      (disposition.words ++ body.words ++ optionWords "--idempotency-key" key ++
        callerWords requester ++ [[replyTo]])
  | clear {recipient : Recipient} {key : Option String} :
    CommandWords env "clear" (.clear recipient key)
      (recipient.idWords ++ optionWords "--idempotency-key" key ++ recipient.nameWords)
  | renew {args : RenewArgs} {w_prepare w_prompt w_timeout w_every w_due w}
    (h_prepare : NamedBodyWords "--prepare-prompt" "--prepare-prompt-file" args.preparePrompt
      w_prepare)
    (h_prompt : NamedBodyWords "--prompt" "--prompt-file" args.prompt w_prompt)
    (h_timeout : PrepareTimeoutWords args.prepareTimeoutMs w_timeout)
    (h_every : ReadWords "--every" (parseDurationFor "--every") args.everyMs w_every)
    (h_due : DueWords args.due w_due) (h_clock : args.everyMs = none ∨ args.due = none)
    (h_words : w = ((args.recipient.map Recipient.exact).map Recipient.idWords).getD [] ++
      callerWords args.requester ++ w_prepare ++ w_prompt ++
      optionWords "--idempotency-key" args.idempotencyKey ++
      [["--on-timeout", args.onTimeout.text]] ++ w_timeout ++ w_every ++ w_due) :
    CommandWords env "renew" (.renew args) w
  | pending {target : Option Caller} {w} (h : TargetWords target w) :
    CommandWords env "pending" (.pending target) w
  | recover : CommandWords env "recover" .recover []
  | whoami {target : Option Caller} {w} (h : TargetWords target w) :
    CommandWords env "whoami" (.whoami target) w
  | who {target : Option AttributionTarget} {adoptCaller history resolve refresh : Bool} :
    CommandWords env "who" (.who target adoptCaller history resolve refresh)
      (switchWords "--history" history ++ switchWords "--resolve" resolve ++
        switchWords "--refresh" refresh ++ (target.map AttributionTarget.words).getD [])
  | attribution {given : Option AttributionTarget} {target : AttributionTarget} {refresh : Bool}
    (h : given.or ((env.callerPane.filter (· ≠ "")).map .pane) = some target) :
    CommandWords env "attribution" (.attribution target refresh)
      (switchWords "--refresh" refresh ++ (given.map AttributionTarget.words).getD [])
  | report {live active : Bool} : CommandWords env "report" (.report live active)
      (switchWords "--live" live ++ switchWords "--active" active)
  | nameInfo {name : String} : CommandWords env "name-info" (.nameInfo name) [[name]]
  | askInfo {askId : String} : CommandWords env "ask-info" (.askInfo askId) [[askId]]
  | rename {target : Option Caller} {name : String} {w} (h : TargetWords target w) :
    CommandWords env "rename" (.rename target name) (["--name", name] :: w)
  | adopt {args : AdoptArgs} {session : Option String} {w}
    (h_session : session.getD "default" = args.herdrSession) (h_words : w = args.words session) :
    CommandWords env "adopt" (.adopt args) w
  | notice {body : BodySource} : CommandWords env "notice" (.notice body) body.words
  | notices : CommandWords env "notices" .notices []
  | cancel {askId reason : String} {requester : Option Caller} :
    CommandWords env "cancel" (.cancel askId reason requester)
      (["--reason", reason] :: callerWords requester ++ [[askId]])
  | renewCancel {renewId reason : String} {requester : Option Caller} :
    CommandWords env "renew-cancel" (.renewCancel renewId reason requester)
      (callerWords requester ++ [["--reason", reason], [renewId]])
  | scheduleCancel {scheduleId reason : String} {requester : Option Caller} :
    CommandWords env "schedule-cancel" (.scheduleCancel scheduleId reason requester)
      (callerWords requester ++ [["--reason", reason], [scheduleId]])
  | schedules {target : Option Caller} {w} (h : TargetWords target w) :
    CommandWords env "schedules" (.schedules target) w
  | reminderSnooze {askId : String} {untilMs forMs : Option Int} {requester : Option Caller}
    {w_until w_for}
    (h_until : ReadWords "--until-ms"
      (integerFrom 0 "--until-ms must be a non-negative integer") untilMs w_until)
    (h_for : ReadWords "--for" (parseDurationFor "--for") forMs w_for)
    (h_one : untilMs.isSome ≠ forMs.isSome) :
    CommandWords env "reminder-snooze" (.reminderSnooze askId untilMs forMs requester)
      (callerWords requester ++ w_until ++ w_for ++ [[askId]])
  | reminderInterval {askId every : String} {everyMs : Int} {requester : Option Caller}
    (h_every : parseDurationFor "--every" every = .ok everyMs) :
    CommandWords env "reminder-interval" (.reminderInterval askId everyMs requester)
      (callerWords requester ++ [["--every", every], [askId]])
  | reminderDisable {askId : String} {requester : Option Caller} :
    CommandWords env "reminder-disable" (.reminderDisable askId requester)
      (callerWords requester ++ [[askId]])
  | retire {incarnationId : String} {key : Option String} {closePane : Bool} :
    CommandWords env "retire" (.retire incarnationId key closePane)
      (["--incarnation", incarnationId] :: optionWords "--idempotency-key" key ++
        switchWords "--close-pane" closePane)
  | start {handoff : Bool} {command : StartCommand} {session : Option String} {timeout : String}
    {w} (h_supersedes : command.supersedes.isSome = handoff)
    (h_session : session.getD "default" = command.herdrSession)
    (h_timeout : parseU64 timeout = some command.readinessTimeoutMs)
    (h_delivery : command.replyDelivery = none ∨ command.initialKind = .ask)
    (h_words : w = command.words session timeout) :
    CommandWords env (if handoff then "handoff" else "start") (.start command) w
  | waiterRegister {publicName : String} {parent : StartParent} {key : Option String} :
    CommandWords env "waiter-register" (.waiterRegister publicName parent key)
      (["--name", publicName] :: parent.words ++ optionWords "--idempotency-key" key)
  | waiterRetireId {id : String} :
    CommandWords env "waiter-retire" (.waiterRetire (.id id)) [["--logical-id", id]]
  | waiterRetireAlias {name : String} :
    CommandWords env "waiter-retire" (.waiterRetire (.alias name)) [[name]]
  | repliesClaim {askId : String} {requester : Option Caller} :
    CommandWords env "replies-claim" (.repliesClaim askId requester)
      ([askId] :: callerWords requester)
  | replies {askId after : String} {leaseId : Option String} {timeoutMs : Option Int}
    {requester : Option Caller} {w_timeout}
    (h_timeout : ReadWords "--timeout" repliesTimeoutMs timeoutMs w_timeout) :
    CommandWords env "replies" (.replies askId after leaseId timeoutMs requester)
      ([askId] :: ["--after", after] :: optionWords "--lease" leaseId ++ w_timeout ++
        callerWords requester)
  | repliesAck {askId messageId leaseId : String} {requester : Option Caller} :
    CommandWords env "replies-ack" (.repliesAck askId messageId leaseId requester)
      ([askId] :: [messageId] :: ["--lease", leaseId] :: callerWords requester)

-- ============================================================================
-- Takes
-- ============================================================================

theorem takeCaller_takes : Takes takeCaller fun caller w => w = callerWords caller := by
  refine .bind_eq (takeValue_takes _) fun sender => ?_
  refine .bind_eq (takeValue_takes _) fun senderId => ?_
  refine .bind_eq (takeValue_takes _) fun pane => ?_
  split
  · exact .pure rfl
  · exact .pure rfl
  · exact .pure rfl
  · exact .pure rfl
  · exact .fail _

theorem takeSingleTarget_takes (command : String) :
    Takes (takeSingleTarget command) TargetWords := by
  refine .bind_eq takeCaller_takes fun caller => ?_
  refine .bind_eq takePositional_takes fun positional => ?_
  split
  · exact .pure (.caller none)
  · exact .pure (.name _)
  · exact .pure (by simpa [nameWords] using TargetWords.caller _)
  · exact .fail _

theorem takeBody_takes (command : String) :
    Takes (takeBody command) fun body w => w = body.words := by
  refine .bind_eq (takeBool_takes _) fun stdin => ?_
  refine .bind_eq (takeValue_takes _) fun file => ?_
  refine .bind_eq (takeValue_takes _) fun body => ?_
  split
  · exact .pure rfl
  · exact .pure rfl
  · exact .pure rfl
  · exact .fail _
  · exact .fail _

theorem takeSomeBody_takes {command : String} :
    Takes (do
      let body ← takeBody command
      return some body) fun body w => w = (body.map BodySource.words).getD [] :=
  .bind_eq (takeBody_takes _) fun _ => .pure (List.append_nil _)

theorem takeNamedBody_takes (verb textFlag fileFlag : String) :
    Takes (takeNamedBody verb textFlag fileFlag) (NamedBodyWords textFlag fileFlag) := by
  refine .bind_eq (takeAllValues_takes _) fun text => ?_
  refine .bind_eq (takeAllValues_takes _) fun file => ?_
  split
  · exact .pure (.literal _)
  · exact .pure (.file _)
  · exact .fail _
  · exact .fail _

theorem takeDue_takes (verb : String) :
    Takes (takeDue verb) fun due w => DueWords due w ∧ (verb = "ask" → due = none) := by
  refine .bind_eq (takeAllValues_takes _) fun atMs => ?_
  refine .bind_eq (takeAllValues_takes _) fun inValues => ?_
  refine .bind_eq (takeAllValues_takes _) fun atValues => ?_
  split
  · exact .fail _
  rename_i h_verb
  split
  · exact .pure ⟨.none, fun _ => rfl⟩
  · refine .bind_ofExcept fun ms h_ms => .pure ⟨.atMs h_ms, fun h_ask => ?_⟩
    exact absurd ⟨h_ask, by simp⟩ h_verb
  · refine .bind_ofExcept fun ms h_ms => .pure ⟨.inMs h_ms, fun h_ask => ?_⟩
    exact absurd ⟨h_ask, by simp⟩ h_verb
  · refine .bind_ofExcept fun ms h_ms => .pure ⟨.at h_ms, fun h_ask => ?_⟩
    exact absurd ⟨h_ask, by simp⟩ h_verb
  · exact .fail _

theorem takeEvery_takes (accepts : Except String Unit) :
    Takes (takeEvery accepts) fun everyMs w =>
      ReadWords "--every" (parseDurationFor "--every") everyMs w ∧
        (everyMs.isSome → accepts = .ok ()) := by
  refine .bind_eq (takeAllValues_takes _) fun values => ?_
  split
  · exact .pure ⟨.none, fun h => by cases h⟩
  · refine .bind_ofExcept fun _ h_accepts => ?_
    exact .bind_ofExcept fun ms h_ms => .pure ⟨.some h_ms, fun _ => h_accepts⟩
  · exact .fail _

theorem takeReplyDelivery_takes (verb : String) :
    Takes (takeReplyDelivery verb) fun replyDelivery w =>
      w = replyDeliveryWords replyDelivery ∧ (verb = "tell" → replyDelivery = none) := by
  refine .bind_eq (takeValue_takes _) fun value => ?_
  cases value with
  | none => exact .pure ⟨rfl, fun _ => rfl⟩
  | some value =>
    dsimp only
    split_ifs with h_tell h_inject h_pull
    · exact .fail _
    · exact .pure ⟨by rw [h_inject]; rfl, fun h => absurd h h_tell⟩
    · exact .pure ⟨by rw [h_pull]; rfl, fun h => absurd h h_tell⟩
    · exact .fail _

theorem takeOptionalAttributionTarget_takes (command : String) :
    Takes (takeOptionalAttributionTarget command) fun target w =>
      w = (target.map AttributionTarget.words).getD [] := by
  refine .bind_eq (takeValue_takes _) fun incarnationId => ?_
  refine .bind_eq (takeValue_takes _) fun agentId => ?_
  refine .bind_eq (takeValue_takes _) fun pane => ?_
  refine .bind_eq takePositional_takes fun name => ?_
  split
  · exact .pure rfl
  · exact .pure rfl
  · exact .pure rfl
  · exact .pure rfl
  · exact .pure rfl
  · exact .fail _

theorem readOption_words {flag : String} {read : String → Except String Int}
    {value : Option String} {n : Option Int} (h : readOption read value = .ok n) :
    ReadWords flag read n (optionWords flag value) ∧ n.isSome = value.isSome := by
  cases value with
  | none =>
    cases h
    exact ⟨.none, rfl⟩
  | some text =>
    simp only [readOption] at h
    cases h_read : read text with
    | error e => rw [h_read] at h; cases h
    | ok a =>
      rw [h_read] at h
      cases h
      exact ⟨.some h_read, rfl⟩

theorem refuse_ok {c : Prop} [Decidable c] {error : String} {u : Unit}
    (h : refuse c error = .ok u) : ¬ c := by
  intro h_c
  rw [refuse, if_pos h_c] at h
  cases h

theorem needed_ok {α : Type} {otherwise : String} {o : Option α} {a : α}
    (h : needed otherwise o = .ok a) : o = some a := by
  cases o with
  | none => cases h
  | some b =>
    cases h
    rfl

namespace Problems

theorem takeKeepOpen_takes (command : String) :
    Takes (takeKeepOpen command) fun keepOpen w => w = keepOpenWords keepOpen := by
  refine .bind_eq (switch_takes _) fun keepOpen => ?_
  refine .bind_eq (switch_takes _) fun noKeepOpen => ?_
  split
  · exact .pure rfl
  · exact .pure rfl
  · exact .bind note_takes fun _ => .pure fun _ h => h

theorem takeParent_takes (command : String) :
    Takes (takeParent command) fun parent w => w = (parent.map StartParent.words).getD [] := by
  refine .bind_eq (switch_takes _) fun parentless => ?_
  refine .bind_eq (value_takes _) fun parentId => ?_
  split
  · exact .pure rfl
  · exact .pure rfl
  · exact .bind note_takes fun _ => .pure fun _ h => h

theorem takeInitialKind_takes (command : String) :
    Takes (takeInitialKind command) fun initialKind w => w = initialKind.words := by
  refine .bind_eq (switch_takes _) fun tell => ?_
  refine .bind_eq (switch_takes _) fun ask => ?_
  split
  · exact .pure rfl
  · exact .pure rfl
  · exact .bind note_takes fun _ => .pure fun _ h => h

theorem takeSupersedes_takes (handoff : Bool) :
    Takes (takeSupersedes handoff) fun supersedes w =>
      w = optionWords "--replace" supersedes ∧ supersedes.isSome = handoff := by
  refine .bind_eq (value_takes _) fun supersedes => ?_
  split
  · exact .bind note_takes fun _ => .pure fun _ h => h
  · exact .bind note_takes fun _ => .pure fun _ h => h
  · rename_i h_true h_false
    refine .pure ⟨List.append_nil _, ?_⟩
    cases handoff <;> cases supersedes <;> simp_all

theorem takeReadinessTimeoutMs_takes :
    Takes takeReadinessTimeoutMs
      (ReadWords "--timeout-ms" fun text => needed "invalid --timeout-ms" (parseU64 text)) := by
  refine .bind_eq (required_takes _) fun timeout => ?_
  cases timeout with
  | none => exact .pure .none
  | some timeout =>
    dsimp only
    split
    · rename_i milliseconds h_timeout
      exact .pure (.some (by rw [h_timeout]; rfl))
    · exact .bind note_takes fun _ => .pure fun _ h => h

theorem takeInitialReplyDelivery_takes (initialKind : InitialMessageKind) :
    Takes (takeInitialReplyDelivery initialKind) fun replyDelivery w =>
      w = replyDeliveryWords replyDelivery ∧ (replyDelivery = none ∨ initialKind = .ask) := by
  refine .bind (noting_takes (takeReplyDelivery_takes "start")) fun replyDelivery => ?_
  split
  · exact .bind note_takes fun _ => .pure fun _ h => h
  · rename_i h_ask
    refine .pure ?_
    rintro _ ⟨rfl, -⟩
    refine ⟨List.append_nil _, ?_⟩
    cases replyDelivery with
    | none => exact .inl rfl
    | some d => exact .inr (by simpa using h_ask)

end Problems

-- ============================================================================
-- Commands
-- ============================================================================

section Commands

variable {env : Surroundings}

theorem messageRecipient_words {kind : InitialMessageKind} {everyMs : Option Int}
    {positional recipientId recipientIncarnation : Option String} {recipient : Recipient}
    (h : messageRecipient kind everyMs positional recipientId recipientIncarnation =
      .ok recipient) :
    optionWords "--recipient-id" recipientId ++
      optionWords "--recipient-incarnation" recipientIncarnation = recipient.idWords ∧
    nameWords positional = recipient.nameWords := by
  unfold messageRecipient at h
  split at h
  · cases h
    exact ⟨rfl, rfl⟩
  · cases h
    exact ⟨rfl, rfl⟩
  · split at h
    · cases h
      exact ⟨rfl, rfl⟩
    · cases h
  · cases h

theorem remindAfter_tell {values : List String} {n : Option Int}
    (h : remindAfter .tell values = .ok n) : values = [] := by
  unfold remindAfter at h
  split at h
  · rfl
  · cases h
  · cases h

theorem remindAfter_ask {values : List String} {n : Option Int}
    (h : remindAfter .ask values = .ok n) :
    ReadWords "--remind-after-ms" (integerFrom 1 "ask --remind-after-ms must be a positive integer")
      n (valuesWords "--remind-after-ms" values) := by
  unfold remindAfter at h
  split at h
  · cases h
    exact .none
  · rename_i value
    exact (@readOption_words _ _ (some value) _ h).1
  · cases h

theorem operatorOrigin_words {kind : InitialMessageKind} {origin : Option String}
    {fromOperator : Bool} (h : operatorOrigin kind origin = .ok fromOperator) :
    optionWords "--from" origin = (if fromOperator then [["--from", "operator"]] else []) ∧
      (kind = .tell → origin = none) := by
  cases origin with
  | none =>
    cases h
    exact ⟨rfl, fun _ => rfl⟩
  | some origin =>
    simp only [operatorOrigin] at h
    split at h
    · cases h
    · rename_i h_origin
      cases kind with
      | tell => cases h
      | ask =>
        cases h
        rw [not_not.mp h_origin]
        exact ⟨rfl, fun h => by cases h⟩

theorem parseTell_takes : TakesAll (parseMessageCommand .tell) (CommandWords env "tell") := by
  refine .bind_eq (takeValue_takes _) fun recipientId => ?_
  refine .bind_eq (takeValue_takes _) fun recipientIncarnation => ?_
  refine .bind_eq takeCaller_takes fun sender => ?_
  refine .bind_eq (takeBody_takes _) fun body => ?_
  refine .bind_eq (takeValue_takes _) fun key => ?_
  refine .bind (takeDue_takes _) fun due => ?_
  refine .bind (takeEvery_takes _) fun everyMs => ?_
  refine .bind_ofExcept fun _ h_clock => ?_
  refine .bind_eq (takeAllValues_takes _) fun reminderValues => ?_
  refine .bind_eq (takeBool_takes _) fun noRemind => ?_
  refine .bind_ofExcept fun remindAfterMs h_remind => ?_
  refine .bind_ofExcept fun _ h_noRemind => ?_
  refine .bind_ofExcept fun _ _ => ?_
  refine .bind_eq (takeValue_takes _) fun origin => ?_
  refine .bind_ofExcept fun fromOperator h_origin => ?_
  refine .bind (takeReplyDelivery_takes _) fun replyDelivery => ?_
  refine .bind_eq takePositional_takes fun positional => ?_
  refine finish_takesAll (.bind_ofExcept fun recipient h_recipient => .pure ?_)
  rintro _ ⟨rfl, h_delivery⟩ w_every ⟨h_every, -⟩ w_due ⟨h_due, -⟩
  obtain ⟨h_ids, h_name⟩ := messageRecipient_words h_recipient
  have h_once : everyMs = none ∨ due = none := by
    have h_both := refuse_ok h_clock
    cases everyMs <;> cases due <;> simp_all
  have h_switch : noRemind = false := by simpa using refuse_ok h_noRemind
  convert CommandWords.tell h_due h_every h_once using 1
  rw [remindAfter_tell h_remind, h_switch, (operatorOrigin_words h_origin).2 rfl, h_delivery rfl,
    ← h_ids, ← h_name]
  simp [valuesWords, switchWords, optionWords, replyDeliveryWords]

theorem parseAsk_takes : TakesAll (parseMessageCommand .ask) (CommandWords env "ask") := by
  refine .bind_eq (takeValue_takes _) fun recipientId => ?_
  refine .bind_eq (takeValue_takes _) fun recipientIncarnation => ?_
  refine .bind_eq takeCaller_takes fun sender => ?_
  refine .bind_eq (takeBody_takes _) fun body => ?_
  refine .bind_eq (takeValue_takes _) fun key => ?_
  refine .bind (takeDue_takes _) fun due => ?_
  refine .bind (takeEvery_takes _) fun everyMs => ?_
  refine .bind_ofExcept fun _ _ => ?_
  refine .bind_eq (takeAllValues_takes _) fun reminderValues => ?_
  refine .bind_eq (takeBool_takes _) fun noRemind => ?_
  refine .bind_ofExcept fun remindAfterMs h_remind => ?_
  refine .bind_ofExcept fun _ _ => ?_
  refine .bind_ofExcept fun _ h_one => ?_
  refine .bind_eq (takeValue_takes _) fun origin => ?_
  refine .bind_ofExcept fun fromOperator h_origin => ?_
  refine .bind (takeReplyDelivery_takes _) fun replyDelivery => ?_
  refine .bind_eq takePositional_takes fun positional => ?_
  refine finish_takesAll (.bind_ofExcept fun recipient h_recipient => .pure ?_)
  rintro _ ⟨rfl, -⟩ w_every ⟨h_every, h_accepts⟩ w_due ⟨h_due, h_ask⟩
  obtain ⟨h_ids, h_name⟩ := messageRecipient_words h_recipient
  have h_either : remindAfterMs = none ∨ noRemind = false := by
    have h_both := refuse_ok h_one
    cases remindAfterMs <;> simp_all
  -- An ask accepts neither a due time nor an interval.
  obtain rfl := h_ask rfl
  cases h_due
  cases h_every with
  | some h_every => exact absurd (h_accepts rfl) (by simp [refuse])
  | none =>
    convert CommandWords.ask (remindAfter_ask h_remind) h_either using 1
    rw [(operatorOrigin_words h_origin).1, ← h_ids, ← h_name]
    simp

theorem parseReply_takes : TakesAll parseReply (CommandWords env "reply") := by
  refine .bind_eq (takeBool_takes _) fun progress => ?_
  refine .bind_eq (takeBool_takes _) fun final => ?_
  refine .bind_eq (takeBody_takes _) fun body => ?_
  refine .bind_eq (takeValue_takes _) fun key => ?_
  refine .bind_eq takeCaller_takes fun requester => ?_
  refine .bind_eq (takeName_takes _) fun replyTo => ?_
  refine finish_takesAll (.bind_ofExcept fun disposition h_disposition => .pure ?_)
  convert CommandWords.reply using 1
  cases progress <;> cases final <;> cases h_disposition <;>
    simp [switchWords, ReplyDisposition.words]

theorem clearRecipient_words {positional recipientId recipientIncarnation : Option String}
    {recipient : Recipient}
    (h : clearRecipient positional recipientId recipientIncarnation = .ok recipient) :
    optionWords "--recipient-id" recipientId ++
      optionWords "--recipient-incarnation" recipientIncarnation = recipient.idWords ∧
    nameWords positional = recipient.nameWords := by
  unfold clearRecipient at h
  split at h
  · cases h
    exact ⟨rfl, rfl⟩
  · cases h
    exact ⟨rfl, rfl⟩
  · cases h

theorem parseClear_takes : TakesAll parseClear (CommandWords env "clear") := by
  refine .bind_eq (takeValue_takes _) fun recipientId => ?_
  refine .bind_eq (takeValue_takes _) fun recipientIncarnation => ?_
  refine .bind_eq (takeValue_takes _) fun key => ?_
  refine .bind_eq takePositional_takes fun positional => ?_
  refine finish_takesAll (.bind_ofExcept fun recipient h_recipient => .pure ?_)
  obtain ⟨h_ids, h_name⟩ := clearRecipient_words h_recipient
  convert CommandWords.clear using 1
  rw [← h_ids, ← h_name]
  simp

theorem parseCancel_takes : TakesAll parseCancel (CommandWords env "cancel") := by
  refine .bind_eq (takeNeeded_takes _ _) fun reason => ?_
  refine .bind_eq takeCaller_takes fun requester => ?_
  refine .bind_eq (takeName_takes _) fun askId => ?_
  exact finish_takesAll (.pure .cancel)

theorem parseNotice_takes : TakesAll parseNotice (CommandWords env "notice") := by
  refine .bind_eq (takeBody_takes _) fun body => finish_takesAll (.pure ?_)
  rw [List.append_nil]
  exact .notice

theorem onTimeoutOf_words {value : Option String} {onTimeout : RenewTimeout}
    (h : onTimeoutOf value = .ok onTimeout) : value = some onTimeout.text := by
  cases value with
  | none => cases h
  | some value =>
    simp only [onTimeoutOf] at h
    split_ifs at h with h_abort h_proceed
    · cases h
      rw [h_abort]
      rfl
    · cases h
      rw [h_proceed]
      rfl

theorem prepareTimeoutMs_words {durations milliseconds : List String} {ms : Int}
    (h : prepareTimeoutMs durations milliseconds = .ok ms) :
    PrepareTimeoutWords ms (valuesWords "--prepare-timeout" durations ++
      valuesWords "--prepare-timeout-ms" milliseconds) := by
  unfold prepareTimeoutMs at h
  split at h
  · cases h
    exact .default
  · exact .duration h
  · exact .ms h
  · cases h

theorem renewRecipient_words {positional recipientId recipientIncarnation : Option String}
    {recipient : Option ExactRecipient}
    (h : renewRecipient positional recipientId recipientIncarnation = .ok recipient) :
    optionWords "--recipient-id" recipientId ++
      optionWords "--recipient-incarnation" recipientIncarnation =
        ((recipient.map Recipient.exact).map Recipient.idWords).getD [] ∧ positional = none := by
  unfold renewRecipient at h
  split at h
  · cases h
    exact ⟨rfl, rfl⟩
  · cases h
    exact ⟨rfl, rfl⟩
  · cases h
  · cases h

theorem parseRenew_takes : TakesAll parseRenew (CommandWords env "renew") := by
  refine .bind_eq (takeValue_takes _) fun recipientId => ?_
  refine .bind_eq (takeValue_takes _) fun recipientIncarnation => ?_
  refine .bind_eq takeCaller_takes fun requester => ?_
  refine .bind (takeNamedBody_takes _ _ _) fun preparePrompt => ?_
  refine .bind (takeNamedBody_takes _ _ _) fun prompt => ?_
  refine .bind_eq (takeValue_takes _) fun key => ?_
  refine .bind_eq (takeValue_takes _) fun onTimeoutValue => ?_
  refine .bind_ofExcept fun onTimeout h_onTimeout => ?_
  refine .bind_eq (takeAllValues_takes _) fun durations => ?_
  refine .bind_eq (takeAllValues_takes _) fun milliseconds => ?_
  refine .bind_ofExcept fun prepareTimeoutMs h_timeout => ?_
  refine .bind (takeEvery_takes _) fun everyMs => ?_
  refine .bind (takeDue_takes _) fun due => ?_
  refine .bind_ofExcept fun _ h_clock => ?_
  refine .bind_eq takePositional_takes fun positional => ?_
  refine finish_takesAll (.bind_ofExcept fun recipient h_recipient => .pure ?_)
  rintro w_due ⟨h_due, -⟩ w_every ⟨h_every, -⟩ w_prompt h_prompt w_prepare h_prepare
  obtain ⟨h_ids, h_name⟩ := renewRecipient_words h_recipient
  have h_once : everyMs = none ∨ due = none := by
    have h_both := refuse_ok h_clock
    cases everyMs <;> cases due <;> simp_all
  refine .renew h_prepare h_prompt (prepareTimeoutMs_words h_timeout) h_every h_due h_once ?_
  rw [onTimeoutOf_words h_onTimeout, h_name, ← h_ids]
  simp [optionWords, nameWords]

theorem parseRenewCancel_takes : TakesAll parseRenewCancel (CommandWords env "renew-cancel") := by
  refine .bind_eq takeCaller_takes fun requester => ?_
  refine .bind_eq (takeNeeded_takes _ _) fun reason => ?_
  refine .bind_eq (takeName_takes _) fun renewId => ?_
  exact finish_takesAll (.pure .renewCancel)

theorem parseScheduleCancel_takes :
    TakesAll parseScheduleCancel (CommandWords env "schedule-cancel") := by
  refine .bind_eq takeCaller_takes fun requester => ?_
  refine .bind_eq (takeNeeded_takes _ _) fun reason => ?_
  refine .bind_eq (takeName_takes _) fun scheduleId => ?_
  exact finish_takesAll (.pure .scheduleCancel)

/-- The commands that take nothing but a target. -/
theorem takeSingleTarget_takesAll {command : String} {result : Option Caller → Command}
    (h : ∀ target w, TargetWords target w → CommandWords env command (result target) w) :
    TakesAll (do
      let target ← takeSingleTarget command
      finish command
      return result target) (CommandWords env command) := by
  refine .bind (takeSingleTarget_takes _) fun target => finish_takesAll (.pure ?_)
  intro w h_target
  rw [List.append_nil]
  exact h target w h_target

theorem parseReminderSnooze_takes :
    TakesAll parseReminderSnooze (CommandWords env "reminder-snooze") := by
  refine .bind_eq takeCaller_takes fun requester => ?_
  refine .bind_eq (takeValue_takes _) fun untilValue => ?_
  refine .bind_eq (takeValue_takes _) fun duration => ?_
  refine .bind_ofExcept fun _ h_one => ?_
  refine .bind_ofExcept fun untilMs h_until => ?_
  refine .bind_ofExcept fun forMs h_for => ?_
  refine .bind_eq (takeName_takes _) fun askId => finish_takesAll (.pure ?_)
  obtain ⟨h_untilWords, h_untilSome⟩ := readOption_words h_until
  obtain ⟨h_forWords, h_forSome⟩ := readOption_words h_for
  have h_either : untilMs.isSome ≠ forMs.isSome := by
    rw [h_untilSome, h_forSome]
    simpa using refuse_ok h_one
  convert CommandWords.reminderSnooze h_untilWords h_forWords h_either using 1
  simp

theorem parseReminderInterval_takes :
    TakesAll parseReminderInterval (CommandWords env "reminder-interval") := by
  refine .bind_eq takeCaller_takes fun requester => ?_
  refine .bind_eq (takeNeeded_takes _ _) fun every => ?_
  refine .bind_ofExcept fun everyMs h_every => ?_
  refine .bind_eq (takeName_takes _) fun askId => ?_
  exact finish_takesAll (.pure (.reminderInterval h_every))

theorem parseReminderDisable_takes :
    TakesAll parseReminderDisable (CommandWords env "reminder-disable") := by
  refine .bind_eq takeCaller_takes fun requester => ?_
  refine .bind_eq (takeName_takes _) fun askId => ?_
  exact finish_takesAll (.pure .reminderDisable)

theorem parseRepliesClaim_takes :
    TakesAll parseRepliesClaim (CommandWords env "replies-claim") := by
  refine .bind_eq (takeName_takes _) fun askId => ?_
  refine .bind_eq takeCaller_takes fun requester => finish_takesAll (.pure ?_)
  rw [List.append_nil]
  exact .repliesClaim

theorem parseReplies_takes : TakesAll parseReplies (CommandWords env "replies") := by
  refine .bind_eq (takeName_takes _) fun askId => ?_
  refine .bind_eq (takeNeeded_takes _ _) fun after => ?_
  refine .bind_eq (takeValue_takes _) fun leaseId => ?_
  refine .bind_eq (takeValue_takes _) fun timeout => ?_
  refine .bind_ofExcept fun timeoutMs h_timeout => ?_
  refine .bind_eq takeCaller_takes fun requester => finish_takesAll (.pure ?_)
  convert CommandWords.replies (readOption_words h_timeout).1 using 1
  simp

theorem parseRepliesAck_takes : TakesAll parseRepliesAck (CommandWords env "replies-ack") := by
  refine .bind_eq (takeName_takes _) fun askId => ?_
  refine .bind_eq (takeName_takes _) fun messageId => ?_
  refine .bind_eq (takeNeeded_takes _ _) fun leaseId => ?_
  refine .bind_eq takeCaller_takes fun requester => finish_takesAll (.pure ?_)
  rw [List.append_nil]
  exact .repliesAck

theorem parseWhoami_takes : TakesAll parseWhoami (CommandWords env "whoami") := by
  refine .bind_eq (takeValue_takes _) fun senderId => ?_
  refine .bind_ofExcept fun _ h_sender => ?_
  have h_none : senderId = none := by simpa using refuse_ok h_sender
  obtain rfl := h_none
  exact takeSingleTarget_takesAll fun _ _ => .whoami

theorem parseWho_takes (args : List String) :
    TakesAll (parseWho args) (CommandWords env "who") := by
  refine .bind_eq (takeBool_takes _) fun history => ?_
  refine .bind_eq (takeBool_takes _) fun resolve => ?_
  refine .bind_eq (takeBool_takes _) fun refresh => ?_
  refine .bind_eq (takeOptionalAttributionTarget_takes _) fun target => finish_takesAll ?_
  refine .bind_ofExcept fun _ _ => .bind_ofExcept fun _ _ => ?_
  refine .bind_ofExcept fun _ _ => .bind_ofExcept fun _ _ => .pure ?_
  convert CommandWords.who using 1
  simp

theorem parseAskInfo_takes : TakesAll parseAskInfo (CommandWords env "ask-info") :=
  .bind_eq (takeName_takes _) fun _ => finish_takesAll (.pure .askInfo)

theorem parseNameInfo_takes : TakesAll parseNameInfo (CommandWords env "name-info") :=
  .bind_eq (takeName_takes _) fun _ => finish_takesAll (.pure .nameInfo)

theorem takeAttributionTarget_takes (command : String) :
    Takes (takeAttributionTarget env.callerPane command) fun target w =>
      ∃ given : Option AttributionTarget,
      given.or ((env.callerPane.filter (· ≠ "")).map .pane) = some target ∧
        w = (given.map AttributionTarget.words).getD [] := by
  refine .bind_eq (takeOptionalAttributionTarget_takes _) fun given => ?_
  split
  · rename_i target h_target
    exact .pure ⟨given, h_target, List.append_nil _⟩
  · exact .fail _

theorem parseAttribution_takes :
    TakesAll (parseAttribution env.callerPane) (CommandWords env "attribution") := by
  refine .bind_eq (takeBool_takes _) fun refresh => ?_
  refine .bind (takeAttributionTarget_takes _) fun target => finish_takesAll (.pure ?_)
  rintro _ ⟨given, h_given, rfl⟩
  rw [List.append_nil]
  exact .attribution h_given

theorem parseRename_takes : TakesAll parseRename (CommandWords env "rename") := by
  refine .bind_eq (takeNeeded_takes _ _) fun name => ?_
  refine .bind (takeSingleTarget_takes _) fun target => finish_takesAll (.pure ?_)
  intro w h_target
  rw [List.append_nil]
  exact .rename h_target

theorem parseReport_takes : TakesAll parseReport (CommandWords env "report") := by
  refine .bind_eq (takeBool_takes _) fun live => ?_
  refine .bind_eq (takeBool_takes _) fun active => finish_takesAll (.pure ?_)
  rw [List.append_nil]
  exact .report

theorem parseBare_takes {command : String} {result : Command}
    (h : CommandWords env command result []) :
    TakesAll (parseBare command result) (CommandWords env command) :=
  finish_takesAll (.pure h)

theorem parseRetire_takes : TakesAll parseRetire (CommandWords env "retire") := by
  refine .bind_eq (takeNeeded_takes _ _) fun incarnationId => ?_
  refine .bind_eq (takeValue_takes _) fun key => ?_
  refine .bind_eq (takeBool_takes _) fun closePane => finish_takesAll (.pure ?_)
  rw [List.append_nil]
  exact .retire

theorem parseWaiterRetire_takes :
    TakesAll parseWaiterRetire (CommandWords env "waiter-retire") := by
  refine .bind_eq (takeValue_takes _) fun logicalAgentId => ?_
  refine .bind_eq takePositional_takes fun name => ?_
  refine finish_takesAll (.bind_ofExcept fun target h_target => .pure ?_)
  unfold agentTarget at h_target
  split at h_target
  · cases h_target
    exact .waiterRetireId
  · cases h_target
    exact .waiterRetireAlias
  · cases h_target

theorem parseStart_takes (handoff : Bool) :
    TakesAll (parseStart handoff) (CommandWords env (if handoff then "handoff" else "start")) := by
  refine .bind (Problems.takeSupersedes_takes _) fun supersedes => ?_
  refine .bind_eq (Problems.required_takes _) fun publicName => ?_
  refine .bind_eq (Problems.required_takes _) fun paneId => ?_
  refine .bind_eq (Problems.required_takes _) fun terminalId => ?_
  refine .bind_eq (Problems.required_takes _) fun backendKind => ?_
  refine .bind_eq (Problems.required_takes _) fun workingDirectory => ?_
  refine .bind Problems.takeReadinessTimeoutMs_takes fun readinessTimeoutMs => ?_
  refine .bind_eq (Problems.takeKeepOpen_takes _) fun keepOpen => ?_
  refine .bind_eq (Problems.takeParent_takes _) fun parent => ?_
  refine .bind_eq (Problems.takeInitialKind_takes _) fun initialKind => ?_
  refine .bind_eq (Problems.value_takes _) fun initialSender => ?_
  refine .bind_eq (Problems.noting_takes takeSomeBody_takes) fun body => ?_
  refine .bind_eq (Problems.noting_takes (takeAllValues_takes _)) fun backendArgs => ?_
  refine .bind_eq (Problems.value_takes _) fun logicalAgentId => ?_
  refine .bind_eq (Problems.value_takes _) fun session => ?_
  refine .bind_eq (Problems.value_takes _) fun requestedModel => ?_
  refine .bind_eq (Problems.value_takes _) fun requestedProvider => ?_
  refine .bind_eq (Problems.value_takes _) fun requestedEffort => ?_
  refine .bind_eq (Problems.value_takes _) fun idempotencyKey => ?_
  refine .bind (Problems.takeInitialReplyDelivery_takes _) fun replyDelivery => ?_
  refine Problems.resolve_takesAll ?_
  -- What was found missing has been reported, so the rest only unwraps.
  refine .bind_ofExcept fun _ h_name => .bind_ofExcept fun _ h_pane => ?_
  refine .bind_ofExcept fun _ h_terminal => .bind_ofExcept fun _ h_backend => ?_
  refine .bind_ofExcept fun _ h_cwd => .bind_ofExcept fun _ h_timeout => ?_
  refine .bind_ofExcept fun _ h_parent => .bind_ofExcept fun _ h_body => .pure ?_
  obtain rfl := needed_ok h_name
  obtain rfl := needed_ok h_pane
  obtain rfl := needed_ok h_terminal
  obtain rfl := needed_ok h_backend
  obtain rfl := needed_ok h_cwd
  obtain rfl := needed_ok h_timeout
  obtain rfl := needed_ok h_parent
  obtain rfl := needed_ok h_body
  rintro _ ⟨rfl, h_delivery⟩ _ h_read _ ⟨rfl, h_supersedes⟩
  cases h_read with
  | some h_text =>
    refine .start h_supersedes rfl (needed_ok h_text) h_delivery ?_
    simp [StartCommand.words, optionWords]

theorem parseAdopt_takes : TakesAll parseAdopt (CommandWords env "adopt") := by
  refine .bind_eq (Problems.required_takes _) fun paneId => ?_
  refine .bind_eq (Problems.required_takes _) fun terminalId => ?_
  refine .bind_eq (Problems.value_takes _) fun publicName => ?_
  refine .bind_eq (Problems.value_takes _) fun backendKind => ?_
  refine .bind_eq (Problems.value_takes _) fun logicalAgentId => ?_
  refine .bind_eq (Problems.value_takes _) fun session => ?_
  refine .bind_eq (Problems.noting_takes (takeAllValues_takes _)) fun backendArgs => ?_
  refine .bind_eq (Problems.value_takes _) fun requestedModel => ?_
  refine .bind_eq (Problems.value_takes _) fun requestedProvider => ?_
  refine .bind_eq (Problems.value_takes _) fun requestedEffort => ?_
  refine .bind_eq (Problems.value_takes _) fun idempotencyKey => ?_
  refine Problems.resolve_takesAll ?_
  refine .bind_ofExcept fun _ h_pane => .bind_ofExcept fun _ h_terminal => .pure ?_
  obtain rfl := needed_ok h_pane
  obtain rfl := needed_ok h_terminal
  refine .adopt rfl ?_
  simp [AdoptArgs.words, optionWords]

theorem parseWaiterRegister_takes :
    TakesAll parseWaiterRegister (CommandWords env "waiter-register") := by
  refine .bind_eq (Problems.required_takes _) fun publicName => ?_
  refine .bind_eq (Problems.takeParent_takes _) fun parent => ?_
  refine .bind_eq (Problems.value_takes _) fun idempotencyKey => ?_
  refine Problems.resolve_takesAll ?_
  refine .bind_ofExcept fun _ h_name => .bind_ofExcept fun _ h_parent => .pure ?_
  obtain rfl := needed_ok h_name
  obtain rfl := needed_ok h_parent
  convert CommandWords.waiterRegister using 1
  simp [optionWords]

theorem Tokens.parse_ok {x : Take Command} {Q : Command → List (List String) → Prop}
    (h : TakesAll x Q) {args : List String} {command : Command}
    (h_ok : Tokens.parse x args = .ok command) :
    ∃ blocks w : List (List String), Q command w ∧ blocks.Perm w ∧ args = blocks.flatten :=
  h.whole (s := .new args) rfl (Prod.ext h_ok rfl)

theorem Problems.parse_ok {x : Parse Command} {Q : Command → List (List String) → Prop}
    (h : TakesAll x Q) {args : List String} {command : Command}
    (h_ok : Problems.parse x args = .ok command) :
    ∃ blocks w : List (List String), Q command w ∧ blocks.Perm w ∧ args = blocks.flatten :=
  h.whole (s := ⟨.new args, []⟩) rfl (Prod.ext h_ok rfl)

/-- The arguments of a command are its words, in some order. -/
theorem parseCommand_words {name : String} {args : List String} {command : Command}
    (h : parseCommand env name args = .ok command) :
    ∃ blocks w : List (List String), CommandWords env name command w ∧ blocks.Perm w ∧
      args = blocks.flatten := by
  unfold parseCommand at h
  split at h
  · exact Tokens.parse_ok parseTell_takes h
  · exact Tokens.parse_ok parseAsk_takes h
  · exact Tokens.parse_ok parseReply_takes h
  · exact Tokens.parse_ok parseClear_takes h
  · exact Tokens.parse_ok parseRenew_takes h
  · exact Tokens.parse_ok parseRenewCancel_takes h
  · exact Tokens.parse_ok parseScheduleCancel_takes h
  · exact Tokens.parse_ok (takeSingleTarget_takesAll fun _ _ => .schedules) h
  · exact Tokens.parse_ok (takeSingleTarget_takesAll fun _ _ => .pending) h
  · exact Tokens.parse_ok (parseBare_takes .recover) h
  · exact Tokens.parse_ok parseWhoami_takes h
  · exact Tokens.parse_ok (parseWho_takes args) h
  · exact Tokens.parse_ok parseNameInfo_takes h
  · exact Tokens.parse_ok parseAskInfo_takes h
  · exact Tokens.parse_ok parseAttribution_takes h
  · exact Tokens.parse_ok parseRename_takes h
  · exact Tokens.parse_ok parseReport_takes h
  · exact Problems.parse_ok (parseStart_takes false) h
  · exact Problems.parse_ok (parseStart_takes true) h
  · exact Problems.parse_ok parseAdopt_takes h
  · exact Problems.parse_ok parseWaiterRegister_takes h
  · exact Tokens.parse_ok parseWaiterRetire_takes h
  · exact Tokens.parse_ok parseRepliesClaim_takes h
  · exact Tokens.parse_ok parseReplies_takes h
  · exact Tokens.parse_ok parseRepliesAck_takes h
  · exact Tokens.parse_ok parseNotice_takes h
  · exact Tokens.parse_ok (parseBare_takes .notices) h
  · exact Tokens.parse_ok parseCancel_takes h
  · exact Tokens.parse_ok parseReminderSnooze_takes h
  · exact Tokens.parse_ok parseReminderInterval_takes h
  · exact Tokens.parse_ok parseReminderDisable_takes h
  · exact Tokens.parse_ok parseRetire_takes h
  · cases h

theorem CommandWords.not_dash {name : String} {command : Command} {w : List (List String)}
    (h : CommandWords env name command w) : ¬ startsWithDash name := by
  cases h with
  | start => split_ifs <;> decide
  | _ => decide

end Commands

-- ============================================================================
-- Invocations
-- ============================================================================

/-- The words of the global flags. -/
def globalWords (socket : Option String) (json : Bool) : List (List String) :=
  optionWords "--socket" socket ++ switchWords "--json" json

/-- The arguments that are no global flags go on, those read before first. -/
theorem takeGlobals_rest {socket : Option String} {json : Bool} {rest args : List String}
    {result : Option String × Bool × List String}
    (h : takeGlobals socket json rest args = .ok result) : rest <+: result.2.2 := by
  fun_induction takeGlobals socket json rest args with
  | case1 =>
    cases h
    exact List.prefix_rfl
  | case2 => cases h
  | case3 => cases h
  | case4 => cases h
  | case5 _ _ _ _ _ _ _ ih => exact ih h
  | case6 => cases h
  | case7 =>
    rename_i ih
    exact ih h
  | case8 _ _ _ _ _ _ _ _ ih => exact (List.prefix_append _ _).trans (ih h)
  | case9 =>
    cases h
    exact List.prefix_append _ _

/-- Before the name of a command stand the global flags, each once. -/
theorem takeGlobals_words {socket socket' : Option String} {json json' : Bool} {name : String}
    {args rest : List String} (h_name : ¬ startsWithDash name)
    (h : takeGlobals socket json [] args = .ok (socket', json', name :: rest)) :
    ∃ blocks : List (List String), args = blocks.flatten ++ name :: rest ∧
      (globalWords socket json ++ blocks).Perm (globalWords socket' json') := by
  generalize h_first : ([] : List String) = first at h
  fun_induction takeGlobals socket json first args with
  | case1 =>
    subst h_first
    cases h
  | case2 => cases h
  | case3 => cases h
  | case4 => cases h
  | case5 socket json first h_none value args h_dash ih =>
    obtain rfl : socket = none := by simpa using h_none
    obtain ⟨blocks, rfl, h_perm⟩ := ih h_first h
    refine ⟨["--socket", value] :: blocks, rfl, List.Perm.trans ?_ h_perm⟩
    exact List.perm_middle
  | case6 => cases h
  | case7 =>
    rename_i socket json first args h_json h_arg ih
    obtain rfl : json = false := by simpa using h_json
    obtain ⟨blocks, rfl, h_perm⟩ := ih h_first h
    refine ⟨["--json"] :: blocks, rfl, List.Perm.trans ?_ h_perm⟩
    simp [globalWords, switchWords]
  | case8 socket json first arg args h_socket h_json h_dash ih =>
    subst h_first
    -- A flag that is not global would stand where the name is.
    obtain ⟨more, h_more⟩ := takeGlobals_rest h
    obtain ⟨rfl, -⟩ := List.cons.inj h_more
    exact absurd h_dash h_name
  | case9 =>
    subst h_first
    cases h
    exact ⟨[], rfl, by rw [List.append_nil]⟩

/-- A command line that is accepted is made of the words of its command, each of them read once
    and in one piece, behind the name of the command and the global flags. -/
theorem parseInvocation_words {env : Surroundings} {args : List String} {socket : String}
    {json : Bool} {command : Command}
    (h : parseInvocation env args = .ok (.typed socket json command)) :
    ∃ (given : Option String) (name : String) (globals blocks w : List (List String)),
      args = globals.flatten ++ name :: blocks.flatten ∧
      given.getD env.defaultSocket = socket ∧ globals.Perm (globalWords given json) ∧
      CommandWords env name command w ∧ blocks.Perm w := by
  unfold parseInvocation at h
  split_ifs at h
  · cases h
  · cases h
  · cases h
  · cases h
  cases h_globals : takeGlobals none false [] args with
  | error e =>
    rw [h_globals] at h
    cases h
  | ok result =>
    obtain ⟨given, json', rest⟩ := result
    rw [h_globals] at h
    cases rest with
    | nil => cases h
    | cons name rest =>
      dsimp only [Bind.bind, Except.bind] at h
      split_ifs at h
      · cases h
      cases h_command : parseCommand env name rest with
      | error e =>
        rw [h_command] at h
        cases h
      | ok command' =>
        rw [h_command] at h
        cases h
        obtain ⟨blocks, w, h_w, h_perm, rfl⟩ := parseCommand_words h_command
        obtain ⟨globals, h_args, h_globalsPerm⟩ := takeGlobals_words h_w.not_dash h_globals
        exact ⟨given, name, globals, blocks, w, h_args, rfl, h_globalsPerm, h_w, h_perm⟩

/-- A handoff whose flags stand in no particular order.  One argument of the backend is itself
    a flag. -/
def handoffLine : List String :=
  ["--json", "handoff", "--arg", "--model", "--ask", "--body", "Continue.", "--name", "worker-2",
    "--pane", "w1:p2", "--terminal", "t2", "--backend", "claude", "--cwd", "/work",
    "--timeout-ms", "60000", "--keep-open", "--parentless", "--reply-delivery", "pull",
    "--replace", "7", "--arg", "opus"]

/-- A launch that supersedes another. -/
def handoffCommand : StartCommand where
  publicName := "worker-2"
  logicalAgentId := none
  parent := .parentless
  herdrSession := "default"
  paneId := "w1:p2"
  terminalId := "t2"
  backendKind := "claude"
  backendArgs := ["--model", "opus"]
  initialKind := .ask
  initialSender := none
  body := .literal "Continue."
  workingDirectory := "/work"
  idempotencyKey := none
  readinessTimeoutMs := 60000
  keepOpen := true
  requestedModel := none
  requestedProvider := none
  requestedEffort := none
  supersedes := some "7"
  replyDelivery := some .pull

/-- The surroundings of that launch. -/
def handoffEnv : Surroundings where
  callerPane := none
  defaultSocket := "/run/kelpie.sock"
  pathExists _ := false
  hasUsage _ := true

theorem parseInvocation_words_handoff :
    ∃ (given : Option String) (name : String) (globals blocks w : List (List String)),
      handoffLine = globals.flatten ++ name :: blocks.flatten ∧
      given.getD "/run/kelpie.sock" = "/run/kelpie.sock" ∧
      globals.Perm (globalWords given true) ∧
      CommandWords handoffEnv name (.start handoffCommand) w ∧ blocks.Perm w :=
  @parseInvocation_words handoffEnv handoffLine _ _ _ (by decide +kernel)

end Kelpie
