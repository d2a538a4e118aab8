/-
  Kelpie.Store.Calls

  The transactions of the store as labels, and the states that sequences of them
  reach.

  A failed call rolls back and is not a step.  A recovery pass is several
  transactions; each of them is a call of its own, so that a run may end, as a
  crash does, between any two of them.
-/

import Kelpie.Lib.Runs
import Kelpie.Store.Recovery

namespace Kelpie

open Lib Lib.Tx

/-- One transaction of the store with its arguments and its reading of the clock. -/
inductive Call where
  -- incarnations
  | declareStart (now : Millis) (intent : StartIntent)
  | declareAdopt (now : Millis) (intent : AdoptIntent) (evidence : AdoptEvidence)
  | declareAdoptPending (now : Millis) (intent : AdoptIntent) (evidence : AdoptEvidence)
  | acceptAdoptReady (now : Millis) (operationId : OperationId)
      (incarnationId : IncarnationId) (agent : AgentObservation)
  | beginAttempt (now : Millis) (operationId : OperationId) (incarnationId : IncarnationId)
      (requestId : String)
  | acceptStartSubmission (operationId : OperationId) (incarnationId : IncarnationId)
      (paneId terminalId : String)
  | acceptStartReady (now : Millis) (operationId : OperationId)
      (incarnationId : IncarnationId) (agent : AgentObservation)
      (supersedes : Option IncarnationId)
  | declareRename (incarnationId : IncarnationId) (newName : String)
  | commitRename (incarnationId : IncarnationId) (newName : String)
  | abandonRename (incarnationId : IncarnationId)
  | fillObservedNativeSession (incarnationId : IncarnationId) (paneId terminalId : String)
      (session : NativeSession)
  | replaceObservedNativeSession (incarnationId : IncarnationId) (session : NativeSession)
  | requestRetirement (now : Millis) (incarnationId : IncarnationId)
      (idempotencyKey : String)
  -- attempts
  | markSubmitted (now : Millis) (operationId : OperationId) (attemptNumber : Nat)
      (requestId : String)
  | submitQueuedDelivery (operationId : OperationId) (attemptNumber : Nat)
      (requestId : String) (nowMs : Millis)
  | markUnknown (now : Millis) (operationId : OperationId) (incarnationId : IncarnationId)
      (evidence : String)
  | markClearUnknown (now : Millis) (operationId : OperationId)
      (incarnationId : IncarnationId) (evidence : String) (promptSettleDelayMs : Millis)
  | rejectAttempt (now : Millis) (operationId : OperationId)
      (incarnationId : IncarnationId) (evidence : String)
  | markRejected (now : Millis) (operationId : OperationId) (incarnationId : IncarnationId)
      (evidence : String) (deliveryOutcome : DeliveryOutcome)
  | acceptDelivery (now : Millis) (operationId : OperationId)
      (incarnationId : IncarnationId) (paneId terminalId : String)
      (submission : Option String)
  -- messages
  | createInitialMessage (now : Millis) (recipient : LogicalAgentId)
      (recipientIncarnation : IncarnationId) (intent : InitialMessageIntent)
      (idempotencyKey : String)
  | createAsk (now : Millis) (sender recipient : LogicalAgentId)
      (recipientIncarnation : IncarnationId) (body idempotencyKey : String)
      (dueAtMs remindAfterMs : Option Millis) (operatorAttributed : Bool)
      (replyDelivery : ReplyDelivery)
  | createTell (now : Millis) (sender recipient : LogicalAgentId)
      (recipientIncarnation : IncarnationId) (body idempotencyKey : String)
      (dueAtMs : Option Millis)
  | createSocketTell (now : Millis) (sender recipient : LogicalAgentId)
      (body idempotencyKey : String) (dueAtMs : Option Millis)
  | createReply (now : Millis) (replyTo : MessageId) (requesterAgentId : LogicalAgentId)
      (body : String) (disposition : ReplyDisposition) (idempotencyKey : String)
      (dueAtMs : Option Millis)
  -- sinks
  | registerSocketWaiter (now : Millis) (publicName : String) (parent : Parent)
      (idempotencyKey : String)
  | touchWaiterSeen (logicalAgentId : LogicalAgentId) (nowMs : Millis)
  | bootResetWaiterSeen (nowMs : Millis)
  | ackSocketInboxDelivery (now : Millis) (recipientAgentId : LogicalAgentId)
      (messageId : MessageId)
  | claimAskPullLease (now : Millis) (askMessageId : MessageId)
      (requesterAgentId : LogicalAgentId)
  | ackAskPullDelivery (now : Millis) (askMessageId : MessageId)
      (requesterAgentId : LogicalAgentId) (messageId : MessageId) (leaseId : Nat)
  -- obligations
  | cancelObligation (now : Millis) (requesterAgentId : LogicalAgentId)
      (askMessageId : MessageId) (reason : String)
  | cancelWithResponse (now : Millis) (requesterAgentId : LogicalAgentId)
      (askMessageId : MessageId) (reason body owingBody : String)
      (dueAtMs owingDueAtMs : Option Millis)
  | cancelQueuedDelivery (now : Millis) (requesterAgentId : LogicalAgentId)
      (messageId : MessageId) (reason : String)
  | supersedeSettledQueuedAsks (nowMs : Millis)
  | observeAskAvailability (nowMs : Millis)
  | orphanAsk (now : Millis) (askMessageId : MessageId)
  | endSocketWaiter (now : Millis) (logicalAgentId : LogicalAgentId)
      (owingDueAtMs : MessageId → Option Millis) (reason : String)
  -- reminders
  | observeReminderLifecycle (ask : MessageId) (sawWorking : Bool) (nextCheckAtMs : Millis)
  | prepareReminderAttempt (reminder : DueReminder) (requestId : String) (nowMs : Millis)
  | submitReminderAttempt (requestId : String)
  | resolveReminderAttempt (requestId : String) (outcome : ReminderOutcome)
      (evidence : Option String) (nowMs : Millis)
  | deferBusyReminder (ask : MessageId) (nowMs recheckMs : Millis)
  | reconcileReminderAttempts (now : Millis)
  | snoozeReminder (now : Millis) (requester : LogicalAgentId) (ask : MessageId)
      (untilMs : Millis)
  | increaseReminderInterval (now : Millis) (requester : LogicalAgentId) (ask : MessageId)
      (everyMs : Millis)
  | disableReminder (now : Millis) (requester : LogicalAgentId) (ask : MessageId)
  -- renews
  | createRenew (now : Millis) (intent : RenewIntent)
  | accrueRenewOccupancy (renewId : RenewId) (accumulating : Bool) (nowMs : Millis)
  | markRenewPreparing (renewId : RenewId) (ask : MessageId) (deadlineMs : Millis)
  | markRenewReady (now : Millis) (renewId : RenewId)
  | markRenewClearing (renewId : RenewId) (preClearSession : NativeSession)
      (clearDeadlineMs : Millis) (injectNotBeforeMs : Option Millis)
  | claimRenewClearStallNotice (renewId : RenewId) (nowMs : Millis)
  | markRenewInjected (renewId : RenewId)
  | markRenewTimedOut (renewId : RenewId)
  | completeRenew (now : Millis) (renewId : RenewId)
  | abortRenew (now : Millis) (renewId : RenewId) (reason : String)
  | abandonRenewProof (now : Millis) (renewId : RenewId) (reason : String)
  | terminateRenew (now : Millis) (renewId : RenewId) (reason : String)
  | terminateRenewAnnounced (now : Millis) (renewId : RenewId) (reason notice : String)
  | cancelRenew (now : Millis) (renewId : RenewId) (requesterAgentId : LogicalAgentId)
      (reason notice : String)
  | prepareRenewAttempt (renewId : RenewId) (incarnationId : IncarnationId)
      (step : RenewStep) (requestId : String) (nowMs : Millis)
  | submitRenewAttempt (requestId : String)
  | resolveRenewAttempt (requestId : String) (outcome : ReminderOutcome)
      (evidence : Option String) (nowMs : Millis)
  -- schedules and clears
  | createTellSchedule (now : Millis) (sender recipient : LogicalAgentId) (body : String)
      (intervalMs firstFireAtMs : Millis) (idempotencyKey : String)
  | fireTellSchedule (item : DueTellSchedule) (nowMs : Millis)
  | cancelSchedule (now : Millis) (scheduleId : ScheduleId) (requester : LogicalAgentId)
      (reason : String)
  | createClear (now : Millis) (recipient : LogicalAgentId)
      (recipientIncarnation : IncarnationId) (command : String)
      (preClearSession : NativeSession) (promptSettleDelayMs : Millis)
      (idempotencyKey : String)
  | completeClear (now : Millis) (operationId : OperationId)
      (incarnationId : IncarnationId) (newSession : Option NativeSession)
      (promptSettleDelayMs : Millis)
  -- recovery
  | reconcileReadyIncarnations (now : Millis) (snapshot : Snapshot)
  | releaseAbsentAliasBinding (now : Millis) (publicName : String) (snapshot : Snapshot)
  | settleAbsentUnknownStart (now : Millis) (row : UnknownStart)
  | reconcileRetirement (now : Millis) (operationId : OperationId)
      (incarnationId : IncarnationId) (paneId terminalId : String) (snapshot : Snapshot)
  | continueRestoredOccupants (now : Millis) (snapshot : Snapshot)
  | failUnattemptedClear (now : Millis) (operationId : OperationId)
  | createOperatorNotice (now : Millis) (body : String)
  | claimLiveOperations
  | archiveDeadIdentities (nowMs graceMs : Millis)

/-- The state that a successful call leaves. -/
def Call.commit (c : Call) : Store → Except StoreError Store :=
  match c with
  | .declareStart now intent => (Kelpie.declareStart now intent).commit
  | .declareAdopt now intent evidence => (Kelpie.declareAdopt now intent evidence).commit
  | .declareAdoptPending now intent evidence =>
    (Kelpie.declareAdoptPending now intent evidence).commit
  | .acceptAdoptReady now op inc agent => (Kelpie.acceptAdoptReady now op inc agent).commit
  | .beginAttempt now op inc request => (Kelpie.beginAttempt now op inc request).commit
  | .acceptStartSubmission op inc pane terminal =>
    (Kelpie.acceptStartSubmission op inc pane terminal).commit
  | .acceptStartReady now op inc agent supersedes =>
    (Kelpie.acceptStartReady now op inc agent supersedes).commit
  | .declareRename inc name => (Kelpie.declareRename inc name).commit
  | .commitRename inc name => (Kelpie.commitRename inc name).commit
  | .abandonRename inc => (Kelpie.abandonRename inc).commit
  | .fillObservedNativeSession inc pane terminal session =>
    (Kelpie.fillObservedNativeSession inc pane terminal session).commit
  | .replaceObservedNativeSession inc session =>
    (Kelpie.replaceObservedNativeSession inc session).commit
  | .requestRetirement now inc key => (Kelpie.requestRetirement now inc key).commit
  | .markSubmitted now op attempt request =>
    (Kelpie.markSubmitted now op attempt request).commit
  | .submitQueuedDelivery op attempt request nowMs =>
    (Kelpie.submitQueuedDelivery op attempt request nowMs).commit
  | .markUnknown now op inc evidence => (Kelpie.markUnknown now op inc evidence).commit
  | .markClearUnknown now op inc evidence delay =>
    (Kelpie.markClearUnknown now op inc evidence delay).commit
  | .rejectAttempt now op inc evidence => (Kelpie.rejectAttempt now op inc evidence).commit
  | .markRejected now op inc evidence outcome =>
    (Kelpie.markRejected now op inc evidence outcome).commit
  | .acceptDelivery now op inc pane terminal submission =>
    (Kelpie.acceptDeliveryWithSubmission now op inc pane terminal submission).commit
  | .createInitialMessage now recipient inc intent key =>
    (Kelpie.createInitialMessage now recipient inc intent key).commit
  | .createAsk now sender recipient inc body key due remind attributed delivery =>
    (createAskWithReplyDelivery now sender recipient inc body key due remind attributed
      delivery).commit
  | .createTell now sender recipient inc body key due =>
    (createTellWithDue now sender recipient inc body key due).commit
  | .createSocketTell now sender recipient body key due =>
    (Kelpie.createSocketTell now sender recipient body key due).commit
  | .createReply now replyTo requester body disposition key due =>
    (createReplyWithDue now replyTo requester body disposition key due).commit
  | .registerSocketWaiter now name parent key =>
    (Kelpie.registerSocketWaiter now name parent key).commit
  | .touchWaiterSeen agent nowMs => (Kelpie.touchWaiterSeen agent nowMs).commit
  | .bootResetWaiterSeen nowMs => (Kelpie.bootResetWaiterSeen nowMs).commit
  | .ackSocketInboxDelivery now recipient message =>
    (Kelpie.ackSocketInboxDelivery now recipient message).commit
  | .claimAskPullLease now ask requester =>
    (Kelpie.claimAskPullLease now ask requester).commit
  | .ackAskPullDelivery now ask requester message lease =>
    (Kelpie.ackAskPullDelivery now ask requester message lease).commit
  | .cancelObligation now requester ask reason =>
    (Kelpie.cancelObligation now requester ask reason).commit
  | .cancelWithResponse now requester ask reason body owingBody due owingDue =>
    (Kelpie.cancelWithResponse now requester ask reason body owingBody due owingDue).commit
  | .cancelQueuedDelivery now requester message reason =>
    (Kelpie.cancelQueuedDelivery now requester message reason).commit
  | .supersedeSettledQueuedAsks nowMs => (Kelpie.supersedeSettledQueuedAsks nowMs).commit
  | .observeAskAvailability nowMs => (Kelpie.observeAskAvailability nowMs).commit
  | .orphanAsk now ask => (Kelpie.orphanAsk now ask).commit
  | .endSocketWaiter now agent owingDue reason =>
    (endSocketWaiterWithOwingDue now agent owingDue reason).commit
  | .observeReminderLifecycle ask sawWorking next =>
    (Kelpie.observeReminderLifecycle ask sawWorking next).commit
  | .prepareReminderAttempt reminder request nowMs =>
    (Kelpie.prepareReminderAttempt reminder request nowMs).commit
  | .submitReminderAttempt request => (Kelpie.submitReminderAttempt request).commit
  | .resolveReminderAttempt request outcome evidence nowMs =>
    (Kelpie.resolveReminderAttempt request outcome evidence nowMs).commit
  | .deferBusyReminder ask nowMs recheck =>
    (Kelpie.deferBusyReminder ask nowMs recheck).commit
  | .reconcileReminderAttempts now => (Kelpie.reconcileReminderAttempts now).commit
  | .snoozeReminder now requester ask untilMs =>
    (Kelpie.snoozeReminder now requester ask untilMs).commit
  | .increaseReminderInterval now requester ask every =>
    (Kelpie.increaseReminderInterval now requester ask every).commit
  | .disableReminder now requester ask => (Kelpie.disableReminder now requester ask).commit
  | .createRenew now intent => (Kelpie.createRenew now intent).commit
  | .accrueRenewOccupancy renew accumulating nowMs =>
    (Kelpie.accrueRenewOccupancy renew accumulating nowMs).commit
  | .markRenewPreparing renew ask deadline =>
    (Kelpie.markRenewPreparing renew ask deadline).commit
  | .markRenewReady now renew => (Kelpie.markRenewReady now renew).commit
  | .markRenewClearing renew session deadline notBefore =>
    (Kelpie.markRenewClearing renew session deadline notBefore).commit
  | .claimRenewClearStallNotice renew nowMs =>
    (Kelpie.claimRenewClearStallNotice renew nowMs).commit
  | .markRenewInjected renew => (Kelpie.markRenewInjected renew).commit
  | .markRenewTimedOut renew => (Kelpie.markRenewTimedOut renew).commit
  | .completeRenew now renew => (Kelpie.completeRenew now renew).commit
  | .abortRenew now renew reason => (Kelpie.abortRenew now renew reason).commit
  | .abandonRenewProof now renew reason => (Kelpie.abandonRenewProof now renew reason).commit
  | .terminateRenew now renew reason => (Kelpie.terminateRenew now renew reason).commit
  | .terminateRenewAnnounced now renew reason notice =>
    (Kelpie.terminateRenewAnnounced now renew reason notice).commit
  | .cancelRenew now renew requester reason notice =>
    (Kelpie.cancelRenew now renew requester reason notice).commit
  | .prepareRenewAttempt renew inc step request nowMs =>
    (Kelpie.prepareRenewAttempt renew inc step request nowMs).commit
  | .submitRenewAttempt request => (Kelpie.submitRenewAttempt request).commit
  | .resolveRenewAttempt request outcome evidence nowMs =>
    (Kelpie.resolveRenewAttempt request outcome evidence nowMs).commit
  | .createTellSchedule now sender recipient body interval first key =>
    (Kelpie.createTellSchedule now sender recipient body interval first key).commit
  | .fireTellSchedule item nowMs => (Kelpie.fireTellSchedule item nowMs).commit
  | .cancelSchedule now schedule requester reason =>
    (Kelpie.cancelSchedule now schedule requester reason).commit
  | .createClear now recipient inc command session delay key =>
    (Kelpie.createClear now recipient inc command session delay key).commit
  | .completeClear now op inc session delay =>
    (Kelpie.completeClear now op inc session delay).commit
  | .reconcileReadyIncarnations now snapshot =>
    (Kelpie.reconcileReadyIncarnations now snapshot).commit
  | .releaseAbsentAliasBinding now name snapshot =>
    (Kelpie.releaseAbsentAliasBinding now name snapshot).commit
  | .settleAbsentUnknownStart now row => (Kelpie.settleAbsentUnknownStart now row).commit
  | .reconcileRetirement now op inc pane terminal snapshot =>
    (Kelpie.reconcileRetirement now op inc pane terminal snapshot).commit
  | .continueRestoredOccupants now snapshot =>
    (Kelpie.continueRestoredOccupants now snapshot).commit
  | .failUnattemptedClear now op => (Kelpie.failUnattemptedClear now op).commit
  | .createOperatorNotice now body => (insertOperatorNotice now body).commit
  | .claimLiveOperations => Kelpie.claimLiveOperations.commit
  | .archiveDeadIdentities nowMs grace => (Kelpie.archiveDeadIdentities nowMs grace).commit

/-- One committed call. -/
def Call.Step (c : Call) (s s' : Store) : Prop := c.commit s = .ok s'

/-- The answer of a call that succeeds is the state it steps to. -/
theorem Call.step_of_mem {c : Call} {s s' : Store} (h : s' ∈ (c.commit s).toOption) :
    c.Step s s' := by
  unfold Call.Step
  cases h_commit : c.commit s with
  | error e => simp [h_commit, Except.toOption] at h
  | ok t => simpa [h_commit, Except.toOption] using h

/-- The runs of the store whose every call meets `ok` in the state it finds. -/
abbrev StoreRun (ok : Call → Store → Prop) : Store → Store → Prop := Run Call.Step ok

/-- The states that such a run reaches from the empty store. -/
def Reachable (ok : Call → Store → Prop) (s : Store) : Prop := StoreRun ok Store.empty s

-- ============================================================================
-- Sequences of calls
-- ============================================================================

/-- The calls succeed one after the other, each meeting `ok` where it starts, and leave a
    state that meets `P`. -/
def Leads (ok : Call → Store → Prop) (P : Store → Prop) : List Call → Store → Prop
  | [], s => P s
  | c :: cs, s => ok c s ∧
    match c.commit s with
    | .ok s' => Leads ok P cs s'
    | .error _ => False

/-- A run of calls is decided call by call. -/
def Leads.decide {ok : Call → Store → Prop} {P : Store → Prop} [∀ c s, Decidable (ok c s)]
    [DecidablePred P] : (cs : List Call) → (s : Store) → Decidable (Leads ok P cs s)
  | [], s => inferInstanceAs (Decidable (P s))
  | c :: cs, s =>
    have : Decidable (match c.commit s with
        | .ok s' => Leads ok P cs s'
        | .error _ => False) :=
      match c.commit s with
      | .ok s' => Leads.decide cs s'
      | .error _ => inferInstanceAs (Decidable False)
    inferInstanceAs (Decidable (_ ∧ _))

instance {ok : Call → Store → Prop} {P : Store → Prop} [∀ c s, Decidable (ok c s)]
    [DecidablePred P] (cs : List Call) (s : Store) : Decidable (Leads ok P cs s) :=
  Leads.decide cs s

theorem Leads.run {ok : Call → Store → Prop} {P : Store → Prop} {cs : List Call} {s : Store}
    (h : Leads ok P cs s) : ∃ t, StoreRun ok s t ∧ P t := by
  induction cs generalizing s with
  | nil => exact ⟨s, .refl, h⟩
  | cons c cs ih =>
    obtain ⟨h_ok, h⟩ := h
    split at h
    · rename_i s' h_step
      obtain ⟨t, h_run, h_t⟩ := ih h
      exact ⟨t, .trans (.single c h_ok h_step) h_run, h_t⟩
    · exact h.elim

theorem Reachable.invariant {ok : Call → Store → Prop} {I : Store → Prop} {s : Store}
    (h : Reachable ok s) (h_empty : I Store.empty)
    (h_inv : ∀ c a b, I a → ok c a → c.Step a b → I b) : I s :=
  Run.invariant h h_empty h_inv

-- ============================================================================
-- A run to begin with
-- ============================================================================

/-- The immediate adoption of a live agent under the name that it carries. -/
def adopting (now : Millis) (paneId terminalId publicName idempotencyKey : String) : Call :=
  .declareAdopt now { paneId, expectedTerminalId := terminalId, idempotencyKey }
    { paneId, terminalId, publicName, backendKind := "claude", workingDirectory := "/",
      launchPending := false, nativeAgentSession := none }

/-- Two live agents, an asker and a worker, with an ask between them. -/
def askedRun : List Call :=
  [adopting 1 "w1:p1" "t1" "asker" "k1", adopting 1 "w1:p2" "t2" "worker" "k2",
    .createAsk 2 1 2 2 "Which branch?" "k3" none none false .inject]

/-- An ask with a reminder policy. -/
def remindedRun : List Call :=
  [adopting 1 "w1:p1" "t1" "asker" "k1", adopting 1 "w1:p2" "t2" "worker" "k2",
    .createAsk 2 1 2 2 "Which branch?" "k3" none (some 1000) false .inject]

/-- What a worker on the first pane is launched with. -/
def workerIntent : StartIntent :=
  { publicName := "worker", paneId := "w1:p1", expectedTerminalId := "t1",
    backendKind := "claude", initialMessage := { sender := none, kind := .tell, body := "Go." },
    idempotencyKey := "k1" }

/-- A start that was declared and attempted. -/
def startingRun : List Call :=
  [.declareStart 1 workerIntent, .beginAttempt 2 1 1 "r1"]

/-- The two steps that lead up to the write of one prompt. -/
def submitting (now : Millis) (operationId : OperationId) (incarnationId : IncarnationId)
    (requestId : String) : List Call :=
  [.beginAttempt now operationId incarnationId requestId,
    .markSubmitted now operationId 1 requestId]

end Kelpie
