/-
  Kelpie.Serving.Rounds

  What a request line and an event of the executor do to the requests of the clients,
  and on what condition none is lost.
-/

import Kelpie.Serving.Launches
import Kelpie.Serving.Lines
import Kelpie.Serving.Notices
import Kelpie.Serving.Panes

namespace Kelpie

open Lib

/-- The clear whose rotation is looked at. -/
def AwaitingClearState.rotation? : AwaitingClearState → Option AwaitingClear
  | .rotation awaiting => some awaiting
  | .settling _ _ | .probe _ _ | .sending _ _ _ => none

namespace Daemon

variable {d : Daemon} {inHand : NoticeSession → Nat} {all : Multiset RequestTicket}

-- ============================================================================
-- Lines
-- ============================================================================

section Lines

variable {readers : ParamReaders} {k : LineCalls} {request : ClientRequest} {stream : StreamId}
  {served : Except String Served × Daemon}

/-- The request is answered, or parked with what it waits for. -/
def Takes (all : Multiset RequestTicket) (inHand : NoticeSession → Nat)
    (served : Except String Served × Daemon) : Prop :=
  ∃ what, served.1 = .ok what ∧ (served.2.parkServed what).Owes all [] inHand

theorem Owes.answerNow {requestId : String} {result : Except RequestError Value}
    (h : d.Owes all [⟨stream, requestId⟩] inHand) :
    Takes all inHand (d.answerNow stream requestId result) :=
  ⟨.answered, rfl, h.answer⟩

theorem Owes.serveStart (h : d.Owes all [⟨stream, request.id⟩] inHand) :
    Takes all inHand (d.serveStart k request stream) := by
  rw [Daemon.serveStart]
  split
  · exact ⟨_, rfl, Owes.parkStart rfl h⟩
  · exact h.answerNow

theorem Owes.beginReplies (h : d.Owes all [⟨stream, request.id⟩] inHand) :
    Takes all inHand (d.beginReplies k request stream) := by
  rw [Daemon.beginReplies]
  split
  · exact h.answerNow
  · exact ⟨_, rfl, Owes.parkReplies h⟩
  · exact h.answerNow

theorem Owes.serveInboxClaim (h : d.Owes all [⟨stream, request.id⟩] inHand) :
    Takes all inHand (d.serveInboxClaim k request stream) := by
  rw [Daemon.serveInboxClaim]
  split
  · exact ⟨_, rfl, h.answer⟩
  · exact h.answerNow

theorem Owes.servePrompt (h : d.Owes all [⟨stream, request.id⟩] inHand) :
    Takes all inHand (d.servePrompt k request stream) := by
  rw [Daemon.servePrompt]
  split
  · exact ⟨_, rfl, Owes.parkRead rfl h⟩
  · split
    · exact h.answerNow
    · exact ⟨_, rfl, Owes.parkPrompt rfl (fun _ => ⟨rfl, rfl⟩) rfl h⟩
    · exact h.answerNow

theorem Owes.serveClear (h : d.Owes all [⟨stream, request.id⟩] inHand) :
    Takes all inHand (d.serveClear k request stream) := by
  rw [Daemon.serveClear]
  split
  · exact ⟨_, rfl, Owes.parkRead rfl h⟩
  · split
    · exact h.answerNow
    · rename_i state h_begin
      obtain ⟨clear, due, rfl⟩ := beginClear_awaiting h_begin
      exact ⟨_, rfl, Owes.parkClear rfl rfl rfl h⟩
    · exact h.answerNow

theorem prepared_ne {α : Type} {prepared : Except RequestError (Option α)}
    {kind : α → ClientReadKind} {other : ClientReadKind} (h : ∀ x, kind x ≠ other) :
    prepared.map (·.map kind) ≠ .ok (some other) := by
  intro h_eq
  cases prepared with
  | error error => cases h_eq
  | ok read =>
    cases read with
    | none => cases h_eq
    | some x => exact h x (Option.some.inj (Except.ok.inj h_eq))

theorem Owes.serveRead {prepared : Except RequestError (Option ClientReadKind)}
    {result : Except RequestError Value} (h : d.Owes all [⟨stream, request.id⟩] inHand)
    (h_kind : ∀ name lazyKey resume, prepared ≠ .ok (some (.ofAlias name lazyKey resume))) :
    Takes all inHand (d.serveRead request stream prepared result) := by
  rw [Daemon.serveRead.eq_def]
  split
  · rename_i kind
    refine ⟨_, rfl, Owes.parkRead ?_ h⟩
    cases kind with
    | ofAlias name lazyKey resume => exact absurd rfl (h_kind name lazyKey resume)
    | _ => trivial
  · exact h.answerNow
  · exact h.answerNow

theorem Owes.serveReport (h : d.Owes all [⟨stream, request.id⟩] inHand)
    (h_reads : (readers.report request.params).isOk) :
    Takes all inHand (d.serveReport readers k request stream) := by
  rw [Daemon.serveReport]
  split
  · rename_i error h_error
    rw [h_error] at h_reads
    cases h_reads
  · split
    · exact ⟨_, rfl, Owes.parkRead trivial h⟩
    · exact h.answerNow

theorem Owes.serveAdopt (h : d.Owes all [⟨stream, request.id⟩] inHand)
    (h_reads : (readers.adopt request.params).isOk) :
    Takes all inHand (d.serveAdopt readers request stream) := by
  rw [Daemon.serveAdopt]
  split
  · rename_i error h_error
    rw [h_error] at h_reads
    cases h_reads
  · exact ⟨_, rfl, Owes.parkAdopt rfl rfl (fun _ h_none => absurd h_none (Option.not_mem_none _)) h⟩

theorem Owes.serveRename (h : d.Owes all [⟨stream, request.id⟩] inHand)
    (h_reads : (readers.rename request.params).isOk) :
    Takes all inHand (d.serveRename readers k request stream) := by
  rw [Daemon.serveRename]
  split
  · rename_i error h_error
    rw [h_error] at h_reads
    cases h_reads
  · dsimp only
    split
    · refine ⟨_, rfl, ?_⟩
      rw [parkServed]
      exact Owes.parkRename rfl rfl h
    · exact h.answerNow

theorem Owes.serveRetire (h : d.Owes all [⟨stream, request.id⟩] inHand)
    (h_reads : (readers.retire request.params).isOk) :
    Takes all inHand (d.serveRetire readers k request stream) := by
  rw [Daemon.serveRetire]
  split
  · rename_i error h_error
    rw [h_error] at h_reads
    cases h_reads
  · split
    · exact h.answerNow
    · split
      · refine ⟨_, rfl, ?_⟩
        rw [parkServed]
        exact Owes.parkRetire rfl rfl h
      · exact h.answerNow

theorem Owes.serveWaiterRetire (h : d.Owes all [⟨stream, request.id⟩] inHand)
    (h_reads : (readers.waiterRetire request.params).isOk) :
    Takes all inHand (d.serveWaiterRetire readers k request stream) := by
  rw [Daemon.serveWaiterRetire]
  split
  · rename_i error h_error
    rw [h_error] at h_reads
    cases h_reads
  · split
    · exact h.answerNow
    · split
      · exact ⟨_, rfl, h.parkWaiterRetire⟩
      · exact h.answerNow

theorem Owes.serveCancel (h : d.Owes all [⟨stream, request.id⟩] inHand) :
    Takes all inHand (d.serveCancel k request stream) := by
  rw [Daemon.serveCancel]
  split
  · exact h.answerNow
  · rename_i outcome prompts h_prompts h_cancel
    exact ⟨_, rfl, Owes.parkCancel h_prompts h⟩
  · exact h.answerNow

/-- The id that the answer to the line carries. -/
def lineId : Except String ClientRequest → String
  | .ok request => request.id
  | .error _ => ""

theorem Owes.serveParsedLine {line : Except String ClientRequest}
    (h : d.Owes all [⟨stream, lineId line⟩] inHand)
    (h_reads : ∀ request, line = .ok request → readers.Reads request) :
    Takes all inHand (d.serveParsedLine readers k stream line) := by
  cases line with
  | error message => exact h.answerNow
  | ok request =>
    have h_request : d.Owes all [⟨stream, request.id⟩] inHand := h
    obtain ⟨h_report, h_adopt, h_rename, h_retire, h_waiterRetire⟩ := h_reads request rfl
    rw [Daemon.serveParsedLine]
    split
    · exact h_request.serveStart
    · exact h_request.serveStart
    · exact h_request.beginReplies
    · exact h_request.serveInboxClaim
    · exact h_request.servePrompt
    · exact h_request.servePrompt
    · exact h_request.servePrompt
    · exact h_request.serveClear
    · exact ⟨_, rfl, Owes.parkRead trivial h_request⟩
    · exact h_request.serveRead fun _ _ _ => prepared_ne nofun
    · refine h_request.serveRead fun _ _ _ => prepared_ne fun read => ?_
      cases read <;> exact nofun
    · exact h_request.serveReport (h_report ‹_›)
    · exact h_request.serveRead fun _ _ _ => prepared_ne nofun
    · exact h_request.serveAdopt (h_adopt ‹_›)
    · exact h_request.serveRename (h_rename ‹_›)
    · exact h_request.serveRetire (h_retire ‹_›)
    · exact h_request.serveWaiterRetire (h_waiterRetire ‹_›)
    · exact h_request.serveCancel
    · exact h_request.answerNow

theorem Owes.dispatchLine {line : Except String ClientRequest}
    (h : d.Owes all [⟨stream, lineId line⟩] inHand)
    (h_reads : ∀ request, line = .ok request → readers.Reads request) :
    (d.dispatchLine readers k stream line).Owes all [] inHand := by
  obtain ⟨what, h_what, h_taken⟩ := h.serveParsedLine (k := k) h_reads
  rw [Daemon.dispatchLine]
  split
  · rename_i served d' h_served
    rw [h_served] at h_what h_taken
    cases h_what
    exact h_taken
  · rename_i error d' h_served
    rw [h_served] at h_what
    cases h_what

theorem serveParsedLine_unread (h : ¬ readers.Reads request) :
    ∃ error, d.serveParsedLine readers k stream (.ok request) = (.error error, d) := by
  rw [Daemon.serveParsedLine]
  by_contra h_none
  refine h ⟨fun h_method => ?_, fun h_method => ?_, fun h_method => ?_, fun h_method => ?_,
    fun h_method => ?_⟩
  · cases h_params : readers.report request.params with
    | ok params => rfl
    | error error =>
      refine absurd ⟨error, ?_⟩ h_none
      simp only [h_method, Daemon.serveReport, h_params]
  · cases h_params : readers.adopt request.params with
    | ok params => rfl
    | error error =>
      refine absurd ⟨error, ?_⟩ h_none
      simp only [h_method, Daemon.serveAdopt, h_params]
  · cases h_params : readers.rename request.params with
    | ok params => rfl
    | error error =>
      refine absurd ⟨error, ?_⟩ h_none
      simp only [h_method, Daemon.serveRename, h_params]
  · cases h_params : readers.retire request.params with
    | ok params => rfl
    | error error =>
      refine absurd ⟨error, ?_⟩ h_none
      simp only [h_method, Daemon.serveRetire, h_params]
  · cases h_params : readers.waiterRetire request.params with
    | ok params => rfl
    | error error =>
      refine absurd ⟨error, ?_⟩ h_none
      simp only [h_method, Daemon.serveWaiterRetire, h_params]

/-- A line whose params do not parse is given up: nobody answers or holds its request. -/
theorem dispatchLine_unread (h : ¬ readers.Reads request) :
    d.dispatchLine readers k stream (.ok request) = d := by
  have h_unread : ∃ error, d.serveParsedLine readers k stream (.ok request) = (.error error, d) :=
    serveParsedLine_unread h
  obtain ⟨error, h_error⟩ := h_unread
  rw [Daemon.dispatchLine, h_error]

end Lines

-- ============================================================================
-- Events
-- ============================================================================

section Events

variable {k : KelpieCalls} {j : JobId}

/-- The job was submitted for a table of parked requests. -/
def Serves (d : Daemon) (j : JobId) : Prop :=
  ∃ t : Awaiting, t.owner = d.herdrOwners j ∧ t.owner.isSome

instance : Decidable (d.Serves j) := by
  unfold Serves
  infer_instance

/-- What the executor can report: a connection that was being opened, the result of what
    was called or sent, and the end of a job that it owes nothing more for. -/
def Reports (d : Daemon) : HerdrEvent → Prop
  | .opened j => d.Serves j → d.herdrExec j = some .opening ∨ d.herdrExec j = none
  | .done j _ => d.Serves j → d.herdrExec j ≠ some .opening
  | .dropped j => d.Serves j → d.herdrExec j = none
  | .written _ _ | .failed _ _ _ => True

instance (event : HerdrEvent) : Decidable (d.Reports event) := by
  unfold Reports
  split <;> infer_instance

/-- The rotation of the clear is observed: Herdr answers with the agent, and either its
    session has changed and the clear is recorded, or the deadline has not passed. -/
def Observes (k : KelpieCalls) (awaiting : AwaitingClear)
    (observed : Except HerdrError AgentObservation) : Prop :=
  observed.isOk ∧ (k.sessionRotated → k.finishClear.isOk) ∧
    (¬ k.sessionRotated → k.nowMs < awaiting.deadline)

instance {awaiting : AwaitingClear} {observed : Except HerdrError AgentObservation} :
    Decidable (Observes k awaiting observed) := by
  unfold Observes
  infer_instance

/-- The event takes no request from its table without an answer: the store commits to the
    notice that a connection is there for, and the rotation of a clear is observed. -/
def Delivers (k : KelpieCalls) (d : Daemon) : HerdrEvent → Prop
  | .opened j =>
    ∀ prompt ∈ d.awaiting .prompts, prompt.1 = j → prompt.2.session.isSome →
      k.commitPromptIntent.isOk
  | .done j result =>
    ∀ clear ∈ d.awaiting .clears, clear.herdrJob = some j →
      ∀ awaiting ∈ clear.state.rotation?, Observes k awaiting (rotationObserved result)
  | .written _ _ | .failed _ _ _ | .dropped _ => True

/-- What is marked unknown ends in an error either way. -/
theorem marked_isOk {α : Type} {marked : Except RequestError Unit} {error : RequestError} :
    (marked >>= fun _ => (.error error : Except RequestError α)).isOk = false := by
  cases marked <;> rfl

theorem isOk_map {α β : Type} {r : Except RequestError α} {f : α → β} :
    (r.map f).isOk = r.isOk := by
  cases r <;> rfl

instance {event : HerdrEvent} : Decidable (Delivers k d event) := by
  unfold Delivers
  split <;> infer_instance

theorem observes_iff {awaiting : AwaitingClear} {observed : Except HerdrError AgentObservation} :
    Observes k awaiting observed ↔ (applyClearRotationObservation k awaiting observed).isOk := by
  rw [Observes]
  cases observed with
  | error error =>
    rw [applyClearRotationObservation, marked_isOk]
    constructor
    · rintro ⟨h_ok, -⟩
      cases h_ok
    · intro h_ok
      cases h_ok
  | ok agent =>
    rw [applyClearRotationObservation]
    by_cases h_rotated : k.sessionRotated = true
    · rw [if_pos h_rotated, isOk_map]
      exact ⟨fun h => h.2.1 h_rotated, fun h => ⟨rfl, fun _ => h, absurd h_rotated⟩⟩
    · rw [if_neg h_rotated]
      by_cases h_late : awaiting.deadline ≤ k.nowMs
      · rw [if_pos h_late, marked_isOk]
        constructor
        · rintro ⟨-, -, h_lt⟩
          exact absurd h_late (not_le_of_gt (h_lt h_rotated))
        · intro h_ok
          cases h_ok
      · rw [if_neg h_late]
        exact ⟨fun _ => rfl, fun _ => ⟨rfl, (absurd · h_rotated), fun _ => lt_of_not_ge h_late⟩⟩

/-- Nothing waits for a job of the daemon's own. -/
theorem Kept.free_of_own (h : d.Kept inHand) (h_own : ¬ d.Serves j) :
    ∀ t : Awaiting, ∀ e ∈ d.awaiting t, t.job e ≠ some j :=
  h.free fun t h_t h_some => absurd ⟨t, h_t, h_some⟩ h_own

theorem serves_iff {owner : HerdrOwner} (h : d.herdrOwners j = some owner) :
    d.Serves j ↔ ∃ t : Awaiting, t.owner = some owner := by
  rw [Serves, h]
  exact ⟨fun ⟨t, h_t, _⟩ => ⟨t, h_t⟩, fun ⟨t, h_t⟩ => ⟨t, h_t, h_t ▸ rfl⟩⟩

theorem Owes.endOwn (h : d.Owes all [] inHand) (h_own : ¬ d.Serves j) :
    (d.endJob j).Owes all [] inHand := by
  refine h.idle h.kept.handles.endJob fun i h_i => ?_
  obtain rfl : j = i := Option.some.inj h_i
  exact h.kept.free_of_own h_own

theorem Owes.onOpened (h : d.Owes all [] inHand) (h_reports : d.Reports (.opened j))
    (h_delivers : Delivers k d (.opened j)) : (d.onEvent k (.opened j)).Owes all [] inHand := by
  rw [Daemon.onEvent]
  cases h_owner : d.herdrOwners j with
  | none => exact h.endOwn (by
      rw [Serves, h_owner]
      decide)
  | some owner =>
    have h_stage := fun h_serves => h_reports ((serves_iff h_owner).mpr h_serves)
    cases owner with
    | prompt =>
      refine h.onPromptOpened h_owner fun index prompt h_entry h_some => ?_
      obtain ⟨pre, post, h_at, -, -⟩ := entry_at h_entry
      exact h_delivers _ (h_at ▸ List.mem_append_right pre List.mem_cons_self) rfl h_some
    | start => exact h.onStartOpened h_owner
    | clear => exact h.onClearOpened h_owner (h_stage ⟨.clears, rfl⟩)
    | adopt => exact h.onAdoptOpened h_owner (h_stage ⟨.adopts, rfl⟩)
    | rename => exact h.onRenameOpened h_owner (h_stage ⟨.renames, rfl⟩)
    | retire => exact h.onRetireOpened h_owner (h_stage ⟨.retires, rfl⟩)
    | renew => exact h
    | clientRead =>
      refine h.idle h.kept.handles.endJob fun i h_i => ?_
      obtain rfl : j = i := Option.some.inj h_i
      refine h.kept.free_of_table (t := .reads) h_owner fun read h_read h_job => ?_
      obtain ⟨-, s, h_s, h_fits⟩ := (h.kept.attended .reads).outstanding read h_read j h_job
      obtain rfl : s = .calling := h_fits
      rcases h_stage ⟨.reads, rfl⟩ with h_opening | h_none
      · cases h_s.symm.trans h_opening
      · cases h_s.symm.trans h_none
    | reminderSnapshot | bootRecover | obligationSweep =>
      refine h.endOwn ?_
      rw [serves_iff h_owner]
      decide

theorem Owes.onDone {result : Except HerdrError HerdrJobResult} (h : d.Owes all [] inHand)
    (h_reports : d.Reports (.done j result)) (h_delivers : Delivers k d (.done j result)) :
    (d.onEvent k (.done j result)).Owes all [] inHand := by
  rw [Daemon.onEvent]
  have h_same : (d.endJob j).herdrOwners j = d.herdrOwners j := rfl
  cases h_owner : d.herdrOwners j with
  | none =>
    rw [h_owner] at h_same
    rw [h_same]
    exact h.endOwn (by
      rw [Serves, h_owner]
      decide)
  | some owner =>
    have h_stage := fun h_serves => h_reports ((serves_iff h_owner).mpr h_serves)
    rw [h_owner] at h_same
    rw [h_same]
    cases owner with
    | prompt => exact h.finishParkedPrompt h_owner
    | start => exact h.onStartDone h_owner (h_stage ⟨.starts, rfl⟩)
    | clear =>
      refine h.onClearDone h_owner fun index clear awaiting h_entry h_state => ?_
      obtain ⟨pre, post, h_at, -, h_job⟩ := entry_at h_entry
      have h_mem : clear ∈ d.awaiting .clears := h_at ▸ List.mem_append_right pre List.mem_cons_self
      have h_clear := h_delivers clear h_mem h_job
      rw [h_state] at h_clear
      exact observes_iff.mp (h_clear awaiting rfl)
    | clientRead => exact h.onClientReadDone h_owner
    | adopt => exact h.onAdoptDone h_owner
    | rename => exact h.onRenameDone h_owner
    | retire => exact h.onRetireDone h_owner
    | renew | reminderSnapshot | bootRecover | obligationSweep =>
      refine h.endOwn ?_
      rw [serves_iff h_owner]
      decide

theorem Owes.onFailed {phase : FailPhase} {error : HerdrError} (h : d.Owes all [] inHand) :
    (d.onEvent k (.failed j phase error)).Owes all [] inHand := by
  rw [Daemon.onEvent]
  have h_same : (d.endJob j).herdrOwners j = d.herdrOwners j := rfl
  have h_handles : Handles (some j) d (d.endJob j) := h.kept.handles.endJob
  cases h_owner : d.herdrOwners j with
  | none =>
    rw [h_owner] at h_same
    rw [h_same]
    exact h.endOwn (by
      rw [Serves, h_owner]
      decide)
  | some owner =>
    rw [h_owner] at h_same
    rw [h_same]
    cases owner with
    | prompt => exact h.failParkedPrompt h_handles h_owner
    | start => exact h.onStartFailed h_owner
    | clear => exact h.failParkedClear h_handles h_owner
    | clientRead => exact h.failClientRead h_owner
    | adopt => exact h.onAdoptFailed h_owner
    | rename => exact h.onRenameFailed h_owner
    | retire => exact h.onRetireFailed h_owner
    | renew | reminderSnapshot | bootRecover | obligationSweep =>
      refine h.endOwn ?_
      rw [serves_iff h_owner]
      decide

theorem Owes.onDropped (h : d.Owes all [] inHand) (h_reports : d.Reports (.dropped j)) :
    (d.onEvent k (.dropped j)).Owes all [] inHand := by
  have h_same : Handles (some j) d d := h.kept.handles
  have h_dropped : Handles (some j) d (d.onEvent k (.dropped j)) := by
    refine { h_same with others := fun i s h_i h_s => ⟨h_s, ?_⟩ }
    have h_ne : i ≠ j := fun h_eq => h_i (congrArg some h_eq.symm)
    exact Function.update_of_ne h_ne ..
  refine h.idle h_dropped fun i h_i t e h_e h_job => ?_
  obtain rfl : j = i := Option.some.inj h_i
  obtain ⟨h_owner, s, h_s, -⟩ := (h.kept.attended t).outstanding e h_e j h_job
  have h_none := h_reports ⟨t, h_owner.symm, Awaiting.owner_isSome h_job⟩
  cases h_s.symm.trans h_none

theorem Owes.onEvent {event : HerdrEvent} (h : d.Owes all [] inHand)
    (h_reports : d.Reports event) (h_delivers : Delivers k d event) :
    (d.onEvent k event).Owes all [] inHand := by
  cases event with
  | opened j => exact h.onOpened h_reports h_delivers
  | written j pause => exact h
  | done j result => exact h.onDone h_reports h_delivers
  | failed j phase error => exact h.onFailed
  | dropped j => exact h.onDropped h_reports

/-- An entry that waits for no job is not found by the one it waited for. -/
theorem entry_unset {t : Awaiting} {e e' : t.Entry} {pre post : List t.Entry} {index : Nat}
    (h : d.Kept inHand) (h_at : d.awaiting t = pre ++ e :: post) (h_index : pre.length = index)
    (h_job : t.job e = some j) (h_job' : t.job e' = none) :
    (d.setAt t index e').entryForJob t j = none := by
  have h_set : (d.setAt t index e').awaiting t = pre ++ e' :: post := by
    rw [setAt, awaiting_put_self, h_at, set_at h_index]
  have h_attended : Attended t.waiting d.herdrExec d.herdrOwners t.owner (pre ++ e :: post) :=
    h_at ▸ h.attended t
  cases h_found : (d.setAt t index e').entryForJob t j with
  | none => rfl
  | some found =>
    obtain ⟨pre', post', h_at', -, h_found_job⟩ := entry_at h_found
    have h_mem : found.2 ∈ pre ++ e' :: post := by
      rw [← h_set, h_at']
      exact List.mem_append_right pre' List.mem_cons_self
    rcases List.mem_cons.mp (List.perm_middle.mem_iff.mp h_mem) with h_eq | h_rest
    · rw [h_eq, h_job'] at h_found_job
      cases h_found_job
    · exact absurd h_job (h_attended.job_ne h_rest h_found_job)

/-- A clear whose rotation is not observed stays parked, and its client hears nothing. -/
theorem onClearDone_unobserved {result : Except HerdrError HerdrJobResult} {index : Nat}
    {clear : AwaitingClearRequest} {awaiting : AwaitingClear} (h : d.Kept inHand)
    (h_entry : d.entryForJob .clears j = some (index, clear))
    (h_state : clear.state = .rotation awaiting)
    (h_not : ¬ Observes k awaiting (rotationObserved result)) :
    ((d.endJob j).onClearDone k j result).responses = d.responses ∧
      ((d.endJob j).onClearDone k j result).held = d.held ∧
      ⟨clear.stream, clear.requestId⟩ ∈ ((d.endJob j).onClearDone k j result).failed := by
  obtain ⟨requestId, state, stream, herdrJob, lease⟩ := clear
  obtain rfl : state = .rotation awaiting := h_state
  obtain ⟨pre, post, h_at, h_index, h_job⟩ := entry_at h_entry
  have h_ended : (d.endJob j).entryForJob .clears j = _ := h_entry
  rw [Daemon.onClearDone, h_ended]
  dsimp only
  rw [Daemon.onClearRotation]
  dsimp only
  cases h_observed : applyClearRotationObservation k awaiting (rotationObserved result) with
  | ok cleared =>
    have h_ok := mt observes_iff.mpr h_not
    rw [h_observed] at h_ok
    exact absurd rfl h_ok
  | error error =>
    let clear' : AwaitingClearRequest := ⟨requestId, .rotation awaiting, stream, none, lease⟩
    have h_gone : (d.setAt .clears index clear').entryForJob .clears j = none :=
      entry_unset (t := .clears) h h_at h_index h_job rfl
    have h_held : ((d.endJob j).setAt .clears index clear').held = d.held :=
      held_setAt (d := d.endJob j) (t := .clears) h_at h_index rfl
    dsimp only
    rw [Daemon.failParkedClear]
    split
    · exact ⟨rfl, h_held, List.mem_append_right _ List.mem_cons_self⟩
    · rename_i h_found
      cases h_found.symm.trans h_gone

/-- A notice that the store does not commit to is dropped, and its session goes on waiting
    for it. -/
theorem onPromptOpened_uncommitted {index : Nat} {prompt : AwaitingPrompt} {x : NoticeSession}
    (h : d.Kept inHand) (h_entry : d.entryForJob .prompts j = some (index, j, prompt))
    (h_session : prompt.session = some x) (h_not : ¬ k.commitPromptIntent.isOk) :
    (d.onPromptOpened k j).responses = d.responses ∧
      (d.onPromptOpened k j).sessions = d.sessions ∧
      (d.onPromptOpened k j).notices x + 1 = d.notices x := by
  obtain ⟨pre, post, h_at, h_index, -⟩ := entry_at h_entry
  have h_ended : (d.endJob j).entryForJob .prompts j = some (index, j, prompt) := h_entry
  have h_reminder : prompt.reminder = none := by
    cases h_some : prompt.reminder with
    | none => rfl
    | some reminder =>
      rw [AwaitingPrompt.session, h_some] at h_session
      cases h_session
  have h_stream : prompt.stream = none := by
    have h_sound := h.sound_at (t := .prompts) h_at
    cases h_some : prompt.stream with
    | none => rfl
    | some stream =>
      have h_client := (h_sound (h_some ▸ rfl)).1
      rw [AwaitingPrompt.session, h_reminder, h_client] at h_session
      cases h_session
  have h_lost : d.onPromptOpened k j =
      ((d.endJob j).removeAt .prompts index).dropLease prompt.lease := by
    rw [Daemon.onPromptOpened, h_entry]
    dsimp only
    rw [h_reminder]
    cases h_commit : k.commitPromptIntent with
    | ok _ => exact absurd (h_commit ▸ rfl) h_not
    | error error =>
      dsimp only
      rw [Daemon.answerParkedPrompt, h_ended]
      dsimp only
      rw [Daemon.writeParkedPrompt, h_stream]
  have h_comm : ((d.endJob j).removeAt .prompts index).dropLease prompt.lease =
      ((d.endJob j).dropLease prompt.lease).removeAt .prompts index := by
    cases prompt.lease <;> rfl
  have h_ended' : Handles (some j) d ((d.endJob j).dropLease prompt.lease) :=
    h.handles.endJob.dropLease (h.lease_at (t := .prompts) h_at)
  rw [h_lost, h_comm]
  refine ⟨h_ended'.responses, (sessions_put (by decide) (by decide)).trans h_ended'.sessions_eq, ?_⟩
  have h_notices := @notices_put ((d.endJob j).dropLease prompt.lease) .prompts (pre ++ post) x
  rw [h_ended'.awaiting, h_at, countP_at, h_ended'.notices_eq] at h_notices
  rw [removeAt, h_ended'.awaiting, h_at, eraseIdx_at h_index]
  have h_one : decide (Awaiting.prompts.session (j, prompt) = some x) = true :=
    decide_eq_true h_session
  rw [if_pos h_one] at h_notices
  omega

end Events

end Daemon

end Kelpie
