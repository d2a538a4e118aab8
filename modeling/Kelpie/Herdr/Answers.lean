/-
  Kelpie.Herdr.Answers

  What the executor tells the daemon about each job: exactly what the worker of
  the job said, or, for a snapshot that shares another one's request, what the
  worker of that one said.
-/

import Kelpie.Herdr.Lanes

namespace Kelpie

open Lib

-- ============================================================================
-- What a worker says
-- ============================================================================

/-- The events that a worker sends about a job up to a stage of its loop. -/
inductive Reports (job : HerdrJob) : WorkerStage → List HerdrEvent → Prop where
  | taken : Reports job .calling []
  | answered {reply : JobReply} {stage : WorkerStage} {events : List HerdrEvent}
      (h : job.answer reply = some (stage, events)) : Reports job stage events
  | command {events : List HerdrEvent} (input : LeaseInput) (h : Reports job .leased events) :
      Reports job (leaseAnswer job.jobId input).1 (events ++ (leaseAnswer job.jobId input).2)

/-- A job that does not open a pane is one call. -/
def HerdrJob.Calls (job : HerdrJob) : Prop :=
  match job with
  | .openPane _ _ _ => False
  | _ => True

/-- A result of the kind that the job asks for. -/
def HerdrJob.Yields : HerdrJob → Except HerdrError HerdrJobResult → Prop
  | .snapshot _ _, .ok (.snapshot _) => True
  | .lifecycleSnapshot _, .ok (.lifecycle _) => True
  | .agentGet _ _ _, .ok (.agent _) => True
  | _, .ok _ => False
  | _, .error _ => True

/-- What is heard of a lease after `Opened`, up to its end: an outcome for each request
    that was sent on it, and its close. -/
inductive LeaseOutcome (id : JobId) : List HerdrEvent → Prop where
  | dropped : LeaseOutcome id [.dropped id]
  | expired : LeaseOutcome id [.failed id .lease leaseExceeded]
  | refused (error : HerdrError) : LeaseOutcome id [.failed id .connect error]
  | unwritten (outcome : HerdrEvent) {rest : List HerdrEvent}
      (h : (∃ result, outcome = .done id result) ∨ ∃ error, outcome = .failed id .write error)
      (h_rest : LeaseOutcome id rest) : LeaseOutcome id (outcome :: rest)
  | served (pause : String) (outcome : HerdrEvent) {rest : List HerdrEvent}
      (h : (∃ result, outcome = .done id result) ∨ ∃ error, outcome = .failed id .read error)
      (h_rest : LeaseOutcome id rest) : LeaseOutcome id (.written id pause :: outcome :: rest)

/-- A complete answer to a job: one result, or a lease and what became of it. -/
def HerdrJob.Answer (job : HerdrJob) (events : List HerdrEvent) : Prop :=
  match job with
  | .openPane id _ _ =>
    (∃ error, events = [.failed id .connect error]) ∨
      ∃ outcome, LeaseOutcome id outcome ∧ events = .opened id :: outcome
  | job => ∃ result, job.Yields result ∧
      events = [.done job.jobId result, .dropped job.jobId]

section Reports

variable {job : HerdrJob} {stage : WorkerStage} {events : List HerdrEvent}

/-- What was said of a lease so far is the begin of any outcome that goes on from it. -/
def LeaseOutcome.Begins (id : JobId) (said : List HerdrEvent) : Prop :=
  ∀ rest, LeaseOutcome id rest → LeaseOutcome id (said ++ rest)

/-- A command that Herdr is served goes on from what is said of it. -/
theorem served_begins (id : JobId) (cmd : LeaseSend) (reply : LeaseReply) :
    LeaseOutcome.Begins id
      ((if reply.wrote then [.written id cmd.afterWritePause] else []) ++
        [match reply.raw with
          | .ok parsed => .done id (sendResult cmd.method parsed)
          | .error error => .failed id (if reply.wrote then .read else .write) error]) := by
  intro rest h_rest
  cases h_wrote : reply.wrote with
  | false =>
    refine LeaseOutcome.unwritten _ ?_ h_rest
    cases reply.raw with
    | ok parsed => exact .inl ⟨_, rfl⟩
    | error error => exact .inr ⟨error, rfl⟩
  | true =>
    refine LeaseOutcome.served cmd.afterWritePause _ ?_ h_rest
    cases reply.raw with
    | ok parsed => exact .inl ⟨_, rfl⟩
    | error error => exact .inr ⟨error, rfl⟩

/-- One input to a lease is answered with one outcome, or with a close. -/
theorem leaseAnswer_outcome (id : JobId) (input : LeaseInput) :
    ((leaseAnswer id input).1 = .leaving ∧ LeaseOutcome id (leaseAnswer id input).2) ∨
      ((leaseAnswer id input).1 = .leased ∧ LeaseOutcome.Begins id (leaseAnswer id input).2) := by
  cases input with
  | drop => exact .inl ⟨rfl, .dropped⟩
  | timeout => exact .inl ⟨rfl, .expired⟩
  | send cmd reply =>
    unfold leaseAnswer
    dsimp only
    split
    · exact .inl ⟨rfl, .refused _⟩
    · exact .inr ⟨rfl, served_begins id cmd reply⟩

theorem leaseAnswer_ids {id : JobId} {input : LeaseInput} :
    ∀ event ∈ (leaseAnswer id input).2, event.jobId = id := by
  cases input with
  | drop => simp [leaseAnswer, HerdrEvent.jobId]
  | timeout => simp [leaseAnswer, HerdrEvent.jobId]
  | send cmd reply =>
    intro event h_event
    unfold leaseAnswer at h_event
    dsimp only at h_event
    split at h_event
    · cases List.mem_singleton.mp h_event
      rfl
    · rcases List.mem_append.mp h_event with h_written | h_outcome
      · split at h_written
        · cases List.mem_singleton.mp h_written
          rfl
        · cases h_written
      · cases List.mem_singleton.mp h_outcome
        split <;> rfl

/-- What was said about a job is a part of an answer, all of it once its worker leaves. -/
theorem Reports.said (h : Reports job stage events) :
    (stage = .calling ∧ events = []) ∨
    (∃ id pane negotiate said, stage = .leased ∧ job = .openPane id pane negotiate ∧
      events = .opened id :: said ∧ LeaseOutcome.Begins id said) ∨
    stage = .leaving ∧ job.Answer events := by
  induction h with
  | taken => exact .inl ⟨rfl, rfl⟩
  | @answered reply stage events h =>
    cases job with
    | snapshot id negotiate =>
      cases reply with
      | snapshot result =>
        cases h
        refine .inr (.inr ⟨rfl, _, ?_, rfl⟩)
        cases result <;> trivial
      | _ => cases h
    | lifecycleSnapshot id =>
      cases reply with
      | lifecycle result =>
        cases h
        refine .inr (.inr ⟨rfl, _, ?_, rfl⟩)
        cases result <;> trivial
      | _ => cases h
    | agentGet id request target =>
      cases reply with
      | agent result =>
        cases h
        refine .inr (.inr ⟨rfl, _, ?_, rfl⟩)
        cases result <;> trivial
      | _ => cases h
    | openPane id pane negotiate =>
      cases reply with
      | connection result =>
        cases result with
        | ok =>
          cases h
          exact .inr (.inl ⟨id, pane, negotiate, [], rfl, rfl, rfl, fun _ h_rest => h_rest⟩)
        | error error =>
          cases h
          exact .inr (.inr ⟨rfl, .inl ⟨error, rfl⟩⟩)
      | _ => cases h
  | command input h ih =>
    rcases ih with ⟨h_stage, -⟩ | ⟨id, pane, negotiate, said, -, rfl, rfl, h_said⟩ | ⟨h_stage, -⟩
    · cases h_stage
    · rcases leaseAnswer_outcome id input with ⟨h_stage, h_end⟩ | ⟨h_stage, h_more⟩
      · exact .inr (.inr ⟨h_stage, .inr ⟨_, h_said _ h_end, rfl⟩⟩)
      · refine .inr (.inl ⟨id, pane, negotiate, said ++ (leaseAnswer id input).2, h_stage, rfl, rfl,
          fun rest h_rest => ?_⟩)
        rw [List.append_assoc]
        exact h_said _ (h_more rest h_rest)
    · cases h_stage

/-- A worker says nothing about other jobs. -/
theorem Reports.ids (h : Reports job stage events) : ∀ event ∈ events, event.jobId = job.jobId := by
  induction h with
  | taken => simp
  | @answered reply stage events h =>
    cases job <;> cases reply <;> try cases h
    case connection result => cases result <;> cases h <;> simp [HerdrEvent.jobId, HerdrJob.jobId]
    all_goals simp [HerdrEvent.jobId, HerdrJob.jobId]
  | command input h ih =>
    intro event h_event
    rcases List.mem_append.mp h_event with h_event | h_event
    · exact ih event h_event
    · exact leaseAnswer_ids event h_event

/-- Whatever was said about a job can be made a complete answer. -/
theorem Reports.prefix_answer (h : Reports job stage events) :
    ∃ full, job.Answer full ∧ events <+: full := by
  rcases h.said with ⟨-, rfl⟩ | ⟨id, pane, negotiate, said, -, rfl, rfl, h_said⟩ | ⟨-, h_full⟩
  · cases job with
    | openPane id pane negotiate =>
      exact ⟨_, .inl ⟨leaseExceeded, rfl⟩, List.nil_prefix⟩
    | _ => exact ⟨_, ⟨.error leaseExceeded, trivial, rfl⟩, List.nil_prefix⟩
  · exact ⟨_, .inr ⟨_, h_said _ .dropped, rfl⟩, List.prefix_append (.opened id :: said) _⟩
  · exact ⟨events, h_full, List.prefix_rfl⟩

/-- A job that is one call is reported in two events, the second of which is terminal. -/
theorem Reports.calls (h : Reports job stage events) (h_calls : job.Calls) :
    (stage = .calling ∧ events = []) ∨ stage = .leaving ∧ ∃ result, job.Yields result ∧
      events = [.done job.jobId result, .dropped job.jobId] := by
  rcases h.said with h_calling | ⟨id, pane, negotiate, said, -, rfl, -, -⟩ | ⟨h_stage, h_full⟩
  · exact .inl h_calling
  · exact h_calls.elim
  · refine .inr ⟨h_stage, ?_⟩
    cases job with
    | openPane id pane negotiate => exact h_calls.elim
    | _ => exact h_full

end Reports

-- ============================================================================
-- What one call of the executor does to the events
-- ============================================================================

namespace HerdrExec

variable {e e' : HerdrExec} {job : HerdrJob} {event : HerdrEvent} {id : JobId}

/-- What `submit` leaves: the job shares the request of a queued snapshot of its kind, or is
    sent on at once, or neither. -/
inductive Submits (e : HerdrExec) (job : HerdrJob) (e' : HerdrExec) : Prop where
  | join (leader : HerdrJob) (h_queue : leader ∈ e.queueOn leader.lane)
      (h_joins : leader.Joins job) (h_tx : e'.jobTx = e.jobTx)
      (h_followers : ∀ id, e'.followers id =
        e.followers id ++ if id = leader.jobId then [job.jobId] else [])
      (h_record : e'.record =
        e.record ++ [.submitted job, .joined job.jobId leader.jobId])
  | wait (h_tx : e'.jobTx = e.jobTx) (h_followers : e'.followers = e.followers)
      (h_record : e'.record = e.record ++ [.submitted job])
  | dispatch (h_tx : e'.jobTx = e.jobTx ++ [job]) (h_followers : e'.followers = e.followers)
      (h_record : e'.record = e.record ++ [.submitted job, .dispatched job])

theorem submit_submits (h : Lanes e) (job : HerdrJob) :
    Submits e job (e.submit job) ∧ (e.submit job).eventRx = e.eventRx ∧
      (e.submit job).pendingEvents = e.pendingEvents := by
  rcases submit_cases e job with ⟨j, h_j, h_joins, h_eq⟩ | ⟨-, h_eq⟩ | ⟨-, -, h_eq⟩ <;> rw [h_eq]
  · have h_lane := h.lane_of_queue h_j
    refine ⟨.join j (h_lane.symm ▸ h_j) h_joins rfl ?_ ?_, rfl, rfl⟩
    · intro id
      simp only [followers, HerdrExec.join, note]
      by_cases h_id : id = j.jobId
      · subst h_id
        rw [AList.lookup_insert, if_pos rfl]
        rfl
      · rw [AList.lookup_insert_ne h_id, if_neg h_id, List.append_nil]
    · simp [HerdrExec.join, note]
  · exact ⟨.wait rfl rfl rfl, rfl, rfl⟩
  · exact ⟨.dispatch rfl rfl (by simp [HerdrExec.dispatch, note]), rfl, rfl⟩

/-- What `try_recv` leaves when it takes an event from the workers: the followers of its job
    get it, and the next job of its lane may be dispatched. -/
structure Takes (e : HerdrExec) (event : HerdrEvent) (e' : HerdrExec) : Prop where
  events : e.eventRx = event :: e'.eventRx
  idle : e.pendingEvents = []
  pending : e'.pendingEvents =
    (e.followers event.jobId).filterMap (cloneFollowerEvent event)
  followers : ∀ id, e'.followers id =
    if terminalJobId event = some id then [] else e.followers id
  next : (e'.jobTx = e.jobTx ∧ e'.record = e.record ++ [.received event]) ∨
    ∃ job ∈ e.queueOn job.lane, e'.jobTx = e.jobTx ++ [job] ∧
      e'.record = e.record ++ [.received event, .dispatched job]

theorem freeLane_next (h : ∀ lane, ∀ j ∈ e.queueOn lane, j.lane = lane) (id : JobId) :
    (e.freeLane id).eventRx = e.eventRx ∧ (e.freeLane id).pendingEvents = e.pendingEvents ∧
    (e.freeLane id).followers = e.followers ∧
    (((e.freeLane id).jobTx = e.jobTx ∧ (e.freeLane id).record = e.record) ∨
      ∃ job ∈ e.queueOn job.lane, (e.freeLane id).jobTx = e.jobTx ++ [job] ∧
        (e.freeLane id).record = e.record ++ [.dispatched job]) := by
  rcases freeLane_cases e id with ⟨-, h_eq⟩ | ⟨lane, -, -, h_eq⟩ |
    ⟨lane, next, rest, queued, -, h_queue, -, -, h_eq⟩ <;> rw [h_eq]
  · exact ⟨rfl, rfl, rfl, .inl ⟨rfl, rfl⟩⟩
  · exact ⟨rfl, rfl, rfl, .inl ⟨rfl, rfl⟩⟩
  · have h_next : next ∈ e.queueOn lane := by
      simp [queueOn, h_queue]
    exact ⟨rfl, rfl, rfl, .inr ⟨next, (h lane next h_next).symm ▸ h_next, rfl, rfl⟩⟩

/-- An event that ends nothing goes to the followers of its job, if it is a `Done`. -/
theorem fanOutDone_passing (h : terminalJobId event = none) : e.fanOutDone event =
    { e with pendingEvents := e.pendingEvents ++
      (e.followers event.jobId).filterMap (cloneFollowerEvent event) } := by
  cases event with
  | done id result => rfl
  | opened id =>
    have h_none (fs : List JobId) : fs.filterMap (cloneFollowerEvent (.opened id)) = [] :=
      List.filterMap_eq_nil_iff.mpr fun _ _ => rfl
    rw [h_none, List.append_nil]
    rfl
  | written id pause =>
    have h_none (fs : List JobId) : fs.filterMap (cloneFollowerEvent (.written id pause)) = [] :=
      List.filterMap_eq_nil_iff.mpr fun _ _ => rfl
    rw [h_none, List.append_nil]
    rfl
  | failed id phase error => cases h
  | dropped id => cases h

theorem fanOutDone_terminal (h : terminalJobId event = some id) : e.fanOutDone event = e := by
  cases event <;> first | rfl | cases h

/-- `try_recv` hands on a clone that is pending, or an event of the workers. -/
theorem tryRecv_takes (h : Lanes e) (h_some : e.tryRecv = some (event, e')) :
    (∃ rest, e.pendingEvents = event :: rest ∧
      e' = ({ e with pendingEvents := rest } : HerdrExec).note (.received event)) ∨
    Takes e event e' := by
  unfold tryRecv at h_some
  split at h_some
  · rename_i rest h_pending
    cases h_some
    exact .inl ⟨rest, h_pending, rfl⟩
  · rename_i h_pending
    split at h_some
    · rename_i rest h_events
      cases h_some
      refine .inr ?_
      cases h_terminal : terminalJobId event with
      | none =>
        simp only [finish, h_terminal]
        rw [fanOutDone_passing h_terminal]
        exact ⟨h_events, h_pending, by simp [note, h_pending, followers],
          fun id => by rw [if_neg (by simp [h_terminal])]; rfl, .inl ⟨rfl, rfl⟩⟩
      | some id =>
        simp only [finish, h_terminal]
        rw [fanOutDone_terminal h_terminal]
        obtain ⟨h_rx, h_pend, h_followers, h_next⟩ := freeLane_next
          (e := (({ e with eventRx := rest } : HerdrExec).note (.received event)).releaseFollowers
            event id) (fun lane j h_j => h.lane_of_queue h_j) id
        refine ⟨by rw [h_rx]; exact h_events, h_pending, ?_, fun id' => ?_, ?_⟩
        · rw [h_pend, terminalJobId_eq h_terminal]
          simp [releaseFollowers, note, h_pending, followers]
        · rw [h_followers, h_terminal]
          simp only [followers, releaseFollowers, note, Option.some.injEq]
          by_cases h_id : id = id'
          · subst h_id
            rw [if_pos rfl, AList.lookup_erase]
            rfl
          · rw [if_neg h_id, AList.lookup_erase_ne (Ne.symm h_id)]
        · simpa [releaseFollowers, note, queueOn] using h_next
    · cases h_some

-- ============================================================================
-- Followers
-- ============================================================================

theorem clone_jobId {clone : HerdrEvent} (h : cloneFollowerEvent event id = some clone) :
    clone.jobId = id := by
  cases event <;> simp [cloneFollowerEvent] at h <;> subst h <;> rfl

/-- Of the clones for some followers, one is for each of them. -/
theorem clones_filter {fs : List JobId} (h_nodup : fs.Nodup) (id : JobId) :
    (fs.filterMap (cloneFollowerEvent event)).filter (fun clone => clone.jobId = id) =
      if id ∈ fs then (cloneFollowerEvent event id).toList else [] := by
  induction fs with
  | nil => rfl
  | cons f fs ih =>
    obtain ⟨h_f, h_fs⟩ := List.nodup_cons.mp h_nodup
    rw [List.filterMap_cons]
    by_cases h_id : id = f
    · subst h_id
      rw [if_pos List.mem_cons_self]
      rw [if_neg h_f] at ih
      cases h_clone : cloneFollowerEvent event id with
      | none => simpa using ih h_fs
      | some clone =>
        have h_clone_id := clone_jobId h_clone
        simp only [List.filter_cons, h_clone_id, decide_true, if_true, ih h_fs,
          Option.toList_some]
    · have h_mem : id ∈ f :: fs ↔ id ∈ fs := by
        simp [h_id]
      simp only [h_mem]
      rw [← ih h_fs]
      cases h_clone : cloneFollowerEvent event f with
      | none => rfl
      | some clone =>
        have h_clone_id := clone_jobId h_clone
        simp only [List.filter_cons, h_clone_id, Ne.symm h_id, decide_false, Bool.false_eq_true,
          if_false]

end HerdrExec

-- ============================================================================
-- Workers
-- ============================================================================

open HerdrExec

/-- Each dispatched job is with one worker, or waits for one, or was reported in full; and
    what was reported of a job is what was received of it and what still is to be. -/
structure Working (e : HerdrExec) (workers : AList (fun _ : JobId => Worker)) : Prop where
  line : (e.jobTx.map (·.jobId)).Nodup
  fresh : ∀ job ∈ e.jobTx, job ∈ dispatched e.record ∧ workers.lookup job.jobId = none ∧
    reported e.record job.jobId = []
  working : ∀ id worker, workers.lookup id = some worker →
    worker.job ∈ dispatched e.record ∧ worker.job.jobId = id ∧
      Reports worker.job worker.stage (reported e.record id ++ worker.outbox)
  left : ∀ job ∈ dispatched e.record, job ∈ e.jobTx ∨ (workers.lookup job.jobId).isSome ∨
    Reports job .leaving (reported e.record job.jobId)
  heard : ∀ id, Leads e.record id →
    reported e.record id = received e.record id ++ e.eventRx.filter (·.jobId = id)
  mute : ∀ id, reported e.record id ≠ [] → ∃ job ∈ dispatched e.record, job.jobId = id
  known : ∀ event ∈ e.eventRx, .reported event ∈ e.record

theorem HerdrExec.mem_reported {record : List HerdrEntry} {event : HerdrEvent} {id : JobId} :
    event ∈ reported record id ↔ .reported event ∈ record ∧ event.jobId = id := by
  unfold reported
  rw [List.mem_filterMap]
  constructor
  · rintro ⟨entry, h_entry, h_some⟩
    split at h_some
    · split at h_some <;> cases h_some
      exact ⟨h_entry, ‹_›⟩
    · cases h_some
  · rintro ⟨h, h_id⟩
    exact ⟨_, h, if_pos h_id⟩

namespace Working

variable {e e' : HerdrExec} {workers : AList (fun _ : JobId => Worker)} {job : HerdrJob}
  {event : HerdrEvent} {id : JobId} {worker : Worker}

theorem spawn : Working {} ∅ where
  line := List.nodup_nil
  fresh _ h := by cases h
  working _ _ h := by cases h
  left _ h := by cases h
  heard _ _ := rfl
  mute _ h := absurd rfl h
  known _ h := by cases h

/-- An event on its way is about a job that was dispatched. -/
theorem sent (h : Working e workers) (h_event : event ∈ e.eventRx) :
    ∃ job ∈ dispatched e.record, job.jobId = event.jobId :=
  h.mute event.jobId
    (List.ne_nil_of_mem (mem_reported.mpr ⟨h.known event h_event, rfl⟩))

/-- What the daemon does between two dispatches leaves the workers' side as it is. -/
theorem extend {record : List HerdrEntry} (h : Working e workers) (h_tx : e'.jobTx = e.jobTx)
    (h_record : e'.record = e.record ++ record) (h_dispatched : dispatched record = [])
    (h_reported : ∀ id, reported record id = [])
    (h_heard : ∀ id, Leads e.record id → e.eventRx.filter (·.jobId = id) =
      received record id ++ e'.eventRx.filter (·.jobId = id))
    (h_events : ∀ event ∈ e'.eventRx, event ∈ e.eventRx) : Working e' workers := by
  have h_same : dispatched e'.record = dispatched e.record := by
    rw [h_record, dispatched_append, h_dispatched, List.append_nil]
  have h_said (id : JobId) : reported e'.record id = reported e.record id := by
    rw [h_record, reported_append, h_reported, List.append_nil]
  refine ⟨?_, ?_, ?_, ?_, ?_, ?_, ?_⟩
  · rw [h_tx]
    exact h.line
  · simp only [h_tx, h_same, h_said]
    exact h.fresh
  · simp only [h_same, h_said]
    exact h.working
  · simp only [h_tx, h_same, h_said]
    exact h.left
  · intro id h_leads
    have h_old : Leads e.record id := by
      intro h_id
      apply h_leads
      rw [h_record, joins_append, List.map_append]
      exact List.mem_append_left _ h_id
    rw [h_said, h.heard id h_old, h_heard id h_old, h_record, received_append, List.append_assoc]
  · simp only [h_same, h_said]
    exact h.mute
  · intro event h_event
    rw [h_record]
    exact List.mem_append_left _ (h.known event (h_events event h_event))

/-- A job that was not dispatched before is sent to the workers. -/
theorem dispatch (h : Working e workers)
    (h_new : ∀ j ∈ dispatched e.record, j.jobId ≠ job.jobId) (h_tx : e'.jobTx = e.jobTx ++ [job])
    (h_record : e'.record = e.record ++ [.dispatched job]) (h_events : e'.eventRx = e.eventRx) :
    Working e' workers := by
  have h_dispatched : dispatched e'.record = dispatched e.record ++ [job] := by
    rw [h_record, dispatched_append]
    rfl
  have h_reported (id : JobId) : reported e'.record id = reported e.record id := by
    rw [h_record, reported_append]
    exact List.append_nil _
  have h_received (id : JobId) : received e'.record id = received e.record id := by
    rw [h_record, received_append]
    exact List.append_nil _
  have h_leads (id : JobId) : Leads e'.record id ↔ Leads e.record id := by
    rw [Leads, Leads, h_record, joins_append]
    simp [joins]
  have h_mute : reported e.record job.jobId = [] := by
    by_contra h_some
    obtain ⟨j, h_j, h_id⟩ := h.mute job.jobId h_some
    exact h_new j h_j h_id
  have h_idle : workers.lookup job.jobId = none := by
    cases h_worker : workers.lookup job.jobId with
    | none => rfl
    | some worker =>
      obtain ⟨h_j, h_id, -⟩ := h.working _ _ h_worker
      exact absurd h_id (h_new _ h_j)
  refine ⟨?_, ?_, ?_, ?_, ?_, ?_, ?_⟩
  · rw [h_tx, List.map_append, List.nodup_append]
    refine ⟨h.line, by simp, ?_⟩
    intro id h_id id' h_id' h_eq
    obtain ⟨j, h_j, rfl⟩ := List.mem_map.mp h_id
    have h_new_id : id' = job.jobId := by simpa using h_id'
    exact h_new j (h.fresh j h_j).1 (h_eq.trans h_new_id)
  · intro j h_j
    rw [h_dispatched, h_reported]
    rcases List.mem_append.mp (h_tx ▸ h_j) with h_j | h_j
    · obtain ⟨h_mem, h_rest⟩ := h.fresh j h_j
      exact ⟨List.mem_append_left _ h_mem, h_rest⟩
    · cases List.mem_singleton.mp h_j
      exact ⟨by simp, h_idle, h_mute⟩
  · intro id worker h_worker
    obtain ⟨h_mem, h_rest⟩ := h.working id worker h_worker
    rw [h_dispatched, h_reported]
    exact ⟨List.mem_append_left _ h_mem, h_rest⟩
  · intro j h_j
    rw [h_reported, h_tx]
    rcases List.mem_append.mp (h_dispatched ▸ h_j) with h_j | h_j
    · exact (h.left j h_j).imp (List.mem_append_left _) id
    · exact .inl (List.mem_append_right _ h_j)
  · intro id h_id
    rw [h_reported, h_received, h_events]
    exact h.heard id ((h_leads id).mp h_id)
  · intro id h_some
    rw [h_reported] at h_some
    obtain ⟨j, h_j, h_id⟩ := h.mute id h_some
    exact ⟨j, h_dispatched ▸ List.mem_append_left _ h_j, h_id⟩
  · intro event h_event
    rw [h_record]
    exact List.mem_append_left _ (h.known event (h_events ▸ h_event))

/-- A worker takes the next job. -/
theorem take {rest : List HerdrJob} (h : Working e workers) (h_jobs : e.jobTx = job :: rest) :
    Working (({ e with jobTx := rest } : HerdrExec).note (.requested job.jobId))
      (workers.insert job.jobId { job }) := by
  have h_head := h.fresh job (h_jobs ▸ List.mem_cons_self)
  have h_line : job.jobId ∉ rest.map (·.jobId) ∧ (rest.map (·.jobId)).Nodup := by
    have h_line := h.line
    rw [h_jobs, List.map_cons, List.nodup_cons] at h_line
    exact h_line
  have h_dispatched : dispatched (e.record ++ [.requested job.jobId]) = dispatched e.record := by
    simp [dispatched]
  have h_reported (id : JobId) :
      reported (e.record ++ [.requested job.jobId]) id = reported e.record id := by
    simp [reported]
  refine ⟨h_line.2, ?_, ?_, ?_, ?_, ?_, ?_⟩
  · intro j h_j
    simp only [note, h_dispatched, h_reported] at h_j ⊢
    have h_ne : j.jobId ≠ job.jobId := by
      intro h_eq
      exact h_line.1 (List.mem_map.mpr ⟨j, h_j, h_eq⟩)
    rw [AList.lookup_insert_ne h_ne]
    exact h.fresh j (h_jobs ▸ List.mem_cons_of_mem _ h_j)
  · intro id worker h_worker
    simp only [note, h_dispatched, h_reported]
    by_cases h_id : id = job.jobId
    · subst h_id
      rw [AList.lookup_insert, Option.some.injEq] at h_worker
      subst h_worker
      refine ⟨h_head.1, rfl, ?_⟩
      rw [h_head.2.2]
      exact .taken
    · rw [AList.lookup_insert_ne h_id] at h_worker
      exact h.working id worker h_worker
  · intro j h_j
    simp only [note, h_dispatched, h_reported] at h_j ⊢
    by_cases h_id : j.jobId = job.jobId
    · rw [h_id, AList.lookup_insert]
      exact .inr (.inl rfl)
    · rw [AList.lookup_insert_ne h_id]
      refine (h.left j h_j).imp (fun h_mem => ?_) id
      rw [h_jobs] at h_mem
      exact (List.mem_cons.mp h_mem).resolve_left fun h_eq => h_id (h_eq ▸ rfl)
  · intro id h_id
    simp only [note, h_reported]
    have h_leads : Leads e.record id := by
      simpa [Leads, joins, note] using h_id
    rw [h.heard id h_leads]
    simp [received]
  · intro id h_some
    simp only [note, h_reported, h_dispatched] at h_some ⊢
    exact h.mute id h_some
  · exact fun event h_event => List.mem_append_left _ (h.known event h_event)

/-- A worker that holds a job moves on within its loop, in silence. -/
theorem move {worker' : Worker} (h : Working e workers) (h_worker : workers.lookup id = some worker)
    (h_job : worker'.job = worker.job)
    (h_reports : Reports worker.job worker.stage (reported e.record id ++ worker.outbox) →
      Reports worker.job worker'.stage (reported e.record id ++ worker'.outbox)) :
    Working e (workers.insert id worker') := by
  refine ⟨h.line, ?_, ?_, ?_, h.heard, h.mute, h.known⟩
  · intro j h_j
    obtain ⟨h_mem, h_idle, h_mute⟩ := h.fresh j h_j
    have h_ne : j.jobId ≠ id := by
      rintro rfl
      rw [h_worker] at h_idle
      cases h_idle
    rw [AList.lookup_insert_ne h_ne]
    exact ⟨h_mem, h_idle, h_mute⟩
  · intro id' worker'' h_lookup
    by_cases h_id : id' = id
    · subst h_id
      rw [AList.lookup_insert, Option.some.injEq] at h_lookup
      subst h_lookup
      obtain ⟨h_mem, h_job_id, h_said⟩ := h.working _ _ h_worker
      rw [h_job]
      exact ⟨h_mem, h_job_id, h_reports h_said⟩
    · rw [AList.lookup_insert_ne h_id] at h_lookup
      exact h.working _ _ h_lookup
  · intro j h_j
    refine (h.left j h_j).imp (fun h_mem => h_mem) (.imp_left fun h_some => ?_)
    by_cases h_id : j.jobId = id
    · rw [h_id, AList.lookup_insert]
      rfl
    · rw [AList.lookup_insert_ne h_id]
      exact h_some

/-- A worker sends the next of its events. -/
theorem send {rest : List HerdrEvent} (h : Working e workers)
    (h_worker : workers.lookup id = some worker) (h_outbox : worker.outbox = event :: rest) :
    Working (({ e with eventRx := e.eventRx ++ [event] } : HerdrExec).note (.reported event))
      (workers.insert id { worker with outbox := rest }) := by
  obtain ⟨h_mem, h_job_id, h_said⟩ := h.working _ _ h_worker
  have h_event : event.jobId = id := by
    rw [← h_job_id]
    exact h_said.ids event (by simp [h_outbox])
  have h_dispatched : dispatched (e.record ++ [.reported event]) = dispatched e.record := by
    simp [dispatched]
  have h_same : reported (e.record ++ [.reported event]) id = reported e.record id ++ [event] := by
    simp [reported, h_event]
  have h_other {id' : JobId} (h_ne : id' ≠ id) :
      reported (e.record ++ [.reported event]) id' = reported e.record id' := by
    simp [reported, h_event, Ne.symm h_ne]
  refine ⟨h.line, ?_, ?_, ?_, ?_, ?_, ?_⟩
  · intro j h_j
    obtain ⟨h_j_mem, h_idle, h_mute⟩ := h.fresh j h_j
    have h_ne : j.jobId ≠ id := by
      rintro rfl
      rw [h_worker] at h_idle
      cases h_idle
    simp only [note, h_dispatched]
    rw [AList.lookup_insert_ne h_ne, h_other h_ne]
    exact ⟨h_j_mem, h_idle, h_mute⟩
  · intro id' worker' h_lookup
    simp only [note, h_dispatched]
    by_cases h_id : id' = id
    · subst h_id
      rw [AList.lookup_insert, Option.some.injEq] at h_lookup
      subst h_lookup
      rw [h_same, List.append_assoc]
      rw [h_outbox] at h_said
      exact ⟨h_mem, h_job_id, h_said⟩
    · rw [AList.lookup_insert_ne h_id] at h_lookup
      rw [h_other h_id]
      exact h.working _ _ h_lookup
  · intro j h_j
    simp only [note, h_dispatched] at h_j ⊢
    by_cases h_id : j.jobId = id
    · rw [h_id, AList.lookup_insert]
      exact .inr (.inl rfl)
    · rw [AList.lookup_insert_ne h_id, h_other h_id]
      exact h.left j h_j
  · intro id' h_leads
    simp only [note]
    have h_old : Leads e.record id' := by
      simpa [Leads, joins, note] using h_leads
    have h_received : received (e.record ++ [.reported event]) id' = received e.record id' := by
      simp [received]
    rw [h_received, List.filter_append, ← List.append_assoc, ← h.heard id' h_old]
    by_cases h_id : id' = id
    · subst h_id
      rw [h_same]
      simp [h_event]
    · rw [h_other h_id]
      simp [h_event, Ne.symm h_id]
  · intro id' h_some
    simp only [note, h_dispatched] at h_some ⊢
    by_cases h_id : id' = id
    · exact ⟨worker.job, h_mem, h_job_id.trans h_id.symm⟩
    · rw [h_other h_id] at h_some
      exact h.mute id' h_some
  · intro event' h_event'
    simp only [note, List.mem_append] at h_event' ⊢
    rcases h_event' with h_old | h_new
    · exact .inl (h.known event' h_old)
    · exact .inr (by simpa using h_new)

/-- A worker that has said everything returns to the pool. -/
theorem leave (h : Working e workers) (h_lanes : Lanes e)
    (h_worker : workers.lookup id = some worker) (h_stage : worker.stage = .leaving)
    (h_outbox : worker.outbox = []) :
    Working e (workers.erase id) := by
  obtain ⟨h_mem, h_job_id, h_said⟩ := h.working _ _ h_worker
  refine ⟨h.line, ?_, ?_, ?_, h.heard, h.mute, h.known⟩
  · intro j h_j
    obtain ⟨h_j_mem, h_idle, h_mute⟩ := h.fresh j h_j
    have h_ne : j.jobId ≠ id := by
      rintro rfl
      rw [h_worker] at h_idle
      cases h_idle
    rw [AList.lookup_erase_ne h_ne]
    exact ⟨h_j_mem, h_idle, h_mute⟩
  · intro id' worker' h_lookup
    have h_id : id' ≠ id := by
      rintro rfl
      rw [AList.lookup_erase] at h_lookup
      cases h_lookup
    rw [AList.lookup_erase_ne h_id] at h_lookup
    exact h.working _ _ h_lookup
  · intro j h_j
    by_cases h_id : j.jobId = id
    · obtain rfl : j = worker.job := h_lanes.eq_of_id (h_lanes.of_lane (.inl h_j)).1
        (h_lanes.of_lane (.inl h_mem)).1 (h_id.trans h_job_id.symm)
      rw [h_stage, h_outbox, List.append_nil] at h_said
      rw [h_id]
      exact .inr (.inr h_said)
    · rw [AList.lookup_erase_ne h_id]
      exact h.left j h_j

end Working

-- ============================================================================
-- Shared requests
-- ============================================================================

/-- Each follower of a request has received, or is to receive next, what was received of the
    request. -/
structure Sharing (e : HerdrExec) : Prop where
  pairs : ∀ p ∈ joins e.record, ∃ leader ∈ submitted e.record, ∃ follower ∈ submitted e.record,
    leader.jobId = p.2 ∧ follower.jobId = p.1 ∧ leader.Joins follower ∧ Leads e.record p.2
  once : ((joins e.record).map Prod.fst).Nodup
  copied : ∀ p ∈ joins e.record,
    received e.record p.1 ++ e.pendingEvents.filter (·.jobId = p.1) =
      (received e.record p.2).filterMap (cloneFollowerEvent · p.1)
  waiting : ∀ p ∈ joins e.record, Finished e.record p.2 ∨ p.1 ∈ e.followers p.2
  followers : ∀ id, (e.followers id).Nodup ∧ ∀ f ∈ e.followers id, (f, id) ∈ joins e.record
  pending : ∀ event ∈ e.pendingEvents, ¬ Leads e.record event.jobId

/-- Only calls share requests, and only with a call of the same kind. -/
theorem HerdrJob.Joins.calls {job job' : HerdrJob} (h : job.Joins job') : job.Calls := by
  cases job <;> cases job' <;> trivial

namespace Sharing

variable {e e' : HerdrExec} {workers : AList (fun _ : JobId => Worker)} {job : HerdrJob}
  {event : HerdrEvent} {id : JobId}

theorem spawn : Sharing {} where
  pairs _ h := by cases h
  once := List.nodup_nil
  copied _ h := by cases h
  waiting _ h := by cases h
  followers _ := ⟨List.nodup_nil, fun _ h => by cases h⟩
  pending _ h := by cases h

/-- One request is shared by each follower. -/
theorem leader_eq (h : Sharing e) {f l l' : JobId} (h_l : (f, l) ∈ joins e.record)
    (h_l' : (f, l') ∈ joins e.record) : l = l' :=
  congrArg Prod.snd (List.inj_on_of_nodup_map h.once h_l h_l' rfl)

/-- A follower leads nothing. -/
theorem follower_ne {p : JobId × JobId} (h_p : p ∈ joins e.record)
    (h_leads : Leads e.record id) : p.1 ≠ id := by
  rintro rfl
  exact h_leads (List.mem_map.mpr ⟨p, h_p, rfl⟩)

/-- Steps that receive nothing and share nothing keep what is shared. -/
theorem extend {record : List HerdrEntry} (h : Sharing e)
    (h_record : e'.record = e.record ++ record) (h_joins : joins record = [])
    (h_received : ∀ id, received record id = [])
    (h_pending : e'.pendingEvents = e.pendingEvents) (h_followers : e'.followers = e.followers) :
    Sharing e' := by
  have h_same : joins e'.record = joins e.record := by
    rw [h_record, joins_append, h_joins, List.append_nil]
  have h_heard (id : JobId) : received e'.record id = received e.record id := by
    rw [h_record, received_append, h_received, List.append_nil]
  refine ⟨?_, ?_, ?_, ?_, ?_, ?_⟩
  · intro p h_p
    rw [h_same] at h_p
    obtain ⟨l, h_l, f, h_f, h_rest⟩ := h.pairs p h_p
    rw [Leads, h_same, h_record, submitted_append]
    exact ⟨l, List.mem_append_left _ h_l, f, List.mem_append_left _ h_f, h_rest⟩
  · rw [h_same]
    exact h.once
  · simp only [h_same, h_heard, h_pending]
    exact h.copied
  · simp only [h_same, Finished, h_heard, h_followers]
    exact h.waiting
  · simp only [h_same, h_followers]
    exact h.followers
  · simp only [h_pending, Leads, h_same]
    exact h.pending

/-- A fresh job joins a request that was not dispatched. -/
theorem join (h : Sharing e) (h_lanes : Lanes e)
    (h_fresh : ∀ j ∈ submitted e.record, j.jobId ≠ job.jobId) {leader : HerdrJob}
    (h_queue : leader ∈ e.queueOn leader.lane) (h_joins : leader.Joins job)
    (h_followers : ∀ id, e'.followers id =
      e.followers id ++ if id = leader.jobId then [job.jobId] else [])
    (h_record : e'.record = e.record ++ [.submitted job, .joined job.jobId leader.jobId])
    (h_pending : e'.pendingEvents = e.pendingEvents) : Sharing e' := by
  have h_same : joins e'.record = joins e.record ++ [(job.jobId, leader.jobId)] := by
    rw [h_record, joins_append]
    rfl
  have h_submitted : submitted e'.record = submitted e.record ++ [job] := by
    rw [h_record, submitted_append]
    rfl
  have h_heard (id : JobId) : received e'.record id = received e.record id := by
    rw [h_record, received_append]
    exact List.append_nil _
  obtain ⟨h_leader, h_leader_leads⟩ := h_lanes.of_lane (.inr h_queue)
  have h_fresh_leads : Leads e.record job.jobId := h_lanes.fresh_leads h_fresh
  have h_leads (id : JobId) : Leads e'.record id ↔ Leads e.record id ∧ id ≠ job.jobId := by
    simp [Leads, h_same]
  have h_unheard {id : JobId} (h_not : ¬ Sent e.record id) : received e.record id = [] := by
    by_contra h_some
    obtain ⟨event, h_event⟩ := List.exists_mem_of_ne_nil _ h_some
    obtain ⟨h_mem, rfl⟩ := mem_received.mp h_event
    exact h_not (h_lanes.received event h_mem)
  refine ⟨?_, ?_, ?_, ?_, ?_, ?_⟩
  · intro p h_p
    rw [h_submitted, h_leads]
    rcases List.mem_append.mp (h_same ▸ h_p) with h_p | h_p
    · obtain ⟨l, h_l, f, h_f, h_l_id, h_f_id, h_lf, h_l_leads⟩ := h.pairs p h_p
      refine ⟨l, List.mem_append_left _ h_l, f, List.mem_append_left _ h_f, h_l_id, h_f_id, h_lf,
        h_l_leads, ?_⟩
      rw [← h_l_id]
      exact h_fresh l h_l
    · obtain rfl := List.mem_singleton.mp h_p
      exact ⟨leader, List.mem_append_left _ h_leader, job, by simp, rfl, rfl, h_joins,
        h_leader_leads, h_fresh leader h_leader⟩
  · rw [h_same, List.map_append, List.nodup_append]
    refine ⟨h.once, by simp, ?_⟩
    intro id h_id id' h_id' h_eq
    have h_new : id' = job.jobId := by simpa using h_id'
    exact h_fresh_leads (by rw [← h_new, ← h_eq]; exact h_id)
  · intro p h_p
    rw [h_heard, h_heard, h_pending]
    rcases List.mem_append.mp (h_same ▸ h_p) with h_p | h_p
    · exact h.copied p h_p
    · -- Nothing was heard of the new follower, nor of the request it shares.
      obtain rfl := List.mem_singleton.mp h_p
      have h_not_sent : ¬ Sent e.record job.jobId := by
        intro h_sent
        obtain ⟨j, h_j, h_id⟩ := h_lanes.sent_known h_sent
        exact h_fresh j h_j h_id
      rw [h_unheard h_not_sent, h_unheard (h_lanes.waiting_not_sent h_queue)]
      refine List.filter_eq_nil_iff.mpr fun event h_event => ?_
      intro h_id
      have h_id : event.jobId = job.jobId := by simpa using h_id
      exact h.pending event h_event (h_id ▸ h_fresh_leads)
  · intro p h_p
    rw [Finished, h_heard, h_followers]
    rcases List.mem_append.mp (h_same ▸ h_p) with h_p | h_p
    · exact (h.waiting p h_p).imp (fun h => h) (List.mem_append_left _)
    · obtain rfl := List.mem_singleton.mp h_p
      exact .inr (by simp)
  · intro id
    obtain ⟨h_nodup, h_pairs⟩ := h.followers id
    rw [h_followers, h_same]
    by_cases h_id : id = leader.jobId
    · rw [if_pos h_id]
      constructor
      · rw [List.nodup_append]
        refine ⟨h_nodup, by simp, ?_⟩
        intro f h_f f' h_f' h_eq
        have h_new : f' = job.jobId := by simpa using h_f'
        have h_p := h_pairs f h_f
        rw [h_eq, h_new] at h_p
        exact h_fresh_leads (List.mem_map.mpr ⟨_, h_p, rfl⟩)
      · intro f h_f
        rcases List.mem_append.mp h_f with h_f | h_f
        · exact List.mem_append_left _ (h_pairs f h_f)
        · rw [List.mem_singleton.mp h_f, h_id]
          simp
    · rw [if_neg h_id, List.append_nil]
      exact ⟨h_nodup, fun f h_f => List.mem_append_left _ (h_pairs f h_f)⟩
  · intro event h_event h_event_leads
    rw [h_pending] at h_event
    exact h.pending event h_event ((h_leads _).mp h_event_leads).1

/-- A follower receives a clone that was pending for it. -/
theorem deliver {rest : List HerdrEvent} (h : Sharing e)
    (h_events : e.pendingEvents = event :: rest) :
    Sharing (({ e with pendingEvents := rest } : HerdrExec).note (.received event)) := by
  have h_joined : ¬ Leads e.record event.jobId := h.pending event (by simp [h_events])
  have h_same : joins (e.record ++ [.received event]) = joins e.record := by
    simp [joins]
  have h_submitted : submitted (e.record ++ [.received event]) = submitted e.record := by
    simp [submitted]
  -- Nothing more is received of the requests themselves.
  have h_leader {id : JobId} (h_leads : Leads e.record id) :
      received (e.record ++ [.received event]) id = received e.record id := by
    have h_ne : event.jobId ≠ id := by
      rintro rfl
      exact h_joined h_leads
    simp [received, h_ne]
  refine ⟨?_, ?_, ?_, ?_, ?_, ?_⟩
  · simp only [note, Leads, h_same, h_submitted]
    exact h.pairs
  · simp only [note, h_same]
    exact h.once
  · intro p h_p
    simp only [note, h_same] at h_p ⊢
    obtain ⟨_, _, _, _, -, -, -, h_leads⟩ := h.pairs p h_p
    rw [h_leader h_leads, ← h.copied p h_p, h_events]
    by_cases h_id : event.jobId = p.1
    · simp [received, h_id]
    · simp [received, h_id]
  · intro p h_p
    simp only [note, h_same, Finished] at h_p ⊢
    obtain ⟨_, _, _, _, -, -, -, h_leads⟩ := h.pairs p h_p
    rw [h_leader h_leads]
    exact h.waiting p h_p
  · simp only [note, h_same]
    exact h.followers
  · intro event' h_event'
    simp only [note, Leads, h_same] at h_event' ⊢
    exact h.pending event' (by simp [h_events, h_event'])

/-- An event of the workers reaches the followers of its job. -/
theorem fanOut (h : Sharing e) (h_takes : Takes e event e') (h_lead : Leads e.record event.jobId)
    (h_last : ∀ f, (f, event.jobId) ∈ joins e.record → ¬ Finished e.record event.jobId) :
    Sharing e' := by
  have h_record : ∃ record, e'.record = e.record ++ .received event :: record ∧
      (record = [] ∨ ∃ job, record = [.dispatched job]) := by
    rcases h_takes.next with ⟨-, h_record⟩ | ⟨job, -, -, h_record⟩
    · exact ⟨[], h_record, .inl rfl⟩
    · exact ⟨_, h_record, .inr ⟨job, rfl⟩⟩
  obtain ⟨record, h_record, h_more⟩ := h_record
  have h_same : joins e'.record = joins e.record := by
    rw [h_record, joins_append]
    rcases h_more with rfl | ⟨_, rfl⟩ <;> simp [joins]
  have h_submitted : submitted e'.record = submitted e.record := by
    rw [h_record, submitted_append]
    rcases h_more with rfl | ⟨_, rfl⟩ <;> simp [submitted]
  have h_heard (id : JobId) : received e'.record id =
      received e.record id ++ if event.jobId = id then [event] else [] := by
    rw [h_record, received_append]
    congr 1
    rcases h_more with rfl | ⟨_, rfl⟩ <;> by_cases h_id : event.jobId = id <;>
      simp [received, h_id]
  have h_finished {id : JobId} (h_or : Finished e.record id ∨ terminalJobId event = some id) :
      Finished e'.record id := by
    rw [finished_iff] at h_or ⊢
    rw [h_record]
    rcases h_or with ⟨event', h_mem, h_terminal⟩ | h_terminal
    · exact ⟨event', List.mem_append_left _ h_mem, h_terminal⟩
    · exact ⟨event, by simp, h_terminal⟩
  refine ⟨?_, ?_, ?_, ?_, ?_, ?_⟩
  · simp only [h_same, h_submitted, Leads]
    exact h.pairs
  · rw [h_same]
    exact h.once
  · intro p h_p
    rw [h_same] at h_p
    have h_f : event.jobId ≠ p.1 := (follower_ne h_p h_lead).symm
    obtain ⟨h_nodup, h_pairs⟩ := h.followers event.jobId
    have h_before : received e.record p.1 =
        (received e.record p.2).filterMap (cloneFollowerEvent · p.1) := by
      have h_copied := h.copied p h_p
      rw [h_takes.idle, List.filter_nil, List.append_nil] at h_copied
      exact h_copied
    rw [h_heard, h_heard, if_neg h_f, List.append_nil, h_before, h_takes.pending,
      clones_filter h_nodup, List.filterMap_append]
    congr 1
    by_cases h_l : event.jobId = p.2
    · have h_mem : p.1 ∈ e.followers event.jobId := by
        rw [h_l]
        refine (h.waiting p h_p).resolve_left fun h_fin => ?_
        exact h_last p.1 (by rw [h_l]; exact h_p) (h_l ▸ h_fin)
      rw [if_pos h_mem, if_pos h_l]
      cases h_clone : cloneFollowerEvent event p.1 <;> simp [h_clone]
    · have h_not : p.1 ∉ e.followers event.jobId := by
        intro h_mem
        exact h_l (h.leader_eq (h_pairs _ h_mem) h_p)
      rw [if_neg h_not, if_neg h_l, List.filterMap_nil]
  · intro p h_p
    rw [h_same] at h_p
    rw [h_takes.followers]
    by_cases h_terminal : terminalJobId event = some p.2
    · exact .inl (h_finished (.inr h_terminal))
    · rw [if_neg h_terminal]
      exact (h.waiting p h_p).imp_left fun h_fin => h_finished (.inl h_fin)
  · intro id
    rw [h_takes.followers, h_same]
    by_cases h_terminal : terminalJobId event = some id
    · rw [if_pos h_terminal]
      exact ⟨List.nodup_nil, fun f h_f => by cases h_f⟩
    · rw [if_neg h_terminal]
      exact h.followers id
  · intro clone h_clone
    rw [h_takes.pending, List.mem_filterMap] at h_clone
    obtain ⟨f, h_f, h_some⟩ := h_clone
    rw [Leads, h_same, clone_jobId h_some]
    have h_p := (h.followers event.jobId).2 f h_f
    exact fun h_leads => h_leads (List.mem_map.mpr ⟨_, h_p, rfl⟩)

end Sharing

end Kelpie
