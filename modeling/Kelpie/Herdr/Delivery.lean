/-
  Kelpie.Herdr.Delivery

  Runs of the executor: the order of its lanes, the answer to each job, and that
  each answer is about a time after the job was submitted.

  A job is answered by the request of one job, its leader: itself, or the queued
  snapshot that it joined.  That the leader is dispatched after the job was
  submitted holds because only a queued snapshot is joined.
-/

import Mathlib.Algebra.GroupWithZero.Nat
import Mathlib.Data.Option.Basic
import Kelpie.Herdr.Answers

namespace Kelpie

open Lib HerdrExec

variable {e e' : HerdrExec} {workers : AList (fun _ : JobId => Worker)} {job leader : HerdrJob}
  {event : HerdrEvent} {id : JobId} {record : List HerdrEntry} {entry : HerdrEntry}

-- ============================================================================
-- Whose request answers a job
-- ============================================================================

/-- The request of `leader` answers `job`. -/
def Serves (record : List HerdrEntry) (leader job : HerdrJob) : Prop :=
  job ∈ submitted record ∧ leader ∈ submitted record ∧
    ((leader = job ∧ Leads record job.jobId) ∨ (job.jobId, leader.jobId) ∈ joins record)

/-- The event is what a worker said of a job, or the clone of that for a follower. -/
def Echo (record : List HerdrEntry) (job leader : HerdrJob) (said event : HerdrEvent) : Prop :=
  Serves record leader job ∧ event.jobId = job.jobId ∧ said.jobId = leader.jobId ∧
    (event = said ∨ cloneFollowerEvent said job.jobId = some event)

/-- What happens to a request is in the record in this order, and after the submission of
    each job that it answers. -/
structure Timely (e : HerdrExec) (workers : AList (fun _ : JobId => Worker)) : Prop where
  dispatched : ∀ {leader job}, Serves e.record leader job → .dispatched leader ∈ e.record →
    [.submitted job, .dispatched leader].Sublist e.record
  requested : ∀ {leader job}, Serves e.record leader job → .requested leader.jobId ∈ e.record →
    [.submitted job, .dispatched leader, .requested leader.jobId].Sublist e.record
  reported : ∀ {leader job event}, Serves e.record leader job → event.jobId = leader.jobId →
    .reported event ∈ e.record →
    [.submitted job, .dispatched leader, .requested leader.jobId, .reported event].Sublist
      e.record
  received : ∀ event, .received event ∈ e.record → ∃ job leader said,
    Echo e.record job leader said event ∧
    [.submitted job, .dispatched leader, .requested leader.jobId, .reported said,
      .received event].Sublist e.record
  pending : ∀ event ∈ e.pendingEvents, ∃ job leader said,
    Echo e.record job leader said event ∧ .reported said ∈ e.record
  asked : ∀ id worker, workers.lookup id = some worker → .requested id ∈ e.record
  known : ∀ id, .requested id ∈ e.record → ∃ job ∈ HerdrExec.dispatched e.record, job.jobId = id

/-- An entry at the end of the record comes after what was in it. -/
theorem sublist_snoc (chain : List HerdrEntry) {a : HerdrEntry}
    (h_old : a ∈ record → (chain ++ [a]).Sublist record) (h_new : a = entry → chain.Sublist record)
    (h : a ∈ record ++ [entry]) : (chain ++ [a]).Sublist (record ++ [entry]) := by
  by_cases h_mem : a ∈ record
  · exact (h_old h_mem).trans (List.sublist_append_left _ _)
  · obtain rfl : a = entry := by
      simpa [h_mem] using h
    exact (h_new rfl).append (List.Sublist.refl _)

namespace Timely

theorem spawn : Timely {} ∅ where
  dispatched _ h := by cases h
  requested _ h := by cases h
  reported _ _ h := by cases h
  received _ h := by cases h
  pending _ h := by cases h
  asked _ _ h := by cases h
  known _ h := by cases h

/-- What may be noted next. -/
def Next (record : List HerdrEntry) : HerdrEntry → Prop
  | .submitted _ | .joined _ _ => False
  | .dispatched _ => True
  | .requested id => ∃ job ∈ HerdrExec.dispatched record, job.jobId = id ∧
      ∀ j ∈ submitted record, j.jobId = id → j = job
  | .reported event => .requested event.jobId ∈ record
  | .received event => ∃ job leader said, Echo record job leader said event ∧
      .reported said ∈ record

/-- The next thing happens to a request. -/
theorem extend (h : Timely e workers) {workers' : AList (fun _ : JobId => Worker)}
    (h_record : e'.record = e.record ++ [entry]) (h_entry : Next e.record entry)
    (h_pending : ∀ event ∈ e'.pendingEvents, event ∈ e.pendingEvents ∨ ∃ job leader said,
      Echo e.record job leader said event ∧ .reported said ∈ e.record)
    (h_workers : ∀ id worker, workers'.lookup id = some worker → .requested id ∈ e'.record) :
    Timely e' workers' := by
  have h_submitted : submitted e'.record = submitted e.record := by
    rw [h_record, submitted_append]
    cases entry <;> simp [submitted, Next] at h_entry ⊢
  have h_joins : joins e'.record = joins e.record := by
    rw [h_record, joins_append]
    cases entry <;> simp [joins, Next] at h_entry ⊢
  have h_serves (leader job : HerdrJob) :
      Serves e'.record leader job ↔ Serves e.record leader job := by
    unfold Serves Leads
    rw [h_submitted, h_joins]
  have h_echo (job leader : HerdrJob) (said event : HerdrEvent) :
      Echo e'.record job leader said event ↔ Echo e.record job leader said event := by
    unfold Echo
    rw [h_serves]
  have h_mem {a : HerdrEntry} (h_a : a ∈ e.record) : a ∈ e'.record := by
    rw [h_record]
    exact List.mem_append_left _ h_a
  have h_old {chain : List HerdrEntry} (h_chain : chain.Sublist e.record) :
      chain.Sublist e'.record := by
    rw [h_record]
    exact h_chain.trans (List.sublist_append_left _ _)
  refine ⟨?_, ?_, ?_, ?_, ?_, h_workers, ?_⟩
  · intro leader job h_job h_dispatched
    rw [h_serves] at h_job
    rw [h_record] at h_dispatched ⊢
    refine sublist_snoc [.submitted job] (h.dispatched h_job) (fun _ => ?_) h_dispatched
    exact List.singleton_sublist.mpr (mem_submitted.mp h_job.1)
  · intro leader job h_job h_requested
    rw [h_serves] at h_job
    rw [h_record] at h_requested ⊢
    refine sublist_snoc [.submitted job, .dispatched leader] (h.requested h_job)
      (fun h_eq => ?_) h_requested
    subst h_eq
    obtain ⟨j, h_j, -, h_only⟩ := h_entry
    obtain rfl := h_only leader h_job.2.1 rfl
    exact h.dispatched h_job (mem_dispatched.mp h_j)
  · intro leader job event h_job h_id h_reported
    rw [h_serves] at h_job
    rw [h_record] at h_reported ⊢
    refine sublist_snoc [.submitted job, .dispatched leader, .requested leader.jobId]
      (h.reported h_job h_id) (fun h_eq => ?_) h_reported
    subst h_eq
    exact h.requested h_job (h_id ▸ h_entry)
  · intro event h_received
    simp only [h_echo]
    by_cases h_before : .received event ∈ e.record
    · obtain ⟨job, leader, said, h_voice, h_chain⟩ := h.received event h_before
      exact ⟨job, leader, said, h_voice, h_old h_chain⟩
    · have h_eq : .received event = entry := by
        rw [h_record] at h_received
        simpa [h_before] using h_received
      subst h_eq
      obtain ⟨job, leader, said, h_voice, h_said⟩ := h_entry
      refine ⟨job, leader, said, h_voice, ?_⟩
      rw [h_record]
      exact (h.reported h_voice.1 h_voice.2.2.1 h_said).append
        (List.Sublist.refl [HerdrEntry.received event])
  · intro event h_event
    simp only [h_echo]
    have h_from : ∃ job leader said, Echo e.record job leader said event ∧
        .reported said ∈ e.record := (h_pending event h_event).elim (h.pending event) id
    obtain ⟨job, leader, said, h_voice, h_said⟩ := h_from
    exact ⟨job, leader, said, h_voice, h_mem h_said⟩
  · intro id h_id
    rw [h_record, dispatched_append]
    rw [h_record, List.mem_append, List.mem_singleton] at h_id
    have h_job : ∃ job ∈ HerdrExec.dispatched e.record, job.jobId = id := by
      rcases h_id with h_id | rfl
      · exact h.known id h_id
      · obtain ⟨job, h_job, h_eq, -⟩ := h_entry
        exact ⟨job, h_job, h_eq⟩
    obtain ⟨job, h_job, h_eq⟩ := h_job
    exact ⟨job, List.mem_append_left _ h_job, h_eq⟩

/-- A job is admitted that no request has answered so far: its own one is still to be
    dispatched, and so is the one that it joins. -/
theorem grant (h : Timely e workers) (h_lanes : Lanes e) (h_working : Working e workers)
    (h_sharing : Sharing e) (h_fresh : ∀ j ∈ submitted e.record, j.jobId ≠ job.jobId)
    (h_record : e'.record = e.record ++ [.submitted job] ∨ ∃ leader ∈ e.queueOn leader.lane,
      e'.record = e.record ++ [.submitted job, .joined job.jobId leader.jobId])
    (h_pending : e'.pendingEvents = e.pendingEvents) : Timely e' workers := by
  obtain ⟨record, h_record, h_more⟩ : ∃ record, e'.record = e.record ++ .submitted job :: record ∧
      (record = [] ∨ ∃ leader ∈ e.queueOn leader.lane,
        record = [.joined job.jobId leader.jobId]) := by
    rcases h_record with h_record | ⟨leader, h_leader, h_record⟩
    · exact ⟨[], h_record, .inl rfl⟩
    · exact ⟨_, h_record, .inr ⟨leader, h_leader, rfl⟩⟩
  have h_submitted : submitted e'.record = submitted e.record ++ [job] := by
    rw [h_record, submitted_append]
    rcases h_more with rfl | ⟨_, -, rfl⟩ <;> simp [submitted]
  have h_known {j : HerdrJob} (h_j : j ∈ submitted e'.record) (h_ne : j.jobId ≠ job.jobId) :
      j ∈ submitted e.record := by
    rw [h_submitted, List.mem_append, List.mem_singleton] at h_j
    exact h_j.resolve_right fun h_eq => h_ne (h_eq ▸ rfl)
  have h_dispatched : HerdrExec.dispatched e'.record = HerdrExec.dispatched e.record := by
    rw [h_record, dispatched_append]
    rcases h_more with rfl | ⟨_, -, rfl⟩ <;> simp [HerdrExec.dispatched]
  have h_joins : joins e'.record = joins e.record ++ joins record := by
    rw [h_record, joins_append]
    rfl
  have h_mem {a : HerdrEntry} (h_a : a ∈ e.record) : a ∈ e'.record := by
    rw [h_record]
    exact List.mem_append_left _ h_a
  have h_old {chain : List HerdrEntry} (h_chain : chain.Sublist e.record) :
      chain.Sublist e'.record := by
    rw [h_record]
    exact h_chain.trans (List.sublist_append_left _ _)
  have h_only {a : HerdrEntry} (h_a : a ∈ e'.record) (h_not : ∀ j, a ≠ .submitted j)
      (h_not' : ∀ f l, a ≠ .joined f l) : a ∈ e.record := by
    rw [h_record, List.mem_append] at h_a
    refine h_a.resolve_right fun h_a => ?_
    rcases h_more with rfl | ⟨_, -, rfl⟩
    · exact h_not _ (by simpa using h_a)
    · rcases List.mem_cons.mp h_a with h_a | h_a
      · exact h_not _ h_a
      · exact h_not' _ _ (List.mem_singleton.mp h_a)
  -- Whoever answers another job than before was not dispatched.
  have h_serves {l j : HerdrJob} (h_j : Serves e'.record l j) :
      Serves e.record l j ∨ ∀ d ∈ HerdrExec.dispatched e.record, d.jobId ≠ l.jobId := by
    obtain ⟨h_sub, h_lead, h_self | h_pair⟩ := h_j
    · obtain ⟨rfl, h_leads⟩ := h_self
      rw [h_submitted, List.mem_append, List.mem_singleton] at h_sub
      rcases h_sub with h_sub | rfl
      · refine .inl ⟨h_sub, h_sub, .inl ⟨rfl, fun h_id => h_leads ?_⟩⟩
        rw [h_joins, List.map_append]
        exact List.mem_append_left _ h_id
      · exact .inr fun d h_d => h_fresh d (h_lanes.of_lane (.inl h_d)).1
    · rw [h_joins, List.mem_append] at h_pair
      rcases h_pair with h_pair | h_pair
      · obtain ⟨l', h_l', j', h_j', h_l_id, h_j_id, -, -⟩ := h_sharing.pairs _ h_pair
        refine .inl ⟨?_, ?_, .inr h_pair⟩
        · exact h_known h_sub fun h_eq => h_fresh j' h_j' (h_j_id.trans h_eq)
        · exact h_known h_lead fun h_eq => h_fresh l' h_l' (h_l_id.trans h_eq)
      · rcases h_more with rfl | ⟨q, h_q, rfl⟩
        · simp [joins] at h_pair
        · have h_id : l.jobId = q.jobId := by
            have h_eq : (j.jobId, l.jobId) = (job.jobId, q.jobId) := by
              simpa [joins] using h_pair
            exact congrArg Prod.snd h_eq
          rw [h_id]
          exact .inr fun d h_d h_eq => h_lanes.waiting_not_sent h_q (.inl ⟨d, h_d, h_eq⟩)
  have h_keeps {l j : HerdrJob} (h_j : Serves e.record l j) : Serves e'.record l j := by
    obtain ⟨h_sub, h_lead, h_self | h_pair⟩ := h_j
    · obtain ⟨rfl, h_leads⟩ := h_self
      rw [Serves, h_submitted]
      refine ⟨List.mem_append_left _ h_sub, List.mem_append_left _ h_sub, .inl ⟨rfl, ?_⟩⟩
      rw [Leads, h_joins, List.map_append, List.mem_append]
      refine not_or.mpr ⟨h_leads, ?_⟩
      rcases h_more with rfl | ⟨q, -, rfl⟩
      · simp [joins]
      · simpa [joins] using h_fresh l h_sub
    · rw [Serves, h_submitted, h_joins]
      exact ⟨List.mem_append_left _ h_sub, List.mem_append_left _ h_lead,
        .inr (List.mem_append_left _ h_pair)⟩
  have h_echo {j l : HerdrJob} {said event : HerdrEvent} (h_voice : Echo e.record j l said event) :
      Echo e'.record j l said event := ⟨h_keeps h_voice.1, h_voice.2⟩
  refine ⟨?_, ?_, ?_, ?_, ?_, ?_, ?_⟩
  · intro l j h_j h_d
    have h_d := h_only h_d (by simp) (by simp)
    rcases h_serves h_j with h_j | h_none
    · exact h_old (h.dispatched h_j h_d)
    · exact absurd rfl (h_none l (mem_dispatched.mpr h_d))
  · intro l j h_j h_r
    have h_r := h_only h_r (by simp) (by simp)
    rcases h_serves h_j with h_j | h_none
    · exact h_old (h.requested h_j h_r)
    · obtain ⟨d, h_d, h_id⟩ := h.known _ h_r
      exact absurd h_id (h_none d h_d)
  · intro l j event h_j h_id h_said
    have h_said := h_only h_said (by simp) (by simp)
    rcases h_serves h_j with h_j | h_none
    · exact h_old (h.reported h_j h_id h_said)
    · obtain ⟨d, h_d, h_eq⟩ := h_working.mute event.jobId
        (List.ne_nil_of_mem (mem_reported.mpr ⟨h_said, rfl⟩))
      exact absurd (h_eq.trans h_id) (h_none d h_d)
  · intro event h_event
    obtain ⟨j, l, said, h_voice, h_chain⟩ := h.received event (h_only h_event (by simp) (by simp))
    exact ⟨j, l, said, h_echo h_voice, h_old h_chain⟩
  · intro event h_event
    obtain ⟨j, l, said, h_voice, h_said⟩ := h.pending event (h_pending ▸ h_event)
    exact ⟨j, l, said, h_echo h_voice, h_mem h_said⟩
  · exact fun id worker h_worker => h_mem (h.asked id worker h_worker)
  · intro id h_id
    rw [h_dispatched]
    exact h.known id (h_only h_id (by simp) (by simp))

end Timely

-- ============================================================================
-- Every step keeps the invariants
-- ============================================================================

/-- What was said of a dispatched job so far, and what its worker is about to say. -/
theorem Working.reports (h : Working e workers) (h_lanes : Lanes e)
    (h_job : job ∈ dispatched e.record) (h_some : reported e.record job.jobId ≠ []) :
    ∃ stage rest, Reports job stage (reported e.record job.jobId ++ rest) := by
  rcases h.left job h_job with h_tx | h_worker | h_left
  · exact absurd (h.fresh job h_tx).2.2 h_some
  · obtain ⟨worker, h_worker⟩ := Option.isSome_iff_exists.mp h_worker
    obtain ⟨h_mem, h_id, h_said⟩ := h.working _ _ h_worker
    have h_eq : worker.job = job := h_lanes.eq_of_id (h_lanes.of_lane (.inl h_mem)).1
      (h_lanes.of_lane (.inl h_job)).1 h_id
    exact ⟨_, _, h_eq ▸ h_said⟩
  · exact ⟨_, [], by rw [List.append_nil]; exact h_left⟩

/-- A job that others share the request of is not finished as long as something of it is on
    its way: its last event is its only terminal one. -/
theorem Working.not_finished (h : Working e workers) (h_lanes : Lanes e)
    (h_job : job ∈ dispatched e.record) (h_calls : job.Calls) (h_event : event ∈ e.eventRx)
    (h_id : event.jobId = job.jobId) : ¬ Finished e.record job.jobId := by
  have h_heard := h.heard job.jobId (h_lanes.of_lane (.inl h_job)).2
  have h_way : e.eventRx.filter (·.jobId = job.jobId) ≠ [] :=
    List.ne_nil_of_mem (List.mem_filter.mpr ⟨h_event, by simpa using h_id⟩)
  have h_some : reported e.record job.jobId ≠ [] := by
    rw [h_heard]
    simp [h_way]
  obtain ⟨stage, rest, h_said⟩ := h.reports h_lanes h_job h_some
  rintro ⟨event', h_event', h_terminal⟩
  rcases h_said.calls h_calls with ⟨-, h_none⟩ | ⟨-, result, -, h_both⟩
  · exact h_some (List.append_eq_nil_iff.mp h_none).1
  · -- What was received is at most the first of the two events.
    rw [h_heard] at h_both
    cases h_received : received e.record job.jobId with
    | nil => simp [h_received] at h_event'
    | cons first more =>
      simp only [h_received, List.cons_append, List.cons.injEq] at h_both
      obtain ⟨rfl, h_both⟩ := h_both
      cases more with
      | nil =>
        rw [h_received, List.mem_singleton] at h_event'
        subst h_event'
        cases h_terminal
      | cons second more =>
        simp only [List.cons_append, List.cons.injEq, List.append_eq_nil_iff] at h_both
        exact h_way h_both.2.1.2

/-- A received event is about a job that was sent, and one that ends a job frees its lane. -/
theorem HerdrExec.Lanes.receive (h : Lanes e)
    (h_pending : ∀ event ∈ e.pendingEvents, ¬ Leads e.record event.jobId)
    (h_events : ∀ event ∈ e.eventRx, ∃ job ∈ dispatched e.record, job.jobId = event.jobId)
    (h_some : e.tryRecv = some (event, e')) : Lanes e' := by
  unfold tryRecv at h_some
  split at h_some
  · rename_i h_event
    cases h_some
    have h_joined := h_pending event (by simp [h_event])
    refine h.hear rfl rfl rfl (.inr h_joined) fun lane id h_lookup h_terminal => ?_
    -- A job in flight shares no request.
    obtain ⟨j, h_j, rfl, -⟩ := h.held lane id h_lookup
    rw [terminalJobId_eq h_terminal] at h_joined
    exact h_joined (h.of_lane (.inl h_j)).2
  · split at h_some
    · rename_i h_event
      cases h_some
      have h_sent : Sent e.record event.jobId := .inl (h_events event (by simp [h_event]))
      cases h_terminal : terminalJobId event with
      | none =>
        simp only [finish, h_terminal]
        rw [fanOutDone_passing h_terminal]
        refine h.hear rfl rfl rfl h_sent fun lane id h_lookup h_id => ?_
        rw [h_terminal] at h_id
        cases h_id
      | some id =>
        simp only [finish, h_terminal]
        rw [fanOutDone_terminal h_terminal]
        exact h.free rfl rfl rfl h_sent h_terminal
    · cases h_some

/-- What holds of the executor and its workers in every state that is reached. -/
structure Sound (w : HerdrWorld) : Prop where
  lanes : Lanes w.exec
  working : Working w.exec w.workers
  sharing : Sharing w.exec
  timely : Timely w.exec w.workers

namespace Sound

variable {w w' : HerdrWorld} {worker : Worker}

theorem spawn : Sound HerdrWorld.spawn := ⟨.spawn, .spawn, .spawn, .spawn⟩

theorem submit (h : Sound w) (h_fresh : ∀ j ∈ submitted w.exec.record, j.jobId ≠ job.jobId) :
    Sound { w with exec := w.exec.submit job } := by
  have h_lanes := h.lanes.submit h_fresh
  have h_new : ∀ j ∈ dispatched w.exec.record, j.jobId ≠ job.jobId :=
    fun j h_j => h_fresh j (h.lanes.of_lane (.inl h_j)).1
  obtain ⟨h_submits, h_events, h_pending⟩ := submit_submits h.lanes job
  cases h_submits with
  | join leader h_queue h_joins h_tx h_followers h_record =>
    refine ⟨h_lanes, ?_, ?_, ?_⟩
    · exact h.working.extend h_tx h_record rfl (fun _ => rfl) (fun _ _ => by rw [h_events]; rfl)
        (fun _ h_event => h_events ▸ h_event)
    · exact h.sharing.join h.lanes h_fresh h_queue h_joins h_followers h_record h_pending
    · exact h.timely.grant h.lanes h.working h.sharing h_fresh (.inr ⟨leader, h_queue, h_record⟩)
        h_pending
  | wait h_tx h_followers h_record =>
    refine ⟨h_lanes, ?_, ?_, ?_⟩
    · exact h.working.extend h_tx h_record rfl (fun _ => rfl) (fun _ _ => by rw [h_events]; rfl)
        (fun _ h_event => h_events ▸ h_event)
    · exact h.sharing.extend h_record rfl (fun _ => rfl) h_pending h_followers
    · exact h.timely.grant h.lanes h.working h.sharing h_fresh (.inl h_record) h_pending
  | dispatch h_tx h_followers h_record =>
    -- The job is noted first, and dispatched then.
    let noted : HerdrExec := w.exec.note (.submitted job)
    have h_noted : Working noted w.workers := h.working.extend rfl rfl rfl (fun _ => rfl)
      (fun _ _ => rfl) (fun _ => id)
    have h_noted_timely : Timely noted w.workers :=
      h.timely.grant h.lanes h.working h.sharing h_fresh (.inl rfl) rfl
    have h_record' : (w.exec.submit job).record = noted.record ++ [.dispatched job] := by
      rw [h_record]
      simp [noted, note]
    refine ⟨h_lanes, ?_, ?_, ?_⟩
    · refine h_noted.dispatch ?_ h_tx h_record' h_events
      simpa [noted, note, dispatched] using h_new
    · exact h.sharing.extend h_record rfl (fun _ => rfl) h_pending h_followers
    · refine h_noted_timely.extend h_record' trivial (fun event h_event => .inl ?_) ?_
      · exact h_pending ▸ h_event
      · intro id worker h_worker
        rw [h_record']
        exact List.mem_append_left _ (h_noted_timely.asked id worker h_worker)

theorem receive {r : HerdrEvent × HerdrExec} (h : Sound w) (h_some : w.exec.tryRecv = some r) :
    Sound { w with exec := r.2 } := by
  obtain ⟨event, e'⟩ := r
  have h_lanes := h.lanes.receive h.sharing.pending (fun _ => h.working.sent) h_some
  rcases tryRecv_takes h.lanes h_some with ⟨rest, h_pending, rfl⟩ | h_takes
  · have h_joined := h.sharing.pending event (by simp [h_pending])
    refine ⟨h_lanes, ?_, h.sharing.deliver h_pending, ?_⟩
    · refine h.working.extend rfl rfl rfl (fun _ => rfl) (fun id h_leads => ?_) (fun _ => id)
      have h_ne : event.jobId ≠ id := by
        rintro rfl
        exact h_joined h_leads
      simp [received, note, h_ne]
    · refine h.timely.extend rfl (h.timely.pending event (by simp [h_pending]))
        (fun clone h_clone => .inl ?_) fun id worker h_worker => ?_
      · rw [h_pending]
        exact List.mem_cons_of_mem _ h_clone
      · exact List.mem_append_left _ (h.timely.asked id worker h_worker)
  · have h_event : event ∈ w.exec.eventRx := by
      rw [h_takes.events]
      exact List.mem_cons_self
    obtain ⟨job, h_job, h_id⟩ := h.working.sent h_event
    obtain ⟨h_submitted, h_leads⟩ := h.lanes.of_lane (.inl h_job)
    have h_said : .reported event ∈ w.exec.record := h.working.known event h_event
    -- The event is heard first, and the next job of its lane is dispatched then.
    let heard : HerdrExec :=
      { e' with jobTx := w.exec.jobTx, record := w.exec.record ++ [.received event] }
    have h_heard : Working heard w.workers := by
      refine h.working.extend rfl rfl rfl (fun _ => rfl) (fun id _ => ?_) fun event' h_event' => ?_
      · rw [h_takes.events]
        by_cases h_eq : event.jobId = id <;> simp [heard, received, h_eq]
      · rw [h_takes.events]
        exact List.mem_cons_of_mem _ h_event'
    have h_heard_timely : Timely heard w.workers := by
      refine h.timely.extend rfl ?_ (fun clone h_clone => .inr ?_) fun id worker h_worker =>
        List.mem_append_left _ (h.timely.asked id worker h_worker)
      · exact ⟨job, job, event, ⟨⟨h_submitted, h_submitted, .inl ⟨rfl, h_leads⟩⟩, h_id.symm,
          h_id.symm, .inl rfl⟩, h_said⟩
      · have h_clone : clone ∈ e'.pendingEvents := h_clone
        rw [h_takes.pending, List.mem_filterMap] at h_clone
        obtain ⟨f, h_f, h_some⟩ := h_clone
        have h_pair := (h.sharing.followers event.jobId).2 f h_f
        obtain ⟨l, h_l, j, h_j, h_l_id, rfl, -, -⟩ := h.sharing.pairs _ h_pair
        exact ⟨j, l, event, ⟨⟨h_j, h_l, .inr (h_l_id ▸ h_pair)⟩, clone_jobId h_some, h_l_id.symm,
          .inr h_some⟩, h_said⟩
    refine ⟨h_lanes, ?_, ?_, ?_⟩
    · rcases h_takes.next with ⟨h_tx, h_record⟩ | ⟨next, h_next, h_tx, h_record⟩
      · have h_eq : heard = e' := by
          simp only [heard, ← h_tx, ← h_record]
        exact h_eq ▸ h_heard
      · refine h_heard.dispatch (fun j h_j h_eq => ?_) h_tx ?_ rfl
        · have h_j : j ∈ dispatched w.exec.record := by
            simpa [heard, dispatched] using h_j
          exact h.lanes.waiting_not_sent h_next (.inl ⟨j, h_j, h_eq⟩)
        · simpa [heard] using h_record
    · refine h.sharing.fanOut h_takes (h_id ▸ h_leads) fun f h_pair h_finished => ?_
      obtain ⟨l, h_l, f', -, h_l_id, -, h_joins, -⟩ := h.sharing.pairs _ h_pair
      obtain rfl : l = job := h.lanes.eq_of_id h_l h_submitted (h_l_id.trans h_id.symm)
      exact h.working.not_finished h.lanes h_job h_joins.calls h_event h_id.symm
        (h_id ▸ h_finished)
    · rcases h_takes.next with ⟨h_tx, h_record⟩ | ⟨next, -, h_tx, h_record⟩
      · have h_eq : heard = e' := by
          simp only [heard, ← h_tx, ← h_record]
        exact h_eq ▸ h_heard_timely
      · have h_record' : e'.record = heard.record ++ [.dispatched next] := by
          simpa [heard] using h_record
        refine h_heard_timely.extend h_record' trivial (fun _ => .inl) fun id worker h_worker => ?_
        rw [h_record']
        exact List.mem_append_left _ (h_heard_timely.asked id worker h_worker)

theorem take {rest : List HerdrJob} (h : Sound w) (h_jobs : w.exec.jobTx = job :: rest) :
    Sound {
      exec := ({ w.exec with jobTx := rest } : HerdrExec).note (.requested job.jobId)
      workers := w.workers.insert job.jobId { job } } := by
  have h_job := (h.working.fresh job (h_jobs ▸ List.mem_cons_self)).1
  refine ⟨?_, h.working.take h_jobs, ?_, ?_⟩
  · exact h.lanes.quiet rfl rfl rfl (.inl ⟨_, rfl⟩)
  · exact h.sharing.extend rfl rfl (fun _ => rfl) rfl rfl
  · refine h.timely.extend rfl ⟨job, h_job, rfl, ?_⟩ (fun _ => .inl) ?_
    · exact fun j h_j h_id => h.lanes.eq_of_id h_j (h.lanes.of_lane (.inl h_job)).1 h_id
    intro id worker h_worker
    dsimp only [note]
    by_cases h_id : id = job.jobId
    · rw [h_id]
      exact List.mem_append_right _ (List.mem_singleton.mpr rfl)
    · rw [AList.lookup_insert_ne h_id] at h_worker
      exact List.mem_append_left _ (h.timely.asked id worker h_worker)

/-- A worker moves on within its loop. -/
theorem move {worker' : Worker} (h : Sound w) (h_worker : w.workers.lookup id = some worker)
    (h_job : worker'.job = worker.job)
    (h_reports : Reports worker.job worker.stage (reported w.exec.record id ++ worker.outbox) →
      Reports worker.job worker'.stage (reported w.exec.record id ++ worker'.outbox)) :
    Sound { w with workers := w.workers.insert id worker' } := by
  refine ⟨h.lanes, h.working.move h_worker h_job h_reports, h.sharing, ?_⟩
  refine { h.timely with asked := fun id' worker'' h_lookup => ?_ }
  dsimp only at h_lookup
  by_cases h_id : id' = id
  · rw [h_id]
    exact h.timely.asked id worker h_worker
  · rw [AList.lookup_insert_ne h_id] at h_lookup
    exact h.timely.asked id' worker'' h_lookup

theorem send {rest : List HerdrEvent} (h : Sound w) (h_worker : w.workers.lookup id = some worker)
    (h_outbox : worker.outbox = event :: rest) :
    Sound {
      exec := ({ w.exec with eventRx := w.exec.eventRx ++ [event] } : HerdrExec).note
        (.reported event)
      workers := w.workers.insert id { worker with outbox := rest } } := by
  have h_asked := h.timely.asked id worker h_worker
  obtain ⟨-, h_job_id, h_said⟩ := h.working.working id worker h_worker
  have h_event : event.jobId = id := by
    rw [← h_job_id]
    exact h_said.ids event (by simp [h_outbox])
  refine ⟨?_, h.working.send h_worker h_outbox, ?_, ?_⟩
  · exact h.lanes.quiet rfl rfl rfl (.inr ⟨_, rfl⟩)
  · exact h.sharing.extend rfl rfl (fun _ => rfl) rfl rfl
  · refine h.timely.extend rfl (by rw [Timely.Next, h_event]; exact h_asked)
      (fun _ => .inl) ?_
    intro id' worker' h_lookup
    refine List.mem_append_left _ ?_
    by_cases h_id : id' = id
    · rw [h_id]
      exact h_asked
    · rw [AList.lookup_insert_ne h_id] at h_lookup
      exact h.timely.asked id' worker' h_lookup

theorem leave (h : Sound w) (h_worker : w.workers.lookup id = some worker)
    (h_stage : worker.stage = .leaving) (h_outbox : worker.outbox = []) :
    Sound { w with workers := w.workers.erase id } := by
  refine ⟨h.lanes, h.working.leave h.lanes h_worker h_stage h_outbox, h.sharing, ?_⟩
  refine { h.timely with asked := fun id' worker' h_lookup => ?_ }
  dsimp only at h_lookup
  have h_id : id' ≠ id := by
    rintro rfl
    rw [AList.lookup_erase] at h_lookup
    cases h_lookup
  rw [AList.lookup_erase_ne h_id] at h_lookup
  exact h.timely.asked id' worker' h_lookup

theorem step {pool : Nat} {step : HerdrStep} (h : Sound w) (h_fresh : step.Fresh w)
    (h_next : HerdrWorld.next pool step w = some w') : Sound w' := by
  cases step with
  | submit job =>
    cases h_next
    exact h.submit h_fresh
  | receive =>
    obtain ⟨r, h_some, rfl⟩ := Option.map_eq_some_iff.mp h_next
    exact h.receive h_some
  | take =>
    simp only [HerdrWorld.next] at h_next
    split at h_next
    · rename_i h_jobs
      split at h_next
      · cases h_next
        exact h.take h_jobs
      · cases h_next
    · cases h_next
  | answer id reply =>
    simp only [HerdrWorld.next, Option.bind_eq_bind, Option.bind_eq_some_iff,
      Option.guard_eq_some'] at h_next
    obtain ⟨worker, h_worker, ⟨⟩, h_stage, ⟨stage, events⟩, h_answer, h_next⟩ := h_next
    cases h_next
    refine h.move h_worker rfl fun h_said => ?_
    -- Nothing was said before the answer.
    rw [h_stage] at h_said
    rcases h_said.said with ⟨-, h_nil⟩ | ⟨_, _, _, _, h_leased, -⟩ | ⟨h_leaving, -⟩
    · rw [(List.append_eq_nil_iff.mp h_nil).1]
      exact .answered h_answer
    · cases h_leased
    · cases h_leaving
  | command id input =>
    simp only [HerdrWorld.next, Option.bind_eq_bind, Option.bind_eq_some_iff,
      Option.guard_eq_some'] at h_next
    obtain ⟨worker, h_worker, ⟨⟩, ⟨h_stage, h_outbox⟩, h_next⟩ := h_next
    cases h_next
    refine h.move h_worker rfl fun h_said => ?_
    rw [h_stage, h_outbox, List.append_nil] at h_said
    exact .command input h_said
  | send id =>
    simp only [HerdrWorld.next, Option.bind_eq_bind, Option.bind_eq_some_iff] at h_next
    obtain ⟨worker, h_worker, event, h_head, h_next⟩ := h_next
    cases h_next
    obtain ⟨rest, h_outbox⟩ := List.head?_eq_some_iff.mp h_head
    rw [h_outbox]
    exact h.send h_worker h_outbox
  | leave id =>
    simp only [HerdrWorld.next, Option.bind_eq_bind, Option.bind_eq_some_iff,
      Option.guard_eq_some'] at h_next
    obtain ⟨worker, h_worker, ⟨⟩, ⟨h_stage, h_outbox⟩, h_next⟩ := h_next
    cases h_next
    exact h.leave h_worker h_stage h_outbox

end Sound

theorem HerdrReachable.sound {pool : Nat} {w : HerdrWorld} (h : HerdrReachable pool w) : Sound w :=
  Run.invariant h .spawn fun _ _ _ h_sound h_fresh h_next => h_sound.step h_fresh h_next

-- ============================================================================
-- The answers
-- ============================================================================

/-- An answer ends in a terminal event. -/
theorem HerdrJob.Answer.terminal {events : List HerdrEvent} (h : job.Answer events) :
    ∃ event ∈ events, (terminalJobId event).isSome := by
  have h_lease {id : JobId} {outcome : List HerdrEvent} (h : LeaseOutcome id outcome) :
      ∃ event ∈ outcome, (terminalJobId event).isSome := by
    induction h with
    | dropped => exact ⟨_, List.mem_singleton.mpr rfl, rfl⟩
    | expired => exact ⟨_, List.mem_singleton.mpr rfl, rfl⟩
    | refused error => exact ⟨_, List.mem_singleton.mpr rfl, rfl⟩
    | unwritten outcome h h_rest ih =>
      obtain ⟨event, h_event, h_terminal⟩ := ih
      exact ⟨event, List.mem_cons_of_mem _ h_event, h_terminal⟩
    | served pause outcome h h_rest ih =>
      obtain ⟨event, h_event, h_terminal⟩ := ih
      exact ⟨event, List.mem_cons_of_mem _ (List.mem_cons_of_mem _ h_event), h_terminal⟩
  have h_call {result : Except HerdrError HerdrJobResult}
      (h : events = [.done job.jobId result, .dropped job.jobId]) :
      ∃ event ∈ events, (terminalJobId event).isSome := ⟨.dropped job.jobId, by simp [h], rfl⟩
  cases job with
  | openPane id pane negotiate =>
    rcases h with ⟨error, rfl⟩ | ⟨outcome, h_outcome, rfl⟩
    · exact ⟨_, List.mem_singleton.mpr rfl, rfl⟩
    · obtain ⟨event, h_event, h_terminal⟩ := h_lease h_outcome
      exact ⟨event, List.mem_cons_of_mem _ h_event, h_terminal⟩
  | snapshot id negotiate =>
    obtain ⟨result, -, h_events⟩ := h
    exact h_call h_events
  | lifecycleSnapshot id =>
    obtain ⟨result, -, h_events⟩ := h
    exact h_call h_events
  | agentGet id request target =>
    obtain ⟨result, -, h_events⟩ := h
    exact h_call h_events

/-- What answers a request answers the jobs that joined it. -/
theorem HerdrJob.Answer.clones {events : List HerdrEvent} (h : leader.Answer events)
    (h_joins : leader.Joins job) :
    job.Answer (events.filterMap (cloneFollowerEvent · job.jobId)) := by
  cases leader with
  | snapshot id negotiate =>
    cases job with
    | snapshot id' negotiate' =>
      obtain ⟨result, h_yields, rfl⟩ := h
      refine ⟨_, ?_, rfl⟩
      cases result with
      | ok value => cases value <;> exact h_yields
      | error error => trivial
    | _ => cases h_joins
  | lifecycleSnapshot id =>
    cases job with
    | lifecycleSnapshot id' =>
      obtain ⟨result, h_yields, rfl⟩ := h
      refine ⟨_, ?_, rfl⟩
      cases result with
      | ok value => cases value <;> exact h_yields
      | error error => trivial
    | _ => cases h_joins
  | openPane id pane negotiate => cases job <;> cases h_joins
  | agentGet id request target => cases job <;> cases h_joins

namespace Sound

variable {w w' : HerdrWorld}

/-- A job that leads was dispatched, or waits. -/
theorem leader_cases (h : Sound w) (h_job : job ∈ submitted w.exec.record)
    (h_leads : Leads w.exec.record job.jobId) :
    job ∈ dispatched w.exec.record ∨ job ∈ w.exec.queueOn job.lane := by
  have h_mem : job ∈ leadersOn w.exec.record job.lane :=
    List.mem_filter.mpr ⟨h_job, by simp [h_leads]⟩
  rw [h.lanes.order, List.mem_append] at h_mem
  exact h_mem.imp_left fun h_mem => (List.mem_filter.mp h_mem).1

/-- A job shares the request of another one, which leads. -/
theorem follower_leader (h : Sound w) (h_job : job ∈ submitted w.exec.record)
    (h_joined : ¬ Leads w.exec.record job.jobId) :
    ∃ leader ∈ submitted w.exec.record, leader.Joins job ∧ Leads w.exec.record leader.jobId ∧
      received w.exec.record job.jobId ++ w.exec.pendingEvents.filter (·.jobId = job.jobId) =
        (received w.exec.record leader.jobId).filterMap (cloneFollowerEvent · job.jobId) := by
  obtain ⟨p, h_p, h_id⟩ := List.mem_map.mp (not_not.mp h_joined)
  obtain ⟨l, h_l, j, h_j, h_l_id, h_j_id, h_joins, h_leads⟩ := h.sharing.pairs p h_p
  obtain rfl : j = job := h.lanes.eq_of_id h_j h_job (h_j_id.trans h_id)
  have h_copied := h.sharing.copied p h_p
  rw [← h_j_id, ← h_l_id] at h_copied
  exact ⟨l, h_l, h_joins, h_l_id ▸ h_leads, h_copied⟩

/-- What was received of a job begins an answer to it. -/
theorem begins (h : Sound w) (h_job : job ∈ submitted w.exec.record) :
    ∃ full, job.Answer full ∧ received w.exec.record job.jobId <+: full := by
  have h_leader {l : HerdrJob} (h_l : l ∈ submitted w.exec.record)
      (h_leads : Leads w.exec.record l.jobId) :
      ∃ full, l.Answer full ∧ received w.exec.record l.jobId <+: full := by
    have h_heard := h.working.heard l.jobId h_leads
    by_cases h_some : reported w.exec.record l.jobId = []
    · have h_taken : Reports l .calling [] := .taken
      obtain ⟨full, h_full, -⟩ := h_taken.prefix_answer
      rw [h_some] at h_heard
      rw [(List.append_eq_nil_iff.mp h_heard.symm).1]
      exact ⟨full, h_full, List.nil_prefix⟩
    · obtain ⟨d, h_d, h_id⟩ := h.working.mute l.jobId h_some
      obtain rfl : d = l := h.lanes.eq_of_id (h.lanes.of_lane (.inl h_d)).1 h_l h_id
      obtain ⟨stage, rest, h_said⟩ := h.working.reports h.lanes h_d h_some
      obtain ⟨full, h_full, h_lead⟩ := h_said.prefix_answer
      rw [h_heard, List.append_assoc] at h_lead
      exact ⟨full, h_full, (List.prefix_append _ _).trans h_lead⟩
  by_cases h_leads : Leads w.exec.record job.jobId
  · exact h_leader h_job h_leads
  · obtain ⟨l, h_l, h_joins, h_l_leads, h_copied⟩ := h.follower_leader h_job h_leads
    obtain ⟨full, h_full, h_lead⟩ := h_leader h_l h_l_leads
    have h_begin : received w.exec.record job.jobId <+:
        (received w.exec.record l.jobId).filterMap (cloneFollowerEvent · job.jobId) := by
      rw [← h_copied]
      exact List.prefix_append _ _
    exact ⟨_, h_full.clones h_joins, h_begin.trans (h_lead.filterMap _)⟩

end Sound

/-- Nothing is on its way: every worker waits for a job, and no job or event waits in a
    channel. -/
structure HerdrWorld.AtRest (w : HerdrWorld) : Prop where
  workers : w.workers = ∅
  jobTx : w.exec.jobTx = []
  eventRx : w.exec.eventRx = []
  pendingEvents : w.exec.pendingEvents = []

namespace Sound

variable {w w' : HerdrWorld}

/-- At rest, a dispatched job is answered. -/
theorem rest_dispatched (h : Sound w) (h_rest : w.AtRest) (h_job : job ∈ dispatched w.exec.record) :
    job.Answer (received w.exec.record job.jobId) := by
  have h_said : Reports job .leaving (reported w.exec.record job.jobId) := by
    rcases h.working.left job h_job with h_tx | h_worker | h_left
    · rw [h_rest.jobTx] at h_tx
      cases h_tx
    · rw [h_rest.workers] at h_worker
      cases h_worker
    · exact h_left
  rw [h.working.heard _ (h.lanes.of_lane (.inl h_job)).2, h_rest.eventRx, List.filter_nil,
    List.append_nil] at h_said
  rcases h_said.said with ⟨h_stage, -⟩ | ⟨_, _, _, _, h_stage, -⟩ | ⟨-, h_full⟩
  · cases h_stage
  · cases h_stage
  · exact h_full

/-- At rest no job waits: a job that held its lane is answered, and so it is finished. -/
theorem rest_leader (h : Sound w) (h_rest : w.AtRest) (h_job : job ∈ submitted w.exec.record)
    (h_leads : Leads w.exec.record job.jobId) :
    job.Answer (received w.exec.record job.jobId) := by
  refine h.rest_dispatched h_rest ((h.leader_cases h_job h_leads).resolve_right fun h_wait => ?_)
  have h_queue : ∃ queue, w.exec.queued.lookup job.lane = some queue := by
    cases h_queue : w.exec.queued.lookup job.lane with
    | none => simp [queueOn, h_queue] at h_wait
    | some queue => exact ⟨queue, rfl⟩
  obtain ⟨queue, h_queue⟩ := h_queue
  have h_flight := (h.lanes.busy _ _ h_queue).2
  obtain ⟨id, h_lookup⟩ := Option.isSome_iff_exists.mp (AList.lookup_isSome.mpr h_flight)
  obtain ⟨d, h_d, rfl, -, h_not⟩ := h.lanes.held _ _ h_lookup
  exact h_not (h.rest_dispatched h_rest h_d).terminal

/-- At rest every job is answered. -/
theorem rest_answer (h : Sound w) (h_rest : w.AtRest) (h_job : job ∈ submitted w.exec.record) :
    job.Answer (received w.exec.record job.jobId) := by
  by_cases h_leads : Leads w.exec.record job.jobId
  · exact h.rest_leader h_rest h_job h_leads
  · obtain ⟨l, h_l, h_joins, h_l_leads, h_copied⟩ := h.follower_leader h_job h_leads
    rw [h_rest.pendingEvents, List.filter_nil, List.append_nil] at h_copied
    rw [h_copied]
    exact (h.rest_leader h_rest h_l h_l_leads).clones h_joins

end Sound

-- ============================================================================
-- Coming to rest
-- ============================================================================

/-- A step of the executor on the jobs that it has. -/
def HerdrStep.Works : HerdrStep → Prop
  | .submit _ => False
  | _ => True

/-- What a worker still has to say before it returns to the pool, at most. -/
def Worker.remaining (worker : Worker) : Nat :=
  worker.outbox.length + match worker.stage with
    | .calling => 4
    | .leased => 3
    | .leaving => 1

/-- What is left to do: to dispatch and take the jobs, to work on them, and to hear of
    them. -/
def HerdrWorld.remaining (w : HerdrWorld) : Nat × Nat × Nat × Nat :=
  (2 * ((submitted w.exec.record).length - (dispatched w.exec.record).length) +
      w.exec.jobTx.length,
    (w.workers.entries.map fun entry => entry.2.remaining).sum,
    w.exec.eventRx.length, w.exec.pendingEvents.length)

/-- The entry of a key, and the others. -/
theorem sum_kerase {α : Type} [DecidableEq α] {β : Type} {entries : List (Sigma fun _ : α => β)}
    {a : α} {b : β} (f : Sigma (fun _ : α => β) → Nat) (h : entries.dlookup a = some b) :
    (entries.map f).sum = f ⟨a, b⟩ + ((entries.kerase a).map f).sum := by
  induction entries with
  | nil => cases h
  | cons entry entries ih =>
    obtain ⟨a', b'⟩ := entry
    by_cases h_key : a = a'
    · subst h_key
      rw [List.dlookup_cons_eq, Option.some.injEq] at h
      have h_erase : (⟨a, b'⟩ :: entries : List (Sigma fun _ : α => β)).kerase a = entries :=
        List.kerase_cons_eq rfl
      rw [h_erase, h, List.map_cons, List.sum_cons]
    · have h_erase : (⟨a', b'⟩ :: entries : List (Sigma fun _ : α => β)).kerase a =
          ⟨a', b'⟩ :: entries.kerase a := List.kerase_cons_ne h_key
      rw [List.dlookup_cons_ne _ _ h_key] at h
      rw [h_erase, List.map_cons, List.sum_cons, List.map_cons, List.sum_cons,
        ih h]
      omega

namespace Sound

variable {w w' : HerdrWorld}

/-- The jobs are dispatched once. -/
theorem dispatched_nodup (h : Sound w) : (dispatched w.exec.record).Nodup := by
  rw [List.nodup_iff_count_le_one]
  intro job
  have h_nodup : (leadersOn w.exec.record job.lane).Nodup :=
    (List.Nodup.of_map _ h.lanes.ids).filter _
  rw [h.lanes.order] at h_nodup
  have h_count := List.nodup_iff_count_le_one.mp (List.nodup_append.mp h_nodup).1 job
  rw [dispatchedOn, List.count_filter (by simp)] at h_count
  exact h_count

theorem dispatched_le (h : Sound w) :
    (dispatched w.exec.record).length ≤ (submitted w.exec.record).length :=
  (List.subperm_of_subset h.dispatched_nodup
    fun _ h_job => (h.lanes.of_lane (.inl h_job)).1).length_le

/-- What is left to do, compared from what comes first. -/
def Less : Nat × Nat × Nat × Nat → Nat × Nat × Nat × Nat → Prop :=
  Prod.Lex (· < ·) (Prod.Lex (· < ·) (Prod.Lex (· < ·) (· < ·)))

theorem less_wf : WellFounded Less :=
  (Prod.lex ⟨_, Nat.lt_wfRel.wf⟩ (Prod.lex ⟨_, Nat.lt_wfRel.wf⟩
    (Prod.lex ⟨_, Nat.lt_wfRel.wf⟩ ⟨_, Nat.lt_wfRel.wf⟩))).wf

theorem less_of {a b c d a' b' c' d' : Nat}
    (h : a < a' ∨ a = a' ∧ (b < b' ∨ b = b' ∧ (c < c' ∨ c = c' ∧ d < d'))) :
    Less (a, b, c, d) (a', b', c', d') := by
  simpa [Less, Prod.lex_def] using h

/-- A worker with less to say leaves less to do. -/
theorem insert_less {worker : Worker} (worker' : Worker) (exec : HerdrExec)
    (h_worker : w.workers.lookup id = some worker) (h_less : worker'.remaining < worker.remaining)
    (h_submitted : submitted exec.record = submitted w.exec.record)
    (h_dispatched : dispatched exec.record = dispatched w.exec.record)
    (h_tx : exec.jobTx = w.exec.jobTx) :
    Less (HerdrWorld.remaining { exec, workers := w.workers.insert id worker' }) w.remaining := by
  have h_sum := sum_kerase (fun entry => entry.2.remaining) h_worker
  dsimp only at h_sum
  refine less_of (.inr ⟨?_, .inl ?_⟩)
  · simp only [h_submitted, h_dispatched, h_tx]
  · simp only [AList.entries_insert, List.map_cons, List.sum_cons]
    omega

/-- A worker that holds a job can go on. -/
theorem worker_works {pool : Nat} {worker : Worker}
    (h_worker : w.workers.lookup id = some worker) :
    ∃ step w', step.Works ∧ HerdrWorld.next pool step w = some w' ∧
      Less w'.remaining w.remaining := by
  have h_answer (reply : JobReply) {stage : WorkerStage} {events : List HerdrEvent}
      (h_stage : worker.stage = .calling) (h_outbox : worker.outbox = [])
      (h_answer : worker.job.answer reply = some (stage, events))
      (h_less : ({ worker with stage, outbox := events } : Worker).remaining < 4) :
      ∃ step w', step.Works ∧ HerdrWorld.next pool step w = some w' ∧
        Less w'.remaining w.remaining := by
    refine ⟨.answer id reply, _, trivial, ?_, insert_less
      { worker with stage, outbox := events } w.exec h_worker ?_ rfl rfl rfl⟩
    · simp [HerdrWorld.next, h_worker, h_stage, h_answer]
    · have h_now : worker.remaining = 4 := by
        simp [Worker.remaining, h_stage, h_outbox]
      omega
  cases h_outbox : worker.outbox with
  | cons event rest =>
    let sent : HerdrExec := { w.exec with eventRx := w.exec.eventRx ++ [event] }
    refine ⟨.send id, _, trivial, ?_, insert_less { worker with outbox := rest }
      (sent.note (.reported event)) h_worker ?_ ?_ ?_ rfl⟩
    · simp [HerdrWorld.next, h_worker, h_outbox, sent]
    · simp [Worker.remaining, h_outbox]
    · simp [sent, note, submitted]
    · simp [sent, note, dispatched]
  | nil =>
    cases h_stage : worker.stage with
    | calling =>
      cases h_job : worker.job with
      | snapshot jobId negotiate =>
        exact h_answer (.snapshot (.error leaseExceeded)) h_stage h_outbox
          (by rw [h_job]; rfl) (by simp [Worker.remaining])
      | lifecycleSnapshot jobId =>
        exact h_answer (.lifecycle (.error leaseExceeded)) h_stage h_outbox
          (by rw [h_job]; rfl) (by simp [Worker.remaining])
      | agentGet jobId request target =>
        exact h_answer (.agent (.error leaseExceeded)) h_stage h_outbox
          (by rw [h_job]; rfl) (by simp [Worker.remaining])
      | openPane jobId pane negotiate =>
        exact h_answer (.connection (.error leaseExceeded)) h_stage h_outbox
          (by rw [h_job]; rfl) (by simp [Worker.remaining])
    | leased =>
      refine ⟨.command id .drop, _, trivial, ?_, insert_less
        { worker with stage := .leaving, outbox := [.dropped worker.job.jobId] } w.exec h_worker
        ?_ rfl rfl rfl⟩
      · simp [HerdrWorld.next, h_worker, h_stage, h_outbox, leaseAnswer]
      · simp [Worker.remaining, h_stage, h_outbox]
    | leaving =>
      have h_sum := sum_kerase (fun entry => entry.2.remaining) h_worker
      dsimp only at h_sum
      have h_now : worker.remaining = 1 := by
        simp [Worker.remaining, h_stage, h_outbox]
      refine ⟨.leave id, { w with workers := w.workers.erase id }, trivial, ?_,
        less_of (.inr ⟨rfl, .inl ?_⟩)⟩
      · simp [HerdrWorld.next, h_worker, h_stage, h_outbox]
      · have h_erase : (w.workers.erase id).entries = w.workers.entries.kerase id := rfl
        dsimp only
        rw [h_erase]
        omega

/-- Something that is on its way can be worked on. -/
theorem works {pool : Nat} (h : Sound w) (h_pool : 0 < pool) (h_busy : ¬ w.AtRest) :
    ∃ step w', step.Works ∧ HerdrWorld.next pool step w = some w' ∧
      Less w'.remaining w.remaining := by
  cases h_pending : w.exec.pendingEvents with
  | cons event rest =>
    refine ⟨.receive, { w with exec :=
      ({ w.exec with pendingEvents := rest } : HerdrExec).note (.received event) }, trivial, ?_, ?_⟩
    · simp only [HerdrWorld.next, tryRecv, h_pending, Option.map_some]
    · refine less_of (.inr ⟨?_, .inr ⟨rfl, .inr ⟨rfl, ?_⟩⟩⟩)
      · simp [note, submitted, dispatched]
      · simp [note, h_pending]
  | nil =>
    cases h_events : w.exec.eventRx with
    | cons event rest =>
      obtain ⟨r, h_some⟩ : ∃ r, w.exec.tryRecv = some r := by
        simp [tryRecv, h_pending, h_events]
      obtain ⟨event', e'⟩ := r
      rcases tryRecv_takes h.lanes h_some with ⟨_, h_clones, -⟩ | h_takes
      · rw [h_pending] at h_clones
        cases h_clones
      · have h_next : HerdrWorld.next pool .receive w = some { w with exec := e' } := by
          simp [HerdrWorld.next, h_some]
        have h_fresh : HerdrStep.receive.Fresh w := trivial
        have h_sound : Sound { w with exec := e' } := h.step h_fresh h_next
        refine ⟨.receive, _, trivial, h_next, less_of ?_⟩
        have h_length : e'.eventRx.length < w.exec.eventRx.length := by
          simp [h_takes.events]
        rcases h_takes.next with ⟨h_tx, h_record⟩ | ⟨job, -, h_tx, h_record⟩
        · refine .inr ⟨?_, .inr ⟨rfl, .inl h_length⟩⟩
          simp [h_tx, h_record, submitted, dispatched]
        · have h_le := h_sound.dispatched_le
          refine .inl ?_
          simp [h_tx, h_record, submitted, dispatched] at h_le ⊢
          omega
    | nil =>
      cases h_workers : w.workers.entries with
      | cons entry others =>
        obtain ⟨id, worker⟩ := entry
        have h_worker : w.workers.lookup id = some worker := by
          rw [AList.lookup, h_workers, List.dlookup_cons_eq]
        exact worker_works h_worker
      | nil =>
        cases h_jobs : w.exec.jobTx with
        | cons job rest =>
          let taken : HerdrExec := { w.exec with jobTx := rest }
          refine ⟨.take, {
            exec := taken.note (.requested job.jobId)
            workers := w.workers.insert job.jobId { job } }, trivial, ?_, less_of (.inl ?_)⟩
          · simp only [HerdrWorld.next, h_jobs]
            rw [if_pos (by simpa [AList.keys, h_workers] using h_pool)]
          · simp [taken, note, submitted, dispatched, h_jobs]
        | nil => exact absurd ⟨AList.ext h_workers, h_jobs, h_events, h_pending⟩ h_busy

/-- The executor comes to rest, unless jobs are submitted forever. -/
theorem rests {pool : Nat} (h : Sound w) (h_pool : 0 < pool) :
    ∃ w', Run (StepOf (HerdrWorld.next pool)) (fun step _ => step.Works) w w' ∧ w'.AtRest := by
  induction h_left : w.remaining using less_wf.induction generalizing w with
  | _ left ih =>
    subst h_left
    by_cases h_rest : w.AtRest
    · exact ⟨w, .refl, h_rest⟩
    · obtain ⟨step, w₁, h_works, h_next, h_less⟩ := h.works h_pool h_rest
      have h_fresh : step.Fresh w := by
        cases step with
        | submit job => exact h_works.elim
        | _ => trivial
      obtain ⟨w₂, h_run, h_at⟩ := ih _ h_less (h.step h_fresh h_next) rfl
      exact ⟨w₂, .trans (.single step h_works h_next) h_run, h_at⟩

end Sound

-- ============================================================================
-- Lane order, answers and freshness
-- ============================================================================

/-- In every run: a lane has at most one dispatched job that no terminal event was received
    of, and its jobs are dispatched in the order they were submitted in; what a job receives
    is one answer, which it has received in full once the executor is at rest, as it can be
    without further jobs; and every event of it comes from a request that was dispatched
    after the job was submitted. -/
theorem lanes_answer_in_order {workers : Nat} {w : HerdrWorld} (h : HerdrReachable workers w) :
    (∀ job ∈ dispatched w.exec.record, ∀ job' ∈ dispatched w.exec.record, job.lane = job'.lane →
      ¬ Finished w.exec.record job.jobId → ¬ Finished w.exec.record job'.jobId → job = job') ∧
    (dispatched w.exec.record).Nodup ∧
    (∀ lane, (dispatchedOn w.exec.record lane).Sublist (submittedOn w.exec.record lane)) ∧
    (∀ job ∈ submitted w.exec.record, ∃ full, job.Answer full ∧
      received w.exec.record job.jobId <+: full) ∧
    (w.AtRest → ∀ job ∈ submitted w.exec.record, job.Answer (received w.exec.record job.jobId)) ∧
    (∃ w', Run (StepOf (HerdrWorld.next (max workers 1))) (fun step _ => step.Works) w w' ∧
      w'.AtRest) ∧
    ∀ job ∈ submitted w.exec.record, ∀ event ∈ received w.exec.record job.jobId,
      ∃ leader said, (leader = job ∨ leader.Joins job) ∧ said.jobId = leader.jobId ∧
        (event = said ∨ cloneFollowerEvent said job.jobId = some event) ∧
        [.submitted job, .dispatched leader, .requested leader.jobId, .reported said,
          .received event].Sublist w.exec.record := by
  have h_sound := HerdrReachable.sound h
  refine ⟨?_, h_sound.dispatched_nodup, fun lane => ?_, fun job h_job => h_sound.begins h_job,
    fun h_rest job h_job => h_sound.rest_answer h_rest h_job, h_sound.rests (by omega), ?_⟩
  · intro job h_job job' h_job' h_lane h_not h_not'
    have h_held := (h_sound.lanes.holds job h_job).resolve_left h_not
    have h_held' := (h_sound.lanes.holds job' h_job').resolve_left h_not'
    rw [h_lane, h_held', Option.some.injEq] at h_held
    exact (h_sound.lanes.eq_of_id (h_sound.lanes.of_lane (.inl h_job')).1
      (h_sound.lanes.of_lane (.inl h_job)).1 h_held).symm
  · have h_leaders : (leadersOn w.exec.record lane).Sublist (submittedOn w.exec.record lane) :=
      List.monotone_filter_right _ fun j h_j => by simpa using (of_decide_eq_true h_j).1
    rw [h_sound.lanes.order] at h_leaders
    exact (List.sublist_append_left _ _).trans h_leaders
  · intro job h_job event h_event
    obtain ⟨h_received, h_id⟩ := mem_received.mp h_event
    obtain ⟨j, leader, said, ⟨h_serves, h_j_id, h_said_id, h_voice⟩, h_chain⟩ :=
      h_sound.timely.received event h_received
    obtain rfl : j = job := h_sound.lanes.eq_of_id h_serves.1 h_job (h_j_id.symm.trans h_id)
    refine ⟨leader, said, ?_, h_said_id, h_voice, h_chain⟩
    rcases h_serves with ⟨-, h_leader, ⟨h_eq, -⟩ | h_pair⟩
    · exact .inl h_eq
    · obtain ⟨l, h_l, f, h_f, h_l_id, h_f_id, h_joins, -⟩ := h_sound.sharing.pairs _ h_pair
      obtain rfl : l = leader := h_sound.lanes.eq_of_id h_l h_leader h_l_id
      obtain rfl : f = j := h_sound.lanes.eq_of_id h_f h_job h_f_id
      exact .inr h_joins

instance (step : HerdrStep) (w : HerdrWorld) : Decidable (step.Fresh w) := by
  unfold HerdrStep.Fresh
  split <;> infer_instance

/-- Of three snapshots, the third one shares the request of the second. -/
theorem lanes_answer_in_order_shared : ∃ w, HerdrReachable 4 w ∧
    (dispatched w.exec.record).map (·.jobId) = [1, 2] ∧
    received w.exec.record 3 = [.done 3 (.ok (.snapshot ⟨[], []⟩)), .dropped 3] ∧
    (dispatchedOn w.exec.record .snapshot).Sublist (submittedOn w.exec.record .snapshot) := by
  have h_script : Script (HerdrWorld.next (max 4 1)) HerdrStep.Fresh (fun w =>
      (dispatched w.exec.record).map (·.jobId) = [1, 2] ∧
      received w.exec.record 3 = [.done 3 (.ok (.snapshot ⟨[], []⟩)), .dropped 3])
      [.submit (.snapshot 1 false), .take, .submit (.snapshot 2 false),
        .submit (.snapshot 3 true), .answer 1 (.snapshot (.error leaseExceeded)), .send 1, .send 1,
        .receive, .leave 1, .receive, .take, .answer 2 (.snapshot (.ok ⟨[], []⟩)), .send 2,
        .receive, .receive, .send 2, .receive, .receive]
      HerdrWorld.spawn := by
    decide +kernel
  obtain ⟨w, h_run, h_dispatched, h_received⟩ := h_script.run
  exact ⟨w, h_run, h_dispatched, h_received, (lanes_answer_in_order h_run).2.2.1 .snapshot⟩

end Kelpie
