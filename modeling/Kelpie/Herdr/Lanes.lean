/-
  Kelpie.Herdr.Lanes

  The lanes of the executor: at most one job of a lane is in flight, and the
  jobs of a lane are dispatched in the order they were submitted in.

  Every submitted job that shares no other job's request is either dispatched or
  in the queue of its lane, in order.  A lane is in flight exactly as long as its
  last dispatched job has not finished, and only such a lane has a queue.
-/

import Kelpie.Herdr.Exec

namespace Kelpie

open Lib

namespace HerdrExec

variable {e e' : HerdrExec} {record record' : List HerdrEntry} {entry : HerdrEntry}
  {job : HerdrJob} {event : HerdrEvent} {lane : Lane} {id : JobId}

-- ============================================================================
-- The record grows at its end
-- ============================================================================

@[simp] theorem submitted_append :
    submitted (record ++ record') = submitted record ++ submitted record' :=
  List.filterMap_append

@[simp] theorem dispatched_append :
    dispatched (record ++ record') = dispatched record ++ dispatched record' :=
  List.filterMap_append

@[simp] theorem joins_append : joins (record ++ record') = joins record ++ joins record' :=
  List.filterMap_append

@[simp] theorem received_append :
    received (record ++ record') id = received record id ++ received record' id :=
  List.filterMap_append

@[simp] theorem reported_append :
    reported (record ++ record') id = reported record id ++ reported record' id :=
  List.filterMap_append

theorem mem_submitted : job ∈ submitted record ↔ .submitted job ∈ record := by
  unfold submitted
  rw [List.mem_filterMap]
  constructor
  · rintro ⟨entry, h_entry, h_some⟩
    split at h_some <;> cases h_some
    exact h_entry
  · intro h
    exact ⟨_, h, rfl⟩

theorem mem_dispatched : job ∈ dispatched record ↔ .dispatched job ∈ record := by
  unfold dispatched
  rw [List.mem_filterMap]
  constructor
  · rintro ⟨entry, h_entry, h_some⟩
    split at h_some <;> cases h_some
    exact h_entry
  · intro h
    exact ⟨_, h, rfl⟩

theorem mem_received : event ∈ received record id ↔
    .received event ∈ record ∧ event.jobId = id := by
  unfold received
  rw [List.mem_filterMap]
  constructor
  · rintro ⟨entry, h_entry, h_some⟩
    split at h_some
    · split at h_some <;> cases h_some
      exact ⟨h_entry, ‹_›⟩
    · cases h_some
  · rintro ⟨h, h_id⟩
    exact ⟨_, h, if_pos h_id⟩

theorem terminalJobId_eq (h : terminalJobId event = some id) : event.jobId = id := by
  cases event <;> simp [terminalJobId] at h <;> exact h

theorem finished_iff : Finished record id ↔
    ∃ event, .received event ∈ record ∧ terminalJobId event = some id := by
  unfold Finished
  constructor
  · rintro ⟨event, h_event, h_some⟩
    obtain ⟨h_mem, rfl⟩ := mem_received.mp h_event
    cases event <;> simp [terminalJobId] at h_some <;> exact ⟨_, h_mem, rfl⟩
  · rintro ⟨event, h_event, h_terminal⟩
    exact ⟨event, mem_received.mpr ⟨h_event, terminalJobId_eq h_terminal⟩, by simp [h_terminal]⟩

/-- Only the receipt of a terminal event finishes a job. -/
theorem finished_append : Finished (record ++ [entry]) id ↔
    Finished record id ∨ ∃ event, entry = .received event ∧ terminalJobId event = some id := by
  simp only [finished_iff, List.mem_append, List.mem_singleton]
  constructor
  · rintro ⟨event, h | h, h_terminal⟩
    · exact .inl ⟨event, h, h_terminal⟩
    · exact .inr ⟨event, h.symm, h_terminal⟩
  · rintro (⟨event, h, h_terminal⟩ | ⟨event, h, h_terminal⟩)
    · exact ⟨event, .inl h, h_terminal⟩
    · exact ⟨event, .inr h.symm, h_terminal⟩

theorem dispatchedOn_append : dispatchedOn (record ++ record') lane =
    dispatchedOn record lane ++ dispatchedOn record' lane := by
  unfold dispatchedOn
  rw [dispatched_append, List.filter_append]

/-- Only submissions and shared requests change the jobs that lead. -/
theorem leadersOn_append (h_submitted : submitted record' = []) (h_joins : joins record' = []) :
    leadersOn (record ++ record') lane = leadersOn record lane := by
  unfold leadersOn
  rw [submitted_append, h_submitted, List.append_nil]
  refine List.filter_congr fun job _ => ?_
  rw [decide_eq_decide, Leads, Leads, joins_append, h_joins, List.append_nil]

theorem leadersOn_submitted : leadersOn (record ++ [.submitted job]) lane =
    leadersOn record lane ++ if job.lane = lane ∧ Leads record job.jobId then [job] else [] := by
  have h_joins : joins (record ++ [.submitted job]) = joins record := by
    simp [joins]
  have h_leads (id : JobId) : Leads (record ++ [.submitted job]) id ↔ Leads record id := by
    rw [Leads, Leads, h_joins]
  unfold leadersOn
  rw [submitted_append, List.filter_append]
  congr 1
  · refine List.filter_congr fun j _ => ?_
    rw [decide_eq_decide, h_leads]
  · simp [submitted, List.filter_cons, h_leads]

/-- A job that shares another request leads no longer. -/
theorem leadersOn_joined {leader : JobId} : leadersOn (record ++ [.joined id leader]) lane =
    (leadersOn record lane).filter fun job => job.jobId ≠ id := by
  unfold leadersOn Leads
  have h_submitted : submitted (record ++ [.joined id leader]) = submitted record := by
    simp [submitted]
  have h_joins : joins (record ++ [.joined id leader]) = joins record ++ [(id, leader)] := by
    simp [joins]
  rw [h_submitted, List.filter_filter]
  refine List.filter_congr fun job _ => ?_
  rw [← Bool.decide_and, decide_eq_decide, h_joins, List.map_append, List.mem_append]
  simp
  tauto

-- ============================================================================
-- What one call does
-- ============================================================================

/-- The jobs that wait on a lane. -/
def queueOn (e : HerdrExec) (lane : Lane) : List HerdrJob := (e.queued.lookup lane).getD []

/-- The jobs that share the request of a job that did not finish. -/
def followers (e : HerdrExec) (jobId : JobId) : List JobId :=
  (e.coalesced.lookup jobId).getD []

theorem coalescingLeader_some {queue : List HerdrJob} {leader : JobId}
    (h : coalescingLeader queue job = some leader) :
    ∃ j ∈ queue, j.Joins job ∧ j.jobId = leader := by
  obtain ⟨j, h_find, h_id⟩ := Option.map_eq_some_iff.mp h
  exact ⟨j, List.mem_of_find?_eq_some h_find, by simpa using List.find?_some h_find, h_id⟩

/-- A submitted job shares a queued request, waits behind its lane, or is dispatched. -/
theorem submit_cases (e : HerdrExec) (job : HerdrJob) :
    (∃ j ∈ e.queueOn job.lane, j.Joins job ∧
      e.submit job = (e.note (.submitted job)).join j.jobId job) ∨
    ((e.queued.lookup job.lane ≠ none ∨ job.lane ∈ e.inFlight) ∧
      e.submit job = (e.note (.submitted job)).enqueue job.lane job) ∨
    e.queued.lookup job.lane = none ∧ job.lane ∉ e.inFlight ∧
      e.submit job = (e.note (.submitted job)).dispatch job.lane job := by
  cases h_queue : e.queued.lookup job.lane with
  | some queue =>
    cases h_leader : coalescingLeader queue job with
    | some leader =>
      obtain ⟨j, h_j, h_joins, rfl⟩ := coalescingLeader_some h_leader
      refine .inl ⟨j, by simp [queueOn, h_queue, h_j], h_joins, ?_⟩
      simp only [submit, note, h_queue, h_leader]
    | none =>
      refine .inr (.inl ⟨.inl (by simp), ?_⟩)
      simp only [submit, note, h_queue, h_leader]
  | none =>
    by_cases h_flight : job.lane ∈ e.inFlight
    · refine .inr (.inl ⟨.inr h_flight, ?_⟩)
      simp only [submit, note, h_queue, h_flight, if_true, Option.bind_none]
    · refine .inr (.inr ⟨rfl, h_flight, ?_⟩)
      simp only [submit, note, h_queue, h_flight, if_false]

theorem laneOf_some (h : e.laneOf id = some lane) : e.inFlight.lookup lane = some id := by
  obtain ⟨p, h_find, rfl⟩ := Option.map_eq_some_iff.mp h
  have h_id : p.2 = id := by simpa using List.find?_some h_find
  exact AList.mem_lookup_iff.mpr (h_id ▸ List.mem_of_find?_eq_some h_find)

theorem laneOf_none (h : e.laneOf id = none) (lane : Lane) : e.inFlight.lookup lane ≠ some id := by
  intro h_lookup
  have h_mem := AList.mem_lookup_iff.mp h_lookup
  have h_not := List.find?_eq_none.mp (Option.map_eq_none_iff.mp h) _ h_mem
  simp at h_not

/-- A lane that a job leaves goes to the next job in its queue, or is no longer in flight. -/
theorem freeLane_cases (e : HerdrExec) (id : JobId) :
    ((∀ lane, e.inFlight.lookup lane ≠ some id) ∧ e.freeLane id = e) ∨
    (∃ lane, e.inFlight.lookup lane = some id ∧ e.queueOn lane = [] ∧
      e.freeLane id = { e with inFlight := e.inFlight.erase lane }) ∨
    ∃ lane next rest queued, e.inFlight.lookup lane = some id ∧
      e.queued.lookup lane = some (next :: rest) ∧
      queued.lookup lane = (if rest = [] then none else some rest) ∧
      (∀ lane' ≠ lane, queued.lookup lane' = e.queued.lookup lane') ∧
      e.freeLane id =
        ({ e with inFlight := e.inFlight.erase lane, queued } : HerdrExec).dispatch lane next := by
  unfold freeLane
  cases h_lane : e.laneOf id with
  | none => exact .inl ⟨laneOf_none h_lane, rfl⟩
  | some lane =>
    have h_flight := laneOf_some h_lane
    dsimp only
    rcases h_queue : e.queued.lookup lane with _ | (_ | ⟨next, rest⟩)
    · exact .inr (.inl ⟨lane, h_flight, by simp [queueOn, h_queue], rfl⟩)
    · exact .inr (.inl ⟨lane, h_flight, by simp [queueOn, h_queue], rfl⟩)
    · by_cases h_rest : rest = []
      · refine .inr (.inr ⟨lane, next, rest, e.queued.erase lane, h_flight, h_queue, ?_, ?_, ?_⟩)
        · rw [if_pos h_rest, AList.lookup_erase]
        · exact fun lane' h_ne => AList.lookup_erase_ne h_ne
        · simp only [if_pos h_rest]
      · refine .inr (.inr ⟨lane, next, rest, e.queued.insert lane rest, h_flight, h_queue,
          ?_, ?_, ?_⟩)
        · rw [if_neg h_rest, AList.lookup_insert]
        · exact fun lane' h_ne => AList.lookup_insert_ne h_ne
        · simp only [if_neg h_rest]

-- ============================================================================
-- The lanes
-- ============================================================================

/-- The job was dispatched, or shares a request. -/
def Sent (record : List HerdrEntry) (id : JobId) : Prop :=
  (∃ job ∈ dispatched record, job.jobId = id) ∨ ¬ Leads record id

theorem Sent.append (h : Sent record id) : Sent (record ++ record') id := by
  rcases h with ⟨job, h_job, h_id⟩ | h_joined
  · refine .inl ⟨job, ?_, h_id⟩
    rw [dispatched_append]
    exact List.mem_append_left _ h_job
  · refine .inr fun h_leads => h_joined fun h_mem => h_leads ?_
    rw [joins_append, List.map_append]
    exact List.mem_append_left _ h_mem

/-- The jobs of a lane go out one at a time and in order. -/
structure Lanes (e : HerdrExec) : Prop where
  ids : ((submitted e.record).map (·.jobId)).Nodup
  order : ∀ lane, leadersOn e.record lane = dispatchedOn e.record lane ++ e.queueOn lane
  busy : ∀ lane queue, e.queued.lookup lane = some queue → queue ≠ [] ∧ lane ∈ e.inFlight
  held : ∀ lane id, e.inFlight.lookup lane = some id →
    ∃ job ∈ dispatched e.record, job.jobId = id ∧ job.lane = lane ∧ ¬ Finished e.record id
  holds : ∀ job ∈ dispatched e.record,
    Finished e.record job.jobId ∨ e.inFlight.lookup job.lane = some job.jobId
  received : ∀ event, .received event ∈ e.record → Sent e.record event.jobId
  joined : ∀ p ∈ joins e.record, ∃ job ∈ submitted e.record, job.jobId = p.1

namespace Lanes

theorem spawn : Lanes {} where
  ids := List.nodup_nil
  order _ := rfl
  busy _ _ h := by cases h
  held _ _ h := by cases h
  holds _ h := by cases h
  received _ h := by cases h
  joined _ h := by cases h

/-- Jobs that go by one id are one job. -/
theorem eq_of_id (h : Lanes e) {j j' : HerdrJob} (h_j : j ∈ submitted e.record)
    (h_j' : j' ∈ submitted e.record) (h_id : j.jobId = j'.jobId) : j = j' :=
  List.inj_on_of_nodup_map h.ids h_j h_j' h_id

/-- A job that was dispatched or waits was submitted, and shares no other request. -/
theorem of_lane (h : Lanes e)
    (h_job : job ∈ dispatched e.record ∨ job ∈ e.queueOn job.lane) :
    job ∈ submitted e.record ∧ Leads e.record job.jobId := by
  have h_mem : job ∈ leadersOn e.record job.lane := by
    rw [h.order, List.mem_append]
    exact h_job.imp (fun h => List.mem_filter.mpr ⟨h, by simp⟩) id
  obtain ⟨h_submitted, h_leads⟩ := List.mem_filter.mp h_mem
  exact ⟨h_submitted, (of_decide_eq_true h_leads).2⟩

/-- The jobs in the queue of a lane are jobs of that lane. -/
theorem lane_of_queue (h : Lanes e) (h_job : job ∈ e.queueOn lane) : job.lane = lane := by
  have h_mem : job ∈ leadersOn e.record lane := by
    rw [h.order]
    exact List.mem_append_right _ h_job
  exact (of_decide_eq_true (List.mem_filter.mp h_mem).2).1

theorem finished_sent (h : Lanes e) (h_id : Finished e.record id) : Sent e.record id := by
  obtain ⟨event, h_event, -⟩ := h_id
  obtain ⟨h_mem, rfl⟩ := mem_received.mp h_event
  exact h.received event h_mem

theorem sent_known (h : Lanes e) (h_id : Sent e.record id) :
    ∃ job ∈ submitted e.record, job.jobId = id := by
  rcases h_id with ⟨job, h_job, h_id⟩ | h_joined
  · exact ⟨job, (h.of_lane (.inl h_job)).1, h_id⟩
  · obtain ⟨p, h_p, rfl⟩ := List.mem_map.mp (not_not.mp h_joined)
    exact h.joined p h_p

/-- A job that waits was not dispatched. -/
theorem waiting_not_dispatched (h : Lanes e) (h_job : job ∈ e.queueOn job.lane) :
    job ∉ dispatched e.record := by
  intro h_dispatched
  have h_nodup : (leadersOn e.record job.lane).Nodup :=
    (List.Nodup.of_map _ h.ids).filter _
  rw [h.order] at h_nodup
  exact (List.nodup_append.mp h_nodup).2.2 job
    (List.mem_filter.mpr ⟨h_dispatched, by simp⟩) job h_job rfl

/-- Nothing is heard of a job that waits. -/
theorem waiting_not_sent (h : Lanes e) (h_job : job ∈ e.queueOn job.lane) :
    ¬ Sent e.record job.jobId := by
  obtain ⟨h_submitted, h_leads⟩ := h.of_lane (.inr h_job)
  rintro (⟨j, h_j, h_id⟩ | h_joined)
  · rw [h.eq_of_id (h.of_lane (.inl h_j)).1 h_submitted h_id] at h_j
    exact h.waiting_not_dispatched h_job h_j
  · exact h_joined h_leads

-- ============================================================================
-- Steps
-- ============================================================================

/-- An entry about a call to Herdr or a sent event changes no lane. -/
theorem quiet (h : Lanes e) (h_queued : e'.queued = e.queued) (h_flight : e'.inFlight = e.inFlight)
    (h_record : e'.record = e.record ++ [entry])
    (h_entry : (∃ id, entry = .requested id) ∨ ∃ event, entry = .reported event) : Lanes e' := by
  have h_submitted : submitted e'.record = submitted e.record := by
    rw [h_record]
    rcases h_entry with ⟨_, rfl⟩ | ⟨_, rfl⟩ <;> simp [submitted]
  have h_dispatched : dispatched e'.record = dispatched e.record := by
    rw [h_record]
    rcases h_entry with ⟨_, rfl⟩ | ⟨_, rfl⟩ <;> simp [dispatched]
  have h_joins : joins e'.record = joins e.record := by
    rw [h_record]
    rcases h_entry with ⟨_, rfl⟩ | ⟨_, rfl⟩ <;> simp [joins]
  have h_finished (id : JobId) : Finished e'.record id ↔ Finished e.record id := by
    rw [h_record, finished_append]
    rcases h_entry with ⟨_, rfl⟩ | ⟨_, rfl⟩ <;> simp
  refine ⟨?_, ?_, ?_, ?_, ?_, ?_, ?_⟩
  · rw [h_submitted]
    exact h.ids
  · intro lane
    simp only [leadersOn, dispatchedOn, Leads, queueOn, h_submitted, h_dispatched, h_joins,
      h_queued]
    exact h.order lane
  · rw [h_queued, h_flight]
    exact h.busy
  · simp only [h_flight, h_dispatched, h_finished]
    exact h.held
  · simp only [h_flight, h_dispatched, h_finished]
    exact h.holds
  · intro event h_event
    rw [h_record] at h_event ⊢
    refine (h.received event ((List.mem_append.mp h_event).resolve_right ?_)).append
    rcases h_entry with ⟨_, rfl⟩ | ⟨_, rfl⟩ <;> simp
  · rw [h_joins, h_submitted]
    exact h.joined

/-- An event is received that frees no lane. -/
theorem hear (h : Lanes e) (h_queued : e'.queued = e.queued) (h_flight : e'.inFlight = e.inFlight)
    (h_record : e'.record = e.record ++ [.received event])
    (h_known : Sent e.record event.jobId)
    (h_free : ∀ lane id, e.inFlight.lookup lane = some id → terminalJobId event ≠ some id) :
    Lanes e' := by
  have h_submitted : submitted e'.record = submitted e.record := by
    rw [h_record]
    simp [submitted]
  have h_dispatched : dispatched e'.record = dispatched e.record := by
    rw [h_record]
    simp [dispatched]
  have h_joins : joins e'.record = joins e.record := by
    rw [h_record]
    simp [joins]
  have h_finished (id : JobId) :
      Finished e'.record id ↔ Finished e.record id ∨ terminalJobId event = some id := by
    rw [h_record, finished_append]
    simp
  refine ⟨?_, ?_, ?_, ?_, ?_, ?_, ?_⟩
  · rw [h_submitted]
    exact h.ids
  · intro lane
    simp only [leadersOn, dispatchedOn, Leads, queueOn, h_submitted, h_dispatched, h_joins,
      h_queued]
    exact h.order lane
  · rw [h_queued, h_flight]
    exact h.busy
  · intro lane id h_lookup
    rw [h_flight] at h_lookup
    obtain ⟨job, h_job, h_id, h_lane, h_not⟩ := h.held lane id h_lookup
    rw [h_dispatched, h_finished]
    exact ⟨job, h_job, h_id, h_lane, not_or.mpr ⟨h_not, h_free lane id h_lookup⟩⟩
  · intro job h_job
    rw [h_dispatched] at h_job
    rw [h_flight, h_finished]
    exact (h.holds job h_job).imp .inl id
  · intro event' h_event
    rw [h_record, List.mem_append, List.mem_singleton] at h_event
    rw [h_record]
    rcases h_event with h_event | h_event
    · exact (h.received event' h_event).append
    · cases h_event
      exact h_known.append
  · rw [h_joins, h_submitted]
    exact h.joined

section Submit

variable (h : Lanes e) (h_fresh : ∀ j ∈ submitted e.record, j.jobId ≠ job.jobId)

include h h_fresh

theorem fresh_leads : Leads e.record job.jobId := by
  intro h_mem
  obtain ⟨p, h_p, h_id⟩ := List.mem_map.mp h_mem
  obtain ⟨j, h_j, h_eq⟩ := h.joined p h_p
  exact h_fresh j h_j (h_eq.trans h_id)

theorem fresh_not_finished : ¬ Finished e.record job.jobId := by
  intro h_finished
  obtain ⟨j, h_j, h_eq⟩ := h.sent_known (h.finished_sent h_finished)
  exact h_fresh j h_j h_eq

/-- What a submission leaves of the invariant, whatever becomes of the job. -/
theorem submit_ids : ((submitted (e.record ++ [.submitted job])).map (·.jobId)).Nodup := by
  rw [submitted_append, List.map_append, List.nodup_append]
  refine ⟨h.ids, by simp [submitted], ?_⟩
  intro id h_id id' h_id' h_eq
  obtain ⟨j, h_j, rfl⟩ := List.mem_map.mp h_id
  have h_new : id' = job.jobId := by simpa [submitted] using h_id'
  exact h_fresh j h_j (h_eq.trans h_new)

/-- A job that shares a queued request leaves the lanes as they are. -/
theorem join (j : HerdrJob) : Lanes ((e.note (.submitted job)).join j.jobId job) := by
  have h_finished (id : JobId) :
      Finished (e.record ++ [.submitted job] ++ [.joined job.jobId j.jobId]) id ↔
        Finished e.record id := by
    rw [finished_append, finished_append]
    simp
  have h_submitted : submitted (e.record ++ [.submitted job] ++ [.joined job.jobId j.jobId]) =
      submitted e.record ++ [job] := by
    simp [submitted]
  have h_dispatched : dispatched (e.record ++ [.submitted job] ++ [.joined job.jobId j.jobId]) =
      dispatched e.record := by
    simp [dispatched]
  refine ⟨?_, ?_, h.busy, ?_, ?_, ?_, ?_⟩
  · have h_ids := h.submit_ids h_fresh
    simpa [HerdrExec.join, note, submitted] using h_ids
  · intro lane
    have h_old : (leadersOn e.record lane).filter (fun j' => j'.jobId ≠ job.jobId) =
        leadersOn e.record lane := by
      refine List.filter_eq_self.mpr fun j' h_j' => ?_
      simpa using h_fresh j' (List.mem_filter.mp h_j').1
    simp only [HerdrExec.join, note]
    rw [leadersOn_joined, leadersOn_submitted, List.filter_append, h_old, dispatchedOn,
      h_dispatched]
    have h_new : (if job.lane = lane ∧ Leads e.record job.jobId then [job] else []).filter
        (fun j' => j'.jobId ≠ job.jobId) = [] := by
      split <;> simp
    rw [h_new, List.append_nil]
    exact h.order lane
  · simp only [HerdrExec.join, note, h_dispatched, h_finished]
    exact h.held
  · simp only [HerdrExec.join, note, h_dispatched, h_finished]
    exact h.holds
  · intro event h_event
    exact (h.received event (by simpa [HerdrExec.join, note] using h_event)).append.append
  · intro p h_p
    simp only [HerdrExec.join, note, h_submitted] at h_p ⊢
    rw [joins_append, joins_append, List.mem_append, List.mem_append] at h_p
    rcases h_p with (h_p | h_p) | h_p
    · obtain ⟨j', h_j', h_id⟩ := h.joined p h_p
      exact ⟨j', List.mem_append_left _ h_j', h_id⟩
    · simp [joins] at h_p
    · have h_p : p = (job.jobId, j.jobId) := by simpa [joins] using h_p
      exact ⟨job, by simp, by rw [h_p]⟩

/-- A job waits behind the others of its lane. -/
theorem enqueue (h_lane : e.queued.lookup job.lane ≠ none ∨ job.lane ∈ e.inFlight) :
    Lanes ((e.note (.submitted job)).enqueue job.lane job) := by
  have h_finished (id : JobId) :
      Finished (e.record ++ [.submitted job]) id ↔ Finished e.record id := by
    rw [finished_append]
    simp
  have h_flight : job.lane ∈ e.inFlight := by
    rcases h_lane with h_some | h_flight
    · obtain ⟨queue, h_queue⟩ := Option.ne_none_iff_exists'.mp h_some
      exact (h.busy _ _ h_queue).2
    · exact h_flight
  refine ⟨h.submit_ids h_fresh, ?_, ?_, ?_, ?_, ?_, ?_⟩
  · intro lane
    simp only [HerdrExec.enqueue, note, queueOn]
    rw [leadersOn_submitted, dispatchedOn_append, h.order lane]
    by_cases h_eq : lane = job.lane
    · subst h_eq
      rw [AList.lookup_insert]
      simp [dispatchedOn, dispatched, queueOn, h.fresh_leads h_fresh]
    · rw [AList.lookup_insert_ne h_eq]
      simp [dispatchedOn, dispatched, queueOn, Ne.symm h_eq]
  · intro lane queue h_queue
    simp only [HerdrExec.enqueue, note] at h_queue ⊢
    by_cases h_eq : lane = job.lane
    · subst h_eq
      rw [AList.lookup_insert] at h_queue
      cases h_queue
      exact ⟨by simp, h_flight⟩
    · rw [AList.lookup_insert_ne h_eq] at h_queue
      exact h.busy lane queue h_queue
  · simp only [HerdrExec.enqueue, note, dispatched_append, h_finished]
    simpa [dispatched] using h.held
  · simp only [HerdrExec.enqueue, note, dispatched_append, h_finished]
    simpa [dispatched] using h.holds
  · intro event h_event
    exact (h.received event (by simpa [HerdrExec.enqueue, note] using h_event)).append
  · intro p h_p
    obtain ⟨j, h_j, h_id⟩ := h.joined p (by simpa [HerdrExec.enqueue, note, joins] using h_p)
    exact ⟨j, by simp [HerdrExec.enqueue, note, h_j], h_id⟩

/-- A job goes out at once on a lane that is not in flight. -/
theorem dispatch (h_queue : e.queued.lookup job.lane = none) (h_flight : job.lane ∉ e.inFlight) :
    Lanes ((e.note (.submitted job)).dispatch job.lane job) := by
  have h_finished (id : JobId) :
      Finished (e.record ++ [.submitted job] ++ [.dispatched job]) id ↔
        Finished e.record id := by
    rw [finished_append, finished_append]
    simp
  have h_dispatched : dispatched (e.record ++ [.submitted job] ++ [.dispatched job]) =
      dispatched e.record ++ [job] := by
    simp [dispatched]
  refine ⟨?_, ?_, ?_, ?_, ?_, ?_, ?_⟩
  · have h_ids := h.submit_ids h_fresh
    simpa [HerdrExec.dispatch, note, submitted] using h_ids
  · intro lane
    simp only [HerdrExec.dispatch, note, queueOn]
    rw [leadersOn_append (by simp [submitted]) (by simp [joins]), leadersOn_submitted,
      dispatchedOn, h_dispatched, List.filter_append, h.order lane]
    by_cases h_eq : job.lane = lane
    · subst h_eq
      simp [queueOn, h_queue, dispatchedOn, h.fresh_leads h_fresh]
    · simp [queueOn, dispatchedOn, h_eq]
  · intro lane queue h_some
    obtain ⟨h_ne, h_mem⟩ := h.busy lane queue h_some
    exact ⟨h_ne, (AList.mem_insert _).mpr (.inr h_mem)⟩
  · intro lane id h_lookup
    simp only [HerdrExec.dispatch, note, h_dispatched, h_finished] at h_lookup ⊢
    by_cases h_eq : lane = job.lane
    · subst h_eq
      rw [AList.lookup_insert, Option.some.injEq] at h_lookup
      subst h_lookup
      exact ⟨job, by simp, rfl, rfl, h.fresh_not_finished h_fresh⟩
    · rw [AList.lookup_insert_ne h_eq] at h_lookup
      obtain ⟨j, h_j, h_rest⟩ := h.held lane id h_lookup
      exact ⟨j, List.mem_append_left _ h_j, h_rest⟩
  · intro j h_j
    simp only [HerdrExec.dispatch, note, h_dispatched, h_finished] at h_j ⊢
    rcases List.mem_append.mp h_j with h_j | h_j
    · refine (h.holds j h_j).imp id fun h_lookup => ?_
      -- Another job on this lane would be in flight.
      have h_ne : j.lane ≠ job.lane := by
        intro h_eq
        apply h_flight
        rw [← h_eq, ← AList.lookup_isSome, h_lookup]
        rfl
      rw [AList.lookup_insert_ne h_ne]
      exact h_lookup
    · cases List.mem_singleton.mp h_j
      exact .inr (AList.lookup_insert _)
  · intro event h_event
    exact (h.received event (by simpa [HerdrExec.dispatch, note] using h_event)).append.append
  · intro p h_p
    obtain ⟨j, h_j, h_id⟩ := h.joined p (by simpa [HerdrExec.dispatch, note, joins] using h_p)
    exact ⟨j, by simp [HerdrExec.dispatch, note, h_j], h_id⟩

theorem submit : Lanes (e.submit job) := by
  rcases submit_cases e job with ⟨j, -, -, h_eq⟩ | ⟨h_lane, h_eq⟩ | ⟨h_queue, h_flight, h_eq⟩
  · rw [h_eq]
    exact h.join h_fresh j
  · rw [h_eq]
    exact h.enqueue h_fresh h_lane
  · rw [h_eq]
    exact h.dispatch h_fresh h_queue h_flight

end Submit

/-- No other lane is held under the id of a job in flight. -/
theorem held_inj (h : Lanes e) {lane' : Lane} (h_lane : e.inFlight.lookup lane = some id)
    (h_lane' : e.inFlight.lookup lane' = some id) : lane' = lane := by
  obtain ⟨j, h_j, h_id, rfl, -⟩ := h.held _ _ h_lane
  obtain ⟨j', h_j', h_id', rfl, -⟩ := h.held _ _ h_lane'
  rw [h.eq_of_id (h.of_lane (.inl h_j)).1 (h.of_lane (.inl h_j')).1 (h_id.trans h_id'.symm)]

/-- A terminal event frees the lane of its job for the next one. -/
theorem free (h : Lanes e) (h_queued : e'.queued = e.queued) (h_flight : e'.inFlight = e.inFlight)
    (h_record : e'.record = e.record ++ [.received event])
    (h_known : Sent e.record event.jobId)
    (h_terminal : terminalJobId event = some id) : Lanes (e'.freeLane id) := by
  have h_finished (id' : JobId) :
      Finished e'.record id' ↔ Finished e.record id' ∨ id = id' := by
    rw [h_record, finished_append]
    simp [h_terminal]
  have h_submitted : submitted e'.record = submitted e.record := by
    rw [h_record]
    simp [submitted]
  have h_dispatched : dispatched e'.record = dispatched e.record := by
    rw [h_record]
    simp [dispatched]
  have h_leaders (lane : Lane) : leadersOn e'.record lane = leadersOn e.record lane := by
    rw [h_record]
    exact leadersOn_append (by simp [submitted]) (by simp [joins])
  have h_received : ∀ event', .received event' ∈ e'.record → Sent e'.record event'.jobId := by
    intro event' h_event
    rw [h_record, List.mem_append, List.mem_singleton] at h_event
    rw [h_record]
    rcases h_event with h_event | h_event
    · exact (h.received event' h_event).append
    · cases h_event
      exact h_known.append
  have h_joined : ∀ p ∈ joins e'.record, ∃ job ∈ submitted e'.record, job.jobId = p.1 := by
    rw [h_submitted, h_record]
    simpa [joins] using h.joined
  -- Whoever else is in flight has not finished.
  have h_other {lane lane' : Lane} {id' : JobId} (h_lane : e.inFlight.lookup lane = some id)
      (h_ne : lane' ≠ lane) (h_lane' : e.inFlight.lookup lane' = some id') :
      ∃ job ∈ dispatched e.record, job.jobId = id' ∧ job.lane = lane' ∧
        ¬ Finished e'.record id' := by
    obtain ⟨j, h_j, h_id, h_j_lane, h_not⟩ := h.held lane' id' h_lane'
    refine ⟨j, h_j, h_id, h_j_lane, fun h_fin => ?_⟩
    rcases (h_finished id').mp h_fin with h_fin | rfl
    · exact h_not h_fin
    · exact h_ne (h.held_inj h_lane h_lane')
  rcases freeLane_cases e' id with ⟨h_none, h_eq⟩ | ⟨lane, h_lane, h_empty, h_eq⟩ |
    ⟨lane, next, rest, queued, h_lane, h_queue, h_rest, h_same, h_eq⟩
  · rw [h_eq]
    refine h.hear h_queued h_flight h_record h_known fun lane id' h_lookup h_id' => ?_
    rw [h_terminal, Option.some.injEq] at h_id'
    exact h_none lane (by rw [h_flight, h_lookup, h_id'])
  · rw [h_flight] at h_lane
    rw [h_eq]
    refine ⟨?_, ?_, ?_, ?_, ?_, h_received, h_joined⟩
    · rw [h_submitted]
      exact h.ids
    · intro lane'
      simp only [queueOn, h_leaders, dispatchedOn, h_dispatched, h_queued]
      exact h.order lane'
    · intro lane' queue h_some
      rw [h_queued] at h_some
      obtain ⟨h_ne, h_mem⟩ := h.busy lane' queue h_some
      refine ⟨h_ne, AList.mem_erase.mpr ⟨?_, h_flight ▸ h_mem⟩⟩
      rintro rfl
      exact h_ne (by simpa [queueOn, h_queued, h_some] using h_empty)
    · intro lane' id' h_lookup
      dsimp only at h_lookup ⊢
      have h_ne : lane' ≠ lane := by
        rintro rfl
        rw [AList.lookup_erase] at h_lookup
        cases h_lookup
      rw [AList.lookup_erase_ne h_ne, h_flight] at h_lookup
      rw [h_dispatched]
      exact h_other h_lane h_ne h_lookup
    · intro j h_j
      dsimp only at h_j ⊢
      rw [h_dispatched] at h_j
      rw [h_finished]
      rcases h.holds j h_j with h_fin | h_lookup
      · exact .inl (.inl h_fin)
      · by_cases h_ne : j.lane = lane
        · rw [h_ne, h_lane, Option.some.injEq] at h_lookup
          exact .inl (.inr h_lookup)
        · rw [AList.lookup_erase_ne h_ne, h_flight]
          exact .inr h_lookup
  · rw [h_flight] at h_lane
    rw [h_queued] at h_queue
    have h_next : next ∈ e.queueOn lane := by
      simp [queueOn, h_queue]
    have h_next_lane : next.lane = lane := h.lane_of_queue h_next
    have h_waits : next ∈ e.queueOn next.lane := h_next_lane.symm ▸ h_next
    -- A job that was not dispatched was not heard of.
    have h_not_next : ¬ Finished e'.record next.jobId := by
      intro h_fin
      apply h.waiting_not_sent h_waits
      rcases (h_finished next.jobId).mp h_fin with h_fin | h_id
      · exact h.finished_sent h_fin
      · rw [← h_id, ← terminalJobId_eq h_terminal]
        exact h_known
    rw [h_eq]
    refine ⟨?_, ?_, ?_, ?_, ?_, ?_, ?_⟩
    · simp only [HerdrExec.dispatch, submitted_append, h_submitted]
      simpa [submitted] using h.ids
    · intro lane'
      simp only [HerdrExec.dispatch, queueOn]
      rw [leadersOn_append (by simp [submitted]) (by simp [joins]), h_leaders,
        dispatchedOn_append, h.order lane', queueOn]
      have h_old : dispatchedOn e'.record lane' = dispatchedOn e.record lane' := by
        rw [dispatchedOn, dispatchedOn, h_dispatched]
      rw [h_old, List.append_assoc]
      congr 1
      by_cases h_ne : lane' = lane
      · subst h_ne
        rw [h_rest, h_queue]
        by_cases h_nil : rest = []
        · simp [h_nil, dispatchedOn, dispatched, h_next_lane]
        · simp [h_nil, dispatchedOn, dispatched, h_next_lane]
      · rw [h_same lane' h_ne, h_queued]
        simp [dispatchedOn, dispatched, h_next_lane, Ne.symm h_ne]
    · intro lane' queue h_some
      simp only [HerdrExec.dispatch] at h_some ⊢
      by_cases h_ne : lane' = lane
      · subst h_ne
        rw [h_rest] at h_some
        split at h_some
        · cases h_some
        · cases h_some
          exact ⟨‹_›, (AList.mem_insert _).mpr (.inl rfl)⟩
      · rw [h_same lane' h_ne, h_queued] at h_some
        obtain ⟨h_nil, h_mem⟩ := h.busy lane' queue h_some
        refine ⟨h_nil, (AList.mem_insert _).mpr (.inr (AList.mem_erase.mpr ⟨h_ne, ?_⟩))⟩
        exact h_flight ▸ h_mem
    · intro lane' id' h_lookup
      simp only [HerdrExec.dispatch, dispatched_append, h_dispatched] at h_lookup ⊢
      rw [finished_append]
      by_cases h_ne : lane' = lane
      · subst h_ne
        rw [AList.lookup_insert, Option.some.injEq] at h_lookup
        subst h_lookup
        exact ⟨next, by simp [dispatched], rfl, h_next_lane, by simpa using h_not_next⟩
      · rw [AList.lookup_insert_ne h_ne, AList.lookup_erase_ne h_ne, h_flight] at h_lookup
        obtain ⟨j, h_j, h_id, h_j_lane, h_not⟩ := h_other h_lane h_ne h_lookup
        exact ⟨j, List.mem_append_left _ h_j, h_id, h_j_lane, by simpa using h_not⟩
    · intro j h_j
      simp only [HerdrExec.dispatch, dispatched_append, h_dispatched] at h_j ⊢
      rw [finished_append, h_finished]
      rcases List.mem_append.mp h_j with h_j | h_j
      · rcases h.holds j h_j with h_fin | h_lookup
        · exact .inl (.inl (.inl h_fin))
        · by_cases h_ne : j.lane = lane
          · rw [h_ne, h_lane, Option.some.injEq] at h_lookup
            exact .inl (.inl (.inr h_lookup))
          · rw [AList.lookup_insert_ne h_ne, AList.lookup_erase_ne h_ne, h_flight]
            exact .inr h_lookup
      · have h_j : j = next := by simpa [dispatched] using h_j
        rw [h_j, h_next_lane]
        exact .inr (AList.lookup_insert _)
    · intro event' h_event
      exact (h_received event' (by simpa [HerdrExec.dispatch] using h_event)).append
    · intro p h_p
      obtain ⟨j, h_j, h_id⟩ := h_joined p (by simpa [HerdrExec.dispatch, joins] using h_p)
      exact ⟨j, by simp [HerdrExec.dispatch, h_j], h_id⟩

end Lanes

end HerdrExec

end Kelpie
