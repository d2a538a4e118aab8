/-
  Kelpie.Serving.Once

  Every run of the daemon: the connections that hand in a line, the events of the
  executor, and the passes over what is parked.

  A request has one response on its connection, or one entry holds it that waits for
  something; where a line is given up or an event does not deliver, it may have none.
-/

import Mathlib.Data.Multiset.Count
import Kelpie.Serving.Rounds

namespace Kelpie

open Lib

-- ============================================================================
-- Runs
-- ============================================================================

/-- The daemon, with the requests that were handed in. -/
structure ServeWorld where
  daemon : Daemon := {}
  requests : List RequestTicket := []

/-- What the daemon does next about its clients. -/
inductive ServeLabel where
  /-- A connection hands in its line. -/
  | line (k : LineCalls) (stream : StreamId) (line : Except String ClientRequest)
  | event (k : KelpieCalls) (event : HerdrEvent)
  | start (k : KelpieCalls) (index : Nat)
  | clear (k : KelpieCalls) (index : Nat)
  | replies (k : KelpieCalls) (index : Nat)
  /-- A job of the daemon's own. -/
  | own (job : HerdrJob) (owner : HerdrOwner)
  /-- A prompt or a reminder of the daemon's own. -/
  | notice (prepared : PreparedPrompt) (reminder : Option PreparedReminder)

/-- A connection serves one request, and the executor reports what it can. -/
def ServeWorld.next (readers : ParamReaders) : ServeLabel → ServeWorld → Option ServeWorld
  | .line k stream line, w =>
    if stream ∈ w.requests.map RequestTicket.stream then none
    else some {
      daemon := w.daemon.dispatchLine readers k stream line
      requests := w.requests ++ [⟨stream, Daemon.lineId line⟩] }
  | .event k event, w =>
    if w.daemon.Reports event then some { w with daemon := w.daemon.onEvent k event } else none
  | .start k index, w => some { w with daemon := w.daemon.advanceAwaitingStart k index }
  | .clear k index, w => some { w with daemon := w.daemon.advanceAwaitingClear k index }
  | .replies k index, w => some { w with daemon := w.daemon.advanceRepliesWait k index }
  | .own job owner, w =>
    if job.jobId = w.daemon.nextHerdrJob ∧ ∀ t : Awaiting, t.owner ≠ some owner then
      some { w with daemon := w.daemon.allocJob.2.submitOwned job owner }
    else none
  | .notice prepared reminder, w =>
    let prompt := Daemon.noticePrompt prepared .internal reminder
    some { w with daemon := w.daemon.parkPrompt prompt }

/-- The params of a line parse, and an event takes no request without an answer. -/
def ServeLabel.Delivers (readers : ParamReaders) : ServeLabel → ServeWorld → Prop
  | .line _ _ (.ok request), _ => readers.Reads request
  | .event k reported, w => Daemon.Delivers k w.daemon reported
  | .line _ _ (.error _), _ => True
  | .start _ _, _ | .clear _ _, _ | .replies _ _, _ | .own _ _, _ | .notice _ _, _ => True

instance {readers : ParamReaders} (l : ServeLabel) (w : ServeWorld) :
    Decidable (l.Delivers readers w) := by
  unfold ServeLabel.Delivers
  split <;> infer_instance

-- ============================================================================
-- One answer
-- ============================================================================

/-- The session whose notices the entry counts. -/
def Awaiting.counts : (t : Awaiting) → t.Entry → Option NoticeSession
  | .cancels, (session, _) => some (.cancel session)
  | .waiterRetires, (session, _) => some (.waiterRetire session)
  | .starts, _ | .clears, _ | .replies, _ | .prompts, _ | .reads, _ | .adopts, _ | .renames, _
  | .retires, _ => none

namespace Daemon

variable {d : Daemon} {request : RequestTicket}

/-- The ids of the responses on one connection. -/
def responseIds (d : Daemon) (stream : StreamId) : List String :=
  (d.responses.filter fun r => r.1 = stream).map fun r => r.2.id

/-- The connection of the request has its response, and nothing holds the request. -/
def Answered (d : Daemon) (request : RequestTicket) : Prop :=
  d.responseIds request.stream = [request.requestId] ∧ request ∉ d.held

/-- What the entry waits for: a job that the executor owes, the next pass, or a notice
    of its session. -/
def Attends (d : Daemon) (t : Awaiting) (e : t.Entry) : Prop :=
  (∀ j ∈ t.job e, (d.herdrExec j).isSome) ∧ (t.job e = none → t.Timed e) ∧
    ∀ x ∈ t.counts e, 0 < d.notices x

/-- The connection of the request has no response, and one entry holds the request, which
    waits for something. -/
def Parked (d : Daemon) (request : RequestTicket) : Prop :=
  d.responseIds request.stream = [] ∧ d.held.count request = 1 ∧ request ∉ d.failed ∧
    ∃ t : Awaiting, ∃ e ∈ d.awaiting t, request ∈ t.tickets e ∧ d.Attends t e

variable {all : Multiset RequestTicket} {requests : List RequestTicket}

theorem Kept.attends {t : Awaiting} {e : t.Entry} (h : d.Kept 0) (h_e : e ∈ d.awaiting t) :
    d.Attends t e := by
  have h_t := h.attended t
  refine ⟨fun j h_j => ?_, h_t.timed e h_e, fun x h_x => ?_⟩
  · obtain ⟨-, s, h_s, -⟩ := h_t.outstanding e h_e j h_j
    rw [Option.mem_def.mp h_s]
    rfl
  · have h_counted : ∀ r ∈ d.sessions, 0 < d.notices r.1 := fun r h_r => by
      obtain ⟨h_pos, h_le⟩ := h.noticed.counted r h_r
      exact Nat.lt_of_lt_of_le h_pos h_le
    cases t with
    | cancels =>
      obtain rfl := Option.some.inj h_x
      exact h_counted (cancelCount e)
        (List.mem_append_left _ (List.mem_map_of_mem (f := cancelCount) h_e))
    | waiterRetires =>
      obtain rfl := Option.some.inj h_x
      exact h_counted (waiterRetireCount e)
        (List.mem_append_right _ (List.mem_map_of_mem (f := waiterRetireCount) h_e))
    | _ => cases h_x

theorem mem_held (h : request ∈ d.held) :
    ∃ t : Awaiting, ∃ e ∈ d.awaiting t, request ∈ t.tickets e := by
  obtain ⟨t, -, h_t⟩ := Multiset.mem_sum.mp h
  obtain ⟨e, h_e, h_request⟩ := List.mem_flatMap.mp (Multiset.mem_coe.mp h_t)
  exact ⟨t, e, h_e, h_request⟩

/-- Of requests that came on connections of their own, one has the connection of `request`. -/
theorem filter_stream (h : (requests.map RequestTicket.stream).Nodup) (h_mem : request ∈ requests) :
    requests.filter (fun r => r.stream = request.stream) = [request] := by
  obtain ⟨pre, post, rfl⟩ := List.append_of_mem h_mem
  rw [(List.perm_middle.map RequestTicket.stream).nodup_iff, List.map_cons, List.nodup_cons] at h
  have h_nil : ∀ r ∈ pre ++ post, ¬ decide (r.stream = request.stream) = true := by
    intro r h_r h_stream
    exact h.1 (List.mem_map.mpr ⟨r, h_r, of_decide_eq_true h_stream⟩)
  rw [List.filter_append, List.filter_cons, if_pos (decide_eq_true rfl),
    List.filter_eq_nil_iff.mpr fun r h_r => h_nil r (List.mem_append_left post h_r),
    List.filter_eq_nil_iff.mpr fun r h_r => h_nil r (List.mem_append_right pre h_r)]
  rfl

theorem responseIds_eq {stream : StreamId} : d.responseIds stream =
    ((d.responses.map fun r => RequestTicket.mk r.1 r.2.id).filter
      fun r => r.stream = stream).map RequestTicket.requestId := by
  rw [responseIds, List.filter_map, List.map_map]
  rfl

/-- What is answered or held, once. -/
theorem Owes.answered_or_parked (h : d.Owes (requests : Multiset _) [] 0)
    (h_apart : (requests.map RequestTicket.stream).Nodup) (h_mem : request ∈ requests) :
    d.Answered request ∨ d.Parked request := by
  have h_balance : d.answered + d.held = (requests : Multiset _) := by
    rw [← h.balance, tickets, Multiset.coe_nil, add_zero]
  have h_nodup : (d.answered + d.held).Nodup := by
    rw [h_balance]
    exact Multiset.coe_nodup.mpr (List.Nodup.of_map _ h_apart)
  obtain ⟨-, h_held, h_disjoint⟩ := Multiset.nodup_add.mp h_nodup
  have h_le : d.answered ≤ (requests : Multiset _) := h_balance ▸ Multiset.le_add_right _ _
  have h_streams : ((d.responses.map fun r => RequestTicket.mk r.1 r.2.id).map
      RequestTicket.stream).Nodup := by
    have h_map := Multiset.map_le_map h_le (f := RequestTicket.stream)
    exact Multiset.coe_nodup.mp (Multiset.nodup_of_le h_map (Multiset.coe_nodup.mpr h_apart))
  by_cases h_answered : request ∈ d.answered
  · left
    refine ⟨?_, Multiset.disjoint_left.mp h_disjoint h_answered⟩
    rw [responseIds_eq, filter_stream h_streams (Multiset.mem_coe.mp h_answered)]
    rfl
  · right
    have h_in : request ∈ d.held := by
      have h_all : request ∈ d.answered + d.held := h_balance ▸ Multiset.mem_coe.mpr h_mem
      exact (Multiset.mem_add.mp h_all).resolve_left h_answered
    refine ⟨?_, Multiset.count_eq_one_of_mem h_held h_in, ?_, ?_⟩
    · rw [responseIds_eq, List.filter_eq_nil_iff.mpr, List.map_nil]
      intro r h_r h_stream
      have h_r_mem : r ∈ requests := Multiset.mem_coe.mp (Multiset.mem_of_le h_le h_r)
      obtain rfl : r = request :=
        List.inj_on_of_nodup_map h_apart h_r_mem h_mem (of_decide_eq_true h_stream)
      exact h_answered h_r
    · rw [h.kept.failed]
      exact List.not_mem_nil
    · obtain ⟨t, e, h_e, h_request⟩ := mem_held h_in
      exact ⟨t, e, h_e, h_request, h.kept.attends h_e⟩

end Daemon

-- ============================================================================
-- Every request
-- ============================================================================

/-- What is handed in is answered, or held and waits for something. -/
structure ServeWorld.Balanced (w : ServeWorld) : Prop where
  owes : w.daemon.Owes (w.requests : Multiset RequestTicket) [] 0
  apart : (w.requests.map RequestTicket.stream).Nodup

namespace ServeWorld

variable {readers : ParamReaders} {l : ServeLabel} {w w' : ServeWorld}

theorem balanced_empty : ServeWorld.Balanced {} where
  owes := {
    kept := {
      attended := fun _ => .nil
      fresh := fun _ _ h_s => absurd h_s (Option.not_mem_none _)
      leased := fun _ _ h_e => absurd h_e List.not_mem_nil
      sound := fun _ _ h_e => absurd h_e List.not_mem_nil
      noticed := {
        counted := fun _ h_r => absurd h_r List.not_mem_nil
        distinct := List.nodup_nil
        begun := fun _ h_r => absurd h_r List.not_mem_nil }
      failed := rfl }
    balance := rfl }
  apart := List.nodup_nil

theorem Balanced.step (h : w.Balanced) (h_delivers : l.Delivers readers w)
    (h_step : StepOf (next readers) l w w') : w'.Balanced := by
  rw [StepOf] at h_step
  cases l with
  | line k stream line =>
    rw [next] at h_step
    split at h_step
    · cases h_step
    · rename_i h_stream
      cases h_step
      have h_nodup := List.Nodup.concat h_stream h.apart
      rw [List.concat_eq_append] at h_nodup
      refine ⟨Daemon.Owes.dispatchLine ?_ ?_, ?_⟩
      · refine ⟨h.owes.kept, ?_⟩
        have h_balance := h.owes.balance
        rw [Multiset.coe_nil, add_zero] at h_balance
        rw [h_balance, Multiset.coe_add]
      · rintro request rfl
        exact h_delivers
      · rwa [List.map_append, List.map_singleton]
  | event k event =>
    rw [next] at h_step
    split at h_step
    · rename_i h_reports
      cases h_step
      exact ⟨h.owes.onEvent h_reports h_delivers, h.apart⟩
    · cases h_step
  | start k index =>
    cases h_step
    exact ⟨h.owes.advanceAwaitingStart, h.apart⟩
  | clear k index =>
    cases h_step
    exact ⟨h.owes.advanceAwaitingClear, h.apart⟩
  | replies k index =>
    cases h_step
    exact ⟨h.owes.advanceRepliesWait, h.apart⟩
  | own job owner =>
    rw [next] at h_step
    split at h_step
    · rename_i h_own
      cases h_step
      have h_none : Daemon.Handles none w.daemon w.daemon := h.owes.kept.handles
      exact ⟨h.owes.idle (h_none.submit h_own.1)
        (fun _ h_j => absurd h_j (Option.not_mem_none _)), h.apart⟩
    · cases h_step
  | notice prepared reminder =>
    cases h_step
    have h_session : oneOf (Daemon.noticePrompt prepared .internal reminder).session = 0 := by
      cases reminder <;> rfl
    refine ⟨Daemon.Owes.parkPrompt rfl (fun h_some => absurd h_some Bool.false_ne_true) ?_
      h.owes, h.apart⟩
    rw [h_session, add_zero]

/-- Every request that was handed in has one response, on its connection and with its id,
    or none and one entry holds it that waits for something. -/
theorem request_answered_or_parked
    (h_run : Run (StepOf (next readers)) (ServeLabel.Delivers readers) {} w) :
    ∀ request ∈ w.requests, w.daemon.Answered request ∨ w.daemon.Parked request := by
  intro request h_mem
  have h := Run.invariant (I := Balanced) h_run balanced_empty
    fun _ _ _ h_w h_delivers h_step => h_w.step h_delivers h_step
  exact h.owes.answered_or_parked h.apart h_mem

/-- A rename by id. -/
def renameRequest (id : String) : ClientRequest where
  id := id
  method := "rename"
  params := .object [("agent_id", .number "3"), ("name", .string "atlas")]

/-- Params as the readers of the source find them, for the requests of the runs below. -/
def sampleReaders : ParamReaders where
  report _ := .ok {}
  adopt _ := .error "missing field"
  rename
    | .object [("agent_id", .number "3"), ("name", .string name)] => .ok { agentId := some 3, name }
    | _ => .error "missing field"
  retire _ := .error "missing field"
  waiterRetire _ := .ok {}

/-- Two renames are parked, and Herdr fails the snapshot of the first. -/
def renamesRun : List ServeLabel :=
  let k : LineCalls := { (default : LineCalls) with prepareRename := .ok ⟨"w1:p1"⟩ }
  [.line k 1 (.ok (renameRequest "r1")), .line k 2 (.ok (renameRequest "r2")),
    .event default (.done 1 (.error (.unexpected "closed")))]

theorem renamesRun_script : Script (next sampleReaders) (ServeLabel.Delivers sampleReaders)
    (fun w => w.requests = [⟨1, "r1"⟩, ⟨2, "r2"⟩] ∧ w.daemon.responseIds 1 = ["r1"] ∧
      w.daemon.responseIds 2 = []) renamesRun {} := by
  decide +kernel

theorem renamesRun_answered_or_parked : ∃ w : ServeWorld,
    Run (StepOf (next sampleReaders)) (ServeLabel.Delivers sampleReaders) {} w ∧
      w.requests = [⟨1, "r1"⟩, ⟨2, "r2"⟩] ∧ w.daemon.responseIds 1 = ["r1"] ∧
      w.daemon.responseIds 2 = [] ∧
      ∀ request ∈ w.requests, w.daemon.Answered request ∨ w.daemon.Parked request := by
  obtain ⟨w, h_run, h_requests, h_first, h_second⟩ := renamesRun_script.run
  exact ⟨w, h_run, h_requests, h_first, h_second, request_answered_or_parked h_run⟩

/-- A rename without a name is neither answered nor held. -/
theorem request_unanswered :
    ¬ ∀ (readers : ParamReaders) (w : ServeWorld),
      Run (StepOf (next readers)) (fun _ _ => True) {} w →
        ∀ request ∈ w.requests, w.daemon.Answered request ∨ w.daemon.Parked request := by
  intro h
  have h_read : ¬ sampleReaders.Reads { id := "r1", method := "rename", params := .object [] } := by
    decide +kernel
  have h_run : Run (StepOf (next sampleReaders)) (fun _ _ => True) {}
      ⟨{}, [⟨1, "r1"⟩]⟩ := by
    refine .single (.line default 1 (.ok { id := "r1", method := "rename", params := .object [] }))
      trivial ?_
    have h_fresh : 1 ∉ ({} : ServeWorld).requests.map RequestTicket.stream := List.not_mem_nil
    rw [StepOf, next, if_neg h_fresh, Daemon.dispatchLine_unread h_read]
    rfl
  rcases h _ _ h_run ⟨1, "r1"⟩ List.mem_cons_self with h_answered | h_parked
  · cases h_answered.1
  · obtain ⟨-, -, -, t, e, h_e, -⟩ := h_parked
    cases h_e

end ServeWorld

end Kelpie
