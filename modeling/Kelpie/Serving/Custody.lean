/-
  Kelpie.Serving.Custody

  Where the requests of the clients are: answered, or held by an entry of a table.

  Each operation on the tables moves requests between the two, and what the executor
  owes covers every entry that waits for a job.
-/

import Mathlib.Algebra.BigOperators.Group.Finset.Basic
import Mathlib.Tactic.Abel
import Kelpie.Serving.Events

namespace Kelpie

open Lib

-- ============================================================================
-- Tickets
-- ============================================================================

/-- The request that an entry holds; a prompt of the daemon's own holds none. -/
def Awaiting.tickets : (t : Awaiting) → t.Entry → List RequestTicket
  | .starts, start => [⟨start.stream, start.requestId⟩]
  | .clears, clear => [⟨clear.stream, clear.requestId⟩]
  | .replies, wait => [⟨wait.stream, wait.requestId⟩]
  | .prompts, (_, prompt) => (prompt.stream.map (⟨·, prompt.requestId⟩)).toList
  | .cancels, (_, cancel) => [⟨cancel.stream, cancel.requestId⟩]
  | .waiterRetires, (_, retire) => [⟨retire.stream, retire.requestId⟩]
  | .reads, (_, read) => [⟨read.stream, read.requestId⟩]
  | .adopts, adopt => [⟨adopt.stream, adopt.requestId⟩]
  | .renames, rename => [⟨rename.stream, rename.requestId⟩]
  | .retires, retire => [⟨retire.stream, retire.requestId⟩]

namespace Daemon

variable {d : Daemon} {t : Awaiting} {e e' : t.Entry} {pre post : List t.Entry} {index : Nat}

/-- The requests that the entries of one table hold. -/
def heldIn (d : Daemon) (t : Awaiting) : Multiset RequestTicket :=
  ((d.awaiting t).flatMap t.tickets : List RequestTicket)

/-- The requests that are still to be answered, in whatever table they are parked. -/
def held (d : Daemon) : Multiset RequestTicket := ∑ t, d.heldIn t

/-- The requests that were answered. -/
def answered (d : Daemon) : Multiset RequestTicket :=
  (d.responses.map fun r => RequestTicket.mk r.1 r.2.id : List RequestTicket)

/-- Every request that the daemon has answered or holds. -/
def tickets (d : Daemon) : Multiset RequestTicket := d.answered + d.held

theorem awaiting_put_self {entries : List t.Entry} : (d.put t entries).awaiting t = entries :=
  Function.update_self ..

theorem awaiting_put_of_ne {u : Awaiting} {entries : List t.Entry} (h : u ≠ t) :
    (d.put t entries).awaiting u = d.awaiting u :=
  Function.update_of_ne h ..

theorem held_put (d : Daemon) (t : Awaiting) (entries : List t.Entry) :
    (d.put t entries).held + d.heldIn t = d.held + (entries.flatMap t.tickets : List _) := by
  have h_rest : ∑ u ∈ Finset.univ.erase t, (d.put t entries).heldIn u =
      ∑ u ∈ Finset.univ.erase t, d.heldIn u := by
    refine Finset.sum_congr rfl fun u h_u => ?_
    rw [heldIn, heldIn, awaiting_put_of_ne (Finset.ne_of_mem_erase h_u)]
  have h_self : (d.put t entries).heldIn t = (entries.flatMap t.tickets : List _) := by
    rw [heldIn, awaiting_put_self]
  rw [held, held, ← Finset.add_sum_erase _ _ (Finset.mem_univ t), h_rest, h_self,
    ← Finset.add_sum_erase Finset.univ d.heldIn (Finset.mem_univ t)]
  abel

theorem held_push (e : t.Entry) : (d.push t e).held = d.held + (t.tickets e : List _) := by
  have h_put := d.held_put t (d.awaiting t ++ [e])
  rw [List.flatMap_append, List.flatMap_singleton, ← Multiset.coe_add] at h_put
  refine add_right_cancel (b := d.heldIn t) ?_
  rw [push, h_put, heldIn]
  abel

/-- What is left of a table when one entry is taken out of it. -/
theorem heldIn_at (h_at : d.awaiting t = pre ++ e :: post) :
    d.heldIn t = ((pre ++ post).flatMap t.tickets : List _) + (t.tickets e : List _) := by
  rw [heldIn, h_at, List.flatMap_append, List.flatMap_cons, List.flatMap_append,
    ← Multiset.coe_add, ← Multiset.coe_add, ← Multiset.coe_add]
  abel

theorem held_removeAt (h_at : d.awaiting t = pre ++ e :: post) (h_index : pre.length = index) :
    (d.removeAt t index).held + (t.tickets e : List _) = d.held := by
  have h_put := d.held_put t ((d.awaiting t).eraseIdx index)
  rw [h_at, eraseIdx_at h_index, heldIn_at h_at] at h_put
  refine add_right_cancel (b := (((pre ++ post).flatMap t.tickets : List _) : Multiset _)) ?_
  rw [removeAt, h_at, eraseIdx_at h_index, ← h_put]
  abel

theorem held_setAt (h_at : d.awaiting t = pre ++ e :: post) (h_index : pre.length = index)
    (h_tickets : t.tickets e' = t.tickets e) : (d.setAt t index e').held = d.held := by
  have h_same : (pre ++ e' :: post).flatMap t.tickets = (d.awaiting t).flatMap t.tickets := by
    simp only [h_at, List.flatMap_append, List.flatMap_cons, h_tickets]
  have h_put := d.held_put t ((d.awaiting t).set index e')
  rw [h_at, set_at h_index, h_same] at h_put
  rw [setAt, h_at, set_at h_index]
  exact add_right_cancel h_put

theorem answered_answer {stream : StreamId} {requestId : String}
    {result : Except RequestError Value} :
    (d.answer stream requestId result).answered = d.answered + {⟨stream, requestId⟩} := by
  have h_id : (respond requestId result).id = requestId := by
    cases result <;> rfl
  rw [answered, answer, List.map_append, List.map_singleton, h_id, ← Multiset.coe_add]
  rfl

end Daemon

-- ============================================================================
-- What entries wait for
-- ============================================================================

/-- The owner of the jobs of a table. -/
def Awaiting.owner : Awaiting → Option HerdrOwner
  | .starts => some .start
  | .clears => some .clear
  | .prompts => some .prompt
  | .reads => some .clientRead
  | .adopts => some .adopt
  | .renames => some .rename
  | .retires => some .retire
  | .replies | .cancels | .waiterRetires => none

theorem Awaiting.owner_isSome {t : Awaiting} {e : t.Entry} {j : JobId} (h : t.job e = some j) :
    t.owner.isSome := by
  cases t with
  | replies | cancels | waiterRetires => cases h
  | _ => rfl

theorem Awaiting.owner_injective {t u : Awaiting} (h : t.owner = u.owner)
    (h_some : t.owner.isSome) : t = u := by
  cases t <;> cases u <;>
    first | rfl | exact absurd h (by decide) | exact absurd h_some (by decide)

/-- The stages that the job of an entry may be in. -/
def Awaiting.Fits : (t : Awaiting) → t.Entry → JobStage → Prop
  | .starts, start, stage =>
    match start.phase with
    | .snapshot | .ready => stage = .calling
    | .opening _ _ => stage = .opening
    | .sending _ _ => stage = .sent
    | .initial _ _ => stage ≠ .calling
    | .busy _ _ | .settling _ _ _ => False
  | .clears, clear, stage =>
    match clear.state with
    | .probe _ _ | .rotation _ => stage = .calling
    | .sending _ _ _ => stage ≠ .calling
    | .settling _ _ => False
  | .prompts, _, stage => stage ≠ .calling
  | .reads, _, stage => stage = .calling
  | .adopts, adopt, stage =>
    match adopt.state with
    | .snapshot _ | .confirm _ => stage = .calling
    | .renaming _ _ => stage ≠ .calling
  | .renames, rename, stage =>
    match rename.state with
    | .snapshot _ | .confirm _ => stage = .calling
    | .opening _ | .projectionOpening _ => stage = .opening
    | .sending _ => stage = .sent
  | .retires, retire, stage =>
    match retire.state with
    | .snapshot _ | .confirm _ => stage = .calling
    | .closing _ => stage ≠ .calling
  | .replies, _, _ | .cancels, _, _ | .waiterRetires, _, _ => False

/-- An entry that the next pass takes up, or that counts notices. -/
def Awaiting.Timed : (t : Awaiting) → t.Entry → Prop
  | .starts, start =>
    match start.phase with
    | .busy _ _ | .ready | .settling _ _ _ => True
    | .snapshot | .opening _ _ | .sending _ _ | .initial _ _ => False
  | .clears, clear =>
    match clear.state with
    | .settling _ _ | .rotation _ => True
    | .probe _ _ | .sending _ _ _ => False
  | .replies, _ | .cancels, _ | .waiterRetires, _ => True
  | .prompts, _ | .reads, _ | .adopts, _ | .renames, _ | .retires, _ => False

/-- The job whose lease an entry has. -/
def Awaiting.lease : (t : Awaiting) → t.Entry → Option JobId
  | .starts, start => start.lease
  | .clears, clear => clear.lease
  | .prompts, (_, prompt) => prompt.lease
  | .adopts, adopt => adopt.lease
  | .renames, rename => rename.lease
  | .retires, retire => retire.lease
  | .replies, _ | .cancels, _ | .waiterRetires, _ | .reads, _ => none

/-- A lease is on the job that the entry waits for, once a command may be sent on it. -/
def Awaiting.Leased (t : Awaiting) (e : t.Entry) : Prop :=
  ∀ j ∈ t.lease e, t.job e = some j ∧ t.Fits e .sent

theorem Awaiting.Leased.none_of_fits {t : Awaiting} {e : t.Entry} (h : t.Leased e)
    (h_fits : ¬ t.Fits e .sent) : t.lease e = none := by
  cases h_lease : t.lease e with
  | none => rfl
  | some j => exact absurd (h j h_lease).2 h_fits

theorem Awaiting.leased_of_none {t : Awaiting} {e : t.Entry} (h : t.lease e = none) :
    t.Leased e := by
  intro j h_j
  rw [h] at h_j
  cases h_j

/-- How the entries of the table wait for their jobs. -/
def Awaiting.waiting (t : Awaiting) : Waiting t.Entry JobId JobStage where
  job := t.job
  fits := t.Fits
  timed := t.Timed

/-- What an entry keeps of its request agrees: a launch that is past its declaration has
    it, a prompt with a client is the client's own, and a request to resume is the one
    whose answer is awaited. -/
def Awaiting.Sound : (t : Awaiting) → t.Entry → Prop
  | .starts, start =>
    match start.phase with
    | .ready | .settling _ _ _ | .initial _ _ => start.declared.isSome
    | .snapshot | .opening _ _ | .sending _ _ | .busy _ _ => True
  | .prompts, (_, prompt) =>
    prompt.stream.isSome → prompt.owner = .client ∧ prompt.reminder = none
  | .reads, (_, read) =>
    match read.kind with
    | .ofAlias _ _ resume => resume.id = read.requestId
    | .recover _ | .report _ | .whoami _ _ | .attribution _ | .whoAttribution _
    | .whoPane _ _ _ => True
  | .adopts, adopt => ∀ resume ∈ adopt.resume, resume.id = adopt.requestId
  | .clears, _ | .replies, _ | .cancels, _ | .waiterRetires, _ | .renames, _ | .retires, _ => True

-- ============================================================================
-- Sessions of notices
-- ============================================================================

/-- A request that waits for its notices. -/
inductive NoticeSession where
  | cancel (session : Nat)
  | waiterRetire (session : Nat)
deriving DecidableEq

/-- The session that counts the notice of the prompt. -/
def PromptOwner.session : PromptOwner → Option NoticeSession
  | .cancel session _ => some (.cancel session)
  | .waiterRetire session _ => some (.waiterRetire session)
  | .client | .internal => none

/-- The session that the prompt is a notice of. -/
def AwaitingPrompt.session (prompt : AwaitingPrompt) : Option NoticeSession :=
  match prompt.reminder with
  | some _ => none
  | none => prompt.owner.session

/-- The session that counts what is parked in the entry. -/
def Awaiting.session : (t : Awaiting) → t.Entry → Option NoticeSession
  | .prompts, (_, prompt) => prompt.session
  | .starts, _ | .clears, _ | .replies, _ | .cancels, _ | .waiterRetires, _ | .reads, _
  | .adopts, _ | .renames, _ | .retires, _ => none

/-- One notice of `session`. -/
def oneOf (session : Option NoticeSession) (x : NoticeSession) : Nat :=
  if session = some x then 1 else 0

namespace Daemon

/-- The parked notices of a session. -/
def notices (d : Daemon) (x : NoticeSession) : Nat :=
  (d.awaiting .prompts).countP fun prompt => prompt.2.session = some x

/-- The sessions that are waited for, each with its count of notices to come. -/
def sessions (d : Daemon) : List (NoticeSession × Nat) :=
  (d.awaiting .cancels).map (fun cancel => (.cancel cancel.1, cancel.2.remaining)) ++
    (d.awaiting .waiterRetires).map (fun retire => (.waiterRetire retire.1, retire.2.remaining))

/-- The number of the session was given out. -/
def Begun (d : Daemon) : NoticeSession → Prop
  | .cancel session => session < d.nextCancelSession
  | .waiterRetire session => session < d.nextWaiterRetireSession

/-- Each session counts notices to come, no more than are parked or in hand. -/
structure Noticed (inHand : NoticeSession → Nat) (d : Daemon) : Prop where
  counted : ∀ r ∈ d.sessions, 0 < r.2 ∧ r.2 ≤ d.notices r.1 + inHand r.1
  distinct : (d.sessions.map Prod.fst).Nodup
  begun : ∀ r ∈ d.sessions, d.Begun r.1

/-- Every entry waits for something that the executor owes, for the next pass, or for
    notices. -/
structure Kept (inHand : NoticeSession → Nat) (d : Daemon) : Prop where
  attended : ∀ t : Awaiting,
    Attended t.waiting d.herdrExec d.herdrOwners t.owner (d.awaiting t)
  fresh : ∀ j s, d.herdrExec j = some s → j < d.nextHerdrJob
  leased : ∀ t : Awaiting, ∀ e ∈ d.awaiting t, t.Leased e
  sound : ∀ t : Awaiting, ∀ e ∈ d.awaiting t, t.Sound e
  noticed : d.Noticed inHand
  failed : d.failed = []

/-- `d'` differs from `d` in what the executor owes for `job`, and in jobs that are new. -/
structure Handles (job : Option JobId) (d d' : Daemon) : Prop where
  awaiting : d'.awaiting = d.awaiting
  responses : d'.responses = d.responses
  failed : d'.failed = d.failed
  cancels : d'.nextCancelSession = d.nextCancelSession
  waiterRetires : d'.nextWaiterRetireSession = d.nextWaiterRetireSession
  next : d.nextHerdrJob ≤ d'.nextHerdrJob
  fresh : ∀ j s, d'.herdrExec j = some s → j < d'.nextHerdrJob
  others : ∀ j s, job ≠ some j → d.herdrExec j = some s →
    d'.herdrExec j = some s ∧ d'.herdrOwners j = d.herdrOwners j

section Handles

variable {d d' : Daemon} {job : Option JobId} {j : JobId} {inHand : NoticeSession → Nat}

theorem Kept.handles (h : d.Kept inHand) : Handles job d d where
  awaiting := rfl
  responses := rfl
  failed := rfl
  cancels := rfl
  waiterRetires := rfl
  next := Nat.le_refl _
  fresh := h.fresh
  others _ _ _ h_s := ⟨h_s, rfl⟩

theorem exec_endJob_self : (d.endJob j).herdrExec j = none := Function.update_self ..

theorem exec_endJob_of_ne {i : JobId} (h : i ≠ j) : (d.endJob j).herdrExec i = d.herdrExec i :=
  Function.update_of_ne h ..

theorem exec_sentOn_self : (d.sentOn j).herdrExec j = some .sent := Function.update_self ..

theorem exec_sentOn_of_ne {i : JobId} (h : i ≠ j) : (d.sentOn j).herdrExec i = d.herdrExec i :=
  Function.update_of_ne h ..

theorem Handles.endJob (h : Handles (some j) d d') : Handles (some j) d (d'.endJob j) := by
  refine { h with fresh := fun i s h_s => ?_, others := fun i s h_i h_s => ?_ }
  · by_cases h_j : i = j
    · rw [h_j, exec_endJob_self] at h_s
      cases h_s
    · rw [exec_endJob_of_ne h_j] at h_s
      exact h.fresh i s h_s
  · have h_ne : i ≠ j := fun h_eq => h_i (congrArg some h_eq.symm)
    obtain ⟨h_exec, h_owner⟩ := h.others i s h_i h_s
    exact ⟨(exec_endJob_of_ne h_ne).trans h_exec, h_owner⟩

theorem Handles.sentOn (h : Handles (some j) d d') (h_j : j < d'.nextHerdrJob) :
    Handles (some j) d (d'.sentOn j) := by
  refine { h with fresh := fun i s h_s => ?_, others := fun i s h_i h_s => ?_ }
  · by_cases h_eq : i = j
    · exact h_eq ▸ h_j
    · rw [exec_sentOn_of_ne h_eq] at h_s
      exact h.fresh i s h_s
  · have h_ne : i ≠ j := fun h_eq => h_i (congrArg some h_eq.symm)
    obtain ⟨h_exec, h_owner⟩ := h.others i s h_i h_s
    exact ⟨(exec_sentOn_of_ne h_ne).trans h_exec, h_owner⟩

theorem Handles.dropLease {lease : Option JobId} (h : Handles job d d')
    (h_lease : ∀ j ∈ lease, job = some j) : Handles job d (d'.dropLease lease) := by
  cases lease with
  | none => exact h
  | some j =>
    obtain rfl : job = some j := h_lease j rfl
    exact h.endJob

/-- A new job, which nothing waits for yet. -/
theorem Handles.submit {task : HerdrJob} {owner : HerdrOwner} (h : Handles job d d')
    (h_task : task.jobId = d'.nextHerdrJob) :
    Handles job d (d'.allocJob.2.submitOwned task owner) := by
  have h_lt : ∀ {i}, i ≠ d'.nextHerdrJob → i ≠ task.jobId := fun h_ne => h_task ▸ h_ne
  refine {
    awaiting := h.awaiting
    responses := h.responses
    failed := h.failed
    cancels := h.cancels
    waiterRetires := h.waiterRetires
    next := Nat.le_succ_of_le h.next
    fresh := fun i s h_s => ?_
    others := fun i s h_i h_s => ?_ }
  · by_cases h_eq : i = d'.nextHerdrJob
    · exact h_eq ▸ Nat.lt_succ_self _
    · refine Nat.lt_succ_of_lt (h.fresh i s ?_)
      exact (Function.update_of_ne (h_lt h_eq) ..).symm.trans h_s
  · obtain ⟨h_exec, h_owner⟩ := h.others i s h_i h_s
    have h_ne : i ≠ d'.nextHerdrJob := Nat.ne_of_lt (h.fresh i s h_exec)
    exact ⟨(Function.update_of_ne (h_lt h_ne) ..).trans h_exec,
      (Function.update_of_ne (h_lt h_ne) ..).trans h_owner⟩

/-- The executor owed nothing for a job that is new. -/
theorem Handles.exec_next (h : Handles job d d') (h_kept : d.Kept inHand) :
    d.herdrExec d'.nextHerdrJob = none := by
  cases h_s : d.herdrExec d'.nextHerdrJob with
  | none => rfl
  | some s => exact absurd (h_kept.fresh _ s h_s) (Nat.not_lt_of_le h.next)

end Handles

-- ============================================================================
-- Changes of one table
-- ============================================================================

section Tables

variable {d d' : Daemon} {t : Awaiting} {e e' : t.Entry} {pre post entries : List t.Entry}
  {index : Nat} {job : Option JobId} {inHand inHand' : NoticeSession → Nat} {x : NoticeSession}

theorem notices_put : (d.put t entries).notices x +
    (d.awaiting t).countP (fun e => t.session e = some x) =
      d.notices x + entries.countP (fun e => t.session e = some x) := by
  cases t with
  | prompts =>
    rw [notices, awaiting_put_self]
    exact Nat.add_comm _ _
  | _ =>
    rw [notices, awaiting_put_of_ne (by decide)]
    simp only [Awaiting.session, reduceCtorEq, decide_false, List.countP_false]
    rfl

theorem sessions_put (h_cancels : t ≠ .cancels) (h_retires : t ≠ .waiterRetires) :
    (d.put t entries).sessions = d.sessions := by
  rw [sessions, awaiting_put_of_ne h_cancels.symm, awaiting_put_of_ne h_retires.symm]
  rfl

theorem Handles.sessions_eq (h : Handles job d d') : d'.sessions = d.sessions := by
  rw [sessions, sessions, h.awaiting]

theorem Handles.notices_eq (h : Handles job d d') : d'.notices x = d.notices x := by
  rw [notices, notices, h.awaiting]

/-- The sessions stay, with as many notices parked or in hand. -/
theorem Noticed.of_le (h : d.Noticed inHand) (h_sessions : d'.sessions = d.sessions)
    (h_le : ∀ x, d.notices x + inHand x ≤ d'.notices x + inHand' x)
    (h_cancels : d'.nextCancelSession = d.nextCancelSession)
    (h_retires : d'.nextWaiterRetireSession = d.nextWaiterRetireSession) :
    d'.Noticed inHand' where
  counted r h_r := by
    obtain ⟨h_pos, h_count⟩ := h.counted r (h_sessions ▸ h_r)
    exact ⟨h_pos, h_count.trans (h_le r.1)⟩
  distinct := h_sessions ▸ h.distinct
  begun r h_r := by
    have h_begun := h.begun r (h_sessions ▸ h_r)
    unfold Begun at h_begun ⊢
    rw [h_cancels, h_retires]
    exact h_begun

/-- Another list of entries for one table. -/
theorem Kept.put (h : d.Kept inHand) (h_handles : Handles job d d')
    (h_job : ∀ j ∈ job, d.herdrOwners j = t.owner ∧ t.owner.isSome)
    (h_attended : Attended t.waiting d'.herdrExec d'.herdrOwners t.owner entries)
    (h_leased : ∀ e ∈ entries, t.Leased e)
    (h_sound : ∀ e ∈ entries, t.Sound e) (h_noticed : (d'.put t entries).Noticed inHand') :
    (d'.put t entries).Kept inHand' where
  attended u := by
    by_cases h_u : u = t
    · subst h_u
      rw [awaiting_put_self]
      exact h_attended
    · rw [awaiting_put_of_ne h_u, h_handles.awaiting]
      refine (h.attended u).frame fun j s h_owner h_s => h_handles.others j s ?_ h_s
      rintro rfl
      obtain ⟨h_j, h_some⟩ := h_job j rfl
      exact h_u (Awaiting.owner_injective (h_j.symm.trans h_owner) h_some).symm
  fresh := h_handles.fresh
  leased u := by
    by_cases h_u : u = t
    · subst h_u
      rw [awaiting_put_self]
      exact h_leased
    · rw [awaiting_put_of_ne h_u, h_handles.awaiting]
      exact h.leased u
  sound u := by
    by_cases h_u : u = t
    · subst h_u
      rw [awaiting_put_self]
      exact h_sound
    · rw [awaiting_put_of_ne h_u, h_handles.awaiting]
      exact h.sound u
  noticed := h_noticed
  failed := h_handles.failed.trans h.failed

theorem Kept.job_owner (h : d.Kept inHand) (h_at : d.awaiting t = pre ++ e :: post) :
    ∀ j ∈ t.job e, d.herdrOwners j = t.owner ∧ t.owner.isSome := by
  intro j h_j
  have h_mem : e ∈ d.awaiting t := h_at ▸ List.mem_append_right pre List.mem_cons_self
  exact ⟨((h.attended t).outstanding e h_mem j h_j).1, Awaiting.owner_isSome h_j⟩

theorem countP_at {p : t.Entry → Bool} : (pre ++ e :: post).countP p =
    (pre ++ post).countP p + if p e then 1 else 0 := by
  rw [List.countP_append, List.countP_cons, List.countP_append, Nat.add_assoc]

/-- Take an entry out of its table, its notice being in hand. -/
theorem Kept.removeAt (h : d.Kept inHand) (h_handles : Handles (t.job e) d d')
    (h_at : d.awaiting t = pre ++ e :: post) (h_index : pre.length = index)
    (h_cancels : t ≠ .cancels) (h_retires : t ≠ .waiterRetires) :
    (d'.removeAt t index).Kept (inHand + oneOf (t.session e)) := by
  have h_mem : ∀ y ∈ pre ++ post, y ∈ d.awaiting t := fun y h_y =>
    h_at ▸ (List.Sublist.append_left (List.sublist_cons_self e post) pre).subset h_y
  have h_attended : Attended t.waiting d.herdrExec d.herdrOwners t.owner (pre ++ e :: post) :=
    h_at ▸ h.attended t
  rw [Daemon.removeAt, h_handles.awaiting, h_at, eraseIdx_at h_index]
  refine h.put h_handles (h.job_owner h_at) (h_attended.take h_handles.others)
    (fun y h_y => h.leased t y (h_mem y h_y)) (fun y h_y => h.sound t y (h_mem y h_y)) ?_
  refine h.noticed.of_le ((sessions_put h_cancels h_retires).trans h_handles.sessions_eq)
    (fun y => ?_) h_handles.cancels h_handles.waiterRetires
  have h_put := @notices_put d' t (pre ++ post) y
  rw [h_handles.awaiting, h_at, countP_at, h_handles.notices_eq] at h_put
  have h_one : oneOf (t.session e) y = if decide (t.session e = some y) = true then 1 else 0 := by
    simp only [oneOf, decide_eq_true_eq]
  rw [Pi.add_apply, h_one]
  omega

/-- Put another entry in the place of one. -/
theorem Kept.setAt (h : d.Kept inHand) (h_handles : Handles (t.job e) d d')
    (h_at : d.awaiting t = pre ++ e :: post) (h_index : pre.length = index)
    (h_cancels : t ≠ .cancels) (h_retires : t ≠ .waiterRetires)
    (h_session : t.session e' = t.session e)
    (h_fresh : ∀ j ∈ t.job e', t.job e = some j ∨ d.herdrExec j = none)
    (h_outstanding : ∀ j ∈ t.job e',
      d'.herdrOwners j = t.owner ∧ ∃ s ∈ d'.herdrExec j, t.Fits e' s)
    (h_timed : t.job e' = none → t.Timed e') (h_leased : t.Leased e')
    (h_sound : t.Sound e') : (d'.setAt t index e').Kept inHand := by
  have h_attended : Attended t.waiting d.herdrExec d.herdrOwners t.owner (pre ++ e :: post) :=
    h_at ▸ h.attended t
  have h_mem : ∀ y ∈ pre ++ e' :: post, y = e' ∨ y ∈ d.awaiting t := by
    intro y h_y
    rcases List.mem_cons.mp (List.perm_middle.mem_iff.mp h_y) with h_eq | h_y
    · exact .inl h_eq
    · exact .inr (h_at ▸ (List.Sublist.append_left (List.sublist_cons_self e post) pre).subset h_y)
  rw [Daemon.setAt, h_handles.awaiting, h_at, set_at h_index]
  refine h.put h_handles (h.job_owner h_at)
    (h_attended.put h_handles.others h_fresh h_outstanding h_timed) ?_ ?_ ?_
  · intro y h_y
    rcases h_mem y h_y with rfl | h_y
    · exact h_leased
    · exact h.leased t y h_y
  · intro y h_y
    rcases h_mem y h_y with rfl | h_y
    · exact h_sound
    · exact h.sound t y h_y
  · refine h.noticed.of_le ((sessions_put h_cancels h_retires).trans h_handles.sessions_eq)
      (fun y => ?_) h_handles.cancels h_handles.waiterRetires
    have h_put := @notices_put d' t (pre ++ e' :: post) y
    rw [h_handles.awaiting, h_at, countP_at, countP_at, h_handles.notices_eq, h_session] at h_put
    omega

/-- Park an entry. -/
theorem Kept.push (h : d.Kept inHand) (h_handles : Handles none d d')
    (h_cancels : t ≠ .cancels) (h_retires : t ≠ .waiterRetires)
    (h_inHand : inHand = inHand' + oneOf (t.session e))
    (h_fresh : ∀ j ∈ t.job e, d.herdrExec j = none)
    (h_outstanding : ∀ j ∈ t.job e,
      d'.herdrOwners j = t.owner ∧ ∃ s ∈ d'.herdrExec j, t.Fits e s)
    (h_timed : t.job e = none → t.Timed e) (h_leased : t.Leased e)
    (h_sound : t.Sound e) : (d'.push t e).Kept inHand' := by
  have h_frame := (h.attended t).frame fun j s _ h_s =>
    h_handles.others j s (fun h_none => nomatch h_none) h_s
  rw [Daemon.push, h_handles.awaiting]
  refine h.put h_handles (fun j h_j => nomatch h_j) ?_ ?_ ?_ ?_
  · have h_insert := @Attended.insert _ _ _ _ t.waiting d'.herdrExec d'.herdrOwners t.owner
      (d.awaiting t) [] e
    rw [List.append_nil] at h_insert
    refine h_insert h_frame (fun y h_y j h_j h_same => ?_) h_outstanding h_timed
    obtain ⟨-, s, h_s, -⟩ := (h.attended t).outstanding y h_y j h_same
    rw [h_fresh j h_j] at h_s
    cases h_s
  · intro y h_y
    rcases List.mem_append.mp h_y with h_y | h_y
    · exact h.leased t y h_y
    · exact List.mem_singleton.mp h_y ▸ h_leased
  · intro y h_y
    rcases List.mem_append.mp h_y with h_y | h_y
    · exact h.sound t y h_y
    · exact List.mem_singleton.mp h_y ▸ h_sound
  · refine h.noticed.of_le ((sessions_put h_cancels h_retires).trans h_handles.sessions_eq)
      (fun y => ?_) h_handles.cancels h_handles.waiterRetires
    have h_put := @notices_put d' t (d.awaiting t ++ [e]) y
    rw [h_handles.awaiting, List.countP_append, List.countP_singleton, h_handles.notices_eq]
      at h_put
    have h_one : oneOf (t.session e) y =
        if decide (t.session e = some y) = true then 1 else 0 := by
      simp only [oneOf, decide_eq_true_eq]
    rw [h_inHand, Pi.add_apply, h_one]
    omega

end Tables

end Daemon

end Kelpie
