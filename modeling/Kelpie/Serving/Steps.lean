/-
  Kelpie.Serving.Steps

  What each handler does to the requests of the clients: none is lost, none is
  answered twice, and each that stays parked waits for something.
-/

import Kelpie.Serving.Custody

namespace Kelpie

open Lib

namespace Daemon

-- ============================================================================
-- Balance
-- ============================================================================

/-- All of `all` is answered, held, or in hand, and what is held is kept. -/
structure Owes (all : Multiset RequestTicket) (ts : List RequestTicket)
    (inHand : NoticeSession → Nat) (d : Daemon) : Prop where
  kept : d.Kept inHand
  balance : d.tickets + (ts : Multiset RequestTicket) = all

variable {d d' : Daemon} {t : Awaiting} {e e' : t.Entry} {pre post : List t.Entry}
  {index : Nat} {job : Option JobId} {j : JobId} {inHand inHand' : NoticeSession → Nat}
  {all : Multiset RequestTicket} {ts : List RequestTicket}

theorem Handles.tickets_eq (h : Handles job d d') : d'.tickets = d.tickets := by
  simp only [tickets, answered, held, heldIn, h.responses, h.awaiting]

theorem Owes.removeAt (h : d.Owes all [] inHand) (h_handles : Handles (t.job e) d d')
    (h_at : d.awaiting t = pre ++ e :: post) (h_index : pre.length = index)
    (h_cancels : t ≠ .cancels) (h_retires : t ≠ .waiterRetires) :
    (d'.removeAt t index).Owes all (t.tickets e) (inHand + oneOf (t.session e)) where
  kept := h.kept.removeAt h_handles h_at h_index h_cancels h_retires
  balance := by
    have h_held := held_removeAt (h_handles.awaiting ▸ h_at) h_index
    have h_all := h.balance
    rw [← h_handles.tickets_eq, tickets, ← h_held] at h_all
    rw [← h_all, tickets, Multiset.coe_nil, add_zero, add_assoc]
    rfl

theorem Owes.setAt (h : d.Owes all [] inHand) (h_handles : Handles (t.job e) d d')
    (h_at : d.awaiting t = pre ++ e :: post) (h_index : pre.length = index)
    (h_cancels : t ≠ .cancels) (h_retires : t ≠ .waiterRetires)
    (h_session : t.session e' = t.session e) (h_tickets : t.tickets e' = t.tickets e)
    (h_fresh : ∀ j ∈ t.job e', t.job e = some j ∨ d.herdrExec j = none)
    (h_outstanding : ∀ j ∈ t.job e',
      d'.herdrOwners j = t.owner ∧ ∃ s ∈ d'.herdrExec j, t.Fits e' s)
    (h_timed : t.job e' = none → t.Timed e') (h_leased : t.Leased e')
    (h_sound : t.Sound e') : (d'.setAt t index e').Owes all [] inHand where
  kept := h.kept.setAt h_handles h_at h_index h_cancels h_retires h_session h_fresh
    h_outstanding h_timed h_leased h_sound
  balance := by
    have h_held := @held_setAt d' t e e' pre post index (h_handles.awaiting ▸ h_at) h_index
      h_tickets
    have h_all := h.balance
    rw [← h_handles.tickets_eq, tickets, ← h_held] at h_all
    exact h_all

theorem Owes.push (h : d.Owes all ts inHand) (h_handles : Handles none d d')
    (h_cancels : t ≠ .cancels) (h_retires : t ≠ .waiterRetires) (h_tickets : t.tickets e = ts)
    (h_inHand : inHand = inHand' + oneOf (t.session e))
    (h_fresh : ∀ j ∈ t.job e, d.herdrExec j = none)
    (h_outstanding : ∀ j ∈ t.job e,
      d'.herdrOwners j = t.owner ∧ ∃ s ∈ d'.herdrExec j, t.Fits e s)
    (h_timed : t.job e = none → t.Timed e) (h_leased : t.Leased e)
    (h_sound : t.Sound e) : (d'.push t e).Owes all [] inHand' where
  kept := h.kept.push h_handles h_cancels h_retires h_inHand h_fresh h_outstanding h_timed
    h_leased h_sound
  balance := by
    rw [← h.balance, ← h_handles.tickets_eq, ← h_tickets, tickets, tickets, held_push,
      Multiset.coe_nil, add_zero, add_assoc]
    rfl

theorem Owes.answer {stream : StreamId} {requestId : String} {result : Except RequestError Value}
    (h : d.Owes all [⟨stream, requestId⟩] inHand) :
    (d.answer stream requestId result).Owes all [] inHand where
  kept := { h.kept with
    noticed := h.kept.noticed.of_le rfl (fun _ => Nat.le_refl _) rfl rfl }
  balance := by
    rw [← h.balance, tickets, tickets, answered_answer, Multiset.coe_nil, add_zero,
      Multiset.coe_singleton, add_right_comm]
    rfl

-- ============================================================================
-- Moves of one entry
-- ============================================================================

theorem ne_of_owner {owner : HerdrOwner} (h : t.owner = some owner) :
    t ≠ .cancels ∧ t ≠ .waiterRetires := by
  constructor <;> rintro rfl <;> cases h

theorem entry_at (h : d.entryForJob t j = some (index, e)) :
    ∃ pre post, d.awaiting t = pre ++ e :: post ∧ pre.length = index ∧ t.job e = some j := by
  obtain ⟨pre, post, h_at, h_index, h_job⟩ := locate_eq_some h
  exact ⟨pre, post, h_at, h_index, of_decide_eq_true h_job⟩

theorem entry_none (h : d.entryForJob t j = none) : ∀ e ∈ d.awaiting t, t.job e ≠ some j :=
  fun _ h_e h_job => locate_eq_none h h_e (decide_eq_true h_job)

theorem entry_setAt (h_handles : Handles job d d') (h : d.entryForJob t j = some (index, e))
    (h_job : t.job e' = some j) : (d'.setAt t index e').entryForJob t j = some (index, e') := by
  rw [Daemon.entryForJob, Daemon.setAt, awaiting_put_self, h_handles.awaiting]
  exact locate_set h (decide_eq_true h_job)

theorem entry_index (h : (d.awaiting t)[index]? = some e) :
    ∃ pre post, d.awaiting t = pre ++ e :: post ∧ pre.length = index := by
  obtain ⟨h_lt, h_get⟩ := List.getElem?_eq_some_iff.mp h
  refine ⟨(d.awaiting t).take index, (d.awaiting t).drop (index + 1), ?_, ?_⟩
  · rw [← h_get, ← List.drop_eq_getElem_cons h_lt, List.take_append_drop]
  · exact List.length_take_of_le (Nat.le_of_lt h_lt)

theorem awaiting_at (h_handles : Handles job d d') (h_at : d.awaiting t = pre ++ e :: post)
    (h_index : pre.length = index) : (d'.awaiting t)[index]? = some e := by
  rw [h_handles.awaiting, h_at, getElem?_at h_index]

/-- The entry is taken out of its table, and its lease is dropped. -/
theorem Owes.take {owner : HerdrOwner} {lease : Option JobId} (h : d.Owes all [] inHand)
    (h_handles : Handles (t.job e) d d') (h_at : d.awaiting t = pre ++ e :: post)
    (h_index : pre.length = index) (h_owner : t.owner = some owner)
    (h_lease : ∀ j ∈ lease, t.job e = some j) :
    ((d'.removeAt t index).dropLease lease).Owes all (t.tickets e)
      (inHand + oneOf (t.session e)) := by
  obtain ⟨h_cancels, h_retires⟩ := ne_of_owner h_owner
  have h_removed := h.removeAt (h_handles.dropLease h_lease) h_at h_index h_cancels h_retires
  have h_comm : (d'.removeAt t index).dropLease lease = (d'.dropLease lease).removeAt t index := by
    cases lease <;> rfl
  rw [h_comm]
  exact h_removed

/-- The entry of a table without notices is taken out of it. -/
theorem Owes.takeOut {owner : HerdrOwner} {lease : Option JobId} (h : d.Owes all [] inHand)
    (h_handles : Handles (t.job e) d d') (h_at : d.awaiting t = pre ++ e :: post)
    (h_index : pre.length = index) (h_owner : t.owner = some owner)
    (h_session : t.session e = none) (h_lease : ∀ j ∈ lease, t.job e = some j) :
    ((d'.removeAt t index).dropLease lease).Owes all (t.tickets e) inHand := by
  have h_taken := h.take h_handles h_at h_index h_owner h_lease
  have h_none : oneOf (t.session e) = 0 := by
    rw [h_session]
    rfl
  rwa [h_none, add_zero] at h_taken

/-- The entry waits for a new job. -/
theorem Owes.resubmit {owner : HerdrOwner} {task : HerdrJob} (h : d.Owes all [] inHand)
    (h_handles : Handles (t.job e) d d') (h_at : d.awaiting t = pre ++ e :: post)
    (h_index : pre.length = index) (h_owner : t.owner = some owner)
    (h_task : task.jobId = d'.nextHerdrJob) (h_job : t.job e' = some d'.nextHerdrJob)
    (h_fits : t.Fits e' task.stage) (h_session : t.session e' = t.session e)
    (h_tickets : t.tickets e' = t.tickets e) (h_lease : t.lease e' = none)
    (h_sound : t.Sound e') :
    ((d'.allocJob.2.submitOwned task owner).setAt t index e').Owes all [] inHand := by
  obtain ⟨h_cancels, h_retires⟩ := ne_of_owner h_owner
  refine h.setAt (h_handles.submit h_task) h_at h_index h_cancels h_retires h_session h_tickets
    (fun j h_j => ?_) (fun j h_j => ?_) (fun h_none => ?_) (Awaiting.leased_of_none h_lease)
    h_sound
  · obtain rfl : d'.nextHerdrJob = j := Option.some.inj (h_job.symm.trans h_j)
    exact .inr (h_handles.exec_next h.kept)
  · obtain rfl : d'.nextHerdrJob = j := Option.some.inj (h_job.symm.trans h_j)
    rw [h_owner, ← h_task]
    exact ⟨Function.update_self .., task.stage, Function.update_self .., h_fits⟩
  · rw [h_job] at h_none
    cases h_none

/-- The lease of the job that the entry waits for has taken a command. -/
theorem Owes.sent {owner : HerdrOwner} (h : d.Owes all [] inHand)
    (h_at : d.awaiting t = pre ++ e :: post) (h_index : pre.length = index)
    (h_owner : t.owner = some owner) (h_e : t.job e = some j) (h_job : t.job e' = some j)
    (h_fits : t.Fits e' .sent) (h_session : t.session e' = t.session e)
    (h_tickets : t.tickets e' = t.tickets e) (h_lease : t.lease e' = some j)
    (h_sound : t.Sound e') : ((d.sentOn j).setAt t index e').Owes all [] inHand := by
  obtain ⟨h_cancels, h_retires⟩ := ne_of_owner h_owner
  have h_mem : e ∈ d.awaiting t := h_at ▸ List.mem_append_right pre List.mem_cons_self
  obtain ⟨h_j_owner, s, h_s, -⟩ := (h.kept.attended t).outstanding e h_mem j h_e
  have h_handles : Handles (t.job e) d (d.sentOn j) := by
    rw [h_e]
    exact h.kept.handles.sentOn (h.kept.fresh j s h_s)
  refine h.setAt h_handles h_at h_index h_cancels h_retires h_session h_tickets
    (fun i h_i => ?_) (fun i h_i => ?_) (fun h_none => ?_) (fun i h_i => ?_) h_sound
  · exact .inl (h_e.trans (h_job.symm.trans h_i))
  · obtain rfl : j = i := Option.some.inj (h_job.symm.trans h_i)
    exact ⟨h_j_owner, .sent, exec_sentOn_self, h_fits⟩
  · rw [h_job] at h_none
    cases h_none
  · exact ⟨h_job.trans (h_lease.symm.trans h_i), h_fits⟩

/-- The entry waits for the next pass. -/
theorem Owes.wait {owner : HerdrOwner} (h : d.Owes all [] inHand)
    (h_handles : Handles (t.job e) d d') (h_at : d.awaiting t = pre ++ e :: post)
    (h_index : pre.length = index) (h_owner : t.owner = some owner) (h_job : t.job e' = none)
    (h_timed : t.Timed e') (h_session : t.session e' = t.session e)
    (h_tickets : t.tickets e' = t.tickets e) (h_lease : t.lease e' = none)
    (h_sound : t.Sound e') : (d'.setAt t index e').Owes all [] inHand := by
  obtain ⟨h_cancels, h_retires⟩ := ne_of_owner h_owner
  refine h.setAt h_handles h_at h_index h_cancels h_retires h_session h_tickets
    (fun j h_j => ?_) (fun j h_j => ?_) (fun _ => h_timed) (Awaiting.leased_of_none h_lease)
    h_sound
  · rw [h_job] at h_j
    cases h_j
  · rw [h_job] at h_j
    cases h_j

/-- The entry waits for the job that it waited for. -/
theorem Owes.keep {owner : HerdrOwner} (h : d.Owes all [] inHand)
    (h_at : d.awaiting t = pre ++ e :: post) (h_index : pre.length = index)
    (h_owner : t.owner = some owner) (h_job : t.job e' = t.job e)
    (h_fits : ∀ s, t.Fits e s → t.Fits e' s) (h_timed : t.Timed e → t.Timed e')
    (h_session : t.session e' = t.session e) (h_tickets : t.tickets e' = t.tickets e)
    (h_lease : t.lease e' = t.lease e) (h_sound : t.Sound e') :
    (d.setAt t index e').Owes all [] inHand := by
  obtain ⟨h_cancels, h_retires⟩ := ne_of_owner h_owner
  have h_mem : e ∈ d.awaiting t := h_at ▸ List.mem_append_right pre List.mem_cons_self
  have h_t := h.kept.attended t
  refine h.setAt h.kept.handles h_at h_index h_cancels h_retires h_session h_tickets
    (fun j h_j => ?_) (fun j h_j => ?_) (fun h_none => ?_) (fun j h_j => ?_) h_sound
  · exact .inl (h_job.symm.trans h_j)
  · obtain ⟨h_j_owner, s, h_s, h_e⟩ := h_t.outstanding e h_mem j (h_job.symm.trans h_j)
    exact ⟨h_j_owner, s, h_s, h_fits s h_e⟩
  · exact h_timed (h_t.timed e h_mem (h_job.symm.trans h_none))
  · obtain ⟨h_e, h_sent⟩ := h.kept.leased t e h_mem j (h_lease.symm.trans h_j)
    exact ⟨h_job.trans h_e, h_fits .sent h_sent⟩

/-- What is in hand is parked under a new job. -/
theorem Owes.park {owner : HerdrOwner} {task : HerdrJob} (h : d.Owes all ts inHand)
    (h_owner : t.owner = some owner) (h_task : task.jobId = d.nextHerdrJob)
    (h_job : t.job e = some d.nextHerdrJob) (h_fits : t.Fits e task.stage)
    (h_tickets : t.tickets e = ts) (h_inHand : inHand = inHand' + oneOf (t.session e))
    (h_lease : t.lease e = none) (h_sound : t.Sound e) :
    ((d.allocJob.2.submitOwned task owner).push t e).Owes all [] inHand' := by
  obtain ⟨h_cancels, h_retires⟩ := ne_of_owner h_owner
  have h_handles : Handles none d d := h.kept.handles
  refine h.push (h_handles.submit h_task) h_cancels h_retires h_tickets h_inHand
    (fun j h_j => ?_) (fun j h_j => ?_) (fun h_none => ?_) (Awaiting.leased_of_none h_lease)
    h_sound
  · obtain rfl : d.nextHerdrJob = j := Option.some.inj (h_job.symm.trans h_j)
    exact h_handles.exec_next h.kept
  · obtain rfl : d.nextHerdrJob = j := Option.some.inj (h_job.symm.trans h_j)
    rw [h_owner, ← h_task]
    exact ⟨Function.update_self .., task.stage, Function.update_self .., h_fits⟩
  · rw [h_job] at h_none
    cases h_none

/-- Nothing waits for the job. -/
theorem Owes.idle (h : d.Owes all ts inHand) (h_handles : Handles job d d')
    (h_free : ∀ j ∈ job, ∀ t : Awaiting, ∀ e ∈ d.awaiting t, t.job e ≠ some j) :
    d'.Owes all ts inHand where
  kept := {
    attended := fun t => by
      rw [h_handles.awaiting]
      have h_t := h.kept.attended t
      refine { h_t with outstanding := fun e h_e i h_i => ?_ }
      obtain ⟨h_owner, s, h_s, h_fits⟩ := h_t.outstanding e h_e i h_i
      have h_ne : job ≠ some i := fun h_eq => h_free i h_eq t e h_e h_i
      obtain ⟨h_exec, h_owner'⟩ := h_handles.others i s h_ne h_s
      exact ⟨h_owner'.trans h_owner, s, h_exec, h_fits⟩
    fresh := h_handles.fresh
    leased := fun t => by
      rw [h_handles.awaiting]
      exact h.kept.leased t
    sound := fun t => by
      rw [h_handles.awaiting]
      exact h.kept.sound t
    noticed := h.kept.noticed.of_le h_handles.sessions_eq
      (fun _ => Nat.add_le_add_right (Nat.le_of_eq h_handles.notices_eq.symm) _)
      h_handles.cancels h_handles.waiterRetires
    failed := h_handles.failed.trans h.kept.failed }
  balance := h_handles.tickets_eq ▸ h.balance

/-- No entry waits for the job, its owner's table having none. -/
theorem Kept.free (h : d.Kept inHand)
    (h_none : ∀ t : Awaiting, t.owner = d.herdrOwners j → t.owner.isSome →
      ∀ e ∈ d.awaiting t, t.job e ≠ some j) :
    ∀ t : Awaiting, ∀ e ∈ d.awaiting t, t.job e ≠ some j := fun t e h_e h_job =>
  h_none t ((h.attended t).outstanding e h_e j h_job).1.symm (Awaiting.owner_isSome h_job) e h_e
    h_job

theorem Kept.free_of_table (h : d.Kept inHand) (h_owner : d.herdrOwners j = t.owner)
    (h_none : ∀ e ∈ d.awaiting t, t.job e ≠ some j) :
    ∀ u : Awaiting, ∀ e ∈ d.awaiting u, u.job e ≠ some j :=
  h.free fun u h_u h_some => by
    obtain rfl : u = t := Awaiting.owner_injective (h_u.trans h_owner) h_some
    exact h_none

theorem setAt_self (h_handles : Handles job d d') (h_at : d.awaiting t = pre ++ e :: post)
    (h_index : pre.length = index) : d'.setAt t index e = d' := by
  have h_same : (d'.awaiting t).set index e = d'.awaiting t := by
    rw [h_handles.awaiting, h_at, set_at h_index]
  rw [Daemon.setAt, h_same, Daemon.put, Function.update_eq_self]

theorem removeAt_setAt : (d.setAt t index e').removeAt t index = d.removeAt t index := by
  simp only [Daemon.removeAt, Daemon.setAt, Daemon.put, Function.update_self,
    Function.update_idem, List.eraseIdx_set_eq]

theorem setAt_at (h_handles : Handles job d d') (h_at : d.awaiting t = pre ++ e :: post)
    (h_index : pre.length = index) : ((d'.setAt t index e').awaiting t)[index]? = some e' := by
  rw [Daemon.setAt, awaiting_put_self, h_handles.awaiting, h_at, set_at h_index,
    getElem?_at h_index]

/-- The last of two changes of one entry counts. -/
theorem setAt_submit_setAt {task : HerdrJob} {owner : HerdrOwner} {e'' : t.Entry} :
    ((d.setAt t index e').allocJob.2.submitOwned task owner).setAt t index e'' =
      (d.allocJob.2.submitOwned task owner).setAt t index e'' := by
  simp only [Daemon.setAt, Daemon.put, Daemon.submitOwned, Daemon.allocJob, Function.update_self,
    Function.update_idem, List.set_set]

/-- The entry is taken out of its table, which was changed before. -/
theorem Owes.takeSet {owner : HerdrOwner} {lease : Option JobId} (h : d.Owes all [] inHand)
    (h_handles : Handles (t.job e) d d') (h_at : d.awaiting t = pre ++ e :: post)
    (h_index : pre.length = index) (h_owner : t.owner = some owner)
    (h_session : t.session e = none) (h_lease : ∀ j ∈ lease, t.job e = some j) :
    (((d'.setAt t index e').removeAt t index).dropLease lease).Owes all (t.tickets e) inHand := by
  rw [removeAt_setAt]
  exact h.takeOut h_handles h_at h_index h_owner h_session h_lease

/-- The executor owes the job that the entry waits for. -/
theorem Kept.outstanding_at (h : d.Kept inHand) (h_at : d.awaiting t = pre ++ e :: post)
    (h_job : t.job e = some j) :
    d.herdrOwners j = t.owner ∧ ∃ s, d.herdrExec j = some s ∧ t.Fits e s := by
  have h_mem : e ∈ d.awaiting t := h_at ▸ List.mem_append_right pre List.mem_cons_self
  exact (h.attended t).outstanding e h_mem j h_job

/-- The job that has a connection now was being opened. -/
theorem Kept.fits_opened (h : d.Kept inHand) (h_at : d.awaiting t = pre ++ e :: post)
    (h_job : t.job e = some j)
    (h_stage : d.herdrExec j = some .opening ∨ d.herdrExec j = none) : t.Fits e .opening := by
  obtain ⟨-, s, h_s, h_fits⟩ := h.outstanding_at h_at h_job
  rw [h_s] at h_stage
  rcases h_stage with h_stage | h_stage
  · cases h_stage
    exact h_fits
  · cases h_stage

/-- The job that is done was no longer being opened. -/
theorem Kept.fits_done (h : d.Kept inHand) (h_at : d.awaiting t = pre ++ e :: post)
    (h_job : t.job e = some j) (h_stage : d.herdrExec j ≠ some .opening) :
    ∃ s, s ≠ .opening ∧ t.Fits e s := by
  obtain ⟨-, s, h_s, h_fits⟩ := h.outstanding_at h_at h_job
  exact ⟨s, fun h_eq => h_stage (h_eq ▸ h_s), h_fits⟩

theorem Kept.lease_at (h : d.Kept inHand) (h_at : d.awaiting t = pre ++ e :: post) :
    ∀ j ∈ t.lease e, t.job e = some j := fun j h_j =>
  (h.leased t e (h_at ▸ List.mem_append_right pre List.mem_cons_self) j h_j).1

/-- An entry whose job cannot be on a lease has none. -/
theorem Kept.no_lease (h : d.Kept inHand) (h_at : d.awaiting t = pre ++ e :: post)
    (h_fits : ¬ t.Fits e .sent) : t.lease e = none :=
  (h.leased t e (h_at ▸ List.mem_append_right pre List.mem_cons_self)).none_of_fits h_fits

theorem Kept.sound_at (h : d.Kept inHand) (h_at : d.awaiting t = pre ++ e :: post) : t.Sound e :=
  h.sound t e (h_at ▸ List.mem_append_right pre List.mem_cons_self)

/-- The event is over, for the entry that waits for the job. -/
theorem Owes.ended (h : d.Owes all [] inHand) (h_job : job = some j) :
    Handles job d (d.endJob j) :=
  h_job ▸ h.kept.handles.endJob

/-- The event is over, and nothing waits for the job. -/
theorem Owes.idleAt (h : d.Owes all [] inHand) (h_handles : Handles (some j) d d')
    (h_owner : d.herdrOwners j = t.owner) (h_none : d'.entryForJob t j = none) :
    d'.Owes all [] inHand := by
  refine h.idle h_handles fun i h_i => ?_
  obtain rfl : j = i := Option.some.inj h_i
  refine h.kept.free_of_table h_owner ?_
  rw [← h_handles.awaiting]
  exact entry_none h_none

theorem Owes.endIdle (h : d.Owes all [] inHand) (h_owner : d.herdrOwners j = t.owner)
    (h_none : d.entryForJob t j = none) : (d.endJob j).Owes all [] inHand :=
  h.idleAt h.kept.handles.endJob h_owner h_none

-- ============================================================================
-- Parking
-- ============================================================================

theorem Owes.parkStart {start : AwaitingStart} (h_lease : start.lease = none)
    (h : d.Owes all [⟨start.stream, start.requestId⟩] inHand) :
    (d.parkStart start).Owes all [] inHand :=
  h.park (t := .starts) rfl rfl rfl rfl rfl rfl h_lease trivial

theorem Owes.parkPrompt {prompt : AwaitingPrompt} (h_lease : prompt.lease = none)
    (h_sound : prompt.stream.isSome → prompt.owner = .client ∧ prompt.reminder = none)
    (h_inHand : inHand = inHand' + oneOf prompt.session)
    (h : d.Owes all (prompt.stream.map (⟨·, prompt.requestId⟩)).toList inHand) :
    (d.parkPrompt prompt).Owes all [] inHand' :=
  h.park (t := .prompts) rfl rfl rfl JobStage.opening_ne_calling rfl h_inHand h_lease h_sound

theorem Owes.parkRead {read : AwaitingRead} (h_sound : Awaiting.Sound .reads (0, read))
    (h : d.Owes all [⟨read.stream, read.requestId⟩] inHand) :
    (d.parkRead read).Owes all [] inHand := by
  rw [Daemon.parkRead]
  cases h_kind : read.kind <;> exact h.park (t := .reads) rfl rfl rfl rfl rfl rfl rfl h_sound

theorem Owes.parkRetire {retire : AwaitingRetireClose} {preflight : RetirePreflight}
    (h_state : retire.state = .snapshot preflight) (h_lease : retire.lease = none)
    (h : d.Owes all [⟨retire.stream, retire.requestId⟩] inHand) :
    (d.parkRetire retire).Owes all [] inHand := by
  rw [Daemon.parkRetire, h_state]
  exact h.park (t := .retires) rfl rfl rfl rfl rfl rfl h_lease trivial

theorem Owes.parkRename {rename : AwaitingRename} {preflight : RenamePreflight}
    (h_state : rename.state = .snapshot preflight) (h_lease : rename.lease = none)
    (h : d.Owes all [⟨rename.stream, rename.requestId⟩] inHand) :
    (d.parkRename rename).Owes all [] inHand := by
  rw [Daemon.parkRename, h_state]
  exact h.park (t := .renames) rfl rfl rfl rfl rfl rfl h_lease trivial

theorem Owes.parkAdopt {adopt : AwaitingAdopt} {intent : AdoptIntent}
    (h_state : adopt.state = .snapshot intent) (h_lease : adopt.lease = none)
    (h_sound : Awaiting.Sound .adopts adopt)
    (h : d.Owes all [⟨adopt.stream, adopt.requestId⟩] inHand) :
    (d.parkAdopt adopt).Owes all [] inHand := by
  rw [Daemon.parkAdopt]
  refine h.park (t := .adopts) rfl rfl rfl ?_ rfl rfl h_lease h_sound
  rw [Awaiting.Fits, h_state]
  rfl

theorem Owes.parkClear {clear : AwaitingClearRequest} {resolved : ResolvedClear} {due : Millis}
    (h_state : clear.state = .settling resolved due) (h_job : clear.herdrJob = none)
    (h_lease : clear.lease = none) (h : d.Owes all [⟨clear.stream, clear.requestId⟩] inHand) :
    (d.push .clears clear).Owes all [] inHand := by
  refine h.push (t := .clears) h.kept.handles (by decide) (by decide) rfl rfl (fun j h_j => ?_)
    (fun j h_j => ?_) (fun _ => ?_) (Awaiting.leased_of_none h_lease) trivial
  · exact absurd (h_job.symm.trans h_j) (Option.not_mem_none j)
  · exact absurd (h_job.symm.trans h_j) (Option.not_mem_none j)
  · rw [Awaiting.Timed, h_state]
    trivial

end Daemon

end Kelpie
