/-
  Kelpie.Schedules.Firing

  One firing of a tell schedule: the cycle that it records, with the message that
  it sends, the delivery that it waits for or the target that it misses.  With it
  the book of schedules accounts for every call of the store.
-/

import Kelpie.Ledger.Posting
import Kelpie.Schedules.Book

namespace Kelpie

open Lib Lib.Tx Book

variable {s s' : Store}

-- ============================================================================
-- Tables beside the ledger
-- ============================================================================

/-- The book and the notices to the operator stay as they are. -/
def SameDesk (s s' : Store) : Prop :=
  s'.book = s.book ∧ s'.operatorNotices = s.operatorNotices

instance SameDesk.stepwise : Stepwise SameDesk where
  refl _ := ⟨rfl, rfl⟩
  trans h h' := ⟨h'.1.trans h.1, h'.2.trans h.2⟩

instance : Ignores SameDesk Tab.messages := ⟨fun _ _ => ⟨rfl, rfl⟩⟩
instance : Ignores SameDesk Tab.operations := ⟨fun _ _ => ⟨rfl, rfl⟩⟩
instance : Ignores SameDesk Tab.deliveries := ⟨fun _ _ => ⟨rfl, rfl⟩⟩

-- ============================================================================
-- One firing
-- ============================================================================

/-- What becomes of a due cycle, recorded as `f`. -/
inductive Disposed (item : DueTellSchedule) (s : Store) (f : ScheduleFiringRow) (s' : Store) :
    Prop where
  | skip (h_live : s.FiringUnresolved item.scheduleId)
      (h_f : f.outcome = .skipped ∧ f.messageId = none) (h_ledger : s'.ledger = s.ledger)
      (h_notices : s'.operatorNotices = s.operatorNotices)
  | unavailable (h_live : ¬ s.FiringUnresolved item.scheduleId)
      (h_path : s.firingPath item.recipient = .unavailable)
      (h_f : f.outcome = .targetUnavailable ∧ f.messageId = none)
      (h_ledger : s'.ledger = s.ledger)
      (h_notices :
        (s.previousFiring item.scheduleId = some .targetUnavailable ∧
            s'.operatorNotices = s.operatorNotices) ∨
          (s.previousFiring item.scheduleId ≠ some .targetUnavailable ∧
            ∃ n, s.operatorNotices.Adds (some n) s'.operatorNotices))
  | materialize {p : Ledger.Posting} (h_live : ¬ s.FiringUnresolved item.scheduleId)
      (h_path : s.firingPath item.recipient ≠ .unavailable)
      (h_f : f.outcome = .materialized ∧ f.messageId = some p.message.id)
      (h_posts : Ledger.Posts p s.ledger s'.ledger)
      (h_notices : s'.operatorNotices = s.operatorNotices)

/-- A committed firing of the due cycle that `item` names. -/
structure Fires (item : DueTellSchedule) (nowMs : Millis) (s s' : Store) : Prop where
  due : ∃ c ∈ s.schedules, c.id = item.scheduleId ∧ c.state = .active ∧
    c.cycle = item.cycle ∧ c.nextFireAtMs ≤ nowMs
  schedules : s.schedules.Edits
    (Advanced item.scheduleId (saturatingAdd nowMs item.intervalMs)) s'.schedules
  renews : s'.renews = s.renews
  firing : ∃ f, f.scheduleId = item.scheduleId ∧ f.cycle = item.cycle ∧
    s.scheduleFirings.Adds (some f) s'.scheduleFirings ∧ Disposed item s f s'

theorem insertFiring_run {item : DueTellSchedule} {nowMs : Millis}
    {outcome : ScheduleFiringOutcome} {messageId : Option MessageId} {detail : Option String}
    {res : ScheduleFiring}
    (h : (insertFiring item nowMs outcome messageId detail).run s = .ok (res, s')) :
    ∃ f fs, s' = { s with scheduleFirings := fs } ∧ s.scheduleFirings.Adds (some f) fs ∧
      f.scheduleId = item.scheduleId ∧ f.cycle = item.cycle ∧ f.outcome = outcome ∧
      f.messageId = messageId := by
  unfold insertFiring at h
  obtain ⟨_, s₁, h_insert, h⟩ := run_bind_ok.mp h
  rw [run_insertRow_ok] at h_insert
  obtain ⟨fs, h_fs, h_eq⟩ := h_insert
  cases h_eq
  cases h
  exact ⟨_, fs, rfl, Table.adds_insert? h_fs, rfl, rfl, rfl, rfl⟩

/-- The end of a firing that has posted its message. -/
theorem materialize_fires {item : DueTellSchedule} {nowMs : Millis} {res : ScheduleFiring}
    {cs : Table ScheduleRow.id} {s₁ : Store} {p : Ledger.Posting} {detail : Option String}
    (h_item : ∃ c ∈ s.schedules, c.id = item.scheduleId ∧ c.state = .active ∧
      c.cycle = item.cycle ∧ c.nextFireAtMs ≤ nowMs)
    (h_cs : s.schedules.Edits
      (Advanced item.scheduleId (saturatingAdd nowMs item.intervalMs)) cs)
    (h_live : ¬ s.FiringUnresolved item.scheduleId)
    (h_path : s.firingPath item.recipient ≠ .unavailable)
    (h_desk : SameDesk (Tab.schedules.put cs s) s₁)
    (h_posts : Ledger.Posts p s.ledger s₁.ledger)
    (h : (insertFiring item nowMs .materialized (some p.message.id) detail).run s₁ =
      .ok (res, s')) : Fires item nowMs s s' := by
  obtain ⟨f, fs, rfl, h_fs, h_schedule, h_number, h_outcome, h_sent⟩ := insertFiring_run h
  obtain ⟨h_book, h_notices⟩ := h_desk
  have h_schedules : s₁.schedules = cs := congrArg Book.schedules h_book
  have h_firings : s₁.scheduleFirings = s.scheduleFirings := congrArg Book.firings h_book
  refine ⟨h_item, ?_, congrArg Book.renews h_book, f, h_schedule, h_number, ?_,
    .materialize h_live h_path ⟨h_outcome, h_sent⟩ h_posts h_notices⟩
  · rw [← h_schedules] at h_cs
    exact h_cs
  · rw [h_firings] at h_fs
    exact h_fs

theorem fireTellSchedule_run {item : DueTellSchedule} {nowMs : Millis} {res : ScheduleFiring}
    (h : (fireTellSchedule item nowMs).run s = .ok (res, s')) : Fires item nowMs s s' := by
  simp only [fireTellSchedule, run_bind_reads, run_bind_require_ok] at h
  obtain ⟨⟨c, h_find, h_active, h_cycle, h_due⟩, _, s₁, h_advance, h⟩ :=
    h.imp_right run_bind_ok.mp
  obtain ⟨h_c, h_id⟩ := Table.find_eq_some.mp h_find
  obtain ⟨cs, rfl, h_cs⟩ := run_updateRows_edits
    (Advanced item.scheduleId (saturatingAdd nowMs item.intervalMs)) h_advance
    (by
      rintro c' - ⟨h_key, -⟩
      exact .inr ⟨h_key, ⟨rfl, rfl, rfl, rfl, rfl, rfl, rfl⟩, rfl, rfl, rfl⟩)
    (by
      rintro c' h_c' h_not
      refine .inl ⟨fun h_key => h_not ?_, rfl⟩
      obtain rfl := Table.eq_of_key h_c' h_c (h_key.trans h_id.symm)
      exact ⟨h_id, h_cycle, h_active⟩)
  have h_item : ∃ c ∈ s.schedules, c.id = item.scheduleId ∧ c.state = .active ∧
      c.cycle = item.cycle ∧ c.nextFireAtMs ≤ nowMs := ⟨c, h_c, h_id, h_active, h_cycle, h_due⟩
  split at h
  · rename_i h_live
    obtain ⟨f, fs, rfl, h_fs, h_schedule, h_number, h_outcome, h_none⟩ := insertFiring_run h
    exact ⟨h_item, h_cs, rfl, f, h_schedule, h_number, h_fs,
      .skip h_live ⟨h_outcome, h_none⟩ rfl rfl⟩
  rename_i h_live
  split at h
  · rename_i h_path
    obtain ⟨fired, s₂, h_fire, h⟩ := run_bind_ok.mp h
    obtain ⟨f, fs, rfl, h_fs, h_schedule, h_number, h_outcome, h_none⟩ :=
      insertFiring_run h_fire
    split at h
    · rename_i h_previous
      obtain ⟨_, s₃, h_notice, h⟩ := run_bind_ok.mp h
      cases h
      obtain ⟨ns, rfl, h_ns⟩ := run_appendRow_adds h_notice
      exact ⟨h_item, h_cs, rfl, f, h_schedule, h_number, h_fs,
        .unavailable h_live h_path ⟨h_outcome, h_none⟩ rfl (.inr ⟨h_previous, _, h_ns⟩)⟩
    · rename_i h_previous
      cases h
      exact ⟨h_item, h_cs, rfl, f, h_schedule, h_number, h_fs,
        .unavailable h_live h_path ⟨h_outcome, h_none⟩ rfl (.inl ⟨not_not.mp h_previous, rfl⟩)⟩
  · rename_i h_path
    obtain ⟨messageId, s₂, h_message, h⟩ := run_bind_ok.mp h
    obtain ⟨_, s₃, h_queue, h⟩ := run_bind_ok.mp h
    obtain ⟨p, rfl, -, h_posts⟩ := posts_sink h_message h_queue (by decide)
      fun h_kind => absurd h_kind (by decide)
    have h_up : s.firingPath item.recipient ≠ .unavailable := by
      intro h_down
      cases h_path.symm.trans h_down
    exact materialize_fires h_item h_cs h_live h_up
      (SameDesk.stepwise.trans (Keeps.keeps h_message) (Keeps.keeps h_queue)) h_posts h
  · rename_i inc h_path
    obtain ⟨messageId, s₂, h_message, h⟩ := run_bind_ok.mp h
    obtain ⟨_, s₃, h_prompt, h⟩ := run_bind_ok.mp h
    obtain ⟨p, rfl, -, h_posts⟩ := posts_prompt h_message h_prompt rfl (.inr rfl)
      fun h_kind => absurd h_kind (by decide)
    have h_up : s.firingPath item.recipient ≠ .unavailable := by
      intro h_down
      cases h_path.symm.trans h_down
    exact materialize_fires h_item h_cs h_live h_up
      (SameDesk.stepwise.trans (Keeps.keeps h_message) (Keeps.keeps h_prompt)) h_posts h

theorem Fires.turn {item : DueTellSchedule} {nowMs : Millis} (h : Fires item nowMs s s') :
    Turn s.book (.fireTellSchedule item nowMs) s'.book := by
  obtain ⟨f, h_schedule, h_cycle, h_fs, -⟩ := h.firing
  obtain ⟨c, h_c⟩ := h.due
  have h_book : s'.book =
      { s.book with schedules := s'.schedules, firings := s'.scheduleFirings } := by
    change Book.mk s'.schedules s'.renews s'.scheduleFirings = _
    rw [h.renews]
    rfl
  rw [h_book]
  exact .fire h_c ⟨h_schedule, h_cycle⟩ h.schedules h_fs

-- ============================================================================
-- Every call
-- ============================================================================

/-- Every call accounts for the book that it leaves. -/
theorem Call.turn (c : Call) (h : c.Step s s') : Turn s.book c s'.book := by
  cases c with
  | createRenew now intent =>
    obtain ⟨_, h_run⟩ := commit_ok.mp h
    exact createRenew_turn h_run
  | accrueRenewOccupancy id accumulating nowMs =>
    obtain ⟨_, h_run⟩ := commit_ok.mp h
    exact accrueRenewOccupancy_turn (fun _ h_c => h_c) h_run
  | markRenewPreparing id ask deadline =>
    obtain ⟨_, h_run⟩ := commit_ok.mp h
    exact markRenewPreparing_turn h_run
  | markRenewReady now id =>
    obtain ⟨_, h_run⟩ := commit_ok.mp h
    exact markRenewReady_turn (fun _ h_c => h_c) h_run
  | markRenewClearing id session deadline notBefore =>
    obtain ⟨_, h_run⟩ := commit_ok.mp h
    exact markRenewClearing_turn (fun _ h_c => h_c) h_run
  | claimRenewClearStallNotice id nowMs =>
    obtain ⟨_, h_run⟩ := commit_ok.mp h
    exact claimRenewClearStallNotice_turn (fun _ h_c => h_c) h_run
  | markRenewInjected id =>
    obtain ⟨_, h_run⟩ := commit_ok.mp h
    exact markRenewInjected_turn (fun _ h_c => h_c) h_run
  | markRenewTimedOut id =>
    obtain ⟨_, h_run⟩ := commit_ok.mp h
    exact markRenewTimedOut_turn (fun _ h_c => h_c) h_run
  | completeRenew now id =>
    obtain ⟨_, h_run⟩ := commit_ok.mp h
    exact completeRenew_turn h_run
  | abortRenew now id reason =>
    obtain ⟨_, h_run⟩ := commit_ok.mp h
    exact abortRenew_turn h_run
  | abandonRenewProof now id reason =>
    obtain ⟨_, h_run⟩ := commit_ok.mp h
    exact abandonRenewProof_turn h_run
  | terminateRenew now id reason =>
    obtain ⟨_, h_run⟩ := commit_ok.mp h
    exact terminateRenew_turn h_run fun r h_key => h_key.symm
  | terminateRenewAnnounced now id reason notice =>
    obtain ⟨_, h_run⟩ := commit_ok.mp h
    exact terminateRenewAnnounced_turn h_run
  | cancelRenew now id requester reason notice =>
    obtain ⟨_, h_run⟩ := commit_ok.mp h
    exact cancelRenew_turn h_run
  | createTellSchedule now sender recipient body interval first key =>
    obtain ⟨_, h_run⟩ := commit_ok.mp h
    exact createTellSchedule_turn h_run
  | fireTellSchedule item nowMs =>
    obtain ⟨_, h_run⟩ := commit_ok.mp h
    exact (fireTellSchedule_run h_run).turn
  | cancelSchedule now id requester reason =>
    obtain ⟨_, h_run⟩ := commit_ok.mp h
    exact cancelSchedule_turn h_run
  | _ => exact .of_same (fun _ h_c => h_c) (Keeps.commit h)

end Kelpie
