/-
  Kelpie.Schedules.Reading

  The store with the daemon that reads its due tell schedules.  An item may be
  fired at any time after it was read, any number of times, whatever happened to
  its schedule in between.
-/

import Kelpie.Schedules.Firing

namespace Kelpie

open Lib Lib.Tx Book

variable {s s' : Store} {b b' : Book} {c : Call}

-- ============================================================================
-- Readers
-- ============================================================================

/-- A store with the due items that have been read from it. -/
structure Reader where
  store : Store := .empty
  due : List DueTellSchedule := []

/-- A transaction of the store, or a read of the schedules that are due. -/
inductive ReaderEvent where
  | call (c : Call)
  | read (nowMs : Millis)

/-- A call of the store, or a reading of what is due. -/
def ReaderEvent.next (e : ReaderEvent) (r : Reader) : Option Reader :=
  match e with
  | .call c => (c.commit r.store).toOption.map fun s => { r with store := s }
  | .read nowMs => some { r with due := r.due ++ r.store.dueTellSchedules nowMs }

/-- Only an item that was read is fired, and the calls meet `ok`. -/
def ReaderEvent.Proper (ok : Call → Store → Prop) (e : ReaderEvent) (r : Reader) : Prop :=
  match e with
  | .call c => ok c r.store ∧ match c with
    | .fireTellSchedule item _ => item ∈ r.due
    | _ => True
  | .read _ => True

instance {ok : Call → Store → Prop} [∀ c s, Decidable (ok c s)] (e : ReaderEvent) (r : Reader) :
    Decidable (e.Proper ok r) := by
  cases e with
  | call c =>
    apply Call.casesOn (motive := fun c => Decidable (ReaderEvent.Proper ok (.call c) r)) c <;>
      intros <;>
      dsimp only [ReaderEvent.Proper] <;>
      infer_instance
  | read nowMs => exact instDecidableTrue

/-- The runs of a store with its reader, whose calls meet `ok`. -/
abbrev ReaderRun (ok : Call → Store → Prop) : Reader → Reader → Prop :=
  Run (StepOf ReaderEvent.next) (ReaderEvent.Proper ok)

theorem ReaderEvent.call_step {r r' : Reader} (h : StepOf ReaderEvent.next (.call c) r r') :
    c.Step r.store r'.store ∧ r'.due = r.due := by
  obtain ⟨s, h_commit, rfl⟩ := Option.map_eq_some_iff.mp h
  refine ⟨?_, rfl⟩
  unfold Call.Step
  cases h_run : c.commit r.store with
  | error e => simp [h_run, Except.toOption] at h_commit
  | ok t =>
    rw [h_run] at h_commit
    rw [Option.some.inj h_commit]

theorem ReaderEvent.read_step {nowMs : Millis} {r r' : Reader}
    (h : StepOf ReaderEvent.next (.read nowMs) r r') :
    r' = { r with due := r.due ++ r.store.dueTellSchedules nowMs } :=
  (Option.some.inj h).symm

-- ============================================================================
-- Items of a schedule
-- ============================================================================

/-- The item was read from the tell schedule at some time. -/
structure DueTellSchedule.Of (item : DueTellSchedule) (c : ScheduleRow) : Prop where
  key : c.id = item.scheduleId
  kind : c.kind = .tell
  sender : c.requesterAgentId = item.sender
  recipient : c.logicalAgentId = item.recipient
  body : c.body.getD "" = item.body
  interval : c.intervalMs = item.intervalMs

theorem DueTellSchedule.Of.samePlan {item : DueTellSchedule} {c c' : ScheduleRow}
    (h : item.Of c) (h_same : c.SamePlan c') : item.Of c' where
  key := h_same.key.trans h.key
  kind := h_same.kind.trans h.kind
  sender := h_same.requester.trans h.sender
  recipient := h_same.agent.trans h.recipient
  body := h_same.body ▸ h.body
  interval := h_same.interval.trans h.interval

/-- What is read as due is read from an active tell schedule. -/
theorem dueTellSchedules_of {nowMs : Millis} {item : DueTellSchedule}
    (h : item ∈ s.dueTellSchedules nowMs) : ∃ c ∈ s.schedules, item.Of c := by
  simp only [Store.dueTellSchedules, List.mem_map, List.mem_insertionSort, List.mem_filter,
    decide_eq_true_eq] at h
  obtain ⟨c, ⟨h_c, h_kind, -⟩, rfl⟩ := h
  exact ⟨c, h_c, rfl, h_kind, rfl, rfl, rfl, rfl⟩

/-- The call fires nothing but a tell schedule, with what was read from it. -/
def Call.FiresTell (c : Call) (s : Store) : Prop :=
  match c with
  | .fireTellSchedule item _ => ∃ c ∈ s.schedules, item.Of c
  | _ => True

-- ============================================================================
-- Schedules stay
-- ============================================================================

/-- A turn keeps every schedule, with its plan. -/
theorem Book.Turn.plans (h : Turn b c b') :
    ∀ p ∈ b.schedules, ∃ p' ∈ b'.schedules, p.SamePlan p' := by
  have h_edits {e : ScheduleRow → ScheduleRow → Prop} {cs : Table ScheduleRow.id}
      (h_cs : b.schedules.Edits e cs) (h_e : ∀ p p', e p p' → p.SamePlan p') :
      ∀ p ∈ b.schedules, ∃ p' ∈ cs, p.SamePlan p' := by
    intro p h_p
    obtain ⟨p', h_p', h_pp⟩ := h_cs.image p h_p
    exact ⟨p', h_p', h_e p p' h_pp⟩
  have h_adds {new : Option ScheduleRow} {cs : Table ScheduleRow.id}
      (h_cs : b.schedules.Adds new cs) : ∀ p ∈ b.schedules, ∃ p' ∈ cs, p.SamePlan p' :=
    fun p h_p => ⟨p, (h_cs.mem p).mpr (.inl h_p), .rfl⟩
  cases h with
  | same | link | close => exact fun p h_p => ⟨p, h_p, .rfl⟩
  | move _ h_cs _ => exact h_edits h_cs fun _ _ h_e => h_e.toSamePlan
  | arm _ _ _ _ h_cs _ => exact h_adds h_cs
  | next _ _ h_next =>
    obtain ⟨-, -, -, -, -, h_cs, -, -⟩ := h_next
    exact h_edits h_cs fun _ _ h_e => h_e.same
  | stop _ _ _ h_cs => exact h_edits h_cs fun _ _ h_e => h_e.same
  | compose _ h_cs => exact h_adds h_cs
  | fire _ _ h_cs _ => exact h_edits h_cs fun _ _ h_e => h_e.same
  | cancel h_cs => exact h_edits h_cs fun _ _ h_e => h_e.same

-- ============================================================================
-- Runs of a reader
-- ============================================================================

/-- What has been read stays true of its schedule. -/
def Reader.Faithful (r : Reader) : Prop :=
  ∀ item ∈ r.due, ∃ c ∈ r.store.schedules, item.Of c

theorem ReaderRun.faithful {ok : Call → Store → Prop} {r r' : Reader}
    (h : ReaderRun ok r r') (h_r : r.Faithful) : r'.Faithful := by
  refine h.invariant h_r ?_
  rintro (c | nowMs) r r' h_r - h_step item h_item
  · obtain ⟨h_call, h_due⟩ := ReaderEvent.call_step h_step
    rw [h_due] at h_item
    obtain ⟨p, h_p, h_of⟩ := h_r item h_item
    obtain ⟨p', h_p', h_same⟩ := (c.turn h_call).plans p h_p
    exact ⟨p', h_p', h_of.samePlan h_same⟩
  · obtain rfl := ReaderEvent.read_step h_step
    rcases List.mem_append.mp h_item with h_item | h_item
    · exact h_r item h_item
    · exact dueTellSchedules_of h_item

/-- What a faithful reader fires comes from a tell schedule. -/
theorem ReaderEvent.Proper.firesTell {ok : Call → Store → Prop} {r : Reader}
    (h : (ReaderEvent.call c).Proper ok r) (h_r : r.Faithful) : c.FiresTell r.store := by
  unfold Call.FiresTell
  split
  · exact h_r _ h.2
  · trivial

/-- The store of a reader runs as a store whose calls fire nothing but tell schedules. -/
theorem ReaderRun.storeRun {ok : Call → Store → Prop} {r r' : Reader}
    (h : ReaderRun ok r r') (h_r : r.Faithful) :
    StoreRun (fun c s => c.FiresTell s ∧ ok c s) r.store r'.store := by
  induction h with
  | refl => exact .refl
  | @tail r₁ r₂ e h_run h_ok h_step ih =>
    cases e with
    | call c =>
      have h_tell := h_ok.firesTell (ReaderRun.faithful h_run h_r)
      exact .tail c ih ⟨h_tell, h_ok.1⟩ (ReaderEvent.call_step h_step).1
    | read nowMs =>
      obtain rfl := ReaderEvent.read_step h_step
      exact ih

/-- The store of a reader is reachable by calls that fire nothing but tell schedules. -/
theorem ReaderRun.reachable {ok : Call → Store → Prop} {r : Reader} (h : ReaderRun ok {} r) :
    Reachable (fun c s => c.FiresTell s ∧ ok c s) r.store :=
  ReaderRun.storeRun h fun _ h_item => absurd h_item List.not_mem_nil

end Kelpie
