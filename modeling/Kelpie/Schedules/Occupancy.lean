/-
  Kelpie.Schedules.Occupancy

  The active time of an interval cycle: what a run of occupancy samples takes off
  its remaining time, and when it falls due.
-/

import Mathlib.Algebra.Group.Int.Defs
import Mathlib.Algebra.Group.Basic
import Kelpie.Store.Calls

namespace Kelpie

open Lib Lib.Tx

/-- One sample: whether the time since the last one counts, and when it was taken. -/
structure OccupancySample where
  accumulating : Bool
  nowMs : Millis
deriving DecidableEq, Repr

/-- The samples are taken one after the other. -/
def accrueSamples (renewId : RenewId) : List OccupancySample → StoreTx Unit
  | [] => pure ()
  | x :: xs => do
    accrueRenewOccupancy renewId x.accumulating x.nowMs
    accrueSamples renewId xs

-- ============================================================================
-- What the samples credit
-- ============================================================================

/-- The credit of a sample that follows one taken at `last`. -/
def OccupancySample.credit (last : Option Millis) (x : OccupancySample) : Millis :=
  match x.accumulating, last with
  | true, some sampledAt => min (x.nowMs - sampledAt) renewOccupancyMaxCreditMs
  | _, _ => 0

/-- What the samples are credited, one after the other. -/
def totalCredit : Option Millis → List OccupancySample → Millis
  | _, [] => 0
  | last, x :: xs => x.credit last + totalCredit (some x.nowMs) xs

/-- The time of the last sample. -/
def lastSampledAt : Option Millis → List OccupancySample → Option Millis
  | last, [] => last
  | _, x :: xs => lastSampledAt (some x.nowMs) xs

/-- The samples are taken at nondecreasing times, from `last` on. -/
def SampledInOrder : Option Millis → List OccupancySample → Prop
  | _, [] => True
  | last, x :: xs => (∀ sampledAt ∈ last, sampledAt ≤ x.nowMs) ∧ SampledInOrder (some x.nowMs) xs

/-- The clock time between the first reading and the last. -/
def elapsedMs (last : Option Millis) (samples : List OccupancySample) : Millis :=
  match last <|> samples.head?.map (·.nowMs), lastSampledAt last samples with
  | some first, some final => final - first
  | _, _ => 0

variable {last : Option Millis} {x : OccupancySample} {samples : List OccupancySample}

theorem OccupancySample.credit_nonneg (h : ∀ sampledAt ∈ last, sampledAt ≤ x.nowMs) :
    0 ≤ x.credit last := by
  unfold credit
  split
  · have h_le := h _ rfl
    rw [Int.le_min]
    exact ⟨Int.sub_nonneg_of_le h_le, by decide⟩
  · exact Int.le_refl 0

theorem OccupancySample.credit_idle (h : x.accumulating = false) : x.credit last = 0 := by
  unfold credit
  rw [h]

theorem totalCredit_nonneg (h : SampledInOrder last samples) : 0 ≤ totalCredit last samples := by
  induction samples generalizing last with
  | nil => exact Int.le_refl 0
  | cons x xs ih => exact Int.add_nonneg (OccupancySample.credit_nonneg h.1) (ih h.2)

/-- From a sample on, the credit is at most the time that has passed since. -/
theorem totalCredit_le_since {sampledAt : Millis}
    (h : SampledInOrder (some sampledAt) samples) :
    ∃ final, lastSampledAt (some sampledAt) samples = some final ∧
      totalCredit (some sampledAt) samples ≤ final - sampledAt := by
  induction samples generalizing sampledAt with
  | nil =>
    refine ⟨sampledAt, rfl, ?_⟩
    rw [totalCredit, Int.sub_self]
  | cons x xs ih =>
    obtain ⟨final, h_final, h_le⟩ := ih h.2
    have h_order : sampledAt ≤ x.nowMs := h.1 sampledAt rfl
    have h_credit : x.credit (some sampledAt) ≤ x.nowMs - sampledAt := by
      unfold OccupancySample.credit
      split
      · rename_i h_some
        cases h_some
        exact Int.min_le_left _ _
      · exact Int.sub_nonneg_of_le h_order
    refine ⟨final, h_final, ?_⟩
    calc x.credit (some sampledAt) + totalCredit (some x.nowMs) xs
        ≤ (x.nowMs - sampledAt) + (final - x.nowMs) := Int.add_le_add h_credit h_le
      _ = final - sampledAt := by rw [Int.add_comm]; exact sub_add_sub_cancel _ _ _

/-- No more is credited than has passed on the clock. -/
theorem totalCredit_le_elapsed (h : SampledInOrder last samples) :
    totalCredit last samples ≤ elapsedMs last samples := by
  cases last with
  | some sampledAt =>
    obtain ⟨final, h_final, h_le⟩ := totalCredit_le_since h
    unfold elapsedMs
    rw [h_final]
    exact h_le
  | none =>
    cases samples with
    | nil => exact Int.le_refl 0
    | cons x xs =>
      obtain ⟨final, h_final, h_le⟩ := totalCredit_le_since h.2
      have h_first : x.credit none = 0 := by
        unfold OccupancySample.credit
        cases x.accumulating <;> rfl
      have h_elapsed : elapsedMs none (x :: xs) = final - x.nowMs := by
        unfold elapsedMs
        rw [lastSampledAt, h_final]
        rfl
      rw [h_elapsed, totalCredit, h_first, Int.zero_add]
      exact h_le

-- ============================================================================
-- One sample
-- ============================================================================

/-- A scheduled interval cycle with its schedule. -/
structure Store.IntervalCycle (s : Store) (r : RenewRow) (c : ScheduleRow) (remaining : Millis) :
    Prop where
  renew : r ∈ s.renews
  schedule : c ∈ s.schedules
  link : r.scheduleId = some c.id
  scheduled : r.phase = .scheduled
  interval : r.everyMs.isSome
  kind : c.kind = .renew
  active : c.state = .active
  remains : c.activeRemainingMs = some remaining
  nonneg : 0 ≤ remaining

/-- The renew and its schedule say the same of the remaining time and of the due time. -/
structure OccupancyAgrees (r : RenewRow) (c : ScheduleRow) : Prop where
  remaining : r.activeRemainingMs = c.activeRemainingMs
  sampled : r.occupancySampledAtMs = c.occupancySampledAtMs
  due : r.scheduledAtMs = c.nextFireAtMs

/-- The cycle falls due once the remaining time has passed since the last sample.  The due
    time is the integer that its readers take it for: a REAL is past `i64Max`. -/
def ScheduleRow.DueProjected (c : ScheduleRow) : Prop :=
  ∀ nowMs ∈ c.occupancySampledAtMs, ∀ left ∈ c.activeRemainingMs,
    c.nextFireAtMs = nowMs + left ∧ c.nextFireAtMs ≤ i64Max

/-- At every sample, its time and what is then left of the cycle have a sum that the store
    can hold. -/
def DueFits : Option Millis → Millis → List OccupancySample → Prop
  | _, _, [] => True
  | last, left, x :: xs =>
    x.nowMs + max 0 (left - x.credit last) ≤ i64Max ∧
      DueFits (some x.nowMs) (max 0 (left - x.credit last)) xs

variable {s : Store} {r : RenewRow} {c : ScheduleRow} {remaining : Millis}

theorem ScheduleRow.occupancyCredit_eq (h : ∀ sampledAt ∈ c.occupancySampledAtMs,
    sampledAt ≤ x.nowMs) :
    c.occupancyCredit x.accumulating x.nowMs = x.credit c.occupancySampledAtMs := by
  unfold occupancyCredit OccupancySample.credit
  cases x.accumulating with
  | false => rfl
  | true =>
    cases h_sampled : c.occupancySampledAtMs with
    | none => rfl
    | some sampledAt =>
      have h_le : sampledAt ≤ x.nowMs := h sampledAt h_sampled
      dsimp only
      rw [Int.max_eq_right (Int.sub_nonneg_of_le h_le)]

/-- The schedule after a sample. -/
def ScheduleRow.sampled (c : ScheduleRow) (x : OccupancySample) (remaining : Millis) :
    ScheduleRow :=
  { c with
    activeRemainingMs := some remaining, occupancySampledAtMs := some x.nowMs,
    nextFireAtMs := sqlAdd x.nowMs remaining }

/-- The renew after a sample. -/
def RenewRow.sampled (r : RenewRow) (x : OccupancySample) (remaining : Millis) : RenewRow :=
  { r with
    activeRemainingMs := some remaining, occupancySampledAtMs := some x.nowMs,
    scheduledAtMs := sqlAdd x.nowMs remaining }

/-- `SELECT schedule_id FROM renews WHERE id = ?3 AND phase = 'scheduled'`. -/
def Store.sampledSchedule (s : Store) (renewId : RenewId) : Option ScheduleId :=
  ((s.renews.find renewId).filter (·.phase = .scheduled)).bind (·.scheduleId)

/-- The schedule that a sample is taken of. -/
abbrev ScheduleRow.Samples (scheduleId : Option ScheduleId) (c : ScheduleRow) : Prop :=
  some c.id = scheduleId ∧ c.kind = .renew ∧ c.state = .active ∧ c.activeRemainingMs.isSome

section Cycle

variable (h : s.IntervalCycle r c remaining)

include h

theorem Store.IntervalCycle.scheduleId : s.sampledSchedule r.id = some c.id := by
  unfold Store.sampledSchedule
  have h_find : s.renews.find r.id = some r := Table.find_eq_some.mpr ⟨h.renew, rfl⟩
  rw [h_find, Option.filter_some, if_pos (decide_eq_true h.scheduled)]
  exact h.link

/-- The schedule is the one that the sample looks for. -/
theorem Store.IntervalCycle.found : c.Samples (s.sampledSchedule r.id) :=
  ⟨h.scheduleId.symm, h.kind, h.active, by rw [h.remains]; rfl⟩

theorem accrueRenewOccupancy_commits (accumulating : Bool) (nowMs : Millis) :
    (accrueRenewOccupancy r.id accumulating nowMs).Commits s := by
  refine commits_bind_reads.mpr (Commits.bind ⟨_, _, rfl⟩ fun changed s₁ h_update => ?_)
  cases h_update
  have h_one : s.schedules.count (ScheduleRow.Samples (s.sampledSchedule r.id)) = 1 :=
    Table.count_of_key h.schedule h.found fun c' h_c' =>
      Option.some.inj (h_c'.1.trans h.scheduleId)
  exact commits_bind_require.mpr ⟨h_one, commits_bind_reads.mpr ⟨(), _, rfl⟩⟩

/-- A sample of an interval cycle takes its credit off. -/
theorem accrueRenewOccupancy_cycle {s' : Store}
    (h_order : ∀ sampledAt ∈ c.occupancySampledAtMs, sampledAt ≤ x.nowMs)
    (h_run : (accrueRenewOccupancy r.id x.accumulating x.nowMs).run s = .ok ((), s')) :
    r.sampled x (max 0 (remaining - x.credit c.occupancySampledAtMs)) ∈ s'.renews ∧
      c.sampled x (max 0 (remaining - x.credit c.occupancySampledAtMs)) ∈ s'.schedules := by
  have h_left : max 0 (c.activeRemainingMs.getD 0 - c.occupancyCredit x.accumulating x.nowMs) =
      max 0 (remaining - x.credit c.occupancySampledAtMs) := by
    rw [h.remains, ScheduleRow.occupancyCredit_eq h_order, Option.getD_some]
  unfold accrueRenewOccupancy at h_run
  rw [run_bind_reads] at h_run
  obtain ⟨changed, s₁, h_update, h_run⟩ := run_bind_ok.mp h_run
  obtain ⟨t, rfl, h_edits⟩ := run_updateRows_edits
    (fun c c' : ScheduleRow => c.Samples (s.sampledSchedule r.id) → c' = c.sampled x
      (max 0 (c.activeRemainingMs.getD 0 - c.occupancyCredit x.accumulating x.nowMs)))
    h_update (fun _ _ _ _ => rfl) fun _ _ h_not h_c => absurd h_c h_not
  obtain ⟨c', h_c, h_image⟩ := h_edits.image c h.schedule
  rw [h_image h.found, h_left] at h_c
  have h_schedule : (s.sampledSchedule r.id).bind t.find =
      some (c.sampled x (max 0 (remaining - x.credit c.occupancySampledAtMs))) := by
    rw [h.scheduleId]
    exact Table.find_eq_some.mpr ⟨h_c, rfl⟩
  obtain ⟨-, h_run⟩ := run_bind_require_ok.mp h_run
  rw [run_bind_reads] at h_run
  obtain ⟨_, s₂, h_update₂, h_run⟩ := run_bind_ok.mp h_run
  cases h_run
  have h_copied (r₀ : RenewRow) :
      { r₀ with
        activeRemainingMs := ((s.sampledSchedule r.id).bind t.find).bind (·.activeRemainingMs),
        occupancySampledAtMs := some x.nowMs,
        scheduledAtMs := (((s.sampledSchedule r.id).bind t.find).map (·.nextFireAtMs)).getD
          r₀.scheduledAtMs } =
      r₀.sampled x (max 0 (remaining - x.credit c.occupancySampledAtMs)) := by
    rw [h_schedule]
    rfl
  obtain ⟨u, rfl, h_edits⟩ := run_updateRows_edits
    (fun r₀ r' : RenewRow => r₀.id = r.id ∧ r₀.phase = .scheduled ∧ r₀.everyMs.isSome →
      r' = r₀.sampled x (max 0 (remaining - x.credit c.occupancySampledAtMs)))
    h_update₂ (fun r₀ _ _ _ => h_copied r₀) fun _ _ h_not h_r => absurd h_r h_not
  obtain ⟨r', h_r', h_image⟩ := h_edits.image r h.renew
  rw [h_image ⟨rfl, h.scheduled, h.interval⟩] at h_r'
  exact ⟨h_r', h_c⟩

end Cycle

-- ============================================================================
-- Runs of samples
-- ============================================================================

/-- The cycle goes on with what is left of its time. -/
theorem Store.IntervalCycle.sampled {s' : Store} (h : s.IntervalCycle r c remaining)
    {left : Millis} (h_left : 0 ≤ left) (h_r : r.sampled x left ∈ s'.renews)
    (h_c : c.sampled x left ∈ s'.schedules) :
    s'.IntervalCycle (r.sampled x left) (c.sampled x left) left where
  renew := h_r
  schedule := h_c
  link := h.link
  scheduled := h.scheduled
  interval := h.interval
  kind := h.kind
  active := h.active
  remains := rfl
  nonneg := h_left

/-- After a sample the due time is the sum of both exactly when that is an integer. -/
theorem ScheduleRow.sampled_projected {left : Millis} :
    (c.sampled x left).DueProjected ↔ x.nowMs + left ≤ i64Max := by
  constructor
  · intro h
    obtain ⟨h_due, h_le⟩ := h x.nowMs rfl left rfl
    exact h_due ▸ h_le
  · rintro h _ ⟨⟩ _ ⟨⟩
    have h_due : (c.sampled x left).nextFireAtMs = x.nowMs + left := sqlAdd_of_le h
    exact ⟨h_due, h_due ▸ h⟩

theorem max_sub_sub (a b : Int) {d : Int} (h : 0 ≤ d) :
    max 0 (max 0 (a - b) - d) = max 0 (a - (b + d)) := by
  omega

/-- The cycle after a run of samples. -/
theorem accrueSamples_cycle (h : s.IntervalCycle r c remaining)
    (h_order : SampledInOrder c.occupancySampledAtMs samples) :
    ∃ s' r' c', (accrueSamples r.id samples).run s = .ok ((), s') ∧ r'.id = r.id ∧ c'.id = c.id ∧
      c'.occupancySampledAtMs = lastSampledAt c.occupancySampledAtMs samples ∧
      s'.IntervalCycle r' c' (max 0 (remaining - totalCredit c.occupancySampledAtMs samples)) ∧
      (OccupancyAgrees r c ∨ samples ≠ [] → OccupancyAgrees r' c') := by
  induction samples generalizing s r c remaining with
  | nil =>
    have h_rest : max 0 (remaining - totalCredit c.occupancySampledAtMs []) = remaining := by
      rw [totalCredit, Int.sub_zero, Int.max_eq_right h.nonneg]
    rw [h_rest]
    exact ⟨s, r, c, rfl, rfl, rfl, rfl, h, fun h_or => h_or.resolve_right fun h_ne => h_ne rfl⟩
  | cons x xs ih =>
    obtain ⟨_, s₁, h_run⟩ := accrueRenewOccupancy_commits h x.accumulating x.nowMs
    obtain ⟨h_r, h_c⟩ := accrueRenewOccupancy_cycle h h_order.1 h_run
    have h₁ := h.sampled (Int.le_max_left 0 _) h_r h_c
    obtain ⟨s', r', c', h_run', h_id, h_c_id, h_last, h', h_agrees⟩ := ih h₁ h_order.2
    have h_left : max 0 (max 0 (remaining - x.credit c.occupancySampledAtMs) -
        totalCredit (some x.nowMs) xs) =
        max 0 (remaining - totalCredit c.occupancySampledAtMs (x :: xs)) :=
      max_sub_sub _ _ (totalCredit_nonneg h_order.2)
    have h' : s'.IntervalCycle r' c' (max 0 (max 0 (remaining - x.credit c.occupancySampledAtMs) -
      totalCredit (some x.nowMs) xs)) := h'
    rw [h_left] at h'
    exact ⟨s', r', c', run_bind_ok.mpr ⟨(), s₁, h_run, h_run'⟩, h_id, h_c_id, h_last, h',
      fun _ => h_agrees (.inl ⟨rfl, rfl, rfl⟩)⟩

/-- The cycle is due at the sum of the time of the sample and the remaining time. -/
def Store.DueProjected (s : Store) (id : ScheduleId) : Prop :=
  ∀ c ∈ s.schedules, c.id = id → c.DueProjected

/-- After every sample of a run the cycle is due when the remaining time has passed exactly
    when that time fits. -/
theorem accrueSamples_projected (h : s.IntervalCycle r c remaining)
    (h_order : SampledInOrder c.occupancySampledAtMs samples) :
    (∀ taken s', taken <+: samples → taken ≠ [] →
        (accrueSamples r.id taken).run s = .ok ((), s') → s'.DueProjected c.id) ↔
      DueFits c.occupancySampledAtMs remaining samples := by
  induction samples generalizing s r c remaining with
  | nil =>
    exact iff_of_true (fun _ _ h_taken h_ne _ => absurd (List.prefix_nil.mp h_taken) h_ne)
      trivial
  | cons x xs ih =>
    obtain ⟨_, s₁, h_run⟩ := accrueRenewOccupancy_commits h x.accumulating x.nowMs
    obtain ⟨h_r, h_c⟩ := accrueRenewOccupancy_cycle h h_order.1 h_run
    have h₁ := h.sampled (Int.le_max_left 0 _) h_r h_c
    have h_first : s₁.DueProjected c.id ↔
        x.nowMs + max 0 (remaining - x.credit c.occupancySampledAtMs) ≤ i64Max := by
      rw [← ScheduleRow.sampled_projected (c := c)]
      refine ⟨fun h_due => h_due _ h_c rfl, fun h_due c₁ h_c₁ h_id => ?_⟩
      obtain rfl := Table.eq_of_key h_c₁ h_c h_id
      exact h_due
    have h_later : (∀ taken s', taken <+: xs → taken ≠ [] →
          (accrueSamples r.id taken).run s₁ = .ok ((), s') → s'.DueProjected c.id) ↔
        DueFits (some x.nowMs) (max 0 (remaining - x.credit c.occupancySampledAtMs)) xs :=
      ih h₁ h_order.2
    rw [DueFits, ← h_first, ← h_later]
    constructor
    · intro h_all
      refine ⟨h_all [x] s₁ ?_ (List.cons_ne_nil _ _) (run_bind_ok.mpr ⟨(), s₁, h_run, rfl⟩),
        fun taken s' h_taken _ h_run' => ?_⟩
      · exact (List.prefix_cons_inj x).mpr List.nil_prefix
      · exact h_all (x :: taken) s' ((List.prefix_cons_inj x).mpr h_taken)
          (List.cons_ne_nil _ _) (run_bind_ok.mpr ⟨(), s₁, h_run, h_run'⟩)
    · rintro ⟨h_one, h_more⟩ taken s' h_taken h_ne h_run'
      obtain ⟨taken, rfl, h_rest⟩ := (List.prefix_cons_iff.mp h_taken).resolve_left h_ne
      obtain ⟨_, s₂, h_run₂, h_run'⟩ := run_bind_ok.mp h_run'
      cases h_run.symm.trans h_run₂
      -- The first sample is the last one taken, or another follows it.
      rcases eq_or_ne taken [] with rfl | h_more_taken
      · cases h_run'
        exact h_one
      · exact h_more taken s' h_rest h_more_taken h_run'

/-- What a run of samples leaves of the cycle. -/
structure OccupancyExact (s' : Store) (r : RenewRow) (c : ScheduleRow) (remaining : Millis)
    (samples : List OccupancySample) : Prop where
  /-- The credit of the samples is taken off, down to zero; the renew and its schedule
      agree. -/
  cycle : ∃ r' c', r'.id = r.id ∧ c'.id = c.id ∧
    c'.occupancySampledAtMs = lastSampledAt c.occupancySampledAtMs samples ∧
    s'.IntervalCycle r' c' (max 0 (remaining - totalCredit c.occupancySampledAtMs samples)) ∧
    (OccupancyAgrees r c ∨ samples ≠ [] → OccupancyAgrees r' c')
  /-- The credit is at most the time that has passed. -/
  bounded : 0 ≤ totalCredit c.occupancySampledAtMs samples ∧
    totalCredit c.occupancySampledAtMs samples ≤ elapsedMs c.occupancySampledAtMs samples
  /-- A further sample that does not count takes nothing off. -/
  idle : ∀ nowMs s'',
    (∀ sampledAt ∈ lastSampledAt c.occupancySampledAtMs samples, sampledAt ≤ nowMs) →
    (accrueRenewOccupancy r.id false nowMs).run s' = .ok ((), s'') →
    ∃ c'' ∈ s''.schedules, c''.id = c.id ∧ c''.activeRemainingMs =
      some (max 0 (remaining - totalCredit c.occupancySampledAtMs samples))

/-- Occupancy accounting is exact and bounded, whatever the samples.  The due time that it
    projects is the time of the sample and what is left of the cycle, after every sample,
    exactly when these sums fit: SQLite adds them without a bound, where the arming of a
    cycle saturates. -/
theorem accrueSamples_exact (h : s.IntervalCycle r c remaining)
    (h_order : SampledInOrder c.occupancySampledAtMs samples) :
    (∃ s', (accrueSamples r.id samples).run s = .ok ((), s') ∧
      OccupancyExact s' r c remaining samples) ∧
    ((∀ taken s', taken <+: samples → taken ≠ [] →
        (accrueSamples r.id taken).run s = .ok ((), s') → s'.DueProjected c.id) ↔
      DueFits c.occupancySampledAtMs remaining samples) := by
  refine ⟨?_, accrueSamples_projected h h_order⟩
  obtain ⟨s', r', c', h_run, h_id, h_c_id, h_last, h', h_agrees⟩ := accrueSamples_cycle h h_order
  refine ⟨s', h_run, ⟨r', c', h_id, h_c_id, h_last, h', h_agrees⟩,
    ⟨totalCredit_nonneg h_order, totalCredit_le_elapsed h_order⟩, fun nowMs s'' h_now h_idle => ?_⟩
  rw [← h_id] at h_idle
  have h_order' : ∀ sampledAt ∈ c'.occupancySampledAtMs,
      sampledAt ≤ (OccupancySample.mk false nowMs).nowMs := fun t h_t => h_now t (h_last ▸ h_t)
  obtain ⟨-, h_c''⟩ := accrueRenewOccupancy_cycle h' h_order' h_idle
  refine ⟨_, h_c'', h_c_id, congrArg some ?_⟩
  rw [OccupancySample.credit_idle rfl, Int.sub_zero]
  exact Int.max_eq_right (Int.le_max_left 0 _)

/-- A policy that was just armed at 10, with this interval. -/
def armedEvery (everyMs : Millis) : List Call :=
  [adopting 1 "w1:p1" "t1" "worker" "k1",
    .createRenew 10
      { logicalAgentId := 1, incarnationId := 1, requesterAgentId := 1,
        preparePrompt := "Write a checkpoint.", resumePrompt := "Continue.",
        onTimeout := .abort, prepareTimeoutMs := 100, everyMs := some everyMs,
        scheduledAtMs := saturatingAdd 10 everyMs }]

theorem accrueSamples_exact_armedRun : ∃ s s' r c, Reachable (fun _ _ => True) s ∧
    (accrueSamples 1 [⟨true, 1010⟩, ⟨false, 5000⟩, ⟨true, 9000⟩]).run s = .ok ((), s') ∧
    OccupancyExact s' r c 3600000 [⟨true, 1010⟩, ⟨false, 5000⟩, ⟨true, 9000⟩] ∧
    s'.DueProjected c.id := by
  have h : Leads (fun _ _ => True) (fun s => ∃ r ∈ s.renews.rows, ∃ c ∈ s.schedules.rows,
      r.id = 1 ∧ r.scheduleId = some c.id ∧ r.phase = .scheduled ∧ r.everyMs.isSome ∧
      c.kind = .renew ∧ c.state = .active ∧ c.activeRemainingMs = some 3600000 ∧
      c.occupancySampledAtMs = some 10) (armedEvery 3600000) Store.empty := by decide +kernel
  obtain ⟨s, h_run, r, h_r, c, h_c, h_id, h_link, h_phase, h_every, h_kind, h_active, h_left,
    h_sampled⟩ := h.run
  have h_cycle : s.IntervalCycle r c 3600000 :=
    ⟨h_r, h_c, h_link, h_phase, h_every, h_kind, h_active, h_left, by decide⟩
  have h_order : SampledInOrder c.occupancySampledAtMs
      [⟨true, 1010⟩, ⟨false, 5000⟩, ⟨true, 9000⟩] := by
    rw [h_sampled]
    simp [SampledInOrder]
  have h_fits : DueFits c.occupancySampledAtMs 3600000
      [⟨true, 1010⟩, ⟨false, 5000⟩, ⟨true, 9000⟩] := by
    rw [h_sampled]
    simp [DueFits, OccupancySample.credit, renewOccupancyMaxCreditMs, i64Max]
  obtain ⟨⟨s', h_samples, h_exact⟩, h_due⟩ := accrueSamples_exact h_cycle h_order
  exact ⟨s, s', r, c, h_run, h_id ▸ h_samples, h_exact,
    h_due.mpr h_fits _ s' List.prefix_rfl (List.cons_ne_nil _ _) h_samples⟩

/-- The longest interval: one idle sample projects a due time that is not the sum of the
    sample's time and the remaining time. -/
theorem projected_due_overflows : ∃ s s' r c c' left, Reachable (fun _ _ => True) s ∧
    s.IntervalCycle r c left ∧ SampledInOrder c.occupancySampledAtMs [⟨false, 1010⟩] ∧
    (accrueSamples r.id [⟨false, 1010⟩]).run s = .ok ((), s') ∧
    c' ∈ s'.schedules ∧ c'.id = c.id ∧ c'.activeRemainingMs = some left ∧
    c'.nextFireAtMs ≠ 1010 + left := by
  have h : Leads (fun _ _ => True) (fun s => ∃ r ∈ s.renews.rows, ∃ c ∈ s.schedules.rows,
      r.id = 1 ∧ r.scheduleId = some c.id ∧ r.phase = .scheduled ∧ r.everyMs.isSome ∧
      c.kind = .renew ∧ c.state = .active ∧ c.activeRemainingMs = some (i64Max - 10) ∧
      c.occupancySampledAtMs = some 10) (armedEvery i64Max) Store.empty := by decide +kernel
  obtain ⟨s, h_run, r, h_r, c, h_c, -, h_link, h_phase, h_every, h_kind, h_active, h_left,
    h_sampled⟩ := h.run
  have h_cycle : s.IntervalCycle r c (i64Max - 10) :=
    ⟨h_r, h_c, h_link, h_phase, h_every, h_kind, h_active, h_left, by decide⟩
  have h_order : SampledInOrder c.occupancySampledAtMs [⟨false, 1010⟩] := by
    rw [h_sampled]
    simp [SampledInOrder]
  obtain ⟨_, s', h_sample⟩ := accrueRenewOccupancy_commits h_cycle false 1010
  obtain ⟨-, h_c'⟩ :=
    accrueRenewOccupancy_cycle (x := ⟨false, 1010⟩) h_cycle h_order.1 h_sample
  refine ⟨s, s', r, c, _, i64Max - 10, h_run, h_cycle, h_order,
    run_bind_ok.mpr ⟨(), s', h_sample, rfl⟩, h_c', rfl, ?_, ?_⟩
  · rw [OccupancySample.credit_idle rfl]
    rfl
  · show sqlAdd 1010 (i64Max - 10) ≠ 1010 + (i64Max - 10)
    decide

end Kelpie
