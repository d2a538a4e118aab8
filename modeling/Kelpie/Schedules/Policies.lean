/-
  Kelpie.Schedules.Policies

  Interval renew policies.  A policy is a schedule with one renew per cycle; the
  schedule and the renew of its current cycle say the same of the cycle, and end
  together.
-/

import Kelpie.Lib.Exclusive
import Kelpie.Schedules.Reading

namespace Kelpie

open Lib Lib.Tx Book

variable {s s' : Store} {b b' : Book} {c : Call}

namespace Book

-- ============================================================================
-- Recorded cycles
-- ============================================================================

/-- The recorded firings of the schedule are those of the cycles before its own. -/
def Recorded (b : Book) (plan : ScheduleRow) : Prop :=
  1 ≤ plan.cycle ∧
    ∀ n, (∃ f ∈ b.firings, f.scheduleId = plan.id ∧ f.cycle = n) ↔ 1 ≤ n ∧ n < plan.cycle

/-- Every schedule has recorded its cycles, and no firing is of no schedule. -/
structure Recording (b : Book) : Prop where
  recorded : ∀ plan ∈ b.schedules, b.Recorded plan
  known : ∀ f ∈ b.firings, ∃ plan ∈ b.schedules, plan.id = f.scheduleId

theorem Recording.empty : Recording Store.empty.book where
  recorded _ h := absurd h Table.notMem_empty
  known _ h := absurd h Table.notMem_empty

/-- Schedules that stay in their cycle. -/
theorem Recording.edits {e : ScheduleRow → ScheduleRow → Prop} {cs : Table ScheduleRow.id}
    (h : Recording b) (h_cs : b.schedules.Edits e cs)
    (h_e : ∀ p p', e p p' → p'.id = p.id ∧ p'.cycle = p.cycle) (rs : Table RenewRow.id) :
    Recording { b with schedules := cs, renews := rs } where
  recorded p' h_p' := by
    obtain ⟨p, h_p, h_pp⟩ := h_cs.origin p' h_p'
    obtain ⟨h_id, h_cycle⟩ := h_e p p' h_pp
    have h_recorded := h.recorded p h_p
    simp only [Recorded, ← h_id, ← h_cycle] at h_recorded
    exact h_recorded
  known f h_f := by
    obtain ⟨p, h_p, h_id⟩ := h.known f h_f
    obtain ⟨p', h_p', h_pp⟩ := h_cs.image p h_p
    exact ⟨p', h_p', (h_e p p' h_pp).1.trans h_id⟩

/-- A new schedule begins with its first cycle. -/
theorem Recording.adds {new : Option ScheduleRow} {cs : Table ScheduleRow.id}
    (h : Recording b) (h_cs : b.schedules.Adds new cs) (h_new : ∀ p ∈ new, p.cycle = 1)
    (rs : Table RenewRow.id) : Recording { b with schedules := cs, renews := rs } where
  recorded p h_p := by
    rcases (h_cs.mem p).mp h_p with h_p | h_p
    · exact h.recorded p h_p
    · refine ⟨(h_new p h_p).ge, fun n => ⟨?_, ?_⟩⟩
      · rintro ⟨f, h_f, h_id, -⟩
        obtain ⟨p', h_p', h_id'⟩ := h.known f h_f
        exact absurd (h_id'.trans h_id) (h_cs.fresh p h_p p' h_p')
      · rintro ⟨h_one, h_lt⟩
        rw [h_new p h_p] at h_lt
        omega
  known f h_f := by
    obtain ⟨p, h_p, h_id⟩ := h.known f h_f
    exact ⟨p, (h_cs.mem p).mpr (.inl h_p), h_id⟩

/-- The schedule that goes into its next cycle records the one that it leaves. -/
theorem Recording.advance {plan : ScheduleRow} {f : ScheduleFiringRow} {next : Millis}
    {cs : Table ScheduleRow.id} {fs : Table ScheduleFiringRow.key} (h : Recording b)
    (h_plan : plan ∈ b.schedules) (h_f : f.scheduleId = plan.id ∧ f.cycle = plan.cycle)
    (h_cs : b.schedules.Edits (Advanced plan.id next) cs) (h_fs : b.firings.Adds (some f) fs)
    (rs : Table RenewRow.id) : Recording ⟨cs, rs, fs⟩ where
  recorded p' h_p' := by
    obtain ⟨p, h_p, h_pp⟩ := h_cs.origin p' h_p'
    obtain ⟨h_one, h_recorded⟩ := h.recorded p h_p
    rcases h_pp with ⟨h_other, rfl⟩ | ⟨h_id, h_same, -, h_cycle, -⟩
    · refine ⟨h_one, fun n => ?_⟩
      rw [← h_recorded n]
      constructor
      · rintro ⟨g, h_g, h_gid, h_gn⟩
        rcases (h_fs.mem g).mp h_g with h_g | h_g
        · exact ⟨g, h_g, h_gid, h_gn⟩
        · obtain rfl := Option.mem_some.mp h_g
          exact absurd (h_gid.symm.trans h_f.1) h_other
      · rintro ⟨g, h_g, h_gn⟩
        exact ⟨g, (h_fs.mem g).mpr (.inl h_g), h_gn⟩
    · obtain rfl := Table.eq_of_key h_p h_plan h_id
      refine ⟨by omega, fun n => ?_⟩
      rw [h_cycle, h_same.key]
      constructor
      · rintro ⟨g, h_g, h_gid, h_gn⟩
        rcases (h_fs.mem g).mp h_g with h_g | h_g
        · have h_n := (h_recorded n).mp ⟨g, h_g, h_gid, h_gn⟩
          omega
        · obtain rfl := Option.mem_some.mp h_g
          omega
      · rintro ⟨h_n, h_lt⟩
        rcases Nat.lt_succ_iff_lt_or_eq.mp h_lt with h_lt | rfl
        · obtain ⟨g, h_g, h_gn⟩ := (h_recorded n).mpr ⟨h_n, h_lt⟩
          exact ⟨g, (h_fs.mem g).mpr (.inl h_g), h_gn⟩
        · exact ⟨f, (h_fs.mem f).mpr (.inr rfl), h_f⟩
  known g h_g := by
    obtain ⟨p, h_p, h_id⟩ : ∃ p ∈ b.schedules, p.id = g.scheduleId := by
      rcases (h_fs.mem g).mp h_g with h_g | h_g
      · exact h.known g h_g
      · obtain rfl := Option.mem_some.mp h_g
        exact ⟨plan, h_plan, h_f.1.symm⟩
    obtain ⟨p', h_p', h_pp⟩ := h_cs.image p h_p
    exact ⟨p', h_p', h_pp.same.key.trans h_id⟩

/-- A cycle that ends was not on record. -/
theorem Recording.unrecorded {plan : ScheduleRow} {f : ScheduleFiringRow} (h : Recording b)
    (h_plan : plan ∈ b.schedules) (h_f : f.scheduleId = plan.id ∧ f.cycle = plan.cycle) :
    ¬ ∃ f' ∈ b.firings, f'.key = f.key := by
  rintro ⟨f', h_f', h_key⟩
  obtain ⟨h_schedule, h_cycle⟩ := Prod.mk.inj h_key
  have h_lt := (((h.recorded plan h_plan).2 plan.cycle).mp
    ⟨f', h_f', h_schedule.trans h_f.1, h_cycle.trans h_f.2⟩).2
  omega

theorem Recording.turn (h : Recording b) (h_turn : Turn b c b') : Recording b' := by
  cases h_turn with
  | same => exact h
  | move _ h_cs h_rs => exact h.edits h_cs (fun p p' h_e => ⟨h_e.key, h_e.cycle⟩) _
  | link h_rs => exact ⟨h.recorded, h.known⟩
  | arm _ _ _ h_c h_cs h_rs => exact h.adds h_cs (fun p h_p => (h_c p h_p).2.2.1) _
  | close _ _ h_rs => exact ⟨h.recorded, h.known⟩
  | next _ h_rs h_next =>
    obtain ⟨-, h_plan, h_f, -, -, h_cs, -, h_fs⟩ := h_next
    have h_fs := h_fs.resolve_left fun h_old => h.unrecorded h_plan.1 h_f h_old.1
    exact h.advance h_plan.1 h_f h_cs h_fs _
  | stop _ _ h_rs h_cs =>
    refine h.edits h_cs ?_ _
    rintro p p' (⟨-, rfl⟩ | ⟨-, -, h_same, h_cycle, -⟩)
    · exact ⟨rfl, rfl⟩
    · exact ⟨h_same.key, h_cycle⟩
  | compose h_c h_cs =>
    refine h.adds h_cs (fun p h_p => ?_) _
    obtain rfl := Option.mem_some.mp h_p
    exact h_c.2.2
  | fire h_c h_f h_cs h_fs =>
    obtain ⟨h_mem, h_id, -, h_cycle, -⟩ := h_c
    rw [← h_id] at h_cs
    exact h.advance h_mem ⟨h_f.1.trans h_id.symm, h_f.2.trans h_cycle.symm⟩ h_cs h_fs _
  | cancel h_cs =>
    refine h.edits h_cs ?_ _
    rintro p p' (⟨-, rfl⟩ | ⟨-, -, h_same, h_cycle, -⟩)
    · exact ⟨rfl, rfl⟩
    · exact ⟨h_same.key, h_cycle⟩

-- ============================================================================
-- Policies and their renews
-- ============================================================================

/-- The renew carries out one cycle of the policy. -/
structure Governs (plan : ScheduleRow) (r : RenewRow) : Prop where
  kind : plan.kind = .renew
  schedule : r.scheduleId = some plan.id
  every : r.everyMs = some plan.intervalMs
  incarnation : plan.incarnationId = some r.incarnationId

theorem Governs.same {plan plan' : ScheduleRow} {r r' : RenewRow} (h : Governs plan r)
    (h_plan : plan.SamePlan plan') (h_r : r.SameRenew r') : Governs plan' r' where
  kind := h_plan.kind.trans h.kind
  schedule := by rw [h_r.schedule, h.schedule, h_plan.key]
  every := by rw [h_r.every, h.every, h_plan.interval]
  incarnation := by rw [h_plan.incarnation, h.incarnation, h_r.incarnation]

/-- The policies of the book go on: each active one has a renew of its current cycle. -/
structure Kept (b : Book) : Prop where
  alone : b.renews.Exclusive (·.phase.Armed) (·.incarnationId)
  policy : ∀ r ∈ b.renews, (r.scheduleId = none ∧ r.everyMs = none) ∨
    ∃ plan ∈ b.schedules, Governs plan r
  armed : ∀ r ∈ b.renews, r.phase.Armed → ∀ plan ∈ b.schedules,
    r.scheduleId = some plan.id → plan.state = .active ∧ plan.cycle = r.cycle
  active : ∀ plan ∈ b.schedules, plan.kind = .renew → plan.state = .active →
    ∃ r ∈ b.renews, r.phase.Armed ∧ r.scheduleId = some plan.id

theorem Kept.empty : Kept Store.empty.book where
  alone := .empty
  policy _ h := absurd h Table.notMem_empty
  armed _ h := absurd h Table.notMem_empty
  active _ h := absurd h Table.notMem_empty

/-- The policy that a renew carries out is the one that it names. -/
theorem Kept.governs (h : Kept b) {r : RenewRow} {plan : ScheduleRow} (h_r : r ∈ b.renews)
    (h_plan : plan ∈ b.schedules) (h_schedule : r.scheduleId = some plan.id) :
    Governs plan r := by
  rcases h.policy r h_r with ⟨h_none, -⟩ | ⟨plan', h_plan', h_governs⟩
  · rw [h_none] at h_schedule
    cases h_schedule
  · rw [h_governs.schedule, Option.some_inj] at h_schedule
    obtain rfl := Table.eq_of_key h_plan' h_plan h_schedule
    exact h_governs

/-- A policy has one armed renew at most. -/
theorem Kept.unique (h : Kept b) {r r' : RenewRow} {plan : ScheduleRow} (h_r : r ∈ b.renews)
    (h_r' : r' ∈ b.renews) (h_plan : plan ∈ b.schedules) (h_armed : r.phase.Armed)
    (h_armed' : r'.phase.Armed) (h_schedule : r.scheduleId = some plan.id)
    (h_schedule' : r'.scheduleId = some plan.id) : r = r' := by
  have h_incarnation := (h.governs h_r h_plan h_schedule).incarnation
  rw [(h.governs h_r' h_plan h_schedule').incarnation, Option.some_inj] at h_incarnation
  exact h.alone.eq h_r h_r' h_armed h_armed' h_incarnation.symm

-- ============================================================================
-- Turns within a cycle
-- ============================================================================

/-- Schedules and renews that change neither their cycle nor whether they go on. -/
theorem Kept.edits {e : ScheduleRow → ScheduleRow → Prop} {e' : RenewRow → RenewRow → Prop}
    {cs : Table ScheduleRow.id} {rs : Table RenewRow.id} (h : Kept b)
    (h_cs : b.schedules.Edits e cs) (h_rs : b.renews.Edits e' rs)
    (h_e : ∀ p p', e p p' → p.SamePlan p' ∧ (p.kind = .renew →
      p'.state = p.state ∧ p'.cycle = p.cycle))
    (h_e' : ∀ r r', e' r r' → r.SameRenew r' ∧ (r'.phase.Armed ↔ r.phase.Armed))
    (fs : Table ScheduleFiringRow.key) : Kept ⟨cs, rs, fs⟩ where
  alone := by
    refine h.alone.narrow h_rs (fun r r' h_rr => (h_e' r r' h_rr).1.key) ?_
    rintro r - r' - h_rr h_armed
    obtain ⟨h_same, h_iff⟩ := h_e' r r' h_rr
    exact ⟨h_iff.mp h_armed, h_same.incarnation⟩
  policy r' h_r' := by
    obtain ⟨r, h_r, h_rr⟩ := h_rs.origin r' h_r'
    have h_same := (h_e' r r' h_rr).1
    rcases h.policy r h_r with ⟨h_schedule, h_every⟩ | ⟨p, h_p, h_governs⟩
    · exact .inl ⟨h_same.schedule.trans h_schedule, h_same.every.trans h_every⟩
    · obtain ⟨p', h_p', h_pp⟩ := h_cs.image p h_p
      exact .inr ⟨p', h_p', h_governs.same (h_e p p' h_pp).1 h_same⟩
  armed r' h_r' h_armed p' h_p' h_schedule := by
    obtain ⟨r, h_r, h_rr⟩ := h_rs.origin r' h_r'
    obtain ⟨p, h_p, h_pp⟩ := h_cs.origin p' h_p'
    obtain ⟨h_same, h_iff⟩ := h_e' r r' h_rr
    obtain ⟨h_plan, h_stays⟩ := h_e p p' h_pp
    rw [h_same.schedule, h_plan.key] at h_schedule
    obtain ⟨h_state, h_cycle⟩ := h_stays (h.governs h_r h_p h_schedule).kind
    obtain ⟨h_active, h_number⟩ := h.armed r h_r (h_iff.mp h_armed) p h_p h_schedule
    exact ⟨h_state.trans h_active, by rw [h_cycle, h_number, h_same.cycle]⟩
  active p' h_p' h_kind h_active := by
    obtain ⟨p, h_p, h_pp⟩ := h_cs.origin p' h_p'
    obtain ⟨h_plan, h_stays⟩ := h_e p p' h_pp
    have h_renew : p.kind = .renew := h_plan.kind.symm.trans h_kind
    obtain ⟨r, h_r, h_armed, h_schedule⟩ := h.active p h_p h_renew
      ((h_stays h_renew).1.symm.trans h_active)
    obtain ⟨r', h_r', h_rr⟩ := h_rs.image r h_r
    obtain ⟨h_same, h_iff⟩ := h_e' r r' h_rr
    exact ⟨r', h_r', h_iff.mpr h_armed, by rw [h_same.schedule, h_schedule, h_plan.key]⟩

/-- Changes of schedules that govern no renew. -/
theorem Kept.tells {e : ScheduleRow → ScheduleRow → Prop} {cs : Table ScheduleRow.id}
    (h : Kept b) (h_cs : b.schedules.Edits e cs)
    (h_e : ∀ p ∈ b.schedules, ∀ p' ∈ cs, e p p' → p.SamePlan p' ∧
      (p.kind = .renew → p' = p)) (fs : Table ScheduleFiringRow.key) :
    Kept ⟨cs, b.renews, fs⟩ := by
  have h_rs : b.renews.Edits
      (fun r r' => r.SameRenew r' ∧ (r'.phase.Armed ↔ r.phase.Armed)) b.renews :=
    .refl (fun _ => ⟨.rfl, .rfl⟩) _
  refine h.edits (h_cs.mono h_e) h_rs ?_ (fun _ _ h_rr => h_rr) fs
  rintro p p' ⟨h_same, h_renew⟩
  refine ⟨h_same, fun h_kind => ?_⟩
  rw [h_renew h_kind]
  exact ⟨rfl, rfl⟩

/-- A new tell schedule. -/
theorem Kept.compose {c : ScheduleRow} {cs : Table ScheduleRow.id} (h : Kept b)
    (h_kind : c.kind = .tell) (h_cs : b.schedules.Adds (some c) cs) :
    Kept { b with schedules := cs } where
  alone := h.alone
  policy r h_r := by
    refine (h.policy r h_r).imp_right ?_
    rintro ⟨p, h_p, h_governs⟩
    exact ⟨p, (h_cs.mem p).mpr (.inl h_p), h_governs⟩
  armed r h_r h_armed p h_p h_schedule := by
    rcases (h_cs.mem p).mp h_p with h_p | h_p
    · exact h.armed r h_r h_armed p h_p h_schedule
    · obtain rfl := Option.mem_some.mp h_p
      rcases h.policy r h_r with ⟨h_none, -⟩ | ⟨p, h_p, h_governs⟩
      · rw [h_none] at h_schedule
        cases h_schedule
      · rw [h_governs.schedule, Option.some_inj] at h_schedule
        exact absurd h_schedule (h_cs.fresh c rfl p h_p)
  active p h_p h_renew h_active := by
    rcases (h_cs.mem p).mp h_p with h_p | h_p
    · exact h.active p h_p h_renew h_active
    · obtain rfl := Option.mem_some.mp h_p
      rw [h_kind] at h_renew
      cases h_renew

-- ============================================================================
-- Turns that begin or end a cycle
-- ============================================================================

theorem Kept.alone_closed {id : RenewId} {rs : Table RenewRow.id} (h : Kept b)
    (h_rs : b.renews.Edits (Closed id) rs) :
    rs.Exclusive (·.phase.Armed) (·.incarnationId) := by
  refine h.alone.narrow h_rs (fun r r' h_rr => h_rr.same.key) ?_
  rintro r - r' - h_rr h_armed
  obtain ⟨-, rfl⟩ := h_rr.armed h_armed
  exact ⟨h_armed, rfl⟩

/-- A renew of no policy ends. -/
theorem Kept.close {id : RenewId} {rs : Table RenewRow.id} (h : Kept b)
    (h_once : ∀ r ∈ b.renews, r.id = id → r.everyMs = none)
    (h_rs : b.renews.Edits (Closed id) rs) : Kept { b with renews := rs } where
  alone := h.alone_closed h_rs
  policy r' h_r' := by
    obtain ⟨r, h_r, h_rr⟩ := h_rs.origin r' h_r'
    rcases h.policy r h_r with ⟨h_schedule, h_every⟩ | ⟨p, h_p, h_governs⟩
    · exact .inl ⟨h_rr.same.schedule.trans h_schedule, h_rr.same.every.trans h_every⟩
    · exact .inr ⟨p, h_p, h_governs.same .rfl h_rr.same⟩
  armed r' h_r' h_armed := by
    obtain ⟨r, h_r, h_rr⟩ := h_rs.origin r' h_r'
    obtain ⟨-, rfl⟩ := h_rr.armed h_armed
    exact h.armed r' h_r h_armed
  active p h_p h_kind h_active := by
    obtain ⟨r, h_r, h_armed, h_schedule⟩ := h.active p h_p h_kind h_active
    have h_other : r.id ≠ id := by
      intro h_id
      have h_every := (h.governs h_r h_p h_schedule).every
      rw [h_once r h_r h_id] at h_every
      cases h_every
    obtain ⟨r', h_r', h_rr⟩ := h_rs.image r h_r
    obtain ⟨-, rfl⟩ := h_rr.resolve_right fun h_end => h_other h_end.1
    exact ⟨r', h_r', h_armed, h_schedule⟩

/-- A renew ends with its policy. -/
theorem Kept.stop {r : RenewRow} {cs : Table ScheduleRow.id} {rs : Table RenewRow.id}
    (h : Kept b) (h_r : r ∈ b.renews) (h_rs : b.renews.Edits (Closed r.id) rs)
    (h_cs : b.schedules.Edits (Stopped fun p => some p.id = r.scheduleId) cs) :
    Kept { b with schedules := cs, renews := rs } where
  alone := h.alone_closed h_rs
  policy r₁' h_r₁' := by
    obtain ⟨r₁, h_r₁, h_rr⟩ := h_rs.origin r₁' h_r₁'
    rcases h.policy r₁ h_r₁ with ⟨h_schedule, h_every⟩ | ⟨p, h_p, h_governs⟩
    · exact .inl ⟨h_rr.same.schedule.trans h_schedule, h_rr.same.every.trans h_every⟩
    · obtain ⟨p', h_p', h_pp⟩ := h_cs.image p h_p
      exact .inr ⟨p', h_p', h_governs.same h_pp.same h_rr.same⟩
  armed r₁' h_r₁' h_armed p' h_p' h_schedule := by
    obtain ⟨r₁, h_r₁, h_rr⟩ := h_rs.origin r₁' h_r₁'
    obtain ⟨h_other, rfl⟩ := h_rr.armed h_armed
    obtain ⟨p, h_p, h_pp⟩ := h_cs.origin p' h_p'
    rcases h_pp with ⟨-, rfl⟩ | ⟨h_id, -, h_same, -⟩
    · exact h.armed r₁' h_r₁ h_armed p' h_p h_schedule
    · -- The policy that stops has no armed renew but the one that ends.
      rw [h_same.key] at h_schedule
      obtain ⟨r', h_r', h_end⟩ := h_rs.image r h_r
      have h_r_armed := (h_end.resolve_left fun h_not => h_not.1 rfl).2.2.2.1
      obtain rfl := h.unique h_r₁ h_r h_p h_armed h_r_armed h_schedule h_id.symm
      exact absurd rfl h_other
  active p' h_p' h_kind h_active := by
    obtain ⟨p, h_p, h_pp⟩ := h_cs.origin p' h_p'
    rcases h_pp with ⟨h_stays, rfl⟩ | ⟨-, -, -, -, h_ended⟩
    · obtain ⟨r₁, h_r₁, h_armed, h_schedule⟩ := h.active p' h_p h_kind h_active
      have h_other : r₁.id ≠ r.id := by
        intro h_id
        obtain rfl := Table.eq_of_key h_r₁ h_r h_id
        exact h_stays ⟨h_schedule.symm, h_active⟩
      obtain ⟨r₁', h_r₁', h_rr⟩ := h_rs.image r₁ h_r₁
      obtain ⟨-, rfl⟩ := h_rr.resolve_right fun h_end => h_other h_end.1
      exact ⟨r₁', h_r₁', h_armed, h_schedule⟩
    · exact absurd h_active h_ended

/-- A renew begins, with the policy that it is the first cycle of. -/
theorem Kept.arm {new : Option ScheduleRow} {r : RenewRow} {cs : Table ScheduleRow.id}
    {rs : Table RenewRow.id} (h : Kept b)
    (h_alone : ∀ r' ∈ b.renews, r'.incarnationId = r.incarnationId → ¬ r'.phase.Armed)
    (h_r : r.phase = .scheduled ∧ r.cycle = 1 ∧ r.askMessageId = none)
    (h_policy : r.scheduleId = new.map (·.id) ∧ r.everyMs = new.map (·.intervalMs))
    (h_new : ∀ p ∈ new, p.kind = .renew ∧ p.state = .active ∧ p.cycle = 1 ∧
      p.incarnationId = some r.incarnationId)
    (h_cs : b.schedules.Adds new cs) (h_rs : b.renews.Adds (some r) rs) :
    Kept { b with schedules := cs, renews := rs } where
  alone := by
    refine h.alone.adds h_rs (fun _ _ => id) (fun _ _ _ => rfl) ?_
    rintro r₁ h_r₁ - r₂ h_r₂ h_armed h_same
    obtain rfl := Option.mem_some.mp h_r₁
    exact h_alone r₂ h_r₂ h_same h_armed
  policy r₁ h_r₁ := by
    rcases (h_rs.mem r₁).mp h_r₁ with h_r₁ | h_r₁
    · refine (h.policy r₁ h_r₁).imp_right ?_
      rintro ⟨p, h_p, h_governs⟩
      exact ⟨p, (h_cs.mem p).mpr (.inl h_p), h_governs⟩
    · obtain rfl := Option.mem_some.mp h_r₁
      cases new with
      | none => exact .inl h_policy
      | some p =>
        obtain ⟨h_kind, -, -, h_incarnation⟩ := h_new p rfl
        exact .inr ⟨p, (h_cs.mem p).mpr (.inr rfl), h_kind, h_policy.1, h_policy.2,
          h_incarnation⟩
  armed r₁ h_r₁ h_armed p h_p h_schedule := by
    rcases (h_rs.mem r₁).mp h_r₁ with h_r₁ | h_r₁ <;> rcases (h_cs.mem p).mp h_p with h_p | h_p
    · exact h.armed r₁ h_r₁ h_armed p h_p h_schedule
    · -- No old renew names the new schedule.
      rcases h.policy r₁ h_r₁ with ⟨h_none, -⟩ | ⟨p', h_p', h_governs⟩
      · rw [h_none] at h_schedule
        cases h_schedule
      · rw [h_governs.schedule, Option.some_inj] at h_schedule
        exact absurd h_schedule (h_cs.fresh p h_p p' h_p')
    · -- Nor does the new renew name an old schedule.
      obtain rfl := Option.mem_some.mp h_r₁
      rw [h_policy.1] at h_schedule
      obtain ⟨p', h_p', h_id⟩ := Option.map_eq_some_iff.mp h_schedule
      exact absurd h_id.symm (h_cs.fresh p' h_p' p h_p)
    · obtain rfl := Option.mem_some.mp h_r₁
      obtain ⟨-, h_active, h_cycle, -⟩ := h_new p h_p
      exact ⟨h_active, h_cycle.trans h_r.2.1.symm⟩
  active p h_p h_kind h_active := by
    rcases (h_cs.mem p).mp h_p with h_p | h_p
    · obtain ⟨r₁, h_r₁, h_armed⟩ := h.active p h_p h_kind h_active
      exact ⟨r₁, (h_rs.mem r₁).mpr (.inl h_r₁), h_armed⟩
    · refine ⟨r, (h_rs.mem r).mpr (.inr rfl), ?_, ?_⟩
      · simp [RenewPhase.Armed, h_r.1]
      · rw [h_policy.1, h_p, Option.map_some]

/-- A cycle ends and the next one begins. -/
theorem Kept.rearm {id : RenewId} {rs : Table RenewRow.id} (h : Kept b)
    (h_rs : b.renews.Edits (Closed id) rs) (h_next : Rearms { b with renews := rs } id b') :
    Kept b' := by
  obtain @⟨r, r', plan, due, f, cs, rs', fs, h_r, h_plan, -, h_r', h_alone, h_cs, h_rs', -⟩ :=
    h_next
  obtain ⟨h_r, rfl⟩ := h_r
  obtain ⟨h_plan, h_schedule, h_kind, h_active, h_every, h_cycle⟩ := h_plan
  obtain ⟨h_scheduled, h_cycle', -, h_schedule', h_every', h_incarnation', -⟩ := h_r'
  -- The renew that ended was armed, and alone under its policy.
  obtain ⟨r₀, h_r₀, h_end⟩ := h_rs.origin r h_r
  have h_same := h_end.same
  obtain ⟨-, -, -, h_armed₀, -⟩ := h_end.resolve_left fun h_not => h_not.1 h_same.key.symm
  have h_schedule₀ : r₀.scheduleId = some plan.id := h_same.schedule.symm.trans h_schedule
  have h_others {r₁ : RenewRow} (h_r₁ : r₁ ∈ b.renews) (h_armed : r₁.phase.Armed)
      (h_other : r₁.id ≠ r.id) : r₁.scheduleId ≠ some plan.id := by
    intro h_named
    obtain rfl := h.unique h_r₁ h_r₀ h_plan h_armed h_armed₀ h_named h_schedule₀
    exact h_other h_same.key.symm
  have h_governs : Governs plan r := (h.governs h_r₀ h_plan h_schedule₀).same .rfl h_same
  refine ⟨?_, ?_, ?_, ?_⟩
  · refine (h.alone_closed h_rs).adds h_rs' (fun _ _ => id) (fun _ _ _ => rfl) ?_
    rintro r₁ h_r₁ - r₂ h_r₂ h_armed h_inc
    obtain rfl := Option.mem_some.mp h_r₁
    exact h_alone r₂ h_r₂ (h_inc.trans h_incarnation') h_armed
  · intro r₁ h_r₁
    have h_image {p : ScheduleRow} {r₂ : RenewRow} (h_p : p ∈ b.schedules)
        (h_governs : Governs p r₂) : ∃ p' ∈ cs, Governs p' r₂ := by
      obtain ⟨p', h_p', h_pp⟩ := h_cs.image p h_p
      exact ⟨p', h_p', h_governs.same h_pp.same .rfl⟩
    rcases (h_rs'.mem r₁).mp h_r₁ with h_r₁ | h_r₁
    · obtain ⟨r₂, h_r₂, h_rr⟩ := h_rs.origin r₁ h_r₁
      rcases h.policy r₂ h_r₂ with ⟨h_none, h_once⟩ | ⟨p, h_p, h_governs₂⟩
      · exact .inl ⟨h_rr.same.schedule.trans h_none, h_rr.same.every.trans h_once⟩
      · exact .inr (h_image h_p (h_governs₂.same .rfl h_rr.same))
    · obtain rfl := Option.mem_some.mp h_r₁
      refine .inr (h_image h_plan ⟨h_kind, ?_, ?_, ?_⟩)
      · exact h_schedule'.trans h_schedule
      · exact h_every'.trans h_every
      · rw [h_incarnation']
        exact h_governs.incarnation
  · intro r₁ h_r₁ h_armed p' h_p' h_named
    obtain ⟨p, h_p, h_pp⟩ := h_cs.origin p' h_p'
    rcases (h_rs'.mem r₁).mp h_r₁ with h_r₁ | h_r₁
    · obtain ⟨r₂, h_r₂, h_rr⟩ := h_rs.origin r₁ h_r₁
      obtain ⟨h_other, rfl⟩ := h_rr.armed h_armed
      rcases h_pp with ⟨-, rfl⟩ | ⟨h_id, h_plan', -⟩
      · exact h.armed r₁ h_r₂ h_armed p' h_p h_named
      · rw [h_plan'.key, h_id] at h_named
        exact absurd h_named (h_others h_r₂ h_armed h_other)
    · obtain rfl := Option.mem_some.mp h_r₁
      rw [h_schedule', h_schedule, Option.some_inj] at h_named
      rcases h_pp with ⟨h_other, rfl⟩ | ⟨h_id, h_plan', h_state, h_step, -⟩
      · exact absurd h_named.symm h_other
      · obtain rfl := Table.eq_of_key h_p h_plan h_id
        exact ⟨h_state.trans h_active, by rw [h_step, h_cycle, h_cycle']⟩
  · intro p' h_p' h_renew h_on
    obtain ⟨p, h_p, h_pp⟩ := h_cs.origin p' h_p'
    rcases h_pp with ⟨h_other, rfl⟩ | ⟨h_id, h_plan', -⟩
    · obtain ⟨r₁, h_r₁, h_armed, h_named⟩ := h.active p' h_p h_renew h_on
      have h_not : r₁.id ≠ r.id := by
        intro h_id
        obtain rfl := Table.eq_of_key h_r₁ h_r₀ (h_id.trans h_same.key)
        rw [h_schedule₀, Option.some_inj] at h_named
        exact h_other h_named.symm
      obtain ⟨r₂, h_r₂, h_rr⟩ := h_rs.image r₁ h_r₁
      obtain ⟨-, rfl⟩ := h_rr.resolve_right fun h_end => h_not h_end.1
      exact ⟨r₂, (h_rs'.mem r₂).mpr (.inl h_r₂), h_armed, h_named⟩
    · refine ⟨r', (h_rs'.mem r').mpr (.inr rfl), ?_, ?_⟩
      · simp [RenewPhase.Armed, h_scheduled]
      · rw [h_schedule', h_schedule, h_plan'.key, h_id]

-- ============================================================================
-- Every turn
-- ============================================================================

/-- A call that fires what was read from a tell schedule keeps the policies. -/
theorem Kept.turn (h : Kept s.book) (h_turn : Turn s.book c b') (h_c : c.FiresTell s) :
    Kept b' := by
  cases h_turn with
  | same => exact h
  | move _ h_cs h_rs =>
    exact h.edits h_cs h_rs (fun p p' h_e => ⟨h_e.toSamePlan, fun _ => ⟨h_e.state, h_e.cycle⟩⟩)
      (fun r r' h_e => ⟨h_e.toSameRenew, h_e.armed⟩) _
  | link h_rs =>
    have h_cs : s.book.schedules.Edits Eq s.book.schedules := .refl (fun _ => rfl) _
    refine h.edits h_cs h_rs (fun p p' h_e => ?_) ?_ _
    · obtain rfl := h_e
      exact ⟨.rfl, fun _ => ⟨rfl, rfl⟩⟩
    · rintro r r' (⟨-, rfl⟩ | ⟨-, h_same, h_phase, h_phase', -⟩)
      · exact ⟨.rfl, .rfl⟩
      · exact ⟨h_same, by simp [RenewPhase.Armed, h_phase, h_phase']⟩
  | arm h_alone h_r h_policy h_new h_cs h_rs => exact h.arm h_alone h_r h_policy h_new h_cs h_rs
  | close _ h_once h_rs => exact h.close h_once h_rs
  | next _ h_rs h_next => exact h.rearm h_rs h_next
  | stop _ h_r h_rs h_cs => exact h.stop h_r h_rs h_cs
  | compose h_new h_cs => exact h.compose h_new.1 h_cs
  | fire h_due _ h_cs _ =>
    obtain ⟨p₀, h_p₀, h_of⟩ := h_c
    refine h.tells h_cs ?_ _
    rintro p h_p p' - (⟨-, rfl⟩ | ⟨h_id, h_same, -⟩)
    · exact ⟨.rfl, fun _ => rfl⟩
    · refine ⟨h_same, fun h_renew => ?_⟩
      obtain rfl := Table.eq_of_key h_p h_p₀ (h_id.trans h_of.key.symm)
      rw [h_of.kind] at h_renew
      cases h_renew
  | cancel h_cs =>
    refine h.tells h_cs ?_ _
    rintro p - p' - (⟨-, rfl⟩ | ⟨h_tell, -, h_same, -⟩)
    · exact ⟨.rfl, fun _ => rfl⟩
    · refine ⟨h_same, fun h_renew => ?_⟩
      rw [h_tell.2] at h_renew
      cases h_renew

end Book

-- ============================================================================
-- Runs
-- ============================================================================

theorem Reachable.recording {ok : Call → Store → Prop} (h : Reachable ok s) :
    Recording s.book :=
  h.invariant Recording.empty fun c _ _ h_s _ h_step => Recording.turn h_s (c.turn h_step)

theorem Reachable.kept {ok : Call → Store → Prop}
    (h : Reachable (fun c s => c.FiresTell s ∧ ok c s) s) : Kept s.book :=
  h.invariant Kept.empty fun c _ _ h_s h_ok h_step => Kept.turn h_s (c.turn h_step) h_ok.1

end Kelpie
