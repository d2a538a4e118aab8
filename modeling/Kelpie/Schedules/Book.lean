/-
  Kelpie.Schedules.Book

  The book of schedules: the repeating schedules with the renews of standing
  policies and the recorded firings, and what each call of the store does to it.
-/

import Kelpie.Store.Frames

namespace Kelpie

open Lib Lib.Tx

variable {s s' : Store}

-- ============================================================================
-- Rows that stay themselves
-- ============================================================================

/-- The same schedule: only its clock, its cycle and its state differ. -/
structure ScheduleRow.SamePlan (c c' : ScheduleRow) : Prop where
  key : c'.id = c.id
  kind : c'.kind = c.kind
  agent : c'.logicalAgentId = c.logicalAgentId
  incarnation : c'.incarnationId = c.incarnationId
  requester : c'.requesterAgentId = c.requesterAgentId
  body : c'.body = c.body
  interval : c'.intervalMs = c.intervalMs

theorem ScheduleRow.SamePlan.rfl {c : ScheduleRow} : c.SamePlan c :=
  ⟨.refl _, .refl _, .refl _, .refl _, .refl _, .refl _, .refl _⟩

/-- The same renew of the same cycle: only its phase, its times and its evidence differ. -/
structure RenewRow.SameRenew (r r' : RenewRow) : Prop where
  key : r'.id = r.id
  agent : r'.logicalAgentId = r.logicalAgentId
  incarnation : r'.incarnationId = r.incarnationId
  requester : r'.requesterAgentId = r.requesterAgentId
  every : r'.everyMs = r.everyMs
  cycle : r'.cycle = r.cycle
  schedule : r'.scheduleId = r.scheduleId

theorem RenewRow.SameRenew.rfl {r : RenewRow} : r.SameRenew r :=
  ⟨.refl _, .refl _, .refl _, .refl _, .refl _, .refl _, .refl _⟩

-- ============================================================================
-- The book
-- ============================================================================

/-- The tables that record when something repeats. -/
structure Book where
  schedules : Table ScheduleRow.id
  renews : Table RenewRow.id
  firings : Table ScheduleFiringRow.key

/-- The book of a store. -/
def Store.book (s : Store) : Book where
  schedules := s.schedules
  renews := s.renews
  firings := s.scheduleFirings

namespace Book

/-- The clock of a renew policy moves within its cycle. -/
structure Paced (c c' : ScheduleRow) : Prop extends c.SamePlan c' where
  state : c'.state = c.state
  cycle : c'.cycle = c.cycle
  tell : c.kind = .tell → c' = c

/-- A renew goes through a phase, and neither ends nor comes back. -/
structure Moved (r r' : RenewRow) : Prop extends r.SameRenew r' where
  ask : r'.askMessageId = r.askMessageId
  armed : r'.phase.Armed ↔ r.phase.Armed
  scheduled : r'.phase = .scheduled ↔ r.phase = .scheduled

/-- The scheduled renew `id` awaits the answer to `ask`. -/
def Linked (id : RenewId) (ask : MessageId) (r r' : RenewRow) : Prop :=
  (r.id ≠ id ∧ r' = r) ∨
    (r.id = id ∧ r.SameRenew r' ∧ r.phase = .scheduled ∧ r'.phase = .preparing ∧
      r'.askMessageId = some ask)

/-- The armed renew `id` ends. -/
def Closed (id : RenewId) (r r' : RenewRow) : Prop :=
  (r.id ≠ id ∧ r' = r) ∨
    (r.id = id ∧ r.SameRenew r' ∧ r'.askMessageId = r.askMessageId ∧ r.phase.Armed ∧
      ¬ r'.phase.Armed)

/-- The schedule `id` goes into its next cycle, which is due at `next`. -/
def Advanced (id : ScheduleId) (next : Millis) (c c' : ScheduleRow) : Prop :=
  (c.id ≠ id ∧ c' = c) ∨
    (c.id = id ∧ c.SamePlan c' ∧ c'.state = c.state ∧ c'.cycle = c.cycle + 1 ∧
      c'.nextFireAtMs = next)

/-- The active schedule that `p` singles out ends. -/
def Stopped (p : ScheduleRow → Prop) (c c' : ScheduleRow) : Prop :=
  (¬ (p c ∧ c.state = .active) ∧ c' = c) ∨
    (p c ∧ c.state = .active ∧ c.SamePlan c' ∧ c'.cycle = c.cycle ∧ c'.state ≠ .active)

theorem Advanced.same {id : ScheduleId} {next : Millis} {c c' : ScheduleRow}
    (h : Advanced id next c c') : c.SamePlan c' := by
  rcases h with ⟨-, rfl⟩ | ⟨-, h_same, -⟩
  · exact .rfl
  · exact h_same

theorem Stopped.same {p : ScheduleRow → Prop} {c c' : ScheduleRow} (h : Stopped p c c') :
    c.SamePlan c' := by
  rcases h with ⟨-, rfl⟩ | ⟨-, -, h_same, -⟩
  · exact .rfl
  · exact h_same

theorem Closed.same {id : RenewId} {r r' : RenewRow} (h : Closed id r r') : r.SameRenew r' := by
  rcases h with ⟨-, rfl⟩ | ⟨-, h_same, -⟩
  · exact .rfl
  · exact h_same

/-- What is armed after the end of a renew is another renew, and was armed before. -/
theorem Closed.armed {id : RenewId} {r r' : RenewRow} (h : Closed id r r')
    (h_armed : r'.phase.Armed) : r.id ≠ id ∧ r' = r := by
  rcases h with h_other | ⟨-, -, -, -, h_not⟩
  · exact h_other
  · exact absurd h_armed h_not

end Book

/-- The call closes the cycle of the renew `id`, whose policy goes on. -/
def Call.Closes (c : Call) (id : RenewId) : Prop :=
  match c with
  | .completeRenew _ renew => renew = id
  | .abortRenew _ renew _ => renew = id
  | .abandonRenewProof _ renew _ => renew = id
  | _ => False

/-- The call ends the renew `r` with its policy: a termination, or a cancellation by an
    agent entitled to it, which spares a cycle that is clearing. -/
def Call.Ends (c : Call) (r : RenewRow) : Prop :=
  match c with
  | .terminateRenew _ renew _ => renew = r.id
  | .terminateRenewAnnounced _ renew _ _ => renew = r.id
  | .cancelRenew _ renew requester _ _ => renew = r.id ∧ r.phase ≠ .clearing ∧
    (r.requesterAgentId = requester ∨ r.logicalAgentId = requester)
  | _ => False

namespace Book

/-- The cycle of the closed renew `id` is recorded, and its policy goes into the next. -/
inductive Rearms (b : Book) (id : RenewId) : Book → Prop where
  | mk {r r' : RenewRow} {plan : ScheduleRow} {due : Millis} {f : ScheduleFiringRow}
      {cs : Table ScheduleRow.id} {rs : Table RenewRow.id} {fs : Table ScheduleFiringRow.key}
      (h_r : r ∈ b.renews ∧ r.id = id)
      (h_plan : plan ∈ b.schedules ∧ r.scheduleId = some plan.id ∧ plan.kind = .renew ∧
        plan.state = .active ∧ r.everyMs = some plan.intervalMs ∧ plan.cycle = r.cycle)
      (h_f : f.scheduleId = plan.id ∧ f.cycle = plan.cycle)
      (h_r' : r'.phase = .scheduled ∧ r'.cycle = r.cycle + 1 ∧ r'.askMessageId = none ∧
        r'.scheduleId = r.scheduleId ∧ r'.everyMs = r.everyMs ∧
        r'.incarnationId = r.incarnationId ∧ r'.logicalAgentId = r.logicalAgentId)
      (h_alone : ∀ r₁ ∈ b.renews, r₁.incarnationId = r.incarnationId →
        ¬ r₁.phase.Armed)
      (h_cs : b.schedules.Edits (Advanced plan.id due) cs)
      (h_rs : b.renews.Adds (some r') rs)
      (h_fs : (∃ f' ∈ b.firings, f'.key = f.key) ∧ fs = b.firings ∨
        b.firings.Adds (some f) fs) :
      Rearms b id ⟨cs, rs, fs⟩

/-- What a call does to the book. -/
inductive Turn (b : Book) : Call → Book → Prop where
  | same {c : Call} (h_c : ∀ id, ¬ c.Closes id) : Turn b c b
  | move {c : Call} {cs : Table ScheduleRow.id} {rs : Table RenewRow.id}
      (h_c : ∀ id, ¬ c.Closes id) (h_cs : b.schedules.Edits Paced cs)
      (h_rs : b.renews.Edits Moved rs) : Turn b c { b with schedules := cs, renews := rs }
  | link {id ask deadline} {rs : Table RenewRow.id} (h_rs : b.renews.Edits (Linked id ask) rs) :
      Turn b (.markRenewPreparing id ask deadline) { b with renews := rs }
  | arm {now intent} {c : Option ScheduleRow} {r : RenewRow} {cs : Table ScheduleRow.id}
      {rs : Table RenewRow.id}
      (h_alone : ∀ r' ∈ b.renews, r'.incarnationId = r.incarnationId → ¬ r'.phase.Armed)
      (h_r : r.phase = .scheduled ∧ r.cycle = 1 ∧ r.askMessageId = none)
      (h_policy : r.scheduleId = c.map (·.id) ∧ r.everyMs = c.map (·.intervalMs))
      (h_c : ∀ c' ∈ c, c'.kind = .renew ∧ c'.state = .active ∧ c'.cycle = 1 ∧
        c'.incarnationId = some r.incarnationId)
      (h_cs : b.schedules.Adds c cs) (h_rs : b.renews.Adds (some r) rs) :
      Turn b (.createRenew now intent) { b with schedules := cs, renews := rs }
  | close {c : Call} {id : RenewId} {rs : Table RenewRow.id} (h_c : c.Closes id)
      (h_once : ∀ r ∈ b.renews, r.id = id → r.everyMs = none)
      (h_rs : b.renews.Edits (Closed id) rs) : Turn b c { b with renews := rs }
  | next {c : Call} {id : RenewId} {rs : Table RenewRow.id} {b' : Book} (h_c : c.Closes id)
      (h_rs : b.renews.Edits (Closed id) rs) (h : Rearms { b with renews := rs } id b') :
      Turn b c b'
  | stop {c : Call} {r : RenewRow} {cs : Table ScheduleRow.id} {rs : Table RenewRow.id}
      (h_c : c.Ends r) (h_r : r ∈ b.renews) (h_rs : b.renews.Edits (Closed r.id) rs)
      (h_cs : b.schedules.Edits (Stopped fun c => some c.id = r.scheduleId) cs) :
      Turn b c { b with schedules := cs, renews := rs }
  | compose {now sender recipient body interval first key} {c : ScheduleRow}
      {cs : Table ScheduleRow.id}
      (h_c : c.kind = .tell ∧ c.state = .active ∧ c.cycle = 1)
      (h_cs : b.schedules.Adds (some c) cs) :
      Turn b (.createTellSchedule now sender recipient body interval first key)
        { b with schedules := cs }
  | fire {item nowMs} {c : ScheduleRow} {f : ScheduleFiringRow} {cs : Table ScheduleRow.id}
      {fs : Table ScheduleFiringRow.key}
      (h_c : c ∈ b.schedules ∧ c.id = item.scheduleId ∧ c.state = .active ∧
        c.cycle = item.cycle ∧ c.nextFireAtMs ≤ nowMs)
      (h_f : f.scheduleId = item.scheduleId ∧ f.cycle = item.cycle)
      (h_cs : b.schedules.Edits
        (Advanced item.scheduleId (saturatingAdd nowMs item.intervalMs)) cs)
      (h_fs : b.firings.Adds (some f) fs) :
      Turn b (.fireTellSchedule item nowMs) { b with schedules := cs, firings := fs }
  | cancel {now id requester reason} {cs : Table ScheduleRow.id}
      (h_cs : b.schedules.Edits (Stopped fun c => c.id = id ∧ c.kind = .tell) cs) :
      Turn b (.cancelSchedule now id requester reason) { b with schedules := cs }

end Book

open Book

-- ============================================================================
-- Frames
-- ============================================================================

/-- The book stays as it is. -/
def SameBook (s s' : Store) : Prop := s'.book = s.book

instance SameBook.stepwise : Stepwise SameBook where
  refl _ := rfl
  trans h h' := h'.trans h

instance : Ignores SameBook Tab.logicalAgents := ⟨fun _ _ => rfl⟩
instance : Ignores SameBook Tab.incarnations := ⟨fun _ _ => rfl⟩
instance : Ignores SameBook Tab.operations := ⟨fun _ _ => rfl⟩
instance : Ignores SameBook Tab.operationAttempts := ⟨fun _ _ => rfl⟩
instance : Ignores SameBook Tab.operatorNotices := ⟨fun _ _ => rfl⟩
instance : Ignores SameBook Tab.messages := ⟨fun _ _ => rfl⟩
instance : Ignores SameBook Tab.obligations := ⟨fun _ _ => rfl⟩
instance : Ignores SameBook Tab.deliveries := ⟨fun _ _ => rfl⟩
instance : Ignores SameBook Tab.obligationReminders := ⟨fun _ _ => rfl⟩
instance : Ignores SameBook Tab.reminderAttempts := ⟨fun _ _ => rfl⟩
instance : Ignores SameBook Tab.renewAttempts := ⟨fun _ _ => rfl⟩
instance : Ignores SameBook Tab.socketWaiterKeys := ⟨fun _ _ => rfl⟩
instance : Ignores SameBook Tab.socketInboxKeys := ⟨fun _ _ => rfl⟩
instance : Ignores SameBook Tab.askPullLeases := ⟨fun _ _ => rfl⟩
instance : Ignores SameBook Tab.askPullKeys := ⟨fun _ _ => rfl⟩
instance : IgnoresCounters SameBook := ⟨fun _ _ => rfl, fun _ _ => rfl, fun _ _ => rfl⟩

theorem Book.Turn.of_same {c : Call} (h_c : ∀ id, ¬ c.Closes id) (h : SameBook s s') :
    Turn s.book c s'.book := by
  rw [h]
  exact .same h_c

-- ============================================================================
-- Statements
-- ============================================================================

theorem insertRenew_run {row : RenewId → RenewRow} {h_id : ∀ n, (row n).id = n}
    {n : RenewId} (h : (insertRenew row h_id).run s = .ok (n, s')) :
    ∃ rs, s' = { s with renews := rs } ∧ s.renews.Adds (some (row n)) rs ∧
      ∀ r ∈ s.renews, r.incarnationId = (row 0).incarnationId → ¬ r.phase.Armed := by
  simp only [insertRenew, run_bind_reads, run_bind_require_ok, run_appendRow,
    Except.ok.injEq, Prod.mk.injEq] at h
  obtain ⟨-, h_alone, rfl, rfl⟩ := h
  exact ⟨_, rfl, Table.adds_append _, h_alone⟩

/-- A committed change of a renew finds it, and changes no other. -/
theorem updateRenew_run {id : RenewId} {p : RenewRow → Prop} [DecidablePred p]
    {f : RenewRow → RenewRow} {h_id : ∀ r, (f r).id = r.id} {refusal : String} {u : Unit}
    (h : (updateRenew id p f h_id refusal).run s = .ok (u, s')) :
    ∃ rs, s' = { s with renews := rs } ∧
      (∃ r ∈ s.renews, r.id = id ∧ p r ∧ f r ∈ rs) ∧
      s.renews.Edits
        (fun r r' => (r.id ≠ id ∧ r' = r) ∨ (r.id = id ∧ p r ∧ r' = f r)) rs := by
  simp only [updateRenew, run_bind_reads] at h
  obtain ⟨n, s₁, h_update, h⟩ := run_bind_ok.mp h
  simp only [run_bind_require_ok, run_require_ok, Prod.mk.injEq] at h
  obtain ⟨h_one, -, -, rfl⟩ := h
  simp only [run_updateRows, Except.ok.injEq, Prod.mk.injEq] at h_update
  obtain ⟨h_count, rfl⟩ := h_update
  have h_pos : 0 < (Tab.renews.get s).count fun r => r.id = id ∧ p r := by omega
  obtain ⟨r, h_r, h_key, h_p⟩ := Table.count_pos.mp h_pos
  refine ⟨_, rfl, ⟨r, h_r, h_key, h_p, Table.mem_update_of h_r ⟨h_key, h_p⟩⟩, ?_⟩
  refine Table.edits_update h_id ?_ ?_
  · rintro r' - ⟨h_key', h_p'⟩
    exact .inr ⟨h_key', h_p', rfl⟩
  · intro r' h_r' h_not
    refine .inl ⟨fun h_key' => h_not ?_, rfl⟩
    obtain rfl := Table.eq_of_key h_r' h_r (h_key'.trans h_key.symm)
    exact ⟨h_key, h_p⟩

-- ============================================================================
-- Phases of one cycle
-- ============================================================================

section Phases

theorem Moved.rfl {r : RenewRow} : Moved r r := ⟨.rfl, .refl _, .rfl, .rfl⟩

/-- A phase in which the renew goes on. -/
theorem updateRenew_moves {id : RenewId} {p : RenewRow → Prop} [DecidablePred p]
    {f : RenewRow → RenewRow} {h_id : ∀ r, (f r).id = r.id} {refusal : String} {u : Unit}
    (h : (updateRenew id p f h_id refusal).run s = .ok (u, s'))
    (h_f : ∀ r, p r → Moved r (f r)) :
    ∃ rs, s' = { s with renews := rs } ∧ s.renews.Edits Moved rs := by
  obtain ⟨rs, rfl, -, h_rs⟩ := updateRenew_run h
  refine ⟨rs, rfl, h_rs.mono ?_⟩
  rintro r - r' - (⟨-, rfl⟩ | ⟨-, h_p, rfl⟩)
  · exact Moved.rfl
  · exact h_f r h_p

theorem Paced.rfl {c : ScheduleRow} : Paced c c := ⟨.rfl, .refl _, .refl _, fun _ => .refl _⟩

/-- The end of a renew. -/
theorem updateRenew_closes {id : RenewId} {p : RenewRow → Prop} [DecidablePred p]
    {f : RenewRow → RenewRow} {h_id : ∀ r, (f r).id = r.id} {refusal : String} {u : Unit}
    (h : (updateRenew id p f h_id refusal).run s = .ok (u, s'))
    (h_p : ∀ r, p r → r.phase.Armed)
    (h_f : ∀ r, r.SameRenew (f r) ∧ (f r).askMessageId = r.askMessageId ∧
      ¬ (f r).phase.Armed) :
    ∃ rs, s' = { s with renews := rs } ∧ s.renews.Edits (Closed id) rs ∧
      ∃ r ∈ s.renews, r.id = id ∧ p r ∧ f r ∈ rs := by
  obtain ⟨rs, rfl, ⟨r, h_r, h_key, h_pr, h_fr⟩, h_rs⟩ := updateRenew_run h
  refine ⟨rs, rfl, h_rs.mono ?_, r, h_r, h_key, h_pr, h_fr⟩
  rintro r' - r'' - (h_same | ⟨h_key', h_pr', rfl⟩)
  · exact .inl h_same
  · obtain ⟨h_renew, h_ask, h_armed⟩ := h_f r'
    exact .inr ⟨h_key', h_renew, h_ask, h_p r' h_pr', h_armed⟩

theorem keeps_cancelUnansweredPrepare {now : Millis} {id : RenewId} {reason : String} :
    Keeps SameBook (cancelUnansweredPrepare now id reason) := inferInstance

end Phases

-- ============================================================================
-- The next cycle
-- ============================================================================

section Cycles

variable {now : Millis} {id : RenewId}

/-- The shared schedule of a policy agrees with the cycle that ends. -/
theorem sharedSchedule_eq_ok {r : RenewRow} {every : Millis} {plan : ScheduleRow}
    (h : sharedSchedule r every s = .ok plan) :
    plan ∈ s.schedules ∧ r.scheduleId = some plan.id ∧ plan.kind = .renew ∧
      plan.state = .active ∧ plan.intervalMs = every ∧ plan.cycle = r.cycle := by
  unfold sharedSchedule at h
  split at h
  · cases h
  · rename_i scheduleId h_schedule
    split at h
    · cases h
    · rename_i plan' h_find
      rw [Option.filter_eq_some_iff] at h_find
      obtain ⟨h_find, h_kind⟩ := h_find
      obtain ⟨h_mem, h_id⟩ := Table.find_eq_some.mp h_find
      split at h
      · cases h
      · rename_i h_agrees
        cases h
        simp only [not_or, not_not] at h_agrees
        obtain ⟨h_active, h_interval, h_cycle⟩ := h_agrees
        exact ⟨h_mem, h_id ▸ h_schedule, by simpa using h_kind, h_active, h_interval, h_cycle⟩

theorem armNextRenewCycle_run {outcome : ScheduleFiringOutcome} {res : Option RenewId}
    (h : (armNextRenewCycle now id outcome).run s = .ok (res, s')) :
    (s'.book = s.book ∧ ∀ r ∈ s.renews, r.id = id → r.everyMs = none) ∨
      Rearms s.book id s'.book := by
  simp only [armNextRenewCycle, run_bind_reads] at h
  split at h
  · rename_i h_none
    simp only [run_pure, Except.ok.injEq, Prod.mk.injEq] at h
    obtain ⟨-, rfl⟩ := h
    refine .inl ⟨rfl, fun r h_r h_id => ?_⟩
    rw [Table.find_eq_some.mpr ⟨h_r, h_id⟩, Option.bind_some, Option.map_eq_none_iff] at h_none
    exact h_none
  · rename_i r every h_some
    obtain ⟨r₀, h_find, h_every⟩ := Option.bind_eq_some_iff.mp h_some
    obtain ⟨every₀, h_every, h_pair⟩ := Option.map_eq_some_iff.mp h_every
    cases h_pair
    obtain ⟨h_r, h_id⟩ := Table.find_eq_some.mp h_find
    simp only [run_bind_query_ok, run_bind_reads] at h
    obtain ⟨plan, h_plan, h⟩ := h
    obtain ⟨h_mem, h_schedule, h_kind, h_active, h_interval, h_cycle⟩ :=
      sharedSchedule_eq_ok h_plan
    rw [run_ite_then] at h
    obtain ⟨_, s₁, h_fire, h⟩ := run_bind_ok.mp h
    obtain ⟨_, s₂, h_advance, h⟩ := run_bind_ok.mp h
    obtain ⟨next, s₃, h_next, h⟩ := run_bind_ok.mp h
    simp only [run_pure, Except.ok.injEq, Prod.mk.injEq] at h
    obtain ⟨-, rfl⟩ := h
    -- The firing of a cycle that is on record stays the one on record.
    obtain ⟨fs, rfl, f, h_f, h_fs⟩ : ∃ fs, s₁ = { s with scheduleFirings := fs } ∧
        ∃ f : ScheduleFiringRow, (f.scheduleId = plan.id ∧ f.cycle = plan.cycle) ∧
          ((∃ f' ∈ s.scheduleFirings, f'.key = f.key) ∧ fs = s.scheduleFirings ∨
            s.scheduleFirings.Adds (some f) fs) := by
      split at h_fire
      · rw [run_insertRow_ok] at h_fire
        obtain ⟨fs, h_fs, h_eq⟩ := h_fire
        cases h_eq
        exact ⟨fs, rfl, _, ⟨rfl, h_cycle.symm⟩, .inr (Table.adds_insert? h_fs)⟩
      · rename_i h_found
        cases h_fire
        obtain ⟨f, h_f⟩ := Option.ne_none_iff_exists'.mp h_found
        obtain ⟨h_mem_f, h_key⟩ := Table.find_eq_some.mp h_f
        obtain ⟨h_f_schedule, h_f_cycle⟩ := Prod.mk.inj h_key
        exact ⟨_, rfl, f, ⟨h_f_schedule, h_f_cycle.trans h_cycle.symm⟩,
          .inl ⟨⟨f, h_mem_f, rfl⟩, rfl⟩⟩
    obtain ⟨cs, rfl, h_cs⟩ := run_updateRows_edits
      (Advanced plan.id (saturatingAdd now plan.intervalMs)) h_advance
      (by
        rintro c h_c ⟨h_key, -⟩
        obtain rfl := Table.eq_of_key h_c h_mem h_key
        exact .inr ⟨rfl, ⟨rfl, rfl, rfl, rfl, rfl, rfl, rfl⟩, rfl,
          congrArg (· + 1) h_cycle.symm, rfl⟩)
      (by
        rintro c h_c h_not
        refine .inl ⟨fun h_key => h_not ?_, rfl⟩
        obtain rfl := Table.eq_of_key h_c h_mem h_key
        exact ⟨rfl, h_active⟩)
    obtain ⟨rs, rfl, h_rs, h_alone⟩ := insertRenew_run h_next
    refine .inr (.mk ⟨h_r, h_id⟩
      ⟨h_mem, h_schedule, h_kind, h_active, h_interval ▸ h_every, h_cycle⟩ h_f ?_ h_alone
      h_cs h_rs h_fs)
    exact ⟨rfl, rfl, rfl, rfl, h_every.symm, rfl, rfl⟩

end Cycles

-- ============================================================================
-- Calls on renews
-- ============================================================================

section Renews

variable {now : Millis} {id : RenewId} {c : Call}

/-- A cycle that ends under a policy that goes on. -/
theorem closes_turn {p : RenewRow → Prop} [DecidablePred p]
    {f : RenewRow → RenewRow} {h_id : ∀ r, (f r).id = r.id} {refusal : String} {s₁ s₂ : Store}
    {u : Unit} {res : Option RenewId} {outcome : ScheduleFiringOutcome} (h_c : c.Closes id)
    (h_update : (updateRenew id p f h_id refusal).run s = .ok (u, s₁))
    (h_same : SameBook s₁ s₂)
    (h_arm : (armNextRenewCycle now id outcome).run s₂ = .ok (res, s'))
    (h_p : ∀ r, p r → r.phase.Armed)
    (h_f : ∀ r, r.SameRenew (f r) ∧ (f r).askMessageId = r.askMessageId ∧
      ¬ (f r).phase.Armed) : Turn s.book c s'.book := by
  obtain ⟨rs, rfl, h_rs, -⟩ := updateRenew_closes h_update h_p h_f
  have h_book : s₂.book = { s.book with renews := rs } := h_same
  rcases armNextRenewCycle_run h_arm with ⟨h_end, h_once⟩ | h_next
  · rw [h_end, h_book]
    refine .close h_c (fun r h_r h_key => ?_) h_rs
    -- The closed row says what the row before it said.
    obtain ⟨r', h_r', h_rr⟩ := h_rs.image r h_r
    have h_r'' : r' ∈ s₂.renews := by
      rw [show s₂.renews = rs from congrArg Book.renews h_book]
      exact h_r'
    rcases h_rr with ⟨h_ne, -⟩ | ⟨-, h_renew, -⟩
    · exact absurd h_key h_ne
    · rw [← h_renew.every]
      exact h_once r' h_r'' (h_renew.key.trans h_key)
  · rw [h_book] at h_next
    exact .next h_c h_rs h_next

/-- The end of a renew with its policy. -/
theorem endRenew_turn {p : RenewRow → Prop} [DecidablePred p] {reason refusal : String}
    {state : ScheduleState} {u : Unit}
    (h : (endRenew now id p reason refusal state).run s = .ok (u, s'))
    (h_p : ∀ r, p r → r.phase.Armed) (h_state : state ≠ .active)
    (h_c : ∀ r, r.id = id → p r → c.Ends r) : Turn s.book c s'.book := by
  unfold endRenew at h
  obtain ⟨_, s₁, h_update, h⟩ := run_bind_ok.mp h
  obtain ⟨_, s₂, h_cancel, h⟩ := run_bind_ok.mp h
  simp only [run_bind_reads] at h
  obtain ⟨_, s₃, h_stop, h⟩ := run_bind_ok.mp h
  simp only [run_pure, Except.ok.injEq, Prod.mk.injEq] at h
  obtain ⟨-, rfl⟩ := h
  obtain ⟨rs, rfl, h_rs, r, h_r, h_key, h_pr, h_fr⟩ := updateRenew_closes h_update h_p
    fun r => ⟨⟨rfl, rfl, rfl, rfl, rfl, rfl, rfl⟩, rfl, by simp [RenewPhase.Armed]⟩
  have h_book : s₂.book = { s.book with renews := rs } :=
    keeps_cancelUnansweredPrepare.keeps h_cancel
  have h_renews : s₂.renews = rs := congrArg Book.renews h_book
  have h_find : (s₂.renews.find id).bind (·.scheduleId) = r.scheduleId := by
    rw [h_renews, Table.find_eq_some.mpr ⟨h_fr, h_key⟩]
    rfl
  obtain ⟨cs, rfl, h_cs⟩ := run_updateRows_edits (Stopped fun c => some c.id = r.scheduleId) h_stop
    (by
      rintro plan - ⟨h_id, h_active⟩
      exact .inr ⟨h_find ▸ h_id, h_active, ⟨rfl, rfl, rfl, rfl, rfl, rfl, rfl⟩, rfl, h_state⟩)
    (by
      rintro plan - h_not
      rw [h_find] at h_not
      exact .inl ⟨h_not, rfl⟩)
  have h_end : (Tab.schedules.put cs s₂).book =
      { s.book with schedules := cs, renews := rs } := by
    change Book.mk cs s₂.book.renews s₂.book.firings = _
    rw [h_book]
  rw [h_end]
  have h_cs : s.schedules.Edits (Stopped fun c => some c.id = r.scheduleId) cs := by
    rw [show s.schedules = s₂.schedules from (congrArg Book.schedules h_book).symm]
    exact h_cs
  exact .stop (h_c r h_key h_pr) h_r (h_key ▸ h_rs) h_cs

theorem createRenew_turn {intent : RenewIntent} {res : RenewId}
    (h : (createRenew now intent).run s = .ok (res, s')) :
    Turn s.book (.createRenew now intent) s'.book := by
  simp only [createRenew, run_bind_reads, run_bind_require_ok] at h
  obtain ⟨-, h_alone, -, h⟩ := h
  cases h_every : intent.everyMs with
  | none =>
    simp only [h_every, run_bind_pure] at h
    obtain ⟨rs, rfl, h_rs, -⟩ := insertRenew_run h
    refine .arm ?_ ⟨rfl, rfl, rfl⟩ ⟨rfl, rfl⟩ ?_ (.none _) h_rs
    · exact h_alone
    · intro c h_c
      cases h_c
  | some every =>
    simp only [h_every, run_bind_require_ok] at h
    obtain ⟨-, key, s₁, h_append, h⟩ := h.imp_right run_bind_ok.mp
    obtain ⟨cs, rfl, h_cs⟩ := run_appendRow_adds h_append
    rw [run_bind_pure] at h
    obtain ⟨rs, rfl, h_rs, -⟩ := insertRenew_run h
    refine .arm ?_ ⟨rfl, rfl, rfl⟩ ⟨rfl, rfl⟩ ?_ h_cs h_rs
    · exact h_alone
    · intro c h_c
      cases h_c
      exact ⟨rfl, rfl, rfl, rfl⟩

theorem accrueRenewOccupancy_turn {accumulating : Bool} {u : Unit}
    (h_c : ∀ id, ¬ c.Closes id)
    (h : (accrueRenewOccupancy id accumulating now).run s = .ok (u, s')) :
    Turn s.book c s'.book := by
  simp only [accrueRenewOccupancy, run_bind_reads] at h
  obtain ⟨_, s₁, h_plan, h⟩ := run_bind_ok.mp h
  simp only [run_bind_require_ok, run_bind_reads] at h
  obtain ⟨-, _, s₂, h_renew, h⟩ := h.imp_right run_bind_ok.mp
  cases h
  obtain ⟨cs, rfl, h_cs⟩ := run_updateRows_edits Paced h_plan
    (by
      rintro plan - ⟨-, h_kind, -⟩
      refine ⟨⟨rfl, rfl, rfl, rfl, rfl, rfl, rfl⟩, rfl, rfl, fun h_tell => ?_⟩
      rw [h_kind] at h_tell
      cases h_tell)
    (fun _ _ _ => Paced.rfl)
  obtain ⟨rs, rfl, h_rs⟩ := run_updateRows_edits Moved h_renew
    (by
      rintro r - -
      exact ⟨⟨rfl, rfl, rfl, rfl, rfl, rfl, rfl⟩, rfl, Iff.rfl, Iff.rfl⟩)
    (fun _ _ _ => Moved.rfl)
  exact .move h_c h_cs h_rs

theorem markRenewPreparing_turn {ask : MessageId} {deadline : Millis} {u : Unit}
    (h : (markRenewPreparing id ask deadline).run s = .ok (u, s')) :
    Turn s.book (.markRenewPreparing id ask deadline) s'.book := by
  simp only [markRenewPreparing, run_bind_reads] at h
  obtain ⟨_, s₁, h_update, h⟩ := run_bind_ok.mp h
  simp only [run_require_ok, Prod.mk.injEq] at h
  obtain ⟨-, -, rfl⟩ := h
  obtain ⟨rs, rfl, -, h_rs⟩ := updateRenew_run h_update
  refine .link (h_rs.mono ?_)
  rintro r - r' - (h_same | ⟨h_key, h_phase, rfl⟩)
  · exact .inl h_same
  · exact .inr ⟨h_key, ⟨rfl, rfl, rfl, rfl, rfl, rfl, rfl⟩, h_phase, rfl, rfl⟩

/-- A phase that only moves one renew on. -/
theorem moves_turn {p : RenewRow → Prop} [DecidablePred p] {f : RenewRow → RenewRow}
    {h_id : ∀ r, (f r).id = r.id} {refusal : String} {s₁ : Store} {u : Unit}
    (h_c : ∀ id, ¬ c.Closes id)
    (h : (updateRenew id p f h_id refusal).run s = .ok (u, s₁)) (h_same : SameBook s₁ s')
    (h_f : ∀ r, p r → Moved r (f r)) : Turn s.book c s'.book := by
  obtain ⟨rs, rfl, h_rs⟩ := updateRenew_moves h h_f
  rw [show s'.book = _ from h_same]
  exact .move h_c (.refl (fun _ => Paced.rfl) _) h_rs

theorem markRenewReady_turn {u : Unit} (h_c : ∀ id, ¬ c.Closes id)
    (h : (markRenewReady now id).run s = .ok (u, s')) :
    Turn s.book c s'.book := by
  unfold markRenewReady at h
  obtain ⟨_, s₁, h_update, h⟩ := run_bind_ok.mp h
  obtain ⟨_, s₂, h_cancel, h⟩ := run_bind_ok.mp h
  cases h
  refine moves_turn h_c h_update (keeps_cancelUnansweredPrepare.keeps h_cancel) ?_
  intro r h_phase
  refine ⟨⟨rfl, rfl, rfl, rfl, rfl, rfl, rfl⟩, rfl, ?_, ?_⟩ <;>
    rcases h_phase with h_phase | h_phase <;> simp [RenewPhase.Armed, h_phase]

theorem markRenewClearing_turn {session : NativeSession} {deadline : Millis}
    {notBefore : Option Millis} {u : Unit} (h_c : ∀ id, ¬ c.Closes id)
    (h : (markRenewClearing id session deadline notBefore).run s = .ok (u, s')) :
    Turn s.book c s'.book := by
  refine moves_turn h_c h rfl fun r h_phase =>
    ⟨⟨rfl, rfl, rfl, rfl, rfl, rfl, rfl⟩, rfl, ?_, ?_⟩ <;> simp [RenewPhase.Armed, h_phase]

theorem markRenewInjected_turn {u : Unit} (h_c : ∀ id, ¬ c.Closes id)
    (h : (markRenewInjected id).run s = .ok (u, s')) :
    Turn s.book c s'.book := by
  refine moves_turn h_c h rfl fun r h_phase =>
    ⟨⟨rfl, rfl, rfl, rfl, rfl, rfl, rfl⟩, rfl, ?_, ?_⟩ <;> simp [RenewPhase.Armed, h_phase]

theorem markRenewTimedOut_turn {u : Unit} (h_c : ∀ id, ¬ c.Closes id)
    (h : (markRenewTimedOut id).run s = .ok (u, s')) :
    Turn s.book c s'.book := by
  refine moves_turn h_c h rfl fun r h_phase =>
    ⟨⟨rfl, rfl, rfl, rfl, rfl, rfl, rfl⟩, rfl, ?_, ?_⟩ <;> simp [RenewPhase.Armed, h_phase]

theorem claimRenewClearStallNotice_turn {b : Bool} (h_c : ∀ id, ¬ c.Closes id)
    (h : (claimRenewClearStallNotice id now).run s = .ok (b, s')) :
    Turn s.book c s'.book := by
  unfold claimRenewClearStallNotice at h
  obtain ⟨_, s₁, h_update, h⟩ := run_bind_ok.mp h
  cases h
  obtain ⟨rs, rfl, h_rs⟩ := run_updateRows_edits Moved h_update
    (fun _ _ _ => ⟨⟨rfl, rfl, rfl, rfl, rfl, rfl, rfl⟩, rfl, Iff.rfl, Iff.rfl⟩)
    (fun _ _ _ => Moved.rfl)
  exact .move h_c (.refl (fun _ => Paced.rfl) _) h_rs

theorem completeRenew_turn {res : Option RenewId}
    (h : (completeRenew now id).run s = .ok (res, s')) :
    Turn s.book (.completeRenew now id) s'.book := by
  obtain ⟨_, s₁, h_update, h⟩ := run_bind_ok.mp h
  refine closes_turn rfl h_update rfl h (fun r h_phase => ?_)
    fun r => ⟨⟨rfl, rfl, rfl, rfl, rfl, rfl, rfl⟩, rfl, by simp [RenewPhase.Armed]⟩
  simp [RenewPhase.Armed, h_phase]

theorem abortRenew_turn {reason : String} {res : Option RenewId}
    (h : (abortRenew now id reason).run s = .ok (res, s')) :
    Turn s.book (.abortRenew now id reason) s'.book := by
  obtain ⟨_, s₁, h_update, h⟩ := run_bind_ok.mp h
  obtain ⟨_, s₂, h_cancel, h⟩ := run_bind_ok.mp h
  refine closes_turn rfl h_update (keeps_cancelUnansweredPrepare.keeps h_cancel) h
    (fun r h_phase => ?_)
    fun r => ⟨⟨rfl, rfl, rfl, rfl, rfl, rfl, rfl⟩, rfl, by simp [RenewPhase.Armed]⟩
  rcases h_phase with h_phase | h_phase | h_phase | h_phase <;>
    simp [RenewPhase.Armed, h_phase]

theorem abandonRenewProof_turn {reason : String} {res : Option RenewId}
    (h : (abandonRenewProof now id reason).run s = .ok (res, s')) :
    Turn s.book (.abandonRenewProof now id reason) s'.book := by
  obtain ⟨_, s₁, h_update, h⟩ := run_bind_ok.mp h
  refine closes_turn rfl h_update rfl h (fun r h_phase => ?_)
    fun r => ⟨⟨rfl, rfl, rfl, rfl, rfl, rfl, rfl⟩, rfl, by simp [RenewPhase.Armed]⟩
  simp [RenewPhase.Armed, h_phase]

theorem terminateRenew_turn {reason : String} {u : Unit}
    (h : (terminateRenew now id reason).run s = .ok (u, s')) (h_c : ∀ r, r.id = id → c.Ends r) :
    Turn s.book c s'.book :=
  endRenew_turn h (fun _ h_armed => h_armed) (by decide) fun r h_key _ => h_c r h_key

theorem terminateRenewAnnounced_turn {reason notice : String} {n : OperatorNoticeId}
    (h : (terminateRenewAnnounced now id reason notice).run s = .ok (n, s')) :
    Turn s.book (.terminateRenewAnnounced now id reason notice) s'.book := by
  obtain ⟨_, s₁, h_end, h⟩ := run_bind_ok.mp h
  have h_same : SameBook s₁ s' := Keeps.keeps h
  rw [show s'.book = s₁.book from h_same]
  exact terminateRenew_turn h_end fun r h_key => h_key.symm

theorem cancelRenew_turn {requester : LogicalAgentId} {reason notice : String}
    {n : OperatorNoticeId}
    (h : (cancelRenew now id requester reason notice).run s = .ok (n, s')) :
    Turn s.book (.cancelRenew now id requester reason notice) s'.book := by
  simp only [cancelRenew, run_bind_reads] at h
  obtain ⟨_, s₁, h_end, h⟩ := run_bind_ok.mp h
  have h_same : SameBook s₁ s' := Keeps.keeps h
  rw [show s'.book = s₁.book from h_same]
  exact endRenew_turn h_end (fun _ h_p => h_p.1) (by decide)
    fun r h_key h_p => ⟨h_key.symm, h_p.2⟩

end Renews

-- ============================================================================
-- Calls on tell schedules
-- ============================================================================

section Tells

variable {now : Millis}

theorem createTellSchedule_turn {sender recipient : LogicalAgentId} {body : String}
    {interval first : Millis} {key : String} {res : CreatedSchedule}
    (h : (createTellSchedule now sender recipient body interval first key).run s =
      .ok (res, s')) :
    Turn s.book (.createTellSchedule now sender recipient body interval first key)
      s'.book := by
  simp only [createTellSchedule, run_bind_require_ok, run_bind_reads] at h
  obtain ⟨-, h⟩ := h
  split at h
  · rw [run_bind_require_ok] at h
    cases h.2
    exact .same fun _ => id
  · simp only [run_bind_require_ok] at h
    obtain ⟨-, -, -, h⟩ := h
    obtain ⟨id, s₁, h_append, h⟩ := run_bind_ok.mp h
    cases h
    obtain ⟨cs, rfl, h_cs⟩ := run_appendRow_adds h_append
    exact .compose ⟨rfl, rfl, rfl⟩ h_cs

theorem cancelSchedule_turn {id : ScheduleId} {requester : LogicalAgentId} {reason : String}
    {u : Unit} (h : (cancelSchedule now id requester reason).run s = .ok (u, s')) :
    Turn s.book (.cancelSchedule now id requester reason) s'.book := by
  unfold cancelSchedule at h
  rw [run_bind_require_ok] at h
  obtain ⟨n, s₁, h_update, h⟩ := run_bind_ok.mp h.2
  simp only [run_require_ok, Prod.mk.injEq] at h
  obtain ⟨h_one, -, rfl⟩ := h
  have h_pos : 0 < n := by omega
  have h_off : ScheduleState.cancelled ≠ .active := by decide
  obtain ⟨-, -, plan, h_plan, ⟨h_id, h_kind, h_active, h_party⟩, -⟩ :=
    run_updateRows_pos h_update h_pos
  obtain ⟨cs, rfl, h_cs⟩ := run_updateRows_edits (Stopped fun c => c.id = id ∧ c.kind = .tell)
    h_update
    (by
      rintro c - ⟨h_c, h_tell, h_on, -⟩
      exact .inr ⟨⟨h_c, h_tell⟩, h_on, ⟨rfl, rfl, rfl, rfl, rfl, rfl, rfl⟩, rfl, h_off⟩)
    (by
      rintro c h_c h_not
      refine .inl ⟨fun h_all => h_not ?_, rfl⟩
      obtain rfl := Table.eq_of_key h_c h_plan (h_all.1.1.trans h_id.symm)
      exact ⟨h_id, h_kind, h_active, h_party⟩)
  exact .cancel h_cs

end Tells

end Kelpie
