/-
  Kelpie.Schedules.Tells

  Repeating tells: each cycle of a schedule fires once, no message of it is sent
  while an earlier one may still arrive, and a target that stays unavailable is
  announced once.
-/

import Kelpie.Ledger.Step
import Kelpie.Schedules.Policies

namespace Kelpie

open Lib Lib.Tx Book

variable {s s' : Store} {b b' : Book} {c : Call}

-- ============================================================================
-- Deliveries fade
-- ============================================================================

namespace Ledger

variable {g g' : Ledger}

/-- A message of the ledger that may still arrive. -/
def Awaits (g : Ledger) (messageId : MessageId) : Prop :=
  ∃ d ∈ g.deliveries, d.messageId = messageId ∧ d.outcome.Live

/-- The messages of the ledger. -/
def Knows (g : Ledger) (messageId : MessageId) : Prop :=
  ∃ m ∈ g.messages, m.id = messageId

/-- Messages stay, and one that could not arrive any more does not come back. -/
structure Fades (g g' : Ledger) : Prop where
  knows : ∀ id, g.Knows id → g'.Knows id
  awaits : ∀ id, g.Knows id → g'.Awaits id → g.Awaits id

theorem Fades.refl (g : Ledger) : Fades g g := ⟨fun _ => id, fun _ _ => id⟩

theorem Fades.trans {g₁ : Ledger} (h : Fades g g₁) (h' : Fades g₁ g') : Fades g g' where
  knows id h_id := h'.knows id (h.knows id h_id)
  awaits id h_id h_live := h.awaits id h_id (h'.awaits id (h.knows id h_id) h_live)

/-- Deliveries that only end. -/
theorem Fades.deliveries {e : DeliveryRow → DeliveryRow → Prop}
    (h_messages : g'.messages = g.messages) (h : g.deliveries.Edits e g'.deliveries)
    (h_e : ∀ d d', e d d' → d'.messageId = d.messageId ∧ (d'.outcome.Live → d.outcome.Live)) :
    Fades g g' where
  knows id h_id := by
    unfold Knows
    rw [h_messages]
    exact h_id
  awaits id _ := by
    rintro ⟨d', h_d', h_id, h_live⟩
    obtain ⟨d, h_d, h_dd⟩ := h.origin d' h_d'
    obtain ⟨h_message, h_live'⟩ := h_e d d' h_dd
    exact ⟨d, h_d, h_message.symm.trans h_id, h_live' h_live⟩

theorem Fades.same (h_messages : g'.messages = g.messages)
    (h_deliveries : g'.deliveries = g.deliveries) : Fades g g' := by
  refine .deliveries h_messages (?_ : g.deliveries.Edits Eq _) fun d d' h_eq => ?_
  · rw [h_deliveries]
    exact .refl (fun _ => rfl) _
  · obtain rfl := h_eq
    exact ⟨rfl, id⟩

/-- What is posted goes out under a new message. -/
theorem Posts.fades {p : Posting} (h : Posts p g g') : Fades g g' where
  knows id := by
    rintro ⟨m, h_m, h_id⟩
    exact ⟨m, (h.messages.mem m).mpr (.inl h_m), h_id⟩
  awaits id := by
    rintro ⟨m, h_m, h_id⟩ ⟨d, h_d, h_message, h_live⟩
    rcases (h.deliveries.mem d).mp h_d with h_d | h_d
    · exact ⟨d, h_d, h_message, h_live⟩
    · have h_new := (h.proper.delivery d h_d).1
      exact absurd (h_id.trans (h_message.symm.trans h_new)) (h.messages.fresh _ rfl m h_m)

theorem Effect.fades (h : Effect True g g') : Fades g g' := by
  cases h with
  | post h_posts => exact h_posts.fades
  | deliver h_ds =>
    refine .deliveries rfl h_ds ?_
    rintro d d' ⟨h_mail, h_same | ⟨h_open, -⟩ | ⟨-, h_queued, h_read⟩⟩
    · exact ⟨h_mail.message, fun h_live => h_same ▸ h_live⟩
    · refine ⟨h_mail.message, fun _ => ?_⟩
      rcases h_open with h_open | h_open <;> simp [h_open, DeliveryOutcome.Live]
    · exact ⟨h_mail.message, fun _ => by simp [h_queued, DeliveryOutcome.Live]⟩
  | fail _ _ h_dropped _ h_ds =>
    refine .deliveries rfl h_ds ?_
    rintro d d' (⟨-, rfl⟩ | ⟨-, h_mail, h_gone | ⟨-, h_same⟩⟩)
    · exact ⟨rfl, id⟩
    · refine ⟨h_mail.message, fun h_live => absurd h_live ?_⟩
      rw [h_gone]
      exact h_dropped trivial
    · exact ⟨h_mail.message, fun h_live => h_same ▸ h_live⟩
  | supersede _ _ h_ds =>
    refine .deliveries rfl h_ds ?_
    rintro d d' (⟨-, rfl⟩ | ⟨-, h_queued, h_mail, -⟩)
    · exact ⟨rfl, id⟩
    · exact ⟨h_mail.message, fun _ => by simp [h_queued, DeliveryOutcome.Live]⟩
  | operate | conduct | resolve | amend | remind | attempt => exact .same rfl rfl

theorem Path.fades (h : Path True g g') : Fades g g' := by
  induction h with
  | refl => exact .refl _
  | tail _ h_effect ih => exact ih.trans h_effect.fades

end Ledger

open Ledger

/-- What the daemon calls lets deliveries only fade. -/
theorem Call.fades (c : Call) (h : c.Step s s') (h_called : c.AsCalled s) :
    Fades s.ledger s'.ledger := by
  cases c.account h fun _ : True => h_called with
  | path h_path => exact h_path.fades
  | accept h_accepts =>
    refine .deliveries h_accepts.messages h_accepts.deliveries ?_
    rintro d d' (⟨-, rfl⟩ | ⟨-, -, h_submitted, h_mail, -⟩)
    · exact ⟨rfl, id⟩
    · exact ⟨h_mail.message, fun _ => by simp [h_submitted, DeliveryOutcome.Live]⟩
  | reply _ h_posts h_answers =>
    exact h_posts.fades.trans (.same h_answers.messages h_answers.deliveries)
  | sweep h_g' h_ds =>
    rw [h_g']
    refine .deliveries rfl h_ds ?_
    rintro d d' (rfl | ⟨h_mail, h_queued, -⟩)
    · exact ⟨rfl, id⟩
    · exact ⟨h_mail.message, fun _ => by simp [h_queued, DeliveryOutcome.Live]⟩

-- ============================================================================
-- Firings of tell schedules
-- ============================================================================

namespace Book

/-- The firing is a recorded one of a tell schedule. -/
def Tells (b : Book) (f : ScheduleFiringRow) : Prop :=
  f ∈ b.firings ∧ ∃ c ∈ b.schedules, c.id = f.scheduleId ∧ c.kind = .tell

/-- The message of the firing may still arrive. -/
def Pending (g : Ledger) (f : ScheduleFiringRow) : Prop :=
  ∃ id ∈ f.messageId, g.Awaits id

/-- The firings of tell schedules, with the mail that they sent. -/
structure Paces (b : Book) (g : Ledger) : Prop where
  sent : ∀ f, b.Tells f → ∀ id ∈ f.messageId, f.outcome = .materialized ∧ g.Knows id
  single : ∀ f f', b.Tells f → b.Tells f' → f'.scheduleId = f.scheduleId → Pending g f →
    Pending g f' → f' = f
  quiet : ∀ f f', b.Tells f → b.Tells f' → f'.scheduleId = f.scheduleId →
    f.outcome = .targetUnavailable → f'.cycle ≤ f.cycle → ¬ Pending g f'
  between : ∀ f f', b.Tells f → b.Tells f' → f'.scheduleId = f.scheduleId →
    f.outcome = .targetUnavailable → f'.outcome = .skipped → f.cycle < f'.cycle →
    ∃ m, b.Tells m ∧ m.scheduleId = f.scheduleId ∧ m.outcome = .materialized ∧
      f.cycle < m.cycle ∧ m.cycle < f'.cycle

theorem Paces.empty : Paces Store.empty.book Store.empty.ledger where
  sent _ h := absurd h.1 Table.notMem_empty
  single _ _ h := absurd h.1 Table.notMem_empty
  quiet _ _ h := absurd h.1 Table.notMem_empty
  between _ _ h := absurd h.1 Table.notMem_empty

/-- Where no firing of a tell schedule is recorded, the mail only fades. -/
theorem Paces.fade {g g' : Ledger} (h : Paces b g) (h_fades : Fades g g')
    (h_tells : ∀ f, b'.Tells f ↔ b.Tells f) : Paces b' g' := by
  have h_pending {f : ScheduleFiringRow} (h_f : b.Tells f) (h_live : Pending g' f) :
      Pending g f := by
    obtain ⟨id, h_id, h_awaits⟩ := h_live
    exact ⟨id, h_id, h_fades.awaits id (h.sent f h_f id h_id).2 h_awaits⟩
  refine ⟨fun f h_f id h_id => ?_, fun f f' h_f h_f' h_same h_live h_live' => ?_,
    fun f f' h_f h_f' h_same h_out h_le h_live => ?_,
    fun f f' h_f h_f' h_same h_out h_skip h_lt => ?_⟩
  · rw [h_tells] at h_f
    obtain ⟨h_outcome, h_known⟩ := h.sent f h_f id h_id
    exact ⟨h_outcome, h_fades.knows id h_known⟩
  · rw [h_tells] at h_f h_f'
    exact h.single f f' h_f h_f' h_same (h_pending h_f h_live) (h_pending h_f' h_live')
  · rw [h_tells] at h_f h_f'
    exact h.quiet f f' h_f h_f' h_same h_out h_le (h_pending h_f' h_live)
  · rw [h_tells] at h_f h_f'
    simp only [h_tells]
    exact h.between f f' h_f h_f' h_same h_out h_skip h_lt

/-- The kind of a recorded schedule stays what it is. -/
theorem Turn.kind {p p' : ScheduleRow} (h : Turn b c b') (h_p : p ∈ b.schedules)
    (h_p' : p' ∈ b'.schedules) (h_id : p'.id = p.id) : p'.kind = p.kind := by
  obtain ⟨p₁, h_p₁, h_same⟩ := h.plans p h_p
  obtain rfl := Table.eq_of_key h_p₁ h_p' (h_same.key.trans h_id.symm)
  exact h_same.kind

/-- What is on record stays on record. -/
theorem Turn.firings (h : Turn b c b') {f : ScheduleFiringRow} (h_f : f ∈ b.firings) :
    f ∈ b'.firings := by
  cases h with
  | same | move | link | arm | close | stop | compose | cancel => exact h_f
  | fire _ _ _ h_fs => exact (h_fs.mem f).mpr (.inl h_f)
  | next _ _ h_next =>
    obtain ⟨-, -, -, -, -, -, -, h_fs⟩ := h_next
    rcases h_fs with ⟨-, rfl⟩ | h_fs
    · exact h_f
    · exact (h_fs.mem f).mpr (.inl h_f)

/-- Every call but a firing leaves the firings of tell schedules as they are. -/
theorem Turn.tells (h : Turn b c b') (h_recording : Recording b)
    (h_c : ∀ item nowMs, c ≠ .fireTellSchedule item nowMs) (f : ScheduleFiringRow) :
    b'.Tells f ↔ b.Tells f := by
  have h_firings : (f ∈ b'.firings ∧ ∃ p ∈ b'.schedules, p.id = f.scheduleId ∧ p.kind = .tell) →
      f ∈ b.firings := by
    rintro ⟨h_f, p', h_p', h_id, h_tell⟩
    cases h with
    | same | move | link | arm | close | stop | compose | cancel => exact h_f
    | fire => exact absurd rfl (h_c _ _)
    | next h_closes h_rs h_next =>
      have h_kind {p : ScheduleRow} (h_p : p ∈ b.schedules) (h_id : p'.id = p.id) :
          p'.kind = p.kind := Turn.kind (.next h_closes h_rs h_next) h_p h_p' h_id
      obtain ⟨-, h_plan, h_new, -, -, -, -, h_fs⟩ := h_next
      rcases h_fs with ⟨-, rfl⟩ | h_fs
      · exact h_f
      · rcases (h_fs.mem f).mp h_f with h_f | h_f
        · exact h_f
        · -- The firing that ends a cycle of a policy is of no tell schedule.
          obtain rfl := Option.mem_some.mp h_f
          have h_renew := h_kind h_plan.1 (h_id.trans h_new.1)
          rw [h_tell, h_plan.2.2.1] at h_renew
          cases h_renew
  constructor
  · intro h_tells
    have h_f := h_firings h_tells
    obtain ⟨-, p', h_p', h_id', h_tell⟩ := h_tells
    obtain ⟨p, h_p, h_id⟩ := h_recording.known f h_f
    refine ⟨h_f, p, h_p, h_id, ?_⟩
    rw [← h.kind h_p h_p' (h_id'.trans h_id.symm), h_tell]
  · rintro ⟨h_f, p, h_p, h_id, h_tell⟩
    obtain ⟨p', h_p', h_same⟩ := h.plans p h_p
    exact ⟨h.firings h_f, p', h_p', h_same.key.trans h_id, h_same.kind.trans h_tell⟩

end Book

/-- A delivery of an earlier firing has not come to an end. -/
theorem firingUnresolved_iff {item : DueTellSchedule} {c : ScheduleRow} (h_c : c ∈ s.schedules)
    (h_of : item.Of c) : s.FiringUnresolved item.scheduleId ↔
      ∃ f, s.book.Tells f ∧ f.scheduleId = item.scheduleId ∧ Pending s.ledger f := by
  constructor
  · rintro ⟨f, h_f, h_id, d, h_d, h_message, h_live⟩
    exact ⟨f, ⟨h_f, c, h_c, h_of.key.trans h_id.symm, h_of.kind⟩, h_id, d.messageId,
      h_message.symm, d, h_d, rfl, h_live⟩
  · rintro ⟨f, ⟨h_f, -⟩, h_id, id, h_message, d, h_d, rfl, h_live⟩
    exact ⟨f, h_f, h_id, d, h_d, h_message.symm, h_live⟩

/-- A recorded firing of the schedule comes before the cycle that is due. -/
theorem Fires.before {item : DueTellSchedule} {nowMs : Millis} (h : Fires item nowMs s s')
    (h_recording : Recording s.book) {f : ScheduleFiringRow} (h_f : f ∈ s.scheduleFirings)
    (h_id : f.scheduleId = item.scheduleId) : f.cycle < item.cycle := by
  obtain ⟨c, h_c, h_key, -, h_cycle, -⟩ := h.due
  have h_lt := (((h_recording.recorded c h_c).2 f.cycle).mp
    ⟨f, h_f, h_id.trans h_key.symm, rfl⟩).2
  omega

/-- A firing records its cycle in step with the mail that it sends. -/
theorem Book.Paces.fire {item : DueTellSchedule} {nowMs : Millis} {c : ScheduleRow}
    (h : Paces s.book s.ledger) (h_recording : Recording s.book) (h_c : c ∈ s.schedules)
    (h_of : item.Of c) (h_fires : Fires item nowMs s s') : Paces s'.book s'.ledger := by
  have h_before {f : ScheduleFiringRow} (h_f : s.book.Tells f)
      (h_id : f.scheduleId = item.scheduleId) : f.cycle < item.cycle :=
    h_fires.before h_recording h_f.1 h_id
  have h_turn := h_fires.turn
  obtain ⟨f₀, h_id₀, h_cycle₀, h_fs, h_disposed⟩ := h_fires.firing
  have h_tells {f : ScheduleFiringRow} (h_f : s'.book.Tells f) : s.book.Tells f ∨ f = f₀ := by
    obtain ⟨h_f, p', h_p', h_id', h_tell⟩ := h_f
    rcases (h_fs.mem f).mp h_f with h_f | h_f
    · obtain ⟨p, h_p, h_id⟩ := h_recording.known f h_f
      refine .inl ⟨h_f, p, h_p, h_id, ?_⟩
      rw [← h_turn.kind h_p h_p' (h_id'.trans h_id.symm), h_tell]
    · exact .inr (Option.mem_some.mp h_f).symm
  have h_old {f : ScheduleFiringRow} (h_f : s.book.Tells f) : s'.book.Tells f := by
    obtain ⟨h_f, p, h_p, h_id, h_tell⟩ := h_f
    obtain ⟨p', h_p', h_same⟩ := h_turn.plans p h_p
    exact ⟨(h_fs.mem f).mpr (.inl h_f), p', h_p', h_same.key.trans h_id,
      h_same.kind.trans h_tell⟩
  -- No earlier message goes out anew, and the mail of this cycle is that of one message.
  have h_fades : Fades s.ledger s'.ledger := by
    cases h_disposed with
    | skip _ _ h_ledger => exact h_ledger ▸ .refl _
    | unavailable _ _ _ h_ledger => exact h_ledger ▸ .refl _
    | materialize _ _ _ h_posts => exact h_posts.fades
  have h_pending {f : ScheduleFiringRow} (h_f : s.book.Tells f) (h_live : Pending s'.ledger f) :
      Pending s.ledger f := by
    obtain ⟨id, h_id, h_awaits⟩ := h_live
    exact ⟨id, h_id, h_fades.awaits id (h.sent f h_f id h_id).2 h_awaits⟩
  have h_first {f : ScheduleFiringRow} (h_f : s.book.Tells f) (h_id : f.scheduleId = f₀.scheduleId)
      (h_live : Pending s'.ledger f) : ¬ Pending s'.ledger f₀ := by
    have h_unresolved : s.FiringUnresolved item.scheduleId :=
      (firingUnresolved_iff h_c h_of).mpr ⟨f, h_f, h_id.trans h_id₀, h_pending h_f h_live⟩
    cases h_disposed with
    | skip _ h_f₀ =>
      rintro ⟨id, h_mem, -⟩
      rw [h_f₀.2] at h_mem
      cases h_mem
    | unavailable h_not => exact absurd h_unresolved h_not
    | materialize h_not => exact absurd h_unresolved h_not
  refine ⟨fun f h_f id h_id => ?_, fun f f' h_f h_f' h_same h_live h_live' => ?_,
    fun f f' h_f h_f' h_same h_out h_le h_live => ?_,
    fun f f' h_f h_f' h_same h_out h_skip h_lt => ?_⟩
  · rcases h_tells h_f with h_f | rfl
    · obtain ⟨h_outcome, h_known⟩ := h.sent f h_f id h_id
      exact ⟨h_outcome, h_fades.knows id h_known⟩
    · cases h_disposed with
      | skip _ h_f₀ =>
        rw [h_f₀.2] at h_id
        cases h_id
      | unavailable _ _ h_f₀ =>
        rw [h_f₀.2] at h_id
        cases h_id
      | materialize _ _ h_f₀ h_posts =>
        rw [h_f₀.2] at h_id
        obtain rfl := Option.mem_some.mp h_id
        exact ⟨h_f₀.1, _, (h_posts.messages.mem _).mpr (.inr rfl), rfl⟩
  · rcases h_tells h_f with h_f | rfl <;> rcases h_tells h_f' with h_f' | rfl
    · exact h.single f f' h_f h_f' h_same (h_pending h_f h_live) (h_pending h_f' h_live')
    · exact absurd h_live' (h_first h_f h_same.symm h_live)
    · exact absurd h_live (h_first h_f' h_same h_live')
    · rfl
  · rcases h_tells h_f with h_f | rfl <;> rcases h_tells h_f' with h_f' | rfl
    · exact h.quiet f f' h_f h_f' h_same h_out h_le (h_pending h_f' h_live)
    · have h_lt := h_before h_f (h_same.symm.trans h_id₀)
      omega
    · cases h_disposed with
      | skip _ h_f₀ =>
        rw [h_f₀.1] at h_out
        cases h_out
      | unavailable h_not =>
        exact h_not ((firingUnresolved_iff h_c h_of).mpr
          ⟨f', h_f', h_same.trans h_id₀, h_pending h_f' h_live⟩)
      | materialize _ _ h_f₀ =>
        rw [h_f₀.1] at h_out
        cases h_out
    · cases h_disposed with
      | skip _ h_f₀ =>
        rw [h_f₀.1] at h_out
        cases h_out
      | unavailable _ _ h_f₀ =>
        obtain ⟨id, h_mem, -⟩ := h_live
        rw [h_f₀.2] at h_mem
        cases h_mem
      | materialize _ _ h_f₀ =>
        rw [h_f₀.1] at h_out
        cases h_out
  · rcases h_tells h_f with h_f | rfl <;> rcases h_tells h_f' with h_f' | rfl
    · obtain ⟨m, h_m, h_rest⟩ := h.between f f' h_f h_f' h_same h_out h_skip h_lt
      exact ⟨m, h_old h_m, h_rest⟩
    · -- The delivery that a skip waits for was sent after the target was missed.
      cases h_disposed with
      | skip h_live =>
        obtain ⟨m, h_m, h_id, h_pending⟩ := (firingUnresolved_iff h_c h_of).mp h_live
        have h_sched : m.scheduleId = f.scheduleId := h_id.trans (h_id₀.symm.trans h_same)
        have h_after : f.cycle < m.cycle := by
          by_contra h_not
          exact h.quiet f m h_f h_m h_sched h_out (by omega) h_pending
        obtain ⟨id, h_sent, -⟩ := h_pending
        refine ⟨m, h_old h_m, h_sched, (h.sent m h_m id h_sent).1, h_after, ?_⟩
        have h_m_lt := h_before h_m h_id
        omega
      | unavailable _ _ h_f₀ =>
        rw [h_f₀.1] at h_skip
        cases h_skip
      | materialize _ _ h_f₀ =>
        rw [h_f₀.1] at h_skip
        cases h_skip
    · have h_after := h_before h_f' (h_same.trans h_id₀)
      omega
    · exact absurd h_lt (lt_irrefl _)

-- ============================================================================
-- The notice of an unavailable target
-- ============================================================================

/-- The previous firing is the one of the latest recorded cycle. -/
theorem previousFiring_eq {id : ScheduleId} {f : ScheduleFiringRow}
    (h_f : f ∈ s.scheduleFirings) (h_id : f.scheduleId = id)
    (h_last : ∀ f' ∈ s.scheduleFirings, f'.scheduleId = id → f'.cycle ≤ f.cycle) :
    s.previousFiring id = some f.outcome := by
  have : Std.Total fun a b : ScheduleFiringRow => b.cycle ≤ a.cycle :=
    ⟨fun a b => Nat.le_total b.cycle a.cycle⟩
  have : IsTrans ScheduleFiringRow fun a b => b.cycle ≤ a.cycle :=
    ⟨fun _ _ _ h h' => Nat.le_trans h' h⟩
  set fs := s.scheduleFirings.rows.filter (·.scheduleId = id) with h_fs
  have h_mem {f' : ScheduleFiringRow} :
      f' ∈ fs.insertionSort (fun a b => b.cycle ≤ a.cycle) ↔
        f' ∈ s.scheduleFirings ∧ f'.scheduleId = id := by
    rw [List.mem_insertionSort, h_fs, List.mem_filter, decide_eq_true_eq]
    rfl
  have h_sorted := List.pairwise_insertionSort
    (fun a b : ScheduleFiringRow => b.cycle ≤ a.cycle) fs
  unfold Store.previousFiring
  rw [← h_fs]
  cases h_list : fs.insertionSort (fun a b => b.cycle ≤ a.cycle) with
  | nil =>
    have h_none := h_mem.mpr ⟨h_f, h_id⟩
    rw [h_list] at h_none
    cases h_none
  | cons g gs =>
    rw [List.head?_cons, Option.map_some]
    obtain ⟨h_g, h_gid⟩ := h_mem.mp (h_list ▸ List.mem_cons_self)
    have h_le : f.cycle ≤ g.cycle := by
      have h_in := h_mem.mpr ⟨h_f, h_id⟩
      rw [h_list] at h_in h_sorted
      rcases List.mem_cons.mp h_in with rfl | h_in
      · exact Nat.le_refl _
      · exact (List.pairwise_cons.mp h_sorted).1 f h_in
    have h_key : g.key = f.key :=
      Prod.ext (h_gid.trans h_id.symm) (Nat.le_antisymm (h_last g h_g h_gid) h_le)
    rw [Table.eq_of_key h_g h_f h_key]

/-- What is announced is that a target has become unavailable. -/
theorem Fires.announces {item : DueTellSchedule} {nowMs : Millis} (h : Fires item nowMs s s')
    (h_notice : s'.operatorNotices ≠ s.operatorNotices) :
    s.previousFiring item.scheduleId ≠ some .targetUnavailable ∧
      ∃ f ∈ s'.scheduleFirings, f.scheduleId = item.scheduleId ∧ f.cycle = item.cycle ∧
        f.outcome = .targetUnavailable := by
  obtain ⟨f, h_id, h_cycle, h_fs, h_disposed⟩ := h.firing
  have h_f : f ∈ s'.scheduleFirings := (h_fs.mem f).mpr (.inr rfl)
  cases h_disposed with
  | skip _ _ _ h_same => exact absurd h_same h_notice
  | materialize _ _ _ _ h_same => exact absurd h_same h_notice
  | unavailable _ _ h_out _ h_notices =>
    rcases h_notices with ⟨-, h_same⟩ | ⟨h_previous, -⟩
    · exact absurd h_same h_notice
    · exact ⟨h_previous, f, h_f, h_id, h_cycle, h_out.1⟩

/-- A missed target is announced again only after a message was sent. -/
theorem Fires.announces_again {item : DueTellSchedule} {nowMs : Millis} {c : ScheduleRow}
    (h : Fires item nowMs s s') (h_notice : s'.operatorNotices ≠ s.operatorNotices)
    (h_paces : Paces s.book s.ledger) (h_recording : Recording s.book)
    (h_c : c ∈ s.schedules) (h_of : item.Of c) {f : ScheduleFiringRow}
    (h_f : f ∈ s.scheduleFirings) (h_id : f.scheduleId = item.scheduleId)
    (h_out : f.outcome = .targetUnavailable) :
    ∃ m ∈ s.scheduleFirings, m.scheduleId = item.scheduleId ∧ m.outcome = .materialized ∧
      f.cycle < m.cycle ∧ m.cycle < item.cycle := by
  have h_tells {g : ScheduleFiringRow} (h_g : g ∈ s.scheduleFirings)
      (h_gid : g.scheduleId = item.scheduleId) : s.book.Tells g :=
    ⟨h_g, c, h_c, h_of.key.trans h_gid.symm, h_of.kind⟩
  have h_before := h.before h_recording h_f h_id
  obtain ⟨h_previous, -⟩ := h.announces h_notice
  obtain ⟨p, h_p, h_key, -, h_cycle, -⟩ := h.due
  -- The latest firing on record is that of the cycle before.
  obtain ⟨h_one, h_recorded⟩ := h_recording.recorded p h_p
  have h_f_one := ((h_recorded f.cycle).mp ⟨f, h_f, h_id.trans h_key.symm, rfl⟩).1
  obtain ⟨g, h_g, h_gid, h_last⟩ := (h_recorded (item.cycle - 1)).mpr ⟨by omega, by omega⟩
  have h_gid : g.scheduleId = item.scheduleId := h_gid.trans h_key
  rw [previousFiring_eq h_g h_gid fun g' h_g' h_id' => by
    have h_lt := h.before h_recording h_g' h_id'
    omega] at h_previous
  have h_after : g.outcome ≠ .targetUnavailable → f.cycle < g.cycle := by
    intro h_other
    rcases Nat.lt_or_ge f.cycle g.cycle with h_lt | h_ge
    · exact h_lt
    · have h_same : f.key = g.key :=
        Prod.ext (h_id.trans h_gid.symm) (by change f.cycle = g.cycle; omega)
      obtain rfl := Table.eq_of_key h_f h_g h_same
      exact absurd h_out h_other
  cases h_outcome : g.outcome with
  | targetUnavailable => exact absurd (congrArg some h_outcome) h_previous
  | materialized =>
    exact ⟨g, h_g, h_gid, h_outcome, h_after (by simp [h_outcome]), by omega⟩
  | skipped =>
    obtain ⟨m, h_m, h_mid, h_sent, h_lt, h_lt'⟩ := h_paces.between f g (h_tells h_f h_id)
      (h_tells h_g h_gid) (h_gid.trans h_id.symm) h_out h_outcome
      (h_after (by simp [h_outcome]))
    exact ⟨m, h_m.1, h_mid.trans h_id, h_sent, h_lt, by omega⟩

-- ============================================================================
-- Runs
-- ============================================================================

theorem Call.paces (c : Call) (h : c.Step s s') (h_called : c.AsCalled s)
    (h_tell : c.FiresTell s) (h_recording : Recording s.book) (h_s : Paces s.book s.ledger) :
    Paces s'.book s'.ledger := by
  by_cases h_c : ∃ item nowMs, c = .fireTellSchedule item nowMs
  · obtain ⟨item, nowMs, rfl⟩ := h_c
    obtain ⟨_, h_run⟩ := commit_ok.mp h
    obtain ⟨p, h_p, h_of⟩ := h_tell
    exact h_s.fire h_recording h_p h_of (fireTellSchedule_run h_run)
  · exact h_s.fade (c.fades h h_called) ((c.turn h).tells h_recording
      fun item nowMs h_eq => h_c ⟨item, nowMs, h_eq⟩)

theorem Reachable.paces (h : Reachable (fun c s => c.FiresTell s ∧ c.AsCalled s) s) :
    Paces s.book s.ledger := by
  induction h with
  | refl => exact .empty
  | tail c h_run h_ok h_step ih =>
    exact c.paces h_step h_ok.2 h_ok.1 (Reachable.recording h_run) ih

theorem ReaderRun.firings {ok : Call → Store → Prop} {r r' : Reader} (h : ReaderRun ok r r')
    {f : ScheduleFiringRow} (h_f : f ∈ r.store.scheduleFirings) :
    f ∈ r'.store.scheduleFirings := by
  refine Run.invariant (I := fun r => f ∈ r.store.scheduleFirings) h h_f
    fun e a b h_a _ h_step => ?_
  cases e with
  | call c => exact (c.turn (ReaderEvent.call_step h_step).1).firings h_a
  | read nowMs =>
    obtain rfl := ReaderEvent.read_step h_step
    exact h_a

/-- The next cycle of a fired schedule is due an interval from now, and a firing that sends
    nothing changes nothing of the mail. -/
theorem Fires.next {item : DueTellSchedule} {nowMs : Millis} {p : ScheduleRow}
    (h : Fires item nowMs s s') (h_p : p ∈ s.schedules) (h_of : item.Of p) :
    (∃ p' ∈ s'.schedules, p'.id = p.id ∧ p'.cycle = p.cycle + 1 ∧
        p'.nextFireAtMs = saturatingAdd nowMs p.intervalMs) ∧
      ∃ f ∈ s'.scheduleFirings, f.scheduleId = p.id ∧ f.cycle = p.cycle ∧
        (f.outcome ≠ .materialized → s'.ledger = s.ledger) ∧
        (s'.operatorNotices = s.operatorNotices ∨ f.outcome = .targetUnavailable ∧
          ∃ n, s.operatorNotices.Adds (some n) s'.operatorNotices) := by
  obtain ⟨p₀, h_p₀, h_key, -, h_cycle, -⟩ := h.due
  obtain rfl := Table.eq_of_key h_p₀ h_p (h_key.trans h_of.key.symm)
  obtain ⟨f, h_id, h_number, h_fs, h_disposed⟩ := h.firing
  constructor
  · obtain ⟨p', h_p', h_pp⟩ := h.schedules.image p₀ h_p
    obtain ⟨-, h_same, -, h_step, h_next⟩ := h_pp.resolve_left fun h_not => h_not.1 h_key
    rw [← h_of.interval] at h_next
    exact ⟨p', h_p', h_same.key, h_step, h_next⟩
  · refine ⟨f, (h_fs.mem f).mpr (.inr rfl), h_id.trans h_key.symm, h_number.trans h_cycle.symm,
      ?_⟩
    cases h_disposed with
    | skip _ _ h_ledger h_same => exact ⟨fun _ => h_ledger, .inl h_same⟩
    | materialize _ _ h_f _ h_same => exact ⟨fun h_not => absurd h_f.1 h_not, .inl h_same⟩
    | unavailable _ _ h_f h_ledger h_notices =>
      refine ⟨fun _ => h_ledger, ?_⟩
      rcases h_notices with ⟨-, h_same⟩ | ⟨-, h_new⟩
      · exact .inl h_same
      · exact .inr ⟨h_f.1, h_new⟩

/-- Repeating tell schedules never burst, double or skip a cycle.  The past cycles of a schedule
    are on record once each, and of their messages at most one is still under way.  A firing,
    whenever its item was read, is of the current cycle: it puts the next one off by the interval
    from now, and one that sends nothing leaves the ledger as it is.  Between two notices about
    an unavailable target a message was sent. -/
theorem tell_schedules_fire_once {r : Reader} (h : ReaderRun Call.AsCalled {} r) :
    (∀ p ∈ r.store.schedules, p.kind = .tell →
      (∀ f ∈ r.store.scheduleFirings, f.scheduleId = p.id → 1 ≤ f.cycle ∧ f.cycle < p.cycle) ∧
      (∀ n, 1 ≤ n → n < p.cycle →
        ∃! f, f ∈ r.store.scheduleFirings ∧ f.scheduleId = p.id ∧ f.cycle = n) ∧
      ∀ f ∈ r.store.scheduleFirings, ∀ f' ∈ r.store.scheduleFirings,
        f.scheduleId = p.id → f'.scheduleId = p.id →
        ∀ d ∈ r.store.deliveries, ∀ d' ∈ r.store.deliveries,
          f.messageId = some d.messageId → f'.messageId = some d'.messageId →
          d.outcome.Live → d'.outcome.Live → f = f') ∧
    (∀ item nowMs s', item ∈ r.due → (Call.fireTellSchedule item nowMs).Step r.store s' →
      ∃ p ∈ r.store.schedules, p.id = item.scheduleId ∧
        (∃ p' ∈ s'.schedules, p'.id = p.id ∧ p'.cycle = p.cycle + 1 ∧
          p'.nextFireAtMs = saturatingAdd nowMs p.intervalMs) ∧
        ∃ f ∈ s'.scheduleFirings, f.scheduleId = p.id ∧ f.cycle = p.cycle ∧
          (f.outcome ≠ .materialized → s'.ledger = r.store.ledger) ∧
          (s'.operatorNotices = r.store.operatorNotices ∨ f.outcome = .targetUnavailable ∧
            ∃ n, r.store.operatorNotices.Adds (some n) s'.operatorNotices)) ∧
    (∀ item nowMs r₁ r₂ item' nowMs' s', item ∈ r.due →
      StepOf ReaderEvent.next (.call (.fireTellSchedule item nowMs)) r r₁ →
      r₁.store.operatorNotices ≠ r.store.operatorNotices →
      ReaderRun Call.AsCalled r₁ r₂ → item' ∈ r₂.due →
      (Call.fireTellSchedule item' nowMs').Step r₂.store s' →
      s'.operatorNotices ≠ r₂.store.operatorNotices →
      item'.scheduleId = item.scheduleId →
      ∃ m ∈ s'.scheduleFirings, m.scheduleId = item.scheduleId ∧ m.outcome = .materialized ∧
        item.cycle < m.cycle ∧ m.cycle < item'.cycle) := by
  have h_start : ({} : Reader).Faithful := fun _ h_item => absurd h_item List.not_mem_nil
  have h_recording := h.reachable.recording
  have h_paces := h.reachable.paces
  have h_faithful := ReaderRun.faithful h h_start
  refine ⟨fun p h_p h_tell => ⟨?_, ?_, ?_⟩, ?_, ?_⟩
  · intro f h_f h_id
    exact ((h_recording.recorded p h_p).2 f.cycle).mp ⟨f, h_f, h_id, rfl⟩
  · intro n h_one h_lt
    obtain ⟨f, h_f, h_id, h_n⟩ := ((h_recording.recorded p h_p).2 n).mpr ⟨h_one, h_lt⟩
    refine ⟨f, ⟨h_f, h_id, h_n⟩, ?_⟩
    rintro f' ⟨h_f', h_id', h_n'⟩
    exact Table.eq_of_key h_f' h_f (Prod.ext (h_id'.trans h_id.symm) (h_n'.trans h_n.symm))
  · intro f h_f f' h_f' h_id h_id' d h_d d' h_d' h_m h_m' h_live h_live'
    have h_pending {g : ScheduleFiringRow} {e : DeliveryRow} (h_e : e ∈ r.store.deliveries)
        (h_m : g.messageId = some e.messageId) (h_live : e.outcome.Live) :
        Pending r.store.ledger g := ⟨e.messageId, h_m, e, h_e, rfl, h_live⟩
    exact (h_paces.single f f' ⟨h_f, p, h_p, h_id.symm, h_tell⟩ ⟨h_f', p, h_p, h_id'.symm, h_tell⟩
      (h_id'.trans h_id.symm) (h_pending h_d h_m h_live) (h_pending h_d' h_m' h_live')).symm
  · intro item nowMs s' h_item h_step
    obtain ⟨_, h_run⟩ := commit_ok.mp h_step
    obtain ⟨p, h_p, h_of⟩ := h_faithful item h_item
    exact ⟨p, h_p, h_of.key, (fireTellSchedule_run h_run).next h_p h_of⟩
  · intro item nowMs r₁ r₂ item' nowMs' s' h_item h_first h_notice h_between h_item' h_again
      h_notice' h_schedule
    have h_call := (ReaderEvent.call_step h_first).1
    obtain ⟨_, h_run⟩ := commit_ok.mp h_call
    obtain ⟨-, f, h_f, h_id, h_cycle, h_out⟩ := (fireTellSchedule_run h_run).announces h_notice
    have h_r₁ : ReaderRun Call.AsCalled {} r₁ :=
      .tail (.call (.fireTellSchedule item nowMs)) h ⟨trivial, h_item⟩ h_first
    have h_r₂ : ReaderRun Call.AsCalled {} r₂ := .trans h_r₁ h_between
    obtain ⟨_, h_run'⟩ := commit_ok.mp h_again
    obtain ⟨p, h_p, h_of⟩ := ReaderRun.faithful h_r₂ h_start item' h_item'
    obtain ⟨m, h_m, h_mid, h_sent, h_after, h_before⟩ :=
      (fireTellSchedule_run h_run').announces_again h_notice' h_r₂.reachable.paces
        h_r₂.reachable.recording h_p h_of (ReaderRun.firings h_between h_f)
        (h_id.trans h_schedule.symm) h_out
    refine ⟨m, ?_, h_mid.trans h_schedule, h_sent, h_cycle ▸ h_after, h_before⟩
    exact (Call.turn _ h_again).firings h_m

/-- A message that arrives, a cycle that is skipped meanwhile, and two for which the target
    is gone. -/
def tellingRun : List ReaderEvent :=
  [.call (adopting 1 "w1:p1" "t1" "asker" "k1"), .call (adopting 1 "w1:p2" "t2" "worker" "k2"),
    .call (.createTellSchedule 5 1 2 "Report." 1000 100 "k3"), .read 120,
    .call (.fireTellSchedule ⟨1, 1, 2, "Report.", 1000, 1, 100⟩ 130), .read 2000,
    .call (.fireTellSchedule ⟨1, 1, 2, "Report.", 1000, 2, 1130⟩ 2010),
    .call (.beginAttempt 2020 3 2 "r1"), .call (.submitQueuedDelivery 3 1 "r1" 2030),
    .call (.acceptDelivery 2040 3 2 "w1:p2" "t2" none),
    .call (.reconcileReadyIncarnations 2050 ⟨[], []⟩), .read 4000,
    .call (.fireTellSchedule ⟨1, 1, 2, "Report.", 1000, 3, 3010⟩ 4010), .read 6000,
    .call (.fireTellSchedule ⟨1, 1, 2, "Report.", 1000, 4, 5010⟩ 6010)]

theorem tell_schedules_fire_once_tellingRun : ∃ r, ReaderRun Call.AsCalled {} r ∧
    r.store.operatorNotices.rows.length = 1 ∧
    ∃ p ∈ r.store.schedules, p.cycle = 5 ∧
      ∃! f, f ∈ r.store.scheduleFirings ∧ f.scheduleId = p.id ∧ f.cycle = 4 := by
  have h : Script ReaderEvent.next (ReaderEvent.Proper Call.AsCalled)
      (fun r => r.store.operatorNotices.rows.length = 1 ∧
        ∃ p ∈ r.store.schedules.rows, p.kind = .tell ∧ p.cycle = 5)
      tellingRun {} := by decide +kernel
  obtain ⟨r, h_run, h_notices, p, h_p, h_tell, h_cycle⟩ := h.run
  refine ⟨r, h_run, h_notices, p, h_p, h_cycle, ?_⟩
  exact ((tell_schedules_fire_once h_run).1 p h_p h_tell).2.1 4 (by omega) (by omega)

end Kelpie
