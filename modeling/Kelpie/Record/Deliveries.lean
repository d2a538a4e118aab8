/-
  Kelpie.Record.Deliveries

  The way of a delivery over any run: it is recorded, submitted and ended, in this
  order, and what was accepted stays so.
-/

import Kelpie.Ledger.Linked
import Kelpie.Lib.Histories

namespace Kelpie

open Lib Lib.Tx Ledger

variable {s s' : Store} {g g' : Ledger}

-- ============================================================================
-- Stages
-- ============================================================================

/-- How far a delivery has come: recorded, submitted, ended. -/
def DeliveryOutcome.stage : DeliveryOutcome → Nat
  | .pending => 0
  | .queued => 0
  | .submitted => 1
  | .accepted => 2
  | .unknown => 2
  | .rejected => 2
  | .targetUnavailable => 2
  | .superseded => 2

theorem DeliveryOutcome.stage_le {o : DeliveryOutcome} : o.stage ≤ 2 := by
  cases o <;> decide

theorem DeliveryOutcome.live_iff {o : DeliveryOutcome} : o.Live ↔ o.stage < 2 := by
  cases o <;> decide

theorem DeliveryOutcome.submitted_iff {o : DeliveryOutcome} : o = .submitted ↔ o.stage = 1 := by
  cases o <;> decide

/-- The same delivery, no less far: it keeps its outcome unless it comes to a later stage or
    had ended, and an accepted one keeps it always. -/
structure DeliveryRow.Onward (d d' : DeliveryRow) : Prop extends d.SameMail d' where
  stage : d'.outcome = d.outcome ∨ d.outcome.stage < d'.outcome.stage ∨
    (d.outcome.stage = 2 ∧ d'.outcome.stage = 2)
  accepted : d.outcome = .accepted → d'.outcome = .accepted

instance DeliveryRow.onward_stepwise : Stepwise DeliveryRow.Onward where
  refl _ := ⟨.rfl, .inl rfl, id⟩
  trans {d d₁ d₂} h h' := by
    refine ⟨h.toSameMail.trans h'.toSameMail, ?_, h'.accepted ∘ h.accepted⟩
    rcases h.stage with h_same | h_lt | ⟨h_end, h_end₁⟩
    · rw [← h_same]
      exact h'.stage
    · rcases h'.stage with h_same' | h_lt' | ⟨-, h_end'⟩
      · exact .inr (.inl (h_same' ▸ h_lt))
      · exact .inr (.inl (Nat.lt_trans h_lt h_lt'))
      · -- A stage before another one is not the last.
        have h_le : d₁.outcome.stage ≤ 2 := DeliveryOutcome.stage_le
        refine .inr (.inl ?_)
        omega
    · rcases h'.stage with h_same' | h_lt' | ⟨-, h_end'⟩
      · exact .inr (.inr ⟨h_end, h_same' ▸ h_end₁⟩)
      · have h_le : d₂.outcome.stage ≤ 2 := DeliveryOutcome.stage_le
        omega
      · exact .inr (.inr ⟨h_end, h_end'⟩)

/-- No delivery is recorded again. -/
theorem DeliveryRow.Onward.recorded {d d' : DeliveryRow} (h : d.Onward d')
    (h_recorded : d'.outcome = .pending ∨ d'.outcome = .queued) : d'.outcome = d.outcome := by
  have h_zero : d'.outcome.stage = 0 := by rcases h_recorded with h | h <;> rw [h] <;> rfl
  exact h.stage.resolve_right (by omega)

/-- What is submitted now was not over before. -/
theorem DeliveryRow.Onward.submitted {d d' : DeliveryRow} (h : d.Onward d')
    (h_submitted : d'.outcome = .submitted) : d.outcome.Live := by
  rw [DeliveryOutcome.submitted_iff] at h_submitted
  rw [DeliveryOutcome.live_iff]
  rcases h.stage with h_same | h_lt | ⟨-, h_end⟩
  · rw [← h_same]
    omega
  · omega
  · omega

theorem DeliveryRow.Onward.ended {d d' : DeliveryRow} (h : d.Onward d')
    (h_ended : ¬ d.outcome.Live) : ¬ d'.outcome.Live := by
  rw [DeliveryOutcome.live_iff] at h_ended ⊢
  rcases h.stage with h_same | h_lt | ⟨-, h_end⟩
  · rw [h_same]
    exact h_ended
  · omega
  · omega

/-- A delivery that comes to a later stage. -/
theorem DeliveryRow.Onward.of_lt {d d' : DeliveryRow} (h : d.SameMail d')
    (h_lt : d.outcome.stage < d'.outcome.stage) : d.Onward d' where
  toSameMail := h
  stage := .inr (.inl h_lt)
  accepted h_accepted := by
    rw [h_accepted] at h_lt
    cases h_d' : d'.outcome <;> rw [h_d'] at h_lt <;> exact absurd h_lt (by decide)

-- ============================================================================
-- Effects
-- ============================================================================

namespace Ledger

open DeliveryRow (Onward)

/-- Every delivery goes on, no less far. -/
abbrev Forwards (g g' : Ledger) : Prop := g.deliveries.GoesOn Onward g'.deliveries

instance : Stepwise Forwards where
  refl g := Table.GoesOn.stepwise.refl g.deliveries
  trans h h' := Table.GoesOn.stepwise.trans h h'

theorem Forwards.of_same (h : g'.deliveries = g.deliveries) : Forwards g g' :=
  fun d h_d => ⟨d, h ▸ h_d, DeliveryRow.onward_stepwise.refl d⟩

theorem Moved.onward {d d' : DeliveryRow} (h : Moved d d') : d.Onward d' := by
  obtain ⟨h_mail, h_same | ⟨h_early, h_submitted⟩ | ⟨-, h_queued, h_ended⟩⟩ := h
  · exact ⟨h_mail, .inl h_same, fun h_accepted => h_same.trans h_accepted⟩
  · refine .of_lt h_mail ?_
    rcases h_early with h_d | h_d <;> rw [h_d, h_submitted] <;> decide
  · refine .of_lt h_mail ?_
    rcases h_ended with h_d' | h_d' <;> rw [h_queued, h_d'] <;> decide

theorem Dropped.onward {id : OperationId} {outcome : DeliveryOutcome} {d d' : DeliveryRow}
    (h : Dropped id outcome d d') (h_outcome : ¬ outcome.Live)
    (h_accepted : d.operationId = some id → d.outcome ≠ .accepted) : d.Onward d' := by
  rcases h with ⟨-, rfl⟩ | ⟨h_op, h_mail, h_dropped | ⟨-, h_same⟩⟩
  · exact DeliveryRow.onward_stepwise.refl d'
  · refine ⟨h_mail, ?_, fun h_d => absurd h_d (h_accepted h_op)⟩
    rw [DeliveryOutcome.live_iff, Nat.not_lt] at h_outcome
    rw [h_dropped]
    have h_le : d.outcome.stage ≤ 2 := DeliveryOutcome.stage_le
    have h_le' : outcome.stage ≤ 2 := DeliveryOutcome.stage_le
    omega
  · exact ⟨h_mail, .inl h_same, fun h_d => h_same.trans h_d⟩

theorem DeliverySuperseded.onward {id : OperationId} {d d' : DeliveryRow}
    (h : DeliverySuperseded id d d') : d.Onward d' := by
  rcases h with ⟨-, rfl⟩ | ⟨-, h_queued, h_mail, h_superseded⟩
  · exact DeliveryRow.onward_stepwise.refl d'
  · refine .of_lt h_mail ?_
    rw [h_queued, h_superseded]
    decide

theorem DeliveryAccepted.onward {id : OperationId} {inc : IncarnationId} {d d' : DeliveryRow}
    (h : DeliveryAccepted id inc d d') : d.Onward d' := by
  rcases h with ⟨-, rfl⟩ | ⟨-, -, h_submitted, h_mail, h_accepted⟩
  · exact DeliveryRow.onward_stepwise.refl d'
  · refine .of_lt h_mail ?_
    rw [h_submitted, h_accepted]
    decide

theorem AskSwept.onward {d d' : DeliveryRow} (h : g.AskSwept d d') : d.Onward d' := by
  rcases h with rfl | ⟨h_mail, h_queued, h_superseded, -⟩
  · exact DeliveryRow.onward_stepwise.refl d'
  · refine .of_lt h_mail ?_
    rw [h_queued, h_superseded]
    decide

/-- Every effect takes the deliveries on, when an operation that fails is live and those of
    accepted deliveries are not. -/
theorem Effect.forwards (h_g : Sound g) (h : Effect True g g') : Forwards g g' := by
  cases h with
  | post h_posts => exact h_posts.deliveries.goesOn
  | deliver h_t => exact h_t.goesOn fun _ _ => Moved.onward
  | fail h_live h_outcome h_dropped h_os h_ds =>
    intro d h_d
    obtain ⟨d', h_d', h_drop⟩ := h_ds.image d h_d
    refine ⟨d', h_d', h_drop.onward (h_dropped trivial) fun h_op h_accepted => ?_⟩
    obtain ⟨r, h_r, rfl, h_r_live⟩ := h_live
    exact h_g.closed d h_d h_accepted r h_r h_op h_r_live
  | supersede _ _ h_ds => exact h_ds.goesOn fun _ _ => DeliverySuperseded.onward
  | operate | conduct | resolve | amend | remind | attempt => exact .of_same rfl

theorem Path.forwards (h_g : Sound g) (h : Path True g g') : Forwards g g' ∧ Sound g' := by
  induction h with
  | refl => exact ⟨.of_same rfl, h_g⟩
  | tail _ h_effect ih =>
    obtain ⟨h_forwards, h_sound⟩ := ih
    exact ⟨Stepwise.trans h_forwards (h_effect.forwards h_sound), h_sound.effect h_effect⟩

end Ledger

-- ============================================================================
-- Runs
-- ============================================================================

theorem sound_invariant {ok : Call → Store → Prop} : Ledger.Invariant True ok Ledger.Sound where
  empty := sound_empty
  effect h h_effect := h.effect h_effect
  accepts h _ h_accepts := h.accepts h_accepts
  answers h _ _ _ h_answers := h.answers h_answers
  sweep h _ h_t := h.sweep h_t

theorem Call.forwards (c : Call) (h_s : Ledger.Sound s.ledger) (h_c : c.AsCalled s)
    (h : c.Step s s') : Forwards s.ledger s'.ledger := by
  have h_account : Account True s.ledger s'.ledger c := c.account h fun _ => h_c
  cases h_account with
  | path h_path => exact (h_path.forwards h_s).1
  | accept h_accepts => exact h_accepts.deliveries.goesOn fun _ _ => DeliveryAccepted.onward
  | reply _ h_posts h_answers =>
    exact Stepwise.trans h_posts.deliveries.goesOn (Forwards.of_same h_answers.deliveries)
  | sweep h_g' h_t =>
    rw [h_g']
    exact h_t.goesOn fun _ _ => AskSwept.onward

theorem forwards_of_run (h_s : Reachable Call.AsCalled s) (h : StoreRun Call.AsCalled s s') :
    Forwards s.ledger s'.ledger := by
  induction h with
  | refl => exact .of_same rfl
  | tail c h_run h_c h_step ih =>
    have h_sound := (Reachable.ledger (h_s.trans h_run) (fun _ _ h _ => h) sound_invariant)
    exact Stepwise.trans ih (c.forwards h_sound h_c h_step)

/-- Over any run every delivery stays the one that was recorded, is submitted from a recorded
    one only and never recorded again, stays ended once it has ended, and accepted once it was
    accepted. -/
theorem deliveries_go_onward (h_s : Reachable Call.AsCalled s) (h : StoreRun Call.AsCalled s s')
    {d : DeliveryRow} (h_d : d ∈ s.deliveries) : ∃ d' ∈ s'.deliveries, d.SameMail d' ∧
      (d'.outcome = .pending ∨ d'.outcome = .queued → d'.outcome = d.outcome) ∧
      (d'.outcome = .submitted → d.outcome.Live) ∧ (¬ d.outcome.Live → ¬ d'.outcome.Live) ∧
      (d.outcome = .accepted → d'.outcome = .accepted) := by
  obtain ⟨d', h_d', h_on⟩ := forwards_of_run h_s h d h_d
  exact ⟨d', h_d', h_on.toSameMail, h_on.recorded, h_on.submitted, h_on.ended, h_on.accepted⟩

/-- A recorded ask that is submitted, accepted and answered. -/
theorem deliveries_go_onward_askedRun : ∃ s s', Reachable Call.AsCalled s ∧
    StoreRun Call.AsCalled s s' ∧ (∃ d ∈ s.deliveries.rows, d.outcome = .accepted) ∧
    ∃ d ∈ s'.deliveries.rows, d.outcome = .accepted := by
  have h : Leads Call.AsCalled
      (fun s => (∃ d ∈ s.deliveries.rows, d.outcome = .accepted) ∧
        Leads Call.AsCalled (fun s => s.messages.rows.length = 2)
          [.createReply 5 1 2 "The main one." .final "k4" none] s)
      (askedRun ++ submitting 3 3 2 "r1" ++ [.acceptDelivery 4 3 2 "w1:p2" "t2" none])
      Store.empty := by decide +kernel
  obtain ⟨s, h_s, ⟨d, h_d, h_accepted⟩, h_leads⟩ := h.run
  obtain ⟨s', h_run, -⟩ := h_leads.run
  obtain ⟨d', h_d', -, -, -, -, h_stays⟩ := deliveries_go_onward h_s h_run h_d
  exact ⟨s, s', h_s, h_run, ⟨d, h_d, h_accepted⟩, d', h_d', h_stays h_accepted⟩

/-- The step submits the delivery under `rowid`. -/
def Submits (rowid : Nat) (s s' : Store) : Prop :=
  (∃ d ∈ s.deliveries, d.rowid = rowid ∧ d.outcome ≠ .submitted) ∧
    ∃ d' ∈ s'.deliveries, d'.rowid = rowid ∧ d'.outcome = .submitted

/-- No delivery is submitted twice, however the two submissions are apart: what was submitted
    once is never recorded again, and only what is recorded can be submitted. -/
theorem submitted_once {s₁ s₂ : Store} {rowid : Nat} (h_s : Reachable Call.AsCalled s)
    (h_submits : Submits rowid s s₁) (h : StoreRun Call.AsCalled s s₁)
    (h_run : StoreRun Call.AsCalled s₁ s₂) (h_more : StoreRun Call.AsCalled s₂ s') :
    ¬ Submits rowid s₂ s' := by
  rintro ⟨⟨d₂, h_d₂, h_id₂, h_not⟩, d', h_d', h_id', h_submitted⟩
  obtain ⟨-, d₁, h_d₁, h_id₁, h_first⟩ := h_submits
  have h_s₁ : Reachable Call.AsCalled s₁ := h_s.trans h
  obtain ⟨e₂, h_e₂, h_on⟩ := forwards_of_run h_s₁ h_run d₁ h_d₁
  obtain rfl := Table.eq_of_key h_e₂ h_d₂ (h_on.rowid.trans (h_id₁.trans h_id₂.symm))
  obtain ⟨e', h_e', h_on'⟩ := forwards_of_run (h_s₁.trans h_run) h_more e₂ h_e₂
  obtain rfl := Table.eq_of_key h_e' h_d' (h_on'.rowid.trans (h_id₂.trans h_id'.symm))
  -- Once submitted, it is not submitted before the second step because it has ended.
  have h_over : ¬ e₂.outcome.Live := by
    rintro (h_pending | h_queued | h_still)
    · have h_same := h_on.recorded (.inl h_pending)
      rw [h_pending, h_first] at h_same
      cases h_same
    · have h_same := h_on.recorded (.inr h_queued)
      rw [h_queued, h_first] at h_same
      cases h_same
    · exact h_not h_still
  exact h_on'.ended h_over (.inr (.inr h_submitted))

/-- A prompt that is submitted and rejected.  Another ask is submitted after it. -/
theorem submitted_once_askedRun : ∃ s s₁ s₂ s' rowid, Submits rowid s s₁ ∧
    StoreRun Call.AsCalled s₁ s₂ ∧
    (∃ d ∈ s₂.deliveries.rows, d.rowid = rowid ∧ d.outcome = .rejected) ∧
    StoreRun Call.AsCalled s₂ s' ∧
    (∃ d ∈ s'.deliveries.rows, d.outcome = .submitted) ∧ ¬ Submits rowid s₂ s' := by
  have h : Leads Call.AsCalled
      (fun s => (∃ d ∈ s.deliveries.rows, d.rowid = 1 ∧ d.outcome ≠ .submitted) ∧
        Leads Call.AsCalled
          (fun s => (∃ d ∈ s.deliveries.rows, d.rowid = 1 ∧ d.outcome = .submitted) ∧
            Leads Call.AsCalled
              (fun s => (∃ d ∈ s.deliveries.rows, d.rowid = 1 ∧ d.outcome = .rejected) ∧
                Leads Call.AsCalled (fun s => ∃ d ∈ s.deliveries.rows, d.outcome = .submitted)
                  (.createAsk 5 1 2 2 "Which tag?" "k4" none none false .inject ::
                    submitting 6 4 2 "r2") s)
              [.markRejected 4 3 2 "The pane is busy." .rejected] s)
          [.markSubmitted 3 3 1 "r1"] s)
      (askedRun ++ [.beginAttempt 3 3 2 "r1"]) Store.empty := by decide +kernel
  obtain ⟨s, h_s, h_before, h_leads⟩ := h.run
  obtain ⟨s₁, h_submit, h_after, h_leads⟩ := h_leads.run
  obtain ⟨s₂, h_between, h_rejected, h_leads⟩ := h_leads.run
  obtain ⟨s', h_more, h_other⟩ := h_leads.run
  have h_submits : Submits 1 s s₁ := ⟨h_before, h_after⟩
  exact ⟨s, s₁, s₂, s', 1, h_submits, h_between, h_rejected, h_more, h_other,
    submitted_once h_s h_submits h_submit h_between h_more⟩

end Kelpie
