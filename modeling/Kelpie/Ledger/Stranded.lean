/-
  Kelpie.Ledger.Stranded

  The orphaning of stranded asks: what holds when an obligation is orphaned, and
  that the clock of its absence is set by an observation of it alone.
-/

import Kelpie.Ledger.Spares
import Kelpie.Ledger.StateMachine

namespace Kelpie

open Lib Lib.Tx

variable {s s' : Store} {ask : MessageId}

-- ============================================================================
-- Orphaned obligations
-- ============================================================================

/-- The obligation of `ask` is settled `orphaned` between the states. -/
def Store.Orphans (s : Store) (ask : MessageId) (s' : Store) : Prop :=
  (∃ o ∈ s.obligations, o.askMessageId = ask ∧ o.state ≠ .orphaned) ∧
    ∃ o' ∈ s'.obligations, o'.askMessageId = ask ∧ o'.state = .orphaned

/-- A recorded final reply to the ask has a delivery with one of the outcomes. -/
def Store.FinalWith (s : Store) (outcomes : List DeliveryOutcome) (ask : MessageId) : Prop :=
  ∃ m ∈ s.messages.rows, (m.kind = .reply ∧ m.disposition = some .final ∧
      m.replyToMessageId = some ask) ∧
    ∃ d ∈ s.deliveries.rows, d.messageId = m.id ∧ d.outcome ∈ outcomes

instance (s : Store) (outcomes : List DeliveryOutcome) :
    DecidablePred (s.FinalWith outcomes) := fun ask => by
  unfold Store.FinalWith
  infer_instance

/-- A final reply to the ask can still be accepted, or has been. -/
abbrev Store.CanArrive (s : Store) : MessageId → Prop :=
  s.FinalWith [.pending, .queued, .submitted, .accepted]

theorem Store.FinalWith.mono {outcomes outcomes' : List DeliveryOutcome}
    (h : s.FinalWith outcomes ask) (h_le : ∀ x ∈ outcomes, x ∈ outcomes') :
    s.FinalWith outcomes' ask := by
  obtain ⟨m, h_m, h_final, d, h_d, h_message, h_outcome⟩ := h
  exact ⟨m, h_m, h_final, d, h_d, h_message, h_le _ h_outcome⟩

/-- What the guard lists is in flight; a delivery that is pending is not on its list. -/
theorem Store.canArrive_iff (h : ¬ s.InFlightFinal ask) :
    s.CanArrive ask ↔ s.FinalWith [.pending] ask := by
  constructor
  · rintro ⟨m, h_m, h_final, d, h_d, h_message, h_outcome⟩
    refine ⟨m, h_m, h_final, d, h_d, h_message, ?_⟩
    by_contra h_pending
    refine h ⟨m, h_m, h_final, d, h_d, h_message, ?_⟩
    simp only [List.mem_cons, List.not_mem_nil, or_false] at h_outcome h_pending
    rcases h_outcome with h | h | h | h
    · exact absurd h h_pending
    · exact .inl h
    · exact .inr (.inl h)
    · exact .inr (.inr (.inl h))
  · exact fun h_pending => h_pending.mono (by simp)

/-- What holds when an obligation is orphaned. -/
theorem orphanAsk_orphans {now : Millis} {other : MessageId} {res : Option CreatedCancellation}
    (h : (orphanAsk now other).run s = .ok (res, s')) (h_orphans : s.Orphans ask s') :
    (∃ o ∈ s.obligations, o.askMessageId = ask ∧
      ¬ (s.PartyPresent o.waitingAgentId ∧ s.PartyPresent o.owingAgentId)) ∧
    ¬ s.PrepareAsk ask ∧ ¬ s.InFlightFinal ask := by
  obtain ⟨⟨o, h_o, h_key, h_not⟩, o', h_o', h_key', h_orphaned⟩ := h_orphans
  -- What is spared is in the state that it was in.
  have h_reached : ¬ Spares (fun _ => True) ask s s' := by
    intro h_spares
    obtain ⟨o₁, h_o₁, h_key₁, h_state⟩ := h_spares o' h_o' h_key' trivial
    obtain rfl := Table.eq_of_key h_o h_o₁ (h_key.trans h_key₁.symm)
    exact h_not (h_state.trans h_orphaned)
  have h_same : other = ask := by
    by_contra h_ne
    exact h_reached ((spares_orphanAsk h_ne).keeps h)
  subst h_same
  have h_prepare : ¬ s.PrepareAsk other := fun h_ask => h_reached (orphanAsk_spares h h_ask)
  simp only [orphanAsk, run_bind_reads, run_bind_query_ok] at h
  obtain ⟨_, -, h⟩ := h
  split at h
  · cases h
    exact absurd (Spares.stepwise.refl _) h_reached
  · rename_i o₁ h_orphanable
    simp only [Store.orphanable, Option.filter_eq_some_iff, decide_eq_true_eq] at h_orphanable
    obtain ⟨h_find, -, h_flight, h_absent⟩ := h_orphanable
    obtain ⟨h_o₁, h_key₁⟩ := Table.find_eq_some.mp h_find
    exact ⟨⟨o₁, h_o₁, h_key₁, h_absent⟩, h_prepare, h_flight⟩

-- ============================================================================
-- The clock of an absence
-- ============================================================================

/-- The obligation of `ask` has been absent since a time only if it was so before. -/
def Clocked (ask : MessageId) (s s' : Store) : Prop :=
  ∀ o' ∈ s'.obligations, o'.askMessageId = ask → ∀ since, o'.unavailableSinceMs = some since →
    ∃ o ∈ s.obligations, o.askMessageId = ask ∧ o.unavailableSinceMs = some since

instance Clocked.stepwise : Stepwise (Clocked ask) where
  refl _ o h_o h_ask _ h_since := ⟨o, h_o, h_ask, h_since⟩
  trans h h' o'' h_o'' h_ask'' since h_since := by
    obtain ⟨o', h_o', h_ask', h_since'⟩ := h' o'' h_o'' h_ask'' since h_since
    exact h o' h_o' h_ask' since h_since'

theorem Clocked.of_same (h : s'.obligations = s.obligations) : Clocked ask s s' :=
  fun o h_o h_ask _ h_since => ⟨o, h ▸ h_o, h_ask, h_since⟩

instance : Ignores (Clocked ask) Tab.logicalAgents := ⟨fun _ _ => .of_same rfl⟩
instance : Ignores (Clocked ask) Tab.incarnations := ⟨fun _ _ => .of_same rfl⟩
instance : Ignores (Clocked ask) Tab.operations := ⟨fun _ _ => .of_same rfl⟩
instance : Ignores (Clocked ask) Tab.operationAttempts := ⟨fun _ _ => .of_same rfl⟩
instance : Ignores (Clocked ask) Tab.operatorNotices := ⟨fun _ _ => .of_same rfl⟩
instance : Ignores (Clocked ask) Tab.messages := ⟨fun _ _ => .of_same rfl⟩
instance : Ignores (Clocked ask) Tab.deliveries := ⟨fun _ _ => .of_same rfl⟩
instance : Ignores (Clocked ask) Tab.obligationReminders := ⟨fun _ _ => .of_same rfl⟩
instance : Ignores (Clocked ask) Tab.reminderAttempts := ⟨fun _ _ => .of_same rfl⟩
instance : Ignores (Clocked ask) Tab.renewAttempts := ⟨fun _ _ => .of_same rfl⟩
instance : Ignores (Clocked ask) Tab.schedules := ⟨fun _ _ => .of_same rfl⟩
instance : Ignores (Clocked ask) Tab.renews := ⟨fun _ _ => .of_same rfl⟩
instance : Ignores (Clocked ask) Tab.scheduleFirings := ⟨fun _ _ => .of_same rfl⟩
instance : Ignores (Clocked ask) Tab.socketWaiterKeys := ⟨fun _ _ => .of_same rfl⟩
instance : Ignores (Clocked ask) Tab.socketInboxKeys := ⟨fun _ _ => .of_same rfl⟩
instance : Ignores (Clocked ask) Tab.askPullLeases := ⟨fun _ _ => .of_same rfl⟩
instance : Ignores (Clocked ask) Tab.askPullKeys := ⟨fun _ _ => .of_same rfl⟩
instance : IgnoresCounters (Clocked ask) :=
  ⟨fun _ _ => .of_same rfl, fun _ _ => .of_same rfl, fun _ _ => .of_same rfl⟩

/-- An edit that keeps the clock of every ask. -/
theorem Clocked.tolerates {e : ObligationRow → ObligationRow → Prop}
    (h_e : ∀ o o', e o o' → o'.askMessageId = o.askMessageId ∧
      o'.unavailableSinceMs = o.unavailableSinceMs) :
    Tolerates (Clocked ask) Tab.obligations e where
  put s t h o' h_o' h_ask since h_since := by
    obtain ⟨o, h_o, h_edit⟩ := h.origin o' h_o'
    obtain ⟨h_key, h_same⟩ := h_e o o' h_edit
    exact ⟨o, h_o, h_key.symm.trans h_ask, h_same.symm.trans h_since⟩

instance : Tolerates (Clocked ask) Tab.obligations ObligationRow.Settles :=
  Clocked.tolerates fun _ _ h => ⟨h.ask, h.clock⟩

instance : Tolerates (Clocked ask) Tab.obligations ObligationRow.Annotates :=
  Clocked.tolerates fun _ _ h => ⟨h.ask, h.clock⟩

instance : Admits (Clocked ask) Tab.obligations ObligationRow.Opens where
  put s t r h_r h o' h_o' h_ask since h_since := by
    rcases (h.mem o').mp h_o' with h_o | h_new
    · exact ⟨o', h_o, h_ask, h_since⟩
    · rw [← Option.some_inj.mp h_new, h_r.clock] at h_since
      cases h_since

/-- The call refreshes the clocks. -/
def Call.Observes (c : Call) : Prop :=
  match c with
  | .observeAskAvailability _ => True
  | _ => False

instance : DecidablePred Call.Observes := fun c => by
  apply Call.casesOn (motive := fun c => Decidable (c.Observes)) c <;>
    intros <;>
    dsimp only [Call.Observes] <;>
    infer_instance

/-- Only an observation starts a clock. -/
theorem Call.clocked (c : Call) (h : c.Step s s') (h_c : ¬ c.Observes) : Clocked ask s s' := by
  cases c with
  | observeAskAvailability nowMs => exact absurd trivial h_c
  | _ => exact Keeps.commit h

/-- An observation finds both parties of an open ask present, and no clock runs on. -/
theorem observeAskAvailability_clock {now : Millis} {n : Nat}
    (h : (observeAskAvailability now).run s = .ok (n, s')) {o' : ObligationRow}
    (h_o' : o' ∈ s'.obligations) (h_open : o'.state.Unresolved)
    (h_waiting : s.PartyPresent o'.waitingAgentId) (h_owing : s.PartyPresent o'.owingAgentId) :
    o'.unavailableSinceMs = none := by
  simp only [observeAskAvailability, run_bind_reads] at h
  obtain ⟨t, rfl, h_t⟩ := run_updateRows_edits (fun o o' => o'.state.Unresolved →
      s.PartyPresent o'.waitingAgentId → s.PartyPresent o'.owingAgentId →
        o'.unavailableSinceMs = none) h
    (by
      rintro o - ⟨-, h_iff⟩ - h_waiting h_owing
      simp [h_iff.mpr ⟨h_waiting, h_owing⟩])
    (by
      intro o _ h_not h_open h_waiting h_owing
      by_contra h_some
      refine h_not ⟨h_open, fun _ => ⟨h_waiting, h_owing⟩, fun _ => ?_⟩
      exact Option.isSome_iff_ne_none.mpr h_some)
  obtain ⟨o, -, h_clock⟩ := h_t.origin o' h_o'
  exact h_clock h_open h_waiting h_owing

-- ============================================================================
-- Stranded asks
-- ============================================================================

/-- The obligations stay between their parties over a whole run. -/
theorem parties_of_run {ok : Call → Store → Prop} (h : StoreRun ok s s') :
    Ledger.Parties s.ledger s'.ledger := by
  induction h with
  | refl => exact Stepwise.refl _
  | tail c _ _ h_step ih => exact Stepwise.trans ih (c.parties h_step)

theorem mem_strandedAsks {now grace : Millis} {o : ObligationRow}
    (h : o ∈ s.strandedAsks now grace) :
    o ∈ s.obligations ∧ o.state.Unresolved ∧ ∃ since, o.unavailableSinceMs = some since := by
  simp only [Store.strandedAsks, List.mem_insertionSort, List.mem_filter,
    decide_eq_true_eq] at h
  obtain ⟨h_o, h_unresolved, ⟨since, h_since, -⟩, -⟩ := h
  exact ⟨h_o, h_unresolved, since, h_since⟩

/-- A stranded ask missed a party when it was last observed. -/
theorem strandedAsks_absent {s₀ s₁ s₂ : Store} {now nowMs graceMs : Millis}
    (h_observe : (Call.observeAskAvailability now).Step s₀ s₁)
    (h_run : StoreRun (fun c _ => ¬ c.Observes) s₁ s₂) {o : ObligationRow}
    (h_o : o ∈ s₂.strandedAsks nowMs graceMs) :
    ¬ (s₀.PartyPresent o.waitingAgentId ∧ s₀.PartyPresent o.owingAgentId) := by
  rintro ⟨h_waiting, h_owing⟩
  obtain ⟨h_mem, h_unresolved, since, h_since⟩ := mem_strandedAsks h_o
  have h_clocked : Clocked o.askMessageId s₁ s₂ :=
    h_run.relates fun c _ _ h_c h_step => c.clocked h_step h_c
  obtain ⟨o₁, h_o₁, h_key, h_since₁⟩ := h_clocked o h_mem rfl since h_since
  -- It was open then, between the same parties.
  have h_absorbs : Ledger.Absorbs s₁.ledger s₂.ledger :=
    absorbs_of_run (h_run.mono fun _ _ _ => trivial)
  have h_open : o₁.state.Unresolved := by
    by_contra h_settled
    obtain ⟨o₂, h_o₂, h_key₂, h_state⟩ := h_absorbs o₁ h_o₁ h_settled
    obtain rfl := Table.eq_of_key h_mem h_o₂ (h_key₂.trans h_key).symm
    exact h_settled (h_state ▸ h_unresolved)
  obtain ⟨o₂, h_o₂, h_same⟩ := parties_of_run h_run o₁ h_o₁
  obtain rfl := Table.eq_of_key h_mem h_o₂ (h_same.ask.trans h_key).symm
  rw [h_same.waiting] at h_waiting
  rw [h_same.owing] at h_owing
  obtain ⟨_, h_observed⟩ := commit_ok.mp h_observe
  have h_none := observeAskAvailability_clock h_observed h_o₁ h_open h_waiting h_owing
  rw [h_since₁] at h_none
  cases h_none

/-- An ask is orphaned with a party missing, outside of renews, and with no final reply that
    can still arrive, exactly if no final reply to it is pending; and no ask that is listed as
    stranded had both parties present at the latest observation. -/
theorem orphan_discards_no_answer (s : Store) :
    (∀ s' now ask, (Call.orphanAsk now ask).Step s s' → s.Orphans ask s' →
      ((∃ o ∈ s.obligations, o.askMessageId = ask ∧
          ¬ (s.PartyPresent o.waitingAgentId ∧ s.PartyPresent o.owingAgentId)) ∧
        ¬ s.PrepareAsk ask ∧ ¬ s.CanArrive ask ↔ ¬ s.FinalWith [.pending] ask)) ∧
    ∀ s₁ s₂ now nowMs graceMs, (Call.observeAskAvailability now).Step s s₁ →
      StoreRun (fun c _ => ¬ c.Observes) s₁ s₂ → ∀ o ∈ s₂.strandedAsks nowMs graceMs,
        ¬ (s.PartyPresent o.waitingAgentId ∧ s.PartyPresent o.owingAgentId) := by
  refine ⟨fun s' now ask h_step h_orphans => ?_, ?_⟩
  · obtain ⟨_, h_run⟩ := commit_ok.mp h_step
    obtain ⟨h_absent, h_prepare, h_flight⟩ := orphanAsk_orphans h_run h_orphans
    rw [← Store.canArrive_iff h_flight]
    exact ⟨fun h => h.2.2, fun h => ⟨h_absent, h_prepare, h⟩⟩
  · intro s₁ s₂ now nowMs graceMs h_observe h_run o h_o
    exact strandedAsks_absent h_observe h_run h_o

/-- The asker is lost, and its ask is observed without it. -/
def strandedRun : List Call :=
  [.reconcileReadyIncarnations 10
      ⟨[], [{ terminalId := "t2", paneId := "w1:p2", name := some "worker" }]⟩,
    .observeAskAvailability 100]

theorem orphan_discards_no_answer_strandedRun : ∃ s s' : Store,
    Reachable (fun _ _ => True) s ∧ (Call.orphanAsk 600100 1).Step s s' ∧
    s.Orphans 1 s' ∧ ¬ s.CanArrive 1 := by
  have h : Leads (fun _ _ => True)
      (fun s => (∃ o ∈ s.obligations.rows, o.askMessageId = 1 ∧ o.state ≠ .orphaned) ∧
        ¬ s.FinalWith [.pending] 1 ∧
        ∃ s' ∈ ((Call.orphanAsk 600100 1).commit s).toOption,
          ∃ o' ∈ s'.obligations.rows, o'.askMessageId = 1 ∧ o'.state = .orphaned)
      (askedRun ++ strandedRun) Store.empty := by decide +kernel
  obtain ⟨s, h_run, h_open, h_pending, s', h_s', h_orphaned⟩ := h.run
  have h_step : (Call.orphanAsk 600100 1).Step s s' := Call.step_of_mem h_s'
  have h_orphans : s.Orphans 1 s' := ⟨h_open, h_orphaned⟩
  exact ⟨s, s', h_run, h_step, h_orphans,
    (((orphan_discards_no_answer s).1 s' _ 1 h_step h_orphans).mpr h_pending).2.2⟩

/-- The final reply is on record and its delivery is pending when the ask is orphaned. -/
theorem orphan_discards_pending_answer : ∃ s s' : Store,
    Reachable (fun _ _ => True) s ∧ (Call.orphanAsk 600100 1).Step s s' ∧
    s.Orphans 1 s' ∧ s.CanArrive 1 := by
  have h : Leads (fun _ _ => True)
      (fun s => (∃ o ∈ s.obligations.rows, o.askMessageId = 1 ∧ o.state ≠ .orphaned) ∧
        s.CanArrive 1 ∧
        ∃ s' ∈ ((Call.orphanAsk 600100 1).commit s).toOption,
          ∃ o' ∈ s'.obligations.rows, o'.askMessageId = 1 ∧ o'.state = .orphaned)
      (askedRun ++ [.createReply 5 1 2 "The main one." .final "k4" none] ++ strandedRun)
      Store.empty := by decide +kernel
  obtain ⟨s, h_run, h_open, h_arrives, s', h_s', h_orphaned⟩ := h.run
  exact ⟨s, s', h_run, Call.step_of_mem h_s', ⟨h_open, h_orphaned⟩, h_arrives⟩

end Kelpie
