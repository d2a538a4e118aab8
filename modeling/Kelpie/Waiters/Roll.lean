/-
  Kelpie.Waiters.Roll

  The roll of logical agents.  A transaction keeps the agents and their transports
  and does not bring back an agent whose targeting ended; the time at which a
  waiter was last seen is written by the claim of its inbox, by the sweep and at
  boot alone.
-/

import Kelpie.Store.Frames

namespace Kelpie

open Lib Lib.Tx

-- As in `Kelpie.Store.Frames`.
set_option synthInstance.maxSize 100000

-- ============================================================================
-- The roll
-- ============================================================================

section Roll

instance : Apart Tab.logicalAgents Tab.incarnations := ⟨fun _ _ => rfl⟩
instance : Apart Tab.logicalAgents Tab.operations := ⟨fun _ _ => rfl⟩
instance : Apart Tab.logicalAgents Tab.operationAttempts := ⟨fun _ _ => rfl⟩
instance : Apart Tab.logicalAgents Tab.operatorNotices := ⟨fun _ _ => rfl⟩
instance : Apart Tab.logicalAgents Tab.messages := ⟨fun _ _ => rfl⟩
instance : Apart Tab.logicalAgents Tab.obligations := ⟨fun _ _ => rfl⟩
instance : Apart Tab.logicalAgents Tab.deliveries := ⟨fun _ _ => rfl⟩
instance : Apart Tab.logicalAgents Tab.obligationReminders := ⟨fun _ _ => rfl⟩
instance : Apart Tab.logicalAgents Tab.reminderAttempts := ⟨fun _ _ => rfl⟩
instance : Apart Tab.logicalAgents Tab.schedules := ⟨fun _ _ => rfl⟩
instance : Apart Tab.logicalAgents Tab.renews := ⟨fun _ _ => rfl⟩
instance : Apart Tab.logicalAgents Tab.renewAttempts := ⟨fun _ _ => rfl⟩
instance : Apart Tab.logicalAgents Tab.socketWaiterKeys := ⟨fun _ _ => rfl⟩
instance : Apart Tab.logicalAgents Tab.socketInboxKeys := ⟨fun _ _ => rfl⟩
instance : Apart Tab.logicalAgents Tab.scheduleFirings := ⟨fun _ _ => rfl⟩
instance : Apart Tab.logicalAgents Tab.askPullLeases := ⟨fun _ _ => rfl⟩
instance : Apart Tab.logicalAgents Tab.askPullKeys := ⟨fun _ _ => rfl⟩

variable {seen ended : LogicalAgentId → Prop}

/-- The same agent, which somebody saw only if it is among the `seen`, and which came to
    its end only if it is among the `ended`. -/
structure LogicalAgentRow.Stays (seen ended : LogicalAgentId → Prop) (l l' : LogicalAgentRow) :
    Prop where
  id : l'.id = l.id
  transport : l'.deliveryTransport = l.deliveryTransport
  ended : l'.targetingEndedAtMs = l.targetingEndedAtMs ∨
    ended l.id ∧ l'.targetingEndedAtMs.isSome
  seen : l'.waiterLastSeenAtMs = l.waiterLastSeenAtMs ∨ seen l.id

theorem LogicalAgentRow.Stays.rfl {l : LogicalAgentRow} : l.Stays seen ended l :=
  ⟨.refl _, .refl _, .inl (.refl _), .inl (.refl _)⟩

theorem LogicalAgentRow.Stays.trans {l₁ l₂ l₃ : LogicalAgentRow} (h : l₁.Stays seen ended l₂)
    (h' : l₂.Stays seen ended l₃) : l₁.Stays seen ended l₃ where
  id := h'.id.trans h.id
  transport := h'.transport.trans h.transport
  ended := by
    rcases h'.ended with h_same' | ⟨h_ended, h_some⟩
    · rw [h_same']
      exact h.ended
    · exact .inr ⟨h.id ▸ h_ended, h_some⟩
  seen := by
    rcases h'.seen with h_same' | h_seen
    · rw [h_same']
      exact h.seen
    · exact .inr (h.id ▸ h_seen)

theorem LogicalAgentRow.Stays.mono {seen' ended' : LogicalAgentId → Prop}
    {l l' : LogicalAgentRow} (h : l.Stays seen ended l') (h_seen : ∀ a, seen a → seen' a)
    (h_ended : ∀ a, ended a → ended' a) : l.Stays seen' ended' l' :=
  ⟨h.id, h.transport, h.ended.imp_right (.imp_left (h_ended _)), h.seen.imp_right (h_seen _)⟩

/-- An end is not taken back. -/
theorem LogicalAgentRow.Stays.active {l l' : LogicalAgentRow} (h : l.Stays seen ended l')
    (h_active : l'.ActiveWaiter) : l.ActiveWaiter := by
  obtain ⟨h_transport, h_open⟩ := h_active
  refine ⟨h.transport.symm.trans h_transport, ?_⟩
  rcases h.ended with h_same | ⟨-, h_some⟩
  · rw [← h_same, h_open]
  · rw [h_open] at h_some
    cases h_some

/-- The agents stay, and nobody saw the new ones. -/
structure Rolls (seen ended : LogicalAgentId → Prop) (t t' : Table LogicalAgentRow.id) :
    Prop where
  kept : ∀ l ∈ t, ∃ l' ∈ t', l.Stays seen ended l'
  origin : ∀ l' ∈ t', (∃ l ∈ t, l.Stays seen ended l') ∨
    (l'.waiterLastSeenAtMs = none ∨ seen l'.id) ∧ ∀ l ∈ t, l.id ≠ l'.id

theorem Rolls.edits {t t' : Table LogicalAgentRow.id}
    (h : t.Edits (LogicalAgentRow.Stays seen ended) t') : Rolls seen ended t t' :=
  ⟨h.image, fun l' h_l' => .inl (h.origin l' h_l')⟩

theorem Rolls.enroll {t t' : Table LogicalAgentRow.id} {l : LogicalAgentRow}
    (h : t.Adds (some l) t') (h_unseen : l.waiterLastSeenAtMs = none) :
    Rolls seen ended t t' where
  kept l₀ h_l₀ := ⟨l₀, (h.mem l₀).mpr (.inl h_l₀), .rfl⟩
  origin l' h_l' := by
    rcases (h.mem l').mp h_l' with h_old | h_new
    · exact .inl ⟨l', h_old, .rfl⟩
    · obtain rfl := Option.some_inj.mp h_new
      exact .inr ⟨.inl h_unseen, fun l₀ h_l₀ => h.fresh l rfl l₀ h_l₀⟩

instance Rolls.stepwise : Stepwise (Rolls seen ended) where
  refl t := .edits (.refl (fun _ => .rfl) t)
  trans {t₁ t₂ t₃} h h' := by
    constructor
    · intro l h_l
      obtain ⟨l₂, h_l₂, h_stays⟩ := h.kept l h_l
      obtain ⟨l₃, h_l₃, h_stays'⟩ := h'.kept l₂ h_l₂
      exact ⟨l₃, h_l₃, h_stays.trans h_stays'⟩
    · intro l₃ h_l₃
      rcases h'.origin l₃ h_l₃ with ⟨l₂, h_l₂, h_stays'⟩ | ⟨h_unseen, h_fresh⟩
      · rcases h.origin l₂ h_l₂ with ⟨l₁, h_l₁, h_stays⟩ | ⟨h_unseen, h_fresh⟩
        · exact .inl ⟨l₁, h_l₁, h_stays.trans h_stays'⟩
        · refine .inr ⟨?_, fun l h_l h_id => h_fresh l h_l (h_id.trans h_stays'.id)⟩
          rcases h_stays'.seen with h_same | h_seen
          · rw [h_same, h_stays'.id]
            exact h_unseen
          · exact .inr (h_stays'.id ▸ h_seen)
      · refine .inr ⟨h_unseen, fun l h_l h_id => ?_⟩
        obtain ⟨l₂, h_l₂, h_stays⟩ := h.kept l h_l
        exact h_fresh l₂ h_l₂ (h_stays.id.trans h_id)

theorem Rolls.mono {seen' ended' : LogicalAgentId → Prop} {t t' : Table LogicalAgentRow.id}
    (h : Rolls seen ended t t') (h_seen : ∀ a, seen a → seen' a)
    (h_ended : ∀ a, ended a → ended' a) : Rolls seen' ended' t t' where
  kept l h_l := by
    obtain ⟨l', h_l', h_stays⟩ := h.kept l h_l
    exact ⟨l', h_l', h_stays.mono h_seen h_ended⟩
  origin l' h_l' := by
    rcases h.origin l' h_l' with ⟨l, h_l, h_stays⟩ | ⟨h_unseen, h_fresh⟩
    · exact .inl ⟨l, h_l, h_stays.mono h_seen h_ended⟩
    · exact .inr ⟨h_unseen.imp_right (h_seen _), h_fresh⟩

end Roll

-- ============================================================================
-- Transactions
-- ============================================================================

section Transactions

variable {seen ended : LogicalAgentId → Prop}

instance : IgnoresCounters (Over Tab.logicalAgents (Rolls seen ended)) where
  reminderAttempts s _ := Rolls.stepwise.refl s.logicalAgents
  askPullLeases s _ := Rolls.stepwise.refl s.logicalAgents
  operationFloor s _ := Rolls.stepwise.refl s.logicalAgents

instance : Tolerates (Over Tab.logicalAgents (Rolls seen ended)) Tab.logicalAgents
    (LogicalAgentRow.Stays seen ended) :=
  ⟨fun _ _ h => .edits h⟩

theorem keeps_stays {p : LogicalAgentRow → Prop} [DecidablePred p]
    {f : LogicalAgentRow → LogicalAgentRow} {h_key : ∀ l, (f l).id = l.id}
    (h : ∀ l, p l → l.Stays seen ended (f l)) :
    Keeps (Over Tab.logicalAgents (Rolls seen ended))
      (updateRows Tab.logicalAgents p f h_key : StoreTx Nat) :=
  Tolerates.updateRows (LogicalAgentRow.Stays seen ended) h fun _ => .rfl

/-- The edits of names and of archive marks. -/
instance {p} [DecidablePred p] {name : LogicalAgentRow → String}
    {archived : LogicalAgentRow → Option Millis} {h_key} :
    Keeps (Over Tab.logicalAgents (Rolls seen ended)) (updateRows Tab.logicalAgents p
      (fun l => { l with publicName := name l, archivedAtMs := archived l }) h_key :
      StoreTx Nat) :=
  keeps_stays fun _ _ => ⟨rfl, rfl, .inl rfl, .inl rfl⟩

instance {now name parent transport} :
    Keeps (Over Tab.logicalAgents (Rolls seen ended))
      (insertLogicalAgent now name parent transport) where
  keeps {s a s'} h := by
    simp only [insertLogicalAgent, run_bind_reads, run_bind_require_ok] at h
    obtain ⟨-, h⟩ := h
    obtain ⟨t, rfl, h_t⟩ := run_appendRow_adds h
    exact .enroll h_t rfl

instance {row h} : Keeps (Over Tab.logicalAgents (Rolls seen ended)) (insertIncarnation row h) := by
  unfold insertIncarnation
  infer_instance

instance {now existing name parent} : Keeps (Over Tab.logicalAgents (Rolls seen ended))
    (continueOrCreateAgent now existing name parent) := by
  unfold continueOrCreateAgent
  cases existing <;> infer_instance

instance {now intent} :
    Keeps (Over Tab.logicalAgents (Rolls seen ended)) (declareStart now intent) := by
  unfold declareStart
  infer_instance

instance {now intent evidence state outcome committed} :
    Keeps (Over Tab.logicalAgents (Rolls seen ended))
      (insertAdoptBinding now intent evidence state outcome committed) := by
  unfold insertAdoptBinding
  infer_instance

instance {now intent evidence} :
    Keeps (Over Tab.logicalAgents (Rolls seen ended)) (declareAdopt now intent evidence) := by
  unfold declareAdopt
  infer_instance

instance {now intent evidence} :
    Keeps (Over Tab.logicalAgents (Rolls seen ended))
      (declareAdoptPending now intent evidence) := by
  unfold declareAdoptPending
  infer_instance

instance {inc name} :
    Keeps (Over Tab.logicalAgents (Rolls seen ended)) (commitRename inc name) := by
  unfold commitRename
  infer_instance

instance {now name parent key} :
    Keeps (Over Tab.logicalAgents (Rolls seen ended))
      (registerSocketWaiter now name parent key) where
  keeps {s a s'} h := by
    simp only [registerSocketWaiter, run_bind_require_ok, run_bind_reads] at h
    obtain ⟨-, h⟩ := h
    split at h
    · exact Keeps.keeps h
    · exact Keeps.keeps h

instance {now snapshot b} :
    Keeps (Over Tab.logicalAgents (Rolls seen ended)) (reconcileReadyBinding now snapshot b) := by
  unfold reconcileReadyBinding
  infer_instance

instance {now snapshot} :
    Keeps (Over Tab.logicalAgents (Rolls seen ended))
      (reconcileReadyIncarnations now snapshot) := by
  unfold reconcileReadyIncarnations
  infer_instance

instance {now s cs c} :
    Keeps (Over Tab.logicalAgents (Rolls seen ended)) (continueOnto now s cs c) := by
  unfold continueOnto
  split <;> infer_instance

instance {now snapshot} :
    Keeps (Over Tab.logicalAgents (Rolls seen ended)) (continueRestoredOccupants now snapshot) := by
  unfold continueRestoredOccupants
  infer_instance

instance {nowMs grace} :
    Keeps (Over Tab.logicalAgents (Rolls seen ended)) (archiveDeadIdentities nowMs grace) := by
  unfold archiveDeadIdentities
  infer_instance

theorem keeps_endSocketWaiter_roll {agent due now reason} (h : ended agent) :
    Keeps (Over Tab.logicalAgents (Rolls seen ended))
      (endSocketWaiterWithOwingDue now agent due reason) := by
  have h_end {h_key} : Keeps (Over Tab.logicalAgents (Rolls seen ended))
      (updateRows Tab.logicalAgents (fun l => l.id = agent ∧ l.ActiveWaiter)
        (fun l => { l with targetingEndedAtMs := some now }) h_key : StoreTx Nat) :=
    keeps_stays fun l h_l => ⟨rfl, rfl, .inr ⟨h_l.1 ▸ h, rfl⟩, .inl rfl⟩
  unfold endSocketWaiterWithOwingDue
  infer_instance

theorem keeps_touchWaiterSeen {agent nowMs} (h : seen agent) :
    Keeps (Over Tab.logicalAgents (Rolls seen ended)) (touchWaiterSeen agent nowMs) := by
  have h_touch {h_key} : Keeps (Over Tab.logicalAgents (Rolls seen ended))
      (updateRows Tab.logicalAgents (fun l => l.id = agent ∧ l.ActiveWaiter)
        (fun l => { l with waiterLastSeenAtMs := some nowMs }) h_key : StoreTx Nat) :=
    keeps_stays fun l h_l => ⟨rfl, rfl, .inl rfl, .inr (h_l.1 ▸ h)⟩
  unfold touchWaiterSeen
  infer_instance

theorem keeps_bootResetWaiterSeen {nowMs} (h : ∀ agent, seen agent) :
    Keeps (Over Tab.logicalAgents (Rolls seen ended)) (bootResetWaiterSeen nowMs) := by
  unfold bootResetWaiterSeen
  exact keeps_stays fun l _ => ⟨rfl, rfl, .inl rfl, .inr (h l.id)⟩

end Transactions

-- ============================================================================
-- Calls
-- ============================================================================

/-- The waiters that the call may record as seen. -/
def Call.SeesWaiter (c : Call) (agent : LogicalAgentId) : Prop :=
  match c with
  | .touchWaiterSeen waiter _ => agent = waiter
  | .bootResetWaiterSeen _ => True
  | _ => False

/-- The waiter that the call ends. -/
def Call.EndsWaiter (c : Call) (agent : LogicalAgentId) : Prop :=
  match c with
  | .endSocketWaiter _ waiter _ _ => agent = waiter
  | _ => False

/-- What a call does to the roll. -/
theorem Call.rolls (c : Call) {s s' : Store} (h : c.Step s s') :
    Rolls c.SeesWaiter c.EndsWaiter s.logicalAgents s'.logicalAgents := by
  have h_over : Over Tab.logicalAgents (Rolls c.SeesWaiter c.EndsWaiter) s s' := by
    cases c with
    | touchWaiterSeen agent nowMs =>
      have h_sees : (Call.touchWaiterSeen agent nowMs).SeesWaiter agent := rfl
      exact (keeps_touchWaiterSeen h_sees).commit h
    | bootResetWaiterSeen nowMs => exact (keeps_bootResetWaiterSeen fun _ => trivial).commit h
    | endSocketWaiter now agent due reason =>
      have h_ends : (Call.endSocketWaiter now agent due reason).EndsWaiter agent := rfl
      exact (keeps_endSocketWaiter_roll h_ends).commit h
    | _ => exact Keeps.commit h
  exact h_over

/-- What a run of calls does to the roll. -/
theorem StoreRun.rolls {ok : Call → Store → Prop} {s s' : Store}
    {seen ended : LogicalAgentId → Prop} (h : StoreRun ok s s')
    (h_seen : ∀ c s, ok c s → ∀ a, c.SeesWaiter a → seen a)
    (h_ended : ∀ c s, ok c s → ∀ a, c.EndsWaiter a → ended a) :
    Rolls seen ended s.logicalAgents s'.logicalAgents :=
  Run.relates (R := fun s s' => Over Tab.logicalAgents (Rolls seen ended) s s') h
    fun c _ _ h_ok h_step => (c.rolls h_step).mono (h_seen c _ h_ok) (h_ended c _ h_ok)

end Kelpie
