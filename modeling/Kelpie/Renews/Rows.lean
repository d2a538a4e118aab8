/-
  Kelpie.Renews.Rows

  What the transactions of the store do to the renews.

  Most calls leave every renew, or prepare some that have not come to their clear
  and arm new ones.  The others move one renew through its clear or to its end.
-/

import Kelpie.Schedules.Book

namespace Kelpie

open Lib Lib.Tx

-- As in `Kelpie.Store.Frames`.
set_option synthInstance.maxSize 100000

variable {s s' : Store} {t t₁ t' : Table RenewRow.id}

-- ============================================================================
-- Preparation
-- ============================================================================

/-- The cycle has not come to its clear, and goes on. -/
def RenewPhase.BeforeClear (p : RenewPhase) : Prop :=
  p = .scheduled ∨ p = .preparing ∨ p = .timedOut ∨ p = .ready

instance : DecidablePred RenewPhase.BeforeClear := fun p => by
  unfold RenewPhase.BeforeClear
  infer_instance

/-- An armed cycle that has come to its clear. -/
theorem RenewPhase.Armed.after_clear {p : RenewPhase} (h : p.Armed) (h_after : ¬ p.BeforeClear) :
    p = .clearing ∨ p = .injected := by
  cases p with
  | clearing => exact .inl rfl
  | injected => exact .inr rfl
  | done | aborted | terminated => exact absurd h (by decide)
  | scheduled | preparing | timedOut | ready => exact absurd (by decide) h_after

/-- A step of the cycle before its clear, other than the one that makes it ready. -/
structure RenewRow.Readies (r r' : RenewRow) : Prop where
  id : r'.id = r.id
  before : r.phase.BeforeClear
  after : r'.phase.BeforeClear
  ready : r'.phase = .ready → r.phase = .ready
  ask : r.phase ≠ .scheduled → r'.phase ≠ .scheduled ∧ r'.askMessageId = r.askMessageId
  session : r'.preClearSession = r.preClearSession
  notified : r'.clearStallNotifiedAtMs = r.clearStallNotifiedAtMs

/-- The renew is the same, or takes such a step. -/
def RenewRow.Prepares (r r' : RenewRow) : Prop := r' = r ∨ r.Readies r'

/-- A renew that was armed and not made ready. -/
structure RenewRow.Fresh (r : RenewRow) : Prop where
  before : r.phase.BeforeClear
  ready : r.phase ≠ .ready
  session : r.preClearSession = none

theorem RenewRow.Prepares.id {r r' : RenewRow} (h : r.Prepares r') : r'.id = r.id := by
  rcases h with rfl | h
  · rfl
  · exact h.id

theorem RenewRow.Prepares.trans {r r₁ r' : RenewRow} (h : r.Prepares r₁) (h' : r₁.Prepares r') :
    r.Prepares r' := by
  rcases h with rfl | h
  · exact h'
  · rcases h' with rfl | h'
    · exact .inr h
    · refine .inr ⟨h'.id.trans h.id, h.before, h'.after, fun h_r => h.ready (h'.ready h_r), ?_,
        h'.session.trans h.session, h'.notified.trans h.notified⟩
      intro h_r
      obtain ⟨h_r₁, h_ask⟩ := h.ask h_r
      obtain ⟨h_r', h_ask'⟩ := h'.ask h_r₁
      exact ⟨h_r', h_ask'.trans h_ask⟩

/-- Every renew moves by `e`, and every other one is armed anew. -/
structure RenewMoves (e : RenewRow → RenewRow → Prop) (t t' : Table RenewRow.id) : Prop where
  image : ∀ r ∈ t, ∃ r' ∈ t', e r r'
  origin : ∀ r' ∈ t', (∃ r ∈ t, e r r') ∨ r'.Fresh ∧ ∀ r ∈ t, r.id ≠ r'.id

theorem RenewMoves.of_edits {e : RenewRow → RenewRow → Prop} (h : t.Edits e t') :
    RenewMoves e t t' :=
  ⟨h.image, fun r' h_r' => .inl (h.origin r' h_r')⟩

/-- What is armed anew stays so where it is prepared. -/
theorem RenewRow.Fresh.prepares {r r' : RenewRow} (h : r.Fresh) (h' : r.Prepares r') :
    r'.Fresh := by
  rcases h' with rfl | h'
  · exact h
  · exact ⟨h'.after, fun h_r => h.ready (h'.ready h_r), h'.session.trans h.session⟩

/-- A move that is followed by preparations. -/
theorem RenewMoves.trans {e e' : RenewRow → RenewRow → Prop} (h : RenewMoves e t t₁)
    (h' : RenewMoves RenewRow.Prepares t₁ t') (h_id : ∀ r r', e r r' → r'.id = r.id)
    (h_e : ∀ r r₁ r', e r r₁ → r₁.Prepares r' → e' r r') : RenewMoves e' t t' where
  image r h_r := by
    obtain ⟨r₁, h_r₁, h_e₁⟩ := h.image r h_r
    obtain ⟨r', h_r', h_prep⟩ := h'.image r₁ h_r₁
    exact ⟨r', h_r', h_e r r₁ r' h_e₁ h_prep⟩
  origin r' h_r' := by
    rcases h'.origin r' h_r' with ⟨r₁, h_r₁, h_prep⟩ | ⟨h_new, h_other⟩
    · rcases h.origin r₁ h_r₁ with ⟨r, h_r, h_e₁⟩ | ⟨h_new, h_other⟩
      · exact .inl ⟨r, h_r, h_e r r₁ r' h_e₁ h_prep⟩
      · exact .inr ⟨h_new.prepares h_prep, fun r h_r => h_prep.id ▸ h_other r h_r⟩
    · refine .inr ⟨h_new, fun r h_r h_eq => ?_⟩
      obtain ⟨r₁, h_r₁, h_e₁⟩ := h.image r h_r
      exact h_other r₁ h_r₁ ((h_id r r₁ h_e₁).trans h_eq)

/-- The renews are prepared, and no more. -/
abbrev Preparing : Table RenewRow.id → Table RenewRow.id → Prop := RenewMoves RenewRow.Prepares

instance Preparing.stepwise : Stepwise Preparing where
  refl _ := ⟨fun r h_r => ⟨r, h_r, .inl rfl⟩, fun r h_r => .inl ⟨r, h_r, .inl rfl⟩⟩
  trans h h' := h.trans h' (fun _ _ h_e => h_e.id) fun _ _ _ h_e h_e' => h_e.trans h_e'

-- ============================================================================
-- Frames
-- ============================================================================

instance : Apart Tab.renews Tab.logicalAgents := ⟨fun _ _ => rfl⟩
instance : Apart Tab.renews Tab.incarnations := ⟨fun _ _ => rfl⟩
instance : Apart Tab.renews Tab.operations := ⟨fun _ _ => rfl⟩
instance : Apart Tab.renews Tab.operationAttempts := ⟨fun _ _ => rfl⟩
instance : Apart Tab.renews Tab.operatorNotices := ⟨fun _ _ => rfl⟩
instance : Apart Tab.renews Tab.messages := ⟨fun _ _ => rfl⟩
instance : Apart Tab.renews Tab.obligations := ⟨fun _ _ => rfl⟩
instance : Apart Tab.renews Tab.deliveries := ⟨fun _ _ => rfl⟩
instance : Apart Tab.renews Tab.obligationReminders := ⟨fun _ _ => rfl⟩
instance : Apart Tab.renews Tab.reminderAttempts := ⟨fun _ _ => rfl⟩
instance : Apart Tab.renews Tab.schedules := ⟨fun _ _ => rfl⟩
instance : Apart Tab.renews Tab.renewAttempts := ⟨fun _ _ => rfl⟩
instance : Apart Tab.renews Tab.socketWaiterKeys := ⟨fun _ _ => rfl⟩
instance : Apart Tab.renews Tab.socketInboxKeys := ⟨fun _ _ => rfl⟩
instance : Apart Tab.renews Tab.scheduleFirings := ⟨fun _ _ => rfl⟩
instance : Apart Tab.renews Tab.askPullLeases := ⟨fun _ _ => rfl⟩
instance : Apart Tab.renews Tab.askPullKeys := ⟨fun _ _ => rfl⟩

instance {R₀} [hR : Stepwise R₀] : IgnoresCounters (Over Tab.renews R₀) :=
  ⟨fun _ _ => hR.refl _, fun _ _ => hR.refl _, fun _ _ => hR.refl _⟩

/-- An update of renews that have not come to their clear. -/
theorem keeps_prepareRows {p : RenewRow → Prop} [DecidablePred p] {f : RenewRow → RenewRow}
    {h_key : ∀ r, (f r).id = r.id} (h_f : ∀ r, p r → r.Readies (f r)) :
    Keeps (Over Tab.renews Preparing) (updateRows Tab.renews p f h_key : StoreTx Nat) :=
  .updateRows fun _ => .of_edits
    (Table.edits_update h_key (fun r _ h_p => .inr (h_f r h_p)) fun _ _ _ => .inl rfl)

theorem keeps_insertRenew {row : RenewId → RenewRow} {h_id : ∀ n, (row n).id = n}
    (h_row : ∀ n, (row n).Fresh) : Keeps (Over Tab.renews Preparing) (insertRenew row h_id) where
  keeps {_ n _} h := by
    obtain ⟨rs, rfl, h_adds, -⟩ := insertRenew_run h
    refine ⟨fun r h_r => ⟨r, (h_adds.mem r).mpr (.inl h_r), .inl rfl⟩, fun r h_r => ?_⟩
    rcases (h_adds.mem r).mp h_r with h_old | h_new
    · exact .inl ⟨r, h_old, .inl rfl⟩
    · exact .inr ⟨Option.some.inj h_new ▸ h_row n, fun r' h_r' => h_adds.fresh r h_new r' h_r'⟩

/-- The renews that are recorded as scheduled. -/
instance {agent incarnation requester prepare resume timeout timeoutMs every cycle at_ created
      remaining sampled schedule h_id} : Keeps (Over Tab.renews Preparing)
    (insertRenew (fun id =>
      { id, logicalAgentId := agent, incarnationId := incarnation, requesterAgentId := requester,
        preparePrompt := prepare, resumePrompt := resume, onTimeout := timeout,
        prepareTimeoutMs := timeoutMs, everyMs := every, cycle, scheduledAtMs := at_,
        phase := .scheduled, createdAtMs := created, activeRemainingMs := remaining,
        occupancySampledAtMs := sampled, scheduleId := schedule }) h_id) :=
  keeps_insertRenew fun _ => ⟨.inl rfl, nofun, rfl⟩

instance {now intent} : Keeps (Over Tab.renews Preparing) (createRenew now intent) := by
  unfold createRenew
  cases intent.everyMs <;> infer_instance

instance {now renew outcome} :
    Keeps (Over Tab.renews Preparing) (armNextRenewCycle now renew outcome) where
  keeps h := by
    simp only [armNextRenewCycle, run_bind_reads] at h
    split at h <;> exact Keeps.keeps h

/-- The clock of a scheduled renew is set. -/
instance {renew accumulating nowMs} :
    Keeps (Over Tab.renews Preparing) (accrueRenewOccupancy renew accumulating nowMs) := by
  have h_update {remaining sampled} {scheduled : RenewRow → Millis} {h_key} :
      Keeps (Over Tab.renews Preparing) (updateRows Tab.renews
        (fun r => r.id = renew ∧ r.phase = .scheduled ∧ r.everyMs.isSome)
        (fun r => { r with
          activeRemainingMs := remaining, occupancySampledAtMs := sampled,
          scheduledAtMs := scheduled r }) h_key : StoreTx Nat) :=
    keeps_prepareRows fun _ h_r =>
      ⟨rfl, .inl h_r.2.1, .inl h_r.2.1, id, fun h => absurd h_r.2.1 h, rfl, rfl⟩
  unfold accrueRenewOccupancy
  infer_instance

/-- A change of a renew that has not come to its clear. -/
theorem keeps_prepareRenew {renewId : RenewId} {p : RenewRow → Prop} [DecidablePred p]
    {f : RenewRow → RenewRow} {h_id : ∀ r, (f r).id = r.id} {refusal : String}
    (h_f : ∀ r, p r → r.Readies (f r)) :
    Keeps (Over Tab.renews Preparing) (updateRenew renewId p f h_id refusal) := by
  have h_update : Keeps (Over Tab.renews Preparing)
      (updateRows Tab.renews (fun r => r.id = renewId ∧ p r) f h_id : StoreTx Nat) :=
    keeps_prepareRows fun r h_r => h_f r h_r.2
  unfold updateRenew
  infer_instance

instance {renew ask deadline} :
    Keeps (Over Tab.renews Preparing) (markRenewPreparing renew ask deadline) := by
  have h_update {h_id refusal} : Keeps (Over Tab.renews Preparing)
      (updateRenew renew (·.phase = .scheduled) (fun r => { r with
        phase := .preparing, askMessageId := some ask, prepareDeadlineMs := some deadline })
        h_id refusal) :=
    keeps_prepareRenew fun _ h_r =>
      ⟨rfl, .inl h_r, .inr (.inl rfl), nofun, fun h => absurd h_r h, rfl, rfl⟩
  unfold markRenewPreparing
  infer_instance

instance {renew} : Keeps (Over Tab.renews Preparing) (markRenewTimedOut renew) :=
  keeps_prepareRenew fun _ h_r =>
    ⟨rfl, .inr (.inl h_r), .inr (.inr (.inl rfl)), nofun, fun _ => ⟨nofun, rfl⟩, rfl, rfl⟩

-- ============================================================================
-- Moves of one renew
-- ============================================================================

/-- The renew `id` moves by `e`; every other one may be prepared. -/
def RenewRow.Aside (id : RenewId) (e : RenewRow → RenewRow → Prop) (r r' : RenewRow) : Prop :=
  (r.id ≠ id ∧ r.Prepares r') ∨ (r.id = id ∧ e r r')

/-- The clear columns of a renew, which are set once. -/
structure RenewRow.SameClear (r r' : RenewRow) : Prop where
  id : r'.id = r.id
  ask : r'.askMessageId = r.askMessageId
  session : r'.preClearSession = r.preClearSession
  deadline : r'.clearDeadlineMs = r.clearDeadlineMs
  notBefore : r'.injectNotBeforeMs = r.injectNotBeforeMs
  notified : r.clearStallNotifiedAtMs.isSome → r'.clearStallNotifiedAtMs.isSome

theorem RenewRow.SameClear.rfl {r : RenewRow} : r.SameClear r :=
  ⟨.refl _, .refl _, .refl _, .refl _, .refl _, fun h => h⟩

/-- The renew goes from a phase of `p` to `phase`. -/
structure RenewRow.Goes (p : RenewPhase → Prop) (phase : RenewPhase) (r r' : RenewRow) : Prop
    extends r.SameClear r' where
  source : p r.phase
  target : r'.phase = phase

/-- The reference and the deadlines of the clear are recorded. -/
structure RenewRow.Clears (session : NativeSession) (deadlineMs : Millis)
    (notBeforeMs : Option Millis) (r r' : RenewRow) : Prop where
  id : r'.id = r.id
  ask : r'.askMessageId = r.askMessageId
  source : r.phase = .ready
  target : r'.phase = .clearing
  session : r'.preClearSession = some session
  deadline : r'.clearDeadlineMs = some deadlineMs
  notBefore : r'.injectNotBeforeMs = notBeforeMs
  notified : r'.clearStallNotifiedAtMs = r.clearStallNotifiedAtMs

/-- A committed change of a renew, which is found in a phase of the condition. -/
theorem updateRenew_aside {id : RenewId} {p : RenewRow → Prop} [DecidablePred p]
    {f : RenewRow → RenewRow} {h_id : ∀ r, (f r).id = r.id} {refusal : String} {u : Unit}
    {e : RenewRow → RenewRow → Prop} (h : (updateRenew id p f h_id refusal).run s = .ok (u, s'))
    (h_e : ∀ r, p r → e r (f r)) :
    RenewMoves (RenewRow.Aside id e) s.renews s'.renews ∧
      ∃ r ∈ s.renews, r.id = id ∧ p r ∧ f r ∈ s'.renews := by
  obtain ⟨rs, rfl, h_found, h_edits⟩ := updateRenew_run h
  refine ⟨.of_edits (h_edits.mono fun r _ r' _ h_r => ?_), h_found⟩
  rcases h_r with ⟨h_other, h_same⟩ | ⟨h_id, h_p, rfl⟩
  · exact .inl ⟨h_other, .inl h_same⟩
  · exact .inr ⟨h_id, h_e r h_p⟩

/-- The preparations that follow leave a renew that is past them. -/
theorem RenewMoves.then_prepare {id : RenewId} {e : RenewRow → RenewRow → Prop}
    (h : RenewMoves (RenewRow.Aside id e) t t₁) (h' : Preparing t₁ t')
    (h_e : ∀ r r', e r r' → r'.id = r.id ∧ ¬ r'.phase.BeforeClear) :
    RenewMoves (RenewRow.Aside id e) t t' := by
  refine h.trans h' ?_ ?_
  · rintro r r' (⟨-, h_prep⟩ | ⟨-, h_r⟩)
    · exact h_prep.id
    · exact (h_e r r' h_r).1
  · rintro r r₁ r' (⟨h_other, h_prep⟩ | ⟨h_id, h_r⟩) h_prep'
    · exact .inl ⟨h_other, h_prep.trans h_prep'⟩
    · rcases h_prep' with rfl | h_readies
      · exact .inr ⟨h_id, h_r⟩
      · exact absurd h_readies.before (h_e r r₁ h_r).2

section Moves

variable {now : Millis} {id : RenewId}

theorem markRenewReady_moves {u : Unit} (h : (markRenewReady now id).run s = .ok (u, s')) :
    RenewMoves (RenewRow.Aside id
      (RenewRow.Goes (fun p => p = .preparing ∨ p = .timedOut) .ready)) s.renews s'.renews := by
  obtain ⟨_, s₁, h_update, h⟩ := run_bind_ok.mp h
  obtain ⟨_, s₂, h_cancel, h⟩ := run_bind_ok.mp h
  obtain ⟨-, rfl⟩ := Prod.mk.inj (Except.ok.inj h)
  have h_same : s₂.book = s₁.book := keeps_cancelUnansweredPrepare.keeps h_cancel
  have h_renews : s₂.renews = s₁.renews := congrArg Book.renews h_same
  rw [h_renews]
  exact (updateRenew_aside h_update fun r h_p =>
    ⟨⟨rfl, rfl, rfl, rfl, rfl, fun h => h⟩, h_p, rfl⟩).1

theorem markRenewClearing_moves {session : NativeSession} {deadline : Millis}
    {notBefore : Option Millis} {u : Unit}
    (h : (markRenewClearing id session deadline notBefore).run s = .ok (u, s')) :
    RenewMoves (RenewRow.Aside id (RenewRow.Clears session deadline notBefore))
      s.renews s'.renews ∧ ∃ r ∈ s.renews, r.id = id ∧ r.phase = .ready := by
  obtain ⟨h_moves, r, h_r, h_id, h_phase, -⟩ := updateRenew_aside
    (e := RenewRow.Clears session deadline notBefore) h fun _ h_p =>
      ⟨rfl, rfl, h_p, rfl, rfl, rfl, rfl, rfl⟩
  exact ⟨h_moves, r, h_r, h_id, h_phase⟩

theorem markRenewInjected_moves {u : Unit} (h : (markRenewInjected id).run s = .ok (u, s')) :
    RenewMoves (RenewRow.Aside id (RenewRow.Goes (· = .clearing) .injected))
      s.renews s'.renews :=
  (updateRenew_aside h fun _ h_p => ⟨⟨rfl, rfl, rfl, rfl, rfl, fun h => h⟩, h_p, rfl⟩).1

/-- The notice of a stalled clear is claimed, by a renew that had not claimed it. -/
theorem claimRenewClearStallNotice_moves {claimed : Bool}
    (h : (claimRenewClearStallNotice id now).run s = .ok (claimed, s')) :
    RenewMoves (RenewRow.Aside id fun r r' => r.SameClear r' ∧ r'.phase = r.phase)
        s.renews s'.renews ∧
      (claimed = true → (∃ r ∈ s.renews, r.id = id ∧ r.clearStallNotifiedAtMs = none) ∧
        ∃ r ∈ s'.renews, r.id = id ∧ r.clearStallNotifiedAtMs.isSome) := by
  obtain ⟨n, s₁, h_update, h⟩ := run_bind_ok.mp h
  obtain ⟨h_claimed, rfl⟩ := Prod.mk.inj (Except.ok.inj h)
  constructor
  · obtain ⟨t, rfl, h_edits⟩ := run_updateRows_edits
      (RenewRow.Aside id fun r r' => r.SameClear r' ∧ r'.phase = r.phase) h_update
      (fun r _ h_p => .inr ⟨h_p.1, ⟨rfl, rfl, rfl, rfl, rfl, fun _ => rfl⟩, rfl⟩)
      fun r _ _ => by
        by_cases h_id : r.id = id
        · exact .inr ⟨h_id, .rfl, rfl⟩
        · exact .inl ⟨h_id, .inl rfl⟩
    exact .of_edits h_edits
  · intro h_true
    have h_one : n = 1 := by rwa [← h_claimed, decide_eq_true_iff] at h_true
    obtain ⟨t, rfl, r, h_r, ⟨h_id, -, h_none⟩, h_mem⟩ :=
      run_updateRows_pos h_update (h_one ▸ Nat.zero_lt_one)
    exact ⟨⟨r, h_r, h_id, h_none⟩, _, h_mem, h_id, rfl⟩

/-- The renew ends, and the next cycle of its policy is armed. -/
theorem updateRenew_ends {α : Type} {p : RenewPhase → Prop} {phase : RenewPhase}
    {q : RenewRow → Prop} [DecidablePred q] {f : RenewRow → RenewRow}
    {h_id : ∀ r, (f r).id = r.id} {refusal : String} {rest : Unit → StoreTx α} {a : α}
    (h : (updateRenew id q f h_id refusal >>= rest).run s = .ok (a, s'))
    (h_f : ∀ r, q r → r.Goes p phase (f r)) (h_phase : ¬ phase.BeforeClear)
    [h_rest : ∀ u, Keeps (Over Tab.renews Preparing) (rest u)] :
    RenewMoves (RenewRow.Aside id (RenewRow.Goes p phase)) s.renews s'.renews ∧
      ∃ r ∈ s.renews, r.id = id ∧ p r.phase := by
  obtain ⟨u, s₁, h_update, h⟩ := run_bind_ok.mp h
  obtain ⟨h_moves, r, h_r, h_key, h_q, -⟩ := updateRenew_aside h_update h_f
  refine ⟨h_moves.then_prepare ((h_rest u).keeps h) fun r r' h_goes => ?_,
    r, h_r, h_key, (h_f r h_q).source⟩
  exact ⟨h_goes.id, h_goes.target ▸ h_phase⟩

theorem completeRenew_moves {next : Option RenewId}
    (h : (completeRenew now id).run s = .ok (next, s')) :
    RenewMoves (RenewRow.Aside id (RenewRow.Goes (· = .injected) .done)) s.renews s'.renews ∧
      ∃ r ∈ s.renews, r.id = id ∧ r.phase = .injected :=
  updateRenew_ends h (fun _ h_p => ⟨⟨rfl, rfl, rfl, rfl, rfl, fun h => h⟩, h_p, rfl⟩) (by decide)

theorem abortRenew_moves {reason : String} {next : Option RenewId}
    (h : (abortRenew now id reason).run s = .ok (next, s')) :
    RenewMoves (RenewRow.Aside id (RenewRow.Goes RenewPhase.BeforeClear .aborted))
        s.renews s'.renews ∧
      ∃ r ∈ s.renews, r.id = id ∧ r.phase.BeforeClear :=
  updateRenew_ends h (fun _ h_p => ⟨⟨rfl, rfl, rfl, rfl, rfl, fun h => h⟩, h_p, rfl⟩) (by decide)

theorem abandonRenewProof_moves {reason : String} {next : Option RenewId}
    (h : (abandonRenewProof now id reason).run s = .ok (next, s')) :
    RenewMoves (RenewRow.Aside id (RenewRow.Goes (· = .injected) .terminated))
        s.renews s'.renews ∧
      ∃ r ∈ s.renews, r.id = id ∧ r.phase = .injected :=
  updateRenew_ends h (fun _ h_p => ⟨⟨rfl, rfl, rfl, rfl, rfl, fun h => h⟩, h_p, rfl⟩) (by decide)

/-- The renew ends with its policy. -/
theorem endRenew_moves {p : RenewPhase → Prop} {q : RenewRow → Prop} [DecidablePred q]
    {reason refusal : String} {state : ScheduleState} {u : Unit}
    (h : (endRenew now id q reason refusal state).run s = .ok (u, s'))
    (h_q : ∀ r, q r → p r.phase) :
    RenewMoves (RenewRow.Aside id (RenewRow.Goes p .terminated)) s.renews s'.renews ∧
      ∃ r ∈ s.renews, r.id = id ∧ p r.phase :=
  updateRenew_ends h
    (fun r h_r => ⟨⟨rfl, rfl, rfl, rfl, rfl, fun h => h⟩, h_q r h_r, rfl⟩) (by decide)

theorem terminateRenewAnnounced_moves {reason notice : String} {n : OperatorNoticeId}
    (h : (terminateRenewAnnounced now id reason notice).run s = .ok (n, s')) :
    RenewMoves (RenewRow.Aside id (RenewRow.Goes RenewPhase.Armed .terminated))
        s.renews s'.renews ∧
      ∃ r ∈ s.renews, r.id = id ∧ r.phase.Armed := by
  obtain ⟨_, s₁, h_end, h⟩ := run_bind_ok.mp h
  obtain ⟨h_moves, h_found⟩ := endRenew_moves h_end fun _ h_r => h_r
  have h_same : SameBook s₁ s' := Keeps.keeps h
  have h_renews : s'.renews = s₁.renews := congrArg Book.renews h_same
  rw [h_renews]
  exact ⟨h_moves, h_found⟩

theorem cancelRenew_moves {requester : LogicalAgentId} {reason notice : String}
    {n : OperatorNoticeId} (h : (cancelRenew now id requester reason notice).run s = .ok (n, s')) :
    RenewMoves (RenewRow.Aside id
        (RenewRow.Goes (fun p => p.Armed ∧ p ≠ .clearing) .terminated)) s.renews s'.renews ∧
      ∃ r ∈ s.renews, r.id = id ∧ r.phase.Armed ∧ r.phase ≠ .clearing := by
  simp only [cancelRenew, run_bind_reads] at h
  obtain ⟨_, s₁, h_end, h⟩ := run_bind_ok.mp h
  obtain ⟨h_moves, h_found⟩ := endRenew_moves
    (p := fun p => p.Armed ∧ p ≠ .clearing) h_end fun _ h_r => ⟨h_r.1, h_r.2.1⟩
  have h_same : SameBook s₁ s' := Keeps.keeps h
  have h_renews : s'.renews = s₁.renews := congrArg Book.renews h_same
  rw [h_renews]
  exact ⟨h_moves, h_found⟩

end Moves

end Kelpie
