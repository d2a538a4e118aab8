/-
  Kelpie.Bindings.Accounts

  The calls that change the roster without making a binding Ready and without
  giving a Ready agent another name.
-/

import Kelpie.Bindings.Roster
import Kelpie.Store.Frames

namespace Kelpie

open Lib Lib.Tx Roster

-- As in `Kelpie.Store.Frames`.
set_option synthInstance.maxSize 100000

variable {ok : Prop} {s s' : Store}

/-- The roster stays as it is. -/
def SameRoster (s s' : Store) : Prop := s'.roster = s.roster

instance SameRoster.stepwise : Stepwise SameRoster where
  refl _ := rfl
  trans h h' := h'.trans h

instance : Ignores SameRoster Tab.operations := ⟨fun _ _ => rfl⟩
instance : Ignores SameRoster Tab.operationAttempts := ⟨fun _ _ => rfl⟩
instance : Ignores SameRoster Tab.operatorNotices := ⟨fun _ _ => rfl⟩
instance : Ignores SameRoster Tab.messages := ⟨fun _ _ => rfl⟩
instance : Ignores SameRoster Tab.obligations := ⟨fun _ _ => rfl⟩
instance : Ignores SameRoster Tab.deliveries := ⟨fun _ _ => rfl⟩
instance : Ignores SameRoster Tab.obligationReminders := ⟨fun _ _ => rfl⟩
instance : Ignores SameRoster Tab.reminderAttempts := ⟨fun _ _ => rfl⟩
instance : Ignores SameRoster Tab.schedules := ⟨fun _ _ => rfl⟩
instance : Ignores SameRoster Tab.renews := ⟨fun _ _ => rfl⟩
instance : Ignores SameRoster Tab.renewAttempts := ⟨fun _ _ => rfl⟩
instance : Ignores SameRoster Tab.socketWaiterKeys := ⟨fun _ _ => rfl⟩
instance : Ignores SameRoster Tab.socketInboxKeys := ⟨fun _ _ => rfl⟩
instance : Ignores SameRoster Tab.scheduleFirings := ⟨fun _ _ => rfl⟩
instance : Ignores SameRoster Tab.askPullLeases := ⟨fun _ _ => rfl⟩
instance : Ignores SameRoster Tab.askPullKeys := ⟨fun _ _ => rfl⟩
instance : IgnoresCounters SameRoster := ⟨fun _ _ => rfl, fun _ _ => rfl, fun _ _ => rfl⟩

/-- The roster goes through changes, under the condition `ok`. -/
def Orderly (ok : Prop) (s s' : Store) : Prop := Changes ok s.roster s'.roster

instance Orderly.stepwise : Stepwise (Orderly ok) where
  refl _ := .refl
  trans := .trans

theorem Orderly.single (h : Change ok s.roster s'.roster) : Orderly ok s s' :=
  Relation.ReflTransGen.single h

theorem SameRoster.orderly (h : SameRoster s s') : Orderly ok s s' := by
  unfold Orderly
  rw [h]

instance (priority := low) Orderly.of_sameRoster {α : Type} {x : StoreTx α}
    [hx : Keeps SameRoster x] : Keeps (Orderly ok) x :=
  hx.mono fun _ _ => SameRoster.orderly

-- ============================================================================
-- Statements on the roster
-- ============================================================================

section Statements

theorem keeps_settleIncarnations {p : IncarnationRow → Prop} [DecidablePred p]
    {f : IncarnationRow → IncarnationRow} {h_key : ∀ i, (f i).id = i.id}
    (h : ∀ i, p i → Settled i (f i)) :
    Keeps (Orderly ok) (updateRows Tab.incarnations p f h_key : StoreTx Nat) :=
  .updateRows fun _ => .single (.settle
    (Table.edits_update h_key (fun i _ h_p => h i h_p) fun _ _ _ => .rfl))

theorem keeps_noteAgents {p : LogicalAgentRow → Prop} [DecidablePred p]
    {f : LogicalAgentRow → LogicalAgentRow} {h_key : ∀ l, (f l).id = l.id}
    (h : ∀ l, Noted l (f l)) :
    Keeps (Orderly ok) (updateRows Tab.logicalAgents p f h_key : StoreTx Nat) :=
  .updateRows fun _ => .single (.note
    (Table.edits_update h_key (fun l _ _ => h l) fun _ _ _ => .rfl))

/-- A statement that keeps the state, the seat and the pending name of every incarnation. -/
theorem keeps_annotateIncarnations {p : IncarnationRow → Prop} [DecidablePred p]
    {f : IncarnationRow → IncarnationRow} {h_key : ∀ i, (f i).id = i.id}
    (h : ∀ i, (f i).logicalAgentId = i.logicalAgentId ∧ (f i).state = i.state ∧
      (f i).seat = i.seat ∧ (f i).pendingRenameTo = i.pendingRenameTo) :
    Keeps (Orderly ok) (updateRows Tab.incarnations p f h_key : StoreTx Nat) :=
  keeps_settleIncarnations fun i _ => by
    obtain ⟨h_agent, h_state, h_seat, h_pending⟩ := h i
    refine ⟨⟨h_key i, h_agent, fun h_ready => ⟨h_state ▸ h_ready, h_seat⟩⟩, ?_, .inl h_pending⟩
    unfold IncarnationRow.Early
    rw [h_state]
    exact id

/-- A statement that moves incarnations on to a state that is not Ready, from one that is
    as early. -/
theorem keeps_endIncarnations {p : IncarnationRow → Prop} [DecidablePred p]
    {f : IncarnationRow → IncarnationRow} {h_key : ∀ i, (f i).id = i.id}
    (h_rest : ∀ i, (f i).logicalAgentId = i.logicalAgentId ∧
      (f i).pendingRenameTo = i.pendingRenameTo)
    (h_state : ∀ i, p i → (f i).state ≠ .ready ∧ ((f i).Early → i.Early)) :
    Keeps (Orderly ok) (updateRows Tab.incarnations p f h_key : StoreTx Nat) :=
  keeps_settleIncarnations fun i h_p =>
    ⟨⟨h_key i, (h_rest i).1, fun h_ready => absurd h_ready (h_state i h_p).1⟩,
      (h_state i h_p).2, .inl (h_rest i).2⟩

/-- Drop the pending name of some incarnations. -/
theorem keeps_dropPending {p : IncarnationRow → Prop} [DecidablePred p]
    {h_key : ∀ i : IncarnationRow,
      ({ i with pendingRenameTo := none } : IncarnationRow).id = i.id} :
    Keeps (Orderly ok) (updateRows Tab.incarnations p
      (fun i => { i with pendingRenameTo := none }) h_key : StoreTx Nat) :=
  keeps_settleIncarnations fun _ _ =>
    ⟨⟨rfl, rfl, fun h_ready => ⟨h_ready, rfl⟩⟩, id, .inr rfl⟩

/-- A new agent, under a number of its own. -/
theorem insertLogicalAgent_run {now : Millis} {name : String} {parent : Parent}
    {transport : DeliveryTransport} {id : LogicalAgentId}
    (h : (insertLogicalAgent now name parent transport).run s = .ok (id, s')) :
    ∃ (l : LogicalAgentRow) (t : Table LogicalAgentRow.id),
      s' = Tab.logicalAgents.put t s ∧ s.logicalAgents.Adds (some l) t ∧ l.id = id ∧
        l.publicName = name ∧ l.deliveryTransport = transport := by
  simp only [insertLogicalAgent, run_bind_reads, run_bind_require_ok, run_appendRow,
    Except.ok.injEq, Prod.mk.injEq] at h
  obtain ⟨-, rfl, rfl⟩ := h
  exact ⟨_, _, rfl, Table.adds_append _, rfl, rfl, rfl⟩

/-- A new agent that is addressed through its pane. -/
instance {now name parent} :
    Keeps (Orderly ok) (insertLogicalAgent now name parent .herdrPrompt) where
  keeps h := by
    obtain ⟨l, t, rfl, h_t, -, -, h_transport⟩ := insertLogicalAgent_run h
    refine .single (.enroll (fun h_waiter => ?_) h_t)
    have h_socket := h_waiter.1
    rw [h_transport] at h_socket
    cases h_socket

instance {now inc} : Keeps (Orderly ok) (markLost now inc) :=
  keeps_endIncarnations (fun _ => ⟨rfl, rfl⟩) fun _ _ => by simp [IncarnationRow.Early]

end Statements

-- ============================================================================
-- Refusals
-- ============================================================================

section Refusals

variable {name : String} {u : Unit}

theorem unwaited_of_query (h : refuseNameHeldBySocketWaiter name s = .ok u) :
    s.roster.Unwaited name := by
  unfold refuseNameHeldBySocketWaiter at h
  split at h
  · cases h
  · rename_i h_none
    intro w h_w h_active h_name
    have h_not := List.find?_eq_none.mp h_none w h_w
    simp [h_name, h_active] at h_not

theorem unclaimed_of_query (h : refuseLiveOrPendingAlias name s = .ok u) :
    s.roster.Unclaimed name := by
  unfold refuseLiveOrPendingAlias at h
  split at h
  · cases h
  · rename_i h_held
    split at h
    · cases h
    · rename_i h_pending
      constructor
      · rintro l h_l ⟨i, h_i, h_agent, h_ready⟩ h_name
        have h_not := List.find?_eq_none.mp h_held i h_i
        have h_find : s.logicalAgents.find i.logicalAgentId = some l :=
          Table.find_eq_some.mpr ⟨h_l, h_agent.symm⟩
        simp [Store.publicName, h_find, h_name, h_ready] at h_not
      · intro i h_i h_ready h_name
        have h_not := List.find?_eq_none.mp h_pending i h_i
        simp [h_name, h_ready] at h_not

end Refusals

-- ============================================================================
-- Incarnations
-- ============================================================================

section Incarnations

instance {now op inc request} : Keeps (Orderly ok) (beginAttempt now op inc request) := by
  have h_begin {h_key} : Keeps (Orderly ok) (updateRows Tab.incarnations
      (fun i => i.id = inc ∧ i.state = .declared)
      (fun i => { i with state := .starting }) h_key : StoreTx Nat) :=
    keeps_endIncarnations (fun _ => ⟨rfl, rfl⟩) fun _ h_p => by
      simp_all [IncarnationRow.Early]
  unfold beginAttempt
  infer_instance

/-- Herdr accepted a start: its incarnation is placed, and is not Ready yet. -/
instance {op inc pane terminal} :
    Keeps (Orderly ok) (acceptStartSubmission op inc pane terminal) where
  keeps {s a s'} h := by
    simp only [acceptStartSubmission, run_bind_reads, run_bind_require_ok] at h
    obtain ⟨⟨i, h_find, h_starting, -⟩, h⟩ := h
    obtain ⟨h_i, h_id⟩ := Table.find_eq_some.mp h_find
    obtain ⟨_, s₁, h_op, h⟩ := run_bind_ok.mp h
    have h_same : SameRoster s s₁ := Keeps.keeps h_op
    have h_i₁ : i ∈ s₁.incarnations := by
      rw [show s₁.incarnations = s.incarnations from congrArg Roster.incarnations h_same]
      exact h_i
    rw [run_bind_require_ok] at h
    obtain ⟨-, h⟩ := h
    obtain ⟨_, s₂, h_place, h⟩ := run_bind_ok.mp h
    obtain ⟨t, rfl, h_t⟩ := run_updateRows_edits Settled h_place
      (fun j h_j h_jd => by
        obtain rfl := Table.eq_of_key h_j h_i₁ (h_jd.trans h_id.symm)
        refine ⟨⟨rfl, rfl, fun h_ready => ?_⟩, id, .inl rfl⟩
        exact absurd (h_ready.symm.trans h_starting) (by decide))
      fun j _ _ => .rfl
    have h_placed : Orderly ok s₁ (Tab.incarnations.put t s₁) := .single (.settle h_t)
    have h_attempt : SameRoster (Tab.incarnations.put t s₁) s' := Keeps.keeps h
    exact h_same.orderly.trans (h_placed.trans h_attempt.orderly)

instance {inc name} : Keeps (Orderly ok) (declareRename inc name) where
  keeps {s a s'} h := by
    simp only [declareRename, run_bind_reads, run_bind_require_ok, run_bind_query_ok] at h
    obtain ⟨-, _, h_waiters, h⟩ := h
    obtain ⟨_, s₁, h_pend, h⟩ := run_bind_ok.mp h
    obtain ⟨t, rfl, h_t⟩ := run_updateRows_edits (Pended name) h_pend
      (fun i _ h_i => ⟨⟨rfl, rfl, fun h_ready => ⟨h_ready, rfl⟩⟩, id, .inr ⟨h_i.2.1, rfl⟩⟩)
      fun i _ _ => ⟨.rfl, id, .inl rfl⟩
    have h_pended : Orderly ok s (Tab.incarnations.put t s) :=
      .single (.pend (unwaited_of_query h_waiters) h_t)
    have h_rest : SameRoster (Tab.incarnations.put t s) s' := Keeps.keeps h
    exact h_pended.trans h_rest.orderly

instance {inc} : Keeps (Orderly ok) (abandonRename inc) := by
  have h_drop {h_key} : Keeps (Orderly ok) (updateRows Tab.incarnations (fun i => i.id = inc)
      (fun i => { i with pendingRenameTo := none }) h_key : StoreTx Nat) := keeps_dropPending
  unfold abandonRename
  infer_instance

instance {inc pane terminal session} :
    Keeps (Orderly ok) (fillObservedNativeSession inc pane terminal session) := by
  have h_session (p : IncarnationRow → Prop) [DecidablePred p] {h_key} :
      Keeps (Orderly ok) (updateRows Tab.incarnations p
        (fun i => { i with observedNativeSession := some session }) h_key : StoreTx Nat) :=
    keeps_annotateIncarnations fun _ => ⟨rfl, rfl, rfl, rfl⟩
  unfold fillObservedNativeSession
  infer_instance

instance {inc session} : Keeps (Orderly ok) (replaceObservedNativeSession inc session) := by
  have h_session {h_key} : Keeps (Orderly ok) (updateRows Tab.incarnations (fun i => i.id = inc)
      (fun i => { i with observedNativeSession := some session }) h_key : StoreTx Nat) :=
    keeps_annotateIncarnations fun _ => ⟨rfl, rfl, rfl, rfl⟩
  unfold replaceObservedNativeSession
  infer_instance

instance {now inc key} : Keeps (Orderly ok) (requestRetirement now inc key) := by
  have h_retire {h_key} : Keeps (Orderly ok) (updateRows Tab.incarnations
      (fun i => i.id = inc ∧ i.state = .ready)
      (fun i => { i with state := .retiring }) h_key : StoreTx Nat) :=
    keeps_endIncarnations (fun _ => ⟨rfl, rfl⟩) fun _ h_p => by
      simp_all [IncarnationRow.Early]
  unfold requestRetirement
  infer_instance

instance {now op inc pane terminal snapshot} :
    Keeps (Orderly ok) (reconcileRetirement now op inc pane terminal snapshot) := by
  have h_retired {h_key} : Keeps (Orderly ok) (updateRows Tab.incarnations
      (fun i => i.id = inc ∧ i.state = .retiring)
      (fun i => { i with
        state := .retired, terminalAtMs := some now,
        terminalReason := some "authoritative_absence" }) h_key : StoreTx Nat) :=
    keeps_endIncarnations (fun _ => ⟨rfl, rfl⟩) fun _ h_p => by
      simp_all [IncarnationRow.Early]
  unfold reconcileRetirement
  infer_instance

end Incarnations

-- ============================================================================
-- Ambiguous and rejected results
-- ============================================================================

section Results

instance {now op inc evidence delay} :
    Keeps (Orderly ok) (markUnknownWithClearSpacing now op inc evidence delay) := by
  have h_unknown {h_key} : Keeps (Orderly ok) (updateRows Tab.incarnations
      (fun i => i.id = inc ∧ i.state = .starting)
      (fun i => { i with state := .unknown }) h_key : StoreTx Nat) :=
    keeps_endIncarnations (fun _ => ⟨rfl, rfl⟩) fun _ h_p => by
      simp_all [IncarnationRow.Early]
  unfold markUnknownWithClearSpacing
  cases delay <;> infer_instance

instance {now op inc evidence} : Keeps (Orderly ok) (markUnknown now op inc evidence) := by
  unfold markUnknown
  infer_instance

instance {now op inc evidence delay} :
    Keeps (Orderly ok) (markClearUnknown now op inc evidence delay) := by
  unfold markClearUnknown
  infer_instance

instance {now op inc evidence outcome} :
    Keeps (Orderly ok) (markRejected now op inc evidence outcome) := by
  have h_failed {h_key} : Keeps (Orderly ok) (updateRows Tab.incarnations
      (fun i => i.id = inc ∧ i.state = .starting)
      (fun i => { i with state := .failed }) h_key : StoreTx Nat) :=
    keeps_endIncarnations (fun _ => ⟨rfl, rfl⟩) fun _ h_p => by
      simp_all [IncarnationRow.Early]
  unfold markRejected
  infer_instance

instance {now op inc session delay} :
    Keeps (Orderly ok) (completeClear now op inc session delay) := by
  have h_session (session : NativeSession) {h_key} : Keeps (Orderly ok) (updateRows Tab.incarnations
      (fun i => i.id = inc ∧ i.state = .ready)
      (fun i => { i with
        observedNativeSession := some session, nativeSessionRotatedAtMs := some now }) h_key :
      StoreTx Nat) := keeps_annotateIncarnations fun _ => ⟨rfl, rfl, rfl, rfl⟩
  unfold completeClear
  cases session <;> infer_instance

end Results

-- ============================================================================
-- Socket waiters
-- ============================================================================

section Waiters

instance {now name parent key} :
    Keeps (Orderly ok) (registerSocketWaiter now name parent key) where
  keeps {s a s'} h := by
    simp only [registerSocketWaiter, run_bind_require_ok, run_bind_reads] at h
    obtain ⟨-, h⟩ := h
    split at h
    · exact Keeps.keeps h
    · simp only [run_bind_query_ok, run_bind_require_ok] at h
      obtain ⟨_, h_waiters, _, h_live, -, h⟩ := h
      obtain ⟨_, s₁, h_insert, h⟩ := run_bind_ok.mp h
      have h_rest : SameRoster s₁ s' := Keeps.keeps h
      refine Orderly.stepwise.trans ?_ h_rest.orderly
      obtain ⟨l, t, rfl, h_t, -, rfl, -⟩ := insertLogicalAgent_run h_insert
      exact .single (.enroll
        (fun _ => ⟨unwaited_of_query h_waiters, unclaimed_of_query h_live⟩) h_t)

instance {agent nowMs} : Keeps (Orderly ok) (touchWaiterSeen agent nowMs) := by
  have h_seen {h_key} : Keeps (Orderly ok) (updateRows Tab.logicalAgents
      (fun l => l.id = agent ∧ l.ActiveWaiter)
      (fun l => { l with waiterLastSeenAtMs := some nowMs }) h_key : StoreTx Nat) :=
    keeps_noteAgents fun _ => ⟨rfl, rfl, rfl, id⟩
  unfold touchWaiterSeen
  infer_instance

instance {nowMs} : Keeps (Orderly ok) (bootResetWaiterSeen nowMs) := by
  unfold bootResetWaiterSeen
  exact keeps_noteAgents fun _ => ⟨rfl, rfl, rfl, id⟩

instance {now agent due reason} :
    Keeps (Orderly ok) (endSocketWaiterWithOwingDue now agent due reason) := by
  have h_end {h_key} : Keeps (Orderly ok) (updateRows Tab.logicalAgents
      (fun l => l.id = agent ∧ l.ActiveWaiter)
      (fun l => { l with targetingEndedAtMs := some now }) h_key : StoreTx Nat) :=
    keeps_noteAgents fun _ => ⟨rfl, rfl, rfl, fun h => by cases h⟩
  unfold endSocketWaiterWithOwingDue
  infer_instance

end Waiters

-- ============================================================================
-- Recovery and upkeep
-- ============================================================================

section Upkeep

instance {now name snapshot} :
    Keeps (Orderly ok) (releaseAbsentAliasBinding now name snapshot) where
  keeps {s a s'} h := by
    simp only [releaseAbsentAliasBinding, run_bind_reads] at h
    split at h
    · exact Keeps.keeps h
    · split at h <;> exact Keeps.keeps h

instance {now row} : Keeps (Orderly ok) (settleAbsentUnknownStart now row) := by
  have h_lost (p : IncarnationRow → Prop) [DecidablePred p] {h_key} :
      Keeps (Orderly ok) (updateRows Tab.incarnations p
        (fun i => { i with
          state := .lost, terminalAtMs := some now, terminalReason := some row.reason })
        h_key : StoreTx Nat) :=
    keeps_endIncarnations (fun _ => ⟨rfl, rfl⟩) fun _ h_p => by
      simp_all [IncarnationRow.Early]
  unfold settleAbsentUnknownStart
  infer_instance

instance : Keeps (Orderly ok) claimLiveOperations := .writes fun _ => .refl

instance {nowMs grace} : Keeps (Orderly ok) (archiveDeadIdentities nowMs grace) := by
  have h_archive (p : LogicalAgentRow → Prop) [DecidablePred p] {h_key} :
      Keeps (Orderly ok) (updateRows Tab.logicalAgents p
        (fun l => { l with archivedAtMs := some nowMs }) h_key : StoreTx Nat) :=
    keeps_noteAgents fun _ => ⟨rfl, rfl, rfl, id⟩
  unfold archiveDeadIdentities
  infer_instance

end Upkeep

end Kelpie
