/-
  Kelpie.Record.Incarnations

  The life of an incarnation over any run: which states follow which, and what is
  fixed from when on.
-/

import Mathlib.Logic.Relation
import Kelpie.Bindings.Promotion
import Kelpie.Lib.Histories

namespace Kelpie

open Lib Lib.Tx

-- As in `Kelpie.Store.Frames`.
set_option synthInstance.maxSize 100000

variable {s s' : Store}

-- ============================================================================
-- States
-- ============================================================================

/-- The moves between the states of an incarnation. -/
inductive IncarnationState.Next : IncarnationState → IncarnationState → Prop where
  | begin : Next .declared .starting
  | claim : Next .declared .ready
  | prove : Next .starting .ready
  | doubt : Next .starting .unknown
  | refuse : Next .starting .failed
  | retire : Next .ready .retiring
  | handOver : Next .ready .superseded
  | lose : Next .ready .lost
  | giveUp : Next .unknown .lost
  | vanish : Next .retiring .retired

/-- Any number of moves. -/
abbrev IncarnationState.MovesTo : IncarnationState → IncarnationState → Prop :=
  Relation.ReflTransGen IncarnationState.Next

/-- The states that an incarnation ends in. -/
def IncarnationState.Terminal (state : IncarnationState) : Prop :=
  state = .failed ∨ state = .retired ∨ state = .lost ∨ state = .superseded

instance : DecidablePred IncarnationState.Terminal := fun state =>
  inferInstanceAs (Decidable
    (state = .failed ∨ state = .retired ∨ state = .lost ∨ state = .superseded))

namespace IncarnationState

variable {a b : IncarnationState}

theorem Next.not_terminal (h : Next a b) : ¬ a.Terminal := by
  cases h <;> decide

theorem Next.not_early (h : Next a b) (h_a : a ≠ .declared ∧ a ≠ .starting) :
    b ≠ .declared ∧ b ≠ .starting := by
  cases h with
  | begin => exact absurd rfl h_a.1
  | _ => decide

theorem MovesTo.not_early (h : MovesTo a b) (h_a : a ≠ .declared ∧ a ≠ .starting) :
    b ≠ .declared ∧ b ≠ .starting := by
  induction h with
  | refl => exact h_a
  | tail _ h_next ih => exact h_next.not_early ih

theorem MovesTo.of_terminal (h : MovesTo a b) (h_a : a.Terminal) : b = a := by
  induction h with
  | refl => rfl
  | tail _ h_next ih => exact absurd (ih ▸ h_a) h_next.not_terminal

end IncarnationState

open IncarnationState (Next MovesTo)

-- ============================================================================
-- Later rows
-- ============================================================================

namespace IncarnationRow

/-- What is written about an incarnation once, when it is recorded. -/
def declaration (i : IncarnationRow) : IncarnationRow := { i with
  state := .declared, observedPaneId := none, observedTerminalId := none,
  observedNativeSession := none, nativeSessionRotatedAtMs := none, pendingRenameTo := none,
  terminalAtMs := none, terminalReason := none }

/-- The end that was recorded of an incarnation. -/
def ending (i : IncarnationRow) : Option Millis × Option String :=
  (i.terminalAtMs, i.terminalReason)

/-- The same incarnation, later: its state has moved on, its seat is fixed once its start is
    decided, and its end once it is recorded. -/
structure Aged (i i' : IncarnationRow) : Prop where
  declaration : i'.declaration = i.declaration
  state : MovesTo i.state i'.state
  seat : ¬ i.Early → i'.seat = i.seat
  ending : i.state.Terminal → i'.ending = i.ending

theorem Early.of_moves {i i' : IncarnationRow} (h : MovesTo i.state i'.state) (h_i : ¬ i.Early) :
    ¬ i'.Early := by
  unfold Early at h_i ⊢
  rw [not_or] at h_i ⊢
  exact h.not_early h_i

theorem Aged.id {i i' : IncarnationRow} (h : i.Aged i') : i'.id = i.id := by
  have h_id : i'.declaration.id = i.declaration.id := congrArg IncarnationRow.id h.declaration
  exact h_id

instance aged_stepwise : Stepwise Aged where
  refl _ := ⟨rfl, .refl, fun _ => rfl, fun _ => rfl⟩
  trans {i i₁ i₂} h h' := by
    refine ⟨h'.declaration.trans h.declaration, h.state.trans h'.state, ?_, ?_⟩
    · intro h_decided
      exact (h'.seat (Early.of_moves h.state h_decided)).trans (h.seat h_decided)
    · intro h_terminal
      have h_same := h.state.of_terminal h_terminal
      exact (h'.ending (h_same ▸ h_terminal)).trans (h.ending h_terminal)

/-- An incarnation that moves from a state it has not ended in, without leaving its seat. -/
theorem Aged.of_next {i i' : IncarnationRow} (h : Next i.state i'.state)
    (h_declaration : i'.declaration = i.declaration) (h_seat : i'.seat = i.seat) : i.Aged i' where
  declaration := h_declaration
  state := .single h
  seat _ := h_seat
  ending h_terminal := absurd h_terminal h.not_terminal

end IncarnationRow

open IncarnationRow (Aged)

-- ============================================================================
-- Statements
-- ============================================================================

instance : Readable Tab.incarnations := ⟨fun _ _ => rfl⟩

/-- Every incarnation goes on, later in its life. -/
abbrev Matures : Store → Store → Prop := Over Tab.incarnations (Table.GoesOn Aged)

section Statements

/-- The edits of what is no part of the life of an incarnation. -/
instance {p} [DecidablePred p] {native : IncarnationRow → Option NativeSession}
    {rotated : IncarnationRow → Option Millis} {pending : IncarnationRow → Option String} {h_key} :
    Keeps Matures (updateRows Tab.incarnations p
      (fun i => { i with
        observedNativeSession := native i, nativeSessionRotatedAtMs := rotated i,
        pendingRenameTo := pending i }) h_key : StoreTx Nat) :=
  Keeps.goesOn_updateRows fun _ _ => ⟨rfl, .refl, fun _ => rfl, fun _ => rfl⟩

/-- A statement that moves incarnations from the state `a` on to the state `b`. -/
theorem keeps_next {a b : IncarnationState} (h_next : Next a b) {p : IncarnationRow → Prop}
    [DecidablePred p] (h_p : ∀ i, p i → i.state = a) {terminalAt : IncarnationRow → Option Millis}
    {reason : IncarnationRow → Option String} {h_key} :
    Keeps Matures (updateRows Tab.incarnations p
      (fun i => { i with
        state := b, terminalAtMs := terminalAt i, terminalReason := reason i }) h_key :
      StoreTx Nat) :=
  Keeps.goesOn_updateRows fun i h_i => .of_next (h_p i h_i ▸ h_next) rfl rfl

/-- A statement on the one incarnation `inc`, of which it is known that it is early. -/
theorem matures_of_early {s₁ : Store} {inc : IncarnationId} {p : IncarnationRow → Prop}
    [DecidablePred p] {f : IncarnationRow → IncarnationRow} {h_key} {n : Nat}
    (h : (updateRows Tab.incarnations p f h_key : StoreTx Nat).run s₁ = .ok (n, s'))
    (h_same : s₁.incarnations = s.incarnations) (h_p : ∀ i, p i → i.id = inc)
    (h_f : ∀ i ∈ s.incarnations, i.id = inc → i.Early ∧ MovesTo i.state (f i).state ∧
      (f i).declaration = i.declaration) : Matures s s' := by
  obtain ⟨t, rfl, h_t⟩ := run_updateRows_edits Aged h
    (by
      intro i h_i h_pi
      have h_mem : i ∈ s.incarnations := by
        rw [← h_same]
        exact h_i
      obtain ⟨h_early, h_moves, h_declaration⟩ := h_f i h_mem (h_p i h_pi)
      refine ⟨h_declaration, h_moves, fun h_decided => absurd h_early h_decided, ?_⟩
      intro h_terminal
      rcases h_early with h_state | h_state <;> rw [h_state] at h_terminal <;>
        exact absurd h_terminal (by decide))
    fun i _ _ => IncarnationRow.aged_stepwise.refl i
  intro i h_i
  have h_mem : i ∈ s.incarnations := h_i
  rw [← h_same] at h_mem
  exact h_t.image i h_mem

end Statements

-- ============================================================================
-- Transactions
-- ============================================================================

section Starts

theorem IncarnationRow.Early.moves_ready {i : IncarnationRow} (h : i.Early) :
    MovesTo i.state .ready := by
  rcases h with h_state | h_state <;> rw [h_state]
  · exact .single .claim
  · exact .single .prove

instance {now op inc request} : Keeps Matures (beginAttempt now op inc request) := by
  have h_begin {h_key} : Keeps Matures (updateRows Tab.incarnations
      (fun i => i.id = inc ∧ i.state = .declared) (fun i => { i with state := .starting })
      h_key : StoreTx Nat) := keeps_next .begin fun _ h => h.2
  unfold beginAttempt
  infer_instance

instance {op inc pane terminal} : Keeps Matures (acceptStartSubmission op inc pane terminal) where
  keeps {s a s'} h := by
    simp only [acceptStartSubmission, run_bind_reads, run_bind_require_ok] at h
    obtain ⟨⟨i, h_find, h_starting, -, -⟩, h⟩ := h
    obtain ⟨_, s₁, h_op, h⟩ := run_bind_ok.mp h
    simp only [run_updateRows, Except.ok.injEq, Prod.mk.injEq] at h_op
    obtain ⟨-, rfl⟩ := h_op
    rw [run_bind_require_ok] at h
    obtain ⟨-, h⟩ := h
    obtain ⟨_, s₂, h_seat, h⟩ := run_bind_ok.mp h
    obtain ⟨h_i, h_id⟩ := Table.find_eq_some.mp h_find
    have h_ages : Matures s s₂ := matures_of_early h_seat rfl (fun _ => id) fun i' h_i' h_id' => by
      obtain rfl := Table.eq_of_key h_i' h_i (h_id'.trans h_id.symm)
      exact ⟨.inr h_starting, .refl, rfl⟩
    exact Stepwise.trans h_ages (Keeps.keeps h)

instance {now op inc agent} : Keeps Matures (acceptAdoptReady now op inc agent) where
  keeps {s a s'} h := by
    simp only [acceptAdoptReady, run_bind_reads, run_bind_orFail_ok, run_bind_require_ok,
      run_bind_query_ok] at h
    obtain ⟨e, h_expected, -, _, -, h⟩ := h
    obtain ⟨_, s₁, h_op, h⟩ := run_bind_ok.mp h
    simp only [run_updateRows, Except.ok.injEq, Prod.mk.injEq] at h_op
    obtain ⟨-, rfl⟩ := h_op
    rw [run_bind_require_ok] at h
    obtain ⟨-, h⟩ := h
    obtain ⟨_, s₂, h_ready, h⟩ := run_bind_ok.mp h
    have h_early := expectedBinding_early h_expected (by simp)
    have h_ages : Matures s s₂ := matures_of_early h_ready rfl (fun _ => id) fun i h_i h_id =>
      ⟨(h_early i h_i h_id).1, (h_early i h_i h_id).1.moves_ready, rfl⟩
    exact Stepwise.trans h_ages (Keeps.keeps h)

instance {now predecessor inc} : Keeps Matures (demotePredecessor now predecessor inc) := by
  have h_demote (agent : Option LogicalAgentId) {h_key} : Keeps Matures (updateRows Tab.incarnations
      (fun i => i.id = predecessor ∧ i.state = .ready ∧ some i.logicalAgentId = agent)
      (fun i => { i with
        state := .superseded, terminalAtMs := some now,
        terminalReason := some "superseded by a handoff to a new incarnation" })
      h_key : StoreTx Nat) := keeps_next .handOver fun _ h => h.2.1
  unfold demotePredecessor
  infer_instance

instance {now op inc agent supersedes} :
    Keeps Matures (acceptStartReady now op inc agent supersedes) where
  keeps {s a s'} h := by
    simp only [acceptStartReady, run_bind_reads, run_bind_orFail_ok, run_bind_require_ok,
      run_bind_query_ok] at h
    obtain ⟨e, h_expected, -, _, -, h⟩ := h
    obtain ⟨_, s₁, h_op, h⟩ := run_bind_ok.mp h
    simp only [run_updateRows, Except.ok.injEq, Prod.mk.injEq] at h_op
    obtain ⟨-, rfl⟩ := h_op
    rw [run_bind_require_ok] at h
    obtain ⟨-, h⟩ := h
    obtain ⟨_, s₂, h_ready, h⟩ := run_bind_ok.mp h
    have h_early := expectedBinding_early h_expected (by simp)
    have h_ages : Matures s s₂ := matures_of_early h_ready rfl (fun _ => id) fun i h_i h_id =>
      ⟨(h_early i h_i h_id).1, (h_early i h_i h_id).1.moves_ready, rfl⟩
    refine Stepwise.trans h_ages ?_
    cases supersedes with
    | none => exact Keeps.keeps h
    | some predecessor => exact Keeps.keeps h

end Starts

section Renames

instance {inc name} : Keeps Matures (declareRename inc name) := by
  unfold declareRename
  infer_instance

instance {inc name} : Keeps Matures (commitRename inc name) := by
  unfold commitRename
  infer_instance

instance {inc} : Keeps Matures (abandonRename inc) := by
  unfold abandonRename
  infer_instance

instance {inc pane terminal session} :
    Keeps Matures (fillObservedNativeSession inc pane terminal session) := by
  unfold fillObservedNativeSession
  infer_instance

instance {inc session} : Keeps Matures (replaceObservedNativeSession inc session) := by
  unfold replaceObservedNativeSession
  infer_instance

end Renames

section Results

instance {now inc key} : Keeps Matures (requestRetirement now inc key) := by
  have h_retire {h_key} : Keeps Matures (updateRows Tab.incarnations
      (fun i => i.id = inc ∧ i.state = .ready) (fun i => { i with state := .retiring })
      h_key : StoreTx Nat) := keeps_next .retire fun _ h => h.2
  unfold requestRetirement
  infer_instance

instance {now op inc evidence delay} :
    Keeps Matures (markUnknownWithClearSpacing now op inc evidence delay) := by
  have h_unknown {h_key} : Keeps Matures (updateRows Tab.incarnations
      (fun i => i.id = inc ∧ i.state = .starting) (fun i => { i with state := .unknown })
      h_key : StoreTx Nat) := keeps_next .doubt fun _ h => h.2
  unfold markUnknownWithClearSpacing
  cases delay <;> infer_instance

instance {now op inc evidence} : Keeps Matures (markUnknown now op inc evidence) := by
  unfold markUnknown
  infer_instance

instance {now op inc evidence delay} :
    Keeps Matures (markClearUnknown now op inc evidence delay) := by
  unfold markClearUnknown
  infer_instance

instance {now op inc evidence outcome} :
    Keeps Matures (markRejected now op inc evidence outcome) := by
  have h_failed {h_key} : Keeps Matures (updateRows Tab.incarnations
      (fun i => i.id = inc ∧ i.state = .starting) (fun i => { i with state := .failed })
      h_key : StoreTx Nat) := keeps_next .refuse fun _ h => h.2
  unfold markRejected
  infer_instance

instance {now op inc session delay} : Keeps Matures (completeClear now op inc session delay) := by
  unfold completeClear
  cases session <;> infer_instance

end Results

section Recovery

instance {now binding bound} : Keeps Matures (refreshRotatedSession now binding bound) := by
  unfold refreshRotatedSession
  split
  · split <;> infer_instance
  · infer_instance

instance {inc live} : Keeps Matures (learnMissingNativeSession inc live) := by
  unfold learnMissingNativeSession
  split <;> infer_instance

instance {now inc} : Keeps Matures (markLost now inc) := by
  unfold markLost
  exact keeps_next .lose fun _ h => h.2

instance {now snapshot binding} : Keeps Matures (reconcileReadyBinding now snapshot binding) := by
  unfold reconcileReadyBinding
  infer_instance

instance {now snapshot} : Keeps Matures (reconcileReadyIncarnations now snapshot) := by
  unfold reconcileReadyIncarnations
  infer_instance

instance {now name snapshot} : Keeps Matures (releaseAbsentAliasBinding now name snapshot) where
  keeps {s a s'} h := by
    simp only [releaseAbsentAliasBinding, run_bind_reads] at h
    split at h
    · exact Keeps.keeps h
    · split at h <;> exact Keeps.keeps h

instance {now row} : Keeps Matures (settleAbsentUnknownStart now row) := by
  have h_lost {h_key} : Keeps Matures (updateRows Tab.incarnations
      (fun i => i.id = row.incarnationId ∧ i.state = .unknown ∧
        i.observedPaneId = row.observedPaneId ∧ i.observedTerminalId = row.observedTerminalId)
      (fun i => { i with
        state := .lost, terminalAtMs := some now, terminalReason := some row.reason })
      h_key : StoreTx Nat) := keeps_next .giveUp fun _ h => h.2.1
  unfold settleAbsentUnknownStart
  infer_instance

instance {now op inc pane terminal snapshot} :
    Keeps Matures (reconcileRetirement now op inc pane terminal snapshot) := by
  have h_retired {h_key} : Keeps Matures (updateRows Tab.incarnations
      (fun i => i.id = inc ∧ i.state = .retiring)
      (fun i => { i with
        state := .retired, terminalAtMs := some now,
        terminalReason := some "authoritative_absence" })
      h_key : StoreTx Nat) := keeps_next .vanish fun _ h => h.2
  unfold reconcileRetirement
  infer_instance

end Recovery

-- ============================================================================
-- Runs
-- ============================================================================

theorem Call.matures (c : Call) (h : c.Step s s') : Matures s s' := by
  cases c <;> exact Keeps.commit h

theorem matures_run {ok : Call → Store → Prop} (h : StoreRun ok s s') : Matures s s' :=
  h.relates fun c _ _ _ h_step => c.matures h_step

/-- Over any run every incarnation stays the one that was declared, and its state follows the
    moves.  Its pane and terminal are fixed once its start is decided, and from an end that it
    came to it never moves again. -/
theorem incarnations_age {ok : Call → Store → Prop} (h : StoreRun ok s s') {i : IncarnationRow}
    (h_i : i ∈ s.incarnations) : ∃ i' ∈ s'.incarnations, i'.declaration = i.declaration ∧
      MovesTo i.state i'.state ∧ (¬ i.Early → i'.seat = i.seat) ∧
      (i.state.Terminal → i'.state = i.state ∧ i'.ending = i.ending) := by
  obtain ⟨i', h_i', h_aged⟩ := matures_run h i h_i
  refine ⟨i', h_i', h_aged.declaration, h_aged.state, h_aged.seat, ?_⟩
  intro h_terminal
  exact ⟨h_aged.state.of_terminal h_terminal, h_aged.ending h_terminal⟩

/-- An agent that is adopted and whose retirement is requested. -/
theorem incarnations_age_adopting : ∃ (s s' : Store) (i i' : IncarnationRow),
    StoreRun (fun _ _ => True) s s' ∧ i ∈ s.incarnations ∧ i.state = .ready ∧
      i' ∈ s'.incarnations ∧ i'.seat = i.seat ∧ MovesTo i.state i'.state := by
  have h : Leads (fun _ _ => True)
      (fun s => (∃ i ∈ s.incarnations.rows, i.state = .ready) ∧
        Leads (fun _ _ => True) (fun s => ∃ i ∈ s.incarnations.rows, i.state = .retiring)
          [.requestRetirement 5 1 "k9"] s)
      [adopting 1 "w1:p1" "t1" "asker" "k1"] Store.empty := by decide +kernel
  obtain ⟨s, -, ⟨i, h_i, h_ready⟩, h_leads⟩ := h.run
  obtain ⟨s', h_run, -⟩ := h_leads.run
  obtain ⟨i', h_i', -, h_moves, h_seat, -⟩ := incarnations_age h_run h_i
  exact ⟨s, s', i, i', h_run, h_i, h_ready, h_i', h_seat (by simp [IncarnationRow.Early, h_ready]),
    h_moves⟩

end Kelpie
