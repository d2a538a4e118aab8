/-
  Kelpie.Renews.Told

  A renew clears no agent that was not told of it, in the runs whose promotions
  find the prepare ask delivered.

  The driver promotes a cycle on the state of its obligation, or at its deadline
  where the policy says so.  It reads nothing of the delivery of the ask: without
  the condition, a cycle goes on to its clear behind an agent that never saw it.
-/

import Kelpie.Record.Deliveries
import Kelpie.Renews.Cycles
import Kelpie.Renews.Resumes

namespace Kelpie

open Lib Lib.Tx Lib.Process

variable {s s' : Store} {config : SliceConfig}

-- ============================================================================
-- Told
-- ============================================================================

/-- The prepare ask of the renew was delivered: a delivery of it is recorded accepted. -/
def RenewRow.Told (s : Store) (r : RenewRow) : Prop :=
  ∃ ask ∈ r.askMessageId, ∃ d ∈ s.deliveries.rows, d.messageId = ask ∧ d.outcome = .accepted

instance (s : Store) : DecidablePred (RenewRow.Told s) := fun r => by
  unfold RenewRow.Told
  infer_instance

/-- The cycle is ready for its clear, or came to it. -/
def RenewRow.Promoted (r : RenewRow) : Prop :=
  r.phase = .ready ∨ r.preClearSession.isSome

/-- No cycle is promoted before its agent is told. -/
structure Store.TellsFirst (s : Store) : Prop where
  before : ∀ r ∈ s.renews, r.phase.BeforeClear → r.preClearSession = none
  told : ∀ r ∈ s.renews, r.Promoted → r.Told s

theorem Store.TellsFirst.empty : Store.empty.TellsFirst where
  before _ h := absurd h Table.notMem_empty
  told _ h := absurd h Table.notMem_empty

/-- What is accepted stays so. -/
theorem RenewRow.Told.goesOn {r r' : RenewRow} (h : r.Told s)
    (h_forwards : Ledger.Forwards s.ledger s'.ledger) (h_ask : r'.askMessageId = r.askMessageId) :
    r'.Told s' := by
  obtain ⟨ask, h_some, d, h_d, h_message, h_accepted⟩ := h
  obtain ⟨d', h_d', h_on⟩ := h_forwards d h_d
  exact ⟨ask, h_ask ▸ h_some, d', h_d', h_on.message.trans h_message, h_on.accepted h_accepted⟩

-- ============================================================================
-- Moves
-- ============================================================================

/-- A move of a renew that keeps the order: what is promoted after it was told before. -/
def RenewRow.StaysTold (s : Store) (r r' : RenewRow) : Prop :=
  (r'.phase.BeforeClear → r'.preClearSession = none) ∧
    (r'.Promoted → r.Told s ∧ r'.askMessageId = r.askMessageId)

/-- Fresh renews are not promoted, and the others move in order. -/
theorem Store.TellsFirst.moves {e : RenewRow → RenewRow → Prop}
    (h_forwards : Ledger.Forwards s.ledger s'.ledger)
    (h_moves : RenewMoves e s.renews s'.renews)
    (h_e : ∀ r ∈ s.renews, ∀ r', e r r' → r.StaysTold s r') : s'.TellsFirst where
  before r' h_r' h_before := by
    rcases h_moves.origin r' h_r' with ⟨r, h_r, h_move⟩ | ⟨h_fresh, -⟩
    · exact (h_e r h_r r' h_move).1 h_before
    · exact h_fresh.session
  told r' h_r' h_promoted := by
    rcases h_moves.origin r' h_r' with ⟨r, h_r, h_move⟩ | ⟨h_fresh, -⟩
    · obtain ⟨h_told, h_ask⟩ := (h_e r h_r r' h_move).2 h_promoted
      exact h_told.goesOn h_forwards h_ask
    · rcases h_promoted with h_ready | h_some
      · exact absurd h_ready h_fresh.ready
      · rw [h_fresh.session] at h_some
        cases h_some

section Moves

variable (h : s.TellsFirst) {r r' : RenewRow} (h_r : r ∈ s.renews)

include h h_r

theorem Store.TellsFirst.prepares (h_move : r.Prepares r') : r.StaysTold s r' := by
  rcases h_move with rfl | h_move
  · exact ⟨h.before r' h_r, fun h_promoted => ⟨h.told r' h_r h_promoted, rfl⟩⟩
  · have h_none := h.before r h_r h_move.before
    refine ⟨fun _ => h_move.session.trans h_none, ?_⟩
    rintro (h_ready | h_some)
    · have h_was := h_move.ready h_ready
      have h_off : r.phase ≠ .scheduled := by
        rw [h_was]
        decide
      exact ⟨h.told r h_r (.inl h_was), (h_move.ask h_off).2⟩
    · rw [h_move.session, h_none] at h_some
      cases h_some

/-- A move that leaves the columns of the clear, and makes nothing ready. -/
theorem Store.TellsFirst.sameClear (h_move : r.SameClear r')
    (h_phase : r'.phase = r.phase ∨ ¬ r'.phase.BeforeClear) : r.StaysTold s r' := by
  refine ⟨fun h_before => ?_, ?_⟩
  · have h_same := h_phase.resolve_right (not_not_intro h_before)
    exact h_move.session.trans (h.before r h_r (h_same ▸ h_before))
  · rintro (h_ready | h_some)
    · have h_before : r'.phase.BeforeClear := .inr (.inr (.inr h_ready))
      have h_same := h_phase.resolve_right (not_not_intro h_before)
      exact ⟨h.told r h_r (.inl (h_same.symm.trans h_ready)), h_move.ask⟩
    · exact ⟨h.told r h_r (.inr (h_move.session ▸ h_some)), h_move.ask⟩

/-- A cycle that is promoted when its agent has been told. -/
theorem Store.TellsFirst.promotes (h_told : r.Told s)
    (h_move : r.Goes (fun p => p = .preparing ∨ p = .timedOut) .ready r') : r.StaysTold s r' := by
  have h_before : r.phase.BeforeClear := by
    rcases h_move.source with h_phase | h_phase
    · exact .inr (.inl h_phase)
    · exact .inr (.inr (.inl h_phase))
  exact ⟨fun _ => h_move.session.trans (h.before r h_r h_before), fun _ => ⟨h_told, h_move.ask⟩⟩

theorem Store.TellsFirst.clears {session : NativeSession} {deadlineMs : Millis}
    {notBeforeMs : Option Millis} (h_move : r.Clears session deadlineMs notBeforeMs r') :
    r.StaysTold s r' := by
  refine ⟨fun h_before => ?_, fun _ => ⟨h.told r h_r (.inl h_move.source), h_move.ask⟩⟩
  exact absurd h_move.target h_before.ne.1

end Moves

/-- One renew moves in order, and the others are prepared. -/
theorem Store.TellsFirst.aside (h : s.TellsFirst) {id : RenewId} {e : RenewRow → RenewRow → Prop}
    (h_forwards : Ledger.Forwards s.ledger s'.ledger)
    (h_moves : RenewMoves (RenewRow.Aside id e) s.renews s'.renews)
    (h_e : ∀ r ∈ s.renews, ∀ r', r.id = id → e r r' → r.StaysTold s r') : s'.TellsFirst := by
  refine Store.TellsFirst.moves h_forwards h_moves ?_
  rintro r h_r r' (⟨-, h_prepares⟩ | ⟨h_id, h_move⟩)
  · exact h.prepares h_r h_prepares
  · exact h_e r h_r r' h_id h_move

/-- A cycle that goes on from its clear, or ends. -/
theorem Store.TellsFirst.goes (h : s.TellsFirst) {id : RenewId} {p : RenewPhase → Prop}
    {phase : RenewPhase} (h_forwards : Ledger.Forwards s.ledger s'.ledger)
    (h_moves : RenewMoves (RenewRow.Aside id (RenewRow.Goes p phase)) s.renews s'.renews)
    (h_phase : ¬ phase.BeforeClear) : s'.TellsFirst :=
  h.aside h_forwards h_moves fun _ h_r _ _ h_move =>
    h.sameClear h_r h_move.toSameClear (.inr (h_move.target ▸ h_phase))

-- ============================================================================
-- Calls
-- ============================================================================

/-- A promotion finds the prepare ask of the renew delivered. -/
def Call.PromotesTold (c : Call) (s : Store) : Prop :=
  match c with
  | .markRenewReady _ id => ∀ r ∈ s.renews.rows, r.id = id → r.Told s
  | _ => True

/-- The calls of the daemon, with promotions of renews whose agents were told. -/
def Call.TellsFirst (c : Call) (s : Store) : Prop := c.AsCalled s ∧ c.PromotesTold s

theorem Store.TellsFirst.call (h : s.TellsFirst) (h_sound : Ledger.Sound s.ledger) {c : Call}
    (h_c : c.TellsFirst s) (h_step : c.Step s s') : s'.TellsFirst := by
  have h_forwards := c.forwards h_sound h_c.1 h_step
  cases c with
  | markRenewReady now id =>
    obtain ⟨_, h_run⟩ := commit_ok.mp h_step
    exact h.aside h_forwards (markRenewReady_moves h_run) fun r h_r r' h_id h_move =>
      h.promotes h_r (h_c.2 r h_r h_id) h_move
  | markRenewClearing id session deadline notBefore =>
    obtain ⟨_, h_run⟩ := commit_ok.mp h_step
    exact h.aside h_forwards (markRenewClearing_moves h_run).1 fun r h_r r' _ h_move =>
      h.clears h_r h_move
  | claimRenewClearStallNotice id nowMs =>
    obtain ⟨_, h_run⟩ := commit_ok.mp h_step
    exact h.aside h_forwards (claimRenewClearStallNotice_moves h_run).1 fun r h_r r' _ h_move =>
      h.sameClear h_r h_move.1 (.inl h_move.2)
  | markRenewInjected id =>
    obtain ⟨_, h_run⟩ := commit_ok.mp h_step
    exact h.goes h_forwards (markRenewInjected_moves h_run) (by decide)
  | completeRenew now id =>
    obtain ⟨_, h_run⟩ := commit_ok.mp h_step
    exact h.goes h_forwards (completeRenew_moves h_run).1 (by decide)
  | abortRenew now id reason =>
    obtain ⟨_, h_run⟩ := commit_ok.mp h_step
    exact h.goes h_forwards (abortRenew_moves h_run).1 (by decide)
  | abandonRenewProof now id reason =>
    obtain ⟨_, h_run⟩ := commit_ok.mp h_step
    exact h.goes h_forwards (abandonRenewProof_moves h_run).1 (by decide)
  | terminateRenew now id reason =>
    obtain ⟨_, h_run⟩ := commit_ok.mp h_step
    exact h.goes (p := fun _ => True) h_forwards (endRenew_moves h_run fun _ _ => trivial).1
      (by decide)
  | terminateRenewAnnounced now id reason notice =>
    obtain ⟨_, h_run⟩ := commit_ok.mp h_step
    exact h.goes h_forwards (terminateRenewAnnounced_moves h_run).1 (by decide)
  | cancelRenew now id requester reason notice =>
    obtain ⟨_, h_run⟩ := commit_ok.mp h_step
    exact h.goes h_forwards (cancelRenew_moves h_run).1 (by decide)
  | _ =>
    have h_prepares : Preparing s.renews s'.renews :=
      Keeps.commit (R := Over Tab.renews Preparing) h_step
    exact Store.TellsFirst.moves h_forwards h_prepares fun _ h_r _ h_move => h.prepares h_r h_move

theorem Reachable.tellsFirst (h : Reachable Call.TellsFirst s) : s.TellsFirst := by
  induction h with
  | refl => exact .empty
  | tail c h_run h_ok h_step ih =>
    have h_sound := Reachable.ledger h_run (fun _ _ h_ok _ => h_ok.1) sound_invariant
    exact ih.call h_sound h_ok h_step

-- ============================================================================
-- Handlers
-- ============================================================================

/-- The transactions of the handler are calls of the daemon, none of which promotes a cycle. -/
abbrev Unpromoting {α : Type} (p : RenewProcess α) : Prop :=
  OnlyCalls (fun c => ∀ s, c.TellsFirst s) p

section Handlers

variable {item : DueRenew} {nowMs now : Millis} {clock : Nat → Millis}

/-- A transaction that is a call of the daemon. -/
theorem unpromoting_call {α : Type} {x : StoreTx α} {note : Store → α → List RenewAct} (c : Call)
    (h : ∀ s, c.commit s = x.commit s) (h_c : ∀ s, c.TellsFirst s) : Unpromoting (commits x note) :=
  have : Keeps (StoreRun fun c _ => ∀ s, c.TellsFirst s) x := keeps_call c h fun _ => h_c
  onlyCalls_commits

theorem unpromoting_noteRenewDriveError {e : SliceError} :
    Unpromoting (noteRenewDriveError config now e) :=
  onlyCalls_noteRenewDriveError fun _ _ _ => ⟨trivial, trivial⟩

theorem unpromoting_recordRenewNotice {detail : String} {acts : List RenewAct} :
    Unpromoting (recordRenewNotice now item detail acts) := by
  refine onlyCalls_commits.bind fun _ => ?_
  refine (unpromoting_call (.createOperatorNotice _ _) (fun _ => rfl) fun _ => ?_).bind fun _ =>
    onlyCalls_pure
  exact ⟨trivial, trivial⟩

theorem OnlyCalls.forEach {ok : Call → Prop} {α : Type} {f : α → RenewProcess Unit}
    (h : ∀ a, OnlyCalls ok (f a)) (xs : List α) : OnlyCalls ok (Process.forEach xs f) :=
  fun s _ h_j => ensures_forEach h_j fun a _ j h_j => h a s j h_j

theorem unpromoting_terminateEndedRenews {clock : RenewId → Millis} :
    Unpromoting (terminateEndedRenews clock) := by
  refine onlyCalls_commits.bind fun ids => OnlyCalls.forEach (fun id => ?_) ids
  refine onlyCalls_commits.bind fun r => ?_
  cases r with
  | none => exact fun _ _ h => ensures_fail h
  | some r =>
    refine onlyCalls_commits.bind fun notice => ?_
    exact (unpromoting_call (.terminateRenewAnnounced _ _ _ _) (fun _ => rfl) fun _ =>
      ⟨trivial, trivial⟩).bind fun _ => onlyCalls_pure

theorem unpromoting_beginRenewPass : Unpromoting (beginRenewPass config nowMs clock) := by
  refine (unpromoting_terminateEndedRenews.bind fun _ => onlyCalls_commits).result.bind fun r => ?_
  cases r with
  | ok items => exact onlyCalls_pure
  | error e => exact unpromoting_noteRenewDriveError.bind fun _ => onlyCalls_pure

theorem unpromoting_beginRenewPrepare : Unpromoting (beginRenewPrepare item nowMs now) := by
  refine onlyCalls_commits.bind fun _ => ?_
  refine (unpromoting_call (.createAsk _ _ _ _ _ _ _ _ _ _) (fun _ => rfl) fun _ =>
    ⟨trivial, trivial⟩).bind fun _ => ?_
  refine (unpromoting_call (.markRenewPreparing _ _ _) (fun _ => rfl) fun _ =>
    ⟨trivial, trivial⟩).bind fun _ => ?_
  exact onlyCalls_commits.bind fun _ => onlyCalls_commits.bind fun _ => onlyCalls_pure

/-- What the handler does of the prepare where it does not promote the cycle. -/
theorem unpromoting_renewSettlePrepare (h : item.prepareObligationState ≠ some .resolved) :
    Unpromoting (renewSettlePrepare item nowMs now) := by
  unfold renewSettlePrepare
  rw [if_neg h]
  split
  · exact unpromoting_call (.markRenewTimedOut _) (fun _ => rfl) fun _ => ⟨trivial, trivial⟩
  · exact onlyCalls_pure

theorem unpromoting_renewApplyTimeout (h : item.onTimeout ≠ .proceed) :
    Unpromoting (renewApplyTimeout item clock) := by
  unfold renewApplyTimeout
  cases h_timeout : item.onTimeout with
  | abort =>
    exact (unpromoting_call (.abortRenew _ _ _) (fun _ => rfl) fun _ => ⟨trivial, trivial⟩).bind
      fun _ => unpromoting_recordRenewNotice
  | proceed => exact absurd h_timeout h

theorem unpromoting_recordRenewClearing {observed : AgentObservation} :
    Unpromoting (recordRenewClearing item nowMs observed) := by
  refine onlyCalls_commits.bind fun backendKind => ?_
  cases clearProtocolFor backendKind with
  | none => exact fun _ _ h => ensures_fail h
  | some protocol =>
    refine (unpromoting_call (.markRenewClearing _ _ _ _) (fun _ => rfl) fun _ =>
      ⟨trivial, trivial⟩).bind fun _ => ?_
    refine (unpromoting_call (.prepareRenewAttempt _ _ _ _ _) (fun _ => rfl) fun _ =>
      ⟨trivial, trivial⟩).bind fun _ => ?_
    exact (unpromoting_call (.submitRenewAttempt _) (fun _ => rfl) fun _ =>
      ⟨trivial, trivial⟩).bind fun _ => onlyCalls_pure

theorem unpromoting_resolve {requestId : String} {outcome : ReminderOutcome}
    {evidence : Option String} : Unpromoting (commits (resolveRenewAttempt requestId outcome
      evidence nowMs)) :=
  unpromoting_call (.resolveRenewAttempt _ _ _ _) (fun _ => rfl) fun _ => ⟨trivial, trivial⟩

theorem unpromoting_applyRenewAttemptResult {id : RenewId} {requestId : String}
    {result : Except HerdrError Unit} :
    Unpromoting (applyRenewAttemptResult id requestId nowMs result) := by
  unfold applyRenewAttemptResult
  split
  · exact unpromoting_resolve
  · exact unpromoting_resolve.bind fun _ _ _ h => ensures_fail h
  · exact unpromoting_resolve.bind fun _ _ _ h => ensures_fail h

theorem unpromoting_reportClearStall {consequence : String} :
    Unpromoting (reportClearStall item nowMs now consequence) := by
  unfold reportClearStall
  split
  · refine (unpromoting_call (.claimRenewClearStallNotice _ _) (fun _ => rfl) fun _ =>
      ⟨trivial, trivial⟩).bind fun claimed => ?_
    cases claimed with
    | false => exact onlyCalls_pure
    | true => exact onlyCalls_commits.bind fun _ => unpromoting_recordRenewNotice
  · exact onlyCalls_pure

theorem unpromoting_renewInjectDecision {observed : AgentObservation} :
    Unpromoting (renewInjectDecision item nowMs now observed) := by
  unfold renewInjectDecision
  cases item.preClearSession with
  | none => exact fun _ _ h => ensures_fail h
  | some session =>
    dsimp only
    split
    · exact onlyCalls_pure
    · split
      · exact unpromoting_reportClearStall.bind fun _ => onlyCalls_pure
      · refine onlyCalls_commits.bind fun _ => onlyCalls_commits.bind fun _ => ?_
        refine (unpromoting_call (.prepareRenewAttempt _ _ _ _ _) (fun _ => rfl) fun _ =>
          ⟨trivial, trivial⟩).bind fun _ => ?_
        exact (unpromoting_call (.submitRenewAttempt _) (fun _ => rfl) fun _ =>
          ⟨trivial, trivial⟩).bind fun _ => onlyCalls_pure

theorem unpromoting_replace {incarnation : IncarnationId} {session : NativeSession} :
    Unpromoting (commits (replaceObservedNativeSession incarnation session)) :=
  unpromoting_call (.replaceObservedNativeSession _ _) (fun _ => rfl) fun _ => ⟨trivial, trivial⟩

theorem unpromoting_applyRenewInjectResult {write : RenewInjectWrite}
    {result : Except HerdrError Unit} :
    Unpromoting (applyRenewInjectResult item nowMs write result) := by
  unfold applyRenewInjectResult
  split
  · refine unpromoting_resolve.bind fun _ => ?_
    refine (unpromoting_call (.markRenewInjected _) (fun _ => rfl) fun _ =>
      ⟨trivial, trivial⟩).bind fun _ => ?_
    split
    · exact unpromoting_replace
    · exact onlyCalls_pure
  · exact unpromoting_applyRenewAttemptResult

theorem unpromoting_abandonUnprovenCycle : Unpromoting (abandonUnprovenCycle item nowMs clock) := by
  unfold abandonUnprovenCycle
  split
  · exact onlyCalls_pure
  · split
    · exact onlyCalls_pure
    · exact (unpromoting_call (.abandonRenewProof _ _ _) (fun _ => rfl) fun _ =>
        ⟨trivial, trivial⟩).bind fun _ => unpromoting_recordRenewNotice

theorem unpromoting_applyRenewConfirmObservation {observed : AgentObservation} :
    Unpromoting (applyRenewConfirmObservation item nowMs clock observed) := by
  unfold applyRenewConfirmObservation
  cases item.preClearSession with
  | none => exact fun _ _ h => ensures_fail h
  | some session =>
    dsimp only
    split
    · exact unpromoting_reportClearStall.bind fun _ => unpromoting_abandonUnprovenCycle.bind
        fun _ => onlyCalls_pure
    · split
      · exact unpromoting_replace.bind fun _ => onlyCalls_pure
      · exact onlyCalls_pure

theorem unpromoting_finishRenew : Unpromoting (finishRenew item now) :=
  (unpromoting_call (.completeRenew _ _) (fun _ => rfl) fun _ => ⟨trivial, trivial⟩).bind
    fun _ => onlyCalls_pure

/-- An answer promotes no cycle. -/
theorem unpromoting_onRenewDone {r : AwaitingRenew} {result : Except HerdrError HerdrJobResult} :
    Unpromoting (onRenewDone config r result nowMs clock) := by
  have h_read {read : String} : Unpromoting (Process.ofExcept (agentResult read result)) :=
    fun _ _ h => ensures_ofExcept h fun _ _ => trivial
  unfold onRenewDone settling
  refine OnlyCalls.bind (OnlyCalls.result ?_) fun state => ?_
  · cases r.state with
    | probe =>
      exact h_read.bind fun _ => unpromoting_recordRenewClearing.bind fun _ => onlyCalls_pure
    | clearingSend write =>
      exact unpromoting_applyRenewAttemptResult.bind fun _ => onlyCalls_pure
    | rotationGet =>
      exact h_read.bind fun _ => unpromoting_renewInjectDecision.bind fun _ => onlyCalls_pure
    | injectSend write =>
      exact unpromoting_applyRenewInjectResult.bind fun _ => onlyCalls_pure
    | confirmGet =>
      refine h_read.bind fun _ => unpromoting_applyRenewConfirmObservation.bind fun proven => ?_
      cases proven with
      | true => exact unpromoting_finishRenew.bind fun _ => onlyCalls_pure
      | false => exact onlyCalls_pure
  · cases state with
    | ok state => exact onlyCalls_pure
    | error e =>
      dsimp only
      split
      · exact unpromoting_noteRenewDriveError.bind fun _ => onlyCalls_pure
      · exact onlyCalls_pure

end Handlers

-- ============================================================================
-- Promotions
-- ============================================================================

/-- The driver is about to promote the cycle: its prepare ask is answered, or its deadline has
    passed and the policy clears anyway. -/
def DueRenew.Promotes (item : DueRenew) : Prop :=
  match item.phase with
  | .preparing => item.prepareObligationState = some .resolved
  | .timedOut => item.onTimeout = .proceed
  | _ => False

instance : DecidablePred DueRenew.Promotes := fun item => by
  unfold DueRenew.Promotes
  split <;> infer_instance

/-- The other parts of the daemon call as they do. -/
def RenewLabel.AsCalled (label : RenewLabel) (w : RenewWorld) : Prop :=
  match label with
  | .call c => c.AsCalled w.journal.state
  | _ => True

instance (label : RenewLabel) (w : RenewWorld) : Decidable (label.AsCalled w) := by
  apply RenewLabel.casesOn (motive := fun label => Decidable (label.AsCalled w)) label <;>
    intros <;>
    dsimp only [RenewLabel.AsCalled] <;>
    infer_instance

/-- A promotion finds the prepare ask of the renew delivered. -/
def RenewLabel.TellsFirst (label : RenewLabel) (w : RenewWorld) : Prop :=
  label.AsCalled w ∧ match label with
    | .drive _ _ => ∀ item ∈ w.due.head?, item.Promotes →
      ∀ r ∈ w.journal.state.renews.rows, r.id = item.renewId → r.Told w.journal.state
    | _ => True

instance (label : RenewLabel) (w : RenewWorld) : Decidable (label.TellsFirst w) := by
  apply RenewLabel.casesOn (motive := fun label => Decidable (label.TellsFirst w)) label <;>
    intros <;>
    dsimp only [RenewLabel.TellsFirst] <;>
    infer_instance

section Promotions

variable {item : DueRenew} {nowMs now : Millis} {clock : Nat → Millis}

/-- From `j` on, the transactions of the handler are calls that tell first. -/
def TellsFrom {α : Type} (p : RenewProcess α) (j : RenewJournal) : Prop :=
  ∀ s, StoreRun Call.TellsFirst s j.state →
    p.Ensures (fun j => StoreRun Call.TellsFirst s j.state) (fun _ _ => True) j

theorem Unpromoting.tellsFrom {α : Type} {p : RenewProcess α} (h : Unpromoting p)
    (j : RenewJournal) : TellsFrom p j :=
  fun _ h_j => (h j.state j .refl).mono
    (fun _ h_run => h_j.trans (h_run.mono fun _ s h_c => h_c s)) fun _ _ _ _ => trivial

theorem TellsFrom.bind {α β : Type} {p : RenewProcess α} {f : α → RenewProcess β}
    {j : RenewJournal} (h : TellsFrom p j) (h_f : ∀ a, Unpromoting (f a)) :
    TellsFrom (p >>= f) j :=
  fun s h_j => (h s h_j).bind fun a j' h_j' _ => (h_f a).tellsFrom j' s h_j'

theorem TellsFrom.driving {α : Type} {p : RenewProcess α} {f : α → RenewDrive} {j : RenewJournal}
    (h : TellsFrom p j) : TellsFrom (driving config now p f) j :=
  TellsFrom.bind (fun s h_j => (h s h_j).result.mono (fun _ h => h) fun _ _ _ _ => trivial)
    fun r => onlyCalls_driven (fun _ _ _ => ⟨trivial, trivial⟩) r

/-- A promotion behind the told agent. -/
theorem tellsFrom_markRenewReady {id : RenewId} {j : RenewJournal}
    (h : ∀ r ∈ j.state.renews.rows, r.id = id → r.Told j.state) :
    TellsFrom (commits (markRenewReady now id)) j := by
  refine fun s h_j => ensures_tx h_j fun u j' h_run => ⟨?_, trivial⟩
  have h_step : (Call.markRenewReady now id).Step j.state j'.state :=
    commit_ok.mpr ⟨u, (run_noting_ok.mp h_run).1⟩
  exact .tail (.markRenewReady now id) h_j ⟨trivial, h⟩ h_step

theorem tellsFrom_driveRenew {j : RenewJournal}
    (h : item.Promotes → ∀ r ∈ j.state.renews.rows, r.id = item.renewId → r.Told j.state) :
    TellsFrom (driveRenew config item nowMs clock) j := by
  have h_notes (now : Millis) (body : String) (s : Store) :
      (Call.createOperatorNotice now body).TellsFirst s := ⟨trivial, trivial⟩
  unfold DueRenew.Promotes at h
  unfold driveRenew
  cases h_phase : item.phase with
  | scheduled =>
    refine Unpromoting.tellsFrom (onlyCalls_commits.result.bind fun spacing => ?_) j
    cases spacing with
    | error e => exact unpromoting_noteRenewDriveError.bind fun _ => onlyCalls_pure
    | ok active =>
      cases active with
      | true => exact onlyCalls_pure
      | false => exact unpromoting_beginRenewPrepare.driving h_notes
  | preparing =>
    rw [h_phase] at h
    refine TellsFrom.driving ?_
    by_cases h_resolved : item.prepareObligationState = some .resolved
    · unfold renewSettlePrepare
      rw [if_pos h_resolved]
      exact tellsFrom_markRenewReady (h h_resolved)
    · exact (unpromoting_renewSettlePrepare h_resolved).tellsFrom j
  | timedOut =>
    rw [h_phase] at h
    refine TellsFrom.driving ?_
    by_cases h_proceed : item.onTimeout = .proceed
    · unfold renewApplyTimeout
      rw [h_proceed]
      exact (tellsFrom_markRenewReady (h h_proceed)).bind fun _ => unpromoting_recordRenewNotice
    · exact (unpromoting_renewApplyTimeout h_proceed).tellsFrom j
  | ready =>
    exact Unpromoting.tellsFrom
      ((onlyCalls_commits.bind fun _ => onlyCalls_pure).driving h_notes) j
  | clearing => exact Unpromoting.tellsFrom onlyCalls_pure j
  | injected =>
    refine Unpromoting.tellsFrom ?_ j
    dsimp only
    split
    · exact unpromoting_finishRenew.driving h_notes
    · exact onlyCalls_pure
  | done | aborted | terminated => exact Unpromoting.tellsFrom onlyCalls_pure j

theorem TellsFrom.run {α : Type} {p : RenewProcess α} {j : RenewJournal} (h : TellsFrom p j)
    (fates : List (Fate StoreError)) :
    StoreRun Call.TellsFirst j.state (p.run fates j).2.state :=
  ((h j.state .refl).run fates).1

end Promotions

-- ============================================================================
-- Runs
-- ============================================================================

/-- The jobs that are submitted leave the store. -/
theorem RenewWorld.advanceAwaiting_state (w : RenewWorld) :
    w.advanceAwaiting.journal.state = w.journal.state := by
  unfold RenewWorld.advanceAwaiting
  generalize w.awaiting.filter (·.herdrJob = none) = rs
  induction rs generalizing w with
  | nil => rfl
  | cons r rs ih => exact ih (w.submitJob r)

/-- A step of the daemon is a run of calls that tell first. -/
theorem RenewWorld.calls_of_step {w w' : RenewWorld} {label : RenewLabel}
    (h_ok : label.TellsFirst w) (h_step : StepOf (RenewWorld.next config) label w w') :
    StoreRun Call.TellsFirst w.journal.state w'.journal.state := by
  cases label with
  | call c =>
    obtain ⟨⟨-, h_c⟩, h_next⟩ := guard_bind_eq_some.mp h_step
    obtain ⟨s', h_commit, h_next⟩ := Option.bind_eq_some_iff.mp h_next
    cases h_next
    refine .single c ⟨h_ok.1, ?_⟩ (Call.step_of_mem h_commit)
    cases c with
    | markRenewReady now id => exact absurd trivial h_c
    | _ => trivial
  | pass nowMs clock fates =>
    obtain ⟨-, h_next⟩ := guard_bind_eq_some.mp h_step
    have h_pass : Unpromoting (beginRenewPass config nowMs clock) := unpromoting_beginRenewPass
    have h_run := (h_pass.tellsFrom w.journal).run fates
    split at h_next <;> rename_i h_eq <;> rw [h_eq] at h_run <;> cases h_next <;> exact h_run
  | drive clock fates =>
    have h_next : RenewWorld.next config (.drive clock fates) w = some w' := h_step
    unfold RenewWorld.next at h_next
    dsimp only at h_next
    split at h_next
    · cases h_next
    · rename_i item rest h_due
      cases h_next
      have h_item : item.Promotes → ∀ r ∈ w.journal.state.renews.rows, r.id = item.renewId →
          r.Told w.journal.state := h_ok.2 item (by rw [h_due]; rfl)
      have h_drive : TellsFrom (driveRenew config item w.passNowMs clock) w.journal :=
        tellsFrom_driveRenew h_item
      have h_run := h_drive.run fates
      unfold RenewWorld.drive
      split
      · exact .refl
      · split <;> rename_i h_eq <;> rw [h_eq] at h_run <;> exact h_run
  | advance =>
    obtain ⟨-, h_next⟩ := guard_bind_eq_some.mp h_step
    cases h_next
    rw [RenewWorld.advanceAwaiting_state]
    exact .refl
  | opened jobId lease =>
    obtain ⟨-, h_next⟩ := guard_bind_eq_some.mp h_step
    obtain ⟨r, -, h_next⟩ := Option.bind_eq_some_iff.mp h_next
    obtain ⟨step, -, h_next⟩ := Option.bind_eq_some_iff.mp h_next
    obtain ⟨-, h_next⟩ := guard_bind_eq_some.mp h_next
    cases h_next
    cases lease <;> exact .refl
  | done jobId result nowMs clock fates =>
    obtain ⟨-, h_next⟩ := guard_bind_eq_some.mp h_step
    obtain ⟨r, -, h_next⟩ := Option.bind_eq_some_iff.mp h_next
    obtain ⟨-, h_next⟩ := guard_bind_eq_some.mp h_next
    cases h_next
    have h_done : Unpromoting (onRenewDone config r result nowMs clock) := unpromoting_onRenewDone
    have h_run := (h_done.tellsFrom (w.observing r result)).run fates
    rw [RenewWorld.observing_state] at h_run
    unfold RenewWorld.done
    split <;> rename_i h_eq <;> rw [h_eq] at h_run <;> exact h_run
  | failed jobId =>
    obtain ⟨-, h_next⟩ := guard_bind_eq_some.mp h_step
    obtain ⟨r, -, h_next⟩ := Option.bind_eq_some_iff.mp h_next
    cases h_next
    exact .refl
  | crash =>
    cases h_step
    exact .refl

theorem RenewReachable.tellsFirst {w : RenewWorld}
    (h : RenewReachable config RenewLabel.TellsFirst w) : w.journal.state.TellsFirst := by
  have h_calls : StoreRun Call.TellsFirst Store.empty w.journal.state := by
    induction h with
    | refl => exact .refl
    | tail label _ h_ok h_step ih => exact ih.trans (RenewWorld.calls_of_step h_ok h_step)
  exact Reachable.tellsFirst h_calls

/-- In runs whose promotions find the prepare ask delivered, an agent whose renew came to its
    clear was told: when the clear is recorded, when its command is submitted and sent, and ever
    after.  The daemon may die at any of these moments, so each is the end of a run. -/
theorem renew_clears_told {w : RenewWorld} (h : RenewReachable config RenewLabel.TellsFirst w) :
    (∀ id nowMs, .submits id .clear nowMs ∈ w.journal.log →
      ∃ r ∈ w.journal.state.renews, r.id = id ∧ r.Told w.journal.state) ∧
    (∀ id, .sends id .clear ∈ w.journal.log →
      ∃ r ∈ w.journal.state.renews, r.id = id ∧ r.Told w.journal.state) ∧
    (∀ id time session rotation, RecordsClear w.journal.log id time session rotation →
      ∃ r ∈ w.journal.state.renews, r.id = id ∧ r.Told w.journal.state) ∧
    ∀ r ∈ w.journal.state.renews, r.phase = .clearing ∨ r.phase = .injected →
      r.Told w.journal.state := by
  have h_agree := h.ordered.agree
  have h_tells := h.tellsFirst
  have h_records {id : RenewId} {time : Millis} {session : NativeSession}
      {rotation : RotationTiming} (h_rec : RecordsClear w.journal.log id time session rotation) :
      ∃ r ∈ w.journal.state.renews, r.id = id ∧ r.Told w.journal.state := by
    obtain ⟨r, h_r, h_id, h_recorded⟩ := h_agree.recorded _ _ _ _ h_rec
    refine ⟨r, h_r, h_id, h_tells.told r h_r (.inr ?_)⟩
    rw [h_recorded.session]
    rfl
  have h_submits {id : RenewId} {nowMs : Millis}
      (h_mem : .submits id .clear nowMs ∈ w.journal.log) :
      ∃ r ∈ w.journal.state.renews, r.id = id ∧ r.Told w.journal.state := by
    obtain ⟨time, session, rotation, h_rec⟩ := h_agree.records_of_submits h_mem
    exact h_records h_rec
  refine ⟨fun _ _ h_mem => h_submits h_mem, fun id h_mem => ?_, fun _ _ _ _ h_rec =>
    h_records h_rec, fun r h_r h_phase => ?_⟩
  · obtain ⟨nowMs, h_sub⟩ := h_agree.submits_of_sends h_mem
    exact h_submits h_sub
  · exact h_tells.told r h_r (.inr (h_agree.cleared r h_r h_phase))

/-- The renew whose ask was delivered is cleared after its timeout. -/
theorem renew_clears_told_clearedRun :
    ∃ w, RenewReachable plainConfig RenewLabel.TellsFirst w ∧
      .submits 1 .clear 600 ∈ w.journal.log ∧
      ∃ r ∈ w.journal.state.renews, r.id = 1 ∧ r.Told w.journal.state := by
  have h : Script (RenewWorld.next plainConfig) RenewLabel.TellsFirst
      (fun w => .submits 1 .clear 600 ∈ w.journal.log) clearedRun {} := by
    decide +kernel
  obtain ⟨w, h_run, h_mem⟩ := h.run
  exact ⟨w, h_run, h_mem, (renew_clears_told h_run).1 1 600 h_mem⟩

/-- The same renew, whose prepare prompt found no connection: its ask stays recorded. -/
def untoldRun : List RenewLabel :=
  calling [adopting 1 "w1:p1" "t1" "worker" "k1",
    .createRenew 10
      { logicalAgentId := 1, incarnationId := 1, requesterAgentId := 1,
        preparePrompt := "Write a checkpoint.", resumePrompt := "Continue.",
        onTimeout := .proceed, prepareTimeoutMs := 100, scheduledAtMs := 100 }] ++
    passing 100 ++ passing 300 ++ passing 400 ++ passing 500 ++
    [.advance, .done 1 (showing "a") 600 (fun _ => 600) [], .opened 2 .taken]

/-- A renew clears an agent that it has not told: its ask has no delivery that was so much as
    submitted. -/
theorem renew_clears_untold : ∃ w,
    RenewReachable plainConfig RenewLabel.AsCalled w ∧
      .submits 1 .clear 600 ∈ w.journal.log ∧ .sends 1 .clear ∈ w.journal.log ∧
      (∀ r ∈ w.journal.state.renews.rows, r.phase = .clearing ∧ r.askMessageId.isSome ∧
        ¬ r.Told w.journal.state) ∧
      ∀ d ∈ w.journal.state.deliveries.rows, d.outcome = .pending := by
  have h : Script (RenewWorld.next plainConfig) RenewLabel.AsCalled
      (fun w => .submits 1 .clear 600 ∈ w.journal.log ∧ .sends 1 .clear ∈ w.journal.log ∧
        (∀ r ∈ w.journal.state.renews.rows, r.phase = .clearing ∧ r.askMessageId.isSome ∧
          ¬ r.Told w.journal.state) ∧
        ∀ d ∈ w.journal.state.deliveries.rows, d.outcome = .pending) untoldRun {} := by
    decide +kernel
  exact h.run

end Kelpie
