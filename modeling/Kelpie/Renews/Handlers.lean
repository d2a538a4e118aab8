/-
  Kelpie.Renews.Handlers

  What the handlers of the driver ensure, wherever they fail or the daemon dies:
  the journal stays in order and in agreement with the renews.
-/

import Kelpie.Renews.Daemon
import Kelpie.Renews.Record

namespace Kelpie

open Lib Lib.Tx Lib.Process

/-- The journal goes on from `log₀` in order, and nothing is sent on the way. -/
structure RenewJournal.Good (log₀ : List RenewAct) (j : RenewJournal) : Prop where
  agree : RenewsAgree j.state.renews j.log
  extend : ∃ acts, j.log = log₀ ++ acts ∧ ∀ id step, .sends id step ∉ acts

/-- The reference and the deadlines of the clear, as the item was read. -/
def DueRenew.Recorded (log : List RenewAct) (item : DueRenew) : Prop :=
  ∃ time session rotation, RecordsClear log item.renewId time session rotation ∧
    item.preClearSession = some session ∧
    item.clearDeadlineMs = some (saturatingAdd time clearRotationStallMs) ∧
    item.injectNotBeforeMs = rotation.injectNotBeforeMs time

/-- An item that was read after its clear knows what was recorded of it. -/
def DueRenew.Fits (log : List RenewAct) (item : DueRenew) : Prop :=
  item.phase = .clearing ∨ item.phase = .injected → item.Recorded log

section Good

variable {log₀ : List RenewAct} {j : RenewJournal}

theorem RenewJournal.Good.start (h : RenewsAgree j.state.renews j.log) : j.Good j.log :=
  ⟨h, [], (List.append_nil _).symm, fun _ _ => List.not_mem_nil⟩

theorem RenewJournal.Good.mem (h : j.Good log₀) {a : RenewAct} (h_a : a ∈ log₀) : a ∈ j.log := by
  obtain ⟨acts, h_log, -⟩ := h.extend
  rw [h_log]
  exact List.mem_append_left acts h_a

theorem RenewJournal.Good.sends (h : j.Good log₀) {id : RenewId} {step : RenewStep}
    (h_mem : .sends id step ∈ j.log) : .sends id step ∈ log₀ := by
  obtain ⟨acts, h_log, h_acts⟩ := h.extend
  rw [h_log] at h_mem
  exact (List.mem_append.mp h_mem).resolve_right (h_acts id step)

theorem DueRenew.Recorded.mono {item : DueRenew} {log : List RenewAct} (h : item.Recorded log₀)
    (h_le : ∀ a ∈ log₀, a ∈ log) : item.Recorded log := by
  obtain ⟨time, session, rotation, h_rec, h_rest⟩ := h
  exact ⟨time, session, rotation, h_le _ h_rec, h_rest⟩

/-- A transaction that notes `acts`, none of which is a write. -/
theorem RenewJournal.Good.next (h : j.Good log₀) {s : Store} {acts : List RenewAct}
    (h_agree : RenewsAgree s.renews (j.log ++ acts))
    (h_acts : ∀ id step, .sends id step ∉ acts) :
    RenewJournal.Good log₀ { state := s, log := j.log ++ acts } := by
  obtain ⟨before, h_log, h_before⟩ := h.extend
  refine ⟨h_agree, before ++ acts, ?_, fun id step h_mem => ?_⟩
  · rw [h_log, List.append_assoc]
  · rcases List.mem_append.mp h_mem with h_mem | h_mem
    · exact h_before id step h_mem
    · exact h_acts id step h_mem

/-- One transaction of a handler. -/
theorem ensures_commits {α : Type} {x : StoreTx α} {note : Store → α → List RenewAct}
    {Q : α → RenewJournal → Prop} (h : j.Good log₀)
    (h_acts : ∀ s a id step, .sends id step ∉ note s a)
    (h_x : ∀ a s', x.run j.state = .ok (a, s') →
      RenewsAgree s'.renews (j.log ++ note j.state a) ∧
        Q a { state := s', log := j.log ++ note j.state a }) :
    (commits x note).Ensures (RenewJournal.Good log₀) Q j := by
  refine ensures_tx h fun a j' h_run => ?_
  obtain ⟨h_x_run, h_log⟩ := run_noting_ok.mp h_run
  obtain ⟨h_agree, h_Q⟩ := h_x a j'.state h_x_run
  obtain ⟨s', log'⟩ := j'
  cases h_log
  exact ⟨h.next h_agree (h_acts j.state a), h_Q⟩

/-- A transaction that at most prepares renews. -/
theorem ensures_prepares {α : Type} {x : StoreTx α} [hx : Keeps (Over Tab.renews Preparing) x]
    (h : j.Good log₀) :
    (commits x).Ensures (RenewJournal.Good log₀)
      (fun a j' => j'.log = j.log ∧ x.run j.state = .ok (a, j'.state)) j := by
  refine ensures_commits h (fun _ _ _ _ => List.not_mem_nil) fun a s' h_run => ?_
  rw [List.append_nil]
  exact ⟨h.agree.prepares (hx.keeps h_run), rfl, h_run⟩

/-- What a program ensures of the journal alone. -/
abbrev KeepsOrder {α : Type} (p : RenewProcess α) : Prop :=
  ∀ log₀ j, RenewJournal.Good log₀ j →
    p.Ensures (RenewJournal.Good log₀) (fun _ _ => True) j

theorem keepsOrder_prepares {α : Type} {x : StoreTx α} [Keeps (Over Tab.renews Preparing) x] :
    KeepsOrder (commits x) :=
  fun _ _ h => (ensures_prepares h).mono (fun _ h => h) fun _ _ _ _ => trivial

theorem KeepsOrder.bind {α β : Type} {p : RenewProcess α} {f : α → RenewProcess β}
    (h : KeepsOrder p) (h_f : ∀ a, KeepsOrder (f a)) : KeepsOrder (p >>= f) :=
  fun log₀ j h_j => Ensures.bind (h log₀ j h_j) fun a j' h_j' _ => h_f a log₀ j' h_j'

theorem keepsOrder_pure {α : Type} {a : α} : KeepsOrder (Pure.pure a : RenewProcess α) :=
  fun _ _ h => ensures_pure h trivial

theorem keepsOrder_fail {α : Type} {e : SliceError} :
    KeepsOrder (Process.fail e : RenewProcess α) :=
  fun _ _ h => ensures_fail h

end Good

/-- The first transaction of a handler, which goes wrong or commits. -/
theorem run_commits_cases {α : Type} {x : StoreTx α} {note : Store → α → List RenewAct}
    (fates : List (Fate StoreError)) (j : RenewJournal) :
    ((¬ Fate.Commits fates.head? ∨ ¬ x.Commits j.state) ∧
        (∀ a, ((commits x note).run fates j).1 ≠ some (.ok a)) ∧
        ((commits x note).run fates j).2 = j) ∨
      Fate.Commits fates.head? ∧ (commits x note).rest fates j = fates.tail ∧
        ∃ a j', x.run j.state = .ok (a, j'.state) ∧ j'.log = j.log ++ note j.state a ∧
          (commits x note).run fates j = (some (.ok a), j') := by
  unfold commits
  rcases run_tx_cases fates j with ⟨h_fate, h_not, h_same⟩ | ⟨-, e, h_error, h_run⟩ |
    ⟨h_fate, h_rest, a, j', h_ok, h_run⟩
  · exact .inl ⟨.inl h_fate, h_not, h_same⟩
  · refine .inl ⟨.inr ?_, ?_, ?_⟩
    · rintro ⟨a, s', h_ok⟩
      have h_noting : (x.noting note).run j =
          .ok (a, { state := s', log := j.log ++ note j.state a }) :=
        run_noting_ok.mpr ⟨h_ok, rfl⟩
      rw [h_error] at h_noting
      cases h_noting
    · rw [h_run]
      nofun
    · rw [h_run]
  · obtain ⟨h_x, h_log⟩ := run_noting_ok.mp h_ok
    exact .inr ⟨h_fate, h_rest, a, j', h_x, h_log, h_run⟩

-- ============================================================================
-- Notices
-- ============================================================================

variable {config : SliceConfig} {now nowMs : Millis} {item : DueRenew} {detail : String}

theorem keepsOrder_noteRenewDriveError {e : SliceError} :
    KeepsOrder (noteRenewDriveError config now e) := by
  intro log₀ j h
  refine ensures_attempt h fun n j' h_run => ?_
  obtain ⟨h_insert, h_log⟩ := run_noting_ok.mp h_run
  obtain ⟨s', log'⟩ := j'
  cases h_log
  refine h.next ?_ fun _ _ => List.not_mem_nil
  rw [List.append_nil]
  exact h.agree.prepares (Keeps.keeps (R := Over Tab.renews Preparing) h_insert)

theorem keepsOrder_recordRenewNotice : KeepsOrder (recordRenewNotice now item detail) :=
  keepsOrder_prepares.bind fun _ => keepsOrder_prepares.bind fun _ => keepsOrder_pure

/-- The end of a renew that a transaction finds in a phase of `p`. -/
theorem ensures_endsRenew {α : Type} {x : StoreTx α} {id : RenewId} {how : RenewEnd}
    {p : RenewPhase → Prop} {phase : RenewPhase} {log₀ : List RenewAct} {j : RenewJournal}
    (h : j.Good log₀)
    (h_x : ∀ a s', x.run j.state = .ok (a, s') →
      RenewMoves (RenewRow.Aside id (RenewRow.Goes p phase)) j.state.renews s'.renews ∧
        ∃ r ∈ j.state.renews, r.id = id ∧ p r.phase)
    (h_phase : ¬ phase.Armed) (h_armed : ∀ q, p q → q.Armed)
    (h_done : phase = .done → how = .completed)
    (h_due : ∀ q, p q → how.Due j.log id q) :
    (commits x (endsRenew id how)).Ensures (RenewJournal.Good log₀) (fun _ _ => True) j := by
  refine ensures_commits h (fun s a id' step h_mem => ?_) fun a s' h_run => ⟨?_, trivial⟩
  · obtain ⟨r, -, h_eq⟩ := Option.map_eq_some_iff.mp (Option.mem_toList.mp h_mem)
    cases h_eq
  · obtain ⟨h_moves, r, h_r, rfl, h_p⟩ := h_x a s' h_run
    have h_find : j.state.renews.find r.id = some r := Table.find_eq_some.mpr ⟨h_r, rfl⟩
    rw [endsRenew, h_find]
    exact h.agree.ends h_moves h_phase h_armed h_done ⟨h_r, rfl⟩ h_p
      (h_due r.phase h_p)

theorem keepsOrder_terminateEndedRenews {clock : RenewId → Millis} :
    KeepsOrder (terminateEndedRenews clock) := by
  refine keepsOrder_prepares.bind fun ids log₀ j h => ensures_forEach h fun id _ j h => ?_
  refine Ensures.bind (ensures_prepares h) fun r j h _ => ?_
  cases r with
  | none => exact keepsOrder_fail log₀ j h
  | some r =>
    refine Ensures.bind (ensures_prepares h) fun notice j h _ => ?_
    refine Ensures.bind (ensures_endsRenew h (fun _ _ h_run => terminateRenewAnnounced_moves h_run)
      (by decide) (fun _ h => h) nofun fun _ _ => trivial) fun _ j h _ => ?_
    exact keepsOrder_pure log₀ j h

-- ============================================================================
-- Before the clear
-- ============================================================================

theorem keepsOrder_beginRenewPrepare : KeepsOrder (beginRenewPrepare item nowMs now) :=
  keepsOrder_prepares.bind fun _ => keepsOrder_prepares.bind fun _ =>
    keepsOrder_prepares.bind fun _ => keepsOrder_prepares.bind fun _ =>
      keepsOrder_prepares.bind fun _ => keepsOrder_pure

theorem keepsOrder_markRenewReady {id : RenewId} :
    KeepsOrder (commits (markRenewReady now id)) := by
  intro log₀ j h
  refine ensures_commits h (fun _ _ _ _ => List.not_mem_nil) fun u s' h_run => ⟨?_, trivial⟩
  rw [List.append_nil]
  exact h.agree.readies (markRenewReady_moves h_run)

theorem keepsOrder_renewSettlePrepare : KeepsOrder (renewSettlePrepare item nowMs now) := by
  unfold renewSettlePrepare
  split
  · exact keepsOrder_markRenewReady
  · split
    · exact keepsOrder_prepares
    · exact keepsOrder_pure

theorem keepsOrder_renewApplyTimeout {clock : Nat → Millis} :
    KeepsOrder (renewApplyTimeout item clock) := by
  unfold renewApplyTimeout
  cases item.onTimeout with
  | abort =>
    refine KeepsOrder.bind (fun log₀ j h => ?_) fun _ => keepsOrder_recordRenewNotice
    exact ensures_endsRenew h (fun _ _ h_run => abortRenew_moves h_run) (by decide)
      (fun _ h_before => h_before.ne.2.2.2) nofun fun _ h_before => h_before
  | proceed => exact keepsOrder_markRenewReady.bind fun _ => keepsOrder_recordRenewNotice

theorem keepsOrder_renewClearReadyToProbe :
    KeepsOrder (renewClearReadyToProbe config item nowMs) :=
  keepsOrder_prepares.bind fun _ => keepsOrder_pure

-- ============================================================================
-- The clear
-- ============================================================================

/-- The one clear of the renew was marked submitted, and is not sent. -/
def ClearUnsent (log : List RenewAct) (id : RenewId) : Prop :=
  (∃ nowMs, .submits id .clear nowMs ∈ log) ∧ .sends id .clear ∉ log

/-- A clear is recorded once, and submitted with its record. -/
theorem ensures_recordRenewClearing {observed : AgentObservation} {log₀ : List RenewAct}
    {j : RenewJournal} (h : j.Good log₀) :
    (recordRenewClearing item nowMs observed).Ensures (RenewJournal.Good log₀)
      (fun _ j' => ClearUnsent j'.log item.renewId) j := by
  refine Ensures.bind (ensures_prepares h) fun backendKind j h _ => ?_
  cases clearProtocolFor backendKind with
  | none => exact ensures_fail h
  | some protocol =>
    -- No submission precedes the record.
    refine Ensures.bind (Q := fun _ j' => (∃ time session rotation,
        RecordsClear j'.log item.renewId time session rotation) ∧
        (∀ nowMs, .submits item.renewId .clear nowMs ∉ j'.log))
      (ensures_commits h (fun _ _ _ _ => by rintro (_ | ⟨_, ⟨⟩⟩)) fun u s' h_run => ?_)
      fun _ j h ⟨h_rec, h_new⟩ => ?_
    · obtain ⟨h_moves, h_found⟩ := markRenewClearing_moves h_run
      refine ⟨h.agree.clears h_moves h_found, ⟨_, _, _, List.mem_append_right _
        (List.mem_singleton_self _)⟩, fun nowMs' h_mem => ?_⟩
      rcases List.mem_append.mp h_mem with h_mem | h_mem
      · obtain ⟨time, session, rotation, h_rec⟩ := h.agree.records_of_submits h_mem
        obtain ⟨r, h_r, h_id, h_ready⟩ := h_found
        exact h.agree.unrecorded h_r (.inr (.inr (.inr h_ready))) _ _ _ (h_id ▸ h_rec)
      · cases List.mem_singleton.mp h_mem
    · refine Ensures.bind (ensures_prepares h) fun _ j' h' ⟨h_log, _⟩ => ?_
      rw [← h_log] at h_rec h_new
      refine Ensures.bind (Q := fun _ j' => ClearUnsent j'.log item.renewId)
        (ensures_commits h' (fun _ _ _ _ => by rintro (_ | ⟨_, ⟨⟩⟩)) fun u s' h_run => ?_)
        fun _ j h h_Q => ensures_pure h h_Q
      have h_prep : Preparing j'.state.renews s'.renews :=
        Keeps.keeps (R := Over Tab.renews Preparing) h_run
      refine ⟨(h'.agree.prepares h_prep).notes ⟨h_rec, h_new⟩ nofun nofun,
        ⟨nowMs, List.mem_append_right _ (List.mem_singleton_self _)⟩, fun h_mem => ?_⟩
      rcases List.mem_append.mp h_mem with h_mem | h_mem
      · obtain ⟨nowMs', h_sub⟩ := h'.agree.submits_of_sends h_mem
        exact h_new nowMs' h_sub
      · cases List.mem_singleton.mp h_mem

theorem keepsOrder_applyRenewAttemptResult {id : RenewId} {requestId : String}
    {result : Except HerdrError Unit} :
    KeepsOrder (applyRenewAttemptResult id requestId nowMs result) := by
  unfold applyRenewAttemptResult
  split
  · exact keepsOrder_prepares
  · exact keepsOrder_prepares.bind fun _ => keepsOrder_fail
  · exact keepsOrder_prepares.bind fun _ => keepsOrder_fail

-- ============================================================================
-- The injection
-- ============================================================================

/-- A stalled clear is reported by the one that claimed its notice. -/
theorem keepsOrder_reportClearStall {consequence : String} :
    KeepsOrder (reportClearStall item nowMs now consequence) := by
  intro log₀ j h
  unfold reportClearStall
  split
  · refine Ensures.bind (Q := fun claimed j' => claimed = true →
        .reports item.renewId ∉ j'.log ∧
          ∃ r ∈ j'.state.renews, r.id = item.renewId ∧ r.clearStallNotifiedAtMs.isSome)
      (ensures_commits h (fun _ _ _ _ => List.not_mem_nil) fun claimed s' h_run => ?_)
      fun claimed j h h_Q => ?_
    · obtain ⟨h_moves, h_claimed⟩ := claimRenewClearStallNotice_moves h_run
      rw [List.append_nil]
      refine ⟨h.agree.claims h_moves, fun h_true => ?_⟩
      obtain ⟨⟨r, h_r, h_id, h_none⟩, h_some⟩ := h_claimed h_true
      refine ⟨fun h_mem => ?_, h_some⟩
      obtain ⟨r', h_r', h_id', h_some'⟩ := h.agree.reported _ h_mem
      obtain rfl := Table.eq_of_key h_r h_r' (h_id.trans h_id'.symm)
      rw [h_none] at h_some'
      cases h_some'
    · cases claimed with
      | false => exact ensures_pure h trivial
      | true =>
        obtain ⟨h_new, h_row⟩ := h_Q rfl
        refine Ensures.bind (ensures_prepares h) fun _ j₁ h₁ ⟨h_log₁, h_run₁⟩ => ?_
        refine Ensures.bind (ensures_prepares h₁) fun _ j₂ h₂ ⟨h_log₂, h_run₂⟩ => ?_
        -- Both only read.
        have h_state₁ : j₁.state = j.state := (run_query_ok.mp h_run₁).2
        have h_state₂ : j₂.state = j₁.state := (run_query_ok.mp h_run₂).2
        rw [← h_state₁, ← h_state₂] at h_row
        rw [← h_log₁, ← h_log₂] at h_new
        refine Ensures.bind (Q := fun _ _ => True) (ensures_commits h₂
          (fun _ _ _ _ => by rintro (_ | ⟨_, ⟨⟩⟩)) fun n s' h_run => ⟨?_, trivial⟩)
          fun _ j h _ => ensures_pure h trivial
        have h_same : SameBook j₂.state s' := Keeps.keeps h_run
        have h_renews : s'.renews = j₂.state.renews := congrArg Book.renews h_same
        rw [h_renews]
        refine h₂.agree.notes h_new nofun fun id h_eq => ?_
        cases h_eq
        exact h_row
  · exact ensures_pure h trivial

theorem RotationTiming.onClear_of_none {rotation : RotationTiming} {time : Millis}
    (h : rotation.injectNotBeforeMs time = none) : rotation = .onClear := by
  cases rotation with
  | onClear => rfl
  | onNextPrompt => cases h

/-- The agent was seen after what the item knows of was recorded. -/
def DueRenew.Seen (log : List RenewAct) (item : DueRenew) (observed : AgentObservation) :
    Prop :=
  ∃ time session rotation, RecordsClear log item.renewId time session rotation ∧
    (SessionRotated session observed → RotationSeen log item.renewId time session rotation) ∧
    item.preClearSession = some session ∧
    item.clearDeadlineMs = some (saturatingAdd time clearRotationStallMs) ∧
    item.injectNotBeforeMs = rotation.injectNotBeforeMs time

theorem DueRenew.Recorded.seen {log : List RenewAct} (h : item.Recorded log)
    (observed : AgentObservation) :
    item.Seen (log ++ [.observes item.renewId observed]) observed := by
  obtain ⟨time, session, rotation, h_rec, h_rest⟩ := h
  exact ⟨time, session, rotation, h_rec.append _, fun h_rotated => h_rec.seen h_rotated, h_rest⟩

/-- An observation that is noted records no clear. -/
theorem DueRenew.Recorded.seen_noted {log : List RenewAct} {agent : AgentObservation}
    (h : item.Recorded (log ++ [.observes item.renewId agent])) :
    item.Seen (log ++ [.observes item.renewId agent]) agent := by
  obtain ⟨time, session, rotation, h_rec, h_rest⟩ := h
  rcases List.mem_append.mp h_rec with h_rec | h_rec
  · exact DueRenew.Recorded.seen ⟨time, session, rotation, h_rec, h_rest⟩ agent
  · cases List.mem_singleton.mp h_rec

/-- An injection is marked submitted once the barrier is down. -/
theorem ensures_renewInjectDecision {observed : AgentObservation} {log₀ : List RenewAct}
    {j : RenewJournal} (h : j.Good log₀) (h_item : item.Seen j.log observed) :
    (renewInjectDecision item nowMs now observed).Ensures (RenewJournal.Good log₀)
      (fun write j' => write.isSome → ∃ nowMs, .submits item.renewId .inject nowMs ∈ j'.log) j := by
  obtain ⟨time, session, rotation, h_rec, h_seen, h_session, -, h_notBefore⟩ := h_item
  unfold renewInjectDecision
  rw [h_session]
  dsimp only
  split
  · exact ensures_pure h nofun
  · rename_i h_late
    split
    · exact Ensures.bind (keepsOrder_reportClearStall log₀ j h) fun _ j h _ =>
        ensures_pure h nofun
    · rename_i h_barrier
      have h_may : MayResume j.log item.renewId nowMs := by
        refine ⟨time, session, rotation, h_rec, ?_⟩
        cases rotation with
        | onClear =>
          have h_rotated : SessionRotated session observed :=
            Decidable.not_not.mp fun h_not => h_barrier ⟨h_notBefore, h_not⟩
          exact h_seen h_rotated
        | onNextPrompt => exact Int.not_lt.mp fun h_lt => h_late ⟨_, h_notBefore, h_lt⟩
      refine Ensures.bind (ensures_prepares h) fun _ j₁ h₁ ⟨h_log₁, _⟩ => ?_
      refine Ensures.bind (ensures_prepares h₁) fun _ j₂ h₂ ⟨h_log₂, _⟩ => ?_
      refine Ensures.bind (ensures_prepares h₂) fun _ j₃ h₃ ⟨h_log₃, _⟩ => ?_
      rw [← h_log₁, ← h_log₂, ← h_log₃] at h_may
      refine Ensures.bind (Q := fun _ j' => ∃ nowMs, .submits item.renewId .inject nowMs ∈ j'.log)
        (ensures_commits h₃ (fun _ _ _ _ => by rintro (_ | ⟨_, ⟨⟩⟩)) fun u s' h_run => ?_)
        fun _ j h h_Q => ensures_pure h fun _ => h_Q
      have h_prep : Preparing j₃.state.renews s'.renews :=
        Keeps.keeps (R := Over Tab.renews Preparing) h_run
      exact ⟨(h₃.agree.prepares h_prep).notes h_may nofun nofun,
        nowMs, List.mem_append_right _ (List.mem_singleton_self _)⟩

/-- An accepted injection follows its submission. -/
theorem ensures_applyRenewInjectResult {write : RenewInjectWrite}
    {result : Except HerdrError Unit} {log₀ : List RenewAct} {j : RenewJournal}
    (h : j.Good log₀) (h_sub : ∃ nowMs, .submits item.renewId .inject nowMs ∈ j.log) :
    (applyRenewInjectResult item nowMs write result).Ensures (RenewJournal.Good log₀)
      (fun _ _ => True) j := by
  unfold applyRenewInjectResult
  split
  · refine Ensures.bind (ensures_prepares h) fun _ j₁ h₁ ⟨h_log₁, _⟩ => ?_
    rw [← h_log₁] at h_sub
    obtain ⟨nowMs', h_sub⟩ := h_sub
    refine Ensures.bind (Q := fun _ _ => True) (ensures_commits h₁ (fun _ _ _ _ => List.not_mem_nil)
      fun u s' h_run => ⟨?_, trivial⟩) fun _ j₂ h₂ _ => ?_
    · rw [List.append_nil]
      exact h₁.agree.injects h_sub (markRenewInjected_moves h_run)
    · split
      · exact keepsOrder_prepares log₀ j₂ h₂
      · exact ensures_pure h₂ trivial
  · exact keepsOrder_applyRenewAttemptResult log₀ j h

-- ============================================================================
-- The proof
-- ============================================================================

/-- A cycle is abandoned late. -/
theorem ensures_abandonUnprovenCycle {clock : Nat → Millis} {log₀ : List RenewAct}
    {j : RenewJournal} (h : j.Good log₀) (h_item : item.Recorded j.log) :
    (abandonUnprovenCycle item nowMs clock).Ensures (RenewJournal.Good log₀) (fun _ _ => True)
      j := by
  obtain ⟨time, session, rotation, h_rec, -, h_deadline, -⟩ := h_item
  unfold abandonUnprovenCycle
  rw [h_deadline]
  dsimp only [Option.map_some]
  split
  · exact ensures_pure h trivial
  · rename_i h_late
    refine Ensures.bind (ensures_endsRenew h (fun _ _ h_run => abandonRenewProof_moves h_run)
      (by decide) ?_ nofun fun q h_q => ?_) fun _ j h _ => keepsOrder_recordRenewNotice log₀ j h
    · rintro _ rfl
      decide
    · exact ⟨h_q, time, session, rotation, h_rec, Int.not_lt.mp h_late⟩

theorem DueRenew.Seen.recorded {log : List RenewAct} {observed : AgentObservation}
    (h : item.Seen log observed) : item.Recorded log := by
  obtain ⟨time, session, rotation, h_rec, -, h_rest⟩ := h
  exact ⟨time, session, rotation, h_rec, h_rest⟩

/-- The confirmation of a rotation is a proof of the clear. -/
theorem ensures_applyRenewConfirmObservation {clock : Nat → Millis}
    {observed : AgentObservation} {log₀ : List RenewAct} {j : RenewJournal} (h : j.Good log₀)
    (h_item : item.Seen j.log observed) (h_log : j.log = log₀) :
    (applyRenewConfirmObservation item nowMs clock observed).Ensures (RenewJournal.Good log₀)
      (fun proven j' => proven = true → ClearProven j'.log item.renewId) j := by
  have h_recorded := h_item.recorded
  obtain ⟨time, session, rotation, -, h_seen, h_session, -⟩ := h_item
  unfold applyRenewConfirmObservation
  rw [h_session]
  dsimp only
  split
  · refine Ensures.bind (keepsOrder_reportClearStall log₀ j h) fun _ j₁ h₁ _ => ?_
    have h_recorded₁ := h_recorded.mono fun a h_a => h₁.mem (h_log ▸ h_a)
    refine Ensures.bind (ensures_abandonUnprovenCycle h₁ h_recorded₁) fun _ j₂ h₂ _ => ?_
    exact ensures_pure h₂ nofun
  · rename_i h_rotated
    have h_proven : ClearProven j.log item.renewId :=
      ⟨time, session, rotation, h_seen (Decidable.not_not.mp h_rotated)⟩
    split
    · refine Ensures.bind (ensures_prepares h) fun _ j₁ h₁ ⟨h_log₁, _⟩ => ?_
      exact ensures_pure h₁ fun _ => h_log₁ ▸ h_proven
    · exact ensures_pure h fun _ => h_proven

/-- A cycle is completed after its proof. -/
theorem ensures_finishRenew {log₀ : List RenewAct} {j : RenewJournal} (h : j.Good log₀)
    (h_proven : (∃ r ∈ j.state.renews, r.id = item.renewId ∧ r.phase = .injected) →
      ClearProven j.log item.renewId) :
    (finishRenew item now).Ensures (RenewJournal.Good log₀) (fun _ _ => True) j := by
  refine Ensures.bind (Q := fun _ _ => True) (ensures_commits h (fun s a id' step h_mem => ?_)
    fun a s' h_run => ⟨?_, trivial⟩) fun _ j h _ => ensures_pure h trivial
  · obtain ⟨r, -, h_eq⟩ := Option.map_eq_some_iff.mp (Option.mem_toList.mp h_mem)
    cases h_eq
  · obtain ⟨h_moves, r, h_r, h_id, h_phase⟩ := completeRenew_moves h_run
    have h_find : j.state.renews.find item.renewId = some r := Table.find_eq_some.mpr ⟨h_r, h_id⟩
    rw [endsRenew, h_find]
    refine h.agree.ends h_moves (by decide) ?_ (fun _ => rfl) ⟨h_r, h_id⟩ h_phase
      (h_proven ⟨r, h_r, h_id, h_phase⟩)
    rintro _ rfl
    decide

/-- For a backend that rotates on the clear, the resume prompt followed the proof. -/
theorem RenewsAgree.proven_of_injected {t : Table RenewRow.id} {log : List RenewAct}
    (h : RenewsAgree t log) (h_item : item.Recorded log) (h_none : item.injectNotBeforeMs = none)
    (h_row : ∃ r ∈ t, r.id = item.renewId ∧ r.phase = .injected) :
    ClearProven log item.renewId := by
  obtain ⟨r, h_r, h_id, h_phase⟩ := h_row
  obtain ⟨time, session, rotation, h_rec, -, -, h_notBefore⟩ := h_item
  obtain ⟨nowMs, h_sub⟩ := h.resumed r h_r h_phase
  rw [h_id] at h_sub
  obtain ⟨pre, post, rfl, time', session', rotation', h_rec', h_may⟩ := h.due.of_mem h_sub
  have h_eq := (h.record_eq h_rec (h_rec'.append _)).2
  obtain rfl := RotationTiming.onClear_of_none (h_eq.symm.trans (h_notBefore.symm.trans h_none))
  exact ⟨time', session', .onClear, h_may.append _⟩

end Kelpie
