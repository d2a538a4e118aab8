/-
  Kelpie.Renews.Record

  The order that the journal of the driver keeps, and its agreement with the
  renews.

  An entry of the journal is due after what came before it: a clear once, a
  resume prompt after the rotation or the delay that its backend calls for, an
  end by completion after the proof.  The rows say in which phase each renew is;
  the journal says how it came there.
-/

import Kelpie.Renews.Driver
import Kelpie.Renews.Rows

namespace Kelpie

open Lib Lib.Tx

-- ============================================================================
-- Entries in order
-- ============================================================================

variable {log : List RenewAct} {t t' : Table RenewRow.id}

/-- The clear of the renew was recorded, with its reference. -/
def RecordsClear (log : List RenewAct) (id : RenewId) (time : Millis) (session : NativeSession)
    (rotation : RotationTiming) : Prop :=
  .records id time session rotation ∈ log

/-- The clear of the renew was recorded, and after that its agent was seen under another
    session. -/
def RotationSeen (log : List RenewAct) (id : RenewId) (time : Millis) (session : NativeSession)
    (rotation : RotationTiming) : Prop :=
  ∃ pre post, log = pre ++ .records id time session rotation :: post ∧
    ∃ agent, .observes id agent ∈ post ∧ SessionRotated session agent

/-- The barrier of the backend is down: the rotation was seen, or the delay has passed. -/
def MayResume (log : List RenewAct) (id : RenewId) (nowMs : Millis) : Prop :=
  ∃ time session rotation, RecordsClear log id time session rotation ∧
    match rotation with
    | .onClear => RotationSeen log id time session rotation
    | .onNextPrompt => saturatingAdd time promptSettleDelayMs ≤ nowMs

/-- The clear is proven. -/
def ClearProven (log : List RenewAct) (id : RenewId) : Prop :=
  ∃ time session rotation, RotationSeen log id time session rotation

/-- The proof of the clear is overdue. -/
def ProofOverdue (log : List RenewAct) (id : RenewId) (nowMs : Millis) : Prop :=
  ∃ time session rotation, RecordsClear log id time session rotation ∧
    saturatingAdd (saturatingAdd time clearRotationStallMs) clearProofAbandonMs ≤ nowMs

/-- What must have come before an end of the renew in the phase. -/
def RenewEnd.Due (before : List RenewAct) (id : RenewId) (phase : RenewPhase) : RenewEnd → Prop
  | .completed => ClearProven before id
  | .abandoned nowMs => phase = .injected ∧ ProofOverdue before id nowMs
  | .aborted => phase.BeforeClear
  | .lost => True
  | .cancelled => phase ≠ .clearing

/-- What must have come before an entry. -/
def RenewAct.Due (before : List RenewAct) : RenewAct → Prop
  | .records id _ _ _ => ∀ time session rotation, ¬ RecordsClear before id time session rotation
  | .submits id .clear _ => (∃ time session rotation,
      RecordsClear before id time session rotation) ∧ ∀ nowMs, .submits id .clear nowMs ∉ before
  | .submits id .inject nowMs => MayResume before id nowMs
  | .sends id .clear => (∃ nowMs, .submits id .clear nowMs ∈ before) ∧ .sends id .clear ∉ before
  | .sends id .inject => ∃ nowMs, .submits id .inject nowMs ∈ before
  | .observes _ _ => True
  | .reports id => .reports id ∉ before
  | .ends id phase how => how.Due before id phase ∧
    ((∃ time session rotation, RecordsClear before id time session rotation) →
      phase = .clearing ∨ phase = .injected)

theorem RotationSeen.append {id : RenewId} {time : Millis} {session : NativeSession}
    {rotation : RotationTiming} (h : RotationSeen log id time session rotation)
    (log' : List RenewAct) : RotationSeen (log ++ log') id time session rotation := by
  obtain ⟨pre, post, rfl, agent, h_agent, h_rotated⟩ := h
  refine ⟨pre, post ++ log', ?_, agent, List.mem_append_left log' h_agent, h_rotated⟩
  rw [List.append_assoc, List.cons_append]

/-- An observation that follows the record. -/
theorem RecordsClear.seen {id : RenewId} {time : Millis} {session : NativeSession}
    {rotation : RotationTiming} (h : RecordsClear log id time session rotation)
    {agent : AgentObservation} (h_agent : SessionRotated session agent) :
    RotationSeen (log ++ [.observes id agent]) id time session rotation := by
  obtain ⟨pre, post, rfl⟩ := List.append_of_mem h
  refine ⟨pre, post ++ [.observes id agent], ?_, agent, ?_, h_agent⟩
  · rw [List.append_assoc, List.cons_append]
  · exact List.mem_append_right post List.mem_cons_self

theorem RecordsClear.append {id : RenewId} {time : Millis} {session : NativeSession}
    {rotation : RotationTiming} (h : RecordsClear log id time session rotation)
    (log' : List RenewAct) : RecordsClear (log ++ log') id time session rotation :=
  List.mem_append_left log' h

-- ============================================================================
-- Agreement with the rows
-- ============================================================================

/-- The columns that one record of the clear sets. -/
structure RenewRow.Recorded (r : RenewRow) (time : Millis) (session : NativeSession)
    (rotation : RotationTiming) : Prop where
  after : ¬ r.phase.BeforeClear
  session : r.preClearSession = some session
  deadline : r.clearDeadlineMs = some (saturatingAdd time clearRotationStallMs)
  notBefore : r.injectNotBeforeMs = rotation.injectNotBeforeMs time

/-- The journal is in order, and agrees with the renews. -/
structure RenewsAgree (t : Table RenewRow.id) (log : List RenewAct) : Prop where
  due : Preceded RenewAct.Due log
  /-- What was recorded is in the row. -/
  recorded : ∀ id time session rotation, RecordsClear log id time session rotation →
    ∃ r ∈ t, r.id = id ∧ r.Recorded time session rotation
  /-- What is in a row was recorded. -/
  records : ∀ r ∈ t, r.preClearSession.isSome →
    ∃ time session rotation, RecordsClear log r.id time session rotation
  before : ∀ r ∈ t, r.phase.BeforeClear → r.preClearSession = none
  cleared : ∀ r ∈ t, r.phase = .clearing ∨ r.phase = .injected → r.preClearSession.isSome
  resumed : ∀ r ∈ t, r.phase = .injected → ∃ nowMs, .submits r.id .inject nowMs ∈ log
  reported : ∀ id, .reports id ∈ log → ∃ r ∈ t, r.id = id ∧ r.clearStallNotifiedAtMs.isSome
  /-- A renew that ended after its clear ended in one of the two phases after it. -/
  ended : ∀ r ∈ t, r.preClearSession.isSome → ¬ r.phase.Armed →
    ∃ phase how, .ends r.id phase how ∈ log ∧ (phase = .clearing ∨ phase = .injected)
  completed : ∀ r ∈ t, r.phase = .done → ∃ phase, .ends r.id phase .completed ∈ log

theorem RenewsAgree.empty : RenewsAgree .empty [] where
  due := .nil
  recorded _ _ _ _ h := absurd h List.not_mem_nil
  records _ h := absurd h Table.notMem_empty
  before _ h := absurd h Table.notMem_empty
  cleared _ h := absurd h Table.notMem_empty
  resumed _ h := absurd h Table.notMem_empty
  reported _ h := absurd h List.not_mem_nil
  ended _ h := absurd h Table.notMem_empty
  completed _ h := absurd h Table.notMem_empty

section Agree

variable (h : RenewsAgree t log)

include h

/-- The submission of an attempt follows the record of the clear. -/
theorem RenewsAgree.records_of_submits {id : RenewId} {step : RenewStep} {nowMs : Millis}
    (h_mem : .submits id step nowMs ∈ log) :
    ∃ time session rotation, RecordsClear log id time session rotation := by
  obtain ⟨pre, post, rfl, h_due⟩ := h.due.of_mem h_mem
  cases step with
  | clear =>
    obtain ⟨⟨time, session, rotation, h_rec⟩, -⟩ := h_due
    exact ⟨time, session, rotation, h_rec.append _⟩
  | inject =>
    obtain ⟨time, session, rotation, h_rec, -⟩ := h_due
    exact ⟨time, session, rotation, h_rec.append _⟩

theorem RenewsAgree.submits_of_sends {id : RenewId} {step : RenewStep}
    (h_mem : .sends id step ∈ log) : ∃ nowMs, .submits id step nowMs ∈ log := by
  obtain ⟨pre, post, rfl, h_due⟩ := h.due.of_mem h_mem
  cases step with
  | clear =>
    obtain ⟨⟨nowMs, h_sub⟩, -⟩ := h_due
    exact ⟨nowMs, List.mem_append_left _ h_sub⟩
  | inject =>
    obtain ⟨nowMs, h_sub⟩ := h_due
    exact ⟨nowMs, List.mem_append_left _ h_sub⟩

/-- The clear of a renew that has not come to it is not recorded. -/
theorem RenewsAgree.unrecorded {r : RenewRow} (h_r : r ∈ t) (h_before : r.phase.BeforeClear)
    (time : Millis) (session : NativeSession) (rotation : RotationTiming) :
    ¬ RecordsClear log r.id time session rotation := by
  intro h_rec
  obtain ⟨r', h_r', h_id, h_recorded⟩ := h.recorded r.id time session rotation h_rec
  obtain rfl := Table.eq_of_key h_r' h_r h_id
  exact h_recorded.after h_before

/-- One renew has one record of its clear. -/
theorem RenewsAgree.record_eq {id : RenewId} {time time' : Millis}
    {session session' : NativeSession} {rotation rotation' : RotationTiming}
    (h_rec : RecordsClear log id time session rotation)
    (h_rec' : RecordsClear log id time' session' rotation') :
    session = session' ∧
      rotation.injectNotBeforeMs time = rotation'.injectNotBeforeMs time' := by
  obtain ⟨r, h_r, h_id, h_recorded⟩ := h.recorded _ _ _ _ h_rec
  obtain ⟨r', h_r', h_id', h_recorded'⟩ := h.recorded _ _ _ _ h_rec'
  obtain rfl := Table.eq_of_key h_r h_r' (h_id.trans h_id'.symm)
  constructor
  · exact Option.some.inj (h_recorded.session.symm.trans h_recorded'.session)
  · exact h_recorded.notBefore.symm.trans h_recorded'.notBefore

end Agree

-- ============================================================================
-- Moves of the renews
-- ============================================================================

/-- A move that records no clear. -/
structure RenewRow.Proceeds (r r' : RenewRow) : Prop where
  id : r'.id = r.id
  session : r'.preClearSession = r.preClearSession
  before : r'.phase.BeforeClear → r.phase.BeforeClear
  after : ¬ r.phase.BeforeClear → ¬ r'.phase.BeforeClear ∧
    r'.clearDeadlineMs = r.clearDeadlineMs ∧ r'.injectNotBeforeMs = r.injectNotBeforeMs
  cleared : r'.phase = .clearing ∨ r'.phase = .injected →
    r.phase = .clearing ∨ r.phase = .injected
  notified : r.clearStallNotifiedAtMs.isSome → r'.clearStallNotifiedAtMs.isSome

theorem RenewPhase.BeforeClear.ne {p : RenewPhase} (h : p.BeforeClear) :
    p ≠ .clearing ∧ p ≠ .injected ∧ p ≠ .done ∧ p.Armed := by
  rcases h with rfl | rfl | rfl | rfl <;> decide

theorem RenewRow.Readies.proceeds {r r' : RenewRow} (h : r.Readies r') : r.Proceeds r' where
  id := h.id
  session := h.session
  before _ := h.before
  after h_not := absurd h.before h_not
  cleared h_r' := by
    obtain ⟨h_clearing, h_injected, -⟩ := h.after.ne
    rcases h_r' with h_r' | h_r'
    · exact absurd h_r' h_clearing
    · exact absurd h_r' h_injected
  notified h_r := by rwa [h.notified]

theorem RenewRow.Proceeds.rfl {r : RenewRow} : r.Proceeds r :=
  ⟨.refl _, .refl _, fun h => h, fun h => ⟨h, .refl _, .refl _⟩, fun h => h, fun h => h⟩

theorem RenewRow.Prepares.proceeds {r r' : RenewRow} (h : r.Prepares r') : r.Proceeds r' := by
  rcases h with rfl | h
  · exact .rfl
  · exact h.proceeds

/-- A phase that is left for one on the same side of the clear, or for an end. -/
theorem RenewRow.SameClear.proceeds {r r' : RenewRow} (h : r.SameClear r')
    (h_before : r'.phase.BeforeClear ↔ r.phase.BeforeClear ∧ r'.phase.Armed)
    (h_cleared : r'.phase = .clearing ∨ r'.phase = .injected →
      r.phase = .clearing ∨ r.phase = .injected) : r.Proceeds r' where
  id := h.id
  session := h.session
  before h_r' := (h_before.mp h_r').1
  after h_not := ⟨fun h_r' => h_not (h_before.mp h_r').1, h.deadline, h.notBefore⟩
  cleared := h_cleared
  notified := h.notified

section Moves

variable {e : RenewRow → RenewRow → Prop}

/-- The renews move, and the ends that this brings are noted. -/
theorem RenewsAgree.moves (h : RenewsAgree t log) {acts : List RenewAct}
    (h_moves : RenewMoves e t t') (h_e : ∀ r r', e r r' → r.Proceeds r')
    (h_acts : ∀ a ∈ acts, ∃ id phase how, a = .ends id phase how)
    (h_due : Preceded RenewAct.Due (log ++ acts))
    (h_resumed : ∀ r r', e r r' → r'.phase = .injected →
      r.phase = .injected ∨ ∃ nowMs, .submits r.id .inject nowMs ∈ log)
    (h_ended : ∀ r ∈ t, ∀ r', e r r' → r.preClearSession.isSome → r.phase.Armed →
      ¬ r'.phase.Armed → ∃ phase how, .ends r.id phase how ∈ acts ∧
        (phase = .clearing ∨ phase = .injected))
    (h_completed : ∀ r ∈ t, ∀ r', e r r' → r'.phase = .done →
      r.phase = .done ∨ ∃ phase, .ends r.id phase .completed ∈ acts) :
    RenewsAgree t' (log ++ acts) := by
  have h_not (a : RenewAct) (h_a : ∀ id phase how, a ≠ .ends id phase how) :
      a ∈ log ++ acts → a ∈ log := by
    intro h_mem
    rcases List.mem_append.mp h_mem with h_mem | h_mem
    · exact h_mem
    · obtain ⟨id, phase, how, h_eq⟩ := h_acts a h_mem
      exact absurd h_eq (h_a id phase how)
  constructor
  case due => exact h_due
  case recorded =>
    intro id time session rotation h_rec
    have h_old := h_not _ (by rintro _ _ _ ⟨⟩) h_rec
    obtain ⟨r, h_r, rfl, h_recorded⟩ := h.recorded id time session rotation h_old
    obtain ⟨r', h_r', h_move⟩ := h_moves.image r h_r
    have h_step := h_e r r' h_move
    obtain ⟨h_after, h_deadline, h_notBefore⟩ := h_step.after h_recorded.after
    exact ⟨r', h_r', h_step.id, h_after, h_step.session.trans h_recorded.session,
      h_deadline.trans h_recorded.deadline, h_notBefore.trans h_recorded.notBefore⟩
  case records =>
    intro r' h_r' h_some
    rcases h_moves.origin r' h_r' with ⟨r, h_r, h_move⟩ | ⟨h_fresh, -⟩
    · have h_step := h_e r r' h_move
      rw [h_step.session] at h_some
      obtain ⟨time, session, rotation, h_rec⟩ := h.records r h_r h_some
      rw [h_step.id]
      exact ⟨time, session, rotation, h_rec.append acts⟩
    · rw [h_fresh.session] at h_some
      cases h_some
  case before =>
    intro r' h_r' h_before
    rcases h_moves.origin r' h_r' with ⟨r, h_r, h_move⟩ | ⟨h_fresh, -⟩
    · have h_step := h_e r r' h_move
      exact h_step.session.trans (h.before r h_r (h_step.before h_before))
    · exact h_fresh.session
  case cleared =>
    intro r' h_r' h_phase
    rcases h_moves.origin r' h_r' with ⟨r, h_r, h_move⟩ | ⟨h_fresh, -⟩
    · have h_step := h_e r r' h_move
      rw [h_step.session]
      exact h.cleared r h_r (h_step.cleared h_phase)
    · obtain ⟨h_clearing, h_injected, -⟩ := h_fresh.before.ne
      rcases h_phase with h_phase | h_phase
      · exact absurd h_phase h_clearing
      · exact absurd h_phase h_injected
  case resumed =>
    intro r' h_r' h_phase
    rcases h_moves.origin r' h_r' with ⟨r, h_r, h_move⟩ | ⟨h_fresh, -⟩
    · rw [(h_e r r' h_move).id]
      rcases h_resumed r r' h_move h_phase with h_old | ⟨nowMs, h_sub⟩
      · obtain ⟨nowMs, h_sub⟩ := h.resumed r h_r h_old
        exact ⟨nowMs, List.mem_append_left acts h_sub⟩
      · exact ⟨nowMs, List.mem_append_left acts h_sub⟩
    · exact absurd h_phase h_fresh.before.ne.2.1
  case reported =>
    intro id h_mem
    have h_old := h_not _ (by rintro _ _ _ ⟨⟩) h_mem
    obtain ⟨r, h_r, rfl, h_some⟩ := h.reported id h_old
    obtain ⟨r', h_r', h_move⟩ := h_moves.image r h_r
    have h_step := h_e r r' h_move
    exact ⟨r', h_r', h_step.id, h_step.notified h_some⟩
  case ended =>
    intro r' h_r' h_some h_end
    rcases h_moves.origin r' h_r' with ⟨r, h_r, h_move⟩ | ⟨h_fresh, -⟩
    · have h_step := h_e r r' h_move
      rw [h_step.session] at h_some
      rw [h_step.id]
      by_cases h_armed : r.phase.Armed
      · obtain ⟨phase, how, h_mem, h_phase⟩ := h_ended r h_r r' h_move h_some h_armed h_end
        exact ⟨phase, how, List.mem_append_right log h_mem, h_phase⟩
      · obtain ⟨phase, how, h_mem, h_phase⟩ := h.ended r h_r h_some h_armed
        exact ⟨phase, how, List.mem_append_left acts h_mem, h_phase⟩
    · exact absurd h_fresh.before.ne.2.2.2 h_end
  case completed =>
    intro r' h_r' h_done
    rcases h_moves.origin r' h_r' with ⟨r, h_r, h_move⟩ | ⟨h_fresh, -⟩
    · rw [(h_e r r' h_move).id]
      rcases h_completed r h_r r' h_move h_done with h_old | ⟨phase, h_mem⟩
      · obtain ⟨phase, h_mem⟩ := h.completed r h_r h_old
        exact ⟨phase, List.mem_append_left acts h_mem⟩
      · exact ⟨phase, List.mem_append_right log h_mem⟩
    · exact absurd h_done h_fresh.before.ne.2.2.1

/-- A move that goes on with every renew, and ends none. -/
theorem RenewsAgree.goes (h : RenewsAgree t log) (h_moves : RenewMoves e t t')
    (h_e : ∀ r r', e r r' → r.Proceeds r' ∧ (r'.phase.Armed ∨ r'.phase = r.phase))
    (h_resumed : ∀ r r', e r r' → r'.phase = .injected →
      r.phase = .injected ∨ ∃ nowMs, .submits r.id .inject nowMs ∈ log) : RenewsAgree t' log := by
  have h_due : Preceded RenewAct.Due (log ++ []) := (List.append_nil log).symm ▸ h.due
  rw [← List.append_nil log]
  refine h.moves h_moves (fun r r' h_r => (h_e r r' h_r).1)
    (fun _ h_a => absurd h_a List.not_mem_nil) h_due h_resumed
    (fun r _ r' h_r _ h_armed h_end => ?_) (fun r _ r' h_r h_done => ?_)
  · rcases (h_e r r' h_r).2 with h_armed' | h_same
    · exact absurd h_armed' h_end
    · exact absurd (h_same ▸ h_armed) h_end
  · rcases (h_e r r' h_r).2 with h_armed' | h_same
    · exact absurd h_done h_armed'.1
    · exact .inl (h_same ▸ h_done)

theorem RenewRow.Prepares.armed {r r' : RenewRow} (h : r.Prepares r') :
    r'.phase.Armed ∨ r'.phase = r.phase := by
  rcases h with rfl | h
  · exact .inr rfl
  · exact .inl h.after.ne.2.2.2

theorem RenewRow.Prepares.injected {r r' : RenewRow} (h : r.Prepares r')
    (h_phase : r'.phase = .injected) : r.phase = .injected := by
  rcases h with rfl | h
  · exact h_phase
  · exact absurd h_phase h.after.ne.2.1

/-- Preparations leave the journal and the renews in agreement. -/
theorem RenewsAgree.prepares (h : RenewsAgree t log) (h_moves : Preparing t t') :
    RenewsAgree t' log :=
  h.goes h_moves (fun _ _ h_r => ⟨h_r.proceeds, h_r.armed⟩)
    fun _ _ h_r h_phase => .inl (h_r.injected h_phase)

/-- One renew goes on to another phase. -/
theorem RenewsAgree.aside (h : RenewsAgree t log) {id : RenewId}
    (h_moves : RenewMoves (RenewRow.Aside id e) t t')
    (h_e : ∀ r r', e r r' → r.Proceeds r' ∧ (r'.phase.Armed ∨ r'.phase = r.phase))
    (h_resumed : ∀ r r', r.id = id → e r r' → r'.phase = .injected →
      r.phase = .injected ∨ ∃ nowMs, .submits r.id .inject nowMs ∈ log) : RenewsAgree t' log := by
  refine h.goes h_moves ?_ ?_
  · rintro r r' (⟨-, h_prep⟩ | ⟨-, h_r⟩)
    · exact ⟨h_prep.proceeds, h_prep.armed⟩
    · exact h_e r r' h_r
  · rintro r r' (⟨-, h_prep⟩ | ⟨h_id, h_r⟩) h_phase
    · exact .inl (h_prep.injected h_phase)
    · exact h_resumed r r' h_id h_r h_phase

theorem RenewsAgree.readies (h : RenewsAgree t log) {id : RenewId}
    (h_moves : RenewMoves (RenewRow.Aside id
      (RenewRow.Goes (fun p => p = .preparing ∨ p = .timedOut) .ready)) t t') :
    RenewsAgree t' log := by
  refine h.aside h_moves (fun r r' h_r => ⟨h_r.proceeds ?_ ?_, ?_⟩) fun r r' _ h_r h_phase => ?_
  · rw [h_r.target]
    refine iff_of_true (by decide) ⟨?_, by decide⟩
    rcases h_r.source with h_source | h_source <;> rw [h_source] <;> decide
  · rw [h_r.target]
    rintro (h_phase | h_phase) <;> cases h_phase
  · rw [h_r.target]
    exact .inl (by decide)
  · rw [h_r.target] at h_phase
    cases h_phase

theorem RenewsAgree.injects (h : RenewsAgree t log) {id : RenewId} {nowMs : Millis}
    (h_sub : .submits id .inject nowMs ∈ log)
    (h_moves : RenewMoves (RenewRow.Aside id (RenewRow.Goes (· = .clearing) .injected)) t t') :
    RenewsAgree t' log := by
  refine h.aside h_moves (fun r r' h_r => ⟨h_r.proceeds ?_ ?_, ?_⟩) fun r r' h_id _ _ => ?_
  · rw [h_r.target, h_r.source]
    decide
  · intro _
    exact .inl h_r.source
  · rw [h_r.target]
    exact .inl (by decide)
  · exact .inr ⟨nowMs, h_id ▸ h_sub⟩

/-- The claim of a notice changes no phase. -/
theorem RenewsAgree.claims (h : RenewsAgree t log) {id : RenewId}
    (h_moves : RenewMoves
      (RenewRow.Aside id fun r r' => r.SameClear r' ∧ r'.phase = r.phase) t t') :
    RenewsAgree t' log := by
  refine h.aside h_moves (fun r r' ⟨h_same, h_phase⟩ => ⟨h_same.proceeds ?_ ?_, .inr h_phase⟩)
    fun r r' _ ⟨_, h_phase⟩ h_injected => .inl (h_phase.symm.trans h_injected)
  · rw [h_phase]
    exact ⟨fun h_before => ⟨h_before, h_before.ne.2.2.2⟩, And.left⟩
  · rw [h_phase]
    exact fun h => h

/-- One renew ends, and its end is noted with the phase that it ended in. -/
theorem RenewsAgree.ends (h : RenewsAgree t log) {id : RenewId} {p : RenewPhase → Prop}
    {phase : RenewPhase} {how : RenewEnd} {r₀ : RenewRow}
    (h_moves : RenewMoves (RenewRow.Aside id (RenewRow.Goes p phase)) t t')
    (h_phase : ¬ phase.Armed) (h_armed : ∀ q, p q → q.Armed)
    (h_done : phase = .done → how = .completed) (h_r₀ : r₀ ∈ t ∧ r₀.id = id)
    (h_p : p r₀.phase) (h_due : how.Due log id r₀.phase) :
    RenewsAgree t' (log ++ [.ends id r₀.phase how]) := by
  have h_this (r : RenewRow) (h_r : r ∈ t) (h_id : r.id = id) : r = r₀ :=
    Table.eq_of_key h_r h_r₀.1 (h_id.trans h_r₀.2.symm)
  have h_cleared : (∃ time session rotation, RecordsClear log id time session rotation) →
      r₀.phase = .clearing ∨ r₀.phase = .injected := by
    rintro ⟨time, session, rotation, h_rec⟩
    obtain ⟨r, h_r, h_id, h_recorded⟩ := h.recorded _ _ _ _ h_rec
    obtain rfl := h_this r h_r h_id
    exact (h_armed _ h_p).after_clear h_recorded.after
  refine h.moves h_moves ?_ ?_ (h.due.concat ⟨h_due, h_cleared⟩) ?_ ?_ ?_
  · rintro r r' (⟨-, h_prep⟩ | ⟨-, h_goes⟩)
    · exact h_prep.proceeds
    · refine h_goes.proceeds (iff_of_false ?_ ?_) ?_
      · rw [h_goes.target]
        exact fun h_before => h_phase h_before.ne.2.2.2
      · rw [h_goes.target]
        exact fun h_both => h_phase h_both.2
      · rw [h_goes.target]
        rintro (rfl | rfl) <;> exact absurd (by decide) h_phase
  · intro a h_a
    exact ⟨id, r₀.phase, how, List.mem_singleton.mp h_a⟩
  · rintro r r' (⟨-, h_prep⟩ | ⟨-, h_goes⟩) h_injected
    · exact .inl (h_prep.injected h_injected)
    · rw [← h_goes.target, h_injected] at h_phase
      exact absurd (by decide) h_phase
  · rintro r h_r r' (⟨-, h_prep⟩ | ⟨h_id, -⟩) h_some h_live h_end
    · rcases h_prep.armed with h_armed' | h_same
      · exact absurd h_armed' h_end
      · exact absurd (h_same ▸ h_live) h_end
    · obtain rfl := h_this r h_r h_id
      refine ⟨r.phase, how, h_id ▸ List.mem_singleton_self _, h_live.after_clear ?_⟩
      intro h_before
      rw [h.before r h_r h_before] at h_some
      cases h_some
  · rintro r h_r r' (⟨-, h_prep⟩ | ⟨h_id, h_goes⟩) h_end
    · rcases h_prep.armed with h_armed' | h_same
      · exact absurd h_end h_armed'.1
      · exact .inl (h_same ▸ h_end)
    · obtain rfl := h_this r h_r h_id
      refine .inr ⟨r.phase, ?_⟩
      rw [h_done (h_goes.target ▸ h_end), h_id]
      exact List.mem_singleton_self _

end Moves

-- ============================================================================
-- The record of a clear
-- ============================================================================

/-- The record of the one clear of a renew. -/
theorem RenewsAgree.clears (h : RenewsAgree t log) {id : RenewId} {time : Millis}
    {session : NativeSession} {rotation : RotationTiming}
    (h_moves : RenewMoves (RenewRow.Aside id (RenewRow.Clears session
      (saturatingAdd time clearRotationStallMs) (rotation.injectNotBeforeMs time))) t t')
    (h_found : ∃ r ∈ t, r.id = id ∧ r.phase = .ready) :
    RenewsAgree t' (log ++ [.records id time session rotation]) := by
  obtain ⟨r₀, h_r₀, rfl, h_ready⟩ := h_found
  have h_before : r₀.phase.BeforeClear := .inr (.inr (.inr h_ready))
  have h_new := h.unrecorded h_r₀ h_before
  have h_mem {a : RenewAct} (h_a : ∀ time session rotation,
      a ≠ .records r₀.id time session rotation) :
      a ∈ log ++ [.records r₀.id time session rotation] → a ∈ log := by
    intro h_in
    rcases List.mem_append.mp h_in with h_in | h_in
    · exact h_in
    · exact absurd (List.mem_singleton.mp h_in) (h_a _ _ _)
  constructor
  case due => exact h.due.concat h_new
  case recorded =>
    intro id time' session' rotation' h_rec
    rcases List.mem_append.mp h_rec with h_rec | h_rec
    · obtain ⟨r, h_r, rfl, h_recorded⟩ := h.recorded _ _ _ _ h_rec
      obtain ⟨r', h_r', ⟨h_other, h_prep⟩ | ⟨h_id, h_clears⟩⟩ := h_moves.image r h_r
      · have h_step := h_prep.proceeds
        obtain ⟨h_after, h_deadline, h_notBefore⟩ := h_step.after h_recorded.after
        exact ⟨r', h_r', h_step.id, h_after, h_step.session.trans h_recorded.session,
          h_deadline.trans h_recorded.deadline, h_notBefore.trans h_recorded.notBefore⟩
      · rw [h_id] at h_rec
        exact absurd h_rec (h_new _ _ _)
    · cases List.mem_singleton.mp h_rec
      obtain ⟨r', h_r', ⟨h_other, -⟩ | ⟨-, h_clears⟩⟩ := h_moves.image r₀ h_r₀
      · exact absurd rfl h_other
      · refine ⟨r', h_r', h_clears.id, ?_, h_clears.session, h_clears.deadline,
          h_clears.notBefore⟩
        rw [h_clears.target]
        decide
  case records =>
    intro r' h_r' h_some
    rcases h_moves.origin r' h_r' with ⟨r, h_r, ⟨-, h_prep⟩ | ⟨h_id, h_clears⟩⟩ | ⟨h_fresh, -⟩
    · rw [h_prep.proceeds.session] at h_some
      obtain ⟨time', session', rotation', h_rec⟩ := h.records r h_r h_some
      rw [h_prep.id]
      exact ⟨time', session', rotation', h_rec.append _⟩
    · refine ⟨time, session, rotation, ?_⟩
      rw [h_clears.id, h_id]
      exact List.mem_append_right log List.mem_cons_self
    · rw [h_fresh.session] at h_some
      cases h_some
  case before =>
    intro r' h_r' h_phase
    rcases h_moves.origin r' h_r' with ⟨r, h_r, ⟨-, h_prep⟩ | ⟨-, h_clears⟩⟩ | ⟨h_fresh, -⟩
    · have h_step := h_prep.proceeds
      exact h_step.session.trans (h.before r h_r (h_step.before h_phase))
    · rw [h_clears.target] at h_phase
      exact absurd h_phase (by decide)
    · exact h_fresh.session
  case cleared =>
    intro r' h_r' h_phase
    rcases h_moves.origin r' h_r' with ⟨r, h_r, ⟨-, h_prep⟩ | ⟨-, h_clears⟩⟩ | ⟨h_fresh, -⟩
    · have h_step := h_prep.proceeds
      rw [h_step.session]
      exact h.cleared r h_r (h_step.cleared h_phase)
    · rw [h_clears.session]
      rfl
    · obtain ⟨h_clearing, h_injected, -⟩ := h_fresh.before.ne
      rcases h_phase with h_phase | h_phase
      · exact absurd h_phase h_clearing
      · exact absurd h_phase h_injected
  case resumed =>
    intro r' h_r' h_phase
    rcases h_moves.origin r' h_r' with ⟨r, h_r, ⟨-, h_prep⟩ | ⟨-, h_clears⟩⟩ | ⟨h_fresh, -⟩
    · obtain ⟨nowMs, h_sub⟩ := h.resumed r h_r (h_prep.injected h_phase)
      rw [h_prep.id]
      exact ⟨nowMs, List.mem_append_left _ h_sub⟩
    · rw [h_clears.target] at h_phase
      cases h_phase
    · exact absurd h_phase h_fresh.before.ne.2.1
  case reported =>
    intro id h_rep
    obtain ⟨r, h_r, rfl, h_some⟩ := h.reported id (h_mem (by rintro _ _ _ ⟨⟩) h_rep)
    obtain ⟨r', h_r', ⟨-, h_prep⟩ | ⟨-, h_clears⟩⟩ := h_moves.image r h_r
    · exact ⟨r', h_r', h_prep.id, h_prep.proceeds.notified h_some⟩
    · refine ⟨r', h_r', h_clears.id, ?_⟩
      rwa [h_clears.notified]
  case ended =>
    intro r' h_r' h_some h_end
    rcases h_moves.origin r' h_r' with ⟨r, h_r, ⟨-, h_prep⟩ | ⟨-, h_clears⟩⟩ | ⟨h_fresh, -⟩
    · rcases h_prep.armed with h_armed | h_same
      · exact absurd h_armed h_end
      · rw [h_prep.proceeds.session] at h_some
        obtain ⟨phase, how, h_in, h_phase⟩ := h.ended r h_r h_some (h_same ▸ h_end)
        rw [h_prep.id]
        exact ⟨phase, how, List.mem_append_left _ h_in, h_phase⟩
    · rw [h_clears.target] at h_end
      exact absurd (by decide) h_end
    · exact absurd h_fresh.before.ne.2.2.2 h_end
  case completed =>
    intro r' h_r' h_done
    rcases h_moves.origin r' h_r' with ⟨r, h_r, ⟨-, h_prep⟩ | ⟨-, h_clears⟩⟩ | ⟨h_fresh, -⟩
    · rcases h_prep.armed with h_armed | h_same
      · exact absurd h_done h_armed.1
      · obtain ⟨phase, h_in⟩ := h.completed r h_r (h_same ▸ h_done)
        rw [h_prep.id]
        exact ⟨phase, List.mem_append_left _ h_in⟩
    · rw [h_clears.target] at h_done
      cases h_done
    · exact absurd h_done h_fresh.before.ne.2.2.1

-- ============================================================================
-- Entries without a move
-- ============================================================================

/-- An entry that is due, and records nothing of a row. -/
theorem RenewsAgree.notes (h : RenewsAgree t log) {a : RenewAct} (h_due : RenewAct.Due log a)
    (h_records : ∀ id time session rotation, a ≠ .records id time session rotation)
    (h_reports : ∀ id, a = .reports id →
      ∃ r ∈ t, r.id = id ∧ r.clearStallNotifiedAtMs.isSome) : RenewsAgree t (log ++ [a]) where
  due := h.due.concat h_due
  recorded id time session rotation h_rec := by
    rcases List.mem_append.mp h_rec with h_rec | h_rec
    · exact h.recorded _ _ _ _ h_rec
    · exact absurd (List.mem_singleton.mp h_rec).symm (h_records _ _ _ _)
  records r h_r h_some := by
    obtain ⟨time, session, rotation, h_rec⟩ := h.records r h_r h_some
    exact ⟨time, session, rotation, h_rec.append _⟩
  before := h.before
  cleared := h.cleared
  resumed r h_r h_phase := by
    obtain ⟨nowMs, h_sub⟩ := h.resumed r h_r h_phase
    exact ⟨nowMs, List.mem_append_left _ h_sub⟩
  reported id h_mem := by
    rcases List.mem_append.mp h_mem with h_mem | h_mem
    · exact h.reported id h_mem
    · exact h_reports id (List.mem_singleton.mp h_mem).symm
  ended r h_r h_some h_end := by
    obtain ⟨phase, how, h_mem, h_phase⟩ := h.ended r h_r h_some h_end
    exact ⟨phase, how, List.mem_append_left _ h_mem, h_phase⟩
  completed r h_r h_done := by
    obtain ⟨phase, h_mem⟩ := h.completed r h_r h_done
    exact ⟨phase, List.mem_append_left _ h_mem⟩

end Kelpie
