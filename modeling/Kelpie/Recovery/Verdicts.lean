/-
  Kelpie.Recovery.Verdicts

  Reconciliation with one snapshot decides every operation that an earlier process
  left unresolved, on the evidence of that snapshot alone.
-/

import Kelpie.Recovery.Candidates
import Kelpie.Slice.Sweep

namespace Kelpie

open Lib Lib.Tx

-- As in `Kelpie.Store.Frames`.
set_option synthInstance.maxSize 100000

variable {s s' : Store} {now : Millis} {snapshot : Snapshot} {c : RecoveryCandidate}
  {report report' : RecoveryReport}

-- ============================================================================
-- What a candidate leaves alone
-- ============================================================================

/-- Every operation but `op` is found as before, with its attempts, and what is bound stays. -/
structure TouchesOnly (op : OperationId) (s s' : Store) : Prop where
  operations : Over Tab.operations (OthersStay op) s s'
  attempts : Over Tab.operationAttempts (OtherAttemptsStay op) s s'
  incarnations : Over Tab.incarnations BoundStay s s'

instance TouchesOnly.stepwise {op : OperationId} : Stepwise (TouchesOnly op) where
  refl _ := ⟨Stepwise.refl _, Stepwise.refl _, Stepwise.refl _⟩
  trans h h' := ⟨Stepwise.trans h.operations h'.operations,
    Stepwise.trans h.attempts h'.attempts, Stepwise.trans h.incarnations h'.incarnations⟩

instance TouchesOnly.keeps {op : OperationId} {α : Type} {x : StoreTx α}
    [h : Keeps (Over Tab.operations (OthersStay op)) x]
    [h' : Keeps (Over Tab.operationAttempts (OtherAttemptsStay op)) x]
    [h'' : Keeps (Over Tab.incarnations BoundStay) x] : Keeps (TouchesOnly op) x where
  keeps h_run := ⟨h.keeps h_run, h'.keeps h_run, h''.keeps h_run⟩

section Frames

variable {op : OperationId} {inc : IncarnationId} {agent : AgentObservation}

instance {evidence delay} : Keeps (Over Tab.operationAttempts (OtherAttemptsStay op))
    (markUnknownWithClearSpacing now op inc evidence delay) := by
  unfold markUnknownWithClearSpacing
  cases delay <;> infer_instance

instance {evidence} : Keeps (Over Tab.operationAttempts (OtherAttemptsStay op))
    (markUnknown now op inc evidence) := by
  unfold markUnknown
  infer_instance

instance {evidence delay} : Keeps (Over Tab.operationAttempts (OtherAttemptsStay op))
    (markClearUnknown now op inc evidence delay) := by
  unfold markClearUnknown
  infer_instance

instance : Keeps (TouchesOnly op) (acceptStartReady now op inc agent none) where
  keeps h := by
    have h_proves := acceptStartReady_proves h
    exact ⟨h_proves.others, h_proves.attempts, h_proves.bound⟩

instance : Keeps (TouchesOnly op) (acceptAdoptReady now op inc agent) where
  keeps h := by
    have h_proves := acceptAdoptReady_proves h
    exact ⟨h_proves.others, h_proves.attempts, h_proves.bound⟩

instance : Prog.Keeps (TouchesOnly c.operationId) (recoverStart now snapshot c) := by
  have h_settle (intent : StartIntent) : Prog.Keeps (TouchesOnly c.operationId)
      (match c.startedAgent intent snapshot with
        | none => return false
        | some agent => do
          let r ← Prog.attempt (acceptStartReady now c.operationId c.incarnationId agent none)
          match r with
          | .ok () => return true
          | .error (.conflict _) => return false
          | .error e => Prog.fail e : Prog Store StoreError Bool) := by
    split
    · infer_instance
    · refine @Prog.Keeps.bind _ _ _ _ _ _ _ _ inferInstance fun r => ?_
      split <;> infer_instance
  unfold recoverStart
  infer_instance

instance : Prog.Keeps (TouchesOnly c.operationId) (recoverAdopt now snapshot c) := by
  have h_settle (intended : String) : Prog.Keeps (TouchesOnly c.operationId)
      (match c.adoptedAgent intended snapshot with
        | none => return false
        | some agent => do
          let r ← Prog.attempt (acceptAdoptReady now c.operationId c.incarnationId agent)
          match r with
          | .ok () => return true
          | .error _ => return false : Prog Store StoreError Bool) := by
    split
    · infer_instance
    · refine @Prog.Keeps.bind _ _ _ _ _ _ _ _ inferInstance fun r => ?_
      split <;> infer_instance
  unfold recoverAdopt
  infer_instance

instance : Prog.Keeps (TouchesOnly c.operationId) (recoverUnknown now c) := by
  unfold recoverUnknown
  infer_instance

instance : Prog.Keeps (TouchesOnly c.operationId) (recoverUnattempted now c report) := by
  unfold recoverUnattempted
  infer_instance

instance : Prog.Keeps (TouchesOnly c.operationId) (recoverCandidate now snapshot report c) := by
  unfold recoverCandidate
  dsimp only
  infer_instance

end Frames

-- ============================================================================
-- Verdicts
-- ============================================================================

/-- The agent of the snapshot that proves what the candidate set out to do. -/
def RecoveryCandidate.ProvedBy (c : RecoveryCandidate) (snapshot : Snapshot)
    (agent : AgentObservation) : Prop :=
  (c.kind = .start ∧ ∃ intent, c.intent = .start intent ∧
    c.startedAgent intent snapshot = some agent) ∨
  (c.kind = .adopt ∧ ∃ intended, c.intent.adoptIntendedName = .ok intended ∧
    c.adoptedAgent intended snapshot = some agent)

/-- What becomes of the operation of a candidate. -/
inductive Verdict (c : RecoveryCandidate) (snapshot : Snapshot) (s s' : Store) : Prop where
  | vanished (h_kind : c.kind = .retire) (h_absent : ¬ snapshot.Occupied c.paneId c.terminalId)
      (h_retired : ∃ i ∈ s'.incarnations, i.id = c.incarnationId ∧ i.state = .retired)
      (h : ∀ o, s.operations.find c.operationId = some o → o.outcome = .accepted →
        EndsAs c.operationId .succeeded s s')
  | occupied (h_kind : c.kind = .retire) (h_live : snapshot.Occupied c.paneId c.terminalId)
      (h : s'.operations = s.operations)
  | unsent (h_kind : c.kind = .clear) (h_attempted : c.attempted = false)
      (h : EndsAs c.operationId .failed s s')
  | untouched (h_kind : c.kind ≠ .retire) (h_attempted : c.attempted = false)
      (h_clear : c.kind = .clear → ∀ o, s.operations.find c.operationId = some o →
        o.kind = .clear → o.outcome = .pending → s.Submitted c.operationId)
      (h : s'.operations = s.operations)
  | proved (h_attempted : c.attempted = true) {agent : AgentObservation}
      (h_agent : c.ProvedBy snapshot agent) (h : Proves c.operationId c.incarnationId agent s s')
  | unknown (h_kind : c.kind ≠ .retire) (h_attempted : c.attempted = true)
      (h : EndsAs c.operationId .unknown s s')

theorem recoverStart_ok {started : Bool}
    (h : (recoverStart now snapshot c).run s = (.ok started, s')) :
    (started = true ∧ ∃ intent agent, c.intent = .start intent ∧
      c.startedAgent intent snapshot = some agent ∧
      Proves c.operationId c.incarnationId agent s s') ∨ (started = false ∧ s' = s) := by
  unfold recoverStart at h
  obtain ⟨intent, s₁, h_read, h_settle⟩ := Prog.run_bind_ok.mp h
  obtain ⟨h_intent, rfl⟩ := Prog.run_ofExcept_ok.mp h_read
  have h_start : c.intent = .start intent := by
    cases h_c : c.intent with
    | start intent' =>
      rw [h_c] at h_intent
      cases h_intent
      rfl
    | _ =>
      rw [h_c] at h_intent
      cases h_intent
  cases h_agent : c.startedAgent intent snapshot with
  | none =>
    rw [h_agent] at h_settle
    obtain ⟨rfl, rfl⟩ := Prog.run_pure_ok.mp h_settle
    exact .inr ⟨rfl, rfl⟩
  | some agent =>
    rw [h_agent] at h_settle
    obtain ⟨r, s₂, h_attempt, h_end⟩ := Prog.run_bind_ok.mp h_settle
    rcases Prog.run_attempt_ok h_attempt with ⟨u, rfl, h_run⟩ | ⟨e, rfl, rfl⟩
    · obtain ⟨rfl, rfl⟩ := Prog.run_pure_ok.mp h_end
      exact .inl ⟨rfl, intent, agent, h_start, h_agent, acceptStartReady_proves h_run⟩
    · cases e with
      | conflict message =>
        obtain ⟨rfl, rfl⟩ := Prog.run_pure_ok.mp h_end
        exact .inr ⟨rfl, rfl⟩
      | sql e => cases h_end
      | invalidRecord message => cases h_end

theorem recoverAdopt_ok {adopted : Bool}
    (h : (recoverAdopt now snapshot c).run s = (.ok adopted, s')) :
    (adopted = true ∧ ∃ intended agent, c.intent.adoptIntendedName = .ok intended ∧
      c.adoptedAgent intended snapshot = some agent ∧
      Proves c.operationId c.incarnationId agent s s') ∨ (adopted = false ∧ s' = s) := by
  unfold recoverAdopt at h
  obtain ⟨intended, s₁, h_read, h_settle⟩ := Prog.run_bind_ok.mp h
  obtain ⟨h_intended, rfl⟩ := Prog.run_ofExcept_ok.mp h_read
  cases h_agent : c.adoptedAgent intended snapshot with
  | none =>
    rw [h_agent] at h_settle
    obtain ⟨rfl, rfl⟩ := Prog.run_pure_ok.mp h_settle
    exact .inr ⟨rfl, rfl⟩
  | some agent =>
    rw [h_agent] at h_settle
    obtain ⟨r, s₂, h_attempt, h_end⟩ := Prog.run_bind_ok.mp h_settle
    rcases Prog.run_attempt_ok h_attempt with ⟨u, rfl, h_run⟩ | ⟨e, rfl, rfl⟩
    · obtain ⟨rfl, rfl⟩ := Prog.run_pure_ok.mp h_end
      exact .inl ⟨rfl, intended, agent, h_intended, h_agent, acceptAdoptReady_proves h_run⟩
    · obtain ⟨rfl, rfl⟩ := Prog.run_pure_ok.mp h_end
      exact .inr ⟨rfl, rfl⟩

theorem recoverUnknown_ok {u : Unit} (h : (recoverUnknown now c).run s = (.ok u, s')) :
    EndsAs c.operationId .unknown s s' := by
  unfold recoverUnknown at h
  dsimp only at h
  split at h
  · obtain ⟨delay, s₁, h_delay, h⟩ := Prog.run_bind_ok.mp h
    obtain ⟨-, rfl⟩ := Prog.run_ofExcept_ok.mp h_delay
    obtain ⟨_, s₂, h_mark, h⟩ := Prog.run_bind_ok.mp h
    have h_rest : Over Tab.operations Table.Same s₂ s' := by
      obtain ⟨_, s₃, h_notice, h⟩ := Prog.run_bind_ok.mp h
      obtain ⟨-, rfl⟩ := Prog.run_pure_ok.mp h
      exact Keeps.keeps (Prog.run_atomically_ok.mp h_notice)
    exact (markClearUnknown_endsAs (Prog.run_atomically_ok.mp h_mark)).after h_rest
  · obtain ⟨_, s₂, h_mark, h⟩ := Prog.run_bind_ok.mp h
    have h_rest : Over Tab.operations Table.Same s₂ s' := by
      split at h
      · obtain ⟨_, s₃, h_notice, h⟩ := Prog.run_bind_ok.mp h
        obtain ⟨-, rfl⟩ := Prog.run_pure_ok.mp h
        exact Keeps.keeps (Prog.run_atomically_ok.mp h_notice)
      · obtain ⟨-, rfl⟩ := Prog.run_pure_ok.mp h
        exact Stepwise.refl s₂
    exact (markUnknownWithClearSpacing_endsAs (Prog.run_atomically_ok.mp h_mark)).after h_rest

theorem recoverUnattempted_ok (h_kind : c.kind ≠ .retire) (h_attempted : c.attempted = false)
    (h : (recoverUnattempted now c report).run s = (.ok report', s')) :
    Verdict c snapshot s s' := by
  unfold recoverUnattempted at h
  dsimp only at h
  rw [Prog.run_ite_bind] at h
  obtain ⟨failed, s₁, h_fail, h⟩ := Prog.run_bind_ok.mp h
  split at h_fail
  · rename_i h_clear
    obtain ⟨h_failed, h_not⟩ := failUnattemptedClear_endsAs (Prog.run_atomically_ok.mp h_fail)
    cases failed with
    | true =>
      rw [if_pos rfl] at h
      obtain ⟨_, s₂, h_notice, h⟩ := Prog.run_bind_ok.mp h
      obtain ⟨-, rfl⟩ := Prog.run_pure_ok.mp h
      have h_rest : Over Tab.operations Table.Same s₁ s₂ :=
        Keeps.keeps (Prog.run_atomically_ok.mp h_notice)
      exact .unsent h_clear h_attempted ((h_failed rfl).after h_rest)
    | false =>
      rw [if_neg Bool.false_ne_true] at h
      obtain ⟨-, rfl⟩ := Prog.run_pure_ok.mp h
      exact .untouched h_kind h_attempted (fun _ => (h_not rfl).2) (h_not rfl).1
  · rename_i h_clear
    obtain ⟨rfl, rfl⟩ := Prog.run_pure_ok.mp h_fail
    rw [if_neg Bool.false_ne_true] at h
    obtain ⟨-, rfl⟩ := Prog.run_pure_ok.mp h
    exact .untouched h_kind h_attempted (fun h_kind' => absurd h_kind' h_clear) rfl

/-- Every candidate that recovery gets through has its verdict. -/
theorem recoverCandidate_ok
    (h : (recoverCandidate now snapshot report c).run s = (.ok report', s')) :
    Verdict c snapshot s s' := by
  unfold recoverCandidate at h
  split at h
  · rename_i h_kind
    obtain ⟨completed, s₁, h_retire, h⟩ := Prog.run_bind_ok.mp h
    have h_same : s' = s₁ := by
      split at h <;> exact (Prog.run_pure_ok.mp h).2.symm
    subst h_same
    rcases reconcileRetirement_cases (Prog.run_atomically_ok.mp h_retire) with
      ⟨-, h_live, rfl⟩ | ⟨-, h_absent, h_retired, h_ends⟩
    · exact .occupied h_kind h_live rfl
    · exact .vanished h_kind h_absent h_retired h_ends
  · rename_i h_kind
    split at h
    · rename_i h_attempted
      exact recoverUnattempted_ok h_kind h_attempted h
    · rename_i h_attempted
      rw [Bool.not_eq_false] at h_attempted
      dsimp only at h
      rw [Prog.run_ite_bind] at h
      obtain ⟨started, s₁, h_start, h_rest⟩ := Prog.run_bind_ok.mp h
      have h_started : (started = true ∧ ∃ agent, c.ProvedBy snapshot agent ∧
          Proves c.operationId c.incarnationId agent s s₁) ∨ (started = false ∧ s₁ = s) := by
        split at h_start
        · rename_i h_start_kind
          exact (recoverStart_ok h_start).imp_left fun ⟨h_true, intent, agent, h_intent, h_agent,
            h_proves⟩ => ⟨h_true, agent, .inl ⟨h_start_kind, intent, h_intent, h_agent⟩, h_proves⟩
        · obtain ⟨rfl, rfl⟩ := Prog.run_pure_ok.mp h_start
          exact .inr ⟨rfl, rfl⟩
      rcases h_started with ⟨rfl, agent, h_agent, h_proves⟩ | ⟨rfl, rfl⟩
      · rw [if_pos rfl] at h_rest
        obtain ⟨-, rfl⟩ := Prog.run_pure_ok.mp h_rest
        exact .proved h_attempted h_agent h_proves
      · rw [if_neg Bool.false_ne_true, Prog.run_ite_bind] at h_rest
        obtain ⟨adopted, s₂, h_adopt, h_last⟩ := Prog.run_bind_ok.mp h_rest
        have h_adopted : (adopted = true ∧ ∃ agent, c.ProvedBy snapshot agent ∧
            Proves c.operationId c.incarnationId agent s₁ s₂) ∨ (adopted = false ∧ s₂ = s₁) := by
          split at h_adopt
          · rename_i h_adopt_kind
            exact (recoverAdopt_ok h_adopt).imp_left fun ⟨h_true, intended, agent, h_intended,
              h_agent, h_proves⟩ =>
              ⟨h_true, agent, .inr ⟨h_adopt_kind, intended, h_intended, h_agent⟩, h_proves⟩
          · obtain ⟨rfl, rfl⟩ := Prog.run_pure_ok.mp h_adopt
            exact .inr ⟨rfl, rfl⟩
        rcases h_adopted with ⟨rfl, agent, h_agent, h_proves⟩ | ⟨rfl, rfl⟩
        · rw [if_pos rfl] at h_last
          obtain ⟨-, rfl⟩ := Prog.run_pure_ok.mp h_last
          exact .proved h_attempted h_agent h_proves
        · rw [if_neg Bool.false_ne_true] at h_last
          obtain ⟨_, s₃, h_unknown, h_end⟩ := Prog.run_bind_ok.mp h_last
          obtain ⟨-, rfl⟩ := Prog.run_pure_ok.mp h_end
          exact .unknown h_kind h_attempted (recoverUnknown_ok h_unknown)

end Kelpie
