/-
  Kelpie.Bindings.Continuation

  One pass that continues lost agents onto restored occupants: what it adds to
  the roster, and when it keeps one Ready incarnation for each agent and for
  each exact pane and terminal.
-/

import Kelpie.Bindings.Presence

namespace Kelpie

open Lib Lib.Tx Roster

variable {s s' : Store} {now : Millis} {snapshot : Snapshot}

-- ============================================================================
-- The continuations of one pass
-- ============================================================================

/-- The seat that a continuation binds. -/
def Continuation.seat (c : Continuation) : Option String × Option String :=
  (some c.agent.paneId, some c.agent.terminalId)

/-- The agent that a continuation binds. -/
def Continuation.agentId (c : Continuation) : LogicalAgentId := c.source.agent.id

namespace Store

/-- The continuation of one live native session. -/
def sessionContinuation (s : Store) (snapshot : Snapshot) (session : String) :
    Option Continuation :=
  match s.judgeSession snapshot session with
  | .continues c => some c
  | _ => none

/-- The agents that recovery binds again by the session that they are seen in. -/
def sessionContinuations (s : Store) (snapshot : Snapshot) : List Continuation :=
  snapshot.liveSessions.filterMap (s.sessionContinuation snapshot)

/-- The continuation of one recorded seat. -/
def seatContinuation (s : Store) (snapshot : Snapshot) (row : Occupancy) :
    Option Continuation :=
  s.continueSeat snapshot ((s.sessionContinuations snapshot).map (·.source.agent.id)) row

/-- The agents that recovery binds again by the seat that they sit on. -/
def seatContinuations (s : Store) (snapshot : Snapshot) : List Continuation :=
  s.continuableSeatRows.filterMap (s.seatContinuation snapshot)

/-- All that one pass would continue. -/
def pendingContinuations (s : Store) (snapshot : Snapshot) : List Continuation :=
  s.sessionContinuations snapshot ++ s.seatContinuations snapshot

/-- Nothing refuses the continuation. -/
def Admits (s : Store) (snapshot : Snapshot) (c : Continuation) : Prop :=
  s.refuseContinuation (s.pendingContinuations snapshot) c = none

instance (s : Store) (snapshot : Snapshot) : DecidablePred (s.Admits snapshot) := fun c =>
  inferInstanceAs
    (Decidable (s.refuseContinuation (s.pendingContinuations snapshot) c = none))

/-- What one pass does continue. -/
def continuations (s : Store) (snapshot : Snapshot) : List Continuation :=
  (s.pendingContinuations snapshot).filter (s.Admits snapshot)

end Store

-- ============================================================================
-- Effect of one pass
-- ============================================================================

/-- The incarnation that a continuation adds. -/
structure Continuation.Binds (c : Continuation) (i : IncarnationRow) : Prop where
  ready : i.state = .ready
  agent : i.logicalAgentId = c.agentId
  seat : i.seat = c.seat
  pending : i.pendingRenameTo = none

/-- The continuations `cs` are bound, and no agent changes its name. -/
structure Continued (cs : List Continuation) (s s' : Store) : Prop where
  incarnations : ∃ rows, s.incarnations.AddsAll rows s'.incarnations ∧
    List.Forall₂ Continuation.Binds cs rows
  agents : s.logicalAgents.Edits Noted s'.logicalAgents

/-- Every row that is added stems from a continuation. -/
theorem binds_source {cs : List Continuation} {rows : List IncarnationRow}
    (h : List.Forall₂ Continuation.Binds cs rows) {i : IncarnationRow} (h_i : i ∈ rows) :
    ∃ c ∈ cs, c.Binds i := by
  obtain ⟨n, h_n, rfl⟩ := List.getElem_of_mem h_i
  have h_n' : n < cs.length := by rwa [h.length_eq]
  exact ⟨cs[n], List.getElem_mem h_n', h.get h_n' h_n⟩

theorem Continued.of_sameRoster (h : SameRoster s s') : Continued [] s s' where
  incarnations := by
    refine ⟨[], ?_, .nil⟩
    rw [show s'.incarnations = s.incarnations from congrArg Roster.incarnations h]
    exact .nil
  agents := by
    rw [show s'.logicalAgents = s.logicalAgents from congrArg Roster.agents h]
    exact .refl (fun _ => .rfl) _

theorem Continued.append {cs ds : List Continuation} {a b c : Store} (h : Continued cs a b)
    (h' : Continued ds b c) : Continued (cs ++ ds) a c where
  incarnations := by
    obtain ⟨rows, h_rows, h_binds⟩ := h.incarnations
    obtain ⟨rows', h_rows', h_binds'⟩ := h'.incarnations
    exact ⟨rows ++ rows', h_rows.append h_rows', List.rel_append h_binds h_binds'⟩
  agents := h.agents.trans h'.agents fun _ _ _ => Noted.trans

theorem continueSession_run {session : String} {r : Option Continuation} {t t' : Store}
    (h : (continueSession now s snapshot session).run t = .ok (r, t')) :
    r = s.sessionContinuation snapshot session ∧ SameRoster t t' := by
  unfold continueSession at h
  unfold Store.sessionContinuation
  cases h_verdict : s.judgeSession snapshot session with
  | skip =>
    rw [h_verdict] at h
    cases h
    exact ⟨rfl, rfl⟩
  | continues c =>
    rw [h_verdict] at h
    cases h
    exact ⟨rfl, rfl⟩
  | ambiguous =>
    rw [h_verdict] at h
    obtain ⟨_, t₁, h_notice, h⟩ := run_bind_ok.mp h
    cases h
    exact ⟨rfl, Keeps.keeps h_notice⟩

theorem forEach_continueSession {sessions : List String} {judged : List (Option Continuation)}
    {t t' : Store}
    (h : (forEach sessions (continueSession now s snapshot)).run t = .ok (judged, t')) :
    judged.filterMap id = sessions.filterMap (s.sessionContinuation snapshot) ∧
      SameRoster t t' := by
  induction sessions generalizing t judged with
  | nil =>
    cases h
    exact ⟨rfl, rfl⟩
  | cons session sessions ih =>
    simp only [forEach] at h
    obtain ⟨r, t₁, h_one, h⟩ := run_bind_ok.mp h
    obtain ⟨rs, t₂, h_rest, h⟩ := run_bind_ok.mp h
    cases h
    obtain ⟨h_r, h_same⟩ := continueSession_run h_one
    obtain ⟨h_rs, h_same'⟩ := ih h_rest
    refine ⟨?_, SameRoster.stepwise.trans h_same h_same'⟩
    rw [List.filterMap_cons, List.filterMap_cons, h_rs, h_r]
    rfl

/-- A new incarnation is added to the roster; its agent leaves the archive. -/
theorem insertIncarnation_run {row : IncarnationId → IncarnationRow}
    {h_row : ∀ n, (row n).id = n} {id : IncarnationId} {t t' : Store}
    (h : (insertIncarnation row h_row).run t = .ok (id, t')) :
    t.incarnations.Adds (some (row id)) t'.incarnations ∧
      t.logicalAgents.Edits Noted t'.logicalAgents ∧
      t' = { t with incarnations := t'.incarnations, logicalAgents := t'.logicalAgents } := by
  simp only [insertIncarnation] at h
  obtain ⟨_, t₁, h_append, h⟩ := run_bind_ok.mp h
  obtain ⟨_, t₂, h_clear, h⟩ := run_bind_ok.mp h
  cases h
  simp only [run_appendRow, Except.ok.injEq, Prod.mk.injEq] at h_append
  obtain ⟨rfl, rfl⟩ := h_append
  obtain ⟨ls, rfl, h_ls⟩ := run_updateRows_edits Noted h_clear
    (fun _ _ _ => ⟨rfl, rfl, rfl, id⟩) fun _ _ _ => .rfl
  exact ⟨Table.adds_append h_row, h_ls, rfl⟩

theorem continueOnto_run {pending : List Continuation} {c : Continuation} {b : Bool}
    {t t' : Store} (h : (continueOnto now s pending c).run t = .ok (b, t')) :
    Continued ([c].filter fun c => s.refuseContinuation pending c = none) t t' := by
  unfold continueOnto at h
  split at h
  · rename_i refusal h_refusal
    obtain ⟨_, t₁, h_notice, h⟩ := run_bind_ok.mp h
    cases h
    rw [List.filter_cons_of_neg (by simp [h_refusal])]
    exact .of_sameRoster (Keeps.keeps h_notice)
  · rename_i h_refusal
    obtain ⟨id, t₁, h_insert, h⟩ := run_bind_ok.mp h
    obtain ⟨_, t₂, h_notice, h⟩ := run_bind_ok.mp h
    cases h
    rw [List.filter_cons_of_pos (by simp [h_refusal])]
    obtain ⟨h_adds, h_noted, -⟩ := insertIncarnation_run h_insert
    have h_bound : Continued [c] t t₁ :=
      ⟨⟨_, .cons h_adds .nil, .cons ⟨rfl, rfl, rfl, rfl⟩ .nil⟩, h_noted⟩
    exact h_bound.append (.of_sameRoster (Keeps.keeps h_notice))

theorem forEach_continueOnto {pending cs : List Continuation} {done : List Bool} {t t' : Store}
    (h : (forEach cs (continueOnto now s pending)).run t = .ok (done, t')) :
    Continued (cs.filter fun c => s.refuseContinuation pending c = none) t t' := by
  induction cs generalizing t done with
  | nil =>
    cases h
    exact .of_sameRoster rfl
  | cons c cs ih =>
    simp only [forEach] at h
    obtain ⟨_, t₁, h_one, h⟩ := run_bind_ok.mp h
    obtain ⟨_, t₂, h_rest, h⟩ := run_bind_ok.mp h
    cases h
    rw [← List.singleton_append, List.filter_append]
    exact (continueOnto_run h_one).append (ih h_rest)

/-- One pass binds its continuations. -/
theorem continueRestoredOccupants_run {n : Nat}
    (h : (continueRestoredOccupants now snapshot).run s = .ok (n, s')) :
    Continued (s.continuations snapshot) s s' := by
  simp only [continueRestoredOccupants, run_bind_reads] at h
  split at h
  · -- No row could be continued.
    rename_i h_none
    cases h
    have h_session : s.lastByAgent = [] := List.isEmpty_iff.mp h_none.1
    have h_seat : s.continuableSeatRows = [] := List.isEmpty_iff.mp h_none.2
    have h_matches : ∀ session, s.sessionContinuation snapshot session = none := by
      intro session
      have h_empty : s.sessionMatches session = [] := by
        simp [Store.sessionMatches, h_session]
      unfold Store.sessionContinuation Store.judgeSession
      rw [h_empty]
      split <;> simp_all
    have h_pending : s.pendingContinuations snapshot = [] := by
      unfold Store.pendingContinuations Store.sessionContinuations Store.seatContinuations
      rw [h_seat, List.filterMap_nil, List.append_nil,
        List.filterMap_eq_nil_iff]
      exact fun session _ => h_matches session
    rw [Store.continuations, h_pending]
    exact .of_sameRoster rfl
  · obtain ⟨judged, s₁, h_judge, h⟩ := run_bind_ok.mp h
    obtain ⟨done, s₂, h_onto, h⟩ := run_bind_ok.mp h
    cases h
    obtain ⟨h_judged, h_same⟩ := forEach_continueSession h_judge
    have h_onto := forEach_continueOnto h_onto
    rw [h_judged] at h_onto
    exact (Continued.of_sameRoster h_same).append h_onto

end Kelpie
