/-
  Kelpie.Bindings.Seats

  Which agent a seat is continued for: the decision that lazy adoption from a
  calling pane rests on, and when it fails closed.
-/

import Kelpie.Slice.Reads
import Kelpie.Store.Calls

namespace Kelpie

open Lib Lib.Tx

-- ============================================================================
-- The decision
-- ============================================================================

/-- A state from which the incarnation of a seat may be continued. -/
def IncarnationState.Continues (state : IncarnationState) : Prop :=
  state = .lost ∨ state = .unknown ∨ state = .declared ∨ state = .failed

instance : DecidablePred IncarnationState.Continues := fun state => by
  unfold IncarnationState.Continues
  infer_instance

/-- The incarnation was observed on the seat. -/
def IncarnationRow.ObservedOn (paneId terminalId : String) (i : IncarnationRow) : Prop :=
  i.observedPaneId = some paneId ∧ i.observedTerminalId = some terminalId

instance (paneId terminalId : String) :
    DecidablePred (IncarnationRow.ObservedOn paneId terminalId) := fun i =>
  inferInstanceAs (Decidable (i.observedPaneId = some paneId ∧
    i.observedTerminalId = some terminalId))

/-- `state NOT IN ('ready', 'retiring', 'retired', 'superseded')`. -/
def IncarnationState.Occupies (state : IncarnationState) : Prop :=
  state ≠ .ready ∧ state ≠ .retiring ∧ state ≠ .retired ∧ state ≠ .superseded

instance : DecidablePred IncarnationState.Occupies := fun state => by
  unfold IncarnationState.Occupies
  infer_instance

/-- What may still occupy the seat, newest first. -/
def Store.seatOccupants (s : Store) (paneId terminalId : String) : List IncarnationRow :=
  (s.incarnations.rows.filter fun i =>
    i.ObservedOn paneId terminalId ∧ i.state.Occupies).insertionSort fun i j => ¬ i.OlderThan j

/-- Find the unique continuable logical agent for one live binding. -/
def continuableLogicalAgentForBinding (paneId terminalId : String) :
    Query (Option LogicalAgentId) := fun s =>
  let occupants := s.seatOccupants paneId terminalId
  match (occupants.map (·.logicalAgentId)).eraseDups with
  | [] => .ok none
  | [id] =>
    if ∃ i ∈ occupants, i.state.Continues then .ok (some id)
    else .error (.conflict
      (s!"pane {paneId} terminal {terminalId} has agent {id} but not a lost, unknown, " ++
        "declared, or failed incarnation; adopt --logical-id to continue " ++
        "it, or adopt the live occupant as a new agent"))
  | ids => .error (.conflict
      (s!"pane {paneId} terminal {terminalId} has {ids.length} continuable logical agents; " ++
        "all candidates match that recorded seat (newest incarnation first): " ++
        ", ".intercalate (ids.map toString) ++ "; " ++
        "adopt --logical-id to continue the intended one"))

-- ============================================================================
-- Lazy adoption from a calling pane
-- ============================================================================

/-- Failures of an adoption: the store's own, and a live state that conflicts. -/
inductive AdoptError where
  | store (e : StoreError)
  | liveConflict (message : String)
deriving DecidableEq, Repr

/-- An error of the store, as the adoption reports it. -/
def AdoptError.ofStore {α : Type} (x : Except StoreError α) : Except AdoptError α :=
  x.mapError .store

/-- The name under which a continued agent is adopted: its own, unless the occupant shows
    another. -/
def continuedName (paneId : String) (agent : AgentObservation) (logicalAgentId : LogicalAgentId)
    (recorded : String) : Except AdoptError (Option String) :=
  match agent.name with
  | none => .ok (some recorded)
  | some live =>
    if live ≠ "" ∧ live ≠ recorded then
      .error (.liveConflict
        (s!"pane {paneId} live name {live} does not match continuable agent " ++
          s!"{logicalAgentId} alias {recorded}; adopt --logical-id {logicalAgentId} to " ++
          s!"continue that agent, or adopt --pane {paneId} --terminal {agent.terminalId} " ++
          s!"--name {live} to bind the live occupant as a new agent"))
    else .ok (some recorded)

/-- The one live agent of the pane. -/
def paneAgent (paneId : String) (snapshot : Snapshot) : Except AdoptError AgentObservation :=
  match snapshot.agents.filter (·.paneId = paneId) with
  | [agent] =>
    if agent.agent.getD "" = "" then
      .error (.liveConflict s!"pane {paneId} live agent has no backend kind")
    else .ok agent
  | [] => .error (.liveConflict
      (s!"pane {paneId} has no live agent to identify; start an agent there, then run " ++
        "kelpie who again"))
  | agents => .error (.liveConflict
      s!"pane {paneId} has {agents.length} live agents; expected exactly one")

/-- The adoption that `pane_adopt_after_snapshot` decides on. -/
def paneAdoptIntent (paneId idempotencyKey : String) (snapshot : Snapshot) (s : Store) :
    Except AdoptError AdoptIntent := do
  let agent ← paneAgent paneId snapshot
  let continuable ← AdoptError.ofStore
    (continuableLogicalAgentForBinding paneId agent.terminalId s)
  let publicName ← match continuable with
    | none => .ok none
    | some logicalAgentId => do
      let recorded ← AdoptError.ofStore (agentAddress logicalAgentId s)
      continuedName paneId agent logicalAgentId recorded
  return { paneId, expectedTerminalId := agent.terminalId, publicName,
           logicalAgentId := continuable, herdrSession := "default", idempotencyKey }

/-- Adopt the one live agent of the pane; what follows the decision is `adopt`. -/
def paneAdoptAfterSnapshot {α : Type} (adopt : AdoptIntent → Tx Store AdoptError α)
    (paneId idempotencyKey : String) (snapshot : Snapshot) : Tx Store AdoptError α := do
  adopt (← query (paneAdoptIntent paneId idempotencyKey snapshot))

-- ============================================================================
-- What the decision says
-- ============================================================================

/-- The incarnation is recorded on the seat: it was observed there, or it is intended there
    and was observed nowhere yet. -/
def IncarnationRow.RecordedOn (paneId terminalId : String) (i : IncarnationRow) : Prop :=
  i.ObservedOn paneId terminalId ∨ (i.observedPaneId = none ∧ i.observedTerminalId = none ∧
    i.intendedPaneId = paneId ∧ i.expectedTerminalId = terminalId)

instance (paneId terminalId : String) :
    DecidablePred (IncarnationRow.RecordedOn paneId terminalId) := fun i => by
  unfold IncarnationRow.RecordedOn
  infer_instance

/-- No adoption from the pane binds anything while its live agent is on the terminal. -/
def Store.AdoptsNothing (s : Store) (paneId terminalId : String) : Prop :=
  ∀ (α : Type) (adopt : AdoptIntent → Tx Store AdoptError α) (idempotencyKey : String)
    (snapshot : Snapshot) (agent : AgentObservation),
    snapshot.agents.filter (·.paneId = paneId) = [agent] → agent.terminalId = terminalId →
    ∃ e, (paneAdoptAfterSnapshot adopt paneId idempotencyKey snapshot).run s = .error e

/-- The seat is continued for the one agent that it may be continued for, where `on` says
    which of the settled incarnations are on it. -/
structure Store.SeatFailsClosed (s : Store) (paneId terminalId : String)
    (on : IncarnationRow → Prop) : Prop where
  closed :
    (∃ i ∈ s.incarnations, i.state = .starting ∧ i.RecordedOn paneId terminalId) ∨
      (∃ i ∈ s.incarnations, ∃ j ∈ s.incarnations, i.state.Continues ∧ on i ∧
        j.state.Continues ∧ on j ∧ i.logicalAgentId ≠ j.logicalAgentId) →
    (∃ message, continuableLogicalAgentForBinding paneId terminalId s =
      .error (.conflict message)) ∧ s.AdoptsNothing paneId terminalId
  continues : ∀ agent, continuableLogicalAgentForBinding paneId terminalId s = .ok (some agent) →
    (∃ i ∈ s.incarnations, i.state.Continues ∧ on i) ∧
      ∀ i ∈ s.incarnations, i.state.Continues → on i → i.logicalAgentId = agent
  mints : continuableLogicalAgentForBinding paneId terminalId s = .ok none →
    ∀ i ∈ s.incarnations, i.state.Continues → ¬ on i

/-- The incarnation may occupy the seat that it was observed on. -/
def IncarnationRow.Occupies (paneId terminalId : String) (i : IncarnationRow) : Prop :=
  i.ObservedOn paneId terminalId ∧ i.state.Occupies

section Decision

variable {s : Store} {paneId terminalId : String}

theorem Store.mem_seatOccupants {i : IncarnationRow} :
    i ∈ s.seatOccupants paneId terminalId ↔
      i ∈ s.incarnations ∧ i.Occupies paneId terminalId := by
  rw [seatOccupants, List.mem_insertionSort, List.mem_filter, decide_eq_true_eq]
  exact .rfl

theorem IncarnationState.occupies_iff {state : IncarnationState} :
    state.Occupies ↔ state.Continues ∨ state = .starting := by
  cases state <;> decide

/-- The occupants of the seat are of more than one agent. -/
def Store.SeatContested (s : Store) (paneId terminalId : String) : Prop :=
  ∃ i ∈ s.incarnations, ∃ j ∈ s.incarnations, i.Occupies paneId terminalId ∧
    j.Occupies paneId terminalId ∧ i.logicalAgentId ≠ j.logicalAgentId

/-- The seat has occupants, and each of them is starting. -/
def Store.SeatStarting (s : Store) (paneId terminalId : String) : Prop :=
  (∃ i ∈ s.incarnations, i.Occupies paneId terminalId) ∧
    ∀ i ∈ s.incarnations, i.Occupies paneId terminalId → i.state = .starting

/-- The first two of the distinct elements of a list differ. -/
theorem eraseDups_head_ne {l ids : List LogicalAgentId} {a b : LogicalAgentId}
    (h : l.eraseDups = a :: b :: ids) : a ≠ b := by
  cases l with
  | nil => cases h
  | cons x l =>
    rw [List.eraseDups_cons] at h
    obtain ⟨rfl, h_rest⟩ := List.cons.inj h
    have h_mem : b ∈ (l.filter fun y => !y == x).eraseDups := h_rest ▸ List.mem_cons_self
    have h_ne := List.of_mem_filter (List.mem_eraseDups.mp h_mem)
    intro h_eq
    rw [h_eq, beq_self_eq_true] at h_ne
    cases h_ne

/-- The three answers, each with what the seat holds. -/
theorem continuable_cases (s : Store) (paneId terminalId : String) :
    (continuableLogicalAgentForBinding paneId terminalId s = .ok none ∧
      ∀ i ∈ s.incarnations, ¬ i.Occupies paneId terminalId) ∨
    (∃ agent, continuableLogicalAgentForBinding paneId terminalId s = .ok (some agent) ∧
      (∃ i ∈ s.incarnations, i.Occupies paneId terminalId ∧ i.state.Continues) ∧
      ∀ i ∈ s.incarnations, i.Occupies paneId terminalId → i.logicalAgentId = agent) ∨
    ((∃ message, continuableLogicalAgentForBinding paneId terminalId s =
      .error (.conflict message)) ∧
      (s.SeatContested paneId terminalId ∨ s.SeatStarting paneId terminalId)) := by
  have h_agent {id : LogicalAgentId} :
      id ∈ ((s.seatOccupants paneId terminalId).map (·.logicalAgentId)).eraseDups ↔
        ∃ i ∈ s.incarnations, i.Occupies paneId terminalId ∧ i.logicalAgentId = id := by
    rw [List.mem_eraseDups, List.mem_map]
    refine exists_congr fun i => ?_
    rw [Store.mem_seatOccupants, and_assoc]
  unfold continuableLogicalAgentForBinding
  dsimp only
  split <;> rename_i h_ids
  · left
    refine ⟨rfl, fun i h_i h_occupies => ?_⟩
    have h_mem := h_agent.mpr ⟨i, h_i, h_occupies, rfl⟩
    rw [h_ids] at h_mem
    exact List.not_mem_nil h_mem
  · rename_i id
    right
    have h_all (i : IncarnationRow) (h_i : i ∈ s.incarnations)
        (h_occupies : i.Occupies paneId terminalId) : i.logicalAgentId = id := by
      have h_mem := h_agent.mpr ⟨i, h_i, h_occupies, rfl⟩
      rw [h_ids] at h_mem
      exact List.mem_singleton.mp h_mem
    split
    · rename_i h_continues
      obtain ⟨i, h_i, h_continues⟩ := h_continues
      obtain ⟨h_i, h_occupies⟩ := Store.mem_seatOccupants.mp h_i
      exact .inl ⟨id, rfl, ⟨i, h_i, h_occupies, h_continues⟩, h_all⟩
    · rename_i h_none
      refine .inr ⟨⟨_, rfl⟩, .inr ⟨?_, fun i h_i h_occupies => ?_⟩⟩
      · obtain ⟨i, h_i, h_occupies, -⟩ := h_agent.mp (h_ids ▸ List.mem_singleton_self id)
        exact ⟨i, h_i, h_occupies⟩
      · refine (IncarnationState.occupies_iff.mp h_occupies.2).resolve_left fun h_continues => ?_
        exact h_none ⟨i, Store.mem_seatOccupants.mpr ⟨h_i, h_occupies⟩, h_continues⟩
  · rename_i h_nil
    refine .inr (.inr ⟨⟨_, rfl⟩, .inl ?_⟩)
    obtain ⟨a, b, rest, h_two⟩ : ∃ a b rest,
        ((s.seatOccupants paneId terminalId).map (·.logicalAgentId)).eraseDups =
          a :: b :: rest := by
      match h_eq : ((s.seatOccupants paneId terminalId).map (·.logicalAgentId)).eraseDups with
      | [] => exact (h_nil h_eq).elim
      | [id] => exact (h_ids id h_eq).elim
      | a :: b :: rest => exact ⟨a, b, rest, h_eq⟩
    obtain ⟨i, h_i, h_occupies, rfl⟩ := h_agent.mp (h_two ▸ List.mem_cons_self)
    obtain ⟨j, h_j, h_occupies', rfl⟩ :=
      h_agent.mp (h_two ▸ List.mem_cons_of_mem _ List.mem_cons_self)
    exact ⟨i, h_i, j, h_j, h_occupies, h_occupies', eraseDups_head_ne h_two⟩

/-- An adoption from the pane fails with the decision. -/
theorem Store.AdoptsNothing.of_conflict {message : String}
    (h : continuableLogicalAgentForBinding paneId terminalId s = .error (.conflict message)) :
    s.AdoptsNothing paneId terminalId := by
  intro α adopt key snapshot agent h_agent h_terminal
  have h_intent : ∃ e, paneAdoptIntent paneId key snapshot s = .error e := by
    unfold paneAdoptIntent paneAgent
    rw [h_agent]
    dsimp only
    split
    · exact ⟨_, rfl⟩
    · refine ⟨.store (.conflict message), ?_⟩
      show AdoptError.ofStore
        (continuableLogicalAgentForBinding paneId agent.terminalId s) >>= _ = _
      rw [h_terminal, h]
      rfl
  obtain ⟨e, h_intent⟩ := h_intent
  cases h_run : (paneAdoptAfterSnapshot adopt paneId key snapshot).run s with
  | error e' => exact ⟨e', rfl⟩
  | ok r =>
    obtain ⟨intent, h_ok, -⟩ := run_bind_query_ok.mp h_run
    rw [h_intent] at h_ok
    cases h_ok

/-- No incarnation that is starting is recorded on the seat, and what `on` counts beyond the
    observed occupants is of their agents. -/
def Store.SeatSettled (s : Store) (paneId terminalId : String) (on : IncarnationRow → Prop) :
    Prop :=
  (∀ i ∈ s.incarnations, i.state = .starting → ¬ i.RecordedOn paneId terminalId) ∧
    ∀ i ∈ s.incarnations, i.state.Continues → on i →
      ∃ j ∈ s.incarnations, j.state.Continues ∧ j.ObservedOn paneId terminalId ∧
        j.logicalAgentId = i.logicalAgentId

theorem IncarnationState.Continues.occupies {state : IncarnationState} (h : state.Continues) :
    state.Occupies := IncarnationState.occupies_iff.mpr (.inl h)

theorem Store.seatFailsClosed_iff {on : IncarnationRow → Prop}
    (h_on : ∀ i : IncarnationRow, i.ObservedOn paneId terminalId → on i) :
    s.SeatFailsClosed paneId terminalId on ↔
      s.SeatSettled paneId terminalId on ∨ s.SeatContested paneId terminalId ∨
        s.SeatStarting paneId terminalId := by
  have h_counted {i : IncarnationRow} (h_occupies : i.Occupies paneId terminalId) : on i :=
    h_on i h_occupies.1
  rcases continuable_cases s paneId terminalId with
    ⟨h_none, h_empty⟩ | ⟨agent, h_some, ⟨k, h_k, h_k_occupies, h_k_continues⟩, h_all⟩ |
      ⟨⟨message, h_conflict⟩, h_closed⟩
  · -- Nothing occupies the seat, so a new agent may be made.
    constructor
    · intro h
      refine .inl ⟨fun i h_i h_starting h_recorded => ?_, fun i h_i h_continues h_i_on => ?_⟩
      · obtain ⟨⟨message, h_conflict⟩, -⟩ := h.closed (.inl ⟨i, h_i, h_starting, h_recorded⟩)
        rw [h_none] at h_conflict
        cases h_conflict
      · exact absurd h_i_on (h.mints h_none i h_i h_continues)
    · rintro (⟨h_starting, h_companion⟩ | ⟨i, h_i, -, -, h_occupies, -⟩ | ⟨⟨i, h_i, h_occupies⟩, -⟩)
      · have h_unheld (i : IncarnationRow) (h_i : i ∈ s.incarnations)
            (h_continues : i.state.Continues) : ¬ on i := fun h_i_on => by
          obtain ⟨j, h_j, h_j_continues, h_observed, -⟩ := h_companion i h_i h_continues h_i_on
          exact h_empty j h_j ⟨h_observed, h_j_continues.occupies⟩
        refine ⟨?_, fun agent h_some => ?_, fun _ => h_unheld⟩
        · rintro (⟨i, h_i, h_state, h_recorded⟩ | ⟨i, h_i, -, -, h_continues, h_i_on, -⟩)
          · exact absurd h_recorded (h_starting i h_i h_state)
          · exact absurd h_i_on (h_unheld i h_i h_continues)
        · rw [h_none] at h_some
          cases h_some
      · exact absurd h_occupies (h_empty i h_i)
      · exact absurd h_occupies (h_empty i h_i)
  · -- One agent occupies the seat, and is continued.
    constructor
    · intro h
      refine .inl ⟨fun i h_i h_starting h_recorded => ?_, fun i h_i h_continues h_i_on => ?_⟩
      · obtain ⟨⟨message, h_conflict⟩, -⟩ := h.closed (.inl ⟨i, h_i, h_starting, h_recorded⟩)
        rw [h_some] at h_conflict
        cases h_conflict
      · have h_agent := (h.continues agent h_some).2 i h_i h_continues h_i_on
        exact ⟨k, h_k, h_k_continues, h_k_occupies.1,
          (h_all k h_k h_k_occupies).trans h_agent.symm⟩
    · rintro (⟨h_starting, h_companion⟩ | ⟨i, h_i, j, h_j, h_occupies, h_occupies', h_ne⟩ |
        ⟨-, h_starting⟩)
      · have h_agent (i : IncarnationRow) (h_i : i ∈ s.incarnations)
            (h_continues : i.state.Continues) (h_i_on : on i) : i.logicalAgentId = agent := by
          obtain ⟨j, h_j, h_j_continues, h_observed, h_same⟩ :=
            h_companion i h_i h_continues h_i_on
          rw [← h_same]
          exact h_all j h_j ⟨h_observed, h_j_continues.occupies⟩
        refine ⟨?_, fun agent' h_some' => ?_, fun h_none => ?_⟩
        · rintro (⟨i, h_i, h_state, h_recorded⟩ |
            ⟨i, h_i, j, h_j, h_continues, h_i_on, h_j_continues, h_j_on, h_ne⟩)
          · exact absurd h_recorded (h_starting i h_i h_state)
          · have h_same := (h_agent i h_i h_continues h_i_on).trans
              (h_agent j h_j h_j_continues h_j_on).symm
            exact absurd h_same h_ne
        · rw [h_some] at h_some'
          cases h_some'
          exact ⟨⟨k, h_k, h_k_continues, h_counted h_k_occupies⟩, h_agent⟩
        · rw [h_some] at h_none
          cases h_none
      · exact absurd ((h_all i h_i h_occupies).trans (h_all j h_j h_occupies').symm) h_ne
      · rw [h_starting k h_k h_k_occupies] at h_k_continues
        exact absurd h_k_continues (by decide)
  · -- The seat is refused.
    refine iff_of_true ⟨fun _ => ⟨⟨message, h_conflict⟩, .of_conflict h_conflict⟩,
      fun agent h_some => ?_, fun h_none => ?_⟩ (.inr h_closed)
    · rw [h_conflict] at h_some
      cases h_some
    · rw [h_conflict] at h_none
      cases h_none

/-- The seat is continued as it should exactly where it holds nothing that is starting, or is
    contested, or has only occupants that are starting; both where a settled incarnation is on
    the seat that it was observed on, and where it is also on the one it was intended for. -/
theorem seat_fails_closed (s : Store) (paneId terminalId : String) :
    (s.SeatFailsClosed paneId terminalId (IncarnationRow.ObservedOn paneId terminalId) ↔
      (∀ i ∈ s.incarnations, i.state = .starting → ¬ i.RecordedOn paneId terminalId) ∨
        s.SeatContested paneId terminalId ∨ s.SeatStarting paneId terminalId) ∧
    (s.SeatFailsClosed paneId terminalId (IncarnationRow.RecordedOn paneId terminalId) ↔
      s.SeatSettled paneId terminalId (IncarnationRow.RecordedOn paneId terminalId) ∨
        s.SeatContested paneId terminalId ∨ s.SeatStarting paneId terminalId) := by
  refine ⟨?_, Store.seatFailsClosed_iff fun _ h_observed => .inl h_observed⟩
  rw [Store.seatFailsClosed_iff fun _ h_observed => h_observed]
  refine or_congr_left ⟨And.left, fun h_starting => ⟨h_starting, fun i h_i h_continues h_on => ?_⟩⟩
  exact ⟨i, h_i, h_continues, h_on, rfl⟩

end Decision

-- ============================================================================
-- A start whose agent was not yet observed
-- ============================================================================

/-- A new agent may be made on the seat that a start was declared for. -/
theorem seat_of_start_left_open : ∃ s, Reachable (fun _ _ => True) s ∧
    ¬ s.SeatFailsClosed "w1:p1" "t1" (IncarnationRow.ObservedOn "w1:p1" "t1") ∧
    ¬ s.SeatFailsClosed "w1:p1" "t1" (IncarnationRow.RecordedOn "w1:p1" "t1") := by
  have h : Leads (fun _ _ => True) (fun s =>
      continuableLogicalAgentForBinding "w1:p1" "t1" s = .ok none ∧
      ∃ i ∈ s.incarnations.rows, i.state = .starting ∧ i.RecordedOn "w1:p1" "t1")
      startingRun Store.empty := by decide +kernel
  obtain ⟨s, h_run, h_none, h_starting⟩ := h.run
  refine ⟨s, h_run, fun h_closed => ?_, fun h_closed => ?_⟩
  · obtain ⟨⟨message, h_conflict⟩, -⟩ := h_closed.closed (.inl h_starting)
    rw [h_none] at h_conflict
    cases h_conflict
  · obtain ⟨⟨message, h_conflict⟩, -⟩ := h_closed.closed (.inl h_starting)
    rw [h_none] at h_conflict
    cases h_conflict

end Kelpie
