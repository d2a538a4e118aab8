/-
  Kelpie.Bindings.Occupants

  When one continuation pass is injective: each agent continues onto one
  occupant, and each occupant continues one agent.

  Native sessions are matched one to one, and so are recorded panes.  What the
  two strategies do not compare is an agent that is the newest holder of several
  panes, and an occupant that its session gives to one agent and its pane to
  another.
-/

import Mathlib.Data.List.Dedup
import Kelpie.Bindings.Continuation

namespace Kelpie

open Lib Lib.Tx Roster

variable {s s' : Store} {now : Millis} {snapshot : Snapshot}

-- ============================================================================
-- The rows of a pass
-- ============================================================================

/-- Durable ids are written in decimal, each in its own way. -/
theorem toString_id_injective {m n : Nat} (h : toString m = toString n) : m = n := by
  have h_digits := congrArg (fun text : String => Nat.ofDigitChars 10 text.toList 0) h
  simpa [Nat.toString_eq_repr] using h_digits

theorem mem_occupancies {r : Occupancy} : r ∈ s.occupancies ↔
    r.incarnation ∈ s.incarnations ∧
      s.logicalAgents.find r.incarnation.logicalAgentId = some r.agent := by
  unfold Store.occupancies
  rw [List.mem_filterMap]
  constructor
  · rintro ⟨i, h_i, h_r⟩
    obtain ⟨l, h_l, rfl⟩ := Option.map_eq_some_iff.mp h_r
    exact ⟨h_i, h_l⟩
  · rintro ⟨h_i, h_l⟩
    refine ⟨r.incarnation, h_i, ?_⟩
    rw [h_l]
    rfl

/-- An incarnation occurs in one row. -/
theorem occupancy_eq {r r' : Occupancy} (h : r ∈ s.occupancies) (h' : r' ∈ s.occupancies)
    (h_id : r.incarnation.id = r'.incarnation.id) : r = r' := by
  obtain ⟨h_i, h_l⟩ := mem_occupancies.mp h
  obtain ⟨h_i', h_l'⟩ := mem_occupancies.mp h'
  obtain ⟨i, l⟩ := r
  obtain ⟨i', l'⟩ := r'
  obtain rfl : i = i' := Table.eq_of_key h_i h_i' h_id
  rw [h_l] at h_l'
  cases Option.some_inj.mp h_l'
  rfl

theorem occupancies_nodup : s.occupancies.Nodup := by
  refine List.Nodup.filterMap ?_ (List.Nodup.of_map _ s.incarnations.keys_nodup)
  intro i i' r h_r h_r'
  obtain ⟨l, -, rfl⟩ := Option.map_eq_some_iff.mp (Option.mem_def.mp h_r)
  obtain ⟨l', -, h_eq⟩ := Option.map_eq_some_iff.mp (Option.mem_def.mp h_r')
  exact (congrArg Occupancy.incarnation h_eq).symm

theorem mem_continuableSeatRows {r : Occupancy} (h : r ∈ s.continuableSeatRows) :
    r ∈ s.occupancies := by
  unfold Store.continuableSeatRows at h
  rw [(List.perm_insertionSort _ _).mem_iff] at h
  exact List.mem_of_mem_filter h

theorem continuableSeatRows_nodup : s.continuableSeatRows.Nodup := by
  unfold Store.continuableSeatRows
  rw [(List.perm_insertionSort _ _).nodup_iff]
  exact occupancies_nodup.filter _

theorem mem_lastByAgent {r : Occupancy} (h : r ∈ s.lastByAgent) : r ∈ s.occupancies :=
  List.mem_of_mem_filter (List.mem_of_mem_filter h)

/-- Each agent has one newest session row. -/
theorem lastByAgent_eq {r r' : Occupancy} (h : r ∈ s.lastByAgent) (h' : r' ∈ s.lastByAgent)
    (h_agent : r.agent.id = r'.agent.id) : r = r' := by
  obtain ⟨h_mem, h_last⟩ := List.mem_filter.mp h
  obtain ⟨h_mem', h_last'⟩ := List.mem_filter.mp h'
  have h_not := of_decide_eq_true h_last r' h_mem' h_agent.symm
  have h_not' := of_decide_eq_true h_last' r h_mem h_agent
  refine occupancy_eq (mem_lastByAgent h) (mem_lastByAgent h') (toString_id_injective ?_)
  simp only [IncarnationRow.TextOlderThan, not_or, not_and, Int.not_lt] at h_not h_not'
  have h_created : r.incarnation.createdAtMs = r'.incarnation.createdAtMs :=
    le_antisymm h_not'.1 h_not.1
  exact String.le_antisymm (String.not_lt.mp (h_not'.2 h_created.symm))
    (String.not_lt.mp (h_not.2 h_created))

/-- Each pane has one newest holder. -/
theorem holdsItsPane_eq {i i' : IncarnationRow} (h_i : i ∈ s.incarnations)
    (h_i' : i' ∈ s.incarnations) (h : s.HoldsItsPane i) (h' : s.HoldsItsPane i')
    (h_pane : i.observedPaneId = i'.observedPaneId) : i.id = i'.id := by
  have h_not := h i' h_i' h_pane.symm
  have h_not' := h' i h_i h_pane
  simp only [IncarnationRow.OlderThan, not_or, not_and, Int.not_lt, Nat.not_lt] at h_not h_not'
  have h_created : i.createdAtMs = i'.createdAtMs := le_antisymm h_not'.1 h_not.1
  exact le_antisymm (h_not'.2 h_created.symm) (h_not.2 h_created)

-- ============================================================================
-- Session continuations
-- ============================================================================

/-- What a continuation by native session rests on. -/
structure SessionMatch (s : Store) (snapshot : Snapshot) (session : String)
    (c : Continuation) : Prop where
  source : c.source ∈ s.lastByAgent
  sourceSession : c.source.sessionId = some session
  occupant : c.agent ∈ snapshot.agents
  occupantSession : c.agent.sessionId = some session
  seatFree : ¬ s.SeatReady c.agent
  agentFree : ¬ s.AgentReady c.source.agent.id

theorem newestStrictly_mem {rows : List Occupancy} {r : Occupancy}
    (h : newestStrictly rows = some r) : r ∈ rows := by
  unfold newestStrictly at h
  split at h
  · rename_i newest h_rows
    cases h
    have h_mem : r ∈ [r] := List.mem_singleton_self r
    rw [← h_rows] at h_mem
    exact List.mem_of_mem_filter h_mem
  · cases h

theorem judgeOccupant_continues {agent : AgentObservation} {rows : List Occupancy}
    {c : Continuation} (h : s.judgeOccupant agent rows = .continues c) :
    c.agent = agent ∧ c.source ∈ rows ∧ ¬ s.SeatReady agent ∧
      ¬ s.AgentReady c.source.agent.id := by
  simp only [Store.judgeOccupant] at h
  split at h
  · cases h
  · rename_i source h_newest
    have h_named := newestStrictly_mem h_newest
    have h_source : source ∈ rows := by
      split at h_named
      · exact List.mem_of_mem_filter h_named
      · exact h_named
    split at h
    · cases h
    · rename_i h_free
      obtain ⟨h_seat, h_agent⟩ := not_or.mp h_free
      split at h
      · cases h
      · split at h
        · cases h
        · split at h
          · cases h
          · cases h
            exact ⟨rfl, h_source, h_seat, h_agent⟩

theorem sessionContinuation_match {session : String} {c : Continuation}
    (h : s.sessionContinuation snapshot session = some c) :
    SessionMatch s snapshot session c := by
  unfold Store.sessionContinuation at h
  split at h
  · rename_i c' h_verdict
    cases h
    unfold Store.judgeSession at h_verdict
    split at h_verdict
    · rename_i agent r rows h_occupants h_matches
      obtain ⟨h_agent, h_source, h_seat, h_free⟩ := judgeOccupant_continues h_verdict
      rw [← h_matches] at h_source
      obtain ⟨h_last, h_session⟩ := List.mem_filter.mp h_source
      have h_mem : agent ∈ snapshot.occupantsOf session := by
        rw [h_occupants]
        exact List.mem_singleton_self agent
      obtain ⟨h_live, h_settled⟩ := List.mem_filter.mp h_mem
      subst h_agent
      exact ⟨h_last, of_decide_eq_true h_session, h_live,
        (of_decide_eq_true h_settled).2, h_seat, h_free⟩
    · split at h_verdict <;> cases h_verdict
  · cases h

theorem mem_sessionContinuations {c : Continuation}
    (h : c ∈ s.sessionContinuations snapshot) :
    ∃ session, SessionMatch s snapshot session c := by
  obtain ⟨session, -, h_c⟩ := List.mem_filterMap.mp h
  exact ⟨session, sessionContinuation_match h_c⟩

-- ============================================================================
-- Seat continuations
-- ============================================================================

/-- What a continuation by recorded pane rests on. -/
structure SeatMatch (s : Store) (snapshot : Snapshot) (row : Occupancy)
    (c : Continuation) : Prop where
  source : c.source = row
  holder : s.HoldsItsPane row.incarnation
  pane : row.incarnation.observedPaneId = some c.agent.paneId
  occupant : c.agent ∈ snapshot.agents
  unmatched : row.agent.id ∉ (s.sessionContinuations snapshot).map Continuation.agentId
  seatFree : ¬ s.SeatReady c.agent
  agentFree : ¬ s.AgentReady row.agent.id

theorem seatOccupant_some {row : Occupancy} {agent : AgentObservation}
    (h : seatOccupant snapshot row = some agent) :
    row.incarnation.observedPaneId = some agent.paneId ∧ agent ∈ snapshot.agents := by
  unfold seatOccupant at h
  obtain ⟨paneId, h_pane, h⟩ := Option.bind_eq_some_iff.mp h
  split at h
  · rename_i a h_settled
    simp only [guard_bind_eq_some] at h
    obtain ⟨-, -, -, h⟩ := h
    obtain ⟨pane, -, h⟩ := Option.bind_eq_some_iff.mp h
    obtain ⟨cwd, -, h⟩ := Option.bind_eq_some_iff.mp h
    rw [guard_bind_eq_some] at h
    cases h.2
    have h_mem : agent ∈ [agent] := List.mem_singleton_self agent
    rw [← h_settled] at h_mem
    obtain ⟨h_live, h_on⟩ := List.mem_filter.mp h_mem
    rw [h_pane, (of_decide_eq_true h_on).1]
    exact ⟨rfl, h_live⟩
  · cases h

theorem seatContinuation_match {row : Occupancy} {c : Continuation}
    (h : s.seatContinuation snapshot row = some c) : SeatMatch s snapshot row c := by
  unfold Store.seatContinuation Store.continueSeat at h
  rw [guard_bind_eq_some] at h
  obtain ⟨h_holder, h⟩ := h
  rw [guard_bind_eq_some] at h
  obtain ⟨⟨-, h_unmatched, h_agent⟩, h⟩ := h
  obtain ⟨agent, h_occupant, h⟩ := Option.bind_eq_some_iff.mp h
  rw [guard_bind_eq_some] at h
  obtain ⟨h_seat, h⟩ := h
  cases h
  obtain ⟨h_pane, h_live⟩ := seatOccupant_some h_occupant
  exact ⟨rfl, h_holder, h_pane, h_live, h_unmatched, h_seat, h_agent⟩

theorem mem_seatContinuations {c : Continuation} (h : c ∈ s.seatContinuations snapshot) :
    c.source ∈ s.continuableSeatRows ∧ SeatMatch s snapshot c.source c := by
  obtain ⟨row, h_row, h_c⟩ := List.mem_filterMap.mp h
  have h_match := seatContinuation_match h_c
  rw [h_match.source]
  exact ⟨h_row, h_match⟩

-- ============================================================================
-- Repetitions
-- ============================================================================

/-- No two agents of the snapshot share a pane and terminal. -/
def Snapshot.OnePerSeat (snapshot : Snapshot) : Prop :=
  ∀ a ∈ snapshot.agents, ∀ b ∈ snapshot.agents,
    a.paneId = b.paneId → a.terminalId = b.terminalId → a = b

instance (snapshot : Snapshot) : Decidable snapshot.OnePerSeat :=
  inferInstanceAs (Decidable (∀ a ∈ snapshot.agents, ∀ b ∈ snapshot.agents,
    a.paneId = b.paneId → a.terminalId = b.terminalId → a = b))

/-- No agent would continue onto the occupants of two panes that it held last. -/
def Store.HoldersApart (s : Store) (snapshot : Snapshot) : Prop :=
  ∀ r ∈ s.continuableSeatRows, ∀ r' ∈ s.continuableSeatRows,
    ∀ c ∈ s.seatContinuation snapshot r, ∀ c' ∈ s.seatContinuation snapshot r',
    s.Admits snapshot c → s.Admits snapshot c' → r.agent.id = r'.agent.id →
    r.incarnation.id = r'.incarnation.id

/-- No occupant would continue one agent by its session and another by its pane. -/
def Store.MatchesApart (s : Store) (snapshot : Snapshot) : Prop :=
  ∀ c ∈ s.sessionContinuations snapshot, ∀ c' ∈ s.seatContinuations snapshot,
    s.Admits snapshot c → s.Admits snapshot c' → c.agent ≠ c'.agent

instance (s : Store) (snapshot : Snapshot) : Decidable (s.HoldersApart snapshot) := by
  unfold Store.HoldersApart
  infer_instance

instance (s : Store) (snapshot : Snapshot) : Decidable (s.MatchesApart snapshot) := by
  unfold Store.MatchesApart
  infer_instance

theorem continuations_eq : s.continuations snapshot =
    (s.sessionContinuations snapshot).filter (s.Admits snapshot) ++
      (s.seatContinuations snapshot).filter (s.Admits snapshot) :=
  List.filter_append ..

/-- Sessions continue each agent at most once. -/
theorem sessionContinuations_agents_nodup :
    (((s.sessionContinuations snapshot).filter (s.Admits snapshot)).map
      Continuation.agentId).Nodup := by
  refine List.Nodup.sublist (List.filter_sublist.map _) ?_
  unfold Store.sessionContinuations
  rw [List.map_filterMap]
  refine (List.nodup_dedup _).filterMap ?_
  intro a b id h_a h_b
  obtain ⟨c, h_c, rfl⟩ := Option.map_eq_some_iff.mp (Option.mem_def.mp h_a)
  obtain ⟨d, h_d, h_id⟩ := Option.map_eq_some_iff.mp (Option.mem_def.mp h_b)
  have h_match := sessionContinuation_match h_c
  have h_match' := sessionContinuation_match h_d
  have h_source := lastByAgent_eq h_match'.source h_match.source h_id
  have h_session := h_match'.sourceSession
  rw [h_source, h_match.sourceSession] at h_session
  exact Option.some_inj.mp h_session

/-- Sessions continue onto each occupant at most once. -/
theorem sessionContinuations_occupants_nodup :
    (((s.sessionContinuations snapshot).filter (s.Admits snapshot)).map
      Continuation.agent).Nodup := by
  refine List.Nodup.sublist (List.filter_sublist.map _) ?_
  unfold Store.sessionContinuations
  rw [List.map_filterMap]
  refine (List.nodup_dedup _).filterMap ?_
  intro a b occupant h_a h_b
  obtain ⟨c, h_c, rfl⟩ := Option.map_eq_some_iff.mp (Option.mem_def.mp h_a)
  obtain ⟨d, h_d, h_same⟩ := Option.map_eq_some_iff.mp (Option.mem_def.mp h_b)
  have h_session := (sessionContinuation_match h_d).occupantSession
  rw [h_same, (sessionContinuation_match h_c).occupantSession] at h_session
  exact Option.some_inj.mp h_session

/-- The admitted seat continuations, as one selection from the recorded seats. -/
theorem seatContinuations_map {β : Type} (f : Continuation → β) :
    ((s.seatContinuations snapshot).filter (s.Admits snapshot)).map f =
      s.continuableSeatRows.filterMap fun r =>
        ((s.seatContinuation snapshot r).filter (s.Admits snapshot)).map f := by
  unfold Store.seatContinuations
  rw [List.filter_filterMap, List.map_filterMap]

/-- Panes continue onto each occupant at most once. -/
theorem seatContinuations_occupants_nodup :
    (((s.seatContinuations snapshot).filter (s.Admits snapshot)).map
      Continuation.agent).Nodup := by
  rw [seatContinuations_map, nodup_filterMap_iff continuableSeatRows_nodup]
  intro r h_r r' h_r' occupant h_x h_x'
  obtain ⟨c, h_c, rfl⟩ := Option.map_eq_some_iff.mp h_x
  obtain ⟨c', h_c', h_same⟩ := Option.map_eq_some_iff.mp h_x'
  have h_match := seatContinuation_match (Option.filter_eq_some_iff.mp h_c).1
  have h_match' := seatContinuation_match (Option.filter_eq_some_iff.mp h_c').1
  have h_mem := mem_continuableSeatRows h_r
  have h_mem' := mem_continuableSeatRows h_r'
  refine occupancy_eq h_mem h_mem' (holdsItsPane_eq (mem_occupancies.mp h_mem).1
    (mem_occupancies.mp h_mem').1 h_match.holder h_match'.holder ?_)
  rw [h_match.pane, h_match'.pane, h_same]

/-- Panes continue each agent at most once exactly when the holders are apart. -/
theorem seatContinuations_agents_nodup_iff :
    (((s.seatContinuations snapshot).filter (s.Admits snapshot)).map
      Continuation.agentId).Nodup ↔ s.HoldersApart snapshot := by
  rw [seatContinuations_map, nodup_filterMap_iff continuableSeatRows_nodup]
  constructor
  · intro h r h_r r' h_r' c h_c c' h_c' h_ok h_ok' h_agent
    have h_source := (seatContinuation_match h_c).source
    have h_source' := (seatContinuation_match h_c').source
    refine congrArg (·.incarnation.id) (h r h_r r' h_r' r.agent.id ?_ ?_)
    · rw [Option.mem_def.mp h_c, Option.filter_some_pos (by simpa using h_ok)]
      exact congrArg (fun r : Occupancy => some r.agent.id) h_source
    · rw [Option.mem_def.mp h_c', Option.filter_some_pos (by simpa using h_ok'), h_agent]
      exact congrArg (fun r : Occupancy => some r.agent.id) h_source'
  · intro h r h_r r' h_r' id h_x h_x'
    obtain ⟨c, h_c, rfl⟩ := Option.map_eq_some_iff.mp h_x
    obtain ⟨c', h_c', h_same⟩ := Option.map_eq_some_iff.mp h_x'
    obtain ⟨h_c, h_ok⟩ := Option.filter_eq_some_iff.mp h_c
    obtain ⟨h_c', h_ok'⟩ := Option.filter_eq_some_iff.mp h_c'
    refine occupancy_eq (mem_continuableSeatRows h_r) (mem_continuableSeatRows h_r')
      (h r h_r r' h_r' c h_c c' h_c' (by simpa using h_ok) (by simpa using h_ok') ?_)
    rw [← (seatContinuation_match h_c).source, ← (seatContinuation_match h_c').source]
    exact h_same.symm

/-- A pass continues each agent at most once exactly when the holders are apart. -/
theorem continuations_agents_nodup_iff :
    ((s.continuations snapshot).map Continuation.agentId).Nodup ↔ s.HoldersApart snapshot := by
  rw [continuations_eq, List.map_append, List.nodup_append, seatContinuations_agents_nodup_iff]
  refine ⟨fun h => h.2.1, fun h => ⟨sessionContinuations_agents_nodup, h, ?_⟩⟩
  -- An agent that its session continued is not continued by its pane.
  intro id h_id id' h_id'
  rintro rfl
  obtain ⟨c, h_c, rfl⟩ := List.mem_map.mp h_id
  obtain ⟨c', h_c', h_same⟩ := List.mem_map.mp h_id'
  refine (mem_seatContinuations (List.mem_of_mem_filter h_c')).2.unmatched ?_
  rw [show c'.source.agent.id = c.agentId from h_same]
  exact List.mem_map_of_mem (List.mem_of_mem_filter h_c)

theorem continuation_occupant {c : Continuation} (h : c ∈ s.continuations snapshot) :
    c.agent ∈ snapshot.agents ∧ ¬ s.SeatReady c.agent ∧ ¬ s.AgentReady c.agentId := by
  rcases List.mem_append.mp (List.mem_of_mem_filter h) with h_c | h_c
  · obtain ⟨session, h_match⟩ := mem_sessionContinuations h_c
    exact ⟨h_match.occupant, h_match.seatFree, h_match.agentFree⟩
  · obtain ⟨-, h_match⟩ := mem_seatContinuations h_c
    exact ⟨h_match.occupant, h_match.seatFree, h_match.agentFree⟩

/-- A pass continues onto each occupant at most once exactly when the matches are apart. -/
theorem continuations_occupants_nodup_iff :
    ((s.continuations snapshot).map Continuation.agent).Nodup ↔ s.MatchesApart snapshot := by
  rw [continuations_eq, List.map_append, List.nodup_append]
  constructor
  · rintro ⟨-, -, h⟩ c h_c c' h_c' h_ok h_ok'
    refine h c.agent (List.mem_map_of_mem (List.mem_filter.mpr ⟨h_c, ?_⟩)) c'.agent
      (List.mem_map_of_mem (List.mem_filter.mpr ⟨h_c', ?_⟩))
    · simpa using h_ok
    · simpa using h_ok'
  · intro h
    refine ⟨sessionContinuations_occupants_nodup, seatContinuations_occupants_nodup, ?_⟩
    intro a h_a a' h_a'
    obtain ⟨c, h_c, rfl⟩ := List.mem_map.mp h_a
    obtain ⟨c', h_c', rfl⟩ := List.mem_map.mp h_a'
    obtain ⟨h_c, h_ok⟩ := List.mem_filter.mp h_c
    obtain ⟨h_c', h_ok'⟩ := List.mem_filter.mp h_c'
    exact h c h_c c' h_c' (by simpa using h_ok) (by simpa using h_ok')

/-- Where each pane and terminal holds one agent, seats repeat as occupants do. -/
theorem continuations_seats_nodup_iff (h_snapshot : snapshot.OnePerSeat) :
    ((s.continuations snapshot).map Continuation.seat).Nodup ↔ s.MatchesApart snapshot := by
  rw [← continuations_occupants_nodup_iff]
  have h_seat : ∀ c : Continuation, c.seat = (some c.agent.paneId, some c.agent.terminalId) :=
    fun _ => rfl
  constructor
  · intro h
    have h_map : (s.continuations snapshot).map Continuation.seat =
        ((s.continuations snapshot).map Continuation.agent).map
          fun a => (some a.paneId, some a.terminalId) := by
      rw [List.map_map]
      rfl
    rw [h_map] at h
    exact h.of_map _
  · intro h
    have h_list : (s.continuations snapshot).Nodup := h.of_map _
    rw [List.nodup_map_iff_inj_on h_list]
    intro c h_c c' h_c' h_same
    obtain ⟨h_pane, h_terminal⟩ := Prod.mk.inj h_same
    have h_agent : c.agent = c'.agent := h_snapshot c.agent (continuation_occupant h_c).1
      c'.agent (continuation_occupant h_c').1 (Option.some_inj.mp h_pane)
      (Option.some_inj.mp h_terminal)
    exact (List.nodup_map_iff_inj_on h_list).mp h c h_c c' h_c' h_agent

-- ============================================================================
-- Uniqueness after a pass
-- ============================================================================

theorem Continuation.Binds.seated {c : Continuation} {i : IncarnationRow} (h : c.Binds i) :
    i.Seated := by
  obtain ⟨h_pane, h_terminal⟩ := Prod.mk.inj h.seat
  exact ⟨h.ready, by simp [h_pane], by simp [h_terminal]⟩

/-- What the continuations bind is exclusive afterwards exactly when it does not repeat,
    provided that nobody held it before. -/
theorem Continued.exclusive_iff {β : Type} {cs : List Continuation}
    {p : IncarnationRow → Prop} {f : IncarnationRow → β} {g : Continuation → β}
    (h : Continued cs s s') (h_binds : ∀ c i, c.Binds i → p i ∧ f i = g c)
    (h_free : ∀ c ∈ cs, ∀ i ∈ s.incarnations, p i → f i ≠ g c)
    (h_before : s.incarnations.Exclusive p f) :
    s'.incarnations.Exclusive p f ↔ (cs.map g).Nodup := by
  obtain ⟨rows, h_rows, h_bound⟩ := h.incarnations
  have h_map : cs.map g = rows.map f := by
    rw [← List.forall₂_eq_eq_eq]
    exact List.rel_map (fun c i h_c => (h_binds c i h_c).2.symm) h_bound
  have h_source : ∀ i ∈ rows, ∃ c ∈ cs, c.Binds i := fun _ => binds_source h_bound
  have h_p : ∀ i ∈ rows, p i := fun i h_i => by
    obtain ⟨c, -, h_c⟩ := h_source i h_i
    exact (h_binds c i h_c).1
  rw [h_rows.exclusive_iff h_p, h_map]
  refine ⟨fun h_after => h_after.2.1, fun h_nodup => ⟨h_before, h_nodup, ?_⟩⟩
  intro i h_i i₂ h_i₂ h_p₂
  obtain ⟨c, h_c, h_ci⟩ := h_source i h_i
  rw [(h_binds c i h_ci).2]
  exact h_free c h_c i₂ h_i₂ h_p₂

/-- A pass keeps one Ready incarnation for each agent exactly when the holders are apart. -/
theorem onePerAgent_continued (h : Continued (s.continuations snapshot) s s')
    (h_agent : s.roster.OnePerAgent) :
    s'.roster.OnePerAgent ↔ s.HoldersApart snapshot := by
  rw [← continuations_agents_nodup_iff]
  refine h.exclusive_iff (fun c i h_c => ⟨h_c.ready, h_c.agent⟩) ?_ h_agent
  intro c h_c i h_i h_ready h_same
  exact (continuation_occupant h_c).2.2 ⟨i, h_i, h_same, .inr h_ready⟩

/-- A pass keeps one Ready incarnation for each seat exactly when the matches are apart. -/
theorem onePerSeat_continued (h : Continued (s.continuations snapshot) s s')
    (h_snapshot : snapshot.OnePerSeat) (h_seat : s.roster.OnePerSeat) :
    s'.roster.OnePerSeat ↔ s.MatchesApart snapshot := by
  rw [← continuations_seats_nodup_iff h_snapshot]
  refine h.exclusive_iff (fun c i h_c => ⟨h_c.seated, h_c.seat⟩) ?_ h_seat
  intro c h_c i h_i h_seated h_same
  obtain ⟨h_pane, h_terminal⟩ := Prod.mk.inj h_same
  exact (continuation_occupant h_c).2.1 ⟨i, h_i, h_seated.1, h_pane, h_terminal⟩

/-- One continuation pass preserves that each agent and each exact pane and terminal has
    at most one Ready incarnation exactly when the holders and the matches are apart. -/
theorem pass_injective_iff {n : Nat}
    (h_agent : s.roster.OnePerAgent) (h_seat : s.roster.OnePerSeat)
    (h_snapshot : snapshot.OnePerSeat)
    (h : (continueRestoredOccupants now snapshot).run s = .ok (n, s')) :
    s'.roster.OnePerAgent ∧ s'.roster.OnePerSeat ↔
      s.HoldersApart snapshot ∧ s.MatchesApart snapshot := by
  have h_continued := continueRestoredOccupants_run h
  rw [onePerAgent_continued h_continued h_agent,
    onePerSeat_continued h_continued h_snapshot h_seat]

-- ============================================================================
-- Restored panes
-- ============================================================================

/-- An agent adopted on a first pane, then on a second one, and lost from both. -/
def movedRun : List Call :=
  [adopting 1 "w1:p1" "t1" "worker" "k1", .reconcileReadyIncarnations 2 ⟨[], []⟩,
    .declareAdopt 3
      { paneId := "w1:p2", expectedTerminalId := "t2", logicalAgentId := some 1,
        idempotencyKey := "k2" }
      { paneId := "w1:p2", terminalId := "t2", publicName := "worker",
        backendKind := "claude", workingDirectory := "/", launchPending := false,
        nativeAgentSession := none },
    .reconcileReadyIncarnations 4 ⟨[], []⟩]

/-- Panes restored with unnamed agents on new terminals. -/
def restoredPanes (seats : List (String × String)) : Snapshot where
  panes := seats.map fun seat => { paneId := seat.1, terminalId := seat.2, cwd := some "/" }
  agents := seats.map fun seat =>
    { paneId := seat.1, terminalId := seat.2, agent := some "claude" }

/-- One of the two panes restored: the agent continues there, once. -/
theorem pass_injective_iff_restored : ∃ s s', Reachable (fun _ _ => True) s ∧
    (Call.continueRestoredOccupants 5 (restoredPanes [("w1:p2", "t4")])).Step s s' ∧
    s'.roster.Present 1 ∧ s'.roster.OnePerAgent ∧ s'.roster.OnePerSeat := by
  let snapshot := restoredPanes [("w1:p2", "t4")]
  let call := Call.continueRestoredOccupants 5 snapshot
  have h : Leads (fun _ _ => True)
      (fun s => s.roster.OnePerAgent ∧ s.roster.OnePerSeat ∧ snapshot.OnePerSeat ∧
        (s.HoldersApart snapshot ∧ s.MatchesApart snapshot) ∧
        Leads (fun _ _ => True) (fun s' => s'.roster.Present 1) [call] s)
      movedRun Store.empty := by decide +kernel
  obtain ⟨s, h_run, h_agent, h_seat, h_snapshot, h_apart, -, h_present⟩ := h.run
  split at h_present
  · rename_i s' h_step
    obtain ⟨n, h_pass⟩ := commit_ok.mp h_step
    exact ⟨s, s', h_run, h_step, h_present,
      (pass_injective_iff h_agent h_seat h_snapshot h_pass).mpr h_apart⟩
  · exact h_present.elim

/-- Both panes restored: the agent continues onto each of them. -/
theorem continued_onto_both_panes : ∃ s s', Reachable (fun _ _ => True) s ∧
    s.roster.OnePerAgent ∧ s.roster.OnePerSeat ∧
    (restoredPanes [("w1:p1", "t3"), ("w1:p2", "t4")]).OnePerSeat ∧
    (Call.continueRestoredOccupants 5
      (restoredPanes [("w1:p1", "t3"), ("w1:p2", "t4")])).Step s s' ∧
    ¬ s'.roster.OnePerAgent := by
  let snapshot := restoredPanes [("w1:p1", "t3"), ("w1:p2", "t4")]
  have h : Leads (fun _ _ => True)
      (fun s => s.roster.OnePerAgent ∧ s.roster.OnePerSeat ∧ snapshot.OnePerSeat ∧
        Leads (fun _ _ => True) (fun s' => ¬ s'.roster.OnePerAgent)
          [.continueRestoredOccupants 5 snapshot] s)
      movedRun Store.empty := by decide +kernel
  obtain ⟨s, h_run, h_agent, h_seat, h_snapshot, -, h_twice⟩ := h.run
  split at h_twice
  · rename_i s' h_step
    exact ⟨s, s', h_run, h_agent, h_seat, h_snapshot, h_step, h_twice⟩
  · exact h_twice.elim

end Kelpie
