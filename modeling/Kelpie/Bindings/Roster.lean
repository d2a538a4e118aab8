/-
  Kelpie.Bindings.Roster

  The roster: the logical agents with their incarnations, the changes that may
  happen to it, and the uniqueness of the Ready bindings that they keep.

  Each change states what the store has checked when it brings it about.  That
  nobody else holds what a Ready binding takes is not among that: it is a
  condition `ok` of the change, which the modules above fill in for each call.
-/

import Mathlib.Logic.Relation
import Kelpie.Lib.Exclusive
import Kelpie.Store.Lifecycle

namespace Kelpie

open Lib

-- ============================================================================
-- Rosters
-- ============================================================================

/-- The tables that say who is bound where. -/
structure Roster where
  agents : Table LogicalAgentRow.id
  incarnations : Table IncarnationRow.id

/-- The roster of a store. -/
def Store.roster (s : Store) : Roster where
  agents := s.logicalAgents
  incarnations := s.incarnations

/-- The exact pane and terminal that an incarnation was observed on. -/
def IncarnationRow.seat (i : IncarnationRow) : Option String × Option String :=
  (i.observedPaneId, i.observedTerminalId)

/-- A Ready incarnation on an exact pane and terminal. -/
def IncarnationRow.Seated (i : IncarnationRow) : Prop :=
  i.state = .ready ∧ i.observedPaneId.isSome ∧ i.observedTerminalId.isSome

instance : DecidablePred IncarnationRow.Seated := fun i =>
  inferInstanceAs (Decidable
    (i.state = .ready ∧ i.observedPaneId.isSome ∧ i.observedTerminalId.isSome))

theorem IncarnationRow.ReadyOn.seated {i : IncarnationRow} {paneId terminalId : String}
    (h : i.ReadyOn paneId terminalId) : i.Seated := by
  obtain ⟨h_ready, h_pane, h_terminal⟩ := h
  exact ⟨h_ready, by simp [h_pane], by simp [h_terminal]⟩

/-- An incarnation whose start or name claim is not proved yet. -/
def IncarnationRow.Early (i : IncarnationRow) : Prop := i.state = .declared ∨ i.state = .starting

namespace Roster

/-- The agent has a Ready incarnation. -/
def Present (r : Roster) (agent : LogicalAgentId) : Prop :=
  ∃ i ∈ r.incarnations, i.logicalAgentId = agent ∧ i.state = .ready

/-- Each agent has at most one Ready incarnation. -/
def OnePerAgent (r : Roster) : Prop :=
  r.incarnations.Exclusive (·.state = .ready) (·.logicalAgentId)

/-- Each exact pane and terminal has at most one Ready incarnation. -/
def OnePerSeat (r : Roster) : Prop :=
  r.incarnations.Exclusive IncarnationRow.Seated IncarnationRow.seat

/-- Each public name has at most one agent with a Ready incarnation. -/
def OnePerName (r : Roster) : Prop :=
  r.agents.Exclusive (fun l => r.Present l.id) (·.publicName)

instance (r : Roster) : DecidablePred r.Present := fun agent =>
  inferInstanceAs (Decidable
    (∃ i ∈ r.incarnations.rows, i.logicalAgentId = agent ∧ i.state = .ready))

instance (r : Roster) : Decidable r.OnePerAgent :=
  inferInstanceAs (Decidable
    (r.incarnations.Exclusive (·.state = .ready) (·.logicalAgentId)))

instance (r : Roster) : Decidable r.OnePerSeat :=
  inferInstanceAs (Decidable
    (r.incarnations.Exclusive IncarnationRow.Seated IncarnationRow.seat))

instance (r : Roster) : Decidable r.OnePerName :=
  inferInstanceAs (Decidable (r.agents.Exclusive (fun l => r.Present l.id) (·.publicName)))

/-- The Ready bindings are unique, and every incarnation belongs to a known agent. -/
structure Unique (r : Roster) : Prop where
  known : ∀ i ∈ r.incarnations, ∃ l ∈ r.agents, l.id = i.logicalAgentId
  agent : r.OnePerAgent
  seat : r.OnePerSeat
  name : r.OnePerName

-- ============================================================================
-- Names
-- ============================================================================

/-- No active socket waiter holds the name. -/
def Unwaited (r : Roster) (name : String) : Prop :=
  ∀ w ∈ r.agents, w.ActiveWaiter → w.publicName ≠ name

/-- No agent with a Ready incarnation holds the name, and none is about to take it. -/
structure Unclaimed (r : Roster) (name : String) : Prop where
  held : ∀ l ∈ r.agents, r.Present l.id → l.publicName ≠ name
  pending : ∀ i ∈ r.incarnations, i.state = .ready → i.pendingRenameTo ≠ some name

/-- The agent is known, and it is no socket waiter. -/
def Bindable (r : Roster) (agent : LogicalAgentId) : Prop :=
  ∃ l ∈ r.agents, l.id = agent ∧ l.deliveryTransport ≠ .socketInbox

-- ============================================================================
-- Rows
-- ============================================================================

/-- The same incarnation; it does not become Ready, nor move while it is. -/
structure Steady (i i' : IncarnationRow) : Prop where
  key : i'.id = i.id
  agent : i'.logicalAgentId = i.logicalAgentId
  ready : i'.state = .ready → i.state = .ready ∧ i'.seat = i.seat

/-- A steady incarnation that takes on no new name. -/
structure Settled (i i' : IncarnationRow) : Prop extends Steady i i' where
  early : i'.Early → i.Early
  pending : i'.pendingRenameTo = i.pendingRenameTo ∨ i'.pendingRenameTo = none

/-- A steady incarnation that may be about to take the name `name`, if it is Ready. -/
structure Pended (name : String) (i i' : IncarnationRow) : Prop extends Steady i i' where
  early : i'.Early → i.Early
  pending : i'.pendingRenameTo = i.pendingRenameTo ∨
    (i'.state = .ready ∧ i'.pendingRenameTo = some name)

/-- Only the incarnation `id` may become Ready, from its declaration, or move. -/
structure Occupied (id : IncarnationId) (i i' : IncarnationRow) : Prop where
  key : i'.id = i.id
  agent : i'.logicalAgentId = i.logicalAgentId
  ready : i'.state = .ready → (i.id ≠ id → i.state = .ready ∧ i'.seat = i.seat) ∧
    (i.id = id → i.Early)
  early : i'.Early → i.Early
  pending : i'.pendingRenameTo = i.pendingRenameTo ∨ i'.pendingRenameTo = none

/-- The same agent under the same name; it does not become a target again. -/
structure Noted (l l' : LogicalAgentRow) : Prop where
  key : l'.id = l.id
  name : l'.publicName = l.publicName
  transport : l'.deliveryTransport = l.deliveryTransport
  active : l'.targetingEndedAtMs = none → l.targetingEndedAtMs = none

/-- The agent `agent` takes the name `name`. -/
structure Renamed (agent : LogicalAgentId) (name : String) (l l' : LogicalAgentRow) :
    Prop where
  key : l'.id = l.id
  name : l'.publicName = if l.id = agent then name else l.publicName
  transport : l'.deliveryTransport = l.deliveryTransport
  active : l'.targetingEndedAtMs = l.targetingEndedAtMs

theorem Steady.rfl {i : IncarnationRow} : Steady i i := ⟨.refl _, .refl _, (⟨·, .refl _⟩)⟩

theorem Settled.rfl {i : IncarnationRow} : Settled i i := ⟨.rfl, (·), .inl (.refl _)⟩

theorem Noted.rfl {l : LogicalAgentRow} : Noted l l := ⟨.refl _, .refl _, .refl _, (·)⟩

theorem Noted.trans {l₁ l₂ l₃ : LogicalAgentRow} (h : Noted l₁ l₂) (h' : Noted l₂ l₃) :
    Noted l₁ l₃ :=
  ⟨h'.key.trans h.key, h'.name.trans h.name, h'.transport.trans h.transport,
    h.active ∘ h'.active⟩

theorem Noted.waiter {l l' : LogicalAgentRow} (h : Noted l l') (h_waiter : l'.ActiveWaiter) :
    l.ActiveWaiter :=
  ⟨h.transport ▸ h_waiter.1, h.active h_waiter.2⟩

theorem Renamed.waiter {agent : LogicalAgentId} {name : String} {l l' : LogicalAgentRow}
    (h : Renamed agent name l l') (h_waiter : l'.ActiveWaiter) : l.ActiveWaiter :=
  ⟨h.transport ▸ h_waiter.1, h.active ▸ h_waiter.2⟩

-- ============================================================================
-- Changes
-- ============================================================================

/-- Nobody else holds what the Ready incarnation `i` takes: its agent, its seat, or the
    name of its agent. -/
structure Free (r : Roster) (i : IncarnationRow) : Prop where
  agent : ∀ j ∈ r.incarnations, j.state = .ready → j.logicalAgentId = i.logicalAgentId →
    j.id = i.id
  seat : ∀ j ∈ r.incarnations, j.Seated → j.seat = i.seat → j.id = i.id
  name : ∀ l ∈ r.agents, l.id = i.logicalAgentId → ∀ l' ∈ r.agents, r.Present l'.id →
    l'.publicName = l.publicName → l'.id = l.id

/-- If the agent is present, nobody else that is present holds the name. -/
def NameFree (r : Roster) (agent : LogicalAgentId) (name : String) : Prop :=
  r.Present agent → ∀ l ∈ r.agents, r.Present l.id → l.publicName = name → l.id = agent

instance (r : Roster) (agent : LogicalAgentId) (name : String) :
    Decidable (r.NameFree agent name) :=
  inferInstanceAs (Decidable (r.Present agent →
    ∀ l ∈ r.agents.rows, r.Present l.id → l.publicName = name → l.id = agent))

/-- One change of the roster.  Under `ok` the Ready bindings that were unique stay so. -/
inductive Change (ok : Prop) (r : Roster) : Roster → Prop where
  | enroll {l : LogicalAgentRow} {t : Table LogicalAgentRow.id}
      (h_waiter : l.ActiveWaiter → r.Unwaited l.publicName ∧ r.Unclaimed l.publicName)
      (h : r.agents.Adds (some l) t) : Change ok r { r with agents := t }
  | note {t : Table LogicalAgentRow.id} (h : r.agents.Edits Noted t) :
      Change ok r { r with agents := t }
  | rename {agent : LogicalAgentId} {name : String} {t : Table LogicalAgentRow.id}
      (h_owner : (∃ i ∈ r.incarnations, i.logicalAgentId = agent) ∨
        ∀ l ∈ r.agents, l.id = agent → l.deliveryTransport ≠ .socketInbox)
      (h_waiters : r.Unwaited name)
      (h_free : ok → r.NameFree agent name)
      (h : r.agents.Edits (Renamed agent name) t) : Change ok r { r with agents := t }
  | settle {t : Table IncarnationRow.id} (h : r.incarnations.Edits Settled t) :
      Change ok r { r with incarnations := t }
  | pend {name : String} {t : Table IncarnationRow.id} (h_waiters : r.Unwaited name)
      (h : r.incarnations.Edits (Pended name) t) : Change ok r { r with incarnations := t }
  | declare {i : IncarnationRow} {t : Table IncarnationRow.id} (h_state : i.state ≠ .ready)
      (h_pending : i.pendingRenameTo = none) (h_known : r.Bindable i.logicalAgentId)
      (h : r.incarnations.Adds (some i) t) : Change ok r { r with incarnations := t }
  | bind {i : IncarnationRow} {t : Table IncarnationRow.id}
      (h_pending : i.pendingRenameTo = none) (h_known : r.Bindable i.logicalAgentId)
      (h_waiters : ∀ l ∈ r.agents, l.id = i.logicalAgentId → r.Unwaited l.publicName)
      (h_free : ok → r.Free i) (h : r.incarnations.Adds (some i) t) :
      Change ok r { r with incarnations := t }
  | occupy {id : IncarnationId} {t : Table IncarnationRow.id}
      (h_waiters : ∀ i ∈ t, i.id = id → ∀ l ∈ r.agents, l.id = i.logicalAgentId →
        r.Unwaited l.publicName)
      (h_free : ok → ∀ i ∈ t, i.id = id → { r with incarnations := t }.Free i)
      (h : r.incarnations.Edits (Occupied id) t) : Change ok r { r with incarnations := t }

/-- Any number of changes. -/
abbrev Changes (ok : Prop) : Roster → Roster → Prop := Relation.ReflTransGen (Change ok)

-- ============================================================================
-- Uniqueness
-- ============================================================================

variable {r r' : Roster}

theorem Unique.empty : Unique ⟨.empty, .empty⟩ :=
  ⟨fun _ h => absurd h Table.notMem_empty, .empty, .empty, .empty⟩

/-- Steady incarnations were Ready before where they are Ready now. -/
theorem Present.steady {e : IncarnationRow → IncarnationRow → Prop}
    {t : Table IncarnationRow.id} (h_t : r.incarnations.Edits e t)
    (h_e : ∀ i i', e i i' → Steady i i') {agent : LogicalAgentId}
    (h : ({ r with incarnations := t } : Roster).Present agent) : r.Present agent := by
  obtain ⟨i', h_i', h_agent, h_ready⟩ := h
  obtain ⟨i, h_i, h_ii⟩ := h_t.origin i' h_i'
  have h_steady := h_e i i' h_ii
  exact ⟨i, h_i, h_steady.agent ▸ h_agent, (h_steady.ready h_ready).1⟩

theorem Unique.known_edits {e : IncarnationRow → IncarnationRow → Prop}
    {t : Table IncarnationRow.id} (h : Unique r) (h_t : r.incarnations.Edits e t)
    (h_e : ∀ i i', e i i' → i'.logicalAgentId = i.logicalAgentId) :
    ∀ i ∈ t, ∃ l ∈ r.agents, l.id = i.logicalAgentId := by
  intro i' h_i'
  obtain ⟨i, h_i, h_ii⟩ := h_t.origin i' h_i'
  rw [h_e i i' h_ii]
  exact h.known i h_i

theorem Unique.known_relabelled {e : LogicalAgentRow → LogicalAgentRow → Prop}
    {t : Table LogicalAgentRow.id} (h : Unique r) (h_t : r.agents.Edits e t)
    (h_e : ∀ l l', e l l' → l'.id = l.id) :
    ∀ i ∈ r.incarnations, ∃ l ∈ t, l.id = i.logicalAgentId := by
  intro i h_i
  obtain ⟨l, h_l, h_id⟩ := h.known i h_i
  obtain ⟨l', h_l', h_ll⟩ := h_t.image l h_l
  exact ⟨l', h_l', (h_e l l' h_ll).trans h_id⟩

theorem Unique.enroll {l : LogicalAgentRow} {t : Table LogicalAgentRow.id} (h : Unique r)
    (h_t : r.agents.Adds (some l) t) : Unique { r with agents := t } where
  known i h_i := by
    obtain ⟨l', h_l', h_id⟩ := h.known i h_i
    exact ⟨l', (h_t.mem l').mpr (.inl h_l'), h_id⟩
  agent := h.agent
  seat := h.seat
  name := by
    refine h.name.adds h_t (fun _ _ => id) (fun _ _ _ => rfl) ?_
    -- No incarnation belongs to an agent that is new.
    rintro l' h_l' ⟨i, h_i, h_agent, -⟩
    obtain ⟨l₀, h_l₀, h_id⟩ := h.known i h_i
    exact absurd (h_id.trans h_agent) (h_t.fresh l' h_l' l₀ h_l₀)

theorem Unique.rename {agent : LogicalAgentId} {name : String} {t : Table LogicalAgentRow.id}
    (h : Unique r) (h_free : r.NameFree agent name)
    (h_t : r.agents.Edits (Renamed agent name) t) : Unique { r with agents := t } where
  known := h.known_relabelled h_t fun _ _ h_ll => h_ll.key
  agent := h.agent
  seat := h.seat
  name := by
    refine h.name.edits h_t (fun _ _ h_ll => h_ll.key) ?_
    intro l h_l l' h_l' h_ll h_present
    have h_name := h_ll.name
    have h_present : r.Present l'.id := h_present
    by_cases h_agent : l.id = agent
    · -- Nobody else holds the name that this agent takes.
      refine .inr fun l₂' h_l₂' h_present₂ h_same => ?_
      obtain ⟨l₂, h_l₂, h_ll₂⟩ := h_t.origin l₂' h_l₂'
      refine Table.eq_of_key h_l₂' h_l' ?_
      have h_present₂ : r.Present l₂'.id := h_present₂
      have h_name₂ := h_ll₂.name
      rw [h_ll₂.key] at h_present₂
      rw [h_ll.key, h_ll₂.key, h_agent]
      rw [if_pos h_agent] at h_name
      by_cases h_agent₂ : l₂.id = agent
      · exact h_agent₂
      · rw [if_neg h_agent₂] at h_name₂
        refine h_free (h_agent ▸ h_ll.key ▸ h_present) l₂ h_l₂ h_present₂ ?_
        rw [← h_name₂, ← h_name]
        exact h_same
    · rw [if_neg h_agent] at h_name
      exact .inl ⟨h_ll.key ▸ h_present, h_name⟩

theorem Unique.note {t : Table LogicalAgentRow.id} (h : Unique r)
    (h_t : r.agents.Edits Noted t) : Unique { r with agents := t } where
  known := h.known_relabelled h_t fun _ _ h_ll => h_ll.key
  agent := h.agent
  seat := h.seat
  name := h.name.narrow h_t (fun _ _ h_ll => h_ll.key) fun _ _ _ _ h_ll h_present =>
    ⟨h_ll.key ▸ h_present, h_ll.name⟩

theorem Steady.seated {i i' : IncarnationRow} (h : Steady i i') (h_seated : i'.Seated) :
    i.Seated ∧ i'.seat = i.seat := by
  obtain ⟨h_ready, h_pane, h_terminal⟩ := h_seated
  obtain ⟨h_was, h_seat⟩ := h.ready h_ready
  obtain ⟨h_same, h_same'⟩ := Prod.mk.inj h_seat
  exact ⟨⟨h_was, h_same ▸ h_pane, h_same' ▸ h_terminal⟩, h_seat⟩

theorem Unique.steady {e : IncarnationRow → IncarnationRow → Prop}
    {t : Table IncarnationRow.id} (h : Unique r) (h_t : r.incarnations.Edits e t)
    (h_e : ∀ i i', e i i' → Steady i i') : Unique { r with incarnations := t } where
  known := h.known_edits h_t fun i i' h_ii => (h_e i i' h_ii).agent
  agent := h.agent.narrow h_t (fun i i' h_ii => (h_e i i' h_ii).key)
    fun i _ i' _ h_ii h_ready =>
      ⟨((h_e i i' h_ii).ready h_ready).1, (h_e i i' h_ii).agent⟩
  seat := h.seat.narrow h_t (fun i i' h_ii => (h_e i i' h_ii).key)
    fun i _ i' _ h_ii => (h_e i i' h_ii).seated
  name := by
    rintro l ⟨h_l, h_pl⟩ l' ⟨h_l', h_pl'⟩ h_name
    exact h.name.eq h_l h_l' (h_pl.steady h_t h_e) (h_pl'.steady h_t h_e) h_name

theorem Unique.declare {i : IncarnationRow} {t : Table IncarnationRow.id} (h : Unique r)
    (h_state : i.state ≠ .ready) (h_known : r.Bindable i.logicalAgentId)
    (h_t : r.incarnations.Adds (some i) t) : Unique { r with incarnations := t } where
  known j h_j := by
    rcases (h_t.mem j).mp h_j with h_j | h_j
    · exact h.known j h_j
    · obtain ⟨l, h_l, h_id, -⟩ := h_known
      exact ⟨l, h_l, Option.mem_some.mp h_j ▸ h_id⟩
  agent := h.agent.adds h_t (fun _ _ => id) (fun _ _ _ => rfl) fun j h_j h_ready =>
    absurd (Option.mem_some.mp h_j ▸ h_ready) h_state
  seat := h.seat.adds h_t (fun _ _ => id) (fun _ _ _ => rfl) fun j h_j h_seated =>
    absurd (Option.mem_some.mp h_j ▸ h_seated.1) h_state
  name := by
    have h_present {agent : LogicalAgentId}
        (h_p : ({ r with incarnations := t } : Roster).Present agent) : r.Present agent := by
      obtain ⟨j, h_j, h_agent, h_ready⟩ := h_p
      rcases (h_t.mem j).mp h_j with h_j | h_j
      · exact ⟨j, h_j, h_agent, h_ready⟩
      · exact absurd (Option.mem_some.mp h_j ▸ h_ready) h_state
    rintro l ⟨h_l, h_pl⟩ l' ⟨h_l', h_pl'⟩ h_name
    exact h.name.eq h_l h_l' (h_present h_pl) (h_present h_pl') h_name

/-- An agent that is present after a row was added is present as before, or through it. -/
theorem Present.adds {i : IncarnationRow} {t : Table IncarnationRow.id}
    (h_t : r.incarnations.Adds (some i) t) {agent : LogicalAgentId}
    (h : ({ r with incarnations := t } : Roster).Present agent) :
    r.Present agent ∨ agent = i.logicalAgentId := by
  obtain ⟨j, h_j, h_agent, h_ready⟩ := h
  rcases (h_t.mem j).mp h_j with h_j | h_j
  · exact .inl ⟨j, h_j, h_agent, h_ready⟩
  · exact .inr (h_agent ▸ Option.mem_some.mp h_j ▸ rfl)

theorem Unique.bind {i : IncarnationRow} {t : Table IncarnationRow.id} (h : Unique r)
    (h_known : r.Bindable i.logicalAgentId) (h_free : r.Free i)
    (h_t : r.incarnations.Adds (some i) t) : Unique { r with incarnations := t } where
  known j h_j := by
    rcases (h_t.mem j).mp h_j with h_j | h_j
    · exact h.known j h_j
    · obtain ⟨l, h_l, h_id, -⟩ := h_known
      exact ⟨l, h_l, Option.mem_some.mp h_j ▸ h_id⟩
  agent := by
    refine h.agent.adds h_t (fun _ _ => id) (fun _ _ _ => rfl) ?_
    intro j h_j _ j' h_j' h_ready h_same
    obtain rfl := Option.mem_some.mp h_j
    exact h_t.fresh i h_j j' h_j' (h_free.agent j' h_j' h_ready h_same)
  seat := by
    refine h.seat.adds h_t (fun _ _ => id) (fun _ _ _ => rfl) ?_
    intro j h_j _ j' h_j' h_seated h_same
    obtain rfl := Option.mem_some.mp h_j
    exact h_t.fresh i h_j j' h_j' (h_free.seat j' h_j' h_seated h_same)
  name := by
    rintro l ⟨h_l, h_pl⟩ l' ⟨h_l', h_pl'⟩ h_name
    rcases h_pl.adds h_t with h_pl | h_own <;> rcases h_pl'.adds h_t with h_pl' | h_own'
    · exact h.name.eq h_l h_l' h_pl h_pl' h_name
    · exact Table.eq_of_key h_l h_l' (h_free.name l' h_l' h_own' l h_l h_pl h_name)
    · exact Table.eq_of_key h_l h_l' (h_free.name l h_l h_own l' h_l' h_pl' h_name.symm).symm
    · exact Table.eq_of_key h_l h_l' (h_own.trans h_own'.symm)

theorem Occupied.steady {id : IncarnationId} {i i' : IncarnationRow} (h : Occupied id i i')
    (h_id : i.id ≠ id) : Steady i i' :=
  ⟨h.key, h.agent, fun h_ready => (h.ready h_ready).1 h_id⟩

/-- An agent that is present once `id` is occupied is present as before, or through it. -/
theorem Present.occupied {id : IncarnationId} {t : Table IncarnationRow.id}
    (h_t : r.incarnations.Edits (Occupied id) t) {agent : LogicalAgentId}
    (h : ({ r with incarnations := t } : Roster).Present agent) :
    r.Present agent ∨ ∃ i ∈ t, i.id = id ∧ agent = i.logicalAgentId := by
  obtain ⟨i', h_i', h_agent, h_ready⟩ := h
  obtain ⟨i, h_i, h_ii⟩ := h_t.origin i' h_i'
  by_cases h_id : i.id = id
  · exact .inr ⟨i', h_i', h_ii.key.trans h_id, h_agent.symm⟩
  · exact .inl ⟨i, h_i, h_ii.agent ▸ h_agent, ((h_ii.steady h_id).ready h_ready).1⟩

theorem Unique.occupy {id : IncarnationId} {t : Table IncarnationRow.id} (h : Unique r)
    (h_t : r.incarnations.Edits (Occupied id) t)
    (h_free : ∀ i ∈ t, i.id = id → ({ r with incarnations := t } : Roster).Free i) :
    Unique { r with incarnations := t } where
  known := h.known_edits h_t fun _ _ h_ii => h_ii.agent
  agent := by
    refine h.agent.edits h_t (fun _ _ h_ii => h_ii.key) ?_
    intro i _ i' h_i' h_ii h_ready
    by_cases h_id : i.id = id
    · exact .inr fun j h_j h_j_ready h_same => Table.eq_of_key h_j h_i'
        ((h_free i' h_i' (h_ii.key.trans h_id)).agent j h_j h_j_ready h_same)
    · exact .inl ⟨((h_ii.steady h_id).ready h_ready).1, h_ii.agent⟩
  seat := by
    refine h.seat.edits h_t (fun _ _ h_ii => h_ii.key) ?_
    intro i _ i' h_i' h_ii h_seated
    by_cases h_id : i.id = id
    · exact .inr fun j h_j h_j_seated h_same => Table.eq_of_key h_j h_i'
        ((h_free i' h_i' (h_ii.key.trans h_id)).seat j h_j h_j_seated h_same)
    · exact .inl ((h_ii.steady h_id).seated h_seated)
  name := by
    rintro l ⟨h_l, h_pl⟩ l' ⟨h_l', h_pl'⟩ h_name
    rcases h_pl.occupied h_t with h_was | ⟨i, h_i, h_id, h_own⟩
    · rcases h_pl'.occupied h_t with h_was' | ⟨i, h_i, h_id, h_own⟩
      · exact h.name.eq h_l h_l' h_was h_was' h_name
      · exact Table.eq_of_key h_l h_l'
          ((h_free i h_i h_id).name l' h_l' h_own l h_l h_pl h_name)
    · exact Table.eq_of_key h_l h_l'
        ((h_free i h_i h_id).name l h_l h_own l' h_l' h_pl' h_name.symm).symm

variable {ok : Prop}

/-- Every change that meets its condition keeps the Ready bindings unique. -/
theorem Unique.change (h : Unique r) (h_ok : ok) (h_change : Change ok r r') : Unique r' := by
  cases h_change with
  | enroll _ h_t => exact h.enroll h_t
  | note h_t => exact h.note h_t
  | rename _ _ h_free h_t => exact h.rename (h_free h_ok) h_t
  | settle h_t => exact h.steady h_t fun _ _ => Settled.toSteady
  | pend _ h_t => exact h.steady h_t fun _ _ => Pended.toSteady
  | declare h_state _ h_known h_t => exact h.declare h_state h_known h_t
  | bind _ h_known _ h_free h_t => exact h.bind h_known (h_free h_ok) h_t
  | occupy _ h_free h_t => exact h.occupy h_t (h_free h_ok)

theorem Unique.changes (h : Unique r) (h_ok : ok) (h_changes : Changes ok r r') :
    Unique r' := by
  induction h_changes with
  | refl => exact h
  | tail _ h_change ih => exact ih.change h_ok h_change

end Roster

end Kelpie
