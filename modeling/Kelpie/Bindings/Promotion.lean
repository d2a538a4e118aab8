/-
  Kelpie.Bindings.Promotion

  The calls that make a binding Ready or give an agent its name: what each of
  them checks by itself, and what has to be free besides for the Ready bindings
  to stay unique.
-/

import Kelpie.Bindings.Continuation

namespace Kelpie

open Lib Lib.Tx Roster

variable {ok : Prop} {s s' : Store} {now : Millis}

-- ============================================================================
-- The agent of a declaration
-- ============================================================================

/-- The agent that a declaration takes, under its name: the one it continues, or a new one. -/
structure Claimed (existing : Option LogicalAgentId) (name : String) (id : LogicalAgentId)
    (s s' : Store) : Prop where
  rest : s' = Tab.logicalAgents.put s'.logicalAgents s
  holder : ∃ l ∈ s'.logicalAgents, l.id = id ∧ l.publicName = name ∧
    l.deliveryTransport ≠ .socketInbox
  others : ∀ l ∈ s'.logicalAgents, l.id ≠ id → l ∈ s.logicalAgents
  source : existing = some id ∨ ∀ l ∈ s.logicalAgents, l.id ≠ id

theorem Claimed.incarnations {existing : Option LogicalAgentId} {name : String}
    {id : LogicalAgentId} (h : Claimed existing name id s s') :
    s'.incarnations = s.incarnations := by
  rw [h.rest]
  rfl

theorem Claimed.present {existing : Option LogicalAgentId} {name : String}
    {id agent : LogicalAgentId} (h : Claimed existing name id s s')
    (h_present : s'.roster.Present agent) : s.roster.Present agent := by
  obtain ⟨i, h_i, h_rest⟩ := h_present
  exact ⟨i, (h.incarnations ▸ h_i : i ∈ s.incarnations), h_rest⟩

theorem Claimed.bindable {existing : Option LogicalAgentId} {name : String}
    {id : LogicalAgentId} (h : Claimed existing name id s s') : s'.roster.Bindable id := by
  obtain ⟨l, h_l, h_id, -, h_transport⟩ := h.holder
  exact ⟨l, h_l, h_id, h_transport⟩

/-- The holder of the number that a declaration takes is the one it named. -/
theorem Claimed.name_eq {existing : Option LogicalAgentId} {name : String}
    {id : LogicalAgentId} (h : Claimed existing name id s s') {l : LogicalAgentRow}
    (h_l : l ∈ s'.logicalAgents) (h_id : l.id = id) : l.publicName = name := by
  obtain ⟨l₀, h_l₀, h_id₀, h_name, -⟩ := h.holder
  obtain rfl := Table.eq_of_key h_l h_l₀ (h_id.trans h_id₀.symm)
  exact h_name

/-- No socket waiter holds the name afterwards either. -/
theorem Claimed.unwaited {existing : Option LogicalAgentId} {name : String}
    {id : LogicalAgentId} (h : Claimed existing name id s s')
    (h_waiters : s.roster.Unwaited name) : s'.roster.Unwaited name := by
  intro w h_w h_active
  by_cases h_id : w.id = id
  · obtain ⟨l, h_l, h_lid, -, h_transport⟩ := h.holder
    obtain rfl := Table.eq_of_key h_w h_l (h_id.trans h_lid.symm)
    exact absurd h_active.1 h_transport
  · exact h_waiters w (h.others w h_w h_id) h_active

theorem continueOrCreateAgent_run {existing : Option LogicalAgentId} {name : String}
    {parent : Parent} {id : LogicalAgentId} (h_waiters : s.roster.Unwaited name)
    (h_ok : ok → ∀ agent ∈ existing, s.roster.NameFree agent name)
    (h : (continueOrCreateAgent now existing name parent).run s = .ok (id, s')) :
    Orderly ok s s' ∧ Claimed existing name id s s' := by
  unfold continueOrCreateAgent at h
  split at h
  · rename_i agent
    simp only [run_bind_reads, run_bind_require_ok, run_bind_query_ok] at h
    obtain ⟨h_some, _, h_pane, h⟩ := h
    obtain ⟨_, s₁, h_rename, h⟩ := run_bind_ok.mp h
    cases h
    obtain ⟨t, rfl, h_t⟩ := run_updateRows_edits (fun l l' => Renamed id name l l' ∧
        (l.id ≠ id → l' = l)) h_rename
      (fun l _ h_l => ⟨⟨rfl, by simp [h_l], rfl, rfl⟩, fun h_id => absurd h_l h_id⟩)
      fun l _ h_l => ⟨⟨rfl, by simp [h_l], rfl, rfl⟩, fun _ => rfl⟩
    obtain ⟨l, h_find⟩ := Option.isSome_iff_exists.mp h_some
    obtain ⟨h_l, h_id⟩ := Table.find_eq_some.mp h_find
    have h_socket : l.deliveryTransport ≠ .socketInbox := by
      intro h_socket
      simp [refusePaneBindOfSocketInbox, h_find, h_socket] at h_pane
    constructor
    · refine .single (.rename (.inr ?_) h_waiters (fun h => h_ok h id rfl)
        (h_t.mono fun _ _ _ _ h_ll => h_ll.1))
      intro l' h_l' h_id'
      obtain rfl := Table.eq_of_key h_l' h_l (h_id'.trans h_id.symm)
      exact h_socket
    · refine ⟨rfl, ?_, ?_, .inl rfl⟩
      · obtain ⟨l', h_l', h_ll⟩ := h_t.image l h_l
        refine ⟨l', h_l', h_ll.1.key.trans h_id, ?_, h_ll.1.transport ▸ h_socket⟩
        rw [h_ll.1.name, if_pos h_id]
      · intro l' h_l' h_other
        obtain ⟨l₀, h_l₀, h_ll⟩ := h_t.origin l' h_l'
        rw [h_ll.1.key] at h_other
        rw [h_ll.2 h_other]
        exact h_l₀
  · refine ⟨Keeps.keeps h, ?_⟩
    obtain ⟨l, t, rfl, h_t, h_id, h_name, h_transport⟩ := insertLogicalAgent_run h
    refine ⟨rfl, ⟨l, (h_t.mem l).mpr (.inr rfl), h_id, h_name, ?_⟩, ?_, .inr ?_⟩
    · rw [h_transport]
      decide
    · intro l' h_l' h_other
      rcases (h_t.mem l').mp h_l' with h_old | h_new
      · exact h_old
      · exact absurd (Option.mem_some.mp h_new ▸ h_id) h_other
    · intro l' h_l' h_same
      exact h_t.fresh l rfl l' h_l' (h_same.trans h_id.symm)

-- ============================================================================
-- Declarations
-- ============================================================================

section Declarations

variable {row : IncarnationId → IncarnationRow} {h_row : ∀ n, (row n).id = n}
  {id : IncarnationId}

theorem insertIncarnation_orderly (h : (insertIncarnation row h_row).run s = .ok (id, s'))
    (h_change : ∀ t, s.incarnations.Adds (some (row id)) t →
      Change ok s.roster { s.roster with incarnations := t }) : Orderly ok s s' := by
  obtain ⟨h_adds, h_noted, h_rest⟩ := insertIncarnation_run h
  have h_first : Orderly ok s (Tab.incarnations.put s'.incarnations s) :=
    .single (h_change _ h_adds)
  refine h_first.trans (.single ?_)
  rw [h_rest]
  exact .note h_noted

/-- An incarnation that is not Ready yet may belong to any agent that is no waiter. -/
theorem declareIncarnation_orderly (h : (insertIncarnation row h_row).run s = .ok (id, s'))
    (h_state : (row id).state ≠ .ready) (h_pending : (row id).pendingRenameTo = none)
    (h_known : s.roster.Bindable (row id).logicalAgentId) : Orderly ok s s' :=
  insertIncarnation_orderly h fun _ h_t => .declare h_state h_pending h_known h_t

/-- The checks of `insert_adopt_binding` leave the store as it is. -/
theorem checkAdoptEvidence_run {intent : AdoptIntent} {evidence : AdoptEvidence} {u : Unit}
    (h : (checkAdoptEvidence intent evidence).run s = .ok (u, s')) :
    s' = s ∧ evidence.paneId = intent.paneId := by
  simp only [checkAdoptEvidence, run_bind_require_ok, run_require_ok, Prod.mk.injEq] at h
  exact ⟨h.2.2.2.2.2.2, h.1.1⟩

theorem declareStart_orderly {intent : StartIntent} {d : DeclaredStart}
    (h_ok : ok → ∀ agent ∈ intent.logicalAgentId, s.roster.NameFree agent intent.publicName)
    (h : (declareStart now intent).run s = .ok (d, s')) : Orderly ok s s' := by
  simp only [declareStart, run_bind_query_ok] at h
  obtain ⟨_, -, _, h_waiters, h⟩ := h
  obtain ⟨agent, s₁, h_claim, h⟩ := run_bind_ok.mp h
  obtain ⟨inc, s₂, h_insert, h⟩ := run_bind_ok.mp h
  obtain ⟨h_first, h_claimed⟩ :=
    continueOrCreateAgent_run (unwaited_of_query h_waiters) h_ok h_claim
  have h_second : Orderly ok s₁ s₂ :=
    declareIncarnation_orderly h_insert (by simp) rfl h_claimed.bindable
  have h_rest : SameRoster s₂ s' := Keeps.keeps h
  exact (h_first.trans h_second).trans h_rest.orderly

/-- No Ready incarnation sits on the exact seat. -/
theorem seatFree_of_query {paneId terminalId : String} {u : Unit}
    (h : refuseAdoptedSeat paneId terminalId s = .ok u) :
    ∀ i ∈ s.incarnations, i.Seated → i.seat ≠ (some paneId, some terminalId) := by
  unfold refuseAdoptedSeat at h
  split at h
  · cases h
  · rename_i h_none
    intro i h_i h_seated h_seat
    obtain ⟨h_pane, h_terminal⟩ := Prod.mk.inj h_seat
    have h_not := List.find?_eq_none.mp h_none i h_i
    simp [IncarnationRow.ReadyOn, h_seated.1, h_pane, h_terminal] at h_not

/-- No agent with a Ready incarnation holds the name. -/
theorem aliasFree_of_query {name : String} {u : Unit} (h : refuseReadyAlias name s = .ok u) :
    ∀ l ∈ s.logicalAgents, s.roster.Present l.id → l.publicName ≠ name := by
  unfold refuseReadyAlias at h
  split at h
  · cases h
  · rename_i h_none
    rintro l h_l ⟨i, h_i, h_agent, h_ready⟩ h_name
    have h_find : s.logicalAgents.find i.logicalAgentId = some l :=
      Table.find_eq_some.mpr ⟨h_l, h_agent.symm⟩
    have h_not := List.find?_eq_none.mp h_none i h_i
    simp [Store.publicName, h_find, h_name, h_ready] at h_not

/-- What `insert_adopt_binding` finds and leaves: the seat and the name are free, and the
    incarnation is added under the agent that the adoption claims. -/
theorem insertAdoptBinding_run {intent : AdoptIntent} {evidence : AdoptEvidence}
    {state : IncarnationState} {outcome : OperationOutcome} {resolved : Bool}
    {d : DeclaredStart}
    (h : (insertAdoptBinding now intent evidence state outcome resolved).run s = .ok (d, s')) :
    (∀ i ∈ s.incarnations, i.Seated →
      i.seat ≠ (some evidence.paneId, some evidence.terminalId)) ∧
    (∀ l ∈ s.logicalAgents, s.roster.Present l.id → l.publicName ≠ evidence.publicName) ∧
    s.roster.Unwaited evidence.publicName ∧
    ∃ s₁ s₂ agent, ∃ row : IncarnationId → IncarnationRow, ∃ h_row id,
      (∀ ok : Prop, Orderly ok s s₁) ∧
      Claimed intent.logicalAgentId evidence.publicName agent s s₁ ∧
      (insertIncarnation row h_row).run s₁ = .ok (id, s₂) ∧ SameRoster s₂ s' ∧
      (row id).state = state ∧ (row id).logicalAgentId = agent ∧
      (row id).pendingRenameTo = none ∧
      (row id).seat = (some evidence.paneId, some evidence.terminalId) := by
  simp only [insertAdoptBinding] at h
  obtain ⟨_, s₀, h_check, h_bind⟩ := run_bind_ok.mp h
  obtain ⟨rfl, -⟩ := checkAdoptEvidence_run h_check
  simp only [run_bind_query_ok] at h_bind
  obtain ⟨_, -, _, h_seat, _, h_alias, _, h_waiters, _, -, h_bind⟩ := h_bind
  obtain ⟨agent, s₁, h_claim, h⟩ := run_bind_ok.mp h_bind
  obtain ⟨id, s₂, h_insert, h⟩ := run_bind_ok.mp h
  have h_waiters := unwaited_of_query h_waiters
  have h_alias := aliasFree_of_query h_alias
  have h_claimed (ok : Prop) : Orderly ok s₀ s₁ ∧
      Claimed intent.logicalAgentId evidence.publicName agent s₀ s₁ :=
    continueOrCreateAgent_run h_waiters
      (fun _ _ _ _ l h_l h_present h_name => absurd h_name (h_alias l h_l h_present)) h_claim
  refine ⟨seatFree_of_query h_seat, h_alias, h_waiters, s₁, s₂, agent, _, _, id,
    fun ok => (h_claimed ok).1, (h_claimed True).2, h_insert, Keeps.keeps h, rfl, rfl, rfl, rfl⟩

theorem declareAdoptPending_orderly {intent : AdoptIntent} {evidence : AdoptEvidence}
    {d : DeclaredStart} (h : (declareAdoptPending now intent evidence).run s = .ok (d, s')) :
    Orderly ok s s' := by
  simp only [declareAdoptPending, run_bind_require_ok] at h
  obtain ⟨-, -, -, s₁, s₂, agent, row, h_row, id, h_first, h_claimed, h_insert, h_rest, h_state,
    h_agent, h_pending, -⟩ := insertAdoptBinding_run h.2
  have h_second : Orderly ok s₁ s₂ := declareIncarnation_orderly h_insert
    (by simp [h_state]) h_pending (h_agent ▸ h_claimed.bindable)
  exact ((h_first ok).trans h_second).trans h_rest.orderly

theorem declareAdopt_orderly {intent : AdoptIntent} {evidence : AdoptEvidence}
    {d : DeclaredStart}
    (h_ok : ok → s.roster.Unique ∧ ∀ agent ∈ intent.logicalAgentId, ¬ s.roster.Present agent)
    (h : (declareAdopt now intent evidence).run s = .ok (d, s')) : Orderly ok s s' := by
  simp only [declareAdopt, run_bind_require_ok] at h
  obtain ⟨h_seat, h_alias, h_waiters, s₁, s₂, agent, row, h_row, id, h_first, h_claimed,
    h_insert, h_rest, h_state, h_agent, h_pending, h_row_seat⟩ := insertAdoptBinding_run h.2
  have h_second : Orderly ok s₁ s₂ := by
    refine insertIncarnation_orderly h_insert fun t h_t =>
      .bind h_pending (h_agent ▸ h_claimed.bindable) ?_ ?_ h_t
    · intro l h_l h_id
      rw [h_claimed.name_eq h_l (h_id.trans h_agent)]
      exact h_claimed.unwaited h_waiters
    · intro h
      obtain ⟨h_unique, h_absent⟩ := h_ok h
      -- Nobody was Ready as the agent that the adoption claims.
      have h_none : ¬ s.roster.Present agent := by
        rcases h_claimed.source with h_existing | h_new
        · exact h_absent agent h_existing
        · rintro ⟨i, h_i, h_same, -⟩
          obtain ⟨l, h_l, h_id⟩ := h_unique.known i h_i
          exact h_new l h_l (h_id.trans h_same)
      rw [h_claimed.rest]
      constructor
      · intro j h_j h_ready h_same
        exact absurd ⟨j, h_j, h_same.trans h_agent, h_ready⟩ h_none
      · intro j h_j h_seated h_same
        exact absurd (h_same.trans h_row_seat) (h_seat j h_j h_seated)
      · intro l h_l h_id l' h_l' h_present h_name
        rw [h_claimed.name_eq h_l (h_id.trans h_agent)] at h_name
        by_cases h_own : l'.id = agent
        · exact h_own.trans (h_id.trans h_agent).symm
        · exact absurd h_name (h_alias l' (h_claimed.others l' h_l' h_own) h_present)
  exact ((h_first ok).trans h_second).trans h_rest.orderly

end Declarations

-- ============================================================================
-- Readiness
-- ============================================================================

section Readiness

/-- No Ready incarnation but the superseded one shares the agent, the seat or the public
    name that the incarnation `inc` is to take. -/
def Roster.Promotable (r : Roster) (inc : IncarnationId) (seat : Option String × Option String)
    (supersedes : Option IncarnationId) : Prop :=
  ∀ i ∈ r.incarnations.rows, i.id = inc → ∀ j ∈ r.incarnations.rows, j.state = .ready →
    j.id ≠ inc → supersedes ≠ some j.id →
    j.logicalAgentId ≠ i.logicalAgentId ∧ j.seat ≠ seat ∧
      ∀ l ∈ r.agents.rows, l.id = i.logicalAgentId → ∀ l' ∈ r.agents.rows,
        l'.id = j.logicalAgentId → l'.publicName ≠ l.publicName

/-- The incarnation `inc` becomes Ready on its seat, and the superseded one stops being it. -/
structure Promoted (inc : IncarnationId) (seat : Option String × Option String)
    (supersedes : Option IncarnationId) (i i' : IncarnationRow) : Prop extends
    Occupied inc i i' where
  seat : i.id = inc → i'.seat = seat
  demoted : supersedes = some i.id → i'.state ≠ .ready

variable {inc : IncarnationId} {seat : Option String × Option String}
  {supersedes : Option IncarnationId}

theorem Promoted.orderly {t : Table IncarnationRow.id}
    (h_waiters : ∀ i ∈ s.incarnations, i.id = inc → ∀ l ∈ s.logicalAgents,
      l.id = i.logicalAgentId → s.roster.Unwaited l.publicName)
    (h_ok : ok → s.roster.Promotable inc seat supersedes)
    (h_t : s.incarnations.Edits (Promoted inc seat supersedes) t) :
    Orderly ok s (Tab.incarnations.put t s) := by
  refine .single (.occupy ?_ ?_
    (h_t.mono fun _ _ _ _ h_ii => h_ii.toOccupied))
  · intro i' h_i' h_id l h_l h_agent
    obtain ⟨i, h_i, h_ii⟩ := h_t.origin i' h_i'
    exact h_waiters i h_i (h_ii.key.symm.trans h_id) l h_l (h_agent.trans h_ii.agent)
  · intro h i' h_i' h_id
    obtain ⟨i, h_i, h_ii⟩ := h_t.origin i' h_i'
    have h_inc : i.id = inc := h_ii.key.symm.trans h_id
    -- Whoever else is Ready now was Ready before, and is not the superseded one.
    have h_other {j' : IncarnationRow} (h_j' : j' ∈ t) (h_ready : j'.state = .ready)
        (h_ne : j'.id ≠ inc) : j'.logicalAgentId ≠ i.logicalAgentId ∧ j'.seat ≠ seat ∧
        ∀ l ∈ s.logicalAgents.rows, l.id = i.logicalAgentId →
          ∀ l' ∈ s.logicalAgents.rows, l'.id = j'.logicalAgentId →
            l'.publicName ≠ l.publicName := by
      obtain ⟨j, h_j, h_jj⟩ := h_t.origin j' h_j'
      have h_jne : j.id ≠ inc := fun h_eq => h_ne (h_jj.key.trans h_eq)
      obtain ⟨h_was, h_seat⟩ := (h_jj.ready h_ready).1 h_jne
      have h_apart := h_ok h i h_i h_inc j h_j h_was h_jne
        fun h_sup => h_jj.demoted h_sup h_ready
      rwa [h_jj.agent, h_seat]
    constructor
    · intro j' h_j' h_ready h_same
      by_contra h_ne
      exact (h_other h_j' h_ready (h_id ▸ h_ne)).1 (h_same.trans h_ii.agent)
    · intro j' h_j' h_seated h_same
      by_contra h_ne
      exact (h_other h_j' h_seated.1 (h_id ▸ h_ne)).2.1 (h_same.trans (h_ii.seat h_inc))
    · rintro l h_l h_agent l' h_l' ⟨j', h_j', h_own, h_ready⟩ h_name
      by_cases h_ne : j'.id = inc
      · obtain rfl := Table.eq_of_key h_j' h_i' (h_ne.trans h_id.symm)
        exact h_own.symm.trans h_agent.symm
      · exact absurd h_name ((h_other h_j' h_ready h_ne).2.2 l h_l
          (h_agent.trans h_ii.agent) l' h_l' h_own.symm)

/-- The incarnation that a readiness observation is about is an early one. -/
theorem expectedBinding_early {states : List IncarnationState} {e : ExpectedBinding}
    (h : s.expectedBinding states inc = some e)
    (h_states : ∀ state ∈ states, state = .declared ∨ state = .starting) :
    ∀ i ∈ s.incarnations, i.id = inc → i.Early ∧ s.publicName i.logicalAgentId = some e.name := by
  unfold Store.expectedBinding at h
  obtain ⟨i, h_find, h⟩ := Option.bind_eq_some_iff.mp h
  rw [guard_bind_eq_some] at h
  obtain ⟨h_state, h⟩ := h
  obtain ⟨name, h_name, h⟩ := Option.bind_eq_some_iff.mp h
  cases h
  obtain ⟨h_i, h_id⟩ := Table.find_eq_some.mp h_find
  intro i' h_i' h_id'
  obtain rfl := Table.eq_of_key h_i' h_i (h_id'.trans h_id.symm)
  exact ⟨h_states _ h_state, h_name⟩

/-- The name that a readiness observation is about is the one of its agent. -/
theorem expectedBinding_unwaited {e : ExpectedBinding}
    (h_name : ∀ i ∈ s.incarnations, i.id = inc →
      i.Early ∧ s.publicName i.logicalAgentId = some e.name)
    (h_waiters : s.roster.Unwaited e.name) :
    ∀ i ∈ s.incarnations, i.id = inc → ∀ l ∈ s.logicalAgents,
      l.id = i.logicalAgentId → s.roster.Unwaited l.publicName := by
  intro i h_i h_id l h_l h_agent
  have h_find : s.logicalAgents.find i.logicalAgentId = some l :=
    Table.find_eq_some.mpr ⟨h_l, h_agent⟩
  have h_same := (h_name i h_i h_id).2
  rw [Store.publicName, h_find] at h_same
  have h_label : l.publicName = e.name := Option.some_inj.mp h_same
  rwa [h_label]

/-- The statement that makes the incarnation Ready. -/
theorem updateRows_promoted {p : IncarnationRow → Prop} [DecidablePred p]
    {f : IncarnationRow → IncarnationRow} {h_key : ∀ i, (f i).id = i.id} {n : Nat}
    (h : (updateRows Tab.incarnations p f h_key : StoreTx Nat).run s = .ok (n, s'))
    (h_p : ∀ i, p i ↔ i.id = inc) (h_early : ∀ i ∈ s.incarnations, i.id = inc → i.Early)
    (h_f : ∀ i, (f i).logicalAgentId = i.logicalAgentId ∧ (f i).state = .ready ∧
      (f i).seat = seat ∧ (f i).pendingRenameTo = i.pendingRenameTo) :
    ∃ t, s' = Tab.incarnations.put t s ∧ s.incarnations.Edits (Promoted inc seat none) t := by
  refine run_updateRows_edits (Promoted inc seat none) h ?_ ?_
  · intro i h_i h_pi
    have h_id := (h_p i).mp h_pi
    obtain ⟨h_agent, h_ready, h_seat, h_pending⟩ := h_f i
    refine ⟨⟨h_key i, h_agent, fun _ => ⟨fun h_ne => absurd h_id h_ne,
      fun _ => h_early i h_i h_id⟩, ?_, .inl h_pending⟩, fun _ => h_seat, by simp⟩
    simp [IncarnationRow.Early, h_ready]
  · intro i _ h_pi
    have h_id : i.id ≠ inc := fun h_id => h_pi ((h_p i).mpr h_id)
    exact ⟨⟨rfl, rfl, fun h_ready => ⟨fun _ => ⟨h_ready, rfl⟩, fun h_eq => absurd h_eq h_id⟩,
      id, .inl rfl⟩, fun h_eq => absurd h_eq h_id, by simp⟩

variable (inc seat) in
/-- The operation and the incarnation of a readiness observation. -/
theorem settled_promoted {α : Type} {x : StoreTx α} {a : α} {p : IncarnationRow → Prop}
    [DecidablePred p] {f : IncarnationRow → IncarnationRow} {h_key : ∀ i, (f i).id = i.id}
    {n : Nat} {s₁ s₂ : Store} [hx : Keeps SameRoster x] (h_x : x.run s = .ok (a, s₁))
    (h : (updateRows Tab.incarnations p f h_key : StoreTx Nat).run s₁ = .ok (n, s₂))
    (h_p : ∀ i, p i ↔ i.id = inc) (h_early : ∀ i ∈ s.incarnations, i.id = inc → i.Early)
    (h_f : ∀ i, (f i).logicalAgentId = i.logicalAgentId ∧ (f i).state = .ready ∧
      (f i).seat = seat ∧ (f i).pendingRenameTo = i.pendingRenameTo) :
    ∃ t, s₂ = Tab.incarnations.put t s₁ ∧
      SameRoster (Tab.incarnations.put t s) (Tab.incarnations.put t s₁) ∧
      s.incarnations.Edits (Promoted inc seat none) t := by
  have h_same : SameRoster s s₁ := hx.keeps h_x
  have h_inc : s₁.incarnations = s.incarnations := congrArg Roster.incarnations h_same
  obtain ⟨t, rfl, h_t⟩ := updateRows_promoted h h_p
    (fun i h_i => h_early i (h_inc ▸ h_i)) h_f
  rw [h_inc] at h_t
  exact ⟨t, rfl, congrArg (fun r : Roster => (⟨r.agents, t⟩ : Roster)) h_same, h_t⟩

theorem acceptAdoptReady_orderly {op : OperationId} {agent : AgentObservation} {u : Unit}
    (h_ok : ok → s.roster.Promotable inc (some agent.paneId, some agent.terminalId) none)
    (h : (acceptAdoptReady now op inc agent).run s = .ok (u, s')) : Orderly ok s s' := by
  simp only [acceptAdoptReady, run_bind_reads, run_bind_orFail_ok, run_bind_require_ok,
    run_bind_query_ok] at h
  obtain ⟨e, h_expected, -, _, h_waiters, h⟩ := h
  obtain ⟨_, s₁, h_op, h⟩ := run_bind_ok.mp h
  rw [run_bind_require_ok] at h
  obtain ⟨-, h⟩ := h
  obtain ⟨_, s₂, h_ready, h⟩ := run_bind_ok.mp h
  have h_name := expectedBinding_early h_expected (by simp)
  obtain ⟨t, rfl, h_put, h_t⟩ := settled_promoted inc
    (some agent.paneId, some agent.terminalId) h_op h_ready (fun _ => Iff.rfl)
    (fun i h_i h_id => (h_name i h_i h_id).1) fun _ => ⟨rfl, rfl, rfl, rfl⟩
  have h_promoted : Orderly ok s (Tab.incarnations.put t s) :=
    Promoted.orderly (expectedBinding_unwaited h_name (unwaited_of_query h_waiters)) h_ok h_t
  have h_rest : SameRoster (Tab.incarnations.put t s₁) s' := Keeps.keeps h
  exact h_promoted.trans ((SameRoster.stepwise.trans h_put h_rest).orderly)

/-- A predecessor that was demoted is not Ready afterwards. -/
theorem demotePredecessor_run {predecessor : IncarnationId} {s₁ : Store} {u : Unit}
    (h_promoted : s.incarnations.Edits (Promoted inc seat none) s₁.incarnations)
    (h : (demotePredecessor now predecessor inc).run s₁ = .ok (u, s')) :
    ∃ t', s' = Tab.incarnations.put t' s₁ ∧
      s.incarnations.Edits (Promoted inc seat (some predecessor)) t' := by
  simp only [demotePredecessor, run_bind_reads] at h
  obtain ⟨n, s₂, h_demote, h⟩ := run_bind_ok.mp h
  simp only [run_require_ok, Prod.mk.injEq] at h
  obtain ⟨h_n, -, rfl⟩ := h
  obtain ⟨-, -, r, h_r, h_pr, -⟩ := run_updateRows_pos h_demote (by omega)
  obtain ⟨t', rfl, h_t'⟩ := run_updateRows_edits
    (fun i i' => i'.id = i.id ∧ i'.logicalAgentId = i.logicalAgentId ∧ i'.seat = i.seat ∧
      i'.pendingRenameTo = i.pendingRenameTo ∧ (i'.state = i.state ∨ i'.state = .superseded) ∧
      (i.id = predecessor → i'.state ≠ .ready)) h_demote
    (fun i _ _ => ⟨rfl, rfl, rfl, rfl, .inr rfl, by simp⟩)
    fun i h_i h_not => ⟨rfl, rfl, rfl, rfl, .inl rfl, fun h_id => by
      obtain rfl := Table.eq_of_key h_i h_r (h_id.trans h_pr.1.symm)
      exact absurd h_pr h_not⟩
  refine ⟨t', rfl, h_promoted.trans h_t' ?_⟩
  rintro i j k h_ij ⟨h_key, h_agent, h_seat, h_pending, h_state, h_gone⟩
  have h_kept (h_ready : k.state = .ready) : j.state = .ready := by
    rcases h_state with h_state | h_state
    · exact h_state ▸ h_ready
    · rw [h_state] at h_ready
      cases h_ready
  refine ⟨⟨h_key.trans h_ij.key, h_agent.trans h_ij.agent, fun h_ready => ?_, fun h_early => ?_,
    h_pending ▸ h_ij.pending⟩, fun h_id => h_seat.trans (h_ij.seat h_id), fun h_sup => ?_⟩
  · obtain ⟨h_other, h_own⟩ := h_ij.ready (h_kept h_ready)
    exact ⟨fun h_ne => ⟨(h_other h_ne).1, h_seat.trans (h_other h_ne).2⟩, h_own⟩
  · refine h_ij.early ?_
    rcases h_state with h_state | h_state
    · rwa [IncarnationRow.Early, ← h_state]
    · simp [IncarnationRow.Early, h_state] at h_early
  · exact h_gone (h_ij.key.trans (Option.some_inj.mp h_sup).symm)

theorem acceptStartReady_orderly {op : OperationId} {agent : AgentObservation} {u : Unit}
    (h_ok : ok → s.roster.Promotable inc (some agent.paneId, some agent.terminalId) supersedes)
    (h : (acceptStartReady now op inc agent supersedes).run s = .ok (u, s')) :
    Orderly ok s s' := by
  simp only [acceptStartReady, run_bind_reads, run_bind_orFail_ok, run_bind_require_ok,
    run_bind_query_ok] at h
  obtain ⟨e, h_expected, -, _, h_waiters, h⟩ := h
  obtain ⟨_, s₁, h_op, h⟩ := run_bind_ok.mp h
  rw [run_bind_require_ok] at h
  obtain ⟨-, h⟩ := h
  obtain ⟨_, s₂, h_ready, h⟩ := run_bind_ok.mp h
  obtain ⟨_, s₃, h_attempt, h_end⟩ := run_bind_ok.mp h
  have h_name := expectedBinding_early h_expected (by simp)
  obtain ⟨t, rfl, h_put, h_t⟩ := settled_promoted inc
    (some agent.paneId, some agent.terminalId) h_op h_ready (fun _ => Iff.rfl)
    (fun i h_i h_id => (h_name i h_i h_id).1) fun _ => ⟨rfl, rfl, rfl, rfl⟩
  have h_unwaited := expectedBinding_unwaited h_name (unwaited_of_query h_waiters)
  have h_same : SameRoster (Tab.incarnations.put t s) s₃ :=
    SameRoster.stepwise.trans h_put (Keeps.keeps h_attempt)
  cases supersedes with
  | none =>
    cases h_end
    exact (Promoted.orderly h_unwaited h_ok h_t).trans h_same.orderly
  | some predecessor =>
    rw [← show s₃.incarnations = t from congrArg Roster.incarnations h_same] at h_t
    obtain ⟨t', rfl, h_t'⟩ := demotePredecessor_run h_t h_end
    have h_promoted : Orderly ok s (Tab.incarnations.put t' s) :=
      Promoted.orderly h_unwaited h_ok h_t'
    have h_rest : SameRoster (Tab.incarnations.put t' s) (Tab.incarnations.put t' s₃) :=
      congrArg (fun r : Roster => (⟨r.agents, t'⟩ : Roster)) h_same
    exact h_promoted.trans h_rest.orderly

end Readiness

-- ============================================================================
-- Renames
-- ============================================================================

theorem commitRename_orderly {inc : IncarnationId} {name : String} {u : Unit}
    (h_ok : ok → ∀ i ∈ s.incarnations, i.id = inc → s.roster.NameFree i.logicalAgentId name)
    (h : (commitRename inc name).run s = .ok (u, s')) : Orderly ok s s' := by
  simp only [commitRename, run_bind_reads, run_bind_orFail_ok, run_bind_query_ok] at h
  obtain ⟨i, h_owner, _, h_waiters, h⟩ := h
  obtain ⟨_, s₁, h_rename, h⟩ := run_bind_ok.mp h
  obtain ⟨_, s₂, h_drop, h⟩ := run_bind_ok.mp h
  cases h
  obtain ⟨h_find, h_state⟩ := Option.filter_eq_some_iff.mp h_owner
  obtain ⟨h_i, h_id⟩ := Table.find_eq_some.mp h_find
  obtain ⟨t, rfl, h_t⟩ := run_updateRows_edits (Renamed i.logicalAgentId name) h_rename
    (fun l _ h_l => ⟨rfl, by simp [h_l], rfl, rfl⟩)
    fun l _ h_l => ⟨rfl, by simp [h_l], rfl, rfl⟩
  have h_renamed : Orderly ok s (Tab.logicalAgents.put t s) :=
    .single (.rename (.inl ⟨i, h_i, rfl⟩) (unwaited_of_query h_waiters)
      (fun h => h_ok h i h_i h_id) h_t)
  exact h_renamed.trans (keeps_dropPending.keeps h_drop)

end Kelpie
