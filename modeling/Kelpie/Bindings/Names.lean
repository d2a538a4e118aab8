/-
  Kelpie.Bindings.Names

  The one name space of socket waiters and Herdr agents: what an active waiter
  is called, no other active waiter is called, no agent with a Ready incarnation
  is called, and no Ready incarnation is about to be called.
-/

import Kelpie.Bindings.Continuation

namespace Kelpie

open Lib Lib.Tx Roster

variable {ok : Prop} {r r' : Roster} {s s' : Store} {snapshot : Snapshot}

/-- The names of active socket waiters are theirs alone. -/
structure Roster.OneNameSpace (r : Roster) : Prop where
  owner : ∀ i ∈ r.incarnations, r.Bindable i.logicalAgentId
  early : ∀ i ∈ r.incarnations, i.Early → i.pendingRenameTo = none
  waiters : r.agents.Exclusive LogicalAgentRow.ActiveWaiter (·.publicName)
  unclaimed : ∀ w ∈ r.agents, w.ActiveWaiter → r.Unclaimed w.publicName

namespace Roster.OneNameSpace

theorem empty : OneNameSpace ⟨.empty, .empty⟩ :=
  ⟨fun _ h => absurd h Table.notMem_empty, fun _ h => absurd h Table.notMem_empty, .empty,
    fun _ h => absurd h Table.notMem_empty⟩

/-- No incarnation belongs to an active waiter. -/
theorem apart (h : OneNameSpace r) {w : LogicalAgentRow} (h_w : w ∈ r.agents)
    (h_active : w.ActiveWaiter) {i : IncarnationRow} (h_i : i ∈ r.incarnations) :
    i.logicalAgentId ≠ w.id := by
  intro h_same
  obtain ⟨l, h_l, h_id, h_transport⟩ := h.owner i h_i
  obtain rfl := Table.eq_of_key h_l h_w (h_id.trans h_same)
  exact h_transport h_active.1

-- ============================================================================
-- Changes of the agents
-- ============================================================================

section Agents

variable {t : Table LogicalAgentRow.id}

theorem owner_edits {e : LogicalAgentRow → LogicalAgentRow → Prop} (h : OneNameSpace r)
    (h_t : r.agents.Edits e t) (h_e : ∀ l l', e l l' → l'.id = l.id ∧
      l'.deliveryTransport = l.deliveryTransport) :
    ∀ i ∈ r.incarnations, ({ r with agents := t } : Roster).Bindable i.logicalAgentId := by
  intro i h_i
  obtain ⟨l, h_l, h_id, h_transport⟩ := h.owner i h_i
  obtain ⟨l', h_l', h_ll⟩ := h_t.image l h_l
  obtain ⟨h_key, h_same⟩ := h_e l l' h_ll
  exact ⟨l', h_l', h_key.trans h_id, h_same ▸ h_transport⟩

theorem enroll (h : OneNameSpace r) {l : LogicalAgentRow}
    (h_waiter : l.ActiveWaiter → r.Unwaited l.publicName ∧ r.Unclaimed l.publicName)
    (h_t : r.agents.Adds (some l) t) : OneNameSpace { r with agents := t } where
  owner i h_i := by
    obtain ⟨l', h_l', h_rest⟩ := h.owner i h_i
    exact ⟨l', (h_t.mem l').mpr (.inl h_l'), h_rest⟩
  early := h.early
  waiters := by
    refine h.waiters.adds h_t (fun _ _ => id) (fun _ _ _ => rfl) ?_
    intro l' h_l' h_active w h_w h_active'
    obtain rfl := Option.mem_some.mp h_l'
    exact (h_waiter h_active).1 w h_w h_active'
  unclaimed w h_w h_active := by
    have h_claim : r.Unclaimed w.publicName := by
      rcases (h_t.mem w).mp h_w with h_old | h_new
      · exact h.unclaimed w h_old h_active
      · obtain rfl := Option.mem_some.mp h_new
        exact (h_waiter h_active).2
    refine ⟨fun l' h_l' h_present => ?_, h_claim.pending⟩
    rcases (h_t.mem l').mp h_l' with h_old | h_new
    · exact h_claim.held l' h_old h_present
    · -- No incarnation belongs to an agent that is new.
      obtain ⟨i, h_i, h_agent, -⟩ := h_present
      obtain ⟨l₀, h_l₀, h_id, -⟩ := h.owner i h_i
      exact absurd (h_id.trans h_agent) (h_t.fresh l' h_new l₀ h_l₀)

theorem note (h : OneNameSpace r) (h_t : r.agents.Edits Noted t) :
    OneNameSpace { r with agents := t } where
  owner := h.owner_edits h_t fun _ _ h_ll => ⟨h_ll.key, h_ll.transport⟩
  early := h.early
  waiters := h.waiters.narrow h_t (fun _ _ h_ll => h_ll.key) fun _ _ _ _ h_ll h_active =>
    ⟨h_ll.waiter h_active, h_ll.name⟩
  unclaimed w' h_w' h_active := by
    obtain ⟨w, h_w, h_ww⟩ := h_t.origin w' h_w'
    have h_claim := h.unclaimed w h_w (h_ww.waiter h_active)
    rw [h_ww.name]
    refine ⟨fun l' h_l' h_present => ?_, h_claim.pending⟩
    obtain ⟨l, h_l, h_ll⟩ := h_t.origin l' h_l'
    rw [h_ll.name]
    exact h_claim.held l h_l (h_ll.key ▸ h_present)

theorem rename (h : OneNameSpace r) {agent : LogicalAgentId} {name : String}
    (h_owner : (∃ i ∈ r.incarnations, i.logicalAgentId = agent) ∨
      ∀ l ∈ r.agents, l.id = agent → l.deliveryTransport ≠ .socketInbox)
    (h_waiters : r.Unwaited name) (h_t : r.agents.Edits (Renamed agent name) t) :
    OneNameSpace { r with agents := t } := by
  -- The agent that is renamed is no active waiter.
  have h_label {w w' : LogicalAgentRow} (h_w : w ∈ r.agents) (h_ww : Renamed agent name w w')
      (h_active : w'.ActiveWaiter) : w'.publicName = w.publicName := by
    rw [h_ww.name, if_neg]
    intro h_id
    rcases h_owner with ⟨i, h_i, h_agent⟩ | h_pane
    · exact h.apart h_w (h_ww.waiter h_active) h_i (h_agent.trans h_id.symm)
    · exact h_pane w h_w h_id (h_ww.waiter h_active).1
  refine ⟨h.owner_edits h_t fun _ _ h_ll => ⟨h_ll.key, h_ll.transport⟩, h.early, ?_, ?_⟩
  · exact h.waiters.narrow h_t (fun _ _ h_ll => h_ll.key) fun _ h_l _ _ h_ll h_active =>
      ⟨h_ll.waiter h_active, h_label h_l h_ll h_active⟩
  · intro w' h_w' h_active
    obtain ⟨w, h_w, h_ww⟩ := h_t.origin w' h_w'
    have h_claim := h.unclaimed w h_w (h_ww.waiter h_active)
    rw [h_label h_w h_ww h_active]
    refine ⟨fun l' h_l' h_present => ?_, h_claim.pending⟩
    obtain ⟨l, h_l, h_ll⟩ := h_t.origin l' h_l'
    rw [h_ll.name]
    split
    · exact (h_waiters w h_w (h_ww.waiter h_active)).symm
    · exact h_claim.held l h_l (h_ll.key ▸ h_present)

end Agents

-- ============================================================================
-- Changes of the incarnations
-- ============================================================================

section Incarnations

variable {t : Table IncarnationRow.id}

theorem owner_steady {e : IncarnationRow → IncarnationRow → Prop} (h : OneNameSpace r)
    (h_t : r.incarnations.Edits e t)
    (h_e : ∀ i i', e i i' → i'.logicalAgentId = i.logicalAgentId) :
    ∀ i ∈ t, ({ r with incarnations := t } : Roster).Bindable i.logicalAgentId := by
  intro i' h_i'
  obtain ⟨i, h_i, h_ii⟩ := h_t.origin i' h_i'
  rw [h_e i i' h_ii]
  exact h.owner i h_i

theorem early_edits {e : IncarnationRow → IncarnationRow → Prop} (h : OneNameSpace r)
    (h_t : r.incarnations.Edits e t)
    (h_e : ∀ i i', e i i' → i'.Early → i.Early ∧
      (i'.pendingRenameTo = i.pendingRenameTo ∨ i'.pendingRenameTo = none)) :
    ∀ i ∈ t, i.Early → i.pendingRenameTo = none := by
  intro i' h_i' h_early
  obtain ⟨i, h_i, h_ii⟩ := h_t.origin i' h_i'
  obtain ⟨h_was, h_same | h_none⟩ := h_e i i' h_ii h_early
  · rw [h_same]
    exact h.early i h_i h_was
  · exact h_none

theorem settle (h : OneNameSpace r) (h_t : r.incarnations.Edits Settled t) :
    OneNameSpace { r with incarnations := t } where
  owner := h.owner_steady h_t fun _ _ h_ii => h_ii.agent
  early := h.early_edits h_t fun _ _ h_ii h_early => ⟨h_ii.early h_early, h_ii.pending⟩
  waiters := h.waiters
  unclaimed w h_w h_active := by
    have h_claim := h.unclaimed w h_w h_active
    refine ⟨fun l h_l h_present => h_claim.held l h_l
      (h_present.steady h_t fun _ _ => Settled.toSteady), fun i' h_i' h_ready => ?_⟩
    obtain ⟨i, h_i, h_ii⟩ := h_t.origin i' h_i'
    rcases h_ii.pending with h_same | h_none
    · rw [h_same]
      exact h_claim.pending i h_i (h_ii.ready h_ready).1
    · simp [h_none]

theorem pend (h : OneNameSpace r) {name : String} (h_waiters : r.Unwaited name)
    (h_t : r.incarnations.Edits (Pended name) t) : OneNameSpace { r with incarnations := t } where
  owner := h.owner_steady h_t fun _ _ h_ii => h_ii.agent
  early := h.early_edits h_t fun i i' h_ii h_early => by
    refine ⟨h_ii.early h_early, h_ii.pending.imp_right fun h_pended => ?_⟩
    simp [IncarnationRow.Early, h_pended.1] at h_early
  waiters := h.waiters
  unclaimed w h_w h_active := by
    have h_claim := h.unclaimed w h_w h_active
    refine ⟨fun l h_l h_present => h_claim.held l h_l
      (h_present.steady h_t fun _ _ => Pended.toSteady), fun i' h_i' h_ready => ?_⟩
    obtain ⟨i, h_i, h_ii⟩ := h_t.origin i' h_i'
    rcases h_ii.pending with h_same | ⟨-, h_name⟩
    · rw [h_same]
      exact h_claim.pending i h_i (h_ii.ready h_ready).1
    · rw [h_name]
      exact fun h_eq => h_waiters w h_w h_active (Option.some_inj.mp h_eq).symm

/-- An incarnation is added: if it is Ready, under an agent whose name no waiter holds. -/
theorem bind (h : OneNameSpace r) {i : IncarnationRow} (h_pending : i.pendingRenameTo = none)
    (h_known : r.Bindable i.logicalAgentId)
    (h_waiters : i.state = .ready → ∀ l ∈ r.agents, l.id = i.logicalAgentId →
      r.Unwaited l.publicName)
    (h_t : r.incarnations.Adds (some i) t) : OneNameSpace { r with incarnations := t } where
  owner j h_j := by
    rcases (h_t.mem j).mp h_j with h_old | h_new
    · exact h.owner j h_old
    · exact Option.mem_some.mp h_new ▸ h_known
  early j h_j h_early := by
    rcases (h_t.mem j).mp h_j with h_old | h_new
    · exact h.early j h_old h_early
    · exact Option.mem_some.mp h_new ▸ h_pending
  waiters := h.waiters
  unclaimed w h_w h_active := by
    have h_claim := h.unclaimed w h_w h_active
    constructor
    · rintro l h_l ⟨j, h_j, h_agent, h_ready⟩
      rcases (h_t.mem j).mp h_j with h_old | h_new
      · exact h_claim.held l h_l ⟨j, h_old, h_agent, h_ready⟩
      · obtain rfl := Option.mem_some.mp h_new
        exact (h_waiters h_ready l h_l h_agent.symm w h_w h_active).symm
    · intro j h_j h_ready
      rcases (h_t.mem j).mp h_j with h_old | h_new
      · exact h_claim.pending j h_old h_ready
      · simp [← Option.mem_some.mp h_new, h_pending]

theorem occupy (h : OneNameSpace r) {id : IncarnationId}
    (h_waiters : ∀ i ∈ t, i.id = id → ∀ l ∈ r.agents, l.id = i.logicalAgentId →
      r.Unwaited l.publicName)
    (h_t : r.incarnations.Edits (Occupied id) t) : OneNameSpace { r with incarnations := t } where
  owner := h.owner_steady h_t fun _ _ h_ii => h_ii.agent
  early := h.early_edits h_t fun _ _ h_ii h_early => ⟨h_ii.early h_early, h_ii.pending⟩
  waiters := h.waiters
  unclaimed w h_w h_active := by
    have h_claim := h.unclaimed w h_w h_active
    constructor
    · intro l h_l h_present
      rcases h_present.occupied h_t with h_was | ⟨i, h_i, h_id, h_agent⟩
      · exact h_claim.held l h_l h_was
      · exact (h_waiters i h_i h_id l h_l h_agent w h_w h_active).symm
    · intro i' h_i' h_ready
      obtain ⟨i, h_i, h_ii⟩ := h_t.origin i' h_i'
      rcases h_ii.pending with h_same | h_none
      · rw [h_same]
        obtain ⟨h_other, h_own⟩ := h_ii.ready h_ready
        by_cases h_id : i.id = id
        · simp [h.early i h_i (h_own h_id)]
        · exact h_claim.pending i h_i (h_other h_id).1
      · simp [h_none]

end Incarnations

/-- Every change keeps the one name space. -/
theorem change (h : OneNameSpace r) (h_change : Change ok r r') : OneNameSpace r' := by
  cases h_change with
  | enroll h_waiter h_t => exact h.enroll h_waiter h_t
  | note h_t => exact h.note h_t
  | rename h_owner h_waiters _ h_t => exact h.rename h_owner h_waiters h_t
  | settle h_t => exact h.settle h_t
  | pend h_waiters h_t => exact h.pend h_waiters h_t
  | declare h_state h_pending h_known h_t =>
    exact h.bind h_pending h_known (fun h_ready => absurd h_ready h_state) h_t
  | bind h_pending h_known h_waiters _ h_t =>
    exact h.bind h_pending h_known (fun _ => h_waiters) h_t
  | occupy h_waiters _ h_t => exact h.occupy h_waiters h_t

theorem changes (h : OneNameSpace r) (h_changes : Changes ok r r') : OneNameSpace r' := by
  induction h_changes with
  | refl => exact h
  | tail _ h_change ih => exact ih.change h_change

-- ============================================================================
-- Recovery
-- ============================================================================

/-- Several incarnations are added under agents whose names no waiter holds. -/
theorem bindAll (h : OneNameSpace r) {rows : List IncarnationRow} {t : Table IncarnationRow.id}
    (h_rows : ∀ i ∈ rows, i.pendingRenameTo = none ∧ r.Bindable i.logicalAgentId ∧
      ∀ l ∈ r.agents, l.id = i.logicalAgentId → r.Unwaited l.publicName)
    (h_t : r.incarnations.AddsAll rows t) : OneNameSpace { r with incarnations := t } := by
  obtain ⟨agents, incarnations⟩ := r
  replace h_t : incarnations.AddsAll rows t := h_t
  induction h_t with
  | nil => exact h
  | cons h_i _ ih =>
    obtain ⟨h_pending, h_known, h_waiters⟩ := h_rows _ List.mem_cons_self
    exact ih (h.bind h_pending h_known (fun _ => h_waiters) h_i)
      fun i h_mem => h_rows i (List.mem_cons_of_mem _ h_mem)

/-- A pass that reconciles the Ready bindings keeps the one name space: the names that it
    commits were pending, and so no waiter could take them. -/
theorem reconciled (h : s.roster.OneNameSpace) {bs : List ReadyBinding}
    (h_bs : readyBindings s = .ok bs) (h_rec : Reconciled snapshot bs s s') :
    s'.roster.OneNameSpace := by
  have h_bound {b : ReadyBinding} (h_b : b ∈ bs) {agent : LogicalAgentId}
      (h_owner : (s.incarnations.find b.id).map (·.logicalAgentId) = some agent) :
      ∃ i, b.Of s i ∧ i.logicalAgentId = agent := by
    obtain ⟨i, h_of⟩ := readyBindings_of h_bs h_b
    rw [h_of.id, Table.find_eq_some.mpr ⟨h_of.row, rfl⟩] at h_owner
    exact ⟨i, h_of, Option.some_inj.mp h_owner⟩
  have h_agent {l l' : LogicalAgentRow} (h_ll : Relabelled s.incarnations snapshot bs l l') :
      l'.id = l.id ∧ l'.deliveryTransport = l.deliveryTransport ∧
        l'.targetingEndedAtMs = l.targetingEndedAtMs := by
    rw [show l' = _ from h_ll]
    exact ⟨rfl, rfl, rfl⟩
  have h_active {w w' : LogicalAgentRow}
      (h_ww : Relabelled s.incarnations snapshot bs w w') (h_w' : w'.ActiveWaiter) :
      w.ActiveWaiter := ⟨(h_agent h_ww).2.1 ▸ h_w'.1, (h_agent h_ww).2.2 ▸ h_w'.2⟩
  -- Waiters keep their names.
  have h_label {w w' : LogicalAgentRow} (h_w : w ∈ s.logicalAgents)
      (h_ww : Relabelled s.incarnations snapshot bs w w') (h_w' : w'.ActiveWaiter) :
      w'.publicName = w.publicName := by
    rw [show w' = _ from h_ww]
    rcases foldl_takesName_cases s.incarnations snapshot bs w.id w.publicName with
      ⟨h_same, -⟩ | ⟨b, h_b, ⟨-, h_owner⟩, -⟩
    · exact h_same
    · obtain ⟨i, h_of, h_own⟩ := h_bound h_b h_owner
      exact absurd h_own (h.apart h_w (h_active h_ww h_w') h_of.row)
  have h_lost := h_rec.incarnations
  have h_ready {i i' : IncarnationRow} (h_ii : Checked snapshot bs i i')
      (h_i' : i'.state = .ready) : i.state = .ready := by
    rw [h_ii.state] at h_i'
    split at h_i'
    · cases h_i'
    · exact h_i'
  refine ⟨fun i' h_i' => ?_, ?_, ?_, fun w' h_w' h_active' => ?_⟩
  · obtain ⟨i, h_i, h_ii⟩ := h_lost.origin i' h_i'
    obtain ⟨l, h_l, h_id, h_transport⟩ := h.owner i h_i
    obtain ⟨l', h_l', h_ll⟩ := h_rec.agents.image l h_l
    obtain ⟨h_key, h_same, -⟩ := h_agent h_ll
    rw [h_ii.same.agent]
    exact ⟨l', h_l', h_key.trans h_id, h_same ▸ h_transport⟩
  · refine h.early_edits h_lost fun i i' h_ii h_early => ⟨?_, h_ii.same.pending⟩
    unfold IncarnationRow.Early at h_early ⊢
    rw [h_ii.state] at h_early
    split at h_early
    · simp at h_early
    · exact h_early
  · exact h.waiters.narrow h_rec.agents (fun _ _ h_ll => (h_agent h_ll).1)
      fun _ h_l _ _ h_ll h_l' => ⟨h_active h_ll h_l', h_label h_l h_ll h_l'⟩
  · obtain ⟨w, h_w, h_ww⟩ := h_rec.agents.origin w' h_w'
    have h_claim := h.unclaimed w h_w (h_active h_ww h_active')
    rw [h_label h_w h_ww h_active']
    constructor
    · rintro l' h_l' ⟨i', h_i', h_own, h_i'_ready⟩
      obtain ⟨l, h_l, h_ll⟩ := h_rec.agents.origin l' h_l'
      obtain ⟨i, h_i, h_ii⟩ := h_lost.origin i' h_i'
      rw [show l' = _ from h_ll]
      rcases foldl_takesName_cases s.incarnations snapshot bs l.id l.publicName with
        ⟨h_same, -⟩ | ⟨b, h_b, ⟨h_renamed, -⟩, h_taken⟩
      · rw [h_same]
        refine h_claim.held l h_l ⟨i, h_i, ?_, h_ready h_ii h_i'_ready⟩
        rw [← h_ii.same.agent, h_own, (h_agent h_ll).1]
      · rw [h_taken]
        obtain ⟨j, h_of⟩ := readyBindings_of h_bs h_b
        have h_pending := h_claim.pending j h_of.row h_of.ready
        rw [← h_of.pending, b.pending_of_renamed h_renamed] at h_pending
        exact fun h_eq => h_pending (congrArg some h_eq)
    · intro i' h_i' h_i'_ready
      obtain ⟨i, h_i, h_ii⟩ := h_lost.origin i' h_i'
      rcases h_ii.same.pending with h_same | h_none
      · rw [h_same]
        exact h_claim.pending i h_i (h_ready h_ii h_i'_ready)
      · simp [h_none]

end Roster.OneNameSpace

end Kelpie
