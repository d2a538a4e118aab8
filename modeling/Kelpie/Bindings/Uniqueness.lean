/-
  Kelpie.Bindings.Uniqueness

  The roster over whole runs: the names of socket waiters are theirs alone in
  every reachable state, and the Ready bindings are unique in every state that a
  run reaches whose calls find free what they take.
-/

import Kelpie.Bindings.Names
import Kelpie.Bindings.Occupants
import Kelpie.Bindings.Promotion

namespace Kelpie

open Lib Lib.Tx Roster

variable {s s' : Store} {now : Millis} {snapshot : Snapshot}

-- ============================================================================
-- The agents of a continuation pass
-- ============================================================================

section Continuations

variable {c : Continuation}

theorem continuation_source (h : c ∈ s.pendingContinuations snapshot) :
    c.source ∈ s.occupancies ∧ c.source.agent.deliveryTransport ≠ .socketInbox := by
  rcases List.mem_append.mp h with h_c | h_c
  · obtain ⟨session, h_match⟩ := mem_sessionContinuations h_c
    have h_row := List.mem_filter.mp (List.mem_of_mem_filter h_match.source)
    exact ⟨h_row.1, (of_decide_eq_true h_row.2).2.2.1⟩
  · have h_row := (mem_seatContinuations h_c).1
    refine ⟨mem_continuableSeatRows h_row, ?_⟩
    unfold Store.continuableSeatRows at h_row
    rw [(List.perm_insertionSort _ _).mem_iff] at h_row
    have h_herdr := (of_decide_eq_true (List.mem_filter.mp h_row).2).2.2
    rw [h_herdr]
    decide

/-- The agent that a continuation names is known, and is no waiter. -/
theorem continuation_agent (h : c ∈ s.pendingContinuations snapshot) :
    c.source.agent ∈ s.logicalAgents ∧ s.roster.Bindable c.agentId := by
  obtain ⟨h_row, h_transport⟩ := continuation_source h
  have h_agent := (Table.find_eq_some.mp (mem_occupancies.mp h_row).2).1
  exact ⟨h_agent, c.source.agent, h_agent, rfl, h_transport⟩

/-- What a continuation that is not refused finds about its name. -/
structure NameFound (s : Store) (snapshot : Snapshot) (c : Continuation) : Prop where
  alone : ∀ d ∈ s.pendingContinuations snapshot,
    d.source.agent.publicName = c.source.agent.publicName → d.agentId = c.agentId
  elsewhere : ¬ s.AliasReadyElsewhere c.source.agent.publicName c.agentId
  waiting : ¬ s.AliasWaiting c.source.agent.publicName

theorem continuation_name (h : c ∈ s.continuations snapshot) : NameFound s snapshot c := by
  obtain ⟨h_pending, h_admits⟩ := List.mem_filter.mp h
  have h_admits : s.refuseContinuation (s.pendingContinuations snapshot) c = none :=
    of_decide_eq_true h_admits
  unfold Store.refuseContinuation at h_admits
  dsimp only at h_admits
  split at h_admits
  · cases h_admits
  · rename_i h_claimants
    split at h_admits
    · cases h_admits
    · rename_i h_elsewhere
      split at h_admits
      · cases h_admits
      · rename_i h_waiting
        refine ⟨fun d h_d h_name => ?_, h_elsewhere, h_waiting⟩
        -- Two claimants would be two elements of a list without repetition.
        by_contra h_ne
        have h_nodup : (aliasClaimants (s.pendingContinuations snapshot)
            c.source.agent.publicName).Nodup := List.nodup_dedup _
        have h_mem {e : Continuation} (h_e : e ∈ s.pendingContinuations snapshot)
            (h_same : e.source.agent.publicName = c.source.agent.publicName) :
            e.agentId ∈ aliasClaimants (s.pendingContinuations snapshot)
              c.source.agent.publicName := by
          unfold aliasClaimants
          rw [List.mem_dedup]
          exact List.mem_map_of_mem (List.mem_filter.mpr ⟨h_e, by simpa using h_same⟩)
        have h_two : [d.agentId, c.agentId].Subperm (aliasClaimants
            (s.pendingContinuations snapshot) c.source.agent.publicName) :=
          List.subperm_of_subset (by simp [h_ne]) (by simp [h_mem h_d h_name, h_mem h_pending])
        exact h_claimants h_two.length_le

end Continuations

-- ============================================================================
-- Passes of recovery
-- ============================================================================

/-- A pass that continues restored occupants keeps the one name space. -/
theorem Roster.OneNameSpace.continued (h : s.roster.OneNameSpace)
    (h_continued : Continued (s.continuations snapshot) s s') : s'.roster.OneNameSpace := by
  obtain ⟨rows, h_rows, h_binds⟩ := h_continued.incarnations
  have h_mid : OneNameSpace { s.roster with incarnations := s'.incarnations } := by
    refine h.bindAll (fun i h_i => ?_) h_rows
    obtain ⟨c, h_c, h_ci⟩ := binds_source h_binds h_i
    obtain ⟨h_agent, h_bindable⟩ := continuation_agent (List.mem_of_mem_filter h_c)
    refine ⟨h_ci.pending, h_ci.agent ▸ h_bindable, fun l h_l h_id w h_w h_active h_name => ?_⟩
    obtain rfl := Table.eq_of_key h_l h_agent (h_id.trans h_ci.agent)
    exact (continuation_name h_c).waiting ⟨w, h_w, h_active, h_name⟩
  exact h_mid.note h_continued.agents

/-- No binding that is seen under its pending name takes the name of another one that
    stays. -/
def Store.RenamesApart (s : Store) (snapshot : Snapshot) : Prop :=
  ∀ bs ∈ (readyBindings s).toOption, ∀ b ∈ bs, (b.renamedLive snapshot).isSome →
    ∀ b' ∈ bs, b'.id ≠ b.id → b'.Stays snapshot → b'.nameAfter snapshot ≠ b.nameAfter snapshot

/-- The agent of a Ready binding comes out of a pass under the name that the binding has
    then. -/
theorem relabelled_name {bs : List ReadyBinding} {b : ReadyBinding} {i : IncarnationRow}
    {l l' : LogicalAgentRow} (h_agent : s.roster.OnePerAgent) (h_bs : readyBindings s = .ok bs)
    (h_b : b ∈ bs) (h_of : b.Of s i) (h_l : l ∈ s.logicalAgents) (h_own : l.id = i.logicalAgentId)
    (h_ll : Relabelled s.incarnations snapshot bs l l') :
    l'.publicName = b.nameAfter snapshot := by
  have h_names : b.Names s.incarnations snapshot l.id ↔ (b.renamedLive snapshot).isSome := by
    unfold ReadyBinding.Names
    rw [h_of.id, Table.find_eq_some.mpr ⟨h_of.row, rfl⟩, h_own]
    simp
  rw [show l' = _ from h_ll]
  rcases foldl_takesName_cases s.incarnations snapshot bs l.id l.publicName with
    ⟨h_same, h_none⟩ | ⟨c, h_c, h_takes, h_taken⟩
  · have h_label := h_of.name
    rw [Store.publicName, Table.find_eq_some.mpr ⟨h_l, h_own⟩] at h_label
    rw [h_same, ReadyBinding.nameAfter, if_neg (h_names.not.mp (h_none b h_b))]
    exact Option.some_inj.mp h_label
  · obtain ⟨j, h_jof⟩ := readyBindings_of h_bs h_c
    have h_j := h_takes.2
    rw [h_jof.id, Table.find_eq_some.mpr ⟨h_jof.row, rfl⟩] at h_j
    -- The agent has one Ready incarnation, and that has one binding.
    obtain rfl : j = i := h_agent.eq h_jof.row h_of.row h_jof.ready h_of.ready
      ((Option.some_inj.mp h_j).trans h_own)
    have h_read := h_jof.read
    rw [h_of.read] at h_read
    obtain rfl := Except.ok.inj (Option.some_inj.mp h_read)
    exact h_taken

/-- A pass that reconciles the Ready bindings keeps them unique when the names that it
    commits are apart. -/
theorem Roster.Unique.reconciled (h : s.roster.Unique) {bs : List ReadyBinding}
    (h_apart : s.RenamesApart snapshot) (h_bs : readyBindings s = .ok bs)
    (h_rec : Reconciled snapshot bs s s') : s'.roster.Unique := by
  have h_kept {i i' : IncarnationRow} (h_ii : Checked snapshot bs i i')
      (h_ready : i'.state = .ready) : i.state = .ready ∧ ¬ Loses snapshot bs i := by
    rw [h_ii.state] at h_ready
    split at h_ready
    · cases h_ready
    · rename_i h_stays
      exact ⟨h_ready, h_stays⟩
  have h_agent := h_rec.agents
  have h_id {l l' : LogicalAgentRow} (h_ll : Relabelled s.incarnations snapshot bs l l') :
      l'.id = l.id := by
    rw [show l' = _ from h_ll]
  refine ⟨fun i' h_i' => ?_, ?_, ?_, ?_⟩
  · obtain ⟨i, h_i, h_ii⟩ := h_rec.incarnations.origin i' h_i'
    obtain ⟨l, h_l, h_own⟩ := h.known i h_i
    obtain ⟨l', h_l', h_ll⟩ := h_agent.image l h_l
    exact ⟨l', h_l', (h_id h_ll).trans (h_own.trans h_ii.same.agent.symm)⟩
  · exact h.agent.narrow h_rec.incarnations (fun _ _ h_ii => h_ii.same.id)
      fun _ _ _ _ h_ii h_ready => ⟨(h_kept h_ii h_ready).1, h_ii.same.agent⟩
  · refine h.seat.narrow h_rec.incarnations (fun _ _ h_ii => h_ii.same.id) ?_
    intro i _ i' _ h_ii h_seated
    refine Steady.seated ⟨h_ii.same.id, h_ii.same.agent, fun h_ready => ?_⟩ h_seated
    exact ⟨(h_kept h_ii h_ready).1, h_ii.same.seat⟩
  · -- Each present agent comes with a binding that stays, and bears the name of that.
    have h_bound {l' : LogicalAgentRow} (h_l' : l' ∈ s'.logicalAgents)
        (h_present : s'.roster.Present l'.id) : ∃ l ∈ s.logicalAgents, l'.id = l.id ∧
        ∃ b ∈ bs, ∃ i, b.Of s i ∧ l.id = i.logicalAgentId ∧ b.Stays snapshot ∧
          l'.publicName = b.nameAfter snapshot := by
      obtain ⟨l, h_l, h_ll⟩ := h_agent.origin l' h_l'
      obtain ⟨i', h_i', h_own, h_ready⟩ := h_present
      obtain ⟨i, h_i, h_ii⟩ := h_rec.incarnations.origin i' h_i'
      obtain ⟨h_was, h_stays⟩ := h_kept h_ii h_ready
      have h_same : l.id = i.logicalAgentId := by
        rw [← h_ii.same.agent, h_own, h_id h_ll]
      obtain ⟨b, h_b, h_of⟩ := readyBindings_cover h_bs h_i h_was h_l h_same
      refine ⟨l, h_l, h_id h_ll, b, h_b, i, h_of, h_same, ?_,
        relabelled_name h.agent h_bs h_b h_of h_l h_same h_ll⟩
      by_contra h_gone
      exact h_stays ⟨h_was, b, h_b, h_of.id, h_gone⟩
    rintro l' ⟨h_l', h_present⟩ m' ⟨h_m', h_present'⟩ h_name
    obtain ⟨l, h_l, h_lid, b, h_b, i, h_of, h_own, h_stays, h_label⟩ := h_bound h_l' h_present
    obtain ⟨m, h_m, h_mid, c, h_c, j, h_of', h_own', h_stays', h_label'⟩ :=
      h_bound h_m' h_present'
    refine Table.eq_of_key h_l' h_m' ?_
    have h_after : b.nameAfter snapshot = c.nameAfter snapshot := by
      rw [← h_label, ← h_label']
      exact h_name
    have h_mem : bs ∈ (readyBindings s).toOption := by simp [h_bs, Except.toOption]
    by_cases h_same : b.id = c.id
    · obtain rfl := Table.eq_of_key h_of.row h_of'.row
        (h_of.id.symm.trans (h_same.trans h_of'.id))
      rw [h_lid, h_mid, h_own, h_own']
    · by_cases h_renamed : (b.renamedLive snapshot).isSome
      · exact absurd h_after.symm
          (h_apart bs h_mem b h_b h_renamed c h_c (Ne.symm h_same) h_stays')
      · by_cases h_renamed' : (c.renamedLive snapshot).isSome
        · exact absurd h_after (h_apart bs h_mem c h_c h_renamed' b h_b h_same h_stays)
        · -- Neither of the two takes another name.
          have h_old : s.publicName i.logicalAgentId = s.publicName j.logicalAgentId := by
            rw [h_of.name, h_of'.name]
            simpa [ReadyBinding.nameAfter, h_renamed, h_renamed'] using h_after
          have h_find := Table.find_eq_some.mpr ⟨h_l, h_own⟩
          have h_find' := Table.find_eq_some.mpr ⟨h_m, h_own'⟩
          rw [Store.publicName, Store.publicName, h_find, h_find'] at h_old
          have h_eq : l = m := h.name.eq h_l h_m ⟨i, h_of.row, h_own.symm, h_of.ready⟩
            ⟨j, h_of'.row, h_own'.symm, h_of'.ready⟩ (Option.some_inj.mp h_old)
          rw [h_lid, h_mid, h_eq]

/-- An agent that is present after a pass was present before, or is continued by it. -/
theorem Continued.present {cs : List Continuation} (h : Continued cs s s')
    {agent : LogicalAgentId} (h_present : s'.roster.Present agent) :
    s.roster.Present agent ∨ ∃ c ∈ cs, c.agentId = agent := by
  obtain ⟨rows, h_rows, h_binds⟩ := h.incarnations
  obtain ⟨i, h_i, h_agent, h_ready⟩ := h_present
  rcases (h_rows.mem i).mp h_i with h_old | h_new
  · exact .inl ⟨i, h_old, h_agent, h_ready⟩
  · obtain ⟨c, h_c, h_ci⟩ := binds_source h_binds h_new
    exact .inr ⟨c, h_c, h_ci.agent.symm.trans h_agent⟩

/-- A pass whose holders and matches are apart keeps the Ready bindings unique. -/
theorem Roster.Unique.continued (h : s.roster.Unique) (h_snapshot : snapshot.OnePerSeat)
    (h_apart : s.HoldersApart snapshot ∧ s.MatchesApart snapshot)
    (h_continued : Continued (s.continuations snapshot) s s') : s'.roster.Unique where
  known i h_i := by
    obtain ⟨rows, h_rows, h_binds⟩ := h_continued.incarnations
    have h_was : ∃ l ∈ s.logicalAgents, l.id = i.logicalAgentId := by
      rcases (h_rows.mem i).mp h_i with h_old | h_new
      · exact h.known i h_old
      · obtain ⟨c, h_c, h_ci⟩ := binds_source h_binds h_new
        obtain ⟨-, l, h_l, h_id, -⟩ := continuation_agent (List.mem_of_mem_filter h_c)
        exact ⟨l, h_l, h_id.trans h_ci.agent.symm⟩
    obtain ⟨l, h_l, h_id⟩ := h_was
    obtain ⟨l', h_l', h_ll⟩ := h_continued.agents.image l h_l
    exact ⟨l', h_l', h_ll.key.trans h_id⟩
  agent := (onePerAgent_continued h_continued h.agent).mpr h_apart.1
  seat := (onePerSeat_continued h_continued h_snapshot h.seat).mpr h_apart.2
  name := by
    rintro l' ⟨h_l', h_present⟩ m' ⟨h_m', h_present'⟩ h_name
    obtain ⟨l, h_l, h_ll⟩ := h_continued.agents.origin l' h_l'
    obtain ⟨m, h_m, h_mm⟩ := h_continued.agents.origin m' h_m'
    refine Table.eq_of_key h_l' h_m' ?_
    have h_name : l.publicName = m.publicName := by
      rw [← h_ll.name, ← h_mm.name]
      exact h_name
    rw [h_ll.key] at h_present ⊢
    rw [h_mm.key] at h_present' ⊢
    -- A continued agent does not take a name that somebody present holds.
    have h_free {c : Continuation} (h_c : c ∈ s.continuations snapshot) {a b : LogicalAgentRow}
        (h_a : a ∈ s.logicalAgents) (h_b : b ∈ s.logicalAgents) (h_id : c.agentId = a.id)
        (h_same : b.publicName = a.publicName) (h_b_present : s.roster.Present b.id) :
        b.id = a.id := by
      by_contra h_ne
      obtain ⟨h_agent, -⟩ := continuation_agent (List.mem_of_mem_filter h_c)
      obtain rfl := Table.eq_of_key h_agent h_a h_id
      obtain ⟨i, h_i, h_own, h_ready⟩ := h_b_present
      have h_find : s.logicalAgents.find i.logicalAgentId = some b :=
        Table.find_eq_some.mpr ⟨h_b, h_own.symm⟩
      refine (continuation_name h_c).elsewhere ⟨i, h_i, ?_, .inl ⟨.inr h_ready, ?_⟩⟩
      · rw [h_own]
        exact h_ne
      · rw [Store.publicName, h_find, ← h_same]
        rfl
    rcases h_continued.present h_present with h_was | ⟨c, h_c, h_id⟩ <;>
      rcases h_continued.present h_present' with h_was' | ⟨d, h_d, h_id'⟩
    · exact congrArg _ (h.name.eq h_l h_m h_was h_was' h_name)
    · exact h_free h_d h_m h_l h_id' h_name h_was
    · exact (h_free h_c h_l h_m h_id h_name.symm h_was').symm
    · obtain ⟨h_agent, -⟩ := continuation_agent (List.mem_of_mem_filter h_c)
      obtain ⟨h_agent', -⟩ := continuation_agent (List.mem_of_mem_filter h_d)
      obtain rfl := Table.eq_of_key h_agent h_l h_id
      obtain rfl := Table.eq_of_key h_agent' h_m h_id'
      exact (continuation_name h_d).alone c (List.mem_of_mem_filter h_c) h_name

-- ============================================================================
-- Calls
-- ============================================================================

/-- The call finds free what it takes: nobody else is Ready as the agent, on the seat or
    under the name that it makes Ready. -/
def Call.FindsFree (c : Call) (s : Store) : Prop :=
  match c with
  | .declareStart _ intent => ∀ agent ∈ intent.logicalAgentId,
    s.roster.NameFree agent intent.publicName
  | .declareAdopt _ intent _ => ∀ agent ∈ intent.logicalAgentId, ¬ s.roster.Present agent
  | .acceptAdoptReady _ _ inc agent =>
    s.roster.Promotable inc (some agent.paneId, some agent.terminalId) none
  | .acceptStartReady _ _ inc agent supersedes =>
    s.roster.Promotable inc (some agent.paneId, some agent.terminalId) supersedes
  | .commitRename inc name => ∀ i ∈ s.incarnations.rows, i.id = inc →
    s.roster.NameFree i.logicalAgentId name
  | .reconcileReadyIncarnations _ snapshot => s.RenamesApart snapshot
  | .continueRestoredOccupants _ snapshot =>
    snapshot.OnePerSeat ∧ s.HoldersApart snapshot ∧ s.MatchesApart snapshot
  | _ => True

/-- What a call does to the roster. -/
inductive Call.Enrols (c : Call) (s s' : Store) : Prop where
  | orderly (h : Orderly (s.roster.Unique ∧ c.FindsFree s) s s')
  | reconciled {now : Millis} {snapshot : Snapshot} {bs : List ReadyBinding}
      (h_c : c = .reconcileReadyIncarnations now snapshot) (h_bs : readyBindings s = .ok bs)
      (h : Reconciled snapshot bs s s')
  | continued {now : Millis} {snapshot : Snapshot}
      (h_c : c = .continueRestoredOccupants now snapshot)
      (h : Continued (s.continuations snapshot) s s')

theorem Call.Enrols.of_keeps {α : Type} {x : StoreTx α} {c : Call}
    [hx : Keeps (Orderly (s.roster.Unique ∧ c.FindsFree s)) x] (h : x.commit s = .ok s') :
    c.Enrols s s' := by
  obtain ⟨_, h_run⟩ := commit_ok.mp h
  exact .orderly (hx.keeps h_run)

/-- Every committed call does to the roster what is listed above. -/
theorem Call.enrols (c : Call) (h : c.Step s s') : c.Enrols s s' := by
  cases c with
  | declareStart now intent =>
    obtain ⟨_, h_run⟩ := commit_ok.mp h
    exact .orderly (declareStart_orderly (fun h_ok => h_ok.2) h_run)
  | declareAdopt now intent evidence =>
    obtain ⟨_, h_run⟩ := commit_ok.mp h
    exact .orderly (declareAdopt_orderly id h_run)
  | declareAdoptPending now intent evidence =>
    obtain ⟨_, h_run⟩ := commit_ok.mp h
    exact .orderly (declareAdoptPending_orderly h_run)
  | acceptAdoptReady now op inc agent =>
    obtain ⟨_, h_run⟩ := commit_ok.mp h
    exact .orderly (acceptAdoptReady_orderly (fun h_ok => h_ok.2) h_run)
  | acceptStartReady now op inc agent supersedes =>
    obtain ⟨_, h_run⟩ := commit_ok.mp h
    exact .orderly (acceptStartReady_orderly (fun h_ok => h_ok.2) h_run)
  | commitRename inc name =>
    obtain ⟨_, h_run⟩ := commit_ok.mp h
    exact .orderly (commitRename_orderly (fun h_ok => h_ok.2) h_run)
  | reconcileReadyIncarnations now snapshot =>
    obtain ⟨_, h_run⟩ := commit_ok.mp h
    obtain ⟨bs, h_bs, h_rec⟩ := reconcileReadyIncarnations_run h_run
    exact .reconciled rfl h_bs h_rec
  | continueRestoredOccupants now snapshot =>
    obtain ⟨_, h_run⟩ := commit_ok.mp h
    exact .continued rfl (continueRestoredOccupants_run h_run)
  | _ => exact .of_keeps h

theorem Roster.Bindable.edits {r : Roster} {agent : LogicalAgentId} (h : r.Bindable agent)
    {e : LogicalAgentRow → LogicalAgentRow → Prop} {t : Table LogicalAgentRow.id}
    (h_t : r.agents.Edits e t)
    (h_e : ∀ l l', e l l' → l'.id = l.id ∧ l'.deliveryTransport = l.deliveryTransport)
    (is : Table IncarnationRow.id) : Bindable ⟨t, is⟩ agent := by
  obtain ⟨l, h_l, h_id, h_transport⟩ := h
  obtain ⟨l', h_l', h_ll⟩ := h_t.image l h_l
  obtain ⟨h_key, h_same⟩ := h_e l l' h_ll
  exact ⟨l', h_l', h_key.trans h_id, h_same ▸ h_transport⟩

theorem Roster.Bindable.change {ok : Prop} {r r' : Roster} {agent : LogicalAgentId}
    (h : r.Bindable agent) (h_change : Change ok r r') : r'.Bindable agent := by
  cases h_change with
  | enroll _ h_t =>
    obtain ⟨l, h_l, h_rest⟩ := h
    exact ⟨l, (h_t.mem l).mpr (.inl h_l), h_rest⟩
  | note h_t => exact h.edits h_t (fun _ _ h_ll => ⟨h_ll.key, h_ll.transport⟩) _
  | rename _ _ _ h_t => exact h.edits h_t (fun _ _ h_ll => ⟨h_ll.key, h_ll.transport⟩) _
  | settle | pend | declare | bind | occupy => exact h

theorem Roster.Bindable.changes {ok : Prop} {r r' : Roster} {agent : LogicalAgentId}
    (h : r.Bindable agent) (h_changes : Changes ok r r') : r'.Bindable agent := by
  induction h_changes with
  | refl => exact h
  | tail _ h_change ih => exact ih.change h_change

/-- An agent that is no socket waiter does not become one. -/
theorem Call.bindable (c : Call) (h : c.Step s s') {agent : LogicalAgentId}
    (h_agent : s.roster.Bindable agent) : s'.roster.Bindable agent := by
  cases c.enrols h with
  | orderly h_orderly => exact h_agent.changes h_orderly
  | reconciled _ _ h_rec =>
    refine h_agent.edits h_rec.agents (fun l l' h_ll => ?_) _
    rw [show l' = _ from h_ll]
    exact ⟨rfl, rfl⟩
  | continued _ h_continued =>
    exact h_agent.edits h_continued.agents (fun _ _ h_ll => ⟨h_ll.key, h_ll.transport⟩) _

theorem Roster.OneNameSpace.step {c : Call} (h : s.roster.OneNameSpace) (h_step : c.Step s s') :
    s'.roster.OneNameSpace := by
  cases c.enrols h_step with
  | orderly h_orderly => exact h.changes h_orderly
  | reconciled _ h_bs h_rec => exact h.reconciled h_bs h_rec
  | continued _ h_continued => exact h.continued h_continued

theorem Roster.Unique.step {c : Call} (h : s.roster.Unique) (h_ok : c.FindsFree s)
    (h_step : c.Step s s') : s'.roster.Unique := by
  cases c.enrols h_step with
  | orderly h_orderly => exact h.changes ⟨h, h_ok⟩ h_orderly
  | reconciled h_c h_bs h_rec =>
    subst h_c
    exact h.reconciled h_ok h_bs h_rec
  | continued h_c h_continued =>
    subst h_c
    exact h.continued h_ok.1 h_ok.2 h_continued

-- ============================================================================
-- Runs
-- ============================================================================

instance (r : Roster) (inc : IncarnationId) (seat : Option String × Option String)
    (supersedes : Option IncarnationId) : Decidable (r.Promotable inc seat supersedes) := by
  unfold Roster.Promotable
  infer_instance

instance (s : Store) (snapshot : Snapshot) : Decidable (s.RenamesApart snapshot) := by
  unfold Store.RenamesApart
  infer_instance

instance (c : Call) (s : Store) : Decidable (c.FindsFree s) := by
  unfold Call.FindsFree
  split <;> infer_instance

theorem Reachable.oneNameSpace {ok : Call → Store → Prop} (h : Reachable ok s) :
    s.roster.OneNameSpace := by
  induction h with
  | refl => exact .empty
  | tail c _ _ h_step ih => exact ih.step h_step

theorem Reachable.unique (h : Reachable Call.FindsFree s) : s.roster.Unique := by
  induction h with
  | refl => exact .empty
  | tail c _ h_ok h_step ih => exact ih.step h_ok h_step

/-- The name of an active socket waiter is that of no other active waiter and of no agent
    with a Ready incarnation, and no Ready incarnation is about to take it. -/
theorem waiter_name_alone {s : Store} (h : Reachable (fun _ _ => True) s) :
    ∀ w ∈ s.logicalAgents, w.ActiveWaiter →
      (∀ w' ∈ s.logicalAgents, w'.ActiveWaiter → w'.publicName = w.publicName → w' = w) ∧
      (∀ l ∈ s.logicalAgents, s.roster.Present l.id → l.publicName ≠ w.publicName) ∧
      ∀ i ∈ s.incarnations, i.state = .ready → i.pendingRenameTo ≠ some w.publicName := by
  have h_inv := h.oneNameSpace
  intro w h_w h_active
  obtain ⟨h_held, h_pending⟩ := h_inv.unclaimed w h_w h_active
  exact ⟨fun w' h_w' h_active' h_name => h_inv.waiters.eq h_w' h_w h_active' h_active h_name,
    h_held, h_pending⟩

/-- A waiter beside two live agents, one of which is about to be renamed. -/
def renamingRun : List Call :=
  [adopting 1 "w1:p1" "t1" "asker" "k1", adopting 1 "w1:p2" "t2" "worker" "k2",
    .registerSocketWaiter 2 "waiter" .parentless "k3", .declareRename 2 "builder"]

theorem waiter_name_alone_renamingRun : ∃ s, Reachable (fun _ _ => True) s ∧
    (∃ w ∈ s.logicalAgents.rows, w.ActiveWaiter) ∧
    ∀ w ∈ s.logicalAgents, w.ActiveWaiter →
      (∀ w' ∈ s.logicalAgents, w'.ActiveWaiter → w'.publicName = w.publicName → w' = w) ∧
      (∀ l ∈ s.logicalAgents, s.roster.Present l.id → l.publicName ≠ w.publicName) ∧
      ∀ i ∈ s.incarnations, i.state = .ready → i.pendingRenameTo ≠ some w.publicName := by
  have h : Leads (fun _ _ => True) (fun s => ∃ w ∈ s.logicalAgents.rows, w.ActiveWaiter)
      renamingRun Store.empty := by decide +kernel
  obtain ⟨s, h_run, h_waiter⟩ := h.run
  exact ⟨s, h_run, h_waiter, waiter_name_alone h_run⟩

/-- In every state of a run whose calls find free what they take, each agent, each exact pane
    and terminal and each public name has at most one Ready incarnation. -/
theorem ready_unique {s : Store} (h : Reachable Call.FindsFree s) :
    s.roster.OnePerAgent ∧ s.roster.OnePerSeat ∧ s.roster.OnePerName := by
  exact ⟨h.unique.agent, h.unique.seat, h.unique.name⟩

theorem ready_unique_renamed : ∃ s, Reachable Call.FindsFree s ∧ s.roster.Present 2 ∧
    s.publicName 2 = some "builder" ∧
    s.roster.OnePerAgent ∧ s.roster.OnePerSeat ∧ s.roster.OnePerName := by
  have h : Leads Call.FindsFree
      (fun s => s.roster.Present 2 ∧ s.publicName 2 = some "builder")
      (renamingRun ++ [.commitRename 2 "builder"]) Store.empty := by decide +kernel
  obtain ⟨s, h_run, h_present, h_name⟩ := h.run
  exact ⟨s, h_run, h_present, h_name, ready_unique h_run⟩

/-- The adoption of a second live agent as the logical agent `1`, which is Ready. -/
theorem agent_ready_twice : ∃ s, Reachable (fun _ _ => True) s ∧ ¬ s.roster.OnePerAgent := by
  have h : Leads (fun _ _ => True) (fun s => ¬ s.roster.OnePerAgent)
      [adopting 1 "w1:p1" "t1" "worker" "k1",
        .declareAdopt 2
          { paneId := "w1:p2", expectedTerminalId := "t2", logicalAgentId := some 1,
            idempotencyKey := "k2" }
          { paneId := "w1:p2", terminalId := "t2", publicName := "reviewer",
            backendKind := "claude", workingDirectory := "/", launchPending := false,
            nativeAgentSession := none }]
      Store.empty := by decide +kernel
  exact h.run

end Kelpie
