/-
  Kelpie.Bindings.Presence

  What the reconciliation of the Ready bindings with a snapshot does to the
  roster: a binding that the snapshot no longer shows is lost, and an agent seen
  under its pending name takes it.
-/

import Kelpie.Bindings.Accounts

namespace Kelpie

open Lib Lib.Tx Roster

variable {s s' : Store} {now : Millis} {snapshot : Snapshot}

-- ============================================================================
-- What the snapshot shows
-- ============================================================================

/-- The snapshot still shows the binding: renamed, as it was, or without its name. -/
def ReadyBinding.Stays (b : ReadyBinding) (snapshot : Snapshot) : Prop :=
  (b.renamedLive snapshot).isSome ∨ (b.exactLive snapshot).isSome ∨
    (b.unnamedLive snapshot).isSome

instance (snapshot : Snapshot) : DecidablePred fun b : ReadyBinding => b.Stays snapshot :=
  fun b => inferInstanceAs (Decidable ((b.renamedLive snapshot).isSome ∨
    (b.exactLive snapshot).isSome ∨ (b.unnamedLive snapshot).isSome))

/-- The incarnation is Ready, and its binding is not among those that the snapshot shows. -/
def Loses (snapshot : Snapshot) (bs : List ReadyBinding) (i : IncarnationRow) : Prop :=
  i.state = .ready ∧ ∃ b ∈ bs, b.id = i.id ∧ ¬ b.Stays snapshot

instance (snapshot : Snapshot) (bs : List ReadyBinding) : DecidablePred (Loses snapshot bs) :=
  fun i => inferInstanceAs
    (Decidable (i.state = .ready ∧ ∃ b ∈ bs, b.id = i.id ∧ ¬ b.Stays snapshot))

/-- The name of an agent once the binding `b` has been reconciled. -/
def takesName (incarnations : Table IncarnationRow.id) (snapshot : Snapshot)
    (agent : LogicalAgentId) (name : String) (b : ReadyBinding) : String :=
  if (b.renamedLive snapshot).isSome ∧
      (incarnations.find b.id).map (·.logicalAgentId) = some agent then
    b.pendingRenameTo.getD ""
  else name

/-- The name that the binding has once the snapshot has been taken into account. -/
def ReadyBinding.nameAfter (b : ReadyBinding) (snapshot : Snapshot) : String :=
  if (b.renamedLive snapshot).isSome then b.pendingRenameTo.getD "" else b.publicName

theorem ReadyBinding.pending_of_renamed {b : ReadyBinding}
    (h : (b.renamedLive snapshot).isSome) : b.pendingRenameTo = some (b.nameAfter snapshot) := by
  obtain ⟨a, h_a⟩ := Option.isSome_iff_exists.mp h
  obtain ⟨target, h_target, -⟩ := Option.bind_eq_some_iff.mp h_a
  simp [ReadyBinding.nameAfter, h, h_target]

-- ============================================================================
-- The bindings of a pass
-- ============================================================================

section Bindings

variable {bs : List ReadyBinding}

/-- The bindings of a pass are those of the Ready incarnations. -/
theorem mem_readyBindings (h : readyBindings s = .ok bs) {b : ReadyBinding} :
    b ∈ bs ↔ ∃ i ∈ s.incarnations, s.readyBinding i = some (.ok b) := by
  have h_list := mapM_id_ok h
  have h_mem : b ∈ bs ↔ Except.ok b ∈ s.incarnations.rows.filterMap s.readyBinding := by
    rw [h_list, List.mem_map]
    exact ⟨fun h_b => ⟨b, h_b, rfl⟩, fun ⟨c, h_c, h_eq⟩ => Except.ok.inj h_eq ▸ h_c⟩
  rw [h_mem, List.mem_filterMap]
  rfl

/-- A binding is read from its Ready incarnation and from the agent of that. -/
structure ReadyBinding.Of (b : ReadyBinding) (s : Store) (i : IncarnationRow) : Prop where
  row : i ∈ s.incarnations
  read : s.readyBinding i = some (.ok b)
  ready : i.state = .ready
  id : b.id = i.id
  seat : i.seat = (some b.paneId, some b.terminalId)
  pending : b.pendingRenameTo = i.pendingRenameTo
  backend : b.backendKind = i.backendKind
  name : s.publicName i.logicalAgentId = some b.publicName

theorem readyBinding_of {b : ReadyBinding} {i : IncarnationRow} (h_i : i ∈ s.incarnations)
    (h : s.readyBinding i = some (.ok b)) : b.Of s i := by
  have h_read := h
  unfold Store.readyBinding at h
  rw [guard_bind_eq_some] at h
  obtain ⟨h_ready, h⟩ := h
  obtain ⟨name, h_name, h⟩ := Option.bind_eq_some_iff.mp h
  cases h_pane : i.observedPaneId with
  | none => simp [h_pane] at h
  | some paneId =>
    cases h_terminal : i.observedTerminalId with
    | none => simp [h_pane, h_terminal] at h
    | some terminalId =>
      simp only [h_pane, h_terminal, Option.pure_def, Option.some.injEq,
        Except.ok.injEq] at h
      subst h
      exact ⟨h_i, h_read, h_ready, rfl, by simp [IncarnationRow.seat, h_pane, h_terminal], rfl, rfl,
        h_name⟩

theorem readyBindings_of (h : readyBindings s = .ok bs) {b : ReadyBinding} (h_b : b ∈ bs) :
    ∃ i, b.Of s i := by
  obtain ⟨i, h_i, h_bi⟩ := (mem_readyBindings h).mp h_b
  exact ⟨i, readyBinding_of h_i h_bi⟩

/-- Every Ready incarnation of a known agent has its binding. -/
theorem readyBindings_cover (h : readyBindings s = .ok bs) {i : IncarnationRow}
    {l : LogicalAgentRow} (h_i : i ∈ s.incarnations) (h_ready : i.state = .ready)
    (h_l : l ∈ s.logicalAgents) (h_agent : l.id = i.logicalAgentId) : ∃ b ∈ bs, b.Of s i := by
  have h_name : s.publicName i.logicalAgentId = some l.publicName := by
    rw [Store.publicName, Table.find_eq_some.mpr ⟨h_l, h_agent⟩]
    rfl
  obtain ⟨r, h_r⟩ : ∃ r, s.readyBinding i = some r := by
    unfold Store.readyBinding
    rw [h_name]
    exact ⟨_, by simp [h_ready]; rfl⟩
  have h_list := mapM_id_ok h
  have h_mem : r ∈ bs.map Except.ok := by
    rw [← h_list]
    exact List.mem_filterMap.mpr ⟨i, h_i, h_r⟩
  obtain ⟨b, h_b, rfl⟩ := List.mem_map.mp h_mem
  exact ⟨b, h_b, readyBinding_of h_i h_r⟩

/-- The binding gives its agent, which is `agent`, the name that it was seen under. -/
def ReadyBinding.Names (t : Table IncarnationRow.id) (snapshot : Snapshot)
    (agent : LogicalAgentId) (b : ReadyBinding) : Prop :=
  (b.renamedLive snapshot).isSome ∧ (t.find b.id).map (·.logicalAgentId) = some agent

/-- An agent takes its name from one binding of its own, or keeps it if it has none that
    was renamed. -/
theorem foldl_takesName_cases (t : Table IncarnationRow.id) (snapshot : Snapshot)
    (bs : List ReadyBinding) (agent : LogicalAgentId) (name : String) :
    (bs.foldl (takesName t snapshot agent) name = name ∧
      ∀ b ∈ bs, ¬ b.Names t snapshot agent) ∨
      ∃ b ∈ bs, b.Names t snapshot agent ∧
        bs.foldl (takesName t snapshot agent) name = b.nameAfter snapshot := by
  induction bs generalizing name with
  | nil => exact .inl ⟨rfl, by simp⟩
  | cons b bs ih =>
    rw [List.foldl_cons]
    rcases ih (takesName t snapshot agent name b) with
      ⟨h_same, h_none⟩ | ⟨c, h_c, h_rest⟩
    · rw [h_same]
      by_cases h_takes : b.Names t snapshot agent
      · refine .inr ⟨b, List.mem_cons_self, h_takes, ?_⟩
        rw [takesName, if_pos (show _ ∧ _ from h_takes), ReadyBinding.nameAfter,
          if_pos h_takes.1]
      · refine .inl ⟨if_neg h_takes, fun c h_c => ?_⟩
        rcases List.mem_cons.mp h_c with rfl | h_c
        · exact h_takes
        · exact h_none c h_c
    · exact .inr ⟨c, List.mem_cons_of_mem b h_c, h_rest⟩

end Bindings

-- ============================================================================
-- Rows
-- ============================================================================

/-- The same runtime binding: only its state, its name and its session differ. -/
structure IncarnationRow.SameBinding (i i' : IncarnationRow) : Prop where
  id : i'.id = i.id
  agent : i'.logicalAgentId = i.logicalAgentId
  intendedPane : i'.intendedPaneId = i.intendedPaneId
  expectedTerminal : i'.expectedTerminalId = i.expectedTerminalId
  backend : i'.backendKind = i.backendKind
  seat : i'.seat = i.seat
  pending : i'.pendingRenameTo = i.pendingRenameTo ∨ i'.pendingRenameTo = none

theorem IncarnationRow.SameBinding.rfl {i : IncarnationRow} : i.SameBinding i :=
  ⟨.refl _, .refl _, .refl _, .refl _, .refl _, .refl _, .inl (.refl _)⟩

theorem IncarnationRow.SameBinding.trans {i j k : IncarnationRow} (h : i.SameBinding j)
    (h' : j.SameBinding k) : i.SameBinding k :=
  ⟨h'.id.trans h.id, h'.agent.trans h.agent, h'.intendedPane.trans h.intendedPane,
    h'.expectedTerminal.trans h.expectedTerminal, h'.backend.trans h.backend,
    h'.seat.trans h.seat, h'.pending.elim (fun h_same => h_same ▸ h.pending) .inr⟩

/-- Only the incarnation `id` changes, and it keeps its state. -/
def Touched (id : IncarnationId) (i i' : IncarnationRow) : Prop :=
  i.SameBinding i' ∧ i'.state = i.state ∧ (i.id ≠ id → i' = i)

/-- An incarnation after the bindings `bs` have been reconciled. -/
structure Checked (snapshot : Snapshot) (bs : List ReadyBinding) (i i' : IncarnationRow) :
    Prop where
  same : i.SameBinding i'
  apart : (∀ b ∈ bs, b.id ≠ i.id) → i' = i
  state : i'.state = if Loses snapshot bs i then .lost else i.state

theorem Checked.nil {i : IncarnationRow} : Checked snapshot [] i i :=
  ⟨.rfl, fun _ => rfl, by simp [Loses]⟩

theorem Checked.cons {b : ReadyBinding} {bs : List ReadyBinding} {i j k : IncarnationRow}
    (h : Checked snapshot [b] i j) (h' : Checked snapshot bs j k) :
    Checked snapshot (b :: bs) i k where
  same := h.same.trans h'.same
  apart h_apart := by
    have h_j : j = i := h.apart fun c h_c =>
      h_apart c (List.mem_singleton.mp h_c ▸ List.mem_cons_self)
    subst h_j
    exact h'.apart fun c h_c => h_apart c (List.mem_cons_of_mem b h_c)
  state := by
    rw [h'.state, h.state]
    by_cases h_b : Loses snapshot [b] i
    · have h_all : Loses snapshot (b :: bs) i := by
        obtain ⟨h_ready, c, h_c, h_rest⟩ := h_b
        exact ⟨h_ready, c, List.mem_singleton.mp h_c ▸ List.mem_cons_self, h_rest⟩
      have h_j : ¬ Loses snapshot bs j := by
        rintro ⟨h_ready, -⟩
        rw [h.state, if_pos h_b] at h_ready
        cases h_ready
      rw [if_pos h_b, if_neg h_j, if_pos h_all]
    · rw [if_neg h_b]
      have h_j : j.state = i.state := by rw [h.state, if_neg h_b]
      have h_iff : Loses snapshot bs j ↔ Loses snapshot (b :: bs) i := by
        unfold Loses
        rw [h_j, h.same.id]
        refine and_congr_right fun h_ready => ?_
        simp only [List.mem_cons, exists_eq_or_imp]
        refine (or_iff_right fun h_first => h_b ⟨h_ready, b, ?_, h_first⟩).symm
        exact List.mem_singleton_self b
      simp only [h_iff]

/-- An agent after the bindings `bs` have been reconciled. -/
def Relabelled (incarnations : Table IncarnationRow.id) (snapshot : Snapshot)
    (bs : List ReadyBinding) (l l' : LogicalAgentRow) : Prop :=
  l' = { l with publicName := bs.foldl (takesName incarnations snapshot l.id) l.publicName }

-- ============================================================================
-- One binding
-- ============================================================================

/-- Only the incarnation `id` changes, and it keeps its state. -/
def Touches (id : IncarnationId) (s s' : Store) : Prop :=
  ∃ t, s' = Tab.incarnations.put t s ∧ s.incarnations.Edits (Touched id) t

instance Touches.stepwise {id : IncarnationId} : Stepwise (Touches id) where
  refl s := ⟨s.incarnations, rfl, .refl (fun _ => ⟨.rfl, rfl, fun _ => rfl⟩) _⟩
  trans := by
    rintro a b c ⟨t, rfl, h_t⟩ ⟨u, rfl, h_u⟩
    refine ⟨u, rfl, h_t.trans h_u fun i j k h_ij h_jk => ?_⟩
    refine ⟨h_ij.1.trans h_jk.1, h_jk.2.1.trans h_ij.2.1, fun h_id => ?_⟩
    obtain rfl := h_ij.2.2 h_id
    exact h_jk.2.2 h_id

theorem keeps_touch {id : IncarnationId} {p : IncarnationRow → Prop} [DecidablePred p]
    {f : IncarnationRow → IncarnationRow} {h_key : ∀ i, (f i).id = i.id}
    (h : ∀ i, p i → i.id = id ∧ i.SameBinding (f i) ∧ (f i).state = i.state) :
    Keeps (Touches id) (updateRows Tab.incarnations p f h_key : StoreTx Nat) :=
  .updateRows fun _ => ⟨_, rfl, Table.edits_update h_key
    (fun i _ h_p => ⟨(h i h_p).2.1, (h i h_p).2.2, fun h_id => absurd (h i h_p).1 h_id⟩)
    fun _ _ _ => ⟨.rfl, rfl, fun _ => rfl⟩⟩

instance {b : ReadyBinding} {bound} :
    Keeps (Touches b.id) (refreshRotatedSession now b bound) := by
  unfold refreshRotatedSession
  split
  · have h_rotate (session : NativeSession) {h_key} : Keeps (Touches b.id)
        (updateRows Tab.incarnations (fun i => i.id = b.id ∧ i.state = .ready)
          (fun i => { i with
            observedNativeSession := some session, nativeSessionRotatedAtMs := some now })
          h_key : StoreTx Nat) :=
      keeps_touch fun _ h_p => ⟨h_p.1, ⟨rfl, rfl, rfl, rfl, rfl, rfl, .inl rfl⟩, rfl⟩
    infer_instance
  · infer_instance

instance {id : IncarnationId} {live} :
    Keeps (Touches id) (learnMissingNativeSession id live) := by
  unfold learnMissingNativeSession
  split
  · infer_instance
  · exact keeps_touch fun _ h_p => ⟨h_p.1, ⟨rfl, rfl, rfl, rfl, rfl, rfl, .inl rfl⟩, rfl⟩

/-- What the reconciliation of the bindings `bs` does. -/
structure Reconciled (snapshot : Snapshot) (bs : List ReadyBinding) (s s' : Store) : Prop where
  incarnations : s.incarnations.Edits (Checked snapshot bs) s'.incarnations
  agents : s.logicalAgents.Edits (Relabelled s.incarnations snapshot bs) s'.logicalAgents
  rest : s' = { s with incarnations := s'.incarnations, logicalAgents := s'.logicalAgents }

theorem Reconciled.nil : Reconciled snapshot [] s s where
  incarnations := .refl (fun _ => .nil) _
  agents := .refl (fun l => show Relabelled s.incarnations snapshot [] l l from rfl) _
  rest := rfl

theorem Reconciled.cons {b : ReadyBinding} {bs : List ReadyBinding} {a b' c : Store}
    (h : Reconciled snapshot [b] a b') (h' : Reconciled snapshot bs b' c) :
    Reconciled snapshot (b :: bs) a c where
  incarnations := h.incarnations.trans h'.incarnations fun _ _ _ => .cons
  agents := by
    refine h.agents.trans h'.agents fun l l₁ l' h_l h_l' => ?_
    subst h_l
    -- The incarnations belong to the agents that they did.
    have h_find : ∀ id, (b'.incarnations.find id).map (·.logicalAgentId) =
        (a.incarnations.find id).map (·.logicalAgentId) :=
      h.incarnations.find_map (fun _ _ h_i => h_i.same.id) fun _ _ h_i => h_i.same.agent
    have h_takes : ∀ agent, takesName b'.incarnations snapshot agent =
        takesName a.incarnations snapshot agent := by
      intro agent
      funext name d
      simp only [takesName, h_find]
    unfold Relabelled at h_l' ⊢
    simpa [h_takes] using h_l'
  rest := by
    rw [h'.rest, h.rest]

/-- A binding that stays only has its session and its pending name changed. -/
theorem Reconciled.of_touches {b : ReadyBinding} (h : Touches b.id s s')
    (h_stays : b.Stays snapshot) (h_name : (b.renamedLive snapshot).isSome = false) :
    Reconciled snapshot [b] s s' := by
  obtain ⟨t, rfl, h_t⟩ := h
  refine ⟨h_t.mono fun i _ i' _ h_ii => ⟨h_ii.1, fun h_apart => ?_, ?_⟩, ?_, rfl⟩
  · exact h_ii.2.2 fun h_id => h_apart b (List.mem_singleton_self b) h_id.symm
  · rw [h_ii.2.1, if_neg]
    rintro ⟨-, c, h_c, -, h_gone⟩
    exact h_gone (List.mem_singleton.mp h_c ▸ h_stays)
  · refine .refl (fun l => ?_) _
    simp [Relabelled, takesName, h_name]

theorem reconcileReadyBinding_run {b : ReadyBinding} {report : ReadyReport}
    (h : (reconcileReadyBinding now snapshot b).run s = .ok (report, s')) :
    Reconciled snapshot [b] s s' := by
  have h_unpend {p : Prop} [Decidable p] {h_key} : Keeps (Touches b.id)
      (updateRows Tab.incarnations (fun i => i.id = b.id ∧ p)
        (fun i => { i with pendingRenameTo := none }) h_key : StoreTx Nat) :=
    keeps_touch fun _ h_p => ⟨h_p.1, ⟨rfl, rfl, rfl, rfl, rfl, rfl, .inr rfl⟩, rfl⟩
  have h_unpend' {h_key} : Keeps (Touches b.id)
      (updateRows Tab.incarnations (fun i => i.id = b.id)
        (fun i => { i with pendingRenameTo := none }) h_key : StoreTx Nat) :=
    keeps_touch fun _ h_p => ⟨h_p, ⟨rfl, rfl, rfl, rfl, rfl, rfl, .inr rfl⟩, rfl⟩
  simp only [reconcileReadyBinding] at h
  obtain ⟨_, s₁, h_refresh, h⟩ := run_bind_ok.mp h
  rw [run_ite_bind] at h
  obtain ⟨_, s₂, h_learn, h⟩ := run_bind_ok.mp h
  have h_session : Touches b.id s s₂ :=
    Touches.stepwise.trans (Keeps.keeps h_refresh) (Keeps.keeps h_learn)
  split at h
  · -- The agent takes the name that it is seen under.
    rename_i h_renamed
    rw [run_bind_reads] at h
    obtain ⟨_, s₃, h_label, h⟩ := run_bind_ok.mp h
    obtain ⟨_, s₄, h_pending, h⟩ := run_bind_ok.mp h
    cases h
    obtain ⟨t, rfl, h_t⟩ := h_session
    have h_find : (t.find b.id).map (·.logicalAgentId) =
        (s.incarnations.find b.id).map (·.logicalAgentId) :=
      h_t.find_map (fun _ _ h_ii => h_ii.1.id) (fun _ _ h_ii => h_ii.1.agent) b.id
    obtain ⟨ls, rfl, h_ls⟩ := run_updateRows_edits
      (Relabelled s.incarnations snapshot [b]) h_label
      (fun l _ h_l => by
        have h_agent := h_find.symm.trans h_l.symm
        simp [Relabelled, takesName, h_renamed, h_agent])
      fun l _ h_l => by
        have h_agent : (s.incarnations.find b.id).map (·.logicalAgentId) ≠ some l.id :=
          fun h_eq => h_l (h_find.trans h_eq).symm
        simp [Relabelled, takesName, h_agent]
    obtain ⟨u, rfl, h_u⟩ := h_unpend'.keeps h_pending
    have h_tu := (⟨_, rfl, h_t⟩ : Touches b.id s (Tab.incarnations.put t s))
    obtain ⟨v, h_v, h_sv⟩ := Touches.stepwise.trans h_tu
      (⟨u, rfl, h_u⟩ : Touches b.id (Tab.incarnations.put t s) (Tab.incarnations.put u s))
    obtain rfl : u = v := congrArg Store.incarnations h_v
    refine ⟨h_sv.mono fun i _ i' _ h_ii => ⟨h_ii.1, fun h_apart => ?_, ?_⟩, h_ls, rfl⟩
    · exact h_ii.2.2 fun h_id => h_apart b (List.mem_singleton_self b) h_id.symm
    · rw [h_ii.2.1, if_neg]
      rintro ⟨-, c, h_c, -, h_gone⟩
      exact h_gone (List.mem_singleton.mp h_c ▸ .inl h_renamed)
  · rename_i h_renamed
    have h_name : (b.renamedLive snapshot).isSome = false := by simpa using h_renamed
    split at h
    · rename_i h_exact
      obtain ⟨_, s₃, h_pending, h⟩ := run_bind_ok.mp h
      cases h
      exact .of_touches (Touches.stepwise.trans h_session (h_unpend.keeps h_pending))
        (.inr (.inl h_exact)) h_name
    · rename_i h_exact
      split at h
      · -- The binding is lost.
        rename_i h_unnamed
        obtain ⟨_, s₃, h_lost, h⟩ := run_bind_ok.mp h
        cases h
        have h_gone : ¬ b.Stays snapshot := by
          rintro (h_stays | h_stays | h_stays)
          · exact h_renamed h_stays
          · exact h_exact h_stays
          · simp [Option.isNone_iff_eq_none.mp h_unnamed] at h_stays
        obtain ⟨t, rfl, h_t⟩ := h_session
        obtain ⟨u, rfl, h_u⟩ := run_updateRows_edits
          (fun i i' => i.SameBinding i' ∧ (i.id ≠ b.id → i' = i) ∧
            i'.state = if Loses snapshot [b] i then .lost else i.state) h_lost
          (fun i _ h_i => by
            refine ⟨⟨rfl, rfl, rfl, rfl, rfl, rfl, .inl rfl⟩, fun h_id => absurd h_i.1 h_id, ?_⟩
            rw [if_pos ⟨h_i.2, b, List.mem_singleton_self b, h_i.1.symm, h_gone⟩])
          fun i _ h_i => by
            refine ⟨.rfl, fun _ => rfl, ?_⟩
            rw [if_neg]
            rintro ⟨h_ready, c, h_c, h_id, -⟩
            exact h_i ⟨List.mem_singleton.mp h_c ▸ h_id.symm, h_ready⟩
        refine ⟨h_t.trans h_u fun i j k h_ij h_jk => ⟨h_ij.1.trans h_jk.1, ?_, ?_⟩, ?_, rfl⟩
        · intro h_apart
          have h_id : i.id ≠ b.id := fun h_id =>
            h_apart b (List.mem_singleton_self b) h_id.symm
          obtain rfl := h_ij.2.2 h_id
          exact h_jk.2.1 h_id
        · have h_iff : Loses snapshot [b] j ↔ Loses snapshot [b] i := by
            unfold Loses
            rw [h_ij.2.1, h_ij.1.id]
          rw [h_jk.2.2, h_ij.2.1]
          simp only [h_iff]
        · refine .refl (fun l => ?_) _
          simp [Relabelled, takesName, h_name]
      · rename_i h_unnamed
        cases h
        refine .of_touches h_session (.inr (.inr ?_)) h_name
        simpa [Option.isSome_iff_ne_none] using h_unnamed

-- ============================================================================
-- All bindings
-- ============================================================================

theorem forEach_reconciled {bs : List ReadyBinding} {reports : List ReadyReport}
    (h : (forEach bs (reconcileReadyBinding now snapshot)).run s = .ok (reports, s')) :
    Reconciled snapshot bs s s' := by
  induction bs generalizing s reports with
  | nil =>
    cases h
    exact .nil
  | cons b bs ih =>
    simp only [forEach] at h
    obtain ⟨_, s₁, h_b, h⟩ := run_bind_ok.mp h
    obtain ⟨_, s₂, h_bs, h⟩ := run_bind_ok.mp h
    cases h
    exact (reconcileReadyBinding_run h_b).cons (ih h_bs)

theorem reconcileReadyIncarnations_run {report : ReadyReport}
    (h : (reconcileReadyIncarnations now snapshot).run s = .ok (report, s')) :
    ∃ bs, readyBindings s = .ok bs ∧ Reconciled snapshot bs s s' := by
  simp only [reconcileReadyIncarnations] at h
  rw [run_bind_query_ok] at h
  obtain ⟨bs, h_bs, h⟩ := h
  obtain ⟨_, s₁, h_each, h⟩ := run_bind_ok.mp h
  cases h
  exact ⟨bs, h_bs, forEach_reconciled h_each⟩

end Kelpie
