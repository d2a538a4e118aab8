/-
  Kelpie.Clears.Evidence

  The evidence that an unknown clear took effect, and what the calls do to it.

  The store compares two readings of the clock: when the session of the
  incarnation was last seen to rotate, and when the clear was resolved.  Only a
  completed clear and a reconciliation set the one, and only the two ways to
  give up on an operation set the other.
-/

import Kelpie.Bindings.Presence

namespace Kelpie

open Lib Lib.Tx

-- As in `Kelpie.Store.Frames`.
set_option synthInstance.maxSize 100000

variable {s s' : Store} {now : Millis}

-- ============================================================================
-- The decision
-- ============================================================================

/-- The time that a clear counts as settled at. -/
def OperationRow.settledAt (o : OperationRow) : Millis := o.resolvedAtMs.getD o.createdAtMs

/-- The time of the last recorded rotation of the incarnation's session. -/
def Store.rotatedAt (s : Store) (inc : IncarnationId) : Millis :=
  ((s.incarnations.find inc).bind (·.nativeSessionRotatedAtMs)).getD 0

/-- The clear keeps further clears of its incarnation from being submitted. -/
def Store.Blocks (s : Store) (o : OperationRow) : Prop :=
  o.kind = .clear ∧ o.outcome = .unknown ∧ s.rotatedAt o.targetIncarnationId ≤ o.settledAt

/-- The clears that `unprovenClear` chooses from. -/
def Store.blocking (s : Store) (inc : IncarnationId) : List OperationRow :=
  s.operations.rows.filter fun o => o.kind = .clear ∧ o.targetIncarnationId = inc ∧
    o.outcome = .unknown ∧ s.rotatedAt inc ≤ o.settledAt

theorem Store.mem_blocking {inc : IncarnationId} {o : OperationRow} :
    o ∈ s.blocking inc ↔ o ∈ s.operations ∧ o.targetIncarnationId = inc ∧ s.Blocks o := by
  rw [Store.blocking, List.mem_filter, decide_eq_true_iff, Store.Blocks, Table.mem_def]
  constructor
  · rintro ⟨h_o, h_clear, rfl, h_unknown, h_le⟩
    exact ⟨h_o, rfl, h_clear, h_unknown, h_le⟩
  · rintro ⟨h_o, rfl, h_clear, h_unknown, h_le⟩
    exact ⟨h_o, h_clear, rfl, h_unknown, h_le⟩

theorem Store.unprovenClear_eq (s : Store) (inc : IncarnationId) :
    s.unprovenClear inc = (((s.blocking inc).insertionSort fun a b =>
      b.settledAt ≤ a.settledAt).head?).map (·.id) := rfl

/-- The clear that is named is one that blocks. -/
theorem Store.unprovenClear_blocks {inc : IncarnationId} {id : OperationId}
    (h : s.unprovenClear inc = some id) :
    ∃ o ∈ s.operations, o.id = id ∧ o.targetIncarnationId = inc ∧ s.Blocks o := by
  rw [Store.unprovenClear_eq] at h
  obtain ⟨o, h_head, h_id⟩ := Option.map_eq_some_iff.mp h
  have h_sorted := List.mem_of_mem_head? h_head
  have h_mem : o ∈ s.blocking inc := (List.mem_insertionSort _).mp h_sorted
  obtain ⟨h_o, h_target, h_blocks⟩ := Store.mem_blocking.mp h_mem
  exact ⟨o, h_o, h_id, h_target, h_blocks⟩

/-- Some clear is named when one blocks. -/
theorem Store.unprovenClear_isSome {o : OperationRow} (h_o : o ∈ s.operations)
    (h : s.Blocks o) : (s.unprovenClear o.targetIncarnationId).isSome := by
  have h_mem := Store.mem_blocking.mpr ⟨h_o, rfl, h⟩
  have h_sorted := (List.mem_insertionSort fun a b : OperationRow =>
    b.settledAt ≤ a.settledAt).mpr h_mem
  have h_head := List.isSome_head?.mpr (List.ne_nil_of_mem h_sorted)
  rw [Store.unprovenClear_eq, Option.isSome_map]
  exact h_head

-- ============================================================================
-- Observed rotations
-- ============================================================================

/-- The live agent that the binding is seen as. -/
def ReadyBinding.boundLive (b : ReadyBinding) (snapshot : Snapshot) :
    Option AgentObservation :=
  ((b.renamedLive snapshot).or (b.exactLive snapshot)).or (b.unnamedLive snapshot)

/-- The binding is seen under another session than the recorded one. -/
def ReadyBinding.Rotated (b : ReadyBinding) (snapshot : Snapshot) : Prop :=
  ∃ live ∈ (b.boundLive snapshot).bind (·.agentSession),
    ∃ stored ∈ b.nativeSession, stored ≠ live

instance (b : ReadyBinding) (snapshot : Snapshot) : Decidable (b.Rotated snapshot) := by
  unfold ReadyBinding.Rotated
  infer_instance

/-- The snapshot shows the Ready incarnation under another session. -/
def Store.SeesRotation (s : Store) (snapshot : Snapshot) (inc : IncarnationId) : Prop :=
  ∃ i ∈ s.incarnations.find inc, ∃ read ∈ s.readyBinding i, ∃ b ∈ read.toOption,
    b.Rotated snapshot

instance (s : Store) (snapshot : Snapshot) : DecidablePred (s.SeesRotation snapshot) :=
  fun inc => by
    unfold Store.SeesRotation
    infer_instance

-- ============================================================================
-- Unknown operations
-- ============================================================================

/-- No operation ends unknown. -/
structure EndsNone (t t' : Table OperationRow.id) : Prop where
  ids : ∀ o ∈ t, ∃ o' ∈ t', o'.id = o.id
  unknown : ∀ o' ∈ t', o'.outcome = .unknown → o' ∈ t ∨ ∀ o ∈ t, o.id ≠ o'.id

instance EndsNone.stepwise : Stepwise EndsNone where
  refl _ := ⟨fun o h_o => ⟨o, h_o, rfl⟩, fun _ h_o _ => .inl h_o⟩
  trans {a b c} h h' := by
    constructor
    · intro o h_o
      obtain ⟨o₁, h_o₁, h_id₁⟩ := h.ids o h_o
      obtain ⟨o₂, h_o₂, h_id₂⟩ := h'.ids o₁ h_o₁
      exact ⟨o₂, h_o₂, h_id₂.trans h_id₁⟩
    · intro o'' h_o'' h_unknown
      rcases h'.unknown o'' h_o'' h_unknown with h_b | h_fresh
      · exact h.unknown o'' h_b h_unknown
      · right
        intro o h_o h_id
        obtain ⟨o₁, h_o₁, h_id₁⟩ := h.ids o h_o
        exact h_fresh o₁ h_o₁ (h_id₁.trans h_id)

theorem EndsNone.of_edits {t t' : Table OperationRow.id} {outcome : OperationOutcome}
    (h : t.Edits (OperationRow.Concludes outcome) t') (h_outcome : outcome ≠ .unknown) :
    EndsNone t t' where
  ids o h_o := by
    obtain ⟨o', h_o', h_same⟩ := h.image o h_o
    exact ⟨o', h_o', h_same.id⟩
  unknown o' h_o' h_unknown := by
    obtain ⟨o, h_o, h_same⟩ := h.origin o' h_o'
    rcases h_same.ends with rfl | ⟨-, h_ends⟩
    · exact .inl h_o
    · exact absurd (h_ends.symm.trans h_unknown) h_outcome

/-- No operation becomes unknown. -/
abbrev NoneUnknown : Store → Store → Prop := Over Tab.operations EndsNone

instance : Tolerates NoneUnknown Tab.operations (OperationRow.Concludes .succeeded) :=
  ⟨fun _ _ h => EndsNone.of_edits h (by decide)⟩
instance : Tolerates NoneUnknown Tab.operations (OperationRow.Concludes .accepted) :=
  ⟨fun _ _ h => EndsNone.of_edits h (by decide)⟩
instance : Tolerates NoneUnknown Tab.operations (OperationRow.Concludes .failed) :=
  ⟨fun _ _ h => EndsNone.of_edits h (by decide)⟩
instance : Tolerates NoneUnknown Tab.operations (OperationRow.Concludes .superseded) :=
  ⟨fun _ _ h => EndsNone.of_edits h (by decide)⟩

instance {new} : Admits NoneUnknown Tab.operations new where
  put s t r _ h := by
    constructor
    · exact fun o h_o => ⟨o, (h.mem o).mpr (.inl h_o), rfl⟩
    · intro o' h_o' _
      rcases (h.mem o').mp h_o' with h_old | h_new
      · exact .inl h_old
      · exact .inr fun o h_o => h.fresh o' h_new o h_o

/-- The call leaves an operation unknown. -/
def Call.Doubts (c : Call) : Prop :=
  match c with
  | .markUnknown _ _ _ _ | .markClearUnknown _ _ _ _ _ => True
  | _ => False

theorem Call.noneUnknown (c : Call) (h : c.Step s s') (h_c : ¬ c.Doubts) : NoneUnknown s s' := by
  cases c with
  | markUnknown => exact absurd trivial h_c
  | markClearUnknown => exact absurd trivial h_c
  | _ => exact Keeps.commit h

/-- The operation `op` on `inc` may end unknown at `now`, and no other. -/
structure EndsUnknown (now : Millis) (op : OperationId) (inc : IncarnationId)
    (t t' : Table OperationRow.id) : Prop where
  ids : ∀ o ∈ t, ∃ o' ∈ t', o'.id = o.id
  unknown : ∀ o' ∈ t', o'.outcome = .unknown → o' ∈ t ∨ (∀ o ∈ t, o.id ≠ o'.id) ∨
    ∃ o ∈ t, o.kind = o'.kind ∧ o.Owns op inc ∧ o'.Owns op inc ∧ o'.settledAt = now

theorem markUnknownWithClearSpacing_ends {op : OperationId} {inc : IncarnationId}
    {evidence : String} {delay : Option Millis}
    (h : (markUnknownWithClearSpacing now op inc evidence delay).run s = .ok ((), s')) :
    EndsUnknown now op inc s.operations s'.operations := by
  unfold markUnknownWithClearSpacing settleOperation at h
  obtain ⟨_, s₁, h_settle, h⟩ := run_bind_ok.mp h
  obtain ⟨n, s₂, h_update, h_settle⟩ := run_bind_ok.mp h_settle
  rw [run_require_ok, Prod.mk.injEq] at h_settle
  obtain ⟨-, -, rfl⟩ := h_settle
  have h_rest : NoneUnknown s₁ s' := by
    cases delay <;> exact Keeps.keeps h
  obtain ⟨t, rfl, h_t⟩ := run_updateRows_edits
    (fun o o' => o'.id = o.id ∧ (o' = o ∨
      o.kind = o'.kind ∧ o.Owns op inc ∧ o'.Owns op inc ∧ o'.settledAt = now)) h_update
    (fun o _ h_o => ⟨rfl, .inr ⟨rfl, h_o.1, h_o.1, rfl⟩⟩)
    (fun o _ _ => ⟨rfl, .inl rfl⟩)
  constructor
  · intro o h_o
    obtain ⟨o₁, h_o₁, h_id₁, -⟩ := h_t.image o h_o
    obtain ⟨o₂, h_o₂, h_id₂⟩ := h_rest.ids o₁ h_o₁
    exact ⟨o₂, h_o₂, h_id₂.trans h_id₁⟩
  · intro o' h_o' h_unknown
    rcases h_rest.unknown o' h_o' h_unknown with h_old | h_fresh
    · obtain ⟨o, h_o, -, h_same | h_ends⟩ := h_t.origin o' h_old
      · exact .inl (h_same ▸ h_o)
      · exact .inr (.inr ⟨o, h_o, h_ends⟩)
    · refine .inr (.inl fun o h_o h_id => ?_)
      obtain ⟨o₁, h_o₁, h_id₁, -⟩ := h_t.image o h_o
      exact h_fresh o₁ h_o₁ (h_id₁.trans h_id)

-- ============================================================================
-- Times of rotation
-- ============================================================================

/-- The time of the last recorded rotation of `inc` in the table. -/
def timeIn (t : Table IncarnationRow.id) (inc : IncarnationId) : Millis :=
  ((t.find inc).bind (·.nativeSessionRotatedAtMs)).getD 0

/-- The incarnations keep the times of their last rotations. -/
def KeepsTimes (t t' : Table IncarnationRow.id) : Prop := ∀ inc, timeIn t' inc = timeIn t inc

instance KeepsTimes.stepwise : Stepwise KeepsTimes where
  refl _ _ := rfl
  trans h h' inc := (h' inc).trans (h inc)

/-- The times of the incarnations stay as they are. -/
abbrev SameTimes : Store → Store → Prop := Over Tab.incarnations KeepsTimes

/-- The time depends on the row of the incarnation alone. -/
theorem timeIn_congr {t t' : Table IncarnationRow.id} {inc : IncarnationId}
    (h : (t'.find inc).map (·.nativeSessionRotatedAtMs) =
      (t.find inc).map (·.nativeSessionRotatedAtMs)) : timeIn t' inc = timeIn t inc := by
  have h_bind (o : Option IncarnationRow) :
      o.bind (·.nativeSessionRotatedAtMs) = (o.map (·.nativeSessionRotatedAtMs)).join := by
    cases o <;> rfl
  rw [timeIn, timeIn, h_bind, h_bind, h]

instance : Tolerates SameTimes Tab.incarnations IncarnationRow.SameRotation where
  put s t h inc := by
    apply timeIn_congr
    exact h.find_map (fun _ _ h_i => h_i.id) (fun _ _ h_i => h_i.rotated) inc

instance : Admits SameTimes Tab.incarnations IncarnationRow.Unrotated where
  put s t r h_r h inc := by
    show timeIn t inc = timeIn s.incarnations inc
    by_cases h_inc : r.id = inc
    · have h_old : s.incarnations.find inc = none := by
        rw [Table.find_eq_none]
        exact fun i h_i h_id => h.fresh r rfl i h_i (h_id.trans h_inc.symm)
      have h_new : t.find inc = some r := Table.find_eq_some.mpr ⟨(h.mem r).mpr (.inr rfl), h_inc⟩
      have h_none : r.nativeSessionRotatedAtMs = none := h_r
      rw [timeIn, timeIn, h_old, h_new, Option.bind_some, Option.bind_none, h_none]
    · apply timeIn_congr
      refine congrArg _ (Table.find_congr fun i h_i => ?_)
      refine (h.mem i).trans (or_iff_left fun h_eq => h_inc ?_)
      cases h_eq
      exact h_i

/-- The call records the time of a rotation. -/
def Call.Stamps (c : Call) : Prop :=
  match c with
  | .completeClear _ _ _ _ _ | .reconcileReadyIncarnations _ _ => True
  | _ => False

theorem Call.sameTimes (c : Call) (h : c.Step s s') (h_c : ¬ c.Stamps) : SameTimes s s' := by
  cases c with
  | completeClear => exact absurd trivial h_c
  | reconcileReadyIncarnations => exact absurd trivial h_c
  | _ => exact Keeps.commit h

/-- The incarnations that meet `P` have the time of their last rotation set to `now`. -/
def SetsTimes (now : Millis) (P : IncarnationId → Prop) (s s' : Store) : Prop :=
  ∀ inc, (P inc → s'.rotatedAt inc = now) ∧ (¬ P inc → s'.rotatedAt inc = s.rotatedAt inc)

/-- An update that stamps the rows it applies to sets their times and no others. -/
theorem stamp_times {p : IncarnationRow → Prop} [DecidablePred p]
    {f : IncarnationRow → IncarnationRow} {h_key : ∀ i, (f i).id = i.id} {n : Nat}
    (h : (updateRows Tab.incarnations p f h_key : StoreTx Nat).run s = .ok (n, s'))
    (h_f : ∀ i, (f i).nativeSessionRotatedAtMs = some now) (inc : IncarnationId) :
    s'.rotatedAt inc =
      if ∃ i ∈ s.incarnations.find inc, p i then now else s.rotatedAt inc := by
  rw [run_updateRows, Except.ok.injEq, Prod.mk.injEq] at h
  obtain ⟨-, rfl⟩ := h
  show (((s.incarnations.update p f h_key).find inc).bind (·.nativeSessionRotatedAtMs)).getD 0 = _
  rw [Table.find_update, Store.rotatedAt]
  cases h_i : s.incarnations.find inc with
  | none => simp
  | some i =>
    rw [Option.map_some, Option.bind_some]
    by_cases h_p : p i
    · have h_stamp := h_f i
      simp [h_p, h_stamp]
    · simp [h_p]

-- ============================================================================
-- Completed clears
-- ============================================================================

/-- A completed clear sets the time when it comes with the new session. -/
theorem completeClear_times {op : OperationId} {inc : IncarnationId}
    {session : Option NativeSession} {delay : Millis}
    (h : (completeClear now op inc session delay).run s = .ok ((), s')) :
    SetsTimes now (fun i => inc = i ∧ session.isSome) s s' := by
  simp only [completeClear] at h
  obtain ⟨n, s₁, h_op, h⟩ := run_bind_ok.mp h
  rw [run_bind_require_ok] at h
  obtain ⟨-, h⟩ := h
  have h_first : SameTimes s s₁ := Keeps.keeps h_op
  cases session with
  | none =>
    have h_rest : SameTimes s₁ s' := Keeps.keeps h
    intro i
    refine ⟨fun h_i => absurd h_i.2 (by decide), fun _ => ?_⟩
    exact (h_rest i).trans (h_first i)
  | some session =>
    obtain ⟨n, s₂, h_stamp, h⟩ := run_bind_ok.mp h
    rw [run_bind_require_ok] at h
    obtain ⟨rfl, h⟩ := h
    have h_rest : SameTimes s₂ s' := Keeps.keeps h
    obtain ⟨t, h_t, i₀, h_i₀, h_p, -⟩ := run_updateRows_pos h_stamp Nat.one_pos
    have h_found : s₁.incarnations.find inc = some i₀ :=
      Table.find_eq_some.mpr ⟨h_i₀, h_p.1⟩
    intro i
    have h_i := (h_rest i).trans (stamp_times h_stamp (fun _ => rfl) i)
    constructor
    · rintro ⟨rfl, -⟩
      exact h_i.trans (if_pos ⟨i₀, h_found, h_p⟩)
    · intro h_other
      refine (h_i.trans (if_neg ?_)).trans (h_first i)
      rintro ⟨j, h_j, h_id, -⟩
      have h_ji := (Table.find_eq_some.mp h_j).2
      exact h_other ⟨h_id.symm.trans h_ji, rfl⟩

-- ============================================================================
-- Reconciled bindings
-- ============================================================================

section Bindings

variable {snapshot : Snapshot} {bs : List ReadyBinding}

/-- The bindings of a pass are of different incarnations. -/
theorem readyBindings_ids_nodup (h : readyBindings s = .ok bs) : (bs.map (·.id)).Nodup := by
  have h_same {b c : ReadyBinding} (h_b : b ∈ bs) (h_c : c ∈ bs) (h_id : b.id = c.id) : b = c := by
    obtain ⟨i, h_i⟩ := readyBindings_of h h_b
    obtain ⟨j, h_j⟩ := readyBindings_of h h_c
    obtain rfl := Table.eq_of_key h_i.row h_j.row (h_i.id.symm.trans (h_id.trans h_j.id))
    have h_read := h_i.read.symm.trans h_j.read
    rw [Option.some.injEq, Except.ok.injEq] at h_read
    exact h_read
  have h_rows : (s.incarnations.rows.filterMap s.readyBinding).Nodup := by
    rw [nodup_filterMap_iff s.incarnations.keys_nodup.of_map]
    intro i h_i j h_j x h_x h_x'
    have h_mem : x ∈ bs.map Except.ok := by
      rw [← mapM_id_ok h]
      exact List.mem_filterMap.mpr ⟨i, h_i, h_x⟩
    obtain ⟨b, -, rfl⟩ := List.mem_map.mp h_mem
    have h_ib := (readyBinding_of h_i h_x).id
    have h_jb := (readyBinding_of h_j h_x').id
    exact Table.eq_of_key h_i h_j (h_ib.symm.trans h_jb)
  rw [mapM_id_ok h] at h_rows
  exact h_rows.of_map.map_on fun b h_b c h_c => h_same h_b h_c

/-- A refreshed session is stamped when it is seen to have rotated. -/
theorem refreshRotatedSession_times {b : ReadyBinding} {n : Nat}
    (h : (refreshRotatedSession now b (b.boundLive snapshot)).run s = .ok (n, s'))
    (h_ready : ∃ i ∈ s.incarnations.find b.id, i.state = .ready) :
    SetsTimes now (fun inc => b.id = inc ∧ b.Rotated snapshot) s s' := by
  have h_skip (h_none : ¬ b.Rotated snapshot) (h_same : s' = s) :
      SetsTimes now (fun inc => b.id = inc ∧ b.Rotated snapshot) s s' := by
    intro inc
    rw [h_same]
    exact ⟨fun h_inc => absurd h_inc.2 h_none, fun _ => rfl⟩
  unfold refreshRotatedSession at h
  cases h_live : (b.boundLive snapshot).bind (·.agentSession) with
  | none =>
    rw [h_live] at h
    cases h
    refine h_skip ?_ rfl
    rintro ⟨live, h_some, -⟩
    rw [h_live] at h_some
    cases h_some
  | some live =>
    cases h_stored : b.nativeSession with
    | none =>
      rw [h_live, h_stored] at h
      cases h
      refine h_skip ?_ rfl
      rintro ⟨_, -, stored, h_some, -⟩
      rw [h_stored] at h_some
      cases h_some
    | some stored =>
      have h_iff : b.Rotated snapshot ↔ stored ≠ live := by
        unfold ReadyBinding.Rotated
        rw [h_live, h_stored]
        simp
      simp only [h_live, h_stored] at h
      by_cases h_ne : stored = live
      · rw [if_neg (not_not_intro h_ne)] at h
        cases h
        exact h_skip (fun h_rot => h_iff.mp h_rot h_ne) rfl
      · rw [if_pos h_ne] at h
        intro inc
        have h_inc := stamp_times h (fun _ => rfl) inc
        constructor
        · rintro ⟨rfl, -⟩
          obtain ⟨i, h_i, h_i_ready⟩ := h_ready
          rw [h_inc, if_pos ⟨i, h_i, (Table.find_eq_some.mp h_i).2, h_i_ready⟩]
        · intro h_other
          rw [h_inc, if_neg]
          rintro ⟨i, h_i, h_id, -⟩
          have h_inc := (Table.find_eq_some.mp h_i).2
          exact h_other ⟨h_id.symm.trans h_inc, h_iff.mpr h_ne⟩

/-- Reconciling a binding sets the time of its incarnation when its session rotated. -/
theorem reconcileReadyBinding_times {b : ReadyBinding} {report : ReadyReport}
    (h : (reconcileReadyBinding now snapshot b).run s = .ok (report, s'))
    (h_ready : ∃ i ∈ s.incarnations.find b.id, i.state = .ready) :
    SetsTimes now (fun inc => b.id = inc ∧ b.Rotated snapshot) s s' := by
  simp only [reconcileReadyBinding] at h
  obtain ⟨n, s₁, h_refresh, h⟩ := run_bind_ok.mp h
  have h_rest : SameTimes s₁ s' := Keeps.keeps h
  have h_first := refreshRotatedSession_times h_refresh h_ready
  intro inc
  have h_inc : s'.rotatedAt inc = s₁.rotatedAt inc := h_rest inc
  rw [h_inc]
  exact h_first inc

/-- The incarnation of another binding is as it was. -/
theorem Reconciled.find {b c : ReadyBinding} (h : Reconciled snapshot [b] s s')
    (h_id : c.id ≠ b.id) {i : IncarnationRow} (h_i : s.incarnations.find c.id = some i) :
    s'.incarnations.find c.id = some i := by
  obtain ⟨h_mem, h_ci⟩ := Table.find_eq_some.mp h_i
  obtain ⟨i', h_i', h_checked⟩ := h.incarnations.image i h_mem
  have h_same : i' = i := by
    apply h_checked.apart
    intro d h_d h_di
    rw [List.mem_singleton.mp h_d] at h_di
    exact h_id (h_ci.symm.trans h_di.symm)
  rw [h_same] at h_i'
  exact Table.find_eq_some.mpr ⟨h_i', h_ci⟩

theorem forEach_times {reports : List ReadyReport}
    (h : (forEach bs (reconcileReadyBinding now snapshot)).run s = .ok (reports, s'))
    (h_nodup : (bs.map (·.id)).Nodup)
    (h_ready : ∀ b ∈ bs, ∃ i ∈ s.incarnations.find b.id, i.state = .ready) :
    SetsTimes now (fun inc => ∃ b ∈ bs, b.id = inc ∧ b.Rotated snapshot) s s' := by
  induction bs generalizing s reports with
  | nil =>
    cases h
    intro inc
    refine ⟨?_, fun _ => rfl⟩
    rintro ⟨b, h_b, -⟩
    exact absurd h_b List.not_mem_nil
  | cons b bs ih =>
    rw [List.map_cons, List.nodup_cons] at h_nodup
    simp only [forEach] at h
    obtain ⟨_, s₁, h_b, h⟩ := run_bind_ok.mp h
    obtain ⟨_, s₂, h_bs, h⟩ := run_bind_ok.mp h
    cases h
    have h_first := reconcileReadyBinding_times h_b (h_ready b List.mem_cons_self)
    have h_rest := ih h_bs h_nodup.2 fun c h_c => by
      obtain ⟨i, h_i, h_i_ready⟩ := h_ready c (List.mem_cons_of_mem b h_c)
      have h_cb : c.id ≠ b.id := fun h_id =>
        h_nodup.1 (List.mem_map.mpr ⟨c, h_c, h_id⟩)
      exact ⟨i, (reconcileReadyBinding_run h_b).find h_cb h_i, h_i_ready⟩
    intro inc
    constructor
    · rintro ⟨c, h_c, h_rot⟩
      by_cases h_later : ∃ c ∈ bs, c.id = inc ∧ c.Rotated snapshot
      · exact (h_rest inc).1 h_later
      · rcases List.mem_cons.mp h_c with rfl | h_c
        · rw [(h_rest inc).2 h_later]
          exact (h_first inc).1 h_rot
        · exact absurd ⟨c, h_c, h_rot⟩ h_later
    · intro h_none
      have h_later : ¬ ∃ c ∈ bs, c.id = inc ∧ c.Rotated snapshot := by
        rintro ⟨c, h_c, h_rot⟩
        exact h_none ⟨c, List.mem_cons_of_mem b h_c, h_rot⟩
      rw [(h_rest inc).2 h_later]
      exact (h_first inc).2 fun h_rot => h_none ⟨b, List.mem_cons_self, h_rot⟩

/-- A pass sets the times of the incarnations that it sees under another session. -/
theorem reconcileReadyIncarnations_times {report : ReadyReport}
    (h : (reconcileReadyIncarnations now snapshot).run s = .ok (report, s')) :
    SetsTimes now (s.SeesRotation snapshot) s s' := by
  simp only [reconcileReadyIncarnations] at h
  rw [run_bind_query_ok] at h
  obtain ⟨bs, h_bs, h⟩ := h
  obtain ⟨_, s₁, h_each, h⟩ := run_bind_ok.mp h
  cases h
  have h_times := forEach_times h_each (readyBindings_ids_nodup h_bs) fun b h_b => by
    obtain ⟨i, h_i⟩ := readyBindings_of h_bs h_b
    exact ⟨i, Table.find_eq_some.mpr ⟨h_i.row, h_i.id.symm⟩, h_i.ready⟩
  have h_sees (inc : IncarnationId) : s.SeesRotation snapshot inc ↔
      ∃ b ∈ bs, b.id = inc ∧ b.Rotated snapshot := by
    constructor
    · rintro ⟨i, h_i, read, h_read, b, h_b, h_rot⟩
      obtain ⟨h_mem, rfl⟩ := Table.find_eq_some.mp h_i
      obtain rfl : read = .ok b := by
        cases read with
        | error e => cases h_b
        | ok c => exact congrArg Except.ok (Option.some.inj h_b)
      exact ⟨b, (mem_readyBindings h_bs).mpr ⟨i, h_mem, h_read⟩,
        (readyBinding_of h_mem h_read).id, h_rot⟩
    · rintro ⟨b, h_b, rfl, h_rot⟩
      obtain ⟨i, h_i⟩ := readyBindings_of h_bs h_b
      exact ⟨i, Table.find_eq_some.mpr ⟨h_i.row, h_i.id.symm⟩, _, h_i.read, b, rfl, h_rot⟩
  intro inc
  rw [h_sees inc]
  exact h_times inc

end Bindings

end Kelpie
