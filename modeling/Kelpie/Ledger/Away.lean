/-
  Kelpie.Ledger.Away

  What an agent is told of the asks that were closed while it was away. A closed ask
  keeps its moment and its reason, and the query lists it exactly if the agent was
  bound again at a single moment.
-/

import Mathlib.Data.List.Sort
import Kelpie.Ledger.StateMachine

namespace Kelpie

open Lib Lib.Tx Ledger

-- As in `Kelpie.Store.Frames`.
set_option synthInstance.maxSize 100000

variable {s s' : Store}

-- ============================================================================
-- Closed asks
-- ============================================================================

namespace ObligationRow

/-- The same ask, closed the same way at the same moment. -/
structure SameClosing (o o' : ObligationRow) : Prop where
  ask : o'.askMessageId = o.askMessageId
  waiting : o'.waitingAgentId = o.waitingAgentId
  owing : o'.owingAgentId = o.owingAgentId
  state : o'.state = o.state
  closedAt : o'.lastActivityAtMs = o.lastActivityAtMs

theorem SameClosing.rfl {o : ObligationRow} : o.SameClosing o :=
  ⟨.refl _, .refl _, .refl _, .refl _, .refl _⟩

theorem SameClosing.trans {o o' o'' : ObligationRow} (h : o.SameClosing o')
    (h' : o'.SameClosing o'') : o.SameClosing o'' where
  ask := h'.ask.trans h.ask
  waiting := h'.waiting.trans h.waiting
  owing := h'.owing.trans h.owing
  state := h'.state.trans h.state
  closedAt := h'.closedAt.trans h.closedAt

theorem SameClosing.party {o o' : ObligationRow} (h : o.SameClosing o')
    (audience : CancellationAudience) : o'.party audience = o.party audience := by
  cases audience with
  | waiting => exact h.waiting
  | owing => exact h.owing

/-- An edit leaves closed asks as they are, and closes none without a reason. -/
structure Spared (o o' : ObligationRow) : Prop where
  closing : o.state.Discarded → o.SameClosing o'
  reason : o'.state.Discarded → o'.cancellationReason.isSome ∨
    (o.state.Discarded ∧ o'.cancellationReason = o.cancellationReason)

theorem Spared.rfl {o : ObligationRow} : o.Spared o := ⟨fun _ => .rfl, fun h => .inr ⟨h, .refl _⟩⟩

theorem not_discarded_of_unresolved {state : ObligationState} (h : state.Unresolved) :
    ¬ state.Discarded := by
  rcases h with rfl | rfl <;> simp [ObligationState.Discarded]

theorem Closes.spared {o o' : ObligationRow} (h : o.Closes o') : o.Spared o' := by
  rcases h.closed with rfl | ⟨h_open, h_reason⟩
  · exact .rfl
  · exact ⟨fun h_closed => absurd h_closed (not_discarded_of_unresolved h_open),
      fun _ => .inl h_reason⟩

/-- An edit of an unresolved ask that does not close it. -/
theorem Spared.of_unresolved {o o' : ObligationRow} (h_open : o.state.Unresolved)
    (h_state : o'.state = o.state ∨ ¬ o'.state.Discarded) : o.Spared o' where
  closing h_closed := absurd h_closed (not_discarded_of_unresolved h_open)
  reason h_closed := by
    refine absurd h_closed (h_state.elim (fun h_same => ?_) id)
    rw [h_same]
    exact not_discarded_of_unresolved h_open

theorem Fulfils.spared {o o' : ObligationRow} (h : o.Fulfils o') : o.Spared o' := by
  rcases h.closed with rfl | h_open
  · exact .rfl
  · exact .of_unresolved h_open h.state

theorem Observes.spared {o o' : ObligationRow} (h : o.Observes o') : o.Spared o' := by
  rcases h.unresolved with rfl | h_open
  · exact .rfl
  · exact .of_unresolved h_open (.inl h.state)

theorem Annotates.spared {o o' : ObligationRow} (h : o.Annotates o') : o.Spared o' where
  closing _ := ⟨h.ask, h.waiting, h.owing, h.state, h.activity⟩
  reason h_closed := .inr ⟨h.state ▸ h_closed, h.reason⟩

end ObligationRow

/-- Every closed ask has a reason. -/
def Store.Reasoned (s : Store) : Prop :=
  ∀ o ∈ s.obligations, o.state.Discarded → o.cancellationReason.isSome

/-- Closed asks stay as they are, and those that come to it have a reason. -/
structure Stands (s s' : Store) : Prop where
  rests : ∀ o ∈ s.obligations, o.state.Discarded → ∃ o' ∈ s'.obligations, o.SameClosing o'
  reasoned : s.Reasoned → s'.Reasoned

section Frames

open ObligationRow (Spared Closes Fulfils Annotates Observes Opens)

theorem Stands.of_same (h : s'.obligations = s.obligations) : Stands s s' where
  rests o h_o _ := ⟨o, h ▸ h_o, .rfl⟩
  reasoned h_s o h_o := h_s o (h ▸ h_o)

instance Stands.stepwise : Stepwise Stands where
  refl _ := .of_same rfl
  trans h h' :=
    { rests := fun o h_o h_closed => by
        obtain ⟨o', h_o', h_same⟩ := h.rests o h_o h_closed
        obtain ⟨o'', h_o'', h_same'⟩ := h'.rests o' h_o' (h_same.state ▸ h_closed)
        exact ⟨o'', h_o'', h_same.trans h_same'⟩
      reasoned := h'.reasoned ∘ h.reasoned }

instance : Ignores Stands Tab.logicalAgents := ⟨fun _ _ => .of_same rfl⟩
instance : Ignores Stands Tab.incarnations := ⟨fun _ _ => .of_same rfl⟩
instance : Ignores Stands Tab.operations := ⟨fun _ _ => .of_same rfl⟩
instance : Ignores Stands Tab.operationAttempts := ⟨fun _ _ => .of_same rfl⟩
instance : Ignores Stands Tab.operatorNotices := ⟨fun _ _ => .of_same rfl⟩
instance : Ignores Stands Tab.messages := ⟨fun _ _ => .of_same rfl⟩
instance : Ignores Stands Tab.deliveries := ⟨fun _ _ => .of_same rfl⟩
instance : Ignores Stands Tab.obligationReminders := ⟨fun _ _ => .of_same rfl⟩
instance : Ignores Stands Tab.reminderAttempts := ⟨fun _ _ => .of_same rfl⟩
instance : Ignores Stands Tab.renewAttempts := ⟨fun _ _ => .of_same rfl⟩
instance : Ignores Stands Tab.schedules := ⟨fun _ _ => .of_same rfl⟩
instance : Ignores Stands Tab.renews := ⟨fun _ _ => .of_same rfl⟩
instance : Ignores Stands Tab.scheduleFirings := ⟨fun _ _ => .of_same rfl⟩
instance : Ignores Stands Tab.socketWaiterKeys := ⟨fun _ _ => .of_same rfl⟩
instance : Ignores Stands Tab.socketInboxKeys := ⟨fun _ _ => .of_same rfl⟩
instance : Ignores Stands Tab.askPullLeases := ⟨fun _ _ => .of_same rfl⟩
instance : Ignores Stands Tab.askPullKeys := ⟨fun _ _ => .of_same rfl⟩
instance : IgnoresCounters Stands :=
  ⟨fun _ _ => .of_same rfl, fun _ _ => .of_same rfl, fun _ _ => .of_same rfl⟩

instance : Tolerates Stands Tab.obligations Spared where
  put s t h :=
    { rests := fun o h_o h_closed => by
        obtain ⟨o', h_o', h_spared⟩ := h.image o h_o
        exact ⟨o', h_o', h_spared.closing h_closed⟩
      reasoned := fun h_s o' h_o' h_closed => by
        obtain ⟨o, h_o, h_spared⟩ := h.origin o' h_o'
        rcases h_spared.reason h_closed with h_reason | ⟨h_before, h_same⟩
        · exact h_reason
        · rw [h_same]
          exact h_s o h_o h_before }

instance : Tolerates Stands Tab.obligations Closes := .mono fun _ _ h => h.spared
instance : Tolerates Stands Tab.obligations Fulfils := .mono fun _ _ h => h.spared
instance : Tolerates Stands Tab.obligations Annotates := .mono fun _ _ h => h.spared
instance : Tolerates Stands Tab.obligations Observes := .mono fun _ _ h => h.spared

instance : Admits Stands Tab.obligations Opens where
  put s t r h_r h :=
    { rests := fun o h_o _ => ⟨o, (h.mem o).mpr (.inl h_o), .rfl⟩
      reasoned := fun h_s o h_o h_closed => by
        rcases (h.mem o).mp h_o with h_old | h_new
        · exact h_s o h_old h_closed
        · rw [← Option.some_inj.mp h_new, h_r.state] at h_closed
          simp [ObligationState.Discarded] at h_closed }

end Frames

-- ============================================================================
-- Replies
-- ============================================================================

section Replies

variable {ask : MessageId}

/-- The ask is owed. -/
def Store.Owed (s : Store) (ask : MessageId) : Prop :=
  ∃ o ∈ s.obligations, o.askMessageId = ask ∧ o.state.Unresolved

/-- What holds of closed asks as long as `ask` is owed. -/
abbrev StandsBy (ask : MessageId) : Store → Store → Prop := Under (Store.Owed · ask) Stands

theorem StandsBy.of_same (h : s'.obligations = s.obligations) : StandsBy ask s s' :=
  fun ⟨o, h_o, h_owed⟩ => ⟨.of_same h, o, h ▸ h_o, h_owed⟩

instance : Ignores (StandsBy ask) Tab.operations := ⟨fun _ _ => .of_same rfl⟩
instance : Ignores (StandsBy ask) Tab.messages := ⟨fun _ _ => .of_same rfl⟩
instance : Ignores (StandsBy ask) Tab.deliveries := ⟨fun _ _ => .of_same rfl⟩
instance : Ignores (StandsBy ask) Tab.obligationReminders := ⟨fun _ _ => .of_same rfl⟩
instance : Ignores (StandsBy ask) Tab.socketInboxKeys := ⟨fun _ _ => .of_same rfl⟩
instance : Ignores (StandsBy ask) Tab.askPullKeys := ⟨fun _ _ => .of_same rfl⟩

/-- An edit of an ask that is owed, which leaves it owed. -/
theorem standsBy_updateRows {p : ObligationRow → Prop} [DecidablePred p]
    {f : ObligationRow → ObligationRow} {h_key : ∀ o, (f o).askMessageId = o.askMessageId}
    (h_p : ∀ o, p o → o.askMessageId = ask)
    (h_f : ∀ o, o.state.Unresolved → (f o).state.Unresolved) :
    Keeps (StandsBy ask) (updateRows Tab.obligations p f h_key : StoreTx Nat) := by
  refine .updateRows fun s ⟨o, h_o, h_ask, h_open⟩ => ?_
  have h_edits : s.obligations.Edits ObligationRow.Spared (s.obligations.update p f h_key) := by
    refine Table.edits_update h_key (fun o' h_o' h_p' => ?_) fun _ _ _ => .rfl
    obtain rfl := Table.eq_of_key h_o' h_o ((h_p o' h_p').trans h_ask.symm)
    exact .of_unresolved h_open (.inr (ObligationRow.not_discarded_of_unresolved (h_f _ h_open)))
  refine ⟨(inferInstance : Tolerates Stands Tab.obligations _).put s _ h_edits, ?_⟩
  change ∃ o' ∈ s.obligations.update p f h_key, _
  by_cases h_applies : p o
  · exact ⟨f o, Table.mem_update_of h_o h_applies, (h_key o).trans h_ask, h_f o h_open⟩
  · exact ⟨o, Table.mem_update_of_not h_o h_applies, h_ask, h_open⟩

instance {now disposition} :
    Keeps (StandsBy ask) (applyReplyObligationActivity now ask disposition) := by
  unfold applyReplyObligationActivity
  cases disposition with
  | progress =>
    refine @Keeps.bind _ _ _ _ _ _ _ _ ?_ fun _ => inferInstance
    exact standsBy_updateRows (fun _ h => h) fun _ _ => .inr rfl
  | final =>
    refine @Keeps.bind _ _ _ _ _ _ _ _ ?_ fun _ => inferInstance
    exact standsBy_updateRows (fun _ h => h.1) fun _ h => h

/-- A reply is recorded against an ask that is owed. -/
instance {now requester body disposition key due} :
    Keeps Stands (recordNewReply now ask requester body disposition key due) where
  keeps {s r s'} h := by
    simp only [recordNewReply, run_bind_query_ok] at h
    obtain ⟨o, h_o, identity, -, h⟩ := h
    obtain ⟨h_mem, h_ask, -, h_open⟩ := replyableObligation_ok h_o
    have h_stands : StandsBy ask s s' := Keeps.keeps h
    exact (h_stands ⟨o, h_mem, h_ask, h_open⟩).1

instance {now requester body disposition key due} :
    Keeps Stands (createReplyWithDue now ask requester body disposition key due) :=
  keeps_createReplyWithDue

end Replies

/-- What every call keeps of closed asks. -/
theorem Call.stands (c : Call) (h : c.Step s s') : Stands s s' := by
  cases c <;> exact Keeps.commit h

/-- Closed asks stay as they are over a whole run. -/
theorem stands_run {ok : Call → Store → Prop} (h : StoreRun ok s s') : Stands s s' :=
  h.relates fun c _ _ _ h_step => c.stands h_step

theorem reasoned_of_reachable {ok : Call → Store → Prop} (h : Reachable ok s) : s.Reasoned :=
  (stands_run h).reasoned nofun

-- ============================================================================
-- The latest of some moments
-- ============================================================================

section Latest

variable {ts : List Millis} {t d : Millis}

theorem lt_latest_iff : (∃ latest ∈ ts.max?, t < latest) ↔ ∃ x ∈ ts, t < x := by
  constructor
  · rintro ⟨latest, h_latest, h_lt⟩
    exact ⟨latest, (List.max?_eq_some_iff.mp h_latest).1, h_lt⟩
  · rintro ⟨x, h_x, h_lt⟩
    obtain ⟨latest, h_latest⟩ := Option.isSome_iff_exists.mp (List.isSome_max?_of_mem h_x)
    exact ⟨latest, h_latest, h_lt.trans_le ((List.max?_eq_some_iff.mp h_latest).2 x h_x)⟩

theorem latest_lt_iff : ts.max?.getD d < t ↔ (∀ x ∈ ts, x < t) ∧ (ts = [] → d < t) := by
  cases h : ts.max? with
  | none =>
    obtain rfl := List.max?_eq_none_iff.mp h
    simp
  | some latest =>
    obtain ⟨h_latest, h_max⟩ := List.max?_eq_some_iff.mp h
    have h_ne : ts ≠ [] := List.ne_nil_of_mem h_latest
    simp only [Option.getD_some, h_ne, false_implies, and_true]
    exact ⟨fun h_lt x h_x => (h_max x h_x).trans_lt h_lt, fun h_all => h_all latest h_latest⟩

theorem le_latest_iff : t ≤ ts.max?.getD d ↔ (∃ x ∈ ts, t ≤ x) ∨ (ts = [] ∧ t ≤ d) := by
  rw [← not_lt, latest_lt_iff]
  simp only [not_and_or, not_forall, not_lt, exists_prop]

/-- In a sorted list an entry stands among the first `n` when at most `n` stand no later. -/
theorem mem_take_of_pairwise {α : Type} {r : α → α → Prop} [DecidableRel r] [Std.Refl r]
    {x : α} {xs : List α} {n : Nat} (h : xs.Pairwise r) (h_x : x ∈ xs)
    (h_count : (xs.filter (r · x)).length ≤ n) : x ∈ xs.take n := by
  induction xs generalizing n with
  | nil => cases h_x
  | cons y ys ih =>
    obtain ⟨h_y, h_ys⟩ := List.pairwise_cons.mp h
    have h_before : r y x := by
      rcases List.mem_cons.mp h_x with rfl | h_x
      · exact Std.Refl.refl x
      · exact h_y x h_x
    have h_filter : (y :: ys).filter (r · x) = y :: ys.filter (r · x) :=
      List.filter_cons_of_pos (decide_eq_true h_before)
    rw [h_filter, List.length_cons] at h_count
    cases n with
    | zero => exact absurd h_count (Nat.not_succ_le_zero _)
    | succ m =>
      rw [List.take_succ_cons]
      rcases List.mem_cons.mp h_x with rfl | h_x
      · exact List.mem_cons_self
      · exact List.mem_cons_of_mem y (ih h_ys h_x (Nat.le_of_succ_le_succ h_count))

end Latest

-- ============================================================================
-- The window
-- ============================================================================

/-- The incarnation of the agent was created before another one of it. -/
def Store.Outdated (s : Store) (agent : LogicalAgentId) (i : IncarnationRow) : Prop :=
  i.logicalAgentId = agent ∧
    ∃ j ∈ s.incarnations, j.logicalAgentId = agent ∧ i.createdAtMs < j.createdAtMs

/-- Since `closedAt` the agent was bound, and all that was declared of it since was created at
    one moment; where nothing was declared before, the clock has left zero. -/
structure Store.ReboundOnce (s : Store) (agent : LogicalAgentId) (closedAt : Millis) : Prop where
  rebound : (∃ i ∈ s.incarnations,
      i.logicalAgentId = agent ∧ i.state = .ready ∧ closedAt ≤ i.createdAtMs) ∨
    ((∀ i ∈ s.incarnations, i.logicalAgentId = agent → i.state ≠ .ready) ∧ closedAt ≤ i64Max)
  once : ∀ i ∈ s.incarnations, s.Outdated agent i → i.createdAtMs < closedAt
  epoch : (∃ i ∈ s.incarnations, s.Outdated agent i) ∨ 0 < closedAt

section Window

variable {agent : LogicalAgentId} {t closedAt : Millis}

theorem mem_creations {p : IncarnationRow → Prop} [DecidablePred p] :
    t ∈ s.creations agent p ↔
      ∃ i ∈ s.incarnations, i.logicalAgentId = agent ∧ p i ∧ i.createdAtMs = t := by
  simp only [Store.creations, List.mem_map, List.mem_filter, decide_eq_true_eq, and_assoc]
  rfl

theorem awaySince_lt_iff : s.awaySince agent < closedAt ↔
    (∀ i ∈ s.incarnations, s.Outdated agent i → i.createdAtMs < closedAt) ∧
      ((∃ i ∈ s.incarnations, s.Outdated agent i) ∨ 0 < closedAt) := by
  have h_mem (x : Millis) : (x ∈ (s.creations agent fun _ => True).filter fun t =>
      ∃ newest ∈ (s.creations agent fun _ => True).max?, t < newest) ↔
      ∃ i ∈ s.incarnations, s.Outdated agent i ∧ i.createdAtMs = x := by
    rw [List.mem_filter, decide_eq_true_eq, lt_latest_iff]
    constructor
    · rintro ⟨h_x, y, h_y, h_lt⟩
      obtain ⟨i, h_i, h_agent, -, rfl⟩ := mem_creations.mp h_x
      obtain ⟨j, h_j, h_agent', -, rfl⟩ := mem_creations.mp h_y
      exact ⟨i, h_i, ⟨h_agent, j, h_j, h_agent', h_lt⟩, rfl⟩
    · rintro ⟨i, h_i, ⟨h_agent, j, h_j, h_agent', h_lt⟩, rfl⟩
      exact ⟨mem_creations.mpr ⟨i, h_i, h_agent, trivial, rfl⟩, j.createdAtMs,
        mem_creations.mpr ⟨j, h_j, h_agent', trivial, rfl⟩, h_lt⟩
  unfold Store.awaySince
  rw [latest_lt_iff, List.eq_nil_iff_forall_not_mem, or_iff_not_imp_left]
  refine and_congr ⟨fun h i h_i h_outdated => ?_, fun h x h_x => ?_⟩
    (imp_congr_left ⟨?_, fun h_none x h_x => ?_⟩)
  · exact h _ ((h_mem _).mpr ⟨i, h_i, h_outdated, rfl⟩)
  · obtain ⟨i, h_i, h_outdated, rfl⟩ := (h_mem x).mp h_x
    exact h i h_i h_outdated
  · rintro h_none ⟨i, h_i, h_outdated⟩
    exact h_none _ ((h_mem _).mpr ⟨i, h_i, h_outdated, rfl⟩)
  · obtain ⟨i, h_i, h_outdated, -⟩ := (h_mem x).mp h_x
    exact h_none ⟨i, h_i, h_outdated⟩

theorem le_awayUntil_iff : closedAt ≤ s.awayUntil agent ↔
    (∃ i ∈ s.incarnations,
      i.logicalAgentId = agent ∧ i.state = .ready ∧ closedAt ≤ i.createdAtMs) ∨
    ((∀ i ∈ s.incarnations, i.logicalAgentId = agent → i.state ≠ .ready) ∧
      closedAt ≤ i64Max) := by
  unfold Store.awayUntil
  rw [le_latest_iff]
  refine or_congr ?_ (and_congr_left' ?_)
  · constructor
    · rintro ⟨x, h_x, h_le⟩
      obtain ⟨i, h_i, h_agent, h_ready, rfl⟩ := mem_creations.mp h_x
      exact ⟨i, h_i, h_agent, h_ready, h_le⟩
    · rintro ⟨i, h_i, h_agent, h_ready, h_le⟩
      exact ⟨i.createdAtMs, mem_creations.mpr ⟨i, h_i, h_agent, h_ready, rfl⟩, h_le⟩
  · rw [List.eq_nil_iff_forall_not_mem]
    constructor
    · intro h_none i h_i h_agent h_ready
      exact h_none _ (mem_creations.mpr ⟨i, h_i, h_agent, h_ready, rfl⟩)
    · intro h_none x h_x
      obtain ⟨i, h_i, h_agent, h_ready, -⟩ := mem_creations.mp h_x
      exact h_none i h_i h_agent h_ready

/-- The window holds a moment exactly if the agent was bound again once since. -/
theorem reboundOnce_iff : s.ReboundOnce agent closedAt ↔
    s.awaySince agent < closedAt ∧ closedAt ≤ s.awayUntil agent := by
  rw [awaySince_lt_iff, le_awayUntil_iff]
  exact ⟨fun h => ⟨⟨h.once, h.epoch⟩, h.rebound⟩, fun ⟨⟨h_once, h_epoch⟩, h_rebound⟩ =>
    ⟨h_rebound, h_once, h_epoch⟩⟩

instance : Decidable (s.ReboundOnce agent closedAt) := decidable_of_iff _ reboundOnce_iff.symm

end Window

-- ============================================================================
-- The query
-- ============================================================================

section Query

variable {o o' : ObligationRow} {audience : CancellationAudience} {agent : LogicalAgentId}

/-- At most twenty of the asks that the side of `agent` has not received were closed from
    `closedAt` up to its latest binding. -/
def Store.FewSince (s : Store) (audience : CancellationAudience) (agent : LogicalAgentId)
    (closedAt : Millis) : Prop :=
  (s.obligations.rows.filter fun o => s.Unreceived audience agent o ∧
    closedAt ≤ o.lastActivityAtMs ∧ o.lastActivityAtMs ≤ s.awayUntil agent).length ≤ 20

theorem mem_closedWhileAway (h : o ∈ s.closedWhileAway audience agent) :
    o ∈ s.obligations ∧ s.Unreceived audience agent o ∧
      s.ReboundOnce agent o.lastActivityAtMs := by
  have h_mem := List.mem_of_mem_take h
  rw [List.mem_insertionSort, List.mem_filter, decide_eq_true_eq] at h_mem
  exact ⟨h_mem.1, h_mem.2.1, reboundOnce_iff.mpr h_mem.2.2⟩

/-- What was closed in the window is kept among the twenty latest, where there are so few. -/
theorem mem_closedWhileAway_of_few (h_o : o ∈ s.obligations)
    (h_unreceived : s.Unreceived audience agent o)
    (h_rebound : s.ReboundOnce agent o.lastActivityAtMs)
    (h_few : s.FewSince audience agent o.lastActivityAtMs) :
    o ∈ s.closedWhileAway audience agent := by
  refine mem_take_of_pairwise (List.pairwise_insertionSort _ _) ?_ ?_
  · rw [List.mem_insertionSort, List.mem_filter, decide_eq_true_eq]
    exact ⟨h_o, h_unreceived, reboundOnce_iff.mp h_rebound⟩
  · rw [((List.perm_insertionSort _ _).filter _).length_eq, List.filter_filter]
    refine (List.monotone_filter_right _ fun o' h_o' => ?_).length_le.trans h_few
    rw [Bool.and_eq_true, decide_eq_true_eq, decide_eq_true_eq] at h_o'
    obtain ⟨h_since, h_unreceived', -, h_until⟩ := h_o'
    exact decide_eq_true ⟨h_unreceived', h_since, h_until⟩

theorem whileAway_ok (h : o.cancellationReason.isSome) :
    ∃ c, o.whileAway = .ok c ∧ c.askMessageId = o.askMessageId := by
  obtain ⟨reason, h_reason⟩ := Option.isSome_iff_exists.mp h
  unfold ObligationRow.whileAway
  rw [h_reason]
  exact ⟨_, rfl, rfl⟩

/-- Asks that have a reason are read as rows of the query, in their order. -/
theorem mapM_whileAway {os : List ObligationRow} (h : ∀ o ∈ os, o.cancellationReason.isSome) :
    ∃ listed, os.mapM (·.whileAway) = .ok listed ∧
      listed.map (·.askMessageId) = os.map (·.askMessageId) := by
  induction os with
  | nil => exact ⟨[], rfl, rfl⟩
  | cons o os ih =>
    obtain ⟨c, h_c, h_ask⟩ := whileAway_ok (h o List.mem_cons_self)
    obtain ⟨listed, h_listed, h_asks⟩ := ih fun o' h_o' => h o' (List.mem_cons_of_mem o h_o')
    refine ⟨c :: listed, ?_, ?_⟩
    · rw [List.mapM_cons, h_c, h_listed]
      rfl
    · rw [List.map_cons, List.map_cons, h_ask, h_asks]

/-- In a store whose closed asks have reasons the query of an agent on record answers, with the
    asks of its window. -/
theorem cancelledSide_lists (h_reasoned : s.Reasoned)
    (h_agent : (s.logicalAgents.find agent).isSome) (h_o : o ∈ s.obligations) :
    (∃ listed, cancelledSide audience agent s = .ok listed ∧
      ∃ c ∈ listed, c.askMessageId = o.askMessageId) ↔ o ∈ s.closedWhileAway audience agent := by
  obtain ⟨listed, h_listed, h_asks⟩ : ∃ listed, cancelledSide audience agent s = .ok listed ∧
      listed.map (·.askMessageId) =
        (s.closedWhileAway audience agent).map (·.askMessageId) := by
    unfold cancelledSide
    rw [if_pos h_agent]
    refine mapM_whileAway fun o' h_o' => ?_
    obtain ⟨h_mem, ⟨-, h_closed, -⟩, -⟩ := mem_closedWhileAway h_o'
    exact h_reasoned o' h_mem h_closed
  have h_iff : (∃ c ∈ listed, c.askMessageId = o.askMessageId) ↔
      o ∈ s.closedWhileAway audience agent := by
    rw [← List.mem_map, h_asks, List.mem_map]
    constructor
    · rintro ⟨o', h_o', h_ask⟩
      rwa [← Table.eq_of_key (mem_closedWhileAway h_o').1 h_o h_ask]
    · exact fun h => ⟨o, h, rfl⟩
  rw [h_listed, ← h_iff]
  exact ⟨fun ⟨_, h, h_c⟩ => by cases h; exact h_c, fun h_c => ⟨listed, rfl, h_c⟩⟩

end Query

-- ============================================================================
-- An asker that is lost
-- ============================================================================

/-- The asker is lost, and its ask is observed without it. -/
def askerLostRun : List Call :=
  askedRun ++ [.reconcileReadyIncarnations 10 ⟨[], [{
      terminalId := "t2", paneId := "w1:p2", name := some "worker", agent := some "claude",
      interactiveReady := true }]⟩, .observeAskAvailability 100]

/-- A start of the asker that fails. -/
def failedStart : List Call :=
  [.declareStart 600200
      { workerIntent with
        publicName := "asker", logicalAgentId := some 1, idempotencyKey := "k4" },
    .markRejected 600201 5 3 "pane not found" .rejected]

/-- The asker is adopted again, on another pane. -/
def readopted : Call :=
  .declareAdopt 600300
    { paneId := "w1:p3", expectedTerminalId := "t3", logicalAgentId := some 1,
      idempotencyKey := "k5" }
    { paneId := "w1:p3", terminalId := "t3", publicName := "asker", backendKind := "claude",
      workingDirectory := "/", launchPending := false, nativeAgentSession := none }

/-- The asker is Ready again, and no notice of its one ask was accepted. -/
def Store.AskerReturned (s : Store) : Prop :=
  s.readyIncarnations 1 ≠ [] ∧ (s.logicalAgents.find 1).isSome ∧ s.obligations.rows.length = 1 ∧
    ∃ o ∈ s.obligations.rows, o.askMessageId = 1 ∧ ¬ ∃ d ∈ s.deliveries.rows,
      o.notice .waiting = some d.messageId ∧ d.outcome = .accepted

instance : DecidablePred Store.AskerReturned := fun s => by
  unfold Store.AskerReturned
  infer_instance

/-- The ask of the lost asker is orphaned, and after `calls` it is Ready for the first time. -/
def Store.Returns (s : Store) (calls : List Call) (P : Store → Prop) : Prop :=
  s.readyIncarnations 1 = [] ∧
    ∃ s₁ ∈ ((Call.orphanAsk 600100 1).commit s).toOption,
      (∃ o ∈ s₁.obligations.rows, o.askMessageId = 1 ∧ o.waitingAgentId = 1 ∧
        o.state = .orphaned ∧ o.lastActivityAtMs = 600100) ∧
      Leads (fun _ s => s.readyIncarnations 1 = []) (fun s => s.AskerReturned ∧ P s) calls s₁

instance {calls : List Call} {P : Store → Prop} [DecidablePred P] :
    Decidable (s.Returns calls P) := by
  unfold Store.Returns
  infer_instance

end Kelpie
