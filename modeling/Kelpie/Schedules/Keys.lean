/-
  Kelpie.Schedules.Keys

  The keys that Kelpie composes for operations of its own, beside those that its
  clients choose: all of them share one index.

  No operation loses its key.  A call adds the key that it is given and the keys of
  operations that are over after it: the ask of the notice is settled, the cycle of
  the firing is past.
-/

import Std.Data.String.ToNat
import Kelpie.Lib.Texts
import Kelpie.Ledger.PullLog
import Kelpie.Schedules.Firing

namespace Kelpie

open Lib Lib.Tx Ledger Book

variable {s s' : Store}

-- ============================================================================
-- Composed keys
-- ============================================================================

/-- The key of one firing of a tell schedule. -/
def scheduleKey (scheduleId : ScheduleId) (cycle : Nat) : String :=
  s!"kelpie:schedule:{scheduleId}:{cycle}"

/-- The key of the prepare ask of a renew. -/
def renewPrepareKey (renewId : RenewId) : String := s!"kelpie:renew:prepare:{renewId}"

/-- The key of the initial message of a launch. -/
def initialMessageKey (startKey : String) : String := s!"{startKey}:initial-message"

/-- A key that Kelpie may compose. -/
def Composed (key : String) : Prop :=
  (∃ audience ask, key = cancellationKey audience ask) ∨
  (∃ scheduleId cycle, key = scheduleKey scheduleId cycle) ∨
  (∃ renewId, key = renewPrepareKey renewId) ∨
  ∃ startKey, key = initialMessageKey startKey

/-- A key that ends in a number is not that of an initial message. -/
theorem ne_initialMessageKey {p startKey : String} {n : Nat} :
    p ++ toString n ≠ initialMessageKey startKey := by
  intro h_eq
  change p ++ toString n = startKey ++ ":initial-message" at h_eq
  have h_list := congrArg String.toList h_eq
  rw [String.toList_append, String.toList_append, Nat.toString_eq_repr, Nat.toList_repr] at h_list
  have h_end : ":initial-message".toList.getLast? = some 'e' := by decide
  have h_last : (Nat.toDigits 10 n).getLast? = some 'e' := by
    have h_both := congrArg List.getLast? h_list
    rw [List.getLast?_append, List.getLast?_append, h_end] at h_both
    have h_some := List.getLast?_eq_some_getLast (Nat.toDigits_ne_nil : Nat.toDigits 10 n ≠ [])
    rw [h_some] at h_both ⊢
    exact h_both
  have h_digit := Nat.isDigit_of_mem_toDigits (by decide) (by decide)
    (List.mem_of_getLast? h_last)
  exact absurd h_digit (by decide)

theorem cancellationKey_ask {a a' : CancellationAudience} {ask ask' : MessageId}
    (h : cancellationKey a ask = cancellationKey a' ask') : ask = ask' := by
  cases a <;> cases a'
  · exact Nat.repr_injective ((String.append_right_inj _).mp h)
  · exact absurd h (append_ne (by decide) (by decide))
  · exact absurd h (append_ne (by decide) (by decide))
  · exact Nat.repr_injective ((String.append_right_inj _).mp h)

theorem cancellationKey_ne_schedule {a : CancellationAudience} {ask id cycle : Nat} :
    cancellationKey a ask ≠ scheduleKey id cycle := by
  unfold scheduleKey
  rw [String.append_assoc, String.append_assoc]
  cases a <;> exact append_ne (by decide) (by decide)

theorem cancellationKey_ne_renew {a : CancellationAudience} {ask id : Nat} :
    cancellationKey a ask ≠ renewPrepareKey id := by
  cases a <;> exact append_ne (by decide) (by decide)

theorem cancellationKey_ne_initial {a : CancellationAudience} {ask : MessageId} {start : String} :
    cancellationKey a ask ≠ initialMessageKey start := by
  unfold cancellationKey
  cases a <;> exact ne_initialMessageKey

theorem scheduleKey_ne_renew {id cycle id' : Nat} : scheduleKey id cycle ≠ renewPrepareKey id' := by
  unfold scheduleKey
  rw [String.append_assoc, String.append_assoc]
  exact append_ne (by decide) (by decide)

theorem scheduleKey_ne_initial {id cycle : Nat} {start : String} :
    scheduleKey id cycle ≠ initialMessageKey start := by
  unfold scheduleKey
  exact ne_initialMessageKey

/-- A number ends where the colon stands. -/
theorem takeWhile_digits {n : Nat} {rest : List Char} :
    (Nat.toDigits 10 n ++ ':' :: rest).takeWhile Char.isDigit = Nat.toDigits 10 n := by
  rw [List.takeWhile_append_of_pos fun c h_c =>
    Nat.isDigit_of_mem_toDigits (by decide) (by decide) h_c]
  simp

theorem scheduleKey_inj {id id' cycle cycle' : Nat}
    (h : scheduleKey id cycle = scheduleKey id' cycle') : id = id' ∧ cycle = cycle' := by
  unfold scheduleKey at h
  rw [String.append_assoc, String.append_assoc, String.append_assoc, String.append_assoc,
    String.append_right_inj] at h
  have h_list := congrArg String.toList h
  simp only [String.toList_append, Nat.toString_eq_repr, Nat.toList_repr] at h_list
  have h_colon : (toString ":").toList = [':'] := by decide
  rw [h_colon, List.singleton_append, List.singleton_append] at h_list
  have h_id := congrArg (List.takeWhile Char.isDigit) h_list
  rw [takeWhile_digits, takeWhile_digits] at h_id
  rw [h_id] at h_list
  have h_cycle := List.tail_eq_of_cons_eq (List.append_cancel_left h_list)
  constructor
  · exact Nat.repr_injective (String.toList_inj.mp (by simpa using h_id))
  · exact Nat.repr_injective (String.toList_inj.mp (by simpa using h_cycle))

theorem renewPrepareKey_inj {id id' : RenewId} (h : renewPrepareKey id = renewPrepareKey id') :
    id = id' :=
  Nat.repr_injective ((String.append_right_inj _).mp h)

-- ============================================================================
-- Keys that a call brings
-- ============================================================================

/-- The key that the caller gives an operation. -/
def Call.givenKey? : Call → Option String
  | .declareStart _ intent => some intent.idempotencyKey
  | .declareAdopt _ intent _ => some intent.idempotencyKey
  | .declareAdoptPending _ intent _ => some intent.idempotencyKey
  | .requestRetirement _ _ key => some key
  | .createInitialMessage _ _ _ _ key => some key
  | .createAsk _ _ _ _ _ key _ _ _ _ => some key
  | .createTell _ _ _ _ _ key _ => some key
  | .createReply _ _ _ _ _ key _ => some key
  | .createClear _ _ _ _ _ _ key => some key
  | _ => none

/-- The ask is settled. -/
def Settled (s : Store) (ask : MessageId) : Prop :=
  ∃ o ∈ s.obligations, o.askMessageId = ask ∧ ¬ o.state.Unresolved

/-- The cycle of the schedule is past. -/
def CyclePast (s : Store) (id : ScheduleId) (cycle : Nat) : Prop :=
  ∃ c ∈ s.schedules, c.id = id ∧ cycle < c.cycle

/-- The same operation, under the same key and to the same end. -/
structure OperationRow.SameOrder (o o' : OperationRow) : Prop where
  id : o'.id = o.id
  key : o'.idempotencyKey = o.idempotencyKey
  intent : o'.intent = o.intent

theorem OperationRow.SameOrder.rfl {o : OperationRow} : o.SameOrder o :=
  ⟨.refl _, .refl _, .refl _⟩

theorem OperationRow.SameOrder.trans {o₁ o₂ o₃ : OperationRow} (h : o₁.SameOrder o₂)
    (h' : o₂.SameOrder o₃) : o₁.SameOrder o₃ :=
  ⟨h'.id.trans h.id, h'.key.trans h.key, h'.intent.trans h.intent⟩

/-- The operations of `s` stay, and the keys of those that are new meet `P`. -/
structure AddsKeys (P : String → Prop) (s s' : Store) : Prop where
  kept : ∀ o ∈ s.operations, ∃ o' ∈ s'.operations, o.SameOrder o'
  origin : ∀ o' ∈ s'.operations, (∃ o ∈ s.operations, o.SameOrder o') ∨ P o'.idempotencyKey

variable {P Q : String → Prop}

theorem AddsKeys.mono (h : AddsKeys P s s') (h_le : ∀ key, P key → Q key) : AddsKeys Q s s' where
  kept := h.kept
  origin o h_o := (h.origin o h_o).imp_right (h_le _)

instance AddsKeys.stepwise : Stepwise (AddsKeys P) where
  refl _ := ⟨fun o h_o => ⟨o, h_o, .rfl⟩, fun o h_o => .inl ⟨o, h_o, .rfl⟩⟩
  trans h h' := by
    constructor
    · intro o h_o
      obtain ⟨o₁, h_o₁, h_same⟩ := h.kept o h_o
      obtain ⟨o', h_o', h_same'⟩ := h'.kept o₁ h_o₁
      exact ⟨o', h_o', h_same.trans h_same'⟩
    · intro o' h_o'
      rcases h'.origin o' h_o' with ⟨o₁, h_o₁, h_same'⟩ | h_new
      · rcases h.origin o₁ h_o₁ with ⟨o, h_o, h_same⟩ | h_new
        · exact .inl ⟨o, h_o, h_same.trans h_same'⟩
        · exact .inr (h_same'.key ▸ h_new)
      · exact .inr h_new

section Frames

/-- The operations stay as they are. -/
theorem AddsKeys.of_same (h : s'.operations = s.operations) : AddsKeys P s s' where
  kept o h_o := ⟨o, h.symm ▸ h_o, .rfl⟩
  origin o h_o := .inl ⟨o, h ▸ h_o, .rfl⟩

instance : Ignores (AddsKeys P) Tab.logicalAgents := ⟨fun _ _ => .of_same rfl⟩
instance : Ignores (AddsKeys P) Tab.incarnations := ⟨fun _ _ => .of_same rfl⟩
instance : Ignores (AddsKeys P) Tab.operationAttempts := ⟨fun _ _ => .of_same rfl⟩
instance : Ignores (AddsKeys P) Tab.operatorNotices := ⟨fun _ _ => .of_same rfl⟩
instance : Ignores (AddsKeys P) Tab.messages := ⟨fun _ _ => .of_same rfl⟩
instance : Ignores (AddsKeys P) Tab.obligations := ⟨fun _ _ => .of_same rfl⟩
instance : Ignores (AddsKeys P) Tab.deliveries := ⟨fun _ _ => .of_same rfl⟩
instance : Ignores (AddsKeys P) Tab.obligationReminders := ⟨fun _ _ => .of_same rfl⟩
instance : Ignores (AddsKeys P) Tab.reminderAttempts := ⟨fun _ _ => .of_same rfl⟩
instance : Ignores (AddsKeys P) Tab.schedules := ⟨fun _ _ => .of_same rfl⟩
instance : Ignores (AddsKeys P) Tab.renews := ⟨fun _ _ => .of_same rfl⟩
instance : Ignores (AddsKeys P) Tab.renewAttempts := ⟨fun _ _ => .of_same rfl⟩
instance : Ignores (AddsKeys P) Tab.socketWaiterKeys := ⟨fun _ _ => .of_same rfl⟩
instance : Ignores (AddsKeys P) Tab.socketInboxKeys := ⟨fun _ _ => .of_same rfl⟩
instance : Ignores (AddsKeys P) Tab.scheduleFirings := ⟨fun _ _ => .of_same rfl⟩
instance : Ignores (AddsKeys P) Tab.askPullLeases := ⟨fun _ _ => .of_same rfl⟩
instance : Ignores (AddsKeys P) Tab.askPullKeys := ⟨fun _ _ => .of_same rfl⟩
instance : IgnoresCounters (AddsKeys P) :=
  ⟨fun _ _ => .of_same rfl, fun _ _ => .of_same rfl, fun _ _ => .of_same rfl⟩

instance {outcome} : Tolerates (AddsKeys P) Tab.operations (OperationRow.Concludes outcome) :=
  ⟨fun _ _ h => by
    constructor
    · intro o h_o
      obtain ⟨o', h_o', h_same⟩ := h.image o h_o
      exact ⟨o', h_o', h_same.id, h_same.key, h_same.intent⟩
    · intro o' h_o'
      obtain ⟨o, h_o, h_same⟩ := h.origin o' h_o'
      exact .inl ⟨o, h_o, h_same.id, h_same.key, h_same.intent⟩⟩

theorem AddsKeys.admits {key : String} (h_key : P key) :
    Admits (AddsKeys P) Tab.operations (OperationRow.Under key) :=
  ⟨fun _ _ r h_r h => by
    constructor
    · intro o h_o
      exact ⟨o, (h.mem o).mpr (.inl h_o), .rfl⟩
    · intro o' h_o'
      rcases (h.mem o').mp h_o' with h_old | h_new
      · exact .inl ⟨o', h_old, .rfl⟩
      · cases h_new
        exact .inr ((h_r : r.idempotencyKey = key) ▸ h_key)⟩

end Frames

-- ============================================================================
-- Calls
-- ============================================================================

/-- The keys of the notices about settled asks. -/
def NoticeKey (s : Store) (key : String) : Prop :=
  ∃ audience ask, key = cancellationKey audience ask ∧ Settled s ask

/-- The keys of the firings of past cycles. -/
def FiringKey (s : Store) (key : String) : Prop :=
  ∃ id cycle, key = scheduleKey id cycle ∧ CyclePast s id cycle

section Calls

variable {now : Millis} {ask : MessageId} {reason : String}

theorem cancelWithResponse_keys {requester : LogicalAgentId} {body owingBody : String}
    {due owingDue : Option Millis} {created : CreatedCancellation}
    (h : (cancelWithResponse now requester ask reason body owingBody due owingDue).run s =
      .ok (created, s')) : AddsKeys (NoticeKey s') s s' := by
  have h_admits (audience : CancellationAudience) :
      Admits (AddsKeys fun key => ∃ a, key = cancellationKey a ask) Tab.operations
        (OperationRow.Under (cancellationKey audience ask)) :=
    AddsKeys.admits ⟨audience, rfl⟩
  have h_keys : AddsKeys (fun key => ∃ a, key = cancellationKey a ask) s s' := Keeps.keeps h
  simp only [cancelWithResponse, run_bind_require_ok, run_bind_query_ok] at h
  obtain ⟨-, o, h_o, h⟩ := h
  obtain ⟨_, s₁, h_record, h⟩ := run_bind_ok.mp h
  obtain ⟨n, s₂, h_settle, h⟩ := run_bind_ok.mp h
  simp only [run_bind_require_ok] at h
  obtain ⟨h_n, h⟩ := h
  cases h
  obtain ⟨o₁, -, rfl, -, o', h_o', h_same, h_settled⟩ :=
    settleObligations_closes h_settle h_n (.inl rfl)
  refine h_keys.mono ?_
  rintro key ⟨a, h_key⟩
  exact ⟨a, _, h_key, o', h_o', h_same, h_settled⟩

theorem orphanAsk_keys {created : Option CreatedCancellation}
    (h : (orphanAsk now ask).run s = .ok (created, s')) : AddsKeys (NoticeKey s') s s' := by
  have h_admits (audience : CancellationAudience) :
      Admits (AddsKeys fun key => ∃ a, key = cancellationKey a ask) Tab.operations
        (OperationRow.Under (cancellationKey audience ask)) :=
    AddsKeys.admits ⟨audience, rfl⟩
  have h_keys : AddsKeys (fun key => ∃ a, key = cancellationKey a ask) s s' := Keeps.keeps h
  simp only [orphanAsk, run_bind_reads, run_bind_query_ok] at h
  obtain ⟨-, -, h⟩ := h
  split at h
  · cases h
    exact Stepwise.refl s
  · obtain ⟨_, s₁, h_record, h⟩ := run_bind_ok.mp h
    obtain ⟨n, s₂, h_settle, h⟩ := run_bind_ok.mp h
    simp only [run_bind_require_ok] at h
    obtain ⟨h_n, h⟩ := h
    cases h
    obtain ⟨o₁, -, rfl, -, o', h_o', h_same, h_settled⟩ :=
      settleObligations_closes h_settle h_n (.inr rfl)
    refine h_keys.mono ?_
    rintro key ⟨a, h_key⟩
    exact ⟨a, _, h_key, o', h_o', h_same, h_settled⟩

theorem endAsk_keys {waiter : LogicalAgentId} {name : String} {due : Option Millis}
    {o : ObligationRow} {notice : Option OwingRetireNotice}
    (h : (endAsk now waiter name reason due o).run s = .ok (notice, s')) :
    AddsKeys (fun key => ∃ a, key = cancellationKey a o.askMessageId) s s' := by
  have h_admits (audience : CancellationAudience) :
      Admits (AddsKeys fun key => ∃ a, key = cancellationKey a o.askMessageId) Tab.operations
        (OperationRow.Under (cancellationKey audience o.askMessageId)) :=
    AddsKeys.admits ⟨audience, rfl⟩
  exact Keeps.keeps h

theorem endAsks_keys {waiter : LogicalAgentId} {name : String}
    {due : MessageId → Option Millis} {asks : List ObligationRow}
    {notices : List (Option OwingRetireNotice)}
    (h : (forEach asks fun o => endAsk now waiter name reason (due o.askMessageId) o).run s =
      .ok (notices, s')) :
    AddsKeys (fun key => ∃ a, ∃ o ∈ asks, key = cancellationKey a o.askMessageId) s s' := by
  induction asks generalizing s notices with
  | nil =>
    cases h
    exact Stepwise.refl _
  | cons o asks ih =>
    unfold forEach at h
    obtain ⟨_, s₁, h_one, h⟩ := run_bind_ok.mp h
    obtain ⟨_, s₂, h_rest, h⟩ := run_bind_ok.mp h
    cases h
    refine Stepwise.trans ((endAsk_keys h_one).mono ?_) ((ih h_rest).mono ?_)
    · rintro key ⟨a, h_key⟩
      exact ⟨a, o, List.mem_cons_self, h_key⟩
    · rintro key ⟨a, o', h_o', h_key⟩
      exact ⟨a, o', List.mem_cons_of_mem _ h_o', h_key⟩

theorem endSocketWaiter_keys {agent : LogicalAgentId} {due : MessageId → Option Millis}
    {ended : EndedWaiter}
    (h : (endSocketWaiterWithOwingDue now agent due reason).run s = .ok (ended, s')) :
    AddsKeys (NoticeKey s') s s' := by
  obtain ⟨h_cancelled, -⟩ := endSocketWaiter_run h
  simp only [endSocketWaiterWithOwingDue, run_bind_query_ok, run_bind_reads] at h
  obtain ⟨_, -, h⟩ := h
  obtain ⟨_, s₁, h_end, h⟩ := run_bind_ok.mp h
  simp only [run_bind_require_ok] at h
  obtain ⟨-, h⟩ := h
  obtain ⟨_, s₂, h_asks, h⟩ := run_bind_ok.mp h
  obtain ⟨_, s₃, h_inbox, h⟩ := run_bind_ok.mp h
  cases h
  have h_keys : AddsKeys (fun key => ∃ a, ∃ o ∈ s.unresolvedAsksWaitingOn agent,
      key = cancellationKey a o.askMessageId) s s' :=
    Stepwise.trans (Keeps.keeps h_end) (Stepwise.trans (endAsks_keys h_asks) (Keeps.keeps h_inbox))
  refine h_keys.mono ?_
  rintro key ⟨a, o, h_o, h_key⟩
  refine ⟨a, o.askMessageId, h_key, ?_⟩
  simp only [Store.unresolvedAsksWaitingOn, List.mem_insertionSort, List.mem_filter,
    decide_eq_true_eq] at h_o
  obtain ⟨o', h_o', h_ask, h_state⟩ := h_cancelled o h_o.1 h_o.2.1 h_o.2.2
  exact ⟨o', h_o', h_ask, by simp [h_state, ObligationState.Unresolved]⟩

theorem fireTellSchedule_keys {item : DueTellSchedule} {nowMs : Millis} {res : ScheduleFiring}
    (h : (fireTellSchedule item nowMs).run s = .ok (res, s')) : AddsKeys (FiringKey s') s s' := by
  have h_admits : Admits (AddsKeys (· = scheduleKey item.scheduleId item.cycle)) Tab.operations
      (OperationRow.Under s!"kelpie:schedule:{item.scheduleId}:{item.cycle}") :=
    AddsKeys.admits rfl
  have h_keys : AddsKeys (· = scheduleKey item.scheduleId item.cycle) s s' := Keeps.keeps h
  have h_fires := fireTellSchedule_run h
  obtain ⟨c, h_c, h_id, -, h_cycle, -⟩ := h_fires.due
  obtain ⟨c', h_c', h_advanced⟩ := h_fires.schedules.image c h_c
  obtain ⟨-, h_plan, -, h_next, -⟩ := h_advanced.resolve_left fun h_not => h_not.1 h_id
  refine h_keys.mono fun key h_key => ⟨_, _, h_key, c', h_c', h_plan.key.trans h_id, ?_⟩
  omega

/-- A call brings the key that it is given, and the keys of operations that are over once it
    commits. -/
theorem Call.addsKeys (c : Call) (h : c.Step s s') :
    AddsKeys (fun key => c.givenKey? = some key ∨ NoticeKey s' key ∨ FiringKey s' key) s s' := by
  have h_given {key : String} (h_key : c.givenKey? = some key) : Admits
      (AddsKeys fun key => c.givenKey? = some key ∨ NoticeKey s' key ∨ FiringKey s' key)
      Tab.operations (OperationRow.Under key) :=
    AddsKeys.admits (.inl h_key)
  cases c with
  | cancelWithResponse now requester ask reason body owingBody due owingDue =>
    obtain ⟨_, h_run⟩ := commit_ok.mp h
    exact (cancelWithResponse_keys h_run).mono fun _ h_key => .inr (.inl h_key)
  | orphanAsk now ask =>
    obtain ⟨_, h_run⟩ := commit_ok.mp h
    exact (orphanAsk_keys h_run).mono fun _ h_key => .inr (.inl h_key)
  | endSocketWaiter now agent due reason =>
    obtain ⟨_, h_run⟩ := commit_ok.mp h
    exact (endSocketWaiter_keys h_run).mono fun _ h_key => .inr (.inl h_key)
  | fireTellSchedule item nowMs =>
    obtain ⟨_, h_run⟩ := commit_ok.mp h
    exact (fireTellSchedule_keys h_run).mono fun _ h_key => .inr (.inr h_key)
  | declareStart now intent =>
    have := h_given rfl
    exact Keeps.commit h
  | declareAdopt now intent evidence =>
    have := h_given rfl
    exact Keeps.commit h
  | declareAdoptPending now intent evidence =>
    have := h_given rfl
    exact Keeps.commit h
  | requestRetirement now inc key =>
    have := h_given rfl
    exact Keeps.commit h
  | createInitialMessage now recipient inc intent key =>
    have := h_given rfl
    exact Keeps.commit h
  | createAsk now sender recipient inc body key due remind attributed delivery =>
    have := h_given rfl
    exact Keeps.commit h
  | createTell now sender recipient inc body key due =>
    have := h_given rfl
    exact Keeps.commit h
  | createReply now ask requester body disposition key due =>
    have := h_given rfl
    exact Keeps.commit h
  | createClear now recipient inc command session delay key =>
    have := h_given rfl
    exact Keeps.commit h
  | _ => exact Keeps.commit h

end Calls

-- ============================================================================
-- What is over stays so
-- ============================================================================

theorem Settled.step {ask : MessageId} (h : Settled s ask) (c : Call) (h_step : c.Step s s') :
    Settled s' ask := by
  obtain ⟨o, h_o, h_ask, h_settled⟩ := h
  obtain ⟨o', h_o', h_same, h_state⟩ := c.absorbs h_step o h_o h_settled
  exact ⟨o', h_o', h_same.trans h_ask, h_state ▸ h_settled⟩

/-- No schedule goes back to an earlier cycle. -/
theorem Book.Turn.cycle_le {b b' : Book} {c : Call} (h : Turn b c b') :
    ∀ p ∈ b.schedules, ∃ p' ∈ b'.schedules, p'.id = p.id ∧ p.cycle ≤ p'.cycle := by
  have h_adds {p : ScheduleRow} {t : Table ScheduleRow.id} (o : Option ScheduleRow)
      (h_t : b.schedules.Adds o t) (h_p : p ∈ b.schedules) :
      ∃ p' ∈ t, p'.id = p.id ∧ p.cycle ≤ p'.cycle := ⟨p, h_t.mem p |>.mpr (.inl h_p), rfl, le_rfl⟩
  have h_edits {e : ScheduleRow → ScheduleRow → Prop} {p : ScheduleRow} {t : Table ScheduleRow.id}
      (h_t : b.schedules.Edits e t) (h_p : p ∈ b.schedules)
      (h_e : ∀ p p', e p p' → p'.id = p.id ∧ p.cycle ≤ p'.cycle) :
      ∃ p' ∈ t, p'.id = p.id ∧ p.cycle ≤ p'.cycle := by
    obtain ⟨p', h_p', h_pp'⟩ := h_t.image p h_p
    exact ⟨p', h_p', h_e p p' h_pp'⟩
  have h_advanced {id : ScheduleId} {next : Millis} (p p' : ScheduleRow)
      (h_pp' : Advanced id next p p') : p'.id = p.id ∧ p.cycle ≤ p'.cycle := by
    refine ⟨h_pp'.same.key, ?_⟩
    rcases h_pp' with ⟨-, rfl⟩ | ⟨-, -, -, h_next, -⟩
    · exact le_rfl
    · omega
  have h_stopped {q : ScheduleRow → Prop} (p p' : ScheduleRow) (h_pp' : Stopped q p p') :
      p'.id = p.id ∧ p.cycle ≤ p'.cycle := by
    refine ⟨h_pp'.same.key, ?_⟩
    rcases h_pp' with ⟨-, rfl⟩ | ⟨-, -, -, h_same, -⟩
    · exact le_rfl
    · exact h_same.ge
  intro p h_p
  cases h with
  | same h_c => exact ⟨p, h_p, rfl, le_rfl⟩
  | move h_c h_cs h_rs =>
    exact h_edits h_cs h_p fun p p' h_pp' => ⟨h_pp'.key, h_pp'.cycle.ge⟩
  | link h_rs => exact ⟨p, h_p, rfl, le_rfl⟩
  | arm h_alone h_r h_policy h_c h_cs h_rs => exact h_adds _ h_cs h_p
  | close h_c h_once h_rs => exact ⟨p, h_p, rfl, le_rfl⟩
  | next h_c h_rs h_rearms =>
    cases h_rearms with
    | mk h_r h_plan h_f h_r' h_alone h_cs h_rs' h_fs => exact h_edits h_cs h_p h_advanced
  | stop h_c h_r h_rs h_cs => exact h_edits h_cs h_p h_stopped
  | compose h_c h_cs => exact h_adds _ h_cs h_p
  | fire h_c h_f h_cs h_fs => exact h_edits h_cs h_p h_advanced
  | cancel h_cs => exact h_edits h_cs h_p h_stopped

theorem CyclePast.step {id : ScheduleId} {cycle : Nat} (h : CyclePast s id cycle) (c : Call)
    (h_step : c.Step s s') : CyclePast s' id cycle := by
  obtain ⟨p, h_p, h_id, h_lt⟩ := h
  obtain ⟨p', h_p', h_same, h_le⟩ := (c.turn h_step).cycle_le p h_p
  exact ⟨p', h_p', h_same.trans h_id, h_lt.trans_le h_le⟩

end Kelpie
