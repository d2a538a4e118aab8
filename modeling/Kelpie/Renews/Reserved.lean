/-
  Kelpie.Renews.Reserved

  The operations whose keys Kelpie composes: the notices about a settled ask, the
  firings of a schedule, the prepare ask of a renew and the initial message of a
  launch.

  Where the clients stay away from such keys, the row under one is always that of
  the operation it was composed for, and that one is over: the ask of the notice
  is settled, the cycle of the firing is past.  So none of these operations is
  refused for its key.  Each transaction is followed to its insert: what it may be refused
  for before that is something else, and at the insert its key is free.
-/

import Kelpie.Renews.Prepares

namespace Kelpie

open Lib Lib.Tx Ledger Book

variable {s s' : Store}

-- ============================================================================
-- Refusals for a key
-- ============================================================================

/-- The refusals of a transaction for the key of its operation. -/
def StoreError.KeyRefusal (e : StoreError) : Prop :=
  e = idempotencyKeyExists ∨ ∃ key id outcome, e = idempotencyConflict key id outcome

/-- The transaction is not refused for a key in `s`, whatever else it may fail with. -/
abbrev KeySafe {α : Type} (x : StoreTx α) (s : Store) : Prop :=
  x.FailsOnly (fun e => ¬ e.KeyRefusal) s

/-- No operation has the key. -/
def Store.KeyFree (s : Store) (key : String) : Prop := ∀ o ∈ s.operations, o.idempotencyKey ≠ key

theorem getElem?_append {p rest : String} {n : Nat} {c : Char} (h : p.toList[n]? = some c) :
    (p ++ rest).toList[n]? = some c := by
  obtain ⟨h_lt, -⟩ := List.getElem?_eq_some_iff.mp h
  rw [String.toList_append, List.getElem?_append_left h_lt, h]

/-- A refusal is not for a key if its text differs from such a text in one of the characters
    that these have in common. -/
theorem conflict_keySafe {text : String} {c : Char} (n : Nat) (h : text.toList[n]? = some c)
    (h_c : n < "idempotency key ".toList.length ∧ "idempotency key ".toList[n]? ≠ some c) :
    ¬ (StoreError.conflict text).KeyRefusal := by
  obtain ⟨h_n, h_ne⟩ := h_c
  have h_not {rest : String} (h_text : text = "idempotency key " ++ rest) : False := by
    rw [h_text, String.toList_append, List.getElem?_append_left h_n] at h
    exact h_ne h
  rintro (h_eq | ⟨key, id, outcome, h_eq⟩)
  · injection h_eq with h_text
    have h_begin : "idempotency key already exists" = "idempotency key " ++ "already exists" := by
      decide
    exact h_not (h_text.trans h_begin)
  · injection h_eq with h_text
    simp only [String.append_assoc] at h_text
    exact h_not h_text

/-- A refusal that begins with another letter than `i` is not for a key. -/
theorem opening_keySafe {p rest : String} {c : Char} (h : p.toList[0]? = some c) (h_c : c ≠ 'i') :
    ¬ (StoreError.conflict (p ++ rest)).KeyRefusal := by
  have h_first : "idempotency key ".toList[0]? = some 'i' := by decide
  refine conflict_keySafe 0 (getElem?_append h) ⟨by decide, ?_⟩
  rw [h_first, ne_eq, Option.some_inj]
  exact h_c.symm

theorem sql_keySafe {e : SqlError} : ¬ (StoreError.sql e).KeyRefusal := by
  rintro (h | ⟨_, _, _, h⟩) <;> cases h

theorem invalidRecord_keySafe {text : String} : ¬ (StoreError.invalidRecord text).KeyRefusal := by
  rintro (h | ⟨_, _, _, h⟩) <;> cases h

-- ============================================================================
-- Statements
-- ============================================================================

section Statements

variable {now : Millis}

theorem insertOperation_commits {key : String} {kind : OperationKind} {inc : IncarnationId}
    {intent : OperationIntent} {outcome : OperationOutcome} {onReuse : StoreError}
    {resolved : Option Millis} (h : s.KeyFree key) :
    (insertOperation now key kind inc intent outcome onReuse resolved).Commits s := by
  have h_count : s.operations.count (·.HoldsKey key) = 0 :=
    Table.count_eq_zero.mpr fun o h_o h_holds => h o h_o h_holds.1
  unfold insertOperation
  rw [commits_bind_reads, commits_bind_require]
  exact ⟨h_count, .of_run run_appendRow⟩

theorem insertPrompt_commits {key : String} {inc : IncarnationId} {intent : PromptIntent}
    {at_ : Millis} {outcome : DeliveryOutcome} {onReuse : StoreError} (h : s.KeyFree key) :
    (insertPrompt now key inc intent at_ outcome onReuse).Commits s :=
  (insertOperation_commits h).bind fun _ _ _ =>
    ((Commits.of_run run_appendRow).bind fun _ _ _ => commits_pure).bind fun _ _ _ => commits_pure

/-- The prompt is recorded where the steps before it took no key. -/
theorem receipt_keySafe {β : Type} {key : String} {inc : IncarnationId} {intent : PromptIntent}
    {at_ : Millis} {outcome : DeliveryOutcome} {onReuse : StoreError} {f : OperationId → β}
    (h : s.KeyFree key) (h_same : s'.operations = s.operations) :
    KeySafe (insertPrompt now key inc intent at_ outcome onReuse >>= fun id => pure (f id)) s' := by
  refine Commits.failsOnly (Commits.bind (insertPrompt_commits ?_) fun _ _ _ => commits_pure)
  rw [Store.KeyFree, h_same]
  exact h

theorem insertMessage_keySafe {sender : Option LogicalAgentId} {recipient : LogicalAgentId}
    {kind : MessageKind} {body : String} {reply : Option (MessageId × ReplyDisposition)} :
    KeySafe (insertMessage now sender recipient kind body reply) s := by
  unfold insertMessage
  refine failsOnly_bind_reads (failsOnly_bind_require sql_keySafe fun _ =>
    failsOnly_bind_require sql_keySafe fun _ => failsOnly_bind_reads
      (failsOnly_bind_require sql_keySafe fun _ => ?_))
  exact (Commits.of_run run_appendRow).failsOnly

theorem queueSinkDelivery_commits {transport : DeliveryTransport} {id : MessageId}
    {agent : LogicalAgentId} {at_ : Millis} :
    (queueSinkDelivery transport id agent at_).Commits s :=
  (Commits.of_run run_appendRow).bind fun _ _ _ => commits_pure

theorem insertObligation_keySafe {ask : MessageId} {owing waiting : LogicalAgentId}
    {delivery : ReplyDelivery} : KeySafe (insertObligation now ask owing waiting delivery) s := by
  unfold insertObligation
  exact failsOnly_bind_reads (insertRow_failsOnly sql_keySafe)

theorem insertReminder_keySafe {ask : MessageId} {interval : Millis} :
    KeySafe (insertReminder ask interval) s := by
  unfold insertReminder
  exact failsOnly_bind_require sql_keySafe fun _ => insertRow_failsOnly sql_keySafe

theorem waiterIdentity_keySafe {agent : LogicalAgentId} {e : StoreError}
    (h : waiterIdentity agent s = .error e) : ¬ e.KeyRefusal := by
  unfold waiterIdentity at h
  split at h
  · cases h
    have h_w : (toString "waiting agent ").toList[0]? = some 'w' := by decide
    simp only [String.append_assoc]
    exact opening_keySafe h_w (by decide)
  · cases h

theorem obligationReplyDelivery_keySafe {ask : MessageId} {e : StoreError}
    (h : obligationReplyDelivery ask s = .error e) : ¬ e.KeyRefusal := by
  unfold obligationReplyDelivery at h
  split at h
  · cases h
    exact conflict_keySafe (c := 'o') 0 (by decide) (by decide)
  · cases h

theorem settleObligations_keySafe {p : ObligationRow → Prop} [DecidablePred p]
    {state : ObligationState} {requester : Option LogicalAgentId} {reason : String} :
    KeySafe (settleObligations now p state requester reason) s := by
  unfold settleObligations
  refine failsOnly_bind_reads ((Commits.of_run run_updateRows).failsOnly.bind fun _ _ _ => ?_)
  exact failsOnly_bind_require sql_keySafe fun _ => failsOnly_pure

end Statements

-- ============================================================================
-- Notices
-- ============================================================================

section Notices

variable {now : Millis} {ask : MessageId} {reason : String}

theorem cancellationKey_audience_ne {ask ask' : MessageId} :
    cancellationKey .waiting ask ≠ cancellationKey .owing ask' :=
  append_ne (by decide) (by decide)

/-- A notice whose key is free is not refused for it. -/
theorem recordCancellationSide_keySafe {agent : LogicalAgentId} {body ambiguous : String}
    {audience : CancellationAudience} {due : Option Millis}
    (h_free : s.KeyFree (cancellationKey audience ask))
    (h_ambiguous : ambiguous.toList[0]? = some 'a') :
    KeySafe (recordCancellationSide now agent ask reason body audience due ambiguous) s := by
  refine insertMessage_keySafe.bind fun id s₁ h_message => ?_
  obtain ⟨m, ms, rfl, -⟩ := insertMessage_run h_message
  refine FailsOnly.bind ?_ fun _ _ _ => failsOnly_pure
  unfold deliverCancellation
  refine failsOnly_bind_query (fun e => waiterIdentity_keySafe) fun identity _ => ?_
  refine failsOnly_bind_query (fun e h_error => ?_) fun delivery _ => ?_
  · split at h_error
    · exact obligationReplyDelivery_keySafe h_error
    · cases h_error
  split
  · exact queueSinkDelivery_commits.failsOnly.bind fun _ _ _ => failsOnly_pure
  split
  · split
    · exact queueSinkDelivery_commits.failsOnly.bind fun _ _ _ => failsOnly_pure
    · exact failsOnly_pure
  refine failsOnly_bind_require invalidRecord_keySafe fun _ => ?_
  refine failsOnly_bind_query (fun e h_error => ?_) fun ready _ => ?_
  · unfold optionalReadyIncarnation at h_error
    split at h_error <;> cases h_error
    exact conflict_keySafe 0 h_ambiguous (by decide)
  cases ready with
  | none => exact failsOnly_pure
  | some inc =>
    refine Commits.failsOnly (Commits.bind ?_ fun _ _ _ => commits_pure)
    exact insertPrompt_commits h_free

/-- A key stays free while others are taken. -/
theorem Store.KeyFree.kept {P : String → Prop} {key : String} (h : s.KeyFree key)
    (h_adds : AddsKeys P s s') (h_key : ¬ P key) : s'.KeyFree key := by
  intro o' h_o' h_same
  rcases h_adds.origin o' h_o' with ⟨o, h_o, h_order⟩ | h_new
  · exact h o h_o (h_order.key.symm.trans h_same)
  · exact h_key (h_same ▸ h_new)

theorem recordCancellationSide_keys {agent : LogicalAgentId} {body ambiguous : String}
    {audience : CancellationAudience} {due : Option Millis}
    {res : MessageId × Option (OperationId × IncarnationId)}
    (h : (recordCancellationSide now agent ask reason body audience due ambiguous).run s =
      .ok (res, s')) : AddsKeys (· = cancellationKey audience ask) s s' := by
  have h_admits : Admits (AddsKeys (· = cancellationKey audience ask)) Tab.operations
      (OperationRow.Under (cancellationKey audience ask)) := AddsKeys.admits rfl
  exact Keeps.keeps h

/-- Both notices about an ask are recorded one after the other, under keys of their own. -/
theorem bothSides_keySafe {β : Type} {waiting owing : LogicalAgentId}
    {body owingBody ambiguous ambiguous' : String} {due owingDue : Option Millis}
    {f : MessageId × Option (OperationId × IncarnationId) →
      MessageId × Option (OperationId × IncarnationId) → StoreTx β}
    (h_free : ∀ audience, s.KeyFree (cancellationKey audience ask))
    (h_waiting : ambiguous.toList[0]? = some 'a') (h_owing : ambiguous'.toList[0]? = some 'a')
    (h_f : ∀ a b s', KeySafe (f a b) s') :
    KeySafe (recordCancellationSide now waiting ask reason body .waiting due ambiguous >>=
      fun a => recordCancellationSide now owing ask reason owingBody .owing owingDue ambiguous' >>=
        fun b => f a b) s := by
  refine (recordCancellationSide_keySafe (h_free .waiting) h_waiting).bind fun a s₁ h_run => ?_
  have h_free₁ : s₁.KeyFree (cancellationKey .owing ask) :=
    (h_free .owing).kept (recordCancellationSide_keys h_run) cancellationKey_audience_ne.symm
  exact (recordCancellationSide_keySafe h_free₁ h_owing).bind fun b s₂ _ => h_f a b s₂

theorem recordCancellation_keySafe {o : ObligationRow} {body owingBody : String}
    {due owingDue : Option Millis}
    (h_free : ∀ audience, s.KeyFree (cancellationKey audience o.askMessageId)) :
    KeySafe (recordCancellation now o reason body owingBody due owingDue) s :=
  bothSides_keySafe h_free (by decide) (by decide) fun _ _ _ =>
    (Commits.of_run run_updateRows).failsOnly.bind fun _ _ _ => failsOnly_pure

theorem refuseRenewPrepareAskCancel_keySafe {e : StoreError}
    (h : refuseRenewPrepareAskCancel ask s = .error e) : ¬ e.KeyRefusal := by
  unfold refuseRenewPrepareAskCancel at h
  split at h
  · cases h
    have h_a : (toString "ask ").toList[0]? = some 'a' := by decide
    simp only [String.append_assoc]
    exact opening_keySafe h_a (by decide)
  · cases h

theorem cancellableObligation_keySafe {e : StoreError}
    (h : cancellableObligation ask s = .error e) : ¬ e.KeyRefusal := by
  unfold cancellableObligation at h
  split at h
  · cases h
    exact conflict_keySafe (c := 'o') 0 (by decide) (by decide)
  split at h
  · cases h_refuse : refuseRenewPrepareAskCancel ask s with
    | error e' =>
      rw [h_refuse] at h
      cases h
      exact refuseRenewPrepareAskCancel_keySafe h_refuse
    | ok u =>
      rw [h_refuse] at h
      cases h
  · cases h
    have h_o : (toString "obligation ").toList[0]? = some 'o' := by decide
    unfold settledObligationRefusal
    simp only [String.append_assoc]
    exact opening_keySafe h_o (by decide)

theorem cancellableObligation_ask {o : ObligationRow} (h : cancellableObligation ask s = .ok o) :
    o.askMessageId = ask := by
  unfold cancellableObligation at h
  split at h
  · cases h
  rename_i o' h_find
  split at h
  · cases h_refuse : refuseRenewPrepareAskCancel ask s with
    | error e' =>
      rw [h_refuse] at h
      cases h
    | ok u =>
      rw [h_refuse] at h
      cases h
      exact (Table.find_eq_some.mp h_find).2
  · cases h

theorem cancelWithResponse_keySafe {requester : LogicalAgentId} {body owingBody : String}
    {due owingDue : Option Millis}
    (h_free : ∀ audience, s.KeyFree (cancellationKey audience ask)) :
    KeySafe (cancelWithResponse now requester ask reason body owingBody due owingDue) s := by
  refine failsOnly_bind_require (conflict_keySafe (c := 'c') 0 (by decide) (by decide)) fun _ => ?_
  refine failsOnly_bind_query (fun e => cancellableObligation_keySafe) fun o h_o => ?_
  refine (recordCancellation_keySafe ?_).bind fun created s₁ _ => ?_
  · rw [cancellableObligation_ask h_o]
    exact h_free
  refine settleObligations_keySafe.bind fun n s₂ _ => ?_
  exact failsOnly_bind_require (conflict_keySafe (c := 'o') 0 (by decide) (by decide))
    fun _ => failsOnly_pure

theorem orphanAsk_keySafe (h_free : ∀ audience, s.KeyFree (cancellationKey audience ask)) :
    KeySafe (orphanAsk now ask) s := by
  refine failsOnly_bind_reads (failsOnly_bind_query (fun e h_error => ?_) fun _ _ => ?_)
  · split at h_error
    · exact refuseRenewPrepareAskCancel_keySafe h_error
    · cases h_error
  split
  · exact failsOnly_pure
  rename_i o h_o
  obtain ⟨h_find, -⟩ := Option.filter_eq_some_iff.mp h_o
  obtain ⟨-, rfl⟩ := Table.find_eq_some.mp h_find
  refine (recordCancellation_keySafe h_free).bind fun created s₁ _ => ?_
  refine settleObligations_keySafe.bind fun n s₂ _ => ?_
  exact failsOnly_bind_require (conflict_keySafe (c := 'o') 0 (by decide) (by decide))
    fun _ => failsOnly_pure

theorem supersedeUnsubmittedAskDelivery_keySafe {waiter : LogicalAgentId} :
    KeySafe (supersedeUnsubmittedAskDelivery now ask waiter reason) s := by
  refine failsOnly_bind_reads ?_
  dsimp only
  split
  · exact failsOnly_pure
  split
  · exact failsOnly_pure
  refine FailsOnly.bind ?_ fun _ _ _ => settleObligations_keySafe.bind fun _ _ _ => failsOnly_pure
  refine failsOnly_bind_reads (failsOnly_bind_require sql_keySafe fun _ => ?_)
  exact (Commits.of_run run_updateRows).failsOnly.bind fun _ _ _ =>
    (Commits.of_run run_updateRows).failsOnly.bind fun _ _ _ => failsOnly_pure

theorem endAsk_keySafe {waiter : LogicalAgentId} {name : String} {due : Option Millis}
    {o : ObligationRow} (h_free : ∀ audience, s.KeyFree (cancellationKey audience o.askMessageId)) :
    KeySafe (endAsk now waiter name reason due o) s := by
  refine supersedeUnsubmittedAskDelivery_keySafe.bind fun superseded s₁ h_run => ?_
  have h_keys : AddsKeys (fun _ => False) s s₁ := Keeps.keeps h_run
  split
  · exact failsOnly_pure
  · refine bothSides_keySafe (fun audience => (h_free audience).kept h_keys id) (by decide)
      (by decide) fun _ _ _ => ?_
    refine (Commits.of_run run_updateRows).failsOnly.bind fun _ _ _ => ?_
    refine settleObligations_keySafe.bind fun _ _ _ => ?_
    exact failsOnly_bind_require (conflict_keySafe (c := 'o') 0 (by decide) (by decide))
      fun _ => failsOnly_pure

/-- The asks of a waiter that ends are settled one after the other, each under its own keys. -/
theorem endAsks_keySafe {waiter : LogicalAgentId} {name : String} {due : MessageId → Option Millis}
    {asks : List ObligationRow} (h_distinct : (asks.map (·.askMessageId)).Nodup)
    (h_free : ∀ o ∈ asks, ∀ audience, s.KeyFree (cancellationKey audience o.askMessageId)) :
    KeySafe (forEach asks fun o => endAsk now waiter name reason (due o.askMessageId) o) s := by
  induction asks generalizing s with
  | nil => exact failsOnly_pure
  | cons o asks ih =>
    obtain ⟨h_fresh, h_distinct⟩ := List.nodup_cons.mp h_distinct
    refine (endAsk_keySafe (h_free o List.mem_cons_self)).bind fun _ s₁ h_run => ?_
    refine (ih h_distinct fun o' h_o' audience => ?_).bind fun _ _ _ => failsOnly_pure
    refine (h_free o' (List.mem_cons_of_mem o h_o') audience).kept (endAsk_keys h_run) ?_
    rintro ⟨a, h_key⟩
    exact h_fresh (List.mem_map.mpr ⟨o', h_o', cancellationKey_ask h_key⟩)

theorem unresolvedAsks_distinct {agent : LogicalAgentId} :
    ((s.unresolvedAsksWaitingOn agent).map (·.askMessageId)).Nodup := by
  unfold Store.unresolvedAsksWaitingOn
  refine ((List.perm_insertionSort _ _).map _).nodup_iff.mpr ?_
  exact (List.filter_sublist.map _).nodup s.obligations.keys_nodup

theorem endSocketWaiter_keySafe {agent : LogicalAgentId} {due : MessageId → Option Millis}
    (h_free : ∀ o ∈ s.obligations, o.state.Unresolved → ∀ audience,
      s.KeyFree (cancellationKey audience o.askMessageId)) :
    KeySafe (endSocketWaiterWithOwingDue now agent due reason) s := by
  refine failsOnly_bind_query (fun e h_error => ?_) fun _ _ => failsOnly_bind_reads ?_
  · unfold requireActiveSocketWaiter at h_error
    split at h_error
    · cases h_error
      have h_s : (toString "socket waiter ").toList[0]? = some 's' := by decide
      simp only [String.append_assoc]
      exact opening_keySafe h_s (by decide)
    split at h_error
    · cases h_error
    · cases h_error
      have h_l : (toString "logical agent ").toList[0]? = some 'l' := by decide
      simp only [String.append_assoc]
      exact opening_keySafe h_l (by decide)
  have h_l : (toString "logical agent ").toList[0]? = some 'l' := by decide
  refine (Commits.of_run run_updateRows).failsOnly.bind fun n s₁ h_end => ?_
  rw [run_updateRows] at h_end
  cases h_end
  refine failsOnly_bind_require ?_ fun _ => ?_
  · simp only [String.append_assoc]
    exact opening_keySafe h_l (by decide)
  refine (endAsks_keySafe unresolvedAsks_distinct fun o h_o audience => ?_).bind fun _ _ _ =>
    (Commits.of_run run_updateRows).failsOnly.bind fun _ _ _ => failsOnly_pure
  simp only [Store.unresolvedAsksWaitingOn, List.mem_insertionSort, List.mem_filter,
    decide_eq_true_eq] at h_o
  exact h_free o h_o.1 h_o.2.2 audience

end Notices

-- ============================================================================
-- Initial messages
-- ============================================================================

theorem createInitialMessage_keySafe {now : Millis} {recipient : LogicalAgentId}
    {inc : IncarnationId} {intent : InitialMessageIntent} {key : String} (h_free : s.KeyFree key) :
    KeySafe (createInitialMessage now recipient inc intent key) s := by
  refine failsOnly_bind_require (conflict_keySafe (c := 'a') 0 (by decide) (by decide)) fun _ => ?_
  refine failsOnly_bind_require (conflict_keySafe (c := 'r') 0 (by decide) (by decide)) fun _ => ?_
  refine failsOnly_bind_reads (failsOnly_bind_require ?_ fun _ => ?_)
  · exact conflict_keySafe (c := 'n') 1 (by decide) (by decide)
  refine failsOnly_bind_reads (failsOnly_bind_require ?_ fun _ => ?_)
  · exact conflict_keySafe (c := 'n') 1 (by decide) (by decide)
  refine failsOnly_bind_require (conflict_keySafe (c := 's') 0 (by decide) (by decide)) fun _ => ?_
  refine insertMessage_keySafe.bind fun id s₁ h_message => ?_
  obtain ⟨m, ms, rfl, -⟩ := insertMessage_run h_message
  cases intent.kind with
  | tell => exact receipt_keySafe h_free rfl
  | ask =>
    cases intent.sender with
    | none => exact receipt_keySafe h_free rfl
    | some sender =>
      refine insertObligation_keySafe.bind fun _ s₂ h_obligation => ?_
      obtain ⟨o, os, rfl, -⟩ := insertObligation_run h_obligation
      refine insertReminder_keySafe.bind fun _ s₃ h_reminder => ?_
      obtain ⟨r, rs, rfl, -⟩ := insertReminder_run h_reminder
      exact receipt_keySafe h_free rfl

-- ============================================================================
-- Prepare asks
-- ============================================================================

theorem deliverySchedule_keySafe {now : Millis} {due : Option Millis} {e : StoreError}
    (h : deliverySchedule now due = .error e) : ¬ e.KeyRefusal := by
  unfold deliverySchedule at h
  split at h
  · cases h
  split at h
  · cases h
    exact invalidRecord_keySafe
  · cases h

theorem createAsk_keySafe {now : Millis} {sender recipient : LogicalAgentId} {inc : IncarnationId}
    {body key : String} {due remind : Option Millis} {attributed : Bool} {delivery : ReplyDelivery}
    (h_free : s.KeyFree key) :
    KeySafe (createAskWithReplyDelivery now sender recipient inc body key due remind attributed
      delivery) s := by
  have h_s : (toString "socket waiter ").toList[0]? = some 's' := by decide
  refine failsOnly_bind_require (conflict_keySafe (c := 'r') 0 (by decide) (by decide)) fun _ => ?_
  refine failsOnly_bind_query (fun e h_error => ?_) fun replay h_replay => ?_
  · rw [replay_of_free h_free] at h_error
    cases h_error
  rw [replay_of_free h_free] at h_replay
  cases h_replay
  refine failsOnly_bind_query (fun e => deliverySchedule_keySafe) fun schedule _ => ?_
  refine failsOnly_bind_reads (failsOnly_bind_require ?_ fun _ => ?_)
  · exact conflict_keySafe (c := 'r') 0 (by decide) (by decide)
  refine failsOnly_bind_query (fun e => waiterIdentity_keySafe) fun waiting _ => ?_
  refine failsOnly_bind_require (conflict_keySafe (c := 'o') 0 (by decide) (by decide)) fun _ => ?_
  refine failsOnly_bind_require ?_ fun _ => ?_
  · simp only [String.append_assoc]
    exact opening_keySafe h_s (by decide)
  refine failsOnly_bind_require (conflict_keySafe (c := 's') 0 (by decide) (by decide)) fun _ => ?_
  refine insertMessage_keySafe.bind fun id s₁ h_message => ?_
  obtain ⟨m, ms, rfl, -⟩ := insertMessage_run h_message
  refine insertObligation_keySafe.bind fun _ s₂ h_obligation => ?_
  obtain ⟨o, os, rfl, -⟩ := insertObligation_run h_obligation
  cases remind with
  | none => exact receipt_keySafe h_free rfl
  | some interval =>
    refine insertReminder_keySafe.bind fun _ s₃ h_reminder => ?_
    obtain ⟨r, rs, rfl, -⟩ := insertReminder_run h_reminder
    exact receipt_keySafe h_free rfl

-- ============================================================================
-- Firings
-- ============================================================================

/-- Both agents of the schedule are known. -/
def Store.Knows (s : Store) (p : ScheduleRow) : Prop :=
  (s.logicalAgents.find p.requesterAgentId).isSome ∧ (s.logicalAgents.find p.logicalAgentId).isSome

/-- The agents of every tell schedule are known. -/
def Store.TellsKnown (s : Store) : Prop := ∀ p ∈ s.schedules, p.kind = .tell → s.Knows p

/-- A turn brings no tell schedule but the one that its call composes. -/
theorem Book.Turn.tellPlans {b b' : Book} {c : Call} (h : Turn b c b') {p' : ScheduleRow}
    (h_p' : p' ∈ b'.schedules) (h_kind : p'.kind = .tell) :
    (∃ p ∈ b.schedules, p.SamePlan p') ∨ ∃ now sender recipient body interval first key,
      c = .createTellSchedule now sender recipient body interval first key := by
  have h_edits {e : ScheduleRow → ScheduleRow → Prop} {cs : Table ScheduleRow.id}
      (h_cs : b.schedules.Edits e cs) (h_e : ∀ p p', e p p' → p.SamePlan p') (h_p' : p' ∈ cs) :
      ∃ p ∈ b.schedules, p.SamePlan p' := by
    obtain ⟨p, h_p, h_pp⟩ := h_cs.origin p' h_p'
    exact ⟨p, h_p, h_e p p' h_pp⟩
  cases h with
  | same | link | close => exact .inl ⟨p', h_p', .rfl⟩
  | move _ h_cs _ => exact .inl (h_edits h_cs (fun _ _ h_e => h_e.toSamePlan) h_p')
  | arm _ _ _ h_c h_cs _ =>
    rcases (h_cs.mem p').mp h_p' with h_old | h_new
    · exact .inl ⟨p', h_old, .rfl⟩
    · rw [(h_c p' h_new).1] at h_kind
      cases h_kind
  | next _ _ h_next =>
    obtain ⟨-, -, -, -, -, h_cs, -, -⟩ := h_next
    exact .inl (h_edits h_cs (fun _ _ h_e => h_e.same) h_p')
  | stop _ _ _ h_cs => exact .inl (h_edits h_cs (fun _ _ h_e => h_e.same) h_p')
  | compose _ _ => exact .inr ⟨_, _, _, _, _, _, _, rfl⟩
  | fire _ _ h_cs _ => exact .inl (h_edits h_cs (fun _ _ h_e => h_e.same) h_p')
  | cancel h_cs => exact .inl (h_edits h_cs (fun _ _ h_e => h_e.same) h_p')

theorem createTellSchedule_knows {now : Millis} {sender recipient : LogicalAgentId} {body : String}
    {interval first : Millis} {key : String} {res : CreatedSchedule}
    (h : (createTellSchedule now sender recipient body interval first key).run s = .ok (res, s'))
    {p' : ScheduleRow} (h_p' : p' ∈ s'.schedules) : p' ∈ s.schedules ∨ s.Knows p' := by
  simp only [createTellSchedule, run_bind_require_ok, run_bind_reads] at h
  obtain ⟨-, h⟩ := h
  split at h
  · rw [run_bind_require_ok] at h
    cases h.2
    exact .inl h_p'
  · simp only [run_bind_require_ok] at h
    obtain ⟨h_sender, h_recipient, -, h⟩ := h
    obtain ⟨id, s₁, h_append, h⟩ := run_bind_ok.mp h
    cases h
    rw [run_appendRow] at h_append
    cases h_append
    rcases Table.mem_append.mp h_p' with h_old | rfl
    · exact .inl h_old
    · exact .inr ⟨h_sender, h_recipient⟩

theorem Reachable.tellsKnown {ok : Call → Store → Prop} (h : Reachable ok s) : s.TellsKnown := by
  refine h.invariant (fun _ h_p => absurd h_p Table.notMem_empty) fun c s s' h_s _ h_step => ?_
  have h_kept {p : ScheduleRow} (h_p : s.Knows p) : s'.Knows p :=
    ⟨(c.keepsSound h_step).agents _ h_p.1, (c.keepsSound h_step).agents _ h_p.2⟩
  intro p' h_p' h_kind
  rcases (c.turn h_step).tellPlans h_p' h_kind with ⟨p, h_p, h_same⟩ | ⟨_, _, _, _, _, _, _, rfl⟩
  · have h_known := h_kept (h_s p h_p (h_same.kind ▸ h_kind))
    rw [Store.Knows, h_same.requester, h_same.agent]
    exact h_known
  · obtain ⟨_, h_run⟩ := commit_ok.mp h_step
    rcases createTellSchedule_knows h_run h_p' with h_old | h_new
    · exact h_kept (h_s p' h_old h_kind)
    · exact h_kept h_new

section Firing

variable {item : DueTellSchedule} {nowMs : Millis}

theorem insertFiring_commits {outcome : ScheduleFiringOutcome} {id : Option MessageId}
    {detail : Option String}
    (h : ¬ ∃ f ∈ s.scheduleFirings, f.key = (item.scheduleId, item.cycle)) :
    (insertFiring item nowMs outcome id detail).Commits s := by
  refine Commits.bind (insertRow_commits (Table.find_eq_none.mpr fun f h_f h_key => ?_))
    fun _ _ _ => commits_pure
  exact h ⟨f, h_f, h_key⟩

/-- What is due fires, if the key of the firing is free. -/
theorem fireTellSchedule_commits (h_item : item ∈ s.dueTellSchedules nowMs)
    (h_known : s.TellsKnown) (h_recording : Recording s.book)
    (h_free : s.KeyFree (scheduleKey item.scheduleId item.cycle)) :
    (fireTellSchedule item nowMs).Commits s := by
  simp only [Store.dueTellSchedules, List.mem_map, List.mem_insertionSort, List.mem_filter,
    decide_eq_true_eq] at h_item
  obtain ⟨p, ⟨h_p, h_kind, h_active, h_due⟩, rfl⟩ := h_item
  obtain ⟨h_sender, h_recipient⟩ := h_known p h_p h_kind
  have h_unrecorded : ¬ ∃ f ∈ s.scheduleFirings, f.key = (p.id, p.cycle) := by
    rintro ⟨f, h_f, h_key⟩
    obtain ⟨h_id, h_cycle⟩ := Prod.mk.inj h_key
    exact h_recording.unrecorded h_p ⟨h_id, h_cycle⟩ ⟨f, h_f, rfl⟩
  have h_recorded {s₃ : Store} {t : Table ScheduleRow.id} {ms : Table MessageRow.id}
      (h_desk : SameDesk { s with schedules := t, messages := ms } s₃) :
      ¬ ∃ f ∈ s₃.scheduleFirings, f.key = (p.id, p.cycle) := by
    rw [show s₃.scheduleFirings = s.scheduleFirings from congrArg Book.firings h_desk.1]
    exact h_unrecorded
  have h_message {t : Table ScheduleRow.id} {body : String} :
      (insertMessage nowMs (some p.requesterAgentId) p.logicalAgentId .tell body).Commits
        { s with schedules := t } := by
    unfold insertMessage
    rw [commits_bind_reads, commits_bind_require, commits_bind_require, commits_bind_reads,
      commits_bind_require]
    refine ⟨fun id h_id => ?_, h_recipient, fun ask h_ask => ?_, .of_run run_appendRow⟩
    · rw [← Option.mem_some.mp h_id]
      exact h_sender
    · cases h_ask
  unfold fireTellSchedule
  rw [commits_bind_reads, commits_bind_require]
  refine ⟨⟨p, Table.find_eq_some.mpr ⟨h_p, rfl⟩, h_active, rfl, h_due⟩, ?_⟩
  refine (Commits.of_run run_updateRows).bind fun n s₁ h_run => ?_
  rw [run_updateRows] at h_run
  cases h_run
  split
  · exact insertFiring_commits h_unrecorded
  split
  · refine (insertFiring_commits h_unrecorded).bind fun fired s₂ _ => ?_
    split
    · exact (Commits.of_run run_appendRow).bind fun _ _ _ => commits_pure
    · exact commits_pure
  · refine h_message.bind fun id s₂ h_run => ?_
    obtain ⟨m, ms, rfl, -⟩ := insertMessage_run h_run
    refine queueSinkDelivery_commits.bind fun _ s₃ h_run => ?_
    have h_desk : SameDesk _ s₃ := Keeps.keeps h_run
    exact insertFiring_commits (h_recorded h_desk)
  · refine h_message.bind fun id s₂ h_run => ?_
    obtain ⟨m, ms, rfl, -⟩ := insertMessage_run h_run
    have h_prompt {inc : IncarnationId} {intent : PromptIntent} {t : Table ScheduleRow.id} :
        (insertPrompt nowMs (scheduleKey p.id p.cycle) inc intent nowMs .queued
          (.sql .constraint)).Commits { s with schedules := t, messages := ms } :=
      insertPrompt_commits h_free
    refine h_prompt.bind fun o s₃ h_run => ?_
    have h_desk : SameDesk _ s₃ := Keeps.keeps h_run
    exact insertFiring_commits (h_recorded h_desk)

end Firing

-- ============================================================================
-- Runs
-- ============================================================================

/-- A store with the calls that led to it. -/
structure Chronicle where
  store : Store := Store.empty
  calls : List Call := []

/-- A call, put on record if it commits. -/
def Chronicle.next (c : Call) (k : Chronicle) : Option Chronicle :=
  (c.commit k.store).toOption.map fun s => { store := s, calls := k.calls ++ [c] }

/-- Clients stay away from the keys that Kelpie composes: under such a key only the prepare
    ask of a scheduled renew and the initial message of a launch are recorded. -/
def Call.KeysApart (c : Call) (s : Store) : Prop :=
  match c with
  | .createAsk _ sender recipient inc body key _ _ _ _ => ¬ Composed key ∨
    ∃ r ∈ s.renews.rows, r.phase = .scheduled ∧ key = renewPrepareKey r.id ∧
      sender = r.logicalAgentId ∧ recipient = r.logicalAgentId ∧ inc = r.incarnationId ∧
      body = r.preparePrompt
  | .createInitialMessage _ _ inc _ key => ∃ o ∈ s.operations.rows, o.kind = .start ∧
    o.targetIncarnationId = inc ∧ key = initialMessageKey o.idempotencyKey
  | c => ∀ key ∈ c.givenKey?, ¬ Composed key

/-- Kelpie's next prompt under `key` is recorded. -/
def Store.Takes (s : Store) (key : String) : Prop :=
  ∀ now target intent onReuse, ∃ r,
    (insertOperation now key .prompt target intent .pending onReuse).run s = .ok r

/-- The runs in which each call meets `ok`. -/
abbrev Chronicled (ok : Call → Store → Prop) (k : Chronicle) : Prop :=
  Run (StepOf Chronicle.next) (fun c k => ok c k.store) {} k

theorem Store.KeyFree.takes {key : String} (h : s.KeyFree key) : s.Takes key := by
  intro now target intent onReuse
  have h_commits : (insertOperation now key .prompt target intent .pending onReuse).Commits s :=
    insertOperation_commits h
  obtain ⟨id, s', h_run⟩ := h_commits
  exact ⟨(id, s'), h_run⟩

namespace Chronicle

variable {k k' : Chronicle} {c : Call} {key : String}

theorem next_step (h : StepOf next c k k') :
    c.Step k.store k'.store ∧ k'.calls = k.calls ++ [c] := by
  obtain ⟨s, h_s, rfl⟩ := Option.map_eq_some_iff.mp h
  exact ⟨Call.step_of_mem h_s, rfl⟩

theorem reached {ok : Call → Store → Prop} (h : Chronicled ok k) : Reachable ok k.store := by
  induction h with
  | refl => exact .refl
  | tail c _ h_ok h_next ih => exact .tail c ih h_ok (next_step h_next).1

/-- The key is of no notice and no firing, and a call gave it. -/
def Outer (k : Chronicle) (key : String) : Prop :=
  (∃ c ∈ k.calls, c.givenKey? = some key) ∧
    (∀ audience ask, key ≠ cancellationKey audience ask) ∧ ∀ id cycle, key ≠ scheduleKey id cycle

/-- Every key is one that a call gave, or that of an operation that is over. -/
def Sourced (k : Chronicle) : Prop :=
  ∀ o ∈ k.store.operations, NoticeKey k.store o.idempotencyKey ∨
    FiringKey k.store o.idempotencyKey ∨ k.Outer o.idempotencyKey

theorem outer_of_given (h_apart : c.KeysApart s) (h_key : c.givenKey? = some key) :
    (∀ audience ask, key ≠ cancellationKey audience ask) ∧
      ∀ id cycle, key ≠ scheduleKey id cycle := by
  have h_unused (h_not : ¬ Composed key) : (∀ audience ask, key ≠ cancellationKey audience ask) ∧
      ∀ id cycle, key ≠ scheduleKey id cycle :=
    ⟨fun audience ask h_eq => h_not (.inl ⟨audience, ask, h_eq⟩),
      fun id cycle h_eq => h_not (.inr (.inl ⟨id, cycle, h_eq⟩))⟩
  cases c with
  | createAsk now sender recipient inc body given due remind attributed delivery =>
    obtain rfl : given = key := Option.some.inj h_key
    rcases h_apart with h_not | ⟨r, -, -, rfl, -⟩
    · exact h_unused h_not
    · exact ⟨fun _ _ h_eq => cancellationKey_ne_renew h_eq.symm,
        fun _ _ h_eq => scheduleKey_ne_renew h_eq.symm⟩
  | createInitialMessage now recipient inc intent given =>
    obtain rfl : given = key := Option.some.inj h_key
    obtain ⟨o, -, -, -, rfl⟩ := h_apart
    exact ⟨fun _ _ h_eq => cancellationKey_ne_initial h_eq.symm,
      fun _ _ h_eq => scheduleKey_ne_initial h_eq.symm⟩
  | _ => exact h_unused (h_apart key h_key)

theorem Sourced.step (h : k.Sourced) (h_apart : c.KeysApart k.store) (h_next : StepOf next c k k') :
    k'.Sourced := by
  obtain ⟨h_step, h_calls⟩ := next_step h_next
  intro o' h_o'
  rcases (c.addsKeys h_step).origin o' h_o' with ⟨o, h_o, h_same⟩ | h_given | h_notice | h_firing
  · rw [h_same.key]
    rcases h o h_o with ⟨a, ask, h_eq, h_settled⟩ | ⟨id, cycle, h_eq, h_past⟩ | ⟨h_mem, h_outer⟩
    · exact .inl ⟨a, ask, h_eq, h_settled.step c h_step⟩
    · exact .inr (.inl ⟨id, cycle, h_eq, h_past.step c h_step⟩)
    · obtain ⟨c', h_c', h_c'_key⟩ := h_mem
      refine .inr (.inr ⟨⟨c', ?_, h_c'_key⟩, h_outer⟩)
      rw [h_calls]
      exact List.mem_append_left _ h_c'
  · refine .inr (.inr ⟨⟨c, ?_, h_given⟩, outer_of_given h_apart h_given⟩)
    rw [h_calls]
    simp
  · exact .inl h_notice
  · exact .inr (.inl h_firing)

theorem sourced_of_run (h : Chronicled Call.KeysApart k) : k.Sourced :=
  Run.invariant h (fun _ h_o => by cases h_o)
    fun _ _ _ h_k h_apart h_next => h_k.step h_apart h_next

/-- No operation has the key of a notice about an unresolved ask. -/
theorem Sourced.notice_free (h : k.Sourced) {ob : ObligationRow} (h_ob : ob ∈ k.store.obligations)
    (h_open : ob.state.Unresolved) (audience : CancellationAudience) :
    k.store.KeyFree (cancellationKey audience ob.askMessageId) := by
  intro o h_o h_key
  rcases h o h_o with ⟨a, ask, h_eq, ob', h_ob', h_ask, h_settled⟩ | ⟨id, cycle, h_eq, -⟩ |
    ⟨-, h_outer, -⟩
  · have h_same := cancellationKey_ask (h_key.symm.trans h_eq)
    obtain rfl := Table.eq_of_key h_ob h_ob' (h_same.trans h_ask.symm)
    exact h_settled h_open
  · exact cancellationKey_ne_schedule (h_key.symm.trans h_eq)
  · exact h_outer _ _ h_key

/-- No operation has the key of a firing to come. -/
theorem Sourced.firing_free (h : k.Sourced) {p : ScheduleRow} (h_p : p ∈ k.store.schedules) :
    k.store.KeyFree (scheduleKey p.id p.cycle) := by
  intro o h_o h_key
  rcases h o h_o with ⟨a, ask, h_eq, -⟩ | ⟨id, cycle, h_eq, p', h_p', h_id, h_past⟩ |
    ⟨-, -, h_outer⟩
  · exact cancellationKey_ne_schedule (h_eq.symm.trans h_key)
  · obtain ⟨h_same, h_cycle⟩ := scheduleKey_inj (h_key.symm.trans h_eq)
    obtain rfl := Table.eq_of_key h_p h_p' (h_same.trans h_id.symm)
    omega
  · exact h_outer _ _ h_key

/-- A key that is of no notice and no firing is taken by a call that gave it. -/
theorem Sourced.given_free (h : k.Sourced)
    (h_notice : ∀ audience ask, cancellationKey audience ask ≠ key)
    (h_firing : ∀ id cycle, scheduleKey id cycle ≠ key)
    (h_none : ∀ c ∈ k.calls, c.givenKey? ≠ some key) : k.store.KeyFree key := by
  intro o h_o h_key
  rcases h o h_o with ⟨a, ask, h_eq, -⟩ | ⟨id, cycle, h_eq, -⟩ | ⟨⟨c, h_c, h_given⟩, -⟩
  · exact h_notice a ask (h_eq.symm.trans h_key)
  · exact h_firing id cycle (h_eq.symm.trans h_key)
  · exact h_none c h_c (h_given.trans (congrArg some h_key))

end Chronicle

/-- In every run in which the clients stay away from the keys that Kelpie composes, the
    operations that it records under them are not refused for their key:
    1. the notices about an unresolved ask, which the requester cancels or recovery orphans,
       and those about all the asks of a socket waiter that ends;
    2. the next firing of an active schedule, and a firing that is read as due commits;
    3. the prepare ask of a scheduled renew that has none so far;
    4. the initial message of a launch that has none so far. -/
theorem composed_keys_free {k : Chronicle} (h : Chronicled Call.KeysApart k) :
    ((∀ o ∈ k.store.obligations, o.state.Unresolved →
      (∀ audience, k.store.Takes (cancellationKey audience o.askMessageId)) ∧
      (∀ now requester reason body owingBody due owingDue,
        KeySafe (cancelWithResponse now requester o.askMessageId reason body owingBody due owingDue)
          k.store) ∧
      ∀ now, KeySafe (orphanAsk now o.askMessageId) k.store) ∧
    ∀ now agent due reason,
      KeySafe (endSocketWaiterWithOwingDue now agent due reason) k.store) ∧
    ((∀ p ∈ k.store.schedules, p.state = .active → k.store.Takes (scheduleKey p.id p.cycle)) ∧
    ∀ nowMs, ∀ item ∈ k.store.dueTellSchedules nowMs,
      (fireTellSchedule item nowMs).Commits k.store) ∧
    (∀ r ∈ k.store.renews, r.phase = .scheduled →
      (∀ c ∈ k.calls, c.givenKey? ≠ some (renewPrepareKey r.id)) →
      k.store.Takes (renewPrepareKey r.id) ∧
      ∀ now sender recipient inc body due remind attributed delivery,
        KeySafe (createAskWithReplyDelivery now sender recipient inc body (renewPrepareKey r.id)
          due remind attributed delivery) k.store) ∧
    ∀ o ∈ k.store.operations, o.kind = .start →
      (∀ c ∈ k.calls, c.givenKey? ≠ some (initialMessageKey o.idempotencyKey)) →
      k.store.Takes (initialMessageKey o.idempotencyKey) ∧
      ∀ now recipient inc intent,
        KeySafe (createInitialMessage now recipient inc intent
          (initialMessageKey o.idempotencyKey)) k.store := by
  have h_sourced := Chronicle.sourced_of_run h
  have h_reached := Chronicle.reached h
  refine ⟨⟨?_, ?_⟩, ⟨?_, ?_⟩, ?_, ?_⟩
  · intro o h_o h_open
    have h_free := h_sourced.notice_free h_o h_open
    refine ⟨fun audience => (h_free audience).takes, ?_, fun _ => orphanAsk_keySafe h_free⟩
    intro now requester reason body owingBody due owingDue
    exact cancelWithResponse_keySafe h_free
  · intro now agent due reason
    exact endSocketWaiter_keySafe fun o => h_sourced.notice_free
  · intro p h_p _
    exact (h_sourced.firing_free h_p).takes
  · intro nowMs item h_item
    refine fireTellSchedule_commits h_item h_reached.tellsKnown h_reached.recording ?_
    simp only [Store.dueTellSchedules, List.mem_map, List.mem_insertionSort,
      List.mem_filter] at h_item
    obtain ⟨p, ⟨h_p, -⟩, rfl⟩ := h_item
    exact h_sourced.firing_free h_p
  · intro r h_r _ h_none
    have h_free := h_sourced.given_free (fun _ _ => cancellationKey_ne_renew)
      (fun _ _ => scheduleKey_ne_renew) h_none
    refine ⟨h_free.takes, ?_⟩
    intro now sender recipient inc body due remind attributed delivery
    exact createAsk_keySafe h_free
  · intro start h_start _ h_none
    have h_free := h_sourced.given_free (fun _ _ => cancellationKey_ne_initial)
      (fun _ _ => scheduleKey_ne_initial) h_none
    exact ⟨h_free.takes, fun _ _ _ _ => createInitialMessage_keySafe h_free⟩

/-- A tell under the key of a later notice, or of a later firing. -/
def squattedRun (key : String) : List Call :=
  askedRun ++ [.createTellSchedule 3 1 2 "Tests?" 1000 1000 "k4",
    .createTell 4 2 1 1 "Hello." key none]

/-- After a client has used such a key, the asker cannot cancel its ask, and the schedule
    cannot fire. -/
theorem composed_keys_free_squatted :
    (∃ s, Reachable (fun _ _ => True) s ∧
      (∃ o ∈ s.obligations.rows, o.askMessageId = 1 ∧ o.state.Unresolved) ∧
      ((cancelWithResponse 5 1 1 "Done." "Cancelled." "Stop." none none).run s).map Prod.fst =
        .error idempotencyKeyExists) ∧
    ∃ s, Reachable (fun _ _ => True) s ∧ ∃ item ∈ s.dueTellSchedules 2000,
      ((fireTellSchedule item 2000).run s).map Prod.fst = .error (.sql .constraint) := by
  constructor
  · have h : Leads (fun _ _ => True) (fun s =>
        (∃ o ∈ s.obligations.rows, o.askMessageId = 1 ∧ o.state.Unresolved) ∧
        ((cancelWithResponse 5 1 1 "Done." "Cancelled." "Stop." none none).run s).map Prod.fst =
          .error idempotencyKeyExists) (squattedRun (cancellationKey .waiting 1)) Store.empty := by
      decide +kernel
    exact h.run
  · have h : Leads (fun _ _ => True) (fun s => ∃ item ∈ s.dueTellSchedules 2000,
        ((fireTellSchedule item 2000).run s).map Prod.fst = .error (.sql .constraint))
        (squattedRun (scheduleKey 1 1)) Store.empty := by
      decide +kernel
    exact h.run

/-- A composed key is no short one. -/
theorem Composed.length_le {key : String} (h : Composed key) : 16 ≤ key.length := by
  have h_begin {p rest : String} (h_p : 16 ≤ p.length) : 16 ≤ (p ++ rest).length := by
    rw [String.length_append]
    omega
  rcases h with ⟨audience, ask, rfl⟩ | ⟨id, cycle, rfl⟩ | ⟨id, rfl⟩ | ⟨start, rfl⟩
  · cases audience <;> exact h_begin (by decide)
  · unfold scheduleKey
    rw [String.append_assoc, String.append_assoc]
    exact h_begin (by decide)
  · exact h_begin (by decide)
  · have h_end : (toString ":initial-message").length = 16 := by decide
    rw [initialMessageKey, String.length_append, h_end]
    omega

/-- The clients give short keys only. -/
def Call.Short (c : Call) : Prop :=
  match c with
  | .createInitialMessage _ _ _ _ _ => False
  | c => ∀ key ∈ c.givenKey?, key.length < 16

instance : DecidablePred Call.Short := fun c => by
  apply Call.casesOn (motive := fun c => Decidable (c.Short)) c <;>
    intros <;>
    dsimp only [Call.Short] <;>
    infer_instance

theorem Call.Short.keysApart {c : Call} (h : c.Short) : c.KeysApart s := by
  have h_not {key : String} (h_key : key.length < 16) : ¬ Composed key :=
    fun h_composed => absurd h_composed.length_le (by omega)
  cases c with
  | createInitialMessage now recipient inc intent key => exact h.elim
  | createAsk now sender recipient inc body key due remind attributed delivery =>
    exact .inl (h_not (h key rfl))
  | _ => exact fun key h_key => h_not (h key h_key)

/-- The asker of an open ask can be told of its end. -/
theorem composed_keys_free_askedRun : ∃ k, Chronicled Call.KeysApart k ∧
    (∃ o ∈ k.store.obligations.rows, o.askMessageId = 1 ∧ o.state = .open) ∧
    k.store.Takes (cancellationKey .waiting 1) := by
  have h : Script Chronicle.next (fun c _ => c.Short)
      (fun k => ∃ o ∈ k.store.obligations.rows, o.askMessageId = 1 ∧ o.state = .open)
      askedRun {} := by
    decide +kernel
  obtain ⟨k, h_run, o, h_o, h_ask, h_open⟩ := h.run
  have h_apart : Chronicled Call.KeysApart k := h_run.mono fun _ _ h_short => h_short.keysApart
  have h_takes := ((composed_keys_free h_apart).1.1 o h_o (.inl h_open)).1 .waiting
  exact ⟨k, h_apart, ⟨o, h_o, h_ask, h_open⟩, h_ask ▸ h_takes⟩

end Kelpie
