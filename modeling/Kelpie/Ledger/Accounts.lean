/-
  Kelpie.Ledger.Accounts

  Every call of the store accounts for the ledger it leaves: it is a path of
  effects, or an acceptance, a recorded reply or the sweep of settled asks.
-/

import Kelpie.Ledger.Posting
import Kelpie.Store.Frames

namespace Kelpie

open Lib Lib.Tx Ledger

-- As in `Kelpie.Store.Frames`.
set_option synthInstance.maxSize 100000

/-- The ledger goes along a path of effects. -/
def Accounted (strict : Prop) (s s' : Store) : Prop := Path strict s.ledger s'.ledger

variable {strict : Prop} {s s' : Store}

instance Accounted.stepwise : Stepwise (Accounted strict) where
  refl _ := .refl
  trans := .trans

theorem Accounted.single (h : Effect strict s.ledger s'.ledger) : Accounted strict s s' :=
  Relation.ReflTransGen.single h

-- ============================================================================
-- Tables outside the ledger
-- ============================================================================

section Frames

/-- The ledger stays as it is. -/
def SameLedger (s s' : Store) : Prop := s'.ledger = s.ledger

instance SameLedger.stepwise : Stepwise SameLedger where
  refl _ := rfl
  trans h h' := h'.trans h

instance : Ignores SameLedger Tab.logicalAgents := ⟨fun _ _ => rfl⟩
instance : Ignores SameLedger Tab.incarnations := ⟨fun _ _ => rfl⟩
instance : Ignores SameLedger Tab.operationAttempts := ⟨fun _ _ => rfl⟩
instance : Ignores SameLedger Tab.operatorNotices := ⟨fun _ _ => rfl⟩
instance : Ignores SameLedger Tab.schedules := ⟨fun _ _ => rfl⟩
instance : Ignores SameLedger Tab.renews := ⟨fun _ _ => rfl⟩
instance : Ignores SameLedger Tab.renewAttempts := ⟨fun _ _ => rfl⟩
instance : Ignores SameLedger Tab.socketWaiterKeys := ⟨fun _ _ => rfl⟩
instance : Ignores SameLedger Tab.socketInboxKeys := ⟨fun _ _ => rfl⟩
instance : Ignores SameLedger Tab.scheduleFirings := ⟨fun _ _ => rfl⟩
instance : Ignores SameLedger Tab.askPullLeases := ⟨fun _ _ => rfl⟩
instance : Ignores SameLedger Tab.askPullKeys := ⟨fun _ _ => rfl⟩
instance : IgnoresCounters SameLedger := ⟨fun _ _ => rfl, fun _ _ => rfl, fun _ _ => rfl⟩

theorem SameLedger.accounted (h : SameLedger s s') : Accounted strict s s' := by
  unfold Accounted
  rw [h]

instance Accounted.counters : IgnoresCounters (Accounted strict) :=
  ⟨fun _ _ => .refl, fun _ _ => .refl, fun _ _ => .refl⟩

instance Accounted.ignores {ρ κ : Type} {key : ρ → κ} {T : TableOf Store key}
    [hT : Ignores SameLedger T] : Ignores (Accounted strict) T :=
  ⟨fun s t => (hT.put s t).accounted⟩

end Frames

-- ============================================================================
-- Statements on the ledger
-- ============================================================================

section Statements

theorem keeps_updateObligations {p : ObligationRow → Prop} [DecidablePred p]
    {f : ObligationRow → ObligationRow} {h_key : ∀ r, (f r).askMessageId = r.askMessageId}
    (h : ∀ o, p o → Amended o (f o)) :
    Keeps (Accounted strict) (updateRows Tab.obligations p f h_key : StoreTx Nat) :=
  .updateRows fun _ => .single (.amend
    (Table.edits_update h_key (fun o _ h_p => h o h_p) fun _ _ _ => ⟨.rfl, rfl, .inl rfl⟩))

theorem keeps_updateReminders {p : ObligationReminderRow → Prop} [DecidablePred p]
    {f : ObligationReminderRow → ObligationReminderRow}
    {h_key : ∀ r, (f r).askMessageId = r.askMessageId}
    (h : ∀ r, (f r).Armed ↔ r.Armed) :
    Keeps (Accounted strict) (updateRows Tab.obligationReminders p f h_key : StoreTx Nat) :=
  .updateRows fun _ => .single (.remind (Table.edits_update h_key
    (fun r _ _ => ⟨h_key r, (h r).mpr, fun h_r => .inl ((h r).mp h_r)⟩)
    fun _ _ _ => ⟨rfl, id, .inl⟩))

theorem keeps_updateAttempts {p : ReminderAttemptRow → Prop} [DecidablePred p]
    {f : ReminderAttemptRow → ReminderAttemptRow} {h_key : ∀ r, (f r).id = r.id}
    (h : ∀ a, (f a).askMessageId = a.askMessageId) :
    Keeps (Accounted strict) (updateRows Tab.reminderAttempts p f h_key : StoreTx Nat) :=
  .updateRows fun s => .single (.attempt fun a h_a => by
    have h_a : a ∈ s.reminderAttempts.update p f h_key := h_a
    rcases Table.mem_update_cases h_a with ⟨h_mem, -⟩ | ⟨a', h_mem, -, rfl⟩
    · exact .inl ⟨a, h_mem, rfl⟩
    · exact .inl ⟨a', h_mem, (h a').symm⟩)

instance keeps_deleteAttempts {p : ReminderAttemptRow → Prop} [DecidablePred p] :
    Keeps (Accounted strict) (deleteRows Tab.reminderAttempts p : StoreTx Unit) :=
  .deleteRows fun _ => .single (.attempt fun a h_a =>
    .inl ⟨a, (Table.mem_delete.mp h_a).1, rfl⟩)

theorem keeps_updateDeliveries {p : DeliveryRow → Prop} [DecidablePred p]
    {f : DeliveryRow → DeliveryRow} {h_key : ∀ r, (f r).rowid = r.rowid}
    (h : ∀ d, p d → Moved d (f d)) :
    Keeps (Accounted strict) (updateRows Tab.deliveries p f h_key : StoreTx Nat) :=
  .updateRows fun _ => .single (.deliver
    (Table.edits_update h_key (fun d _ h_p => h d h_p) fun _ _ _ => ⟨.rfl, .inl rfl⟩))

theorem keeps_updateOperations {p : OperationRow → Prop} [DecidablePred p]
    {f : OperationRow → OperationRow} {h_key : ∀ r, (f r).id = r.id}
    (h : ∀ r, p r → Conducted strict r (f r)) :
    Keeps (Accounted strict) (updateRows Tab.operations p f h_key : StoreTx Nat) :=
  .updateRows fun _ => .single (.conduct
    (Table.edits_update h_key (fun r _ h_p => h r h_p) fun _ _ _ => ⟨.rfl, .inl rfl⟩))

theorem keeps_insertOperation {now : Millis} {key : String} {kind : OperationKind}
    {target : IncarnationId} {intent : OperationIntent} {outcome : OperationOutcome}
    {onReuse : StoreError} {resolvedAtMs : Option Millis} (h_kind : kind ≠ .prompt) :
    Keeps (Accounted strict)
      (insertOperation now key kind target intent outcome onReuse resolvedAtMs) where
  keeps h := by
    obtain ⟨o, t, rfl, h_t, -, rfl, -, -⟩ := insertOperation_run h
    exact .single (.operate h_kind h_t)

end Statements

-- ============================================================================
-- Incarnations
-- ============================================================================

section Lifecycle

instance {now intent} : Keeps (Accounted strict) (declareStart now intent) := by
  have h_op {target} : Keeps (Accounted strict) (insertOperation now intent.idempotencyKey
    .start target (.start intent) .pending idempotencyKeyExists) :=
    keeps_insertOperation (by decide)
  unfold declareStart
  infer_instance

instance {now intent evidence state outcome resolved} : Keeps (Accounted strict)
    (insertAdoptBinding now intent evidence state outcome resolved) := by
  have h_op {target resolvedAt} : Keeps (Accounted strict)
    (insertOperation now intent.idempotencyKey .adopt target (.adopt intent evidence) outcome
      idempotencyKeyExists resolvedAt) := keeps_insertOperation (by decide)
  unfold insertAdoptBinding
  infer_instance

instance {now intent evidence} :
    Keeps (Accounted strict) (declareAdopt now intent evidence) := by
  unfold declareAdopt
  infer_instance

instance {now intent evidence} :
    Keeps (Accounted strict) (declareAdoptPending now intent evidence) := by
  unfold declareAdoptPending
  infer_instance

instance {now inc key} : Keeps (Accounted strict) (requestRetirement now inc key) := by
  have h_op : Keeps (Accounted strict) (insertOperation now key .retire inc (.retire inc)
    .accepted idempotencyKeyExists) := keeps_insertOperation (by decide)
  unfold requestRetirement
  infer_instance

end Lifecycle

-- ============================================================================
-- Operations that deliver no message
-- ============================================================================

/-! A launch, an adoption or a retirement settles the operation it names.  That this is
    no prompt is a matter of the caller; `Conducting` keeps it as an assumption. -/

section Conducting

/-- The operation delivers no message. -/
def Ledger.NoPrompt (g : Ledger) (id : OperationId) : Prop :=
  ∀ r ∈ g.operations, r.id = id → r.kind ≠ .prompt

/-- The path of a call that settles the operation `id`. -/
abbrev Conducting (strict : Prop) (id : OperationId) : Store → Store → Prop :=
  Under (fun s => strict → s.ledger.NoPrompt id) (Accounted strict)

variable {id : OperationId}

instance {ρ κ : Type} {key : ρ → κ} {T : TableOf Store key} [hT : Ignores SameLedger T] :
    Ignores (Conducting strict id) T where
  put s t h := by
    have h_same : (T.put t s).ledger = s.ledger := hT.put s t
    refine ⟨SameLedger.accounted h_same, ?_⟩
    change strict → (T.put t s).ledger.NoPrompt id
    rw [h_same]
    exact h

instance {f h} : Keeps (Conducting strict id) (updateLastAttempt id f h) := by
  unfold updateLastAttempt
  infer_instance

theorem keeps_conduct {p : OperationRow → Prop} [DecidablePred p]
    {f : OperationRow → OperationRow} {h_key : ∀ r, (f r).id = r.id}
    (h_p : ∀ r, p r → r.id = id ∧ r.outcome.Live) (h_task : ∀ r : OperationRow, r.SameTask (f r)) :
    Keeps (Conducting strict id) (updateRows Tab.operations p f h_key : StoreTx Nat) :=
  .updateRows fun s h_noPrompt => by
    constructor
    · exact .single (.conduct (Table.edits_update h_key
        (fun r h_r h_pr => ⟨h_task r, .inr ⟨(h_p r h_pr).2, fun h_strict =>
          h_noPrompt h_strict r h_r (h_p r h_pr).1⟩⟩)
        fun _ _ _ => ⟨.rfl, .inl rfl⟩))
    · intro h_strict r h_r h_id
      have h_r : r ∈ s.operations.update p f h_key := h_r
      rcases Table.mem_update_cases h_r with ⟨h_mem, -⟩ | ⟨r₀, h_mem, h_p₀, rfl⟩
      · exact h_noPrompt h_strict r h_mem h_id
      · rw [(h_task r₀).kind]
        exact h_noPrompt h_strict r₀ h_mem (h_p r₀ h_p₀).1

instance {now inc agent} :
    Keeps (Conducting strict id) (acceptAdoptReady now id inc agent) := by
  have h_op {h_key} : Keeps (Conducting strict id) (updateRows Tab.operations
      (fun o => o.Owns id inc ∧ o.outcome.Live)
      (fun o => { o with outcome := .succeeded, resolvedAtMs := some now }) h_key :
      StoreTx Nat) := keeps_conduct (fun r h => ⟨h.1.1, h.2⟩) fun _ => ⟨rfl, rfl, rfl⟩
  unfold acceptAdoptReady
  infer_instance

instance {inc pane terminal} :
    Keeps (Conducting strict id) (acceptStartSubmission id inc pane terminal) := by
  have h_op {h_key} : Keeps (Conducting strict id) (updateRows Tab.operations
      (fun o => o.Owns id inc ∧ o.outcome = .pending)
      (fun o => { o with outcome := .accepted }) h_key : StoreTx Nat) :=
    keeps_conduct (fun r h => ⟨h.1.1, .inl h.2⟩) fun _ => ⟨rfl, rfl, rfl⟩
  unfold acceptStartSubmission
  infer_instance

instance {now predecessor inc} :
    Keeps (Conducting strict id) (demotePredecessor now predecessor inc) := by
  unfold demotePredecessor
  infer_instance

instance {now inc agent supersedes} :
    Keeps (Conducting strict id) (acceptStartReady now id inc agent supersedes) := by
  have h_op {h_key} : Keeps (Conducting strict id) (updateRows Tab.operations
      (fun o => o.Owns id inc ∧ o.outcome.Live)
      (fun o => { o with outcome := .succeeded, resolvedAtMs := some now }) h_key :
      StoreTx Nat) := keeps_conduct (fun r h => ⟨h.1.1, h.2⟩) fun _ => ⟨rfl, rfl, rfl⟩
  unfold acceptStartReady
  cases supersedes <;> infer_instance

instance {now inc pane terminal snapshot} :
    Keeps (Conducting strict id) (reconcileRetirement now id inc pane terminal snapshot) := by
  have h_op {h_key} : Keeps (Conducting strict id) (updateRows Tab.operations
      (fun o => o.id = id ∧ o.outcome = .accepted)
      (fun o => { o with outcome := .succeeded, resolvedAtMs := some now }) h_key :
      StoreTx Nat) := keeps_conduct (fun r h => ⟨h.1, .inr h.2⟩) fun _ => ⟨rfl, rfl, rfl⟩
  unfold reconcileRetirement
  infer_instance

end Conducting

-- ============================================================================
-- Attempts
-- ============================================================================

section Attempts

instance {now op attempt request} :
    Keeps (Accounted strict) (markSubmitted now op attempt request) := by
  have h_deliver {h_key} : Keeps (Accounted strict) (updateRows Tab.deliveries
      (fun d => d.operationId = some op ∧ d.outcome = .pending)
      (fun d => { d with outcome := .submitted, attemptedAtMs := some now,
                         herdrRequestId := some request }) h_key : StoreTx Nat) :=
    keeps_updateDeliveries fun d h => ⟨⟨rfl, rfl, rfl, rfl, rfl, rfl⟩, .inr (.inl ⟨.inl h.2, rfl⟩)⟩
  unfold markSubmitted
  infer_instance

instance {op attempt request nowMs} :
    Keeps (Accounted strict) (submitQueuedDelivery op attempt request nowMs) := by
  have h_deliver {h_key} : Keeps (Accounted strict) (updateRows Tab.deliveries
      (fun d => d.operationId = some op ∧ d.outcome = .queued ∧ d.scheduledAtMs ≤ nowMs)
      (fun d => { d with outcome := .submitted, attemptedAtMs := some nowMs,
                         herdrRequestId := some request }) h_key : StoreTx Nat) :=
    keeps_updateDeliveries fun d h =>
      ⟨⟨rfl, rfl, rfl, rfl, rfl, rfl⟩, .inr (.inl ⟨.inr h.2.1, rfl⟩)⟩
  unfold submitQueuedDelivery
  infer_instance

instance {op inc delay} :
    Keeps (Accounted strict) (postponeQueuedPrompts op inc delay) := by
  have h_deliver {lastStart h_key} : Keeps (Accounted strict) (updateRows Tab.deliveries
      (fun d => d.recipientIncarnationId = some inc ∧ d.outcome = .queued)
      (fun d => { d with scheduledAtMs := max d.scheduledAtMs (sqlAdd lastStart delay) }) h_key :
      StoreTx Nat) := keeps_updateDeliveries fun _ _ => ⟨⟨rfl, rfl, rfl, rfl, rfl, rfl⟩, .inl rfl⟩
  have h_match (o : Option Millis) : Keeps (Accounted strict) (match o with
      | none => pure ()
      | some lastStart => do
        let _ ← updateRows Tab.deliveries
          (fun d => d.recipientIncarnationId = some inc ∧ d.outcome = .queued)
          (fun d => { d with scheduledAtMs := max d.scheduledAtMs (sqlAdd lastStart delay) })
        : StoreTx Unit) := by
    cases o <;> infer_instance
  unfold postponeQueuedPrompts
  exact Keeps.bind _ _

/-- An update under the key of one operation that changed one row. -/
theorem updateOperation_run {id : OperationId} {p : OperationRow → Prop} [DecidablePred p]
    {f : OperationRow → OperationRow} {h_key : ∀ r, (f r).id = r.id} {n : Nat}
    (h : (updateRows Tab.operations p f h_key : StoreTx Nat).run s = .ok (n, s'))
    (h_one : n = 1) (h_p : ∀ r, p r → r.id = id) :
    ∃ os, s' = { s with operations := os } ∧ (∃ r ∈ s.operations, r.id = id ∧ p r) ∧
      s.operations.Edits (fun r r' => (r.id ≠ id ∧ r' = r) ∨ (r.id = id ∧ p r ∧ r' = f r)) os := by
  simp only [run_updateRows, Except.ok.injEq, Prod.mk.injEq] at h
  obtain ⟨h_count, rfl⟩ := h
  obtain ⟨r, h_r, h_pr⟩ : ∃ r ∈ s.operations, p r := by
    refine Table.count_pos.mp ?_
    simp only [Tab.operations] at h_count
    omega
  refine ⟨_, rfl, ⟨r, h_r, h_p r h_pr, h_pr⟩, Table.edits_update h_key ?_ ?_⟩
  · intro r' _ h_pr'
    exact .inr ⟨h_p r' h_pr', h_pr', rfl⟩
  · -- The row under `id` is the one that was counted.
    intro r' h_r' h_not
    refine .inl ⟨fun h_id => h_not ?_, rfl⟩
    rw [Table.eq_of_key h_r' h_r (h_id.trans (h_p r h_pr).symm)]
    exact h_pr

theorem settleOperation_run {now : Millis} {id : OperationId} {inc : IncarnationId}
    {outcome : OperationOutcome} {stale : StoreError} {u : Unit}
    (h : (settleOperation now id inc outcome stale).run s = .ok (u, s')) :
    ∃ os, s' = { s with operations := os } ∧
      (∃ r ∈ s.operations, r.id = id ∧ r.outcome.Live) ∧
      s.operations.Edits (Ended id outcome) os := by
  unfold settleOperation at h
  obtain ⟨n, s₁, h_op, h⟩ := run_bind_ok.mp h
  simp only [run_require_ok, Prod.mk.injEq] at h
  obtain ⟨h_one, -, rfl⟩ := h
  obtain ⟨os, rfl, ⟨r, h_r, h_id, h_pr⟩, h_os⟩ :=
    updateOperation_run h_op h_one fun r h_pr => h_pr.1.1
  refine ⟨os, rfl, ⟨r, h_r, h_id, h_pr.2⟩, h_os.mono ?_⟩
  rintro r - r' - (h_same | ⟨h_id, h_pr, rfl⟩)
  · exact .inl h_same
  · exact .inr ⟨h_id, h_pr.2, ⟨rfl, rfl, rfl⟩, rfl⟩

instance {op f h} : Keeps SameLedger (updateLastAttempt op f h) := by
  unfold updateLastAttempt
  infer_instance

theorem updateDeliveries_run {p : DeliveryRow → Prop} [DecidablePred p]
    {f : DeliveryRow → DeliveryRow} {h_key : ∀ r, (f r).rowid = r.rowid} {n : Nat}
    {e : DeliveryRow → DeliveryRow → Prop}
    (h : (updateRows Tab.deliveries p f h_key : StoreTx Nat).run s = .ok (n, s'))
    (h_p : ∀ d, p d → e d (f d)) (h_not : ∀ d, ¬ p d → e d d) :
    ∃ ds, s'.ledger = { s.ledger with deliveries := ds } ∧ s.ledger.deliveries.Edits e ds := by
  simp only [run_updateRows, Except.ok.injEq, Prod.mk.injEq] at h
  obtain ⟨-, rfl⟩ := h
  exact ⟨_, rfl, Table.edits_update h_key (fun d _ => h_p d) fun d _ => h_not d⟩

/-- The live operation `id` ends with `outcome`, and its deliveries that have not ended do so
    with `dropped`. -/
structure Ledger.Fails (id : OperationId) (outcome : OperationOutcome)
    (dropped : DeliveryOutcome) (g g' : Ledger) : Prop where
  live : ∃ r ∈ g.operations, r.id = id ∧ r.outcome.Live
  operations : g.operations.Edits (Ended id outcome) g'.operations
  deliveries : g.deliveries.Edits (Dropped id dropped) g'.deliveries
  rest : g' = { g with operations := g'.operations, deliveries := g'.deliveries }

theorem Ledger.Fails.accounted {id : OperationId} {outcome : OperationOutcome}
    {dropped : DeliveryOutcome} (h : Fails id outcome dropped s.ledger s'.ledger)
    (h_outcome : ¬ outcome.Live) (h_dropped : strict → ¬ dropped.Live) :
    Accounted strict s s' := by
  unfold Accounted
  rw [h.rest]
  exact .single (.fail h.live h_outcome h_dropped h.operations h.deliveries)

/-- A settled operation and the deliveries dropped with it fail together. -/
theorem fails_of_settle (dropped : DeliveryOutcome) {now : Millis} {id : OperationId}
    {inc : IncarnationId} {outcome : OperationOutcome} {stale : StoreError} {u : Unit}
    {s₁ s₂ s₃ : Store} {p : DeliveryRow → Prop} [DecidablePred p]
    {f : DeliveryRow → DeliveryRow} {h_key : ∀ r, (f r).rowid = r.rowid} {n : Nat}
    (h_settle : (settleOperation now id inc outcome stale).run s = .ok (u, s₁))
    (h_same : SameLedger s₁ s₂)
    (h_drop : (updateRows Tab.deliveries p f h_key : StoreTx Nat).run s₂ = .ok (n, s₃))
    (h_p : ∀ d, p d → Dropped id dropped d (f d))
    (h_not : ∀ d, ¬ p d → Dropped id dropped d d) :
    Fails id outcome dropped s.ledger s₃.ledger := by
  obtain ⟨os, rfl, h_live, h_os⟩ := settleOperation_run h_settle
  obtain ⟨ds, h_ledger, h_ds⟩ := updateDeliveries_run h_drop h_p h_not
  rw [h_same] at h_ledger h_ds
  rw [h_ledger]
  exact ⟨h_live, h_os, h_ds, rfl⟩

/-- What is unknown stays so, and the queued prompts of the incarnation may be postponed. -/
theorem markUnknownWithClearSpacing_run {now : Millis} {id : OperationId}
    {inc : IncarnationId} {evidence : String} {delay : Option Millis} {u : Unit}
    (h : (markUnknownWithClearSpacing now id inc evidence delay).run s = .ok (u, s')) :
    ∃ s₁, Fails id .unknown .unknown s.ledger s₁.ledger ∧
      (match delay with
        | some delayMs => postponeQueuedPrompts id inc delayMs
        | none => pure ()).run s₁ = .ok (u, s') := by
  unfold markUnknownWithClearSpacing at h
  obtain ⟨_, s₁, h_settle, h⟩ := run_bind_ok.mp h
  obtain ⟨_, s₂, h_last, h⟩ := run_bind_ok.mp h
  obtain ⟨_, s₃, h_inc, h⟩ := run_bind_ok.mp h
  obtain ⟨_, s₄, h_drop, h⟩ := run_bind_ok.mp h
  have h_same : SameLedger s₁ s₃ :=
    SameLedger.stepwise.trans (Keeps.keeps h_last) (Keeps.keeps h_inc)
  refine ⟨s₄, fails_of_settle .unknown h_settle h_same h_drop ?_ ?_, h⟩
  · rintro d ⟨h_op, -⟩
    exact .inr ⟨h_op, ⟨rfl, rfl, rfl, rfl, rfl, rfl⟩, .inl rfl⟩
  · intro d h_not
    by_cases h_op : d.operationId = some id
    · refine .inr ⟨h_op, .rfl, .inr ⟨fun h_live => h_not ⟨h_op, ?_⟩, rfl⟩⟩
      rcases h_live with h | h | h <;> simp [h]
    · exact .inl ⟨h_op, rfl⟩

theorem markUnknown_fails {now : Millis} {id : OperationId} {inc : IncarnationId}
    {evidence : String} {u : Unit}
    (h : (markUnknown now id inc evidence).run s = .ok (u, s')) :
    Fails id .unknown .unknown s.ledger s'.ledger := by
  obtain ⟨s₁, h_fails, h_rest⟩ := markUnknownWithClearSpacing_run h
  simp only [run_pure, Except.ok.injEq, Prod.mk.injEq] at h_rest
  exact h_rest.2 ▸ h_fails

instance {now id inc evidence delay} : Keeps (Accounted strict)
    (markUnknownWithClearSpacing now id inc evidence delay) where
  keeps h := by
    obtain ⟨s₁, h_fails, h_rest⟩ := markUnknownWithClearSpacing_run h
    refine Accounted.stepwise.trans (h_fails.accounted (by decide) fun _ => by decide) ?_
    cases delay <;> exact Keeps.keeps h_rest

instance {now id inc evidence} : Keeps (Accounted strict) (markUnknown now id inc evidence) := by
  unfold markUnknown
  infer_instance

instance {now id inc evidence delay} :
    Keeps (Accounted strict) (markClearUnknown now id inc evidence delay) := by
  unfold markClearUnknown
  infer_instance

/-- The rejected deliveries take the outcome that the caller names. -/
theorem markRejected_fails {now : Millis} {id : OperationId} {inc : IncarnationId}
    {evidence : String} {dropped : DeliveryOutcome} {u : Unit}
    (h : (markRejected now id inc evidence dropped).run s = .ok (u, s')) :
    Fails id .failed dropped s.ledger s'.ledger := by
  unfold markRejected at h
  obtain ⟨_, s₁, h_settle, h⟩ := run_bind_ok.mp h
  obtain ⟨_, s₂, h_last, h⟩ := run_bind_ok.mp h
  obtain ⟨_, s₃, h_inc, h⟩ := run_bind_ok.mp h
  obtain ⟨_, s₄, h_drop, h⟩ := run_bind_ok.mp h
  have h_same : SameLedger s₁ s₃ :=
    SameLedger.stepwise.trans (Keeps.keeps h_last) (Keeps.keeps h_inc)
  simp only [run_pure, Except.ok.injEq, Prod.mk.injEq] at h
  obtain ⟨-, rfl⟩ := h
  refine fails_of_settle dropped h_settle h_same h_drop ?_ ?_
  · rintro d ⟨h_op, -⟩
    exact .inr ⟨h_op, ⟨rfl, rfl, rfl, rfl, rfl, rfl⟩, .inl rfl⟩
  · intro d h_not
    by_cases h_op : d.operationId = some id
    · exact .inr ⟨h_op, .rfl, .inr ⟨fun h_live => h_not ⟨h_op, h_live⟩, rfl⟩⟩
    · exact .inl ⟨h_op, rfl⟩

theorem keeps_markRejected {now : Millis} {id : OperationId} {inc : IncarnationId}
    {evidence : String} {dropped : DeliveryOutcome} (h_dropped : strict → ¬ dropped.Live) :
    Keeps (Accounted strict) (markRejected now id inc evidence dropped) where
  keeps h := (markRejected_fails h).accounted (by decide) h_dropped

end Attempts

-- ============================================================================
-- Acceptance
-- ============================================================================

section Acceptance

variable {now : Millis} {id : OperationId} {inc : IncarnationId}

theorem mem_messagesOfOperation {m : MessageRow} (h : m ∈ s.messagesOfOperation id) :
    m ∈ s.messages ∧ s.ledger.Carries id m.id := by
  simp only [Store.messagesOfOperation, List.mem_filterMap, List.mem_filter,
    decide_eq_true_eq] at h
  obtain ⟨d, ⟨h_d, h_op⟩, h_m⟩ := h
  obtain ⟨h_mem, h_id⟩ := Table.find_eq_some.mp h_m
  exact ⟨h_mem, d, h_d, h_op, h_id.symm⟩

theorem finalReplyAmong_eq_some {messages : List MessageRow} {ask resolving : MessageId}
    (h : finalReplyAmong messages = some (ask, resolving)) :
    ∃ m ∈ messages, m.id = resolving ∧ m.kind = .reply ∧ m.disposition = some .final ∧
      m.replyToMessageId = some ask := by
  obtain ⟨m, h_m, h_some⟩ := List.exists_of_findSome?_eq_some h
  split at h_some
  · rename_i h_reply
    rw [Option.map_eq_some_iff] at h_some
    obtain ⟨ask', h_ask, h_eq⟩ := h_some
    cases h_eq
    exact ⟨m, h_m, rfl, h_reply.1, h_reply.2, h_ask⟩
  · cases h_some

theorem armReminder_run {u : Unit} (h : (armReminder now id).run s = .ok (u, s')) :
    ∃ t, s' = { s with obligationReminders := t } ∧
      s.obligationReminders.Edits (s.ledger.Arms id) t := by
  simp only [armReminder, run_bind_reads] at h
  split at h
  · simp only [run_pure, Except.ok.injEq, Prod.mk.injEq] at h
    exact ⟨_, h.2.symm, Table.Edits.refl (fun _ => .inl rfl) _⟩
  · rename_i ask h_ask
    simp only [run_bind_ok, run_updateRows, Except.ok.injEq, Prod.mk.injEq, run_pure] at h
    obtain ⟨_, _, ⟨-, rfl⟩, -, rfl⟩ := h
    refine ⟨_, rfl, Table.edits_update _ ?_ fun _ _ _ => .inl rfl⟩
    rintro r - ⟨h_r, h_disabled, h_suspended⟩
    have h_carries := (mem_messagesOfOperation (List.mem_of_find?_eq_some h_ask)).2
    exact .inr ⟨rfl, rfl, h_disabled, h_suspended, h_r ▸ h_carries⟩

theorem resolveObligation_run {ask resolving : MessageId} {n : Nat}
    (h : (resolveObligation now ask resolving).run s = .ok (n, s')) :
    ∃ t, s' = { s with obligations := t } ∧
      s.obligations.Edits (Resolved ask resolving) t := by
  simp only [resolveObligation, run_updateRows, Except.ok.injEq, Prod.mk.injEq] at h
  obtain ⟨-, rfl⟩ := h
  refine ⟨_, rfl, Table.edits_update _ ?_ fun _ _ _ => .inl rfl⟩
  rintro o - ⟨h_ask, h_open⟩
  exact .inr ⟨h_ask, h_open, ⟨rfl, rfl, rfl⟩, rfl, rfl⟩

theorem carries_of_edits {e : DeliveryRow → DeliveryRow → Prop} {g g' : Ledger}
    (h : g.deliveries.Edits e g'.deliveries) (h_mail : ∀ d d', e d d' → d.SameMail d')
    {messageId : MessageId} (h_carries : g'.Carries id messageId) : g.Carries id messageId := by
  obtain ⟨d', h_d', h_op, h_message⟩ := h_carries
  obtain ⟨d, h_d, h_e⟩ := h.origin d' h_d'
  have h_same := h_mail d d' h_e
  exact ⟨d, h_d, h_same.operation ▸ h_op, h_same.message ▸ h_message⟩

theorem Ledger.DeliveryAccepted.sameMail {d d' : DeliveryRow} (h : DeliveryAccepted id inc d d') :
    d.SameMail d' := by
  rcases h with ⟨-, rfl⟩ | ⟨-, -, -, h_same, -⟩
  · exact .rfl
  · exact h_same

theorem acceptDelivery_accepts {pane terminal : String} {submission : Option String} {u : Unit}
    (h : (acceptDeliveryWithSubmission now id inc pane terminal submission).run s =
      .ok (u, s')) : Accepts id inc s.ledger s'.ledger := by
  simp only [acceptDeliveryWithSubmission, run_bind_reads, run_bind_require_ok] at h
  obtain ⟨-, h⟩ := h
  obtain ⟨n, s₁, h_op, h⟩ := run_bind_ok.mp h
  simp only [run_bind_require_ok] at h
  obtain ⟨h_one, h⟩ := h
  obtain ⟨os, rfl, ⟨r, h_r, h_id, h_pr⟩, h_os⟩ :=
    updateOperation_run h_op h_one fun r h_pr => h_pr.1.1
  obtain ⟨_, s₂, h_deliver, h⟩ := run_bind_ok.mp h
  obtain ⟨_, s₃, h_last, h⟩ := run_bind_ok.mp h
  obtain ⟨_, s₄, h_arm, h⟩ := run_bind_ok.mp h
  obtain ⟨rs, rfl, h_rs⟩ := armReminder_run h_arm
  have h_operations : s.ledger.operations.Edits (Succeeded id) os := by
    refine h_os.mono ?_
    rintro r - r' - (h_same | ⟨h_id, h_pr, rfl⟩)
    · exact .inl h_same
    · exact .inr ⟨h_id, h_pr.2, ⟨rfl, rfl, rfl⟩, rfl⟩
  obtain ⟨ds, h_ledger, h_deliveries⟩ :
      ∃ ds, s₂.ledger = { s.ledger with operations := os, deliveries := ds } ∧
        s.ledger.deliveries.Edits (DeliveryAccepted id inc) ds := by
    refine updateDeliveries_run h_deliver ?_ fun d h_not => .inl ⟨h_not, rfl⟩
    rintro d ⟨h_op, h_inc, h_submitted⟩
    exact .inr ⟨h_op, h_inc, h_submitted, ⟨rfl, rfl, rfl, rfl, rfl, rfl⟩, rfl⟩
  -- The ledger before the reminder: the operation has succeeded, its delivery is settled.
  rw [← show s₃.ledger = s₂.ledger from (inferInstance : Keeps SameLedger _).keeps h_last]
    at h_ledger
  have h_carries {messageId : MessageId} (h : s₃.ledger.Carries id messageId) :
      s.ledger.Carries id messageId := by
    rw [h_ledger] at h
    exact carries_of_edits h_deliveries (fun _ _ => DeliveryAccepted.sameMail) h
  have h_reminders : s.ledger.reminders.Edits (s.ledger.Arms id) rs := by
    have h_rem : s₃.obligationReminders = s.ledger.reminders :=
      congrArg Ledger.reminders h_ledger
    rw [h_rem] at h_rs
    exact h_rs.mono fun _ _ _ _ => Or.imp_right fun h =>
      ⟨h.1, h.2.1, h.2.2.1, h.2.2.2.1, h_carries h.2.2.2.2⟩
  have h_messages : s₃.messages = s.messages := congrArg Ledger.messages h_ledger
  have h_obligations : s₃.obligations = s.obligations := congrArg Ledger.obligations h_ledger
  have h_attempts : s₃.reminderAttempts = s.reminderAttempts :=
    congrArg Ledger.attempts h_ledger
  -- What is left is the obligation that a final reply among the messages resolves.
  simp only [run_bind_reads] at h
  split at h
  · simp only [run_pure, Except.ok.injEq, Prod.mk.injEq] at h
    obtain ⟨-, rfl⟩ := h
    exact
      { operation := ⟨r, h_r, h_id, h_pr.1.2, h_pr.2⟩
        operations := (congrArg Ledger.operations h_ledger) ▸ h_operations
        deliveries := (congrArg Ledger.deliveries h_ledger) ▸ h_deliveries
        reminders := h_reminders
        obligations := by
          change s.obligations.Edits _ s₃.obligations
          rw [h_obligations]
          exact Table.Edits.refl (fun _ => .inl rfl) _
        messages := h_messages
        attempts := h_attempts }
  · rename_i ask resolving h_final
    obtain ⟨_, s₅, h_resolve, h⟩ := run_bind_ok.mp h
    obtain ⟨obs, rfl, h_obs⟩ := resolveObligation_run h_resolve
    simp only [run_require_ok, Prod.mk.injEq] at h
    obtain ⟨-, -, rfl⟩ := h
    obtain ⟨m, h_m, rfl, h_reply, h_disp, h_to⟩ := finalReplyAmong_eq_some h_final
    obtain ⟨h_mem, h_m_carries⟩ := mem_messagesOfOperation h_m
    have h_mem' : m ∈ s₃.messages := h_mem
    have h_m_carries' : s₃.ledger.Carries id m.id := h_m_carries
    rw [h_messages] at h_mem'
    exact
      { operation := ⟨r, h_r, h_id, h_pr.1.2, h_pr.2⟩
        operations := (congrArg Ledger.operations h_ledger) ▸ h_operations
        deliveries := (congrArg Ledger.deliveries h_ledger) ▸ h_deliveries
        reminders := h_reminders
        obligations := by
          have h_obs' : s₃.obligations.Edits (Resolved ask m.id) obs := h_obs
          rw [h_obligations] at h_obs'
          refine h_obs'.mono fun o _ o' _ h_resolved => ?_
          rcases h_resolved with rfl | h_resolved
          · exact .inl rfl
          · have h_ask : o.askMessageId = ask := h_resolved.1
            refine .inr ⟨m.id, ⟨m, h_mem', rfl, h_reply, h_disp, h_ask ▸ h_to⟩,
              h_carries h_m_carries', .inr ⟨rfl, h_resolved.2⟩⟩
        messages := h_messages
        attempts := h_attempts }

end Acceptance

end Kelpie
