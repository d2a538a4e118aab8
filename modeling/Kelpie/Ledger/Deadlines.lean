/-
  Kelpie.Ledger.Deadlines

  The timing of one reminder over a run: what the calls of the store may do to the
  due time, the interval and the snooze of an ask.
-/

import Kelpie.Ledger.Accounts

namespace Kelpie

open Lib Lib.Tx

-- As in `Kelpie.Store.Frames`.
set_option synthInstance.maxSize 100000

variable {s s' : Store} {ask : MessageId}

-- ============================================================================
-- What may happen to a reminder
-- ============================================================================

namespace ObligationReminderRow

variable {r r' : ObligationReminderRow}

/-- Nothing falls due earlier, and reminders come no closer together. -/
structure PutOff (r r' : ObligationReminderRow) : Prop where
  due : ∀ d ∈ r.nextDueAtMs, ∃ d' ∈ r'.nextDueAtMs, d ≤ d'
  interval : r.intervalMs ≤ r'.intervalMs

/-- The snooze stays. -/
def SameSnooze (r r' : ObligationReminderRow) : Prop := r'.snoozedUntilMs = r.snoozedUntilMs

/-- The reminder is put off, and its snooze stays. -/
structure Retimed (r r' : ObligationReminderRow) : Prop where
  putOff : r.PutOff r'
  snoozed : r.SameSnooze r'

instance : Stepwise PutOff where
  refl r := ⟨fun d h_d => ⟨d, h_d, le_refl d⟩, le_refl r.intervalMs⟩
  trans {a b c} h_ab h_bc := by
    refine ⟨fun d h_d => ?_, h_ab.interval.trans h_bc.interval⟩
    obtain ⟨d', h_d', h_le⟩ := h_ab.due d h_d
    obtain ⟨d'', h_d'', h_le'⟩ := h_bc.due d' h_d'
    exact ⟨d'', h_d'', h_le.trans h_le'⟩

instance : Stepwise SameSnooze where
  refl _ := rfl
  trans h_ab h_bc := h_bc.trans h_ab

instance : Stepwise Retimed where
  refl r := ⟨Stepwise.refl r, rfl⟩
  trans h_ab h_bc :=
    ⟨Stepwise.trans h_ab.putOff h_bc.putOff, h_bc.snoozed.trans h_ab.snoozed⟩

/-- A change that leaves the timing alone. -/
theorem Retimed.of_same (h_due : r'.nextDueAtMs = r.nextDueAtMs)
    (h_interval : r'.intervalMs = r.intervalMs)
    (h_snoozed : r'.snoozedUntilMs = r.snoozedUntilMs) : r.Retimed r' := by
  refine ⟨⟨fun d h_d => ⟨d, ?_, le_refl d⟩, h_interval.ge⟩, h_snoozed⟩
  rw [h_due]
  exact h_d

/-- A due time that takes the later of the old one and another. -/
theorem Retimed.of_max {due : Millis}
    (h_due : r'.nextDueAtMs = some (max (r.nextDueAtMs.getD 0) due))
    (h_interval : r'.intervalMs = r.intervalMs)
    (h_snoozed : r'.snoozedUntilMs = r.snoozedUntilMs) : r.Retimed r' := by
  refine ⟨⟨fun d h_d => ?_, h_interval.ge⟩, h_snoozed⟩
  rw [Option.mem_def] at h_d
  refine ⟨_, h_due, ?_⟩
  rw [h_d]
  exact le_max_left d due

end ObligationReminderRow

open ObligationReminderRow (PutOff SameSnooze Retimed)

-- ============================================================================
-- Frames
-- ============================================================================

/-- The reminder of `ask` stays, and what happens to it is `e`. -/
def Retimes (e : ObligationReminderRow → ObligationReminderRow → Prop) (ask : MessageId)
    (s s' : Store) : Prop :=
  ∀ r ∈ s.obligationReminders, r.askMessageId = ask →
    ∃ r' ∈ s'.obligationReminders, r'.askMessageId = ask ∧ e r r'

section Frames

variable {e : ObligationReminderRow → ObligationReminderRow → Prop}

theorem Retimes.mono {e' : ObligationReminderRow → ObligationReminderRow → Prop}
    (h : Retimes e ask s s') (h_le : ∀ r r', e r r' → e' r r') : Retimes e' ask s s' := by
  intro r h_r h_ask
  obtain ⟨r', h_r', h_ask', h_e⟩ := h r h_r h_ask
  exact ⟨r', h_r', h_ask', h_le r r' h_e⟩

variable [he : Stepwise e]

instance Retimes.stepwise : Stepwise (Retimes e ask) where
  refl s r h_r h_ask := ⟨r, h_r, h_ask, he.refl r⟩
  trans h_ab h_bc r h_r h_ask := by
    obtain ⟨r', h_r', h_ask', h_e⟩ := h_ab r h_r h_ask
    obtain ⟨r'', h_r'', h_ask'', h_e'⟩ := h_bc r' h_r' h_ask'
    exact ⟨r'', h_r'', h_ask'', he.trans h_e h_e'⟩

theorem Retimes.of_eq (h : s'.obligationReminders = s.obligationReminders) :
    Retimes e ask s s' := by
  intro r h_r h_ask
  rw [h]
  exact ⟨r, h_r, h_ask, he.refl r⟩

instance : Ignores (Retimes e ask) Tab.logicalAgents := ⟨fun _ _ => .of_eq rfl⟩
instance : Ignores (Retimes e ask) Tab.incarnations := ⟨fun _ _ => .of_eq rfl⟩
instance : Ignores (Retimes e ask) Tab.operations := ⟨fun _ _ => .of_eq rfl⟩
instance : Ignores (Retimes e ask) Tab.operationAttempts := ⟨fun _ _ => .of_eq rfl⟩
instance : Ignores (Retimes e ask) Tab.operatorNotices := ⟨fun _ _ => .of_eq rfl⟩
instance : Ignores (Retimes e ask) Tab.messages := ⟨fun _ _ => .of_eq rfl⟩
instance : Ignores (Retimes e ask) Tab.obligations := ⟨fun _ _ => .of_eq rfl⟩
instance : Ignores (Retimes e ask) Tab.deliveries := ⟨fun _ _ => .of_eq rfl⟩
instance : Ignores (Retimes e ask) Tab.reminderAttempts := ⟨fun _ _ => .of_eq rfl⟩
instance : Ignores (Retimes e ask) Tab.schedules := ⟨fun _ _ => .of_eq rfl⟩
instance : Ignores (Retimes e ask) Tab.renews := ⟨fun _ _ => .of_eq rfl⟩
instance : Ignores (Retimes e ask) Tab.renewAttempts := ⟨fun _ _ => .of_eq rfl⟩
instance : Ignores (Retimes e ask) Tab.socketWaiterKeys := ⟨fun _ _ => .of_eq rfl⟩
instance : Ignores (Retimes e ask) Tab.socketInboxKeys := ⟨fun _ _ => .of_eq rfl⟩
instance : Ignores (Retimes e ask) Tab.scheduleFirings := ⟨fun _ _ => .of_eq rfl⟩
instance : Ignores (Retimes e ask) Tab.askPullLeases := ⟨fun _ _ => .of_eq rfl⟩
instance : Ignores (Retimes e ask) Tab.askPullKeys := ⟨fun _ _ => .of_eq rfl⟩
instance : IgnoresCounters (Retimes e ask) :=
  ⟨fun _ _ => .of_eq rfl, fun _ _ => .of_eq rfl, fun _ _ => .of_eq rfl⟩

theorem keeps_retime {p : ObligationReminderRow → Prop} [DecidablePred p]
    {f : ObligationReminderRow → ObligationReminderRow}
    {h_key : ∀ r, (f r).askMessageId = r.askMessageId}
    (h : ∀ r, r.askMessageId = ask → p r → e r (f r)) :
    Keeps (Retimes e ask) (updateRows Tab.obligationReminders p f h_key : StoreTx Nat) :=
  .updateRows fun s r h_r h_ask => by
    change ∃ r' ∈ s.obligationReminders.update p f h_key, _
    by_cases h_p : p r
    · exact ⟨f r, Table.mem_update_of h_r h_p, (h_key r).trans h_ask, h r h_ask h_p⟩
    · exact ⟨r, Table.mem_update_of_not h_r h_p, h_ask, he.refl r⟩

/-- A new reminder is no other ask's. -/
instance {ask' interval} : Keeps (Retimes e ask) (insertReminder ask' interval) := by
  unfold insertReminder
  refine @Keeps.bind _ _ _ _ _ _ _ _ inferInstance fun _ => ?_
  apply Keeps.insertRow
  intro s t h_t r h_r h_ask
  exact ⟨r, ((Table.insert?_eq_some h_t).2 r).mpr (.inl h_r), h_ask, he.refl r⟩

end Frames

-- ============================================================================
-- Calls
-- ============================================================================

section Calls

instance {now recipient inc intent key} :
    Keeps (Retimes Retimed ask) (createInitialMessage now recipient inc intent key) where
  keeps {s a s'} h := by
    simp only [createInitialMessage, run_bind_reads, run_bind_require_ok] at h
    obtain ⟨-, -, -, -, -, h⟩ := h
    obtain ⟨_, s₁, h_message, h⟩ := run_bind_ok.mp h
    refine Stepwise.trans (Keeps.keeps h_message) ?_
    split at h <;> exact Keeps.keeps h

instance {now sender recipient inc body key due remind attributed delivery} :
    Keeps (Retimes Retimed ask) (createAskWithReplyDelivery now sender recipient inc body key due
      remind attributed delivery) := by
  unfold createAskWithReplyDelivery
  refine @Keeps.bind _ _ _ _ _ _ _ _ inferInstance fun _ => ?_
  refine @Keeps.bind _ _ _ _ _ _ _ _ inferInstance fun replay => ?_
  cases replay with
  | some replay => infer_instance
  | none => cases remind <;> infer_instance

instance {now ask'} : Keeps (Retimes Retimed ask) (refreshReminderActivity now ask') := by
  have h_update (p : ObligationReminderRow → Prop) [DecidablePred p] {h_key} :
      Keeps (Retimes Retimed ask) (updateRows Tab.obligationReminders p
        (fun r => { r with
          nextDueAtMs := some (max (r.nextDueAtMs.getD 0) (sqlAdd now r.intervalMs)) })
        h_key : StoreTx Nat) := keeps_retime fun _ _ _ => .of_max rfl rfl rfl
  unfold refreshReminderActivity
  infer_instance

instance {now ask' disposition} :
    Keeps (Retimes Retimed ask) (applyReplyObligationActivity now ask' disposition) := by
  unfold applyReplyObligationActivity
  cases disposition <;> infer_instance

instance {now replyTo requester body disposition key due} : Keeps (Retimes Retimed ask)
    (recordNewReply now replyTo requester body disposition key due) := by
  unfold recordNewReply
  infer_instance

instance {now replyTo requester body disposition key due} : Keeps (Retimes Retimed ask)
    (createReplyWithDue now replyTo requester body disposition key due) :=
  keeps_createReplyWithDue

instance {ask' sawWorking next} :
    Keeps (Retimes Retimed ask) (observeReminderLifecycle ask' sawWorking next) := by
  have h_update (p : ObligationReminderRow → Prop) [DecidablePred p] {h_key} :
      Keeps (Retimes Retimed ask) (updateRows Tab.obligationReminders p
        (fun r => { r with
          boundaryCheckAtMs := some next,
          sawWorkingAtMs :=
            if sawWorking then r.sawWorkingAtMs.or (some next) else r.sawWorkingAtMs })
        h_key : StoreTx Nat) := keeps_retime fun _ _ _ => .of_same rfl rfl rfl
  unfold observeReminderLifecycle
  infer_instance

theorem keeps_suspend {now : Millis} {p : ObligationReminderRow → Prop} [DecidablePred p]
    {h_key : ∀ r : ObligationReminderRow,
      { r with suspendedAtMs := some now }.askMessageId = r.askMessageId} :
    Keeps (Retimes Retimed ask) (updateRows Tab.obligationReminders p
      (fun r => { r with suspendedAtMs := some now }) h_key : StoreTx Nat) :=
  keeps_retime fun _ _ _ => .of_same rfl rfl rfl

instance {request outcome evidence nowMs} :
    Keeps (Retimes Retimed ask) (resolveReminderAttempt request outcome evidence nowMs) := by
  have h_advance (p : ObligationReminderRow → Prop) [DecidablePred p] {h_key} :
      Keeps (Retimes Retimed ask) (updateRows Tab.obligationReminders p
        (fun r => { r with
          nextDueAtMs := some (max (r.nextDueAtMs.getD 0) (sqlAdd nowMs r.intervalMs)),
          lastAcceptedAtMs := if outcome = .accepted then some nowMs else r.lastAcceptedAtMs,
          boundaryCheckAtMs := none })
        h_key : StoreTx Nat) := keeps_retime fun _ _ _ => .of_max rfl rfl rfl
  have h_suspend := @keeps_suspend ask nowMs
  unfold resolveReminderAttempt
  infer_instance

instance {ask' nowMs recheck} :
    Keeps (Retimes Retimed ask) (deferBusyReminder ask' nowMs recheck) := by
  have h_update (p : ObligationReminderRow → Prop) [DecidablePred p] {h_key} :
      Keeps (Retimes Retimed ask) (updateRows Tab.obligationReminders p
        (fun r => { r with nextDueAtMs := r.nextDueAtMs.map (max · (sqlAdd nowMs recheck)) })
        h_key : StoreTx Nat) := by
    refine keeps_retime fun r _ _ => ⟨⟨fun d h_d => ?_, le_refl _⟩, rfl⟩
    refine ⟨max d (sqlAdd nowMs recheck), ?_, ?_⟩
    · exact Option.mem_map_of_mem _ h_d
    · exact le_max_left d _
  unfold deferBusyReminder
  infer_instance

instance {now} : Keeps (Retimes Retimed ask) (reconcileReminderAttempts now) := by
  have h_suspend := @keeps_suspend ask now
  unfold reconcileReminderAttempts
  infer_instance

theorem keeps_changeReminder_retime {e : ObligationReminderRow → ObligationReminderRow → Prop}
    [Stepwise e] {requester : LogicalAgentId} {ask' : MessageId}
    {p : ObligationReminderRow → Prop} [DecidablePred p]
    {f : ObligationReminderRow → ObligationReminderRow}
    {h_key : ∀ r, (f r).askMessageId = r.askMessageId} {refusal : String}
    (h : ∀ r, p r → e r (f r)) :
    Keeps (Retimes e ask) (changeReminder requester ask' p f h_key refusal) := by
  have h_update (s : Store) : Keeps (Retimes e ask) (updateRows Tab.obligationReminders
      (fun r => r.askMessageId = ask' ∧ r.disabledAtMs = none ∧ p r ∧
        s.OwesAsk requester ask')
      f h_key : StoreTx Nat) := keeps_retime fun r _ h_r => h r h_r.2.2.1
  unfold changeReminder
  infer_instance

instance {now requester ask' every} :
    Keeps (Retimes Retimed ask) (increaseReminderInterval now requester ask' every) := by
  unfold increaseReminderInterval
  refine @Keeps.bind _ _ _ _ _ _ _ _ inferInstance fun _ => ?_
  refine keeps_changeReminder_retime fun r h_le => ⟨⟨fun d h_d => ?_, h_le⟩, rfl⟩
  refine ⟨_, Option.mem_map_of_mem _ h_d, ?_⟩
  split
  · exact (le_max_left d _).trans (le_max_left _ _)
  · exact le_refl d

instance {now requester ask'} :
    Keeps (Retimes Retimed ask) (disableReminder now requester ask') := by
  unfold disableReminder
  exact keeps_changeReminder_retime fun _ _ => .of_same rfl rfl rfl

/-- A snooze is no change of the due time or of the interval. -/
instance {now requester ask' untilMs} :
    Keeps (Retimes PutOff ask) (snoozeReminder now requester ask' untilMs) := by
  unfold snoozeReminder
  refine @Keeps.bind _ _ _ _ _ _ _ _ inferInstance fun _ => ?_
  exact keeps_changeReminder_retime fun r _ => ⟨fun d h_d => ⟨d, h_d, le_refl d⟩, le_refl _⟩

/-- An acceptance arms the reminder anew, and leaves its snooze. -/
instance {now op} : Keeps (Retimes SameSnooze ask) (armReminder now op) := by
  have h_update (p : ObligationReminderRow → Prop) [DecidablePred p] {h_key} :
      Keeps (Retimes SameSnooze ask) (updateRows Tab.obligationReminders p
        (fun r => { r with
          nextDueAtMs := some (sqlAdd now r.intervalMs), boundaryCheckAtMs := some now })
        h_key : StoreTx Nat) := keeps_retime fun _ _ _ => rfl
  unfold armReminder
  refine @Keeps.bind _ _ _ _ _ _ _ _ inferInstance fun messages => ?_
  split <;> infer_instance

instance {now op inc pane terminal submission} : Keeps (Retimes SameSnooze ask)
    (acceptDeliveryWithSubmission now op inc pane terminal submission) := by
  have h_resolve (messages : List MessageRow) : Keeps (Retimes SameSnooze ask)
      (match finalReplyAmong messages with
      | none => (Pure.pure () : StoreTx Unit)
      | some (ask, resolving) => do
        let resolved ← resolveObligation now ask resolving
        require (resolved = 1) (.conflict
          "final delivery acceptance cannot resolve a terminal or absent obligation")) := by
    split <;> infer_instance
  unfold acceptDeliveryWithSubmission
  infer_instance

end Calls

-- ============================================================================
-- Steps
-- ============================================================================

/-- The call accepts a delivery of the ask itself. -/
def Call.AcceptsAsk (c : Call) (ask : MessageId) (s : Store) : Prop :=
  match c with
  | .acceptDelivery _ op _ _ _ _ => s.ledger.Carries op ask
  | _ => False

instance (g : Ledger) (op : OperationId) (message : MessageId) :
    Decidable (g.Carries op message) :=
  inferInstanceAs (Decidable (∃ d ∈ g.deliveries.rows,
    d.operationId = some op ∧ d.messageId = message))

instance (c : Call) (ask : MessageId) (s : Store) : Decidable (c.AcceptsAsk ask s) := by
  apply Call.casesOn (motive := fun c => Decidable (c.AcceptsAsk ask s)) c <;>
    intros <;>
    dsimp only [Call.AcceptsAsk] <;>
    infer_instance

/-- The call snoozes the reminder of the ask. -/
def Call.Snoozes (c : Call) (ask : MessageId) : Prop :=
  ∃ now requester untilMs, c = .snoozeReminder now requester ask untilMs

/-- A change of another ask's reminder leaves this one as it is. -/
theorem changeReminder_retimes {e : ObligationReminderRow → ObligationReminderRow → Prop}
    [he : Stepwise e] {requester : LogicalAgentId} {ask' : MessageId}
    {p : ObligationReminderRow → Prop} [DecidablePred p]
    {f : ObligationReminderRow → ObligationReminderRow}
    {h_key : ∀ r, (f r).askMessageId = r.askMessageId} {refusal : String} (h_ask : ask ≠ ask') :
    Keeps (Retimes e ask) (changeReminder requester ask' p f h_key refusal) := by
  have h_update (s : Store) : Keeps (Retimes e ask) (updateRows Tab.obligationReminders
      (fun r => r.askMessageId = ask' ∧ r.disabledAtMs = none ∧ p r ∧
        s.OwesAsk requester ask')
      f h_key : StoreTx Nat) :=
    keeps_retime fun r h_r h_p => absurd (h_r.symm.trans h_p.1) h_ask
  unfold changeReminder
  infer_instance

/-- An acceptance touches no reminder but that of an ask it delivers. -/
theorem acceptDelivery_retimes {now : Millis} {op : OperationId} {inc : IncarnationId}
    {pane terminal : String} {submission : Option String} {u : Unit}
    (h : (acceptDeliveryWithSubmission now op inc pane terminal submission).run s =
      .ok (u, s')) (h_ask : ¬ s.ledger.Carries op ask) : Retimes Retimed ask s s' := by
  intro r h_r h_r_ask
  obtain ⟨r', h_r', h_e⟩ := (acceptDelivery_accepts h).reminders.image r h_r
  rcases h_e with h_same | ⟨-, -, -, -, h_carries⟩
  · rw [h_same] at h_r'
    exact ⟨r, h_r', h_r_ask, Stepwise.refl r⟩
  · rw [h_r_ask] at h_carries
    exact absurd h_carries h_ask

/-- No call but an acceptance of the ask and a snooze does more than put its reminder off. -/
theorem Call.retimes (c : Call) (h : c.Step s s') (h_accept : ¬ c.AcceptsAsk ask s)
    (h_snooze : ¬ c.Snoozes ask) : Retimes Retimed ask s s' := by
  cases c with
  | acceptDelivery now op inc pane terminal submission =>
    obtain ⟨_, h_run⟩ := commit_ok.mp h
    exact acceptDelivery_retimes h_run h_accept
  | snoozeReminder now requester ask' untilMs =>
    have h_ask : ask ≠ ask' := by
      rintro rfl
      exact h_snooze ⟨now, requester, untilMs, rfl⟩
    have h_change {p} [DecidablePred p] {f h_key refusal} :
        Keeps (Retimes Retimed ask) (changeReminder requester ask' p f h_key refusal) :=
      changeReminder_retimes h_ask
    have h_keeps :
        Keeps (Retimes Retimed ask) (Kelpie.snoozeReminder now requester ask' untilMs) := by
      unfold Kelpie.snoozeReminder
      infer_instance
    exact h_keeps.commit h
  | _ => exact Keeps.commit h

/-- The due time and the interval of a reminder never decrease, unless the ask is accepted. -/
theorem Call.putsOff (c : Call) (h : c.Step s s') (h_accept : ¬ c.AcceptsAsk ask s) :
    Retimes PutOff ask s s' := by
  by_cases h_snooze : c.Snoozes ask
  · obtain ⟨now, requester, untilMs, rfl⟩ := h_snooze
    exact Keeps.commit h
  · exact (c.retimes h h_accept h_snooze).mono fun _ _ h_e => h_e.putOff

/-- Only a snooze changes the snooze of a reminder. -/
theorem Call.sameSnooze (c : Call) (h : c.Step s s') (h_snooze : ¬ c.Snoozes ask) :
    Retimes SameSnooze ask s s' := by
  by_cases h_accept : c.AcceptsAsk ask s
  · unfold Call.AcceptsAsk at h_accept
    split at h_accept
    · exact Keeps.commit h
    · exact h_accept.elim
  · exact (c.retimes h h_accept h_snooze).mono fun _ _ h_e => h_e.snoozed

/-- The policy of a reminder: everything that its owing agent and an ambiguous attempt set. -/
structure ObligationReminderRow.SamePolicy (r r' : ObligationReminderRow) : Prop where
  interval : r'.intervalMs = r.intervalMs
  snoozed : r'.snoozedUntilMs = r.snoozedUntilMs
  disabled : r'.disabledAtMs = r.disabledAtMs
  suspended : r'.suspendedAtMs = r.suspendedAtMs

instance : Stepwise ObligationReminderRow.SamePolicy where
  refl _ := ⟨rfl, rfl, rfl, rfl⟩
  trans h_ab h_bc :=
    ⟨h_bc.interval.trans h_ab.interval, h_bc.snoozed.trans h_ab.snoozed,
      h_bc.disabled.trans h_ab.disabled, h_bc.suspended.trans h_ab.suspended⟩

/-- An attempt that ends accepted or rejected leaves the policy that it finds. -/
theorem resolveReminderAttempt_samePolicy {request : String} {outcome : ReminderOutcome}
    {evidence : Option String} {nowMs : Millis} (h_outcome : outcome ≠ .unknown) :
    Keeps (Retimes ObligationReminderRow.SamePolicy ask)
      (resolveReminderAttempt request outcome evidence nowMs) := by
  have h_advance (p : ObligationReminderRow → Prop) [DecidablePred p] {h_key} :
      Keeps (Retimes ObligationReminderRow.SamePolicy ask) (updateRows Tab.obligationReminders p
        (fun r => { r with
          nextDueAtMs := some (max (r.nextDueAtMs.getD 0) (sqlAdd nowMs r.intervalMs)),
          lastAcceptedAtMs := if outcome = .accepted then some nowMs else r.lastAcceptedAtMs,
          boundaryCheckAtMs := none })
        h_key : StoreTx Nat) := keeps_retime fun _ _ _ => ⟨rfl, rfl, rfl, rfl⟩
  unfold resolveReminderAttempt
  simp only [if_neg h_outcome]
  infer_instance

/-- What a committed increase finds and leaves. -/
theorem increaseReminderInterval_run {now : Millis} {requester : LogicalAgentId}
    {every : Millis} {u : Unit}
    (h : (increaseReminderInterval now requester ask every).run s = .ok (u, s')) :
    ∃ r ∈ s.obligationReminders, r.askMessageId = ask ∧ r.intervalMs ≤ every ∧
      { r with
        nextDueAtMs := r.nextDueAtMs.map fun due =>
          if r.intervalMs < every then
            max (max due (r.snoozedUntilMs.getD 0)) (now + every)
          else due,
        intervalMs := every } ∈ s'.obligationReminders := by
  simp only [increaseReminderInterval, changeReminder, run_bind_require_ok, run_bind_reads] at h
  obtain ⟨-, h⟩ := h
  obtain ⟨n, s₁, h_update, h⟩ := run_bind_ok.mp h
  simp only [run_require_ok, Prod.mk.injEq] at h
  obtain ⟨h_one, -, rfl⟩ := h
  obtain ⟨t, rfl, r, h_r, ⟨h_ask, -, h_le, -⟩, h_t⟩ :=
    run_updateRows_pos h_update (by omega)
  exact ⟨r, h_r, h_ask, h_le, h_t⟩

theorem Store.reminderInfo_eq {r : ObligationReminderRow} {i : ReminderInfo}
    (h_r : r ∈ s.obligationReminders) (h_ask : r.askMessageId = ask)
    (h : s.reminderInfo ask = some i) :
    ∀ e ∈ i.nextEligibleAtMs, ∃ due ∈ r.nextDueAtMs,
      e = max due (r.snoozedUntilMs.getD 0) := by
  obtain ⟨r', h_find, h⟩ := Option.bind_eq_some_iff.mp h
  obtain ⟨o, -, h⟩ := Option.bind_eq_some_iff.mp h
  obtain rfl : r' = r := by
    obtain ⟨h_r', h_ask'⟩ := Table.find_eq_some.mp h_find
    exact Table.eq_of_key h_r' h_r (h_ask'.trans h_ask.symm)
  cases h
  intro e h_e
  dsimp only at h_e
  split at h_e
  · obtain ⟨due, h_due, rfl⟩ := Option.map_eq_some_iff.mp h_e
    exact ⟨due, h_due, rfl⟩
  · cases h_e

/-- A longer interval starts from now; an equal one changes nothing. -/
theorem Call.increase_eligible {now : Millis} {requester : LogicalAgentId} {every : Millis}
    (h : (Call.increaseReminderInterval now requester ask every).Step s s') :
    ∃ r ∈ s.obligationReminders, r.askMessageId = ask ∧
      ∃ r' ∈ s'.obligationReminders, r'.askMessageId = ask ∧ r'.intervalMs = every ∧
        ((r.intervalMs = every ∧ r' = r) ∨
          (r.intervalMs < every ∧
            ∀ i ∈ s'.reminderInfo ask, ∀ e ∈ i.nextEligibleAtMs, now + every ≤ e)) := by
  obtain ⟨_, h_run⟩ := commit_ok.mp h
  obtain ⟨r, h_r, h_ask, h_le, h_r'⟩ := increaseReminderInterval_run h_run
  refine ⟨r, h_r, h_ask, _, h_r', h_ask, rfl, ?_⟩
  rcases Int.lt_or_eq_of_le h_le with h_lt | h_eq
  · refine .inr ⟨h_lt, fun i h_i e h_e => ?_⟩
    obtain ⟨due, h_due, rfl⟩ := Store.reminderInfo_eq h_r' h_ask h_i e h_e
    obtain ⟨due₀, -, rfl⟩ := Option.map_eq_some_iff.mp h_due
    rw [if_pos h_lt]
    exact (le_max_right _ _).trans (le_max_left _ _)
  · refine .inl ⟨h_eq, ?_⟩
    subst h_eq
    simp

-- ============================================================================
-- Runs
-- ============================================================================

/-- Reminder deadlines only move later: until the ask is accepted anew, no run brings its reminder
    forward, and only a snooze touches the snooze.  A longer interval puts the next reminder off
    by at least as much, and an equal one changes nothing; an attempt that is resolved leaves the
    policy of the reminder as it is, unless nobody knows what became of it. -/
theorem reminder_deadlines (ask : MessageId) :
    (∀ s s', StoreRun (fun c t => ¬ c.AcceptsAsk ask t) s s' →
      Retimes ObligationReminderRow.PutOff ask s s') ∧
    (∀ c s s', Call.Step c s s' → ¬ c.Snoozes ask →
      Retimes ObligationReminderRow.SameSnooze ask s s') ∧
    (∀ now requester every s s',
      (Call.increaseReminderInterval now requester ask every).Step s s' →
      ∃ r ∈ s.obligationReminders, r.askMessageId = ask ∧
        ∃ r' ∈ s'.obligationReminders, r'.askMessageId = ask ∧ r'.intervalMs = every ∧
          ((r.intervalMs = every ∧ r' = r) ∨
            (r.intervalMs < every ∧
              ∀ i ∈ s'.reminderInfo ask, ∀ e ∈ i.nextEligibleAtMs, now + every ≤ e))) ∧
    (∀ request outcome evidence nowMs s s', outcome ≠ .unknown →
      (Call.resolveReminderAttempt request outcome evidence nowMs).Step s s' →
      Retimes ObligationReminderRow.SamePolicy ask s s') := by
  refine ⟨fun s s' h => ?_, fun c s s' h h_snooze => ?_, fun now requester every s s' h => ?_,
    fun request outcome evidence nowMs s s' h_outcome h => ?_⟩
  · exact h.relates fun c a b h_accept h_step => c.putsOff h_step h_accept
  · exact c.sameSnooze h h_snooze
  · exact Call.increase_eligible h
  · exact (resolveReminderAttempt_samePolicy h_outcome).commit h

/-- From an accepted ask: progress, a snooze, a longer interval and an attempt. -/
theorem reminder_deadlines_remindedRun : ∃ s s',
    (∃ r ∈ s.obligationReminders.rows, r.askMessageId = 1 ∧ r.nextDueAtMs = some 1004) ∧
    (∃ r ∈ s'.obligationReminders.rows, r.askMessageId = 1 ∧ r.nextDueAtMs = some 7020) ∧
    Retimes ObligationReminderRow.PutOff 1 s s' := by
  have h : Leads (fun _ _ => True)
      (fun s => (∃ r ∈ s.obligationReminders.rows,
          r.askMessageId = 1 ∧ r.nextDueAtMs = some 1004) ∧
        Leads (fun c t => ¬ c.AcceptsAsk 1 t)
          (fun s => ∃ r ∈ s.obligationReminders.rows,
            r.askMessageId = 1 ∧ r.nextDueAtMs = some 7020)
          [.createReply 5 1 2 "Looking." .progress "k4" none, .snoozeReminder 6 2 1 900,
            .prepareReminderAttempt ⟨1, 2, 1, 2, 1000⟩ "r2" 2000, .submitReminderAttempt "r2",
            .increaseReminderInterval 2010 2 1 5000,
            .resolveReminderAttempt "r2" .accepted none 2020] s)
      (remindedRun ++ submitting 3 3 2 "r1" ++ [.acceptDelivery 4 3 2 "w1:p2" "t2" none])
      Store.empty := by decide +kernel
  obtain ⟨s, -, h_s, h⟩ := h.run
  obtain ⟨s', h_run, h_s'⟩ := h.run
  exact ⟨s, s', h_s, h_s', (reminder_deadlines 1).1 s s' h_run⟩

/-- An interval that is increased to what it was leaves the next reminder before a full
    interval from now. -/
theorem eligible_before_equal_interval : ∃ s s', Reachable (fun _ _ => True) s ∧
    (Call.increaseReminderInterval 500 2 1 1000).Step s s' ∧
    ∃ i ∈ s'.reminderInfo 1, ∃ e ∈ i.nextEligibleAtMs, e < 500 + 1000 := by
  have h : Leads (fun _ _ => True)
      (fun s => ∃ s' ∈ ((Call.increaseReminderInterval 500 2 1 1000).commit s).toOption,
        ∃ i ∈ s'.reminderInfo 1, ∃ e ∈ i.nextEligibleAtMs, e < 500 + 1000)
      (remindedRun ++ submitting 3 3 2 "r1" ++ [.acceptDelivery 4 3 2 "w1:p2" "t2" none])
      Store.empty := by decide +kernel
  obtain ⟨s, h_run, s', h_s', h_info⟩ := h.run
  refine ⟨s, s', h_run, ?_, h_info⟩
  unfold Call.Step
  cases h_commit : (Call.increaseReminderInterval 500 2 1 1000).commit s with
  | error e => simp [h_commit, Except.toOption] at h_s'
  | ok t =>
    simp only [h_commit, Except.toOption, Option.mem_def, Option.some.injEq] at h_s'
    rw [h_s']

end Kelpie
