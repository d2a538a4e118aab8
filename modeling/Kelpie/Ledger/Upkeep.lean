/-
  Kelpie.Ledger.Upkeep

  The accounts of the calls that look after a running store: reminders, renews,
  schedules, clears and recovery.
-/

import Kelpie.Ledger.Settlement

namespace Kelpie

open Lib Lib.Tx Ledger

-- As in `Kelpie.Store.Frames`.
set_option synthInstance.maxSize 100000

variable {strict : Prop} {s s' : Store}

-- ============================================================================
-- Reminders
-- ============================================================================

section Reminders

instance {ask sawWorking next} :
    Keeps (Accounted strict) (observeReminderLifecycle ask sawWorking next) := by
  have h_update (p : ObligationReminderRow → Prop) [DecidablePred p] {h_key} :
      Keeps (Accounted strict) (updateRows Tab.obligationReminders p
        (fun r => { r with
          boundaryCheckAtMs := some next,
          sawWorkingAtMs :=
            if sawWorking then r.sawWorkingAtMs.or (some next) else r.sawWorkingAtMs })
        h_key : StoreTx Nat) := keeps_updateReminders fun _ => Iff.rfl
  unfold observeReminderLifecycle
  infer_instance

theorem ObligationReminderRow.DueAt.armed {r : ObligationReminderRow} {nowMs : Millis}
    (h : r.DueAt nowMs) : r.Armed := by
  obtain ⟨due, h_due, -⟩ := h
  rw [Option.mem_def] at h_due
  simp [ObligationReminderRow.Armed, h_due]

/-- An attempt is made only of a reminder that is due, and so is armed. -/
instance {reminder request nowMs} :
    Keeps (Accounted strict) (prepareReminderAttempt reminder request nowMs) where
  keeps {s a s'} h := by
    simp only [prepareReminderAttempt, run_bind_reads, run_bind_require_ok] at h
    obtain ⟨⟨r, h_r, -, h_due, -⟩, -, h⟩ := h
    obtain ⟨_, s₁, h_seq, h⟩ := run_bind_ok.mp h
    cases h_seq
    simp only [run_insertRow_ok, Prod.mk.injEq] at h
    obtain ⟨t, h_t, -, rfl⟩ := h
    obtain ⟨h_mem, h_ask⟩ := Table.find_eq_some.mp h_r
    refine .single (.attempt fun a h_a => ?_)
    rcases ((Table.insert?_eq_some h_t).2 a).mp h_a with h_old | rfl
    · exact .inl ⟨a, h_old, rfl⟩
    · exact .inr ⟨r, h_mem, h_ask, h_due.armed⟩

instance {request} : Keeps (Accounted strict) (submitReminderAttempt request) := by
  have h_update {h_key} : Keeps (Accounted strict) (updateRows Tab.reminderAttempts
      (fun a => a.requestId = request ∧ a.phase = .prepared)
      (fun a => { a with phase := .submitted }) h_key : StoreTx Nat) :=
    keeps_updateAttempts fun _ => rfl
  unfold submitReminderAttempt
  infer_instance

/-- The reminder that a resolved attempt advances is the one the attempt was made of. -/
instance {request outcome evidence nowMs} :
    Keeps (Accounted strict) (resolveReminderAttempt request outcome evidence nowMs) where
  keeps {s a s'} h := by
    simp only [resolveReminderAttempt, run_bind_reads, run_bind_orFail_ok] at h
    obtain ⟨attempt, h_find, h⟩ := h
    have h_attempt : attempt ∈ s.reminderAttempts := List.mem_of_find?_eq_some h_find
    obtain ⟨_, s₁, h_resolve, h⟩ := run_bind_ok.mp h
    have h_resolved : Accounted strict s s₁ :=
      (keeps_updateAttempts (by intro _; rfl)).keeps h_resolve
    refine h_resolved.trans ?_
    split at h
    · obtain ⟨_, s₂, h_suspend, h⟩ := run_bind_ok.mp h
      cases h
      exact (keeps_updateReminders (by intro _; rfl)).keeps h_suspend
    · obtain ⟨_, s₂, h_advance, h⟩ := run_bind_ok.mp h
      cases h
      obtain ⟨t, rfl, h_t⟩ := run_updateRows_edits
        (fun a a' : ReminderAttemptRow => a'.askMessageId = a.askMessageId) h_resolve
        (fun _ _ _ => rfl) fun _ _ _ => rfl
      obtain ⟨attempt', h_attempt', h_same⟩ := h_t.image attempt h_attempt
      obtain ⟨rs, rfl, h_rs⟩ := run_updateRows_edits
        (Ledger.Reminded (Tab.reminderAttempts.put t s).ledger) h_advance
        (fun r _ h_ask => ⟨rfl, fun _ => rfl, fun _ =>
          .inr ⟨attempt', h_attempt', h_same.trans h_ask.symm⟩⟩)
        fun _ _ _ => ⟨rfl, id, .inl⟩
      exact .single (.remind h_rs)

instance {ask nowMs recheck} :
    Keeps (Accounted strict) (deferBusyReminder ask nowMs recheck) := by
  have h_update (p : ObligationReminderRow → Prop) [DecidablePred p] {h_key} :
      Keeps (Accounted strict) (updateRows Tab.obligationReminders p
        (fun r => { r with nextDueAtMs := r.nextDueAtMs.map (max · (sqlAdd nowMs recheck)) })
        h_key : StoreTx Nat) :=
    keeps_updateReminders fun r => by simp [ObligationReminderRow.Armed]
  unfold deferBusyReminder
  infer_instance

instance {now} : Keeps (Accounted strict) (reconcileReminderAttempts now) := by
  have h_attempts {h_key} : Keeps (Accounted strict) (updateRows Tab.reminderAttempts
      (fun a => a.phase = .submitted)
      (fun a => { a with
        phase := .unknown, resolvedAtMs := some now,
        evidence := some "kelpied restarted after reminder submission" }) h_key :
      StoreTx Nat) := keeps_updateAttempts fun _ => rfl
  have h_suspend (p : ObligationReminderRow → Prop) [DecidablePred p] {h_key} :
      Keeps (Accounted strict) (updateRows Tab.obligationReminders p
        (fun r => { r with suspendedAtMs := some now }) h_key : StoreTx Nat) :=
    keeps_updateReminders fun _ => Iff.rfl
  unfold reconcileReminderAttempts
  infer_instance

/-- The owing agent changes how an armed reminder is timed, and arms none. -/
theorem keeps_changeReminder {requester : LogicalAgentId} {ask : MessageId}
    {p : ObligationReminderRow → Prop} [DecidablePred p]
    {f : ObligationReminderRow → ObligationReminderRow}
    {h_key : ∀ r, (f r).askMessageId = r.askMessageId} {refusal : String}
    (h : ∀ r, (f r).Armed ↔ r.Armed) :
    Keeps (Accounted strict) (changeReminder requester ask p f h_key refusal) := by
  have h_update (q : ObligationReminderRow → Prop) [DecidablePred q] :
      Keeps (Accounted strict) (updateRows Tab.obligationReminders q f h_key : StoreTx Nat) :=
    keeps_updateReminders h
  unfold changeReminder
  infer_instance

instance {now requester ask untilMs} :
    Keeps (Accounted strict) (snoozeReminder now requester ask untilMs) := by
  have h_change {p} [DecidablePred p] {h_key refusal} :
      Keeps (Accounted strict) (changeReminder requester ask p
        (fun r => { r with snoozedUntilMs := some untilMs }) h_key refusal) :=
    keeps_changeReminder fun _ => Iff.rfl
  unfold snoozeReminder
  infer_instance

instance {now requester ask every} :
    Keeps (Accounted strict) (increaseReminderInterval now requester ask every) := by
  have h_change {p} [DecidablePred p] {h_key refusal} :
      Keeps (Accounted strict) (changeReminder requester ask p
        (fun r => { r with
          nextDueAtMs := r.nextDueAtMs.map fun due =>
            if r.intervalMs < every then
              max (max due (r.snoozedUntilMs.getD 0)) (now + every)
            else due,
          intervalMs := every }) h_key refusal) :=
    keeps_changeReminder fun r => by simp [ObligationReminderRow.Armed]
  unfold increaseReminderInterval
  infer_instance

instance {now requester ask} :
    Keeps (Accounted strict) (disableReminder now requester ask) := by
  unfold disableReminder
  exact keeps_changeReminder fun _ => Iff.rfl

end Reminders

-- ============================================================================
-- Renews
-- ============================================================================

section Renews

instance {now renew} : Keeps (Accounted strict) (markRenewReady now renew) := by
  unfold markRenewReady
  infer_instance

instance {now renew reason} : Keeps (Accounted strict) (abortRenew now renew reason) := by
  unfold abortRenew
  infer_instance

instance {now renew p reason refusal state} [DecidablePred p] :
    Keeps (Accounted strict) (endRenew now renew p reason refusal state) := by
  unfold endRenew
  infer_instance

instance {now renew reason} : Keeps (Accounted strict) (terminateRenew now renew reason) := by
  unfold terminateRenew
  infer_instance

instance {now renew reason notice} :
    Keeps (Accounted strict) (terminateRenewAnnounced now renew reason notice) := by
  unfold terminateRenewAnnounced
  infer_instance

instance {now renew requester reason notice} :
    Keeps (Accounted strict) (cancelRenew now renew requester reason notice) := by
  unfold cancelRenew
  infer_instance

end Renews

-- ============================================================================
-- Schedules and clears
-- ============================================================================

section Clears

instance {now recipient inc command session delay key} : Keeps (Accounted strict)
    (createClear now recipient inc command session delay key) := by
  have h_op : Keeps (Accounted strict) (insertOperation now key .clear inc
      (.clear { recipient, command, preClearSession := session, promptSettleDelayMs := delay })
      .pending idempotencyKeyExists) := keeps_insertOperation (by decide)
  unfold createClear
  infer_instance

/-- Only a clear is completed as one, so no prompt is settled by it. -/
instance {now op inc session delay} :
    Keeps (Accounted strict) (completeClear now op inc session delay) := by
  have h_op {h_key} : Keeps (Accounted strict) (updateRows Tab.operations
      (fun o => o.Owns op inc ∧ o.kind = .clear ∧ o.outcome = .pending)
      (fun o => { o with outcome := .succeeded, resolvedAtMs := some now }) h_key :
      StoreTx Nat) :=
    keeps_updateOperations fun r h =>
      ⟨⟨rfl, rfl, rfl⟩, .inr ⟨.inl h.2.2, fun _ => by simp [h.2.1]⟩⟩
  have h_deliver {h_key} : Keeps (Accounted strict) (updateRows Tab.deliveries
      (fun d => d.recipientIncarnationId = some inc ∧ d.outcome = .queued)
      (fun d => { d with
        scheduledAtMs := max d.scheduledAtMs (saturatingAdd now delay) }) h_key :
      StoreTx Nat) := keeps_updateDeliveries fun _ _ => ⟨⟨rfl, rfl, rfl, rfl, rfl, rfl⟩, .inl rfl⟩
  unfold completeClear
  cases session <;> infer_instance

instance {now op} : Keeps (Accounted strict) (failUnattemptedClear now op) := by
  have h_op (q : OperationRow → Prop) [DecidablePred q] {h_key} :
      Keeps (Accounted strict) (updateRows Tab.operations
        (fun o => o.id = op ∧ o.kind = .clear ∧ o.outcome = .pending ∧ q o)
        (fun o => { o with outcome := .failed, resolvedAtMs := some now }) h_key :
        StoreTx Nat) :=
    keeps_updateOperations fun r h =>
      ⟨⟨rfl, rfl, rfl⟩, .inr ⟨.inl h.2.2.1, fun _ => by simp [h.2.1]⟩⟩
  have h_update (s : Store) {h_key} : Keeps (Accounted strict) (updateRows Tab.operations
      (fun o => o.id = op ∧ o.kind = .clear ∧ o.outcome = .pending ∧ ¬ s.Submitted op)
      (fun o => { o with outcome := .failed, resolvedAtMs := some now }) h_key :
      StoreTx Nat) := h_op _
  unfold failUnattemptedClear
  infer_instance

end Clears

end Kelpie
