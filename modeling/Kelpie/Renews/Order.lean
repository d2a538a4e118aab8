/-
  Kelpie.Renews.Order

  The daemon keeps the journal in order over every run: each parked cycle waits
  for what its phase calls for, and knows what was recorded of its clear.
-/

import Kelpie.Renews.Handlers

namespace Kelpie

open Lib Lib.Tx Lib.Process

-- ============================================================================
-- Parked cycles
-- ============================================================================

/-- What a parked cycle waits for follows from the journal. -/
def AwaitingRenew.Fits (log : List RenewAct) (q : AwaitingRenew) : Prop :=
  match q.state with
  | .probe => True
  | .clearingSend _ => q.lease ≠ some .taken → ClearUnsent log q.item.renewId
  | .rotationGet | .confirmGet => q.item.Recorded log
  | .injectSend _ => ∃ nowMs, .submits q.item.renewId .inject nowMs ∈ log

theorem AwaitingRenew.Fits.mono {log log' : List RenewAct} {q : AwaitingRenew} (h : q.Fits log)
    (h_le : ∀ a ∈ log, a ∈ log')
    (h_sends : .sends q.item.renewId .clear ∈ log' → .sends q.item.renewId .clear ∈ log) :
    q.Fits log' := by
  unfold AwaitingRenew.Fits at h ⊢
  split at h
  · exact trivial
  · intro h_lease
    obtain ⟨⟨nowMs, h_sub⟩, h_unsent⟩ := h h_lease
    exact ⟨⟨nowMs, h_le _ h_sub⟩, fun h_mem => h_unsent (h_sends h_mem)⟩
  · exact h.mono h_le
  · exact h.mono h_le
  · obtain ⟨nowMs, h_sub⟩ := h
    exact ⟨nowMs, h_le _ h_sub⟩

/-- The lease that a cycle holds once its connection is open. -/
theorem AwaitingRenew.Fits.lease {log : List RenewAct} {q : AwaitingRenew} (h : q.Fits log)
    (h_none : q.lease = none) (lease : LeaseSending) :
    AwaitingRenew.Fits log { q with lease := some lease } := by
  obtain ⟨item, state, job, _⟩ := q
  cases h_none
  cases state with
  | clearingSend write => exact fun _ => h nofun
  | _ => exact h

/-- The write of a cycle is due when its connection is open. -/
theorem AwaitingRenew.Fits.sends {log : List RenewAct} {q : AwaitingRenew} (h : q.Fits log)
    (h_none : q.lease = none) {step : RenewStep} (h_step : q.state.sending = some step) :
    RenewAct.Due log (.sends q.item.renewId step) := by
  obtain ⟨item, state, job, _⟩ := q
  cases h_none
  cases state with
  | clearingSend write =>
    cases h_step
    exact h nofun
  | injectSend write =>
    cases h_step
    exact h
  | _ => cases h_step

/-- A cycle whose write was taken. -/
theorem AwaitingRenew.Fits.taken {log : List RenewAct} {q : AwaitingRenew} (h : q.Fits log)
    (act : RenewAct) : AwaitingRenew.Fits (log ++ [act]) { q with lease := some .taken } := by
  obtain ⟨item, state, job, _⟩ := q
  cases state with
  | probe => exact trivial
  | clearingSend write => exact fun h_not => absurd rfl h_not
  | rotationGet => exact DueRenew.Recorded.mono h fun _ h_a => List.mem_append_left _ h_a
  | confirmGet => exact DueRenew.Recorded.mono h fun _ h_a => List.mem_append_left _ h_a
  | injectSend write =>
    obtain ⟨nowMs, h_sub⟩ := h
    exact ⟨nowMs, List.mem_append_left _ h_sub⟩

/-- The journal is in order, and what the daemon remembers follows from it. -/
structure RenewWorld.Ordered (w : RenewWorld) : Prop where
  agree : RenewsAgree w.journal.state.renews w.journal.log
  due : ∀ item ∈ w.due, item.Fits w.journal.log
  awaiting : ∀ q ∈ w.awaiting, q.Fits w.journal.log
  alone : (w.awaiting.map (·.item.renewId)).Nodup

theorem RenewWorld.Ordered.empty : RenewWorld.Ordered {} where
  agree := .empty
  due _ h := absurd h List.not_mem_nil
  awaiting _ h := absurd h List.not_mem_nil
  alone := List.nodup_nil

-- ============================================================================
-- Passes
-- ============================================================================

section Passes

variable {config : SliceConfig} {now nowMs : Millis} {item : DueRenew} {log₀ : List RenewAct}
  {j : RenewJournal}

/-- What a pass reads is of a renew in the store. -/
theorem row_of_actionableRenews {s : Store} {items : List DueRenew}
    (h_items : actionableRenews nowMs s = .ok items) :
    ∀ item ∈ items, ∃ r ∈ s.renews, r.id = item.renewId ∧ r.phase = item.phase ∧
      r.preClearSession = item.preClearSession ∧ r.clearDeadlineMs = item.clearDeadlineMs ∧
      r.injectNotBeforeMs = item.injectNotBeforeMs := by
  intro item h_item
  have h_mem : Except.ok item ∈ s.renewsByAge.filterMap (s.dueRenew nowMs) := by
    rw [mapM_id_ok h_items]
    exact List.mem_map_of_mem h_item
  obtain ⟨r, h_r, h_due⟩ := List.mem_filterMap.mp h_mem
  obtain ⟨i, -, h_due⟩ := Option.bind_eq_some_iff.mp h_due
  obtain ⟨-, h_due⟩ := guard_bind_eq_some.mp h_due
  split at h_due
  · cases h_due
    exact ⟨r, (List.mem_insertionSort _).mp h_r, rfl, rfl, rfl, rfl, rfl⟩
  · cases h_due

/-- What a pass reads fits the journal. -/
theorem RenewsAgree.fits {s : Store} {log : List RenewAct} (h : RenewsAgree s.renews log)
    {items : List DueRenew} (h_items : actionableRenews nowMs s = .ok items) :
    ∀ item ∈ items, item.Fits log := by
  intro item h_item h_phase
  obtain ⟨r, h_r, h_id, h_same, h_session, h_deadline, h_before⟩ :=
    row_of_actionableRenews h_items item h_item
  have h_some := h.cleared r h_r (h_same ▸ h_phase)
  obtain ⟨time, session, rotation, h_rec⟩ := h.records r h_r h_some
  obtain ⟨r', h_r', h_r'_id, h_recorded⟩ := h.recorded _ _ _ _ h_rec
  obtain rfl := Table.eq_of_key h_r' h_r h_r'_id
  exact ⟨time, session, rotation, h_id ▸ h_rec, h_session.symm.trans h_recorded.session,
    h_deadline.symm.trans h_recorded.deadline, h_before.symm.trans h_recorded.notBefore⟩

theorem ensures_beginRenewPass {clock : Nat → Millis} (h : j.Good log₀) :
    (beginRenewPass config nowMs clock).Ensures (RenewJournal.Good log₀)
      (fun items j' => ∀ item ∈ items, item.Fits j'.log) j := by
  have h_items : Process.Ensures (do
      terminateEndedRenews clock
      commits (query (actionableRenews nowMs)))
      (RenewJournal.Good log₀) (fun items j' => ∀ item ∈ items, item.Fits j'.log) j := by
    refine Ensures.bind (keepsOrder_terminateEndedRenews log₀ j h) fun _ j h _ => ?_
    refine (ensures_prepares h).mono (fun _ h => h) fun items j' h' ⟨h_log, h_run⟩ => ?_
    obtain ⟨h_query, h_state⟩ := run_query_ok.mp h_run
    rw [h_log]
    exact h.agree.fits h_query
  refine Ensures.bind h_items.result fun items j h h_Q => ?_
  cases items with
  | ok items => exact ensures_pure h (h_Q items rfl)
  | error e =>
    refine Ensures.bind (keepsOrder_noteRenewDriveError log₀ j h) fun _ j h _ => ?_
    exact ensures_pure h fun _ h_mem => absurd h_mem List.not_mem_nil

theorem ensures_driving {α : Type} {p : RenewProcess α} {f : α → RenewDrive}
    {I : RenewJournal → Prop} (h : p.Ensures I (fun _ _ => True) j)
    (h_note : ∀ e j, I j → (noteRenewDriveError config now e).Ensures I (fun _ _ => True) j)
    (h_f : ∀ a state, f a = .park state → state = .probe) :
    (driving config now p f).Ensures I
      (fun drive _ => ∀ state, drive = .park state → state = .probe) j := by
  refine Ensures.bind h.result fun r j h _ => ?_
  cases r with
  | ok a => exact ensures_pure h (h_f a)
  | error e =>
    dsimp only
    split
    · exact ensures_pure h nofun
    · exact Ensures.bind (h_note e j h) fun _ j h _ => ensures_pure h nofun

/-- A renew is parked in a state that its phase calls for. -/
theorem ensures_driveRenew {clock : Nat → Millis} (h : j.Good log₀) (h_item : item.Fits j.log) :
    (driveRenew config item nowMs clock).Ensures (RenewJournal.Good log₀)
      (fun drive j' => ∀ state, drive = .park state →
        AwaitingRenew.Fits j'.log { item, state }) j := by
  have h_probe {p : RenewProcess RenewDrive} (h_p : p.Ensures (RenewJournal.Good log₀)
      (fun drive _ => ∀ state, drive = .park state → state = .probe) j) :
      p.Ensures (RenewJournal.Good log₀) (fun drive j' => ∀ state, drive = .park state →
        AwaitingRenew.Fits j'.log { item, state }) j :=
    h_p.mono (fun _ h => h) fun drive j' _ h_Q state h_park => by
      obtain rfl := h_Q state h_park
      exact trivial
  have h_note {now : Millis} (e : SliceError) (j : RenewJournal) (h : j.Good log₀) :
      (noteRenewDriveError config now e).Ensures (RenewJournal.Good log₀) (fun _ _ => True) j :=
    keepsOrder_noteRenewDriveError log₀ j h
  unfold driveRenew
  cases h_phase : item.phase with
  | scheduled =>
    refine h_probe (Ensures.bind (ensures_prepares h).result fun spacing j h _ => ?_)
    cases spacing with
    | error e =>
      exact Ensures.bind (keepsOrder_noteRenewDriveError log₀ j h) fun _ j h _ =>
        ensures_pure h nofun
    | ok active =>
      cases active with
      | true => exact ensures_pure h nofun
      | false => exact ensures_driving (keepsOrder_beginRenewPrepare log₀ j h) h_note nofun
  | preparing =>
    exact h_probe (ensures_driving (keepsOrder_renewSettlePrepare log₀ j h) h_note nofun)
  | timedOut =>
    exact h_probe (ensures_driving (keepsOrder_renewApplyTimeout log₀ j h) h_note nofun)
  | ready =>
    refine h_probe (ensures_driving (keepsOrder_renewClearReadyToProbe log₀ j h) h_note ?_)
    intro probes state h_state
    split at h_state
    · cases h_state
      rfl
    · cases h_state
  | clearing =>
    refine ensures_pure h fun state h_state => ?_
    cases h_state
    exact h_item (.inl h_phase)
  | injected =>
    have h_recorded := h_item (.inr h_phase)
    dsimp only
    split
    · rename_i h_none
      refine h_probe (ensures_driving (ensures_finishRenew h fun h_row => ?_) h_note nofun)
      exact h.agree.proven_of_injected h_recorded h_none h_row
    · refine ensures_pure h fun state h_state => ?_
      cases h_state
      exact h_recorded
  | done | aborted | terminated => exact ensures_pure h nofun

-- ============================================================================
-- Answers
-- ============================================================================

theorem ensures_settling {p : RenewProcess (Option RenewParkState)} {I : RenewJournal → Prop}
    {Q : Option RenewParkState → RenewJournal → Prop} (h : p.Ensures I Q j)
    (h_note : ∀ e j, I j → (noteRenewDriveError config now e).Ensures I (fun _ _ => True) j)
    (h_none : ∀ j, Q none j) : (settling config now p).Ensures I Q j := by
  refine Ensures.bind h.result fun r j h h_Q => ?_
  cases r with
  | ok state => exact ensures_pure h (h_Q state rfl)
  | error e =>
    dsimp only
    split
    · exact Ensures.bind (h_note e j h) fun _ j h _ => ensures_pure h (h_none j)
    · exact ensures_pure h (h_none j)

/-- A cycle goes on to a state that the journal calls for. -/
theorem ensures_onRenewDone {r : AwaitingRenew} {result : Except HerdrError HerdrJobResult}
    {clock : Nat → Millis} (h : RenewsAgree j.state.renews j.log) (h_r : r.Fits j.log)
    (h_seen : ∀ agent, result = .ok (.agent agent) → r.state.sending = none →
      r.item.Recorded j.log → r.item.Seen j.log agent) :
    (onRenewDone config r result nowMs clock).Ensures (RenewJournal.Good j.log)
      (fun next j' => ∀ state, next = some state →
        AwaitingRenew.Fits j'.log { item := r.item, state }) j := by
  have h_good := RenewJournal.Good.start h
  have h_agent {read : String} {agent : AgentObservation}
      (h_ok : agentResult read result = .ok agent) : result = .ok (.agent agent) := by
    unfold agentResult at h_ok
    split at h_ok <;> cases h_ok
    rfl
  refine ensures_settling ?_ (fun _ _ h => keepsOrder_noteRenewDriveError _ _ h) nofun
  unfold AwaitingRenew.Fits at h_r
  cases h_state : r.state with
  | probe =>
    refine Ensures.bind (ensures_ofExcept (Q := fun _ _ => True) h_good fun _ _ => trivial)
      fun observed j h _ => ?_
    refine Ensures.bind (ensures_recordRenewClearing h) fun write j h h_unsent => ?_
    refine ensures_pure h fun state h_next => ?_
    cases h_next
    exact fun _ => h_unsent
  | clearingSend write =>
    exact Ensures.bind (keepsOrder_applyRenewAttemptResult _ j h_good) fun _ j h _ =>
      ensures_pure h nofun
  | rotationGet =>
    rw [h_state] at h_r
    refine Ensures.bind (ensures_ofExcept (Q := fun observed j' => j' = j ∧
      r.item.Seen j.log observed) h_good fun observed h_ok => ⟨rfl, ?_⟩) ?_
    · exact h_seen observed (h_agent h_ok) (by rw [h_state]; rfl) h_r
    · rintro observed _ h' ⟨rfl, h_item⟩
      refine Ensures.bind (ensures_renewInjectDecision h' h_item) fun write j' h' h_write => ?_
      refine ensures_pure h' fun state h_next => ?_
      obtain ⟨w, h_w, rfl⟩ := Option.map_eq_some_iff.mp h_next
      exact h_write (h_w ▸ rfl)
  | injectSend write =>
    rw [h_state] at h_r
    exact Ensures.bind (ensures_applyRenewInjectResult h_good h_r) fun _ j h _ =>
      ensures_pure h nofun
  | confirmGet =>
    rw [h_state] at h_r
    refine Ensures.bind (ensures_ofExcept (Q := fun observed j' => j' = j ∧
      r.item.Seen j.log observed) h_good fun observed h_ok => ⟨rfl, ?_⟩) ?_
    · exact h_seen observed (h_agent h_ok) (by rw [h_state]; rfl) h_r
    · rintro observed _ h' ⟨rfl, h_item⟩
      refine Ensures.bind (ensures_applyRenewConfirmObservation h' h_item rfl)
        fun proven j' h' h_proven => ?_
      cases proven with
      | false => exact ensures_pure h' nofun
      | true =>
        exact Ensures.bind (ensures_finishRenew h' fun _ => h_proven rfl) fun _ j h _ =>
          ensures_pure h nofun

end Passes

-- ============================================================================
-- Steps of the daemon
-- ============================================================================

namespace RenewWorld

variable {config : SliceConfig} {w w' : RenewWorld}

/-- A handler that keeps the journal in order leaves the memory as it follows. -/
theorem Ordered.keeps (h : w.Ordered) {j : RenewJournal} (h_j : j.Good w.journal.log) :
    Ordered { w with journal := j } where
  agree := h_j.agree
  due item h_item h_phase := (h.due item h_item h_phase).mono fun _ h_a => h_j.mem h_a
  awaiting q h_q := (h.awaiting q h_q).mono (fun _ h_a => h_j.mem h_a) h_j.sends
  alone := h.alone

theorem Ordered.restart (h : RenewsAgree w.journal.state.renews w.journal.log) :
    (w.restart w.journal).Ordered where
  agree := h
  due _ h_item := absurd h_item List.not_mem_nil
  awaiting _ h_q := absurd h_q List.not_mem_nil
  alone := List.nodup_nil

theorem Ordered.restarts (h : w.Ordered) {j : RenewJournal} (h_j : j.Good w.journal.log) :
    (w.restart j).Ordered :=
  Ordered.restart (h.keeps h_j).agree

theorem Ordered.unpark (h : w.Ordered) (r : AwaitingRenew) : (w.unpark r).Ordered where
  agree := h.agree
  due := h.due
  awaiting q h_q := h.awaiting q (List.mem_of_mem_erase h_q)
  alone := h.alone.sublist ((List.erase_sublist).map _)

/-- A parked cycle goes on to wait for something else. -/
theorem Ordered.replace (h : w.Ordered) {r r' : AwaitingRenew} (h_item : r'.item = r.item)
    (h_fits : r'.Fits w.journal.log) : (w.replace r r').Ordered where
  agree := h.agree
  due := h.due
  awaiting q h_q := by
    obtain ⟨q', h_q', rfl⟩ := List.mem_map.mp h_q
    split
    · exact h_fits
    · exact h.awaiting q' h_q'
  alone := by
    have h_ids : (w.replace r r').awaiting.map (·.item.renewId) =
        w.awaiting.map (·.item.renewId) := by
      rw [RenewWorld.replace, List.map_map]
      refine List.map_congr_left fun q _ => ?_
      by_cases h_q : q = r
      · rw [Function.comp_apply, if_pos h_q, h_item, h_q]
      · rw [Function.comp_apply, if_neg h_q]
    rw [h_ids]
    exact h.alone

/-- The job that a cycle waits for says nothing of the journal. -/
theorem Ordered.submitJob (h : w.Ordered) {r : AwaitingRenew} (h_r : r.Fits w.journal.log) :
    (w.submitJob r).Ordered := by
  have h_replace : (w.replace r { r with herdrJob := some w.nextHerdrJob }).Ordered :=
    h.replace rfl h_r
  exact ⟨h_replace.agree, h_replace.due, h_replace.awaiting, h_replace.alone⟩

theorem Ordered.advanceAwaiting (h : w.Ordered) : w.advanceAwaiting.Ordered := by
  unfold RenewWorld.advanceAwaiting
  have h_all : ∀ r ∈ w.awaiting.filter (·.herdrJob = none), r.Fits w.journal.log :=
    fun r h_r => h.awaiting r (List.mem_of_mem_filter h_r)
  generalize w.awaiting.filter (·.herdrJob = none) = rs at h_all
  induction rs generalizing w with
  | nil => exact h
  | cons r rs ih =>
    refine ih (h.submitJob (h_all r List.mem_cons_self)) fun q h_q => ?_
    exact h_all q (List.mem_cons_of_mem r h_q)

theorem Ordered.drive (h : w.Ordered) {item : DueRenew} {rest : List DueRenew}
    (h_due : w.due = item :: rest) (clock : Nat → Millis) (fates : List (Fate StoreError)) :
    (w.drive config item rest clock fates).Ordered := by
  have h_item := h.due item (h_due ▸ List.mem_cons_self)
  have h_rest : Ordered { w with due := rest } :=
    ⟨h.agree, fun q h_q => h.due q (h_due ▸ List.mem_cons_of_mem item h_q), h.awaiting, h.alone⟩
  have h_drive : (driveRenew config item w.passNowMs clock).Ensures _ _ _ :=
    ensures_driveRenew (RenewJournal.Good.start h.agree) h_item
  obtain ⟨h_j, h_Q⟩ := h_drive.run fates
  unfold RenewWorld.drive
  split
  · exact h_rest
  · rename_i h_idle
    split <;> rename_i h_run <;> rw [h_run] at h_j h_Q
    · exact h.restarts h_j
    · exact h_rest.keeps h_j
    · have h_next := h_rest.keeps h_j
      refine ⟨h_next.agree, h_next.due, fun q h_q => ?_, ?_⟩
      · rcases List.mem_append.mp h_q with h_q | h_q
        · exact h_next.awaiting q h_q
        · rw [List.mem_singleton.mp h_q]
          exact h_Q _ rfl _ rfl
      · rw [List.map_append]
        refine List.nodup_append.mpr ⟨h.alone, List.nodup_singleton _, fun a h_a b h_b h_eq => ?_⟩
        obtain ⟨q, h_q, rfl⟩ := List.mem_map.mp h_a
        exact h_idle ⟨q, h_q, h_eq.trans (List.mem_singleton.mp h_b)⟩
    · exact Ordered.keeps (w := { w with due := [] })
        ⟨h.agree, fun _ h_mem => absurd h_mem List.not_mem_nil, h.awaiting, h.alone⟩ h_j
    · exact Ordered.keeps (w := { w with due := [] })
        ⟨h.agree, fun _ h_mem => absurd h_mem List.not_mem_nil, h.awaiting, h.alone⟩ h_j

/-- Two parked cycles of one renew are one. -/
theorem Ordered.eq_of_renew (h : w.Ordered) {q r : AwaitingRenew} (h_q : q ∈ w.awaiting)
    (h_r : r ∈ w.awaiting) (h_id : q.item.renewId = r.item.renewId) : q = r :=
  List.inj_on_of_nodup_map h.alone h_q h_r h_id

/-- A write is sent once. -/
theorem Ordered.opened (h : w.Ordered) {r : AwaitingRenew} {step : RenewStep}
    (h_r : r ∈ w.awaiting) (h_step : r.state.sending = some step) (h_lease : r.lease = none)
    (lease : LeaseSending) : (w.opened r step lease).Ordered := by
  have h_fits := h.awaiting r h_r
  cases lease with
  | closed => exact h.unpark r
  | lost => exact h.replace rfl (h_fits.lease h_lease .lost)
  | taken =>
    have h_old : (w.replace r { r with lease := some .taken }).Ordered :=
      h.replace rfl (h_fits.lease h_lease .taken)
    refine ⟨h.agree.notes (h_fits.sends h_lease h_step) nofun nofun, fun item h_item h_phase =>
      (h.due item h_item h_phase).mono fun _ h_a => List.mem_append_left _ h_a, fun q h_q => ?_,
      h_old.alone⟩
    obtain ⟨q', h_q', rfl⟩ := List.mem_map.mp h_q
    by_cases h_this : q' = r
    · rw [if_pos h_this]
      exact h_fits.taken _
    · rw [if_neg h_this]
      refine (h.awaiting q' h_q').mono (fun _ h_a => List.mem_append_left _ h_a) fun h_mem => ?_
      rcases List.mem_append.mp h_mem with h_mem | h_mem
      · exact h_mem
      · have h_eq := List.mem_singleton.mp h_mem
        rw [RenewAct.sends.injEq] at h_eq
        exact absurd (h.eq_of_renew h_q' h_r h_eq.1) h_this

theorem observing_state (w : RenewWorld) (r : AwaitingRenew)
    (result : Except HerdrError HerdrJobResult) :
    (w.observing r result).state = w.journal.state := by
  unfold RenewWorld.observing
  split <;> rfl

theorem Ordered.good_observing (h : w.Ordered) (r : AwaitingRenew)
    (result : Except HerdrError HerdrJobResult) :
    (w.observing r result).Good w.journal.log := by
  have h_start := RenewJournal.Good.start h.agree
  unfold RenewWorld.observing
  split
  · exact h_start.next (h.agree.notes trivial nofun nofun) (by rintro _ _ (_ | ⟨_, ⟨⟩⟩))
  · exact h_start

/-- An answer moves its cycle on, or ends the wait for it. -/
theorem Ordered.done (h : w.Ordered) {r : AwaitingRenew} (h_r : r ∈ w.awaiting)
    (result : Except HerdrError HerdrJobResult) (nowMs : Millis) (clock : Nat → Millis)
    (fates : List (Fate StoreError)) :
    (w.done config r result nowMs clock fates).Ordered := by
  have h₁ : Ordered { w with journal := w.observing r result } :=
    h.keeps (h.good_observing r result)
  have h_seen (agent : AgentObservation) (h_agent : result = .ok (.agent agent))
      (h_read : r.state.sending = none) (h_recorded : r.item.Recorded (w.observing r result).log) :
      r.item.Seen (w.observing r result).log agent := by
    unfold RenewWorld.observing at h_recorded ⊢
    rw [h_read, h_agent] at h_recorded ⊢
    exact h_recorded.seen_noted
  have h_next : (onRenewDone config r result nowMs clock).Ensures _ _ (w.observing r result) :=
    ensures_onRenewDone h₁.agree (h₁.awaiting r h_r) h_seen
  obtain ⟨h_j, h_Q⟩ := h_next.run fates
  unfold RenewWorld.done
  split <;> rename_i h_run <;> rw [h_run] at h_j h_Q
  · exact h₁.restarts h_j
  · rename_i state journal
    have h_state : AwaitingRenew.Fits journal.log { item := r.item, state } := h_Q _ rfl _ rfl
    have h_moved : Ordered { w.replace r { item := r.item, state } with journal } :=
      (h₁.keeps h_j).replace rfl h_state
    exact h_moved.submitJob h_state
  · exact (h₁.keeps h_j).unpark r
  · exact (h₁.keeps h_j).unpark r

end RenewWorld

-- ============================================================================
-- Runs
-- ============================================================================

/-- A call of another part of the daemon at most cancels a renew. -/
theorem RenewsAgree.call {s s' : Store} {log : List RenewAct} (h : RenewsAgree s.renews log)
    {c : Call} (h_c : ¬ c.DrivesRenew) (h_commit : c.commit s = .ok s') :
    RenewsAgree s'.renews (log ++ c.renewActs s) := by
  have h_other (h_acts : c.renewActs s = []) (h_prep : Preparing s.renews s'.renews) :
      RenewsAgree s'.renews (log ++ c.renewActs s) := by
    rw [h_acts, List.append_nil]
    exact h.prepares h_prep
  cases c with
  | cancelRenew now id requester reason notice =>
    obtain ⟨n, h_run⟩ := commit_ok.mp h_commit
    obtain ⟨h_moves, r, h_r, rfl, h_armed, h_phase⟩ := cancelRenew_moves h_run
    have h_find : s.renews.find r.id = some r := Table.find_eq_some.mpr ⟨h_r, rfl⟩
    rw [Call.renewActs, endsRenew, h_find]
    have h_end : RenewPhase.terminated ≠ .done := by decide
    exact h.ends h_moves (by decide) (fun _ h_p => h_p.1) (fun h_done => absurd h_done h_end)
      ⟨h_r, rfl⟩ ⟨h_armed, h_phase⟩ h_phase
  | markRenewPreparing | markRenewReady | markRenewClearing | claimRenewClearStallNotice
  | markRenewInjected | markRenewTimedOut | completeRenew | abortRenew | abandonRenewProof
  | terminateRenew | terminateRenewAnnounced | prepareRenewAttempt | submitRenewAttempt
  | resolveRenewAttempt | replaceObservedNativeSession => exact absurd trivial h_c
  | _ => exact h_other rfl (Keeps.commit (R := Over Tab.renews Preparing) h_commit)

theorem Call.renewActs_sends {c : Call} {s : Store} {id : RenewId} {step : RenewStep} :
    .sends id step ∉ c.renewActs s := by
  intro h_mem
  unfold Call.renewActs at h_mem
  split at h_mem
  · obtain ⟨r, -, h_eq⟩ := Option.map_eq_some_iff.mp (Option.mem_toList.mp h_mem)
    cases h_eq
  · cases h_mem

/-- Every step of the daemon keeps the journal in order. -/
theorem RenewWorld.Ordered.step {config : SliceConfig} {w w' : RenewWorld} (h : w.Ordered)
    {label : RenewLabel} (h_step : StepOf (RenewWorld.next config) label w w') : w'.Ordered := by
  cases label with
  | call c =>
    obtain ⟨⟨h_due, h_c⟩, h_next⟩ := guard_bind_eq_some.mp h_step
    obtain ⟨s', h_commit, h_next⟩ := Option.bind_eq_some_iff.mp h_next
    cases h_next
    have h_agree := h.agree.call h_c (Call.step_of_mem h_commit)
    refine h.keeps ((RenewJournal.Good.start h.agree).next h_agree fun id step h_mem => ?_)
    exact Call.renewActs_sends h_mem
  | pass nowMs clock fates =>
    obtain ⟨h_due, h_next⟩ := guard_bind_eq_some.mp h_step
    have h_pass : (beginRenewPass config nowMs clock).Ensures _ _ w.journal :=
      ensures_beginRenewPass (.start h.agree)
    obtain ⟨h_j, h_Q⟩ := h_pass.run fates
    split at h_next <;> rename_i h_run <;> rw [h_run] at h_j h_Q <;> cases h_next
    · exact h.restarts h_j
    · have h_next := h.keeps h_j
      exact ⟨h_next.agree, h_Q _ rfl, h_next.awaiting, h_next.alone⟩
    · exact h.keeps h_j
  | drive clock fates =>
    have h_next : RenewWorld.next config (.drive clock fates) w = some w' := h_step
    unfold RenewWorld.next at h_next
    dsimp only at h_next
    split at h_next
    · cases h_next
    · rename_i item rest h_due
      cases h_next
      exact h.drive h_due clock fates
  | advance =>
    obtain ⟨-, h_next⟩ := guard_bind_eq_some.mp h_step
    cases h_next
    exact h.advanceAwaiting
  | opened jobId lease =>
    obtain ⟨-, h_next⟩ := guard_bind_eq_some.mp h_step
    obtain ⟨r, h_parked, h_next⟩ := Option.bind_eq_some_iff.mp h_next
    obtain ⟨step, h_sending, h_next⟩ := Option.bind_eq_some_iff.mp h_next
    obtain ⟨h_lease, h_next⟩ := guard_bind_eq_some.mp h_next
    cases h_next
    exact h.opened (List.mem_of_find?_eq_some h_parked) h_sending h_lease lease
  | done jobId result nowMs clock fates =>
    obtain ⟨-, h_next⟩ := guard_bind_eq_some.mp h_step
    obtain ⟨r, h_parked, h_next⟩ := Option.bind_eq_some_iff.mp h_next
    obtain ⟨-, h_next⟩ := guard_bind_eq_some.mp h_next
    cases h_next
    exact h.done (List.mem_of_find?_eq_some h_parked) result nowMs clock fates
  | failed jobId =>
    obtain ⟨-, h_next⟩ := guard_bind_eq_some.mp h_step
    obtain ⟨r, h_parked, h_next⟩ := Option.bind_eq_some_iff.mp h_next
    cases h_next
    exact h.unpark r
  | crash =>
    cases h_step
    exact .restart h.agree

/-- The journal of every run is in order, and agrees with the renews. -/
theorem RenewReachable.ordered {config : SliceConfig} {ok : RenewLabel → RenewWorld → Prop}
    {w : RenewWorld} (h : RenewReachable config ok w) : w.Ordered :=
  Run.invariant h .empty fun _ _ _ h_w _ h_step => h_w.step h_step

end Kelpie
