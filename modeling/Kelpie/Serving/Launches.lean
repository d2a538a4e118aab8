/-
  Kelpie.Serving.Launches

  The handlers of launches and clears, with the passes over them.
-/

import Kelpie.Serving.Steps

namespace Kelpie

open Lib

namespace Daemon

variable {d d' : Daemon} {index : Nat} {j : JobId} {inHand : NoticeSession → Nat}
  {all : Multiset RequestTicket} {k : KelpieCalls}

-- ============================================================================
-- Starts
-- ============================================================================

section Starts

variable {start start' : AwaitingStart} {pre post : List AwaitingStart}

theorem Owes.answerStartAt {result : Except RequestError Value} (h : d.Owes all [] inHand)
    (h_handles : Handles start.herdrJob d d')
    (h_at : d.awaiting .starts = pre ++ start :: post) (h_index : pre.length = index) :
    (d'.answerStartAt index result).Owes all [] inHand := by
  rw [Daemon.answerStartAt, awaiting_at (t := .starts) h_handles h_at h_index]
  exact (h.takeOut (t := .starts) h_handles h_at h_index rfl rfl
    (h.kept.lease_at (t := .starts) h_at)).answer

theorem Owes.failStartAt {error : RequestError} (h : d.Owes all [] inHand)
    (h_handles : Handles start.herdrJob d d')
    (h_at : d.awaiting .starts = pre ++ start :: post) (h_index : pre.length = index) :
    (d'.failStartAt index error).Owes all [] inHand :=
  h.answerStartAt h_handles h_at h_index

theorem Owes.openStartLease {busyDeadline : Millis} {attemptIndex : Nat}
    (h : d.Owes all [] inHand) (h_handles : Handles start.herdrJob d d')
    (h_at : d.awaiting .starts = pre ++ start :: post) (h_index : pre.length = index)
    (h_stream : start'.stream = start.stream) (h_id : start'.requestId = start.requestId)
    (h_lease : start'.lease = none) :
    (d'.openStartLease index start' busyDeadline attemptIndex).Owes all [] inHand := by
  have h_tickets : [RequestTicket.mk start'.stream start'.requestId] =
      [RequestTicket.mk start.stream start.requestId] := by
    rw [h_stream, h_id]
  exact h.resubmit (t := .starts) h_handles h_at h_index rfl rfl rfl rfl rfl h_tickets h_lease
    trivial

theorem Owes.openInitialMessage {prepared : PreparedPrompt} {messageId : MessageId}
    (h : d.Owes all [] inHand) (h_handles : Handles start.herdrJob d d')
    (h_at : d.awaiting .starts = pre ++ start :: post) (h_index : pre.length = index)
    (h_stream : start'.stream = start.stream) (h_id : start'.requestId = start.requestId)
    (h_lease : start'.lease = none) (h_declared : start'.declared.isSome) :
    (d'.openInitialMessage index start' prepared messageId).Owes all [] inHand := by
  have h_tickets : [RequestTicket.mk start'.stream start'.requestId] =
      [RequestTicket.mk start.stream start.requestId] := by
    rw [h_stream, h_id]
  exact h.resubmit (t := .starts) h_handles h_at h_index rfl rfl rfl JobStage.opening_ne_calling rfl
    h_tickets h_lease
    h_declared

theorem Owes.answerInitialWithoutWrite {prepared : PreparedPrompt} {messageId : MessageId}
    (h : d.Owes all [] inHand) (h_handles : Handles start.herdrJob d d')
    (h_at : d.awaiting .starts = pre ++ start :: post) (h_index : pre.length = index)
    (h_phase : start.phase = .initial prepared messageId) :
    (d'.answerInitialWithoutWrite k index start).Owes all [] inHand := by
  have h_sound := h.kept.sound_at (t := .starts) h_at
  rw [Awaiting.Sound, h_phase] at h_sound
  obtain ⟨declared, h_declared⟩ := Option.isSome_iff_exists.mp h_sound
  rw [Daemon.answerInitialWithoutWrite, h_phase, h_declared]
  exact h.answerStartAt h_handles h_at h_index

theorem Owes.onInitialDone {prepared : PreparedPrompt} {messageId : MessageId}
    (h : d.Owes all [] inHand) (h_handles : Handles start.herdrJob d d')
    (h_at : d.awaiting .starts = pre ++ start :: post) (h_index : pre.length = index)
    (h_phase : start.phase = .initial prepared messageId) :
    (d'.onInitialDone k index start).Owes all [] inHand := by
  have h_sound := h.kept.sound_at (t := .starts) h_at
  rw [Awaiting.Sound, h_phase] at h_sound
  obtain ⟨declared, h_declared⟩ := Option.isSome_iff_exists.mp h_sound
  rw [Daemon.onInitialDone, h_phase, h_declared]
  exact h.answerStartAt h_handles h_at h_index

theorem Owes.failParkedStart {error : RequestError} (h : d.Owes all [] inHand)
    (h_handles : Handles (some j) d d') (h_owner : d.herdrOwners j = some .start) :
    (d'.failParkedStart k j error).Owes all [] inHand := by
  rw [Daemon.failParkedStart]
  cases h_entry : d'.entryForJob .starts j with
  | none => exact h.idleAt (t := .starts) h_handles h_owner h_entry
  | some found =>
    obtain ⟨index, start⟩ := found
    obtain ⟨pre, post, h_at, h_index, h_job⟩ := entry_at h_entry
    rw [h_handles.awaiting] at h_at
    rw [← h_job] at h_handles
    dsimp only
    split
    · split
      · exact h.onInitialDone h_handles h_at h_index ‹_›
      · exact h.answerInitialWithoutWrite h_handles h_at h_index ‹_›
    · exact h.failStartAt h_handles h_at h_index

theorem Owes.onStartSnapshot {result : Except HerdrError HerdrJobResult}
    (h : d.Owes all [] inHand) (h_handles : Handles start.herdrJob d d')
    (h_at : d.awaiting .starts = pre ++ start :: post) (h_index : pre.length = index)
    (h_phase : start.phase = .snapshot) :
    (d'.onStartSnapshot k index start result).Owes all [] inHand := by
  have h_lease : start.lease = none := h.kept.no_lease (t := .starts) h_at (by
    rw [Awaiting.Fits, h_phase]
    exact JobStage.sent_ne_calling)
  have h_fail : ∀ error, (d'.failStartAt index error).Owes all [] inHand :=
    fun _ => h.failStartAt h_handles h_at h_index
  rw [Daemon.onStartSnapshot.eq_def]
  split
  · split
    · split
      · exact h.openStartLease h_handles h_at h_index rfl rfl h_lease
      · exact h_fail _
    · split
      · exact h_fail _
      · exact h.openStartLease h_handles h_at h_index rfl rfl h_lease
  · exact h_fail _
  · exact h_fail _

theorem Owes.parkInitialMessage {started : DeclaredStart}
    (h : d.Owes all [] inHand) (h_handles : Handles start.herdrJob d d')
    (h_at : d.awaiting .starts = pre ++ start :: post) (h_index : pre.length = index)
    (h_stream : start'.stream = start.stream) (h_id : start'.requestId = start.requestId)
    (h_lease : start'.lease = none) :
    (d'.parkInitialMessage k index start' started).Owes all [] inHand := by
  have h_tickets : [RequestTicket.mk start'.stream start'.requestId] =
      [RequestTicket.mk start.stream start.requestId] := by
    rw [h_stream, h_id]
  rw [Daemon.parkInitialMessage]
  split
  · dsimp only
    split
    · exact h.openInitialMessage h_handles h_at h_index h_stream h_id h_lease rfl
    · exact h.wait (t := .starts) h_handles h_at h_index rfl rfl trivial rfl h_tickets h_lease rfl
  · exact h.failStartAt h_handles h_at h_index

theorem Owes.onStartSend (h : d.Owes all [] inHand) (h_owner : d.herdrOwners j = some .start)
    (h_job : start.herdrJob = some j)
    (h_at : d.awaiting .starts = pre ++ start :: post) (h_index : pre.length = index) :
    ((d.endJob j).onStartSend k index j start).Owes all [] inHand := by
  have h_ended : Handles start.herdrJob d (d.endJob j) := h.ended h_job
  have h_dropped := h_ended.dropLease (h.kept.lease_at (t := .starts) h_at)
  rw [Daemon.onStartSend]
  split
  · exact h.failParkedStart h.kept.handles.endJob h_owner
  · dsimp only
    split
    · exact h.wait (t := .starts) h_dropped h_at h_index rfl rfl trivial rfl rfl rfl rfl
    · exact h.wait (t := .starts) h_dropped h_at h_index rfl rfl trivial rfl rfl rfl trivial
    · exact h.failStartAt h_dropped h_at h_index

theorem Owes.onStartReadyGet (h : d.Owes all [] inHand)
    (h_owner : d.herdrOwners j = some .start) (h_job : start.herdrJob = some j)
    (h_at : d.awaiting .starts = pre ++ start :: post) (h_index : pre.length = index)
    (h_phase : start.phase = .ready) :
    ((d.endJob j).onStartReadyGet k index j start).Owes all [] inHand := by
  have h_ended : Handles start.herdrJob d (d.endJob j) := h.ended h_job
  have h_sound := h.kept.sound_at (t := .starts) h_at
  have h_lease : start.lease = none := h.kept.no_lease (t := .starts) h_at (by
    rw [Awaiting.Fits, h_phase]
    exact JobStage.sent_ne_calling)
  rw [Daemon.onStartReadyGet]
  split
  · exact h.failParkedStart h.kept.handles.endJob h_owner
  · dsimp only
    split
    · refine h.wait (t := .starts) h_ended h_at h_index rfl rfl ?_ rfl rfl h_lease h_sound
      rw [Awaiting.Timed, h_phase]
      trivial
    · exact h.parkInitialMessage h_ended h_at h_index rfl rfl h_lease
    · exact h.failStartAt h_ended h_at h_index

theorem Owes.onStartDone {result : Except HerdrError HerdrJobResult} (h : d.Owes all [] inHand)
    (h_owner : d.herdrOwners j = some .start) (h_stage : d.herdrExec j ≠ some .opening) :
    ((d.endJob j).onStartDone k j result).Owes all [] inHand := by
  rw [Daemon.onStartDone]
  cases h_entry : (d.endJob j).entryForJob .starts j with
  | none => exact h.endIdle (t := .starts) h_owner h_entry
  | some found =>
    obtain ⟨index, start⟩ := found
    obtain ⟨pre, post, h_at, h_index, h_job⟩ := entry_at h_entry
    have h_ended : Handles start.herdrJob d (d.endJob j) := h.ended h_job
    obtain ⟨s, h_s, h_fits⟩ := h.kept.fits_done h_at h_job h_stage
    rw [Awaiting.Fits] at h_fits
    dsimp only
    cases h_phase : start.phase with
    | snapshot => exact h.onStartSnapshot h_ended h_at h_index h_phase
    | sending busyDeadline attemptIndex => exact h.onStartSend h_owner h_job h_at h_index
    | ready => exact h.onStartReadyGet h_owner h_job h_at h_index h_phase
    | initial prepared messageId => exact h.onInitialDone h_ended h_at h_index h_phase
    | opening busyDeadline attemptIndex =>
      rw [h_phase] at h_fits
      exact absurd h_fits h_s
    | busy busyDeadline notBefore =>
      rw [h_phase] at h_fits
      cases h_fits
    | settling prepared messageId untilMs =>
      rw [h_phase] at h_fits
      cases h_fits

theorem Owes.onInitialOpened {prepared : PreparedPrompt} {messageId : MessageId}
    (h : d.Owes all [] inHand) (h_job : start.herdrJob = some j)
    (h_at : d.awaiting .starts = pre ++ start :: post) (h_index : pre.length = index)
    (h_phase : start.phase = .initial prepared messageId) :
    (d.onInitialOpened k index j start).Owes all [] inHand := by
  have h_sound := h.kept.sound_at (t := .starts) h_at
  rw [Daemon.onInitialOpened]
  split
  · split
    · refine h.sent (t := .starts) h_at h_index rfl h_job h_job ?_ rfl rfl rfl h_sound
      rw [Awaiting.Fits, h_phase]
      exact JobStage.sent_ne_calling
    · exact h.answerInitialWithoutWrite h.kept.handles h_at h_index h_phase
  · exact h.answerInitialWithoutWrite (h.ended h_job) h_at h_index h_phase

theorem Owes.onStartOpened (h : d.Owes all [] inHand)
    (h_owner : d.herdrOwners j = some .start) :
    (d.onStartOpened k j).Owes all [] inHand := by
  rw [Daemon.onStartOpened]
  cases h_entry : d.entryForJob .starts j with
  | none => exact h.endIdle (t := .starts) h_owner h_entry
  | some found =>
    obtain ⟨index, start⟩ := found
    obtain ⟨pre, post, h_at, h_index, h_job⟩ := entry_at h_entry
    have h_fail : ∀ error, ((d.endJob j).failParkedStart k j error).Owes all [] inHand :=
      fun _ => h.failParkedStart h.kept.handles.endJob h_owner
    dsimp only
    split
    · exact h.onInitialOpened h_job h_at h_index ‹_›
    · split
      · exact h_fail _
      · split
        · split
          · exact h.sent (t := .starts) h_at h_index rfl h_job h_job rfl rfl rfl rfl trivial
          · have h_sound := h.kept.sound_at (t := .starts) h_at
            have h_set : (d.setAt .starts index
                { start with intentCommitted := true }).Owes all [] inHand :=
              h.keep (t := .starts) h_at h_index rfl rfl (fun _ h_fits => h_fits)
                (fun h_timed => h_timed) rfl rfl rfl h_sound
            exact h_set.failParkedStart h_set.kept.handles h_owner
        · exact h_fail _

theorem Owes.onStartFailed {error : HerdrError} (h : d.Owes all [] inHand)
    (h_owner : d.herdrOwners j = some .start) :
    ((d.endJob j).onStartFailed k j error).Owes all [] inHand := by
  have h_fail : ∀ error, ((d.endJob j).failParkedStart k j error).Owes all [] inHand :=
    fun _ => h.failParkedStart h.kept.handles.endJob h_owner
  rw [Daemon.onStartFailed.eq_def]
  split
  · rename_i code message index start h_entry
    obtain ⟨pre, post, h_at, h_index, h_job⟩ := entry_at h_entry
    split
    · rename_i busyDeadline attemptIndex h_phase
      obtain ⟨-, s, h_s, h_fits⟩ := h.kept.outstanding_at (t := .starts) h_at h_job
      refine h.onStartDone h_owner ?_
      rw [Awaiting.Fits, h_phase] at h_fits
      rw [h_s, h_fits]
      decide
    · exact h_fail _
  · exact h_fail _

theorem Owes.advanceAwaitingStart (h : d.Owes all [] inHand) :
    (d.advanceAwaitingStart k index).Owes all [] inHand := by
  rw [Daemon.advanceAwaitingStart]
  split
  · exact h
  · rename_i start h_entry
    obtain ⟨pre, post, h_at, h_index⟩ := entry_index h_entry
    have h_sound := h.kept.sound_at (t := .starts) h_at
    rw [Awaiting.Sound] at h_sound
    split
    · exact h
    · cases h_phase : start.phase with
      | busy busyDeadline notBefore =>
        have h_lease : start.lease = none := h.kept.no_lease (t := .starts) h_at (by
          rw [Awaiting.Fits, h_phase]
          exact not_false)
        dsimp only
        split
        · exact h
        · split
          · exact h.failStartAt h.kept.handles h_at h_index
          · exact h.resubmit (t := .starts) h.kept.handles h_at h_index rfl rfl rfl rfl rfl rfl
              h_lease trivial
      | ready =>
        have h_lease : start.lease = none := h.kept.no_lease (t := .starts) h_at (by
          rw [Awaiting.Fits, h_phase]
          exact JobStage.sent_ne_calling)
        dsimp only
        split
        · exact h
        · exact h.resubmit (t := .starts) h.kept.handles h_at h_index rfl rfl rfl rfl rfl rfl
            h_lease (h_phase ▸ h_sound)
      | settling prepared messageId untilMs =>
        have h_lease : start.lease = none := h.kept.no_lease (t := .starts) h_at (by
          rw [Awaiting.Fits, h_phase]
          exact not_false)
        rw [h_phase] at h_sound
        dsimp only
        split
        · exact h
        · exact h.openInitialMessage h.kept.handles h_at h_index rfl rfl h_lease h_sound
      | snapshot | opening _ _ | sending _ _ | initial _ _ => exact h

end Starts

-- ============================================================================
-- Clears
-- ============================================================================

section Clears

variable {clear clear' : AwaitingClearRequest} {pre post : List AwaitingClearRequest}

theorem Owes.answerClearSet {result : Except RequestError ClearResult}
    (h : d.Owes all [] inHand) (h_handles : Handles clear.herdrJob d d')
    (h_at : d.awaiting .clears = pre ++ clear :: post) (h_index : pre.length = index)
    (h_stream : clear'.stream = clear.stream) (h_id : clear'.requestId = clear.requestId)
    (h_lease : ∀ j ∈ clear'.lease, clear.herdrJob = some j) :
    ((d'.setAt .clears index clear').answerClearAt index result).Owes all [] inHand := by
  have h_taken : (((d'.setAt .clears index clear').removeAt .clears index).dropLease
      clear'.lease).Owes all [⟨clear.stream, clear.requestId⟩] inHand :=
    h.takeSet (t := .clears) h_handles h_at h_index rfl rfl h_lease
  rw [Daemon.answerClearAt, setAt_at (t := .clears) h_handles h_at h_index]
  dsimp only
  rw [h_stream, h_id]
  exact h_taken.answer

theorem Owes.answerClearAt {result : Except RequestError ClearResult}
    (h : d.Owes all [] inHand) (h_handles : Handles clear.herdrJob d d')
    (h_at : d.awaiting .clears = pre ++ clear :: post) (h_index : pre.length = index) :
    (d'.answerClearAt index result).Owes all [] inHand := by
  have h_set : ((d'.setAt .clears index clear).answerClearAt index result).Owes all [] inHand :=
    h.answerClearSet h_handles h_at h_index rfl rfl (h.kept.lease_at (t := .clears) h_at)
  rwa [setAt_self (t := .clears) h_handles h_at h_index] at h_set

theorem Owes.failParkedClear {error : RequestError} (h : d.Owes all [] inHand)
    (h_handles : Handles (some j) d d') (h_owner : d.herdrOwners j = some .clear) :
    (d'.failParkedClear j error).Owes all [] inHand := by
  rw [Daemon.failParkedClear]
  cases h_entry : d'.entryForJob .clears j with
  | none => exact h.idleAt (t := .clears) h_handles h_owner h_entry
  | some found =>
    obtain ⟨index, clear⟩ := found
    obtain ⟨pre, post, h_at, h_index, h_job⟩ := entry_at h_entry
    rw [h_handles.awaiting] at h_at
    rw [← h_job] at h_handles
    exact h.answerClearAt h_handles h_at h_index

theorem Owes.onClearOpened (h : d.Owes all [] inHand)
    (h_owner : d.herdrOwners j = some .clear)
    (h_stage : d.herdrExec j = some .opening ∨ d.herdrExec j = none) :
    (d.onClearOpened k j).Owes all [] inHand := by
  rw [Daemon.onClearOpened]
  cases h_entry : d.entryForJob .clears j with
  | none => exact h.endIdle (t := .clears) h_owner h_entry
  | some found =>
    obtain ⟨index, clear⟩ := found
    obtain ⟨pre, post, h_at, h_index, h_job⟩ := entry_at h_entry
    have h_fits := h.kept.fits_opened h_at h_job h_stage
    rw [Awaiting.Fits] at h_fits
    dsimp only
    cases h_state : clear.state with
    | sending resolved paneId operationId =>
      dsimp only
      split
      · split
        · exact h.sent (t := .clears) h_at h_index rfl h_job h_job JobStage.sent_ne_calling rfl rfl
            rfl trivial
        · exact h.failParkedClear h.kept.handles h_owner
      · exact h.failParkedClear h.kept.handles.endJob h_owner
    | settling resolved notBeforeMs =>
      rw [h_state] at h_fits
      cases h_fits
    | probe resolved paneId =>
      rw [h_state] at h_fits
      cases h_fits
    | rotation awaiting =>
      rw [h_state] at h_fits
      cases h_fits

theorem Owes.onClearProbe {resolved : ResolvedClear} {paneId : String}
    {result : Except HerdrError HerdrJobResult} (h : d.Owes all [] inHand)
    (h_owner : d.herdrOwners j = some .clear) (h_job : clear.herdrJob = some j)
    (h_at : d.awaiting .clears = pre ++ clear :: post) (h_index : pre.length = index)
    (h_state : clear.state = .probe resolved paneId) :
    ((d.endJob j).onClearProbe k index j clear result).Owes all [] inHand := by
  have h_ended : Handles clear.herdrJob d (d.endJob j) := h.ended h_job
  have h_lease : clear.lease = none := h.kept.no_lease (t := .clears) h_at (by
    rw [Awaiting.Fits, h_state]
    exact JobStage.sent_ne_calling)
  have h_fail : ∀ error, ((d.endJob j).failParkedClear j error).Owes all [] inHand :=
    fun _ => h.failParkedClear h.kept.handles.endJob h_owner
  rw [Daemon.onClearProbe.eq_def]
  split
  · rw [h_state]
    dsimp only
    split
    · exact h.resubmit (t := .clears) h_ended h_at h_index rfl rfl rfl
        JobStage.opening_ne_calling rfl rfl h_lease
        trivial
    · exact h.answerClearAt h_ended h_at h_index
  · exact h_fail _
  · exact h_fail _

theorem Owes.onClearCommand {resolved : ResolvedClear} {paneId : String}
    {operationId : OperationId} (h : d.Owes all [] inHand)
    (h_entry : d.entryForJob .clears j = some (index, clear))
    (h_state : clear.state = .sending resolved paneId operationId) :
    ((d.endJob j).onClearCommand k index j clear).Owes all [] inHand := by
  obtain ⟨pre, post, h_at, h_index, h_job⟩ := entry_at h_entry
  have h_ended : Handles clear.herdrJob d (d.endJob j) := h.ended h_job
  have h_dropped : Handles clear.herdrJob d ((d.endJob j).dropLease clear.lease) :=
    h_ended.dropLease (h.kept.lease_at (t := .clears) h_at)
  have h_none : ∀ j ∈ (none : Option JobId), clear.herdrJob = some j :=
    fun _ h_j => absurd h_j (Option.not_mem_none _)
  rw [Daemon.onClearCommand, h_state]
  dsimp only
  split
  · exact h.answerClearSet h_dropped h_at h_index rfl rfl h_none
  · rw [Daemon.startClearRotationGet]
    dsimp only
    rw [setAt_submit_setAt (t := .clears)]
    exact h.resubmit (t := .clears) h_dropped h_at h_index rfl rfl rfl rfl rfl rfl rfl trivial
  · rw [Daemon.failParkedClear, entry_setAt (t := .clears) h_dropped h_entry]
    · exact h.answerClearSet h_dropped h_at h_index rfl rfl h_none
    · exact h_job

theorem Owes.onClearRotation {awaiting : AwaitingClear}
    {result : Except HerdrError HerdrJobResult} (h : d.Owes all [] inHand)
    (h_handles : Handles clear.herdrJob d d')
    (h_at : d.awaiting .clears = pre ++ clear :: post) (h_index : pre.length = index)
    (h_state : clear.state = .rotation awaiting)
    (h_observed : (applyClearRotationObservation k awaiting (rotationObserved result)).isOk) :
    (d'.onClearRotation k index j clear result).Owes all [] inHand := by
  have h_lease : clear.lease = none := h.kept.no_lease (t := .clears) h_at (by
    rw [Awaiting.Fits, h_state]
    exact JobStage.sent_ne_calling)
  rw [Daemon.onClearRotation, h_state]
  dsimp only
  split
  · refine h.wait (t := .clears) h_handles h_at h_index rfl rfl ?_ rfl rfl h_lease trivial
    trivial
  · refine h.answerClearSet h_handles h_at h_index rfl rfl ?_
    rw [h_lease]
    exact fun _ h_j => absurd h_j (Option.not_mem_none _)
  · rename_i error h_error
    rw [h_error] at h_observed
    cases h_observed

theorem Owes.onClearDone {result : Except HerdrError HerdrJobResult} (h : d.Owes all [] inHand)
    (h_owner : d.herdrOwners j = some .clear)
    (h_observed : ∀ index clear awaiting, d.entryForJob .clears j = some (index, clear) →
      clear.state = .rotation awaiting →
      (applyClearRotationObservation k awaiting (rotationObserved result)).isOk) :
    ((d.endJob j).onClearDone k j result).Owes all [] inHand := by
  rw [Daemon.onClearDone]
  cases h_entry : (d.endJob j).entryForJob .clears j with
  | none => exact h.endIdle (t := .clears) h_owner h_entry
  | some found =>
    obtain ⟨index, clear⟩ := found
    obtain ⟨pre, post, h_at, h_index, h_job⟩ := entry_at h_entry
    dsimp only
    cases h_state : clear.state with
    | probe resolved paneId => exact h.onClearProbe h_owner h_job h_at h_index h_state
    | sending resolved paneId operationId => exact h.onClearCommand h_entry h_state
    | rotation awaiting =>
      exact h.onClearRotation (h.ended h_job) h_at h_index h_state
        (h_observed index clear awaiting h_entry h_state)
    | settling resolved notBeforeMs =>
      obtain ⟨-, s, -, h_fits⟩ := h.kept.outstanding_at (t := .clears) h_at h_job
      rw [Awaiting.Fits, h_state] at h_fits
      cases h_fits

theorem Owes.advanceAwaitingClear (h : d.Owes all [] inHand) :
    (d.advanceAwaitingClear k index).Owes all [] inHand := by
  rw [Daemon.advanceAwaitingClear]
  split
  · exact h
  · rename_i clear h_entry
    obtain ⟨pre, post, h_at, h_index⟩ := entry_index h_entry
    split
    · exact h
    · cases h_state : clear.state with
      | settling resolved notBeforeMs =>
        have h_lease : clear.lease = none := h.kept.no_lease (t := .clears) h_at (by
          rw [Awaiting.Fits, h_state]
          exact not_false)
        dsimp only
        split
        · exact h
        · split
          · exact h.answerClearAt h.kept.handles h_at h_index
          · exact h.resubmit (t := .clears) h.kept.handles h_at h_index rfl rfl rfl rfl rfl rfl
              h_lease trivial
      | rotation awaiting =>
        have h_lease : clear.lease = none := h.kept.no_lease (t := .clears) h_at (by
          rw [Awaiting.Fits, h_state]
          exact JobStage.sent_ne_calling)
        dsimp only
        rw [Daemon.startClearRotationGet, h_state]
        exact h.resubmit (t := .clears) h.kept.handles h_at h_index rfl rfl rfl rfl rfl rfl h_lease
          trivial
      | probe _ _ | sending _ _ _ => exact h

end Clears

end Daemon

end Kelpie
