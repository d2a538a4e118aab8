/-
  Kelpie.Serving.Panes

  The handlers of retirements, renames, adoptions and reads: each event answers the
  request of its entry, keeps it parked, or hands it on to another table.
-/

import Kelpie.Serving.Steps

namespace Kelpie

open Lib

namespace Daemon

variable {d d' : Daemon} {index : Nat} {j : JobId} {inHand : NoticeSession → Nat}
  {all : Multiset RequestTicket}

-- ============================================================================
-- Retirements
-- ============================================================================

section Retires

variable {retire retire' : AwaitingRetireClose} {pre post : List AwaitingRetireClose}
  {k : KelpieCalls}

theorem Owes.answerRetireSet {result : Except RequestError (OperationId × Bool)}
    (h : d.Owes all [] inHand) (h_handles : Handles retire.herdrJob d d')
    (h_at : d.awaiting .retires = pre ++ retire :: post) (h_index : pre.length = index)
    (h_stream : retire'.stream = retire.stream) (h_id : retire'.requestId = retire.requestId)
    (h_lease : ∀ j ∈ retire'.lease, retire.herdrJob = some j) :
    ((d'.setAt .retires index retire').answerRetireAt index result).Owes all [] inHand := by
  rw [Daemon.answerRetireAt, setAt_at (t := .retires) h_handles h_at h_index]
  dsimp only
  rw [h_stream, h_id]
  exact (h.takeSet (t := .retires) h_handles h_at h_index rfl rfl h_lease).answer

theorem Owes.answerRetireAt {result : Except RequestError (OperationId × Bool)}
    (h : d.Owes all [] inHand) (h_handles : Handles retire.herdrJob d d')
    (h_at : d.awaiting .retires = pre ++ retire :: post) (h_index : pre.length = index) :
    (d'.answerRetireAt index result).Owes all [] inHand := by
  have h_set : ((d'.setAt .retires index retire).answerRetireAt index result).Owes all [] inHand :=
    h.answerRetireSet h_handles h_at h_index rfl rfl (h.kept.lease_at (t := .retires) h_at)
  rwa [setAt_self (t := .retires) h_handles h_at h_index] at h_set

theorem Owes.onRetireOpened (h : d.Owes all [] inHand)
    (h_owner : d.herdrOwners j = some .retire)
    (h_stage : d.herdrExec j = some .opening ∨ d.herdrExec j = none) :
    (d.onRetireOpened k j).Owes all [] inHand := by
  rw [Daemon.onRetireOpened]
  cases h_entry : d.entryForJob .retires j with
  | none => exact h.endIdle (t := .retires) h_owner h_entry
  | some found =>
    obtain ⟨index, retire⟩ := found
    obtain ⟨pre, post, h_at, h_index, h_job⟩ := entry_at h_entry
    have h_fits := h.kept.fits_opened h_at h_job h_stage
    rw [Awaiting.Fits] at h_fits
    dsimp only
    cases h_state : retire.state with
    | snapshot preflight =>
      rw [h_state] at h_fits
      cases h_fits
    | confirm work =>
      rw [h_state] at h_fits
      cases h_fits
    | closing work =>
      dsimp only
      split
      · exact h.sent (t := .retires) h_at h_index rfl h_job h_job JobStage.sent_ne_calling rfl
          rfl rfl trivial
      · exact h.answerRetireAt h.kept.handles h_at h_index

theorem Owes.onRetireDone {result : Except HerdrError HerdrJobResult} (h : d.Owes all [] inHand)
    (h_owner : d.herdrOwners j = some .retire) :
    ((d.endJob j).onRetireDone k j result).Owes all [] inHand := by
  rw [Daemon.onRetireDone]
  cases h_entry : (d.endJob j).entryForJob .retires j with
  | none => exact h.endIdle (t := .retires) h_owner h_entry
  | some found =>
    obtain ⟨index, retire⟩ := found
    obtain ⟨pre, post, h_at, h_index, h_job⟩ := entry_at h_entry
    have h_ended : Handles retire.herdrJob d (d.endJob j) := h.ended h_job
    dsimp only
    cases h_state : retire.state with
    | snapshot preflight =>
      dsimp only
      split
      · split
        · exact h.answerRetireAt h_ended h_at h_index
        · have h_lease := h.kept.no_lease h_at (by
            rw [Awaiting.Fits, h_state]
            exact JobStage.sent_ne_calling)
          exact h.resubmit (t := .retires) h_ended h_at h_index rfl rfl rfl
            JobStage.opening_ne_calling rfl rfl h_lease
            trivial
        · exact h.answerRetireAt h_ended h_at h_index
      · exact h.answerRetireAt h_ended h_at h_index
      · exact h.answerRetireAt h_ended h_at h_index
    | closing work =>
      have h_dropped := h_ended.dropLease (h.kept.lease_at (t := .retires) h_at)
      have h_none : ∀ j ∈ (none : Option JobId), retire.herdrJob = some j := 
          fun _ h_j => absurd h_j (Option.not_mem_none _)
      dsimp only
      split
      · rw [setAt_submit_setAt (t := .retires)]
        exact h.resubmit (t := .retires) h_dropped h_at h_index rfl rfl rfl rfl rfl rfl rfl trivial
      · exact h.answerRetireSet h_dropped h_at h_index rfl rfl h_none
      · exact h.answerRetireSet h_dropped h_at h_index rfl rfl h_none
    | confirm work => exact h.answerRetireAt h_ended h_at h_index

theorem Owes.onRetireFailed {phase : FailPhase} {source : HerdrError} (h : d.Owes all [] inHand)
    (h_owner : d.herdrOwners j = some .retire) :
    ((d.endJob j).onRetireFailed j phase source).Owes all [] inHand := by
  rw [Daemon.onRetireFailed]
  cases h_entry : (d.endJob j).entryForJob .retires j with
  | none => exact h.endIdle (t := .retires) h_owner h_entry
  | some found =>
    obtain ⟨index, retire⟩ := found
    obtain ⟨pre, post, h_at, h_index, h_job⟩ := entry_at h_entry
    exact h.answerRetireAt (h.ended h_job) h_at h_index

end Retires

-- ============================================================================
-- Renames
-- ============================================================================

section Renames

variable {rename rename' : AwaitingRename} {pre post : List AwaitingRename} {k : KelpieCalls}

theorem Owes.answerRenameSet {result : Except RequestError ReadyIdentity}
    (h : d.Owes all [] inHand) (h_handles : Handles rename.herdrJob d d')
    (h_at : d.awaiting .renames = pre ++ rename :: post) (h_index : pre.length = index)
    (h_stream : rename'.stream = rename.stream) (h_id : rename'.requestId = rename.requestId)
    (h_lease : ∀ j ∈ rename'.lease, rename.herdrJob = some j) :
    ((d'.setAt .renames index rename').answerRenameAt k index result).Owes all [] inHand := by
  have h_taken : (((d'.setAt .renames index rename').removeAt .renames index).dropLease
      rename'.lease).Owes all [⟨rename.stream, rename.requestId⟩] inHand :=
    h.takeSet (t := .renames) h_handles h_at h_index rfl rfl h_lease
  rw [Daemon.answerRenameAt, setAt_at (t := .renames) h_handles h_at h_index]
  dsimp only
  rw [h_stream, h_id]
  split
  · split
    · exact h_taken.parkRead trivial
    · exact h_taken.answer
  · exact h_taken.answer

theorem Owes.answerRenameAt {result : Except RequestError ReadyIdentity}
    (h : d.Owes all [] inHand) (h_handles : Handles rename.herdrJob d d')
    (h_at : d.awaiting .renames = pre ++ rename :: post) (h_index : pre.length = index) :
    (d'.answerRenameAt k index result).Owes all [] inHand := by
  have h_set : ((d'.setAt .renames index rename).answerRenameAt k index result).Owes all []
      inHand :=
    h.answerRenameSet h_handles h_at h_index rfl rfl (h.kept.lease_at (t := .renames) h_at)
  rwa [setAt_self (t := .renames) h_handles h_at h_index] at h_set

theorem Owes.onRenameOpened (h : d.Owes all [] inHand)
    (h_owner : d.herdrOwners j = some .rename)
    (h_stage : d.herdrExec j = some .opening ∨ d.herdrExec j = none) :
    (d.onRenameOpened k j).Owes all [] inHand := by
  rw [Daemon.onRenameOpened]
  cases h_entry : d.entryForJob .renames j with
  | none => exact h.endIdle (t := .renames) h_owner h_entry
  | some found =>
    obtain ⟨index, rename⟩ := found
    obtain ⟨pre, post, h_at, h_index, h_job⟩ := entry_at h_entry
    have h_fits := h.kept.fits_opened h_at h_job h_stage
    have h_send : ∀ work,
        ((d.sentOn j).setAt .renames index
          { rename with state := .sending work, lease := some j }).Owes all [] inHand := fun work =>
      h.sent (t := .renames) h_at h_index rfl h_job h_job rfl rfl rfl rfl trivial
    rw [Awaiting.Fits] at h_fits
    dsimp only
    cases h_state : rename.state with
    | snapshot preflight =>
      rw [h_state] at h_fits
      cases h_fits
    | sending work =>
      rw [h_state] at h_fits
      cases h_fits
    | confirm work =>
      rw [h_state] at h_fits
      cases h_fits
    | opening preflight =>
      dsimp only
      split
      · split
        · exact h_send _
        · exact h.answerRenameAt h.kept.handles h_at h_index
      · exact h.answerRenameAt (h.ended h_job) h_at h_index
    | projectionOpening work =>
      dsimp only
      split
      · exact h_send _
      · exact h.answerRenameAt h.kept.handles h_at h_index

theorem Owes.onRenameDone {result : Except HerdrError HerdrJobResult} (h : d.Owes all [] inHand)
    (h_owner : d.herdrOwners j = some .rename) :
    ((d.endJob j).onRenameDone k j result).Owes all [] inHand := by
  rw [Daemon.onRenameDone]
  cases h_entry : (d.endJob j).entryForJob .renames j with
  | none => exact h.endIdle (t := .renames) h_owner h_entry
  | some found =>
    obtain ⟨index, rename⟩ := found
    obtain ⟨pre, post, h_at, h_index, h_job⟩ := entry_at h_entry
    have h_ended : Handles rename.herdrJob d (d.endJob j) := h.ended h_job
    have h_fail : ∀ error, ((d.endJob j).answerRenameAt k index error).Owes all [] inHand :=
      fun _ => h.answerRenameAt h_ended h_at h_index
    dsimp only
    cases h_state : rename.state with
    | snapshot preflight =>
      have h_lease := h.kept.no_lease h_at (by
        rw [Awaiting.Fits, h_state]
        exact JobStage.sent_ne_calling)
      dsimp only
      split
      · split
        · exact h.resubmit (t := .renames) h_ended h_at h_index rfl rfl rfl rfl rfl rfl h_lease
            trivial
        · exact h_fail _
      · exact h_fail _
      · exact h_fail _
    | opening preflight => exact h_fail _
    | projectionOpening work => exact h_fail _
    | sending work =>
      have h_dropped := h_ended.dropLease (h.kept.lease_at (t := .renames) h_at)
      have h_none : ∀ j ∈ (none : Option JobId), rename.herdrJob = some j := 
          fun _ h_j => absurd h_j (Option.not_mem_none _)
      dsimp only
      split
      · rw [setAt_submit_setAt (t := .renames)]
        exact h.resubmit (t := .renames) h_dropped h_at h_index rfl rfl rfl rfl rfl rfl rfl trivial
      · exact h.answerRenameSet h_dropped h_at h_index rfl rfl h_none
      · exact h.answerRenameSet h_dropped h_at h_index rfl rfl h_none
    | confirm work =>
      have h_lease := h.kept.lease_at (t := .renames) h_at
      dsimp only
      split
      · exact h.answerRenameSet h_ended h_at h_index rfl rfl h_lease
      · exact h_fail _
      · exact h_fail _

theorem Owes.onRenameFailed {phase : FailPhase} {source : HerdrError} (h : d.Owes all [] inHand)
    (h_owner : d.herdrOwners j = some .rename) :
    ((d.endJob j).onRenameFailed k j phase source).Owes all [] inHand := by
  rw [Daemon.onRenameFailed]
  cases h_entry : (d.endJob j).entryForJob .renames j with
  | none => exact h.endIdle (t := .renames) h_owner h_entry
  | some found =>
    obtain ⟨index, rename⟩ := found
    obtain ⟨pre, post, h_at, h_index, h_job⟩ := entry_at h_entry
    exact h.answerRenameAt (h.ended h_job) h_at h_index

end Renames

-- ============================================================================
-- Bound requests
-- ============================================================================

theorem beginClear_awaiting {k : KelpieCalls} {state : AwaitingClearState}
    (h : beginClear k = .ok (.awaiting state)) : ∃ clear due, state = .settling clear due := by
  rw [beginClear] at h
  cases h_clear : k.resolveClear with
  | error error =>
    rw [h_clear] at h
    cases h
  | ok clear =>
    rw [h_clear] at h
    cases h
    exact ⟨clear.1, clear.2, rfl⟩

theorem Owes.resumeBoundRequest {k : KelpieCalls} {request : ClientRequest} {stream : StreamId}
    (h : d.Owes all [⟨stream, request.id⟩] inHand) :
    (d.resumeBoundRequest k request stream).Owes all [] inHand := by
  rw [Daemon.resumeBoundRequest]
  split
  · split
    · exact h.answer
    · exact h.parkPrompt rfl (fun _ => ⟨rfl, rfl⟩) rfl
    · exact h.answer
  · split
    · split
      · exact h.answer
      · rename_i state h_begin
        obtain ⟨clear, due, rfl⟩ := beginClear_awaiting h_begin
        exact h.parkClear rfl rfl rfl
      · exact h.answer
    · exact h.answer

-- ============================================================================
-- Adoptions
-- ============================================================================

section Adopts

variable {adopt adopt' : AwaitingAdopt} {pre post : List AwaitingAdopt} {k : KelpieCalls}

theorem Owes.answerAdoptSet {created : Except RequestError DeclaredStart}
    (h : d.Owes all [] inHand) (h_handles : Handles adopt.herdrJob d d')
    (h_at : d.awaiting .adopts = pre ++ adopt :: post) (h_index : pre.length = index)
    (h_stream : adopt'.stream = adopt.stream) (h_id : adopt'.requestId = adopt.requestId)
    (h_resume : adopt'.resume = adopt.resume)
    (h_lease : ∀ j ∈ adopt'.lease, adopt.herdrJob = some j) :
    ((d'.setAt .adopts index adopt').answerAdoptAt k index created).Owes all [] inHand := by
  have h_taken : (((d'.setAt .adopts index adopt').removeAt .adopts index).dropLease
      adopt'.lease).Owes all [⟨adopt.stream, adopt.requestId⟩] inHand :=
    h.takeSet (t := .adopts) h_handles h_at h_index rfl rfl h_lease
  have h_sound : ∀ resume ∈ adopt.resume, resume.id = adopt.requestId :=
    h.kept.sound_at (t := .adopts) h_at
  rw [Daemon.answerAdoptAt, setAt_at (t := .adopts) h_handles h_at h_index]
  dsimp only
  rw [h_stream, h_id, h_resume]
  split
  · rename_i resume created h_some
    have h_id := h_sound resume h_some
    refine Owes.resumeBoundRequest ?_
    rw [h_id]
    exact h_taken
  · exact h_taken.answer
  · exact h_taken.answer

theorem Owes.answerAdoptAt {created : Except RequestError DeclaredStart}
    (h : d.Owes all [] inHand) (h_handles : Handles adopt.herdrJob d d')
    (h_at : d.awaiting .adopts = pre ++ adopt :: post) (h_index : pre.length = index) :
    (d'.answerAdoptAt k index created).Owes all [] inHand := by
  have h_set : ((d'.setAt .adopts index adopt).answerAdoptAt k index created).Owes all [] inHand :=
    h.answerAdoptSet h_handles h_at h_index rfl rfl rfl (h.kept.lease_at (t := .adopts) h_at)
  rwa [setAt_self (t := .adopts) h_handles h_at h_index] at h_set

theorem Owes.failParkedAdopt {error : RequestError} (h : d.Owes all [] inHand)
    (h_handles : Handles (some j) d d') (h_owner : d.herdrOwners j = some .adopt) :
    (d'.failParkedAdopt k j error).Owes all [] inHand := by
  rw [Daemon.failParkedAdopt]
  cases h_entry : d'.entryForJob .adopts j with
  | none => exact h.idleAt (t := .adopts) h_handles h_owner h_entry
  | some found =>
    obtain ⟨index, adopt⟩ := found
    obtain ⟨pre, post, h_at, h_index, h_job⟩ := entry_at h_entry
    rw [h_handles.awaiting] at h_at
    rw [← h_job] at h_handles
    exact h.answerAdoptAt h_handles h_at h_index

theorem Owes.onAdoptOpened (h : d.Owes all [] inHand)
    (h_owner : d.herdrOwners j = some .adopt)
    (h_stage : d.herdrExec j = some .opening ∨ d.herdrExec j = none) :
    (d.onAdoptOpened k j).Owes all [] inHand := by
  rw [Daemon.onAdoptOpened]
  cases h_entry : d.entryForJob .adopts j with
  | none => exact h.endIdle (t := .adopts) h_owner h_entry
  | some found =>
    obtain ⟨index, adopt⟩ := found
    obtain ⟨pre, post, h_at, h_index, h_job⟩ := entry_at h_entry
    have h_fits := h.kept.fits_opened h_at h_job h_stage
    have h_sound : Awaiting.Sound .adopts adopt := h.kept.sound_at h_at
    rw [Awaiting.Fits] at h_fits
    dsimp only
    split
    · split
      · split
        · exact h.sent (t := .adopts) h_at h_index rfl h_job h_job JobStage.sent_ne_calling rfl rfl
            rfl h_sound
        · exact h.failParkedAdopt h.kept.handles h_owner
      · exact h.failParkedAdopt h.kept.handles.endJob h_owner
    · rename_i h_state
      rw [h_state] at h_fits
      cases h_fits
    · rename_i h_state
      rw [h_state] at h_fits
      cases h_fits

theorem Owes.onAdoptSnapshot {adopt : AwaitingAdopt} {intent : AdoptIntent}
    {result : Except HerdrError HerdrJobResult} (h : d.Owes all [] inHand)
    (h_handles : Handles adopt.herdrJob d d')
    (h_at : d.awaiting .adopts = pre ++ adopt :: post) (h_index : pre.length = index)
    (h_state : adopt.state = .snapshot intent) :
    (d'.onAdoptSnapshot k index adopt result).Owes all [] inHand := by
  have h_sound : Awaiting.Sound .adopts adopt := h.kept.sound_at h_at
  have h_lease := h.kept.no_lease h_at (by
    rw [Awaiting.Fits, h_state]
    exact JobStage.sent_ne_calling)
  have h_fail : ∀ created, (d'.answerAdoptAt k index created).Owes all [] inHand :=
    fun _ => h.answerAdoptAt h_handles h_at h_index
  rw [Daemon.onAdoptSnapshot.eq_def]
  split
  · split
    · exact h_fail _
    · exact h.resubmit (t := .adopts) h_handles h_at h_index rfl rfl rfl
        JobStage.opening_ne_calling rfl rfl h_lease
        h_sound
    · exact h_fail _
  · exact h_fail _
  · exact h_fail _

theorem Owes.onAdoptRenamed {adopt : AwaitingAdopt} {work : AdoptRename}
    {result : Except HerdrError HerdrJobResult} (h : d.Owes all [] inHand)
    (h_handles : Handles adopt.herdrJob d d')
    (h_at : d.awaiting .adopts = pre ++ adopt :: post) (h_index : pre.length = index) :
    (d'.onAdoptRenamed k index adopt work result).Owes all [] inHand := by
  have h_sound : Awaiting.Sound .adopts adopt := h.kept.sound_at h_at
  have h_dropped := h_handles.dropLease (h.kept.lease_at (t := .adopts) h_at)
  have h_none : ∀ j ∈ (none : Option JobId), adopt.herdrJob = some j := 
          fun _ h_j => absurd h_j (Option.not_mem_none _)
  rw [Daemon.onAdoptRenamed.eq_def]
  dsimp only
  split
  · rw [setAt_submit_setAt (t := .adopts)]
    exact h.resubmit (t := .adopts) h_dropped h_at h_index rfl rfl rfl rfl rfl rfl rfl h_sound
  · exact h.answerAdoptSet h_dropped h_at h_index rfl rfl rfl h_none
  · exact h.answerAdoptSet h_dropped h_at h_index rfl rfl rfl h_none

theorem Owes.onAdoptConfirm {adopt : AwaitingAdopt}
    {result : Except HerdrError HerdrJobResult} (h : d.Owes all [] inHand)
    (h_handles : Handles adopt.herdrJob d d')
    (h_at : d.awaiting .adopts = pre ++ adopt :: post) (h_index : pre.length = index) :
    (d'.onAdoptConfirm k index adopt result).Owes all [] inHand := by
  have h_fail : ∀ created, (d'.answerAdoptAt k index created).Owes all [] inHand :=
    fun _ => h.answerAdoptAt h_handles h_at h_index
  rw [Daemon.onAdoptConfirm.eq_def]
  split
  · split
    · split
      · rw [Daemon.answerWhoAdoptAt, awaiting_at (t := .adopts) h_handles h_at h_index]
        exact (h.takeOut (t := .adopts) h_handles h_at h_index rfl rfl
          (h.kept.lease_at (t := .adopts) h_at)).answer
      · exact h_fail _
      · exact h_fail _
    · exact h_fail _
  · exact h_fail _
  · exact h_fail _

theorem Owes.onAdoptDone {result : Except HerdrError HerdrJobResult} (h : d.Owes all [] inHand)
    (h_owner : d.herdrOwners j = some .adopt) :
    ((d.endJob j).onAdoptDone k j result).Owes all [] inHand := by
  rw [Daemon.onAdoptDone]
  cases h_entry : (d.endJob j).entryForJob .adopts j with
  | none => exact h.endIdle (t := .adopts) h_owner h_entry
  | some found =>
    obtain ⟨index, adopt⟩ := found
    obtain ⟨pre, post, h_at, h_index, h_job⟩ := entry_at h_entry
    have h_ended : Handles adopt.herdrJob d (d.endJob j) := h.ended h_job
    dsimp only
    split
    · exact h.onAdoptSnapshot h_ended h_at h_index ‹_›
    · exact h.onAdoptRenamed h_ended h_at h_index
    · exact h.onAdoptConfirm h_ended h_at h_index

theorem Owes.onAdoptFailed {source : HerdrError} (h : d.Owes all [] inHand)
    (h_owner : d.herdrOwners j = some .adopt) :
    ((d.endJob j).onAdoptFailed k j source).Owes all [] inHand := by
  rw [Daemon.onAdoptFailed]
  cases h_entry : (d.endJob j).entryForJob .adopts j with
  | none => exact h.endIdle (t := .adopts) h_owner h_entry
  | some found =>
    obtain ⟨index, adopt⟩ := found
    obtain ⟨pre, post, h_at, h_index, h_job⟩ := entry_at h_entry
    exact h.answerAdoptAt (h.ended h_job) h_at h_index

theorem Owes.parkAdoptRename {read : AwaitingRead} {reply : AdoptReply}
    {resume : Option ClientRequest} {work : AdoptRename}
    (h : d.Owes all [⟨read.stream, read.requestId⟩] inHand)
    (h_resume : ∀ request ∈ resume, request.id = read.requestId) :
    (d.parkAdoptRename read reply resume work).Owes all [] inHand :=
  h.park (t := .adopts) rfl rfl rfl JobStage.opening_ne_calling rfl rfl rfl h_resume

end Adopts

-- ============================================================================
-- Reads
-- ============================================================================

section Reads

variable {k : KelpieCalls} {read : AwaitingRead}

theorem Owes.finishRecoverSnapshot {namesReprojected : Nat} {snapshot : Snapshot}
    (h : d.Owes all [⟨read.stream, read.requestId⟩] inHand) :
    (d.finishRecoverSnapshot k read namesReprojected snapshot).Owes all [] inHand := by
  rw [Daemon.finishRecoverSnapshot]
  split
  · exact h.park (t := .renames) rfl rfl rfl rfl rfl rfl rfl trivial
  · exact h.answer
  · exact h.answer

theorem Owes.finishWhoamiSnapshot (h : d.Owes all [⟨read.stream, read.requestId⟩] inHand) :
    (d.finishWhoamiSnapshot k read).Owes all [] inHand := by
  rw [Daemon.finishWhoamiSnapshot]
  split
  · exact h.answer
  · exact h.parkAdoptRename fun _ h_none => nomatch h_none
  · exact h.answer

theorem Owes.finishWhoSnapshot {refresh : Bool}
    (h : d.Owes all [⟨read.stream, read.requestId⟩] inHand) :
    (d.finishWhoSnapshot k read refresh).Owes all [] inHand := by
  rw [Daemon.finishWhoSnapshot]
  split
  · exact h.answer
  · exact h.parkAdoptRename fun _ h_none => nomatch h_none
  · exact h.answer

theorem Owes.finishAliasSnapshot {resume : ClientRequest}
    (h : d.Owes all [⟨read.stream, read.requestId⟩] inHand)
    (h_resume : resume.id = read.requestId) :
    (d.finishAliasSnapshot k read resume).Owes all [] inHand := by
  rw [Daemon.finishAliasSnapshot]
  split
  · refine Owes.resumeBoundRequest ?_
    rw [h_resume]
    exact h
  · refine h.parkAdoptRename fun request h_some => ?_
    obtain rfl : resume = request := Option.some.inj h_some
    exact h_resume
  · exact h.answer

theorem Owes.takeRead {pre post : List (JobId × AwaitingRead)} (h : d.Owes all [] inHand)
    (h_at : d.awaiting .reads = pre ++ (j, read) :: post) (h_index : pre.length = index) :
    ((d.endJob j).removeAt .reads index).Owes all [⟨read.stream, read.requestId⟩] inHand :=
  have h_none : ∀ i ∈ (none : Option JobId), some j = some i := fun _ h_i => nomatch h_i
  h.takeOut (t := .reads) (h.ended rfl) h_at h_index rfl rfl h_none

theorem Owes.onClientReadDone {result : Except HerdrError HerdrJobResult}
    (h : d.Owes all [] inHand) (h_owner : d.herdrOwners j = some .clientRead) :
    ((d.endJob j).onClientReadDone k j result).Owes all [] inHand := by
  rw [Daemon.onClientReadDone]
  cases h_entry : (d.endJob j).entryForJob .reads j with
  | none => exact h.endIdle (t := .reads) h_owner h_entry
  | some found =>
    obtain ⟨index, j', read⟩ := found
    obtain ⟨pre, post, h_at, h_index, h_job⟩ := entry_at h_entry
    obtain rfl : j' = j := Option.some.inj h_job
    have h_taken := h.takeRead h_at h_index
    have h_sound := h.kept.sound_at (t := .reads) h_at
    rw [Awaiting.Sound] at h_sound
    dsimp only
    split
    · exact h_taken.finishRecoverSnapshot
    · exact h_taken.answer
    · exact h_taken.finishWhoamiSnapshot
    · rename_i h_kind
      rw [h_kind] at h_sound
      exact h_taken.finishAliasSnapshot h_sound
    · exact h_taken.answer
    · exact h_taken.answer
    · exact h_taken.finishWhoSnapshot
    · exact h_taken.answer
    · exact h_taken.answer

theorem Owes.failClientRead {error : RequestError} (h : d.Owes all [] inHand)
    (h_owner : d.herdrOwners j = some .clientRead) :
    ((d.endJob j).failClientRead j error).Owes all [] inHand := by
  rw [Daemon.failClientRead]
  cases h_entry : (d.endJob j).entryForJob .reads j with
  | none => exact h.endIdle (t := .reads) h_owner h_entry
  | some found =>
    obtain ⟨index, j', read⟩ := found
    obtain ⟨pre, post, h_at, h_index, h_job⟩ := entry_at h_entry
    obtain rfl : j' = j := Option.some.inj h_job
    exact (h.takeRead h_at h_index).answer

end Reads

end Daemon

end Kelpie
