/-
  Kelpie.Serving.Notices

  The handlers of prompts, and the sessions whose request is answered once their
  notices are through.
-/

import Kelpie.Serving.Steps

namespace Kelpie

open Lib

theorem oneOf_self {x : NoticeSession} : oneOf (some x) x = 1 := if_pos rfl

theorem oneOf_of_ne {x y : NoticeSession} (h : y ≠ x) : oneOf (some x) y = 0 :=
  if_neg fun h_eq => h (Option.some.inj h_eq).symm

/-- A table whose entries wait for no job. -/
structure Awaiting.Quiet (t : Awaiting) : Prop where
  job : ∀ e, t.job e = none
  timed : ∀ e, t.Timed e
  lease : ∀ e, t.lease e = none
  sound : ∀ e, t.Sound e

namespace Daemon

variable {d d' : Daemon} {t : Awaiting} {e e' : t.Entry} {pre post entries : List t.Entry}
  {index : Nat} {j : JobId} {inHand inHand' : NoticeSession → Nat}
  {all : Multiset RequestTicket} {ts : List RequestTicket} {k : KelpieCalls}

-- ============================================================================
-- Entries without a job
-- ============================================================================

section Quiet

theorem quiet_replies : Awaiting.Quiet .replies :=
  ⟨fun _ => rfl, fun _ => trivial, fun _ => rfl, fun _ => trivial⟩

theorem quiet_cancels : Awaiting.Quiet .cancels :=
  ⟨fun _ => rfl, fun _ => trivial, fun _ => rfl, fun _ => trivial⟩

theorem quiet_waiterRetires : Awaiting.Quiet .waiterRetires :=
  ⟨fun _ => rfl, fun _ => trivial, fun _ => rfl, fun _ => trivial⟩

theorem Kept.putQuiet (h : d.Kept inHand) (h_quiet : t.Quiet)
    (h_noticed : (d.put t entries).Noticed inHand') : (d.put t entries).Kept inHand' := by
  have h_job : ∀ e ∈ entries, ∀ j, t.job e ≠ some j := by
    intro e _ j h_j
    rw [h_quiet.job e] at h_j
    cases h_j
  have h_handles : Handles none d d := h.handles
  refine h.put h_handles (fun j h_j => nomatch h_j)
    { distinct := ?_
      outstanding := fun e h_e j h_j => absurd h_j (h_job e h_e j)
      timed := fun e _ _ => h_quiet.timed e }
    (fun e _ => Awaiting.leased_of_none (h_quiet.lease e)) (fun e _ => h_quiet.sound e) h_noticed
  have h_nil : entries.filterMap t.waiting.job = [] :=
    List.filterMap_eq_nil_iff.mpr fun e _ => h_quiet.job e
  rw [h_nil]
  exact List.nodup_nil

theorem Owes.pushQuiet (h : d.Owes all ts inHand) (h_quiet : t.Quiet)
    (h_tickets : t.tickets e = ts) (h_noticed : (d.push t e).Noticed inHand') :
    (d.push t e).Owes all [] inHand' where
  kept := h.kept.putQuiet h_quiet h_noticed
  balance := by
    rw [← h.balance, ← h_tickets, tickets, tickets, held_push, Multiset.coe_nil, add_zero,
      add_assoc]
    rfl

theorem Owes.setQuiet (h : d.Owes all ts inHand) (h_quiet : t.Quiet)
    (h_at : d.awaiting t = pre ++ e :: post) (h_index : pre.length = index)
    (h_tickets : t.tickets e' = t.tickets e) (h_noticed : (d.setAt t index e').Noticed inHand') :
    (d.setAt t index e').Owes all ts inHand' where
  kept := h.kept.putQuiet h_quiet h_noticed
  balance := by
    rw [← h.balance, tickets, tickets, held_setAt h_at h_index h_tickets]
    rfl

theorem Owes.removeQuiet (h : d.Owes all [] inHand) (h_quiet : t.Quiet)
    (h_at : d.awaiting t = pre ++ e :: post) (h_index : pre.length = index)
    (h_noticed : (d.removeAt t index).Noticed inHand') :
    (d.removeAt t index).Owes all (t.tickets e) inHand' where
  kept := h.kept.putQuiet h_quiet h_noticed
  balance := by
    rw [← h.balance, tickets, tickets, ← held_removeAt h_at h_index, Multiset.coe_nil, add_zero,
      add_assoc]
    rfl

end Quiet

-- ============================================================================
-- Replies
-- ============================================================================

theorem Noticed.put_replies {entries : List AwaitingReplies} (h : d.Noticed inHand) :
    (d.put .replies entries).Noticed inHand :=
  h.of_le (sessions_put nofun nofun) (fun _ => Nat.le_refl _) rfl rfl

theorem Owes.parkReplies {wait : AwaitingReplies}
    (h : d.Owes all [⟨wait.stream, wait.requestId⟩] inHand) :
    (d.push .replies wait).Owes all [] inHand :=
  h.pushQuiet quiet_replies rfl h.kept.noticed.put_replies

theorem Owes.advanceRepliesWait (h : d.Owes all [] inHand) :
    (d.advanceRepliesWait k index).Owes all [] inHand := by
  rw [Daemon.advanceRepliesWait]
  split
  · exact h
  · rename_i wait h_entry
    obtain ⟨pre, post, h_at, h_index⟩ := entry_index h_entry
    have h_taken := h.removeQuiet quiet_replies h_at h_index h.kept.noticed.put_replies
    split
    · exact h_taken.answer
    · split
      · exact h_taken.answer
      · exact h

-- ============================================================================
-- Sessions
-- ============================================================================

section Sessions

variable {x : NoticeSession} {m n : Nat} {a b : List (NoticeSession × Nat)}

theorem Noticed.others (h : d.Noticed (inHand + oneOf (some x)))
    (h_at : d.sessions = a ++ (x, n) :: b) :
    ∀ r ∈ a ++ b, 0 < r.2 ∧ r.2 ≤ d.notices r.1 + inHand r.1 := by
  intro r h_r
  have h_mem : r ∈ d.sessions := by
    rw [h_at]
    exact (List.Sublist.append_left (List.sublist_cons_self _ b) a).subset h_r
  have h_ne : r.1 ≠ x := by
    have h_distinct := h.distinct
    rw [h_at, (List.perm_middle.map Prod.fst).nodup_iff, List.map_cons, List.nodup_cons]
      at h_distinct
    exact fun h_eq => h_distinct.1 (List.mem_map.mpr ⟨r, h_r, h_eq⟩)
  have h_count := h.counted r h_mem
  rwa [Pi.add_apply, oneOf_of_ne h_ne, Nat.add_zero] at h_count

theorem Noticed.own (h : d.Noticed (inHand + oneOf (some x)))
    (h_at : d.sessions = a ++ (x, n) :: b) : 0 < n ∧ n ≤ d.notices x + inHand x + 1 := by
  have h_count := h.counted (x, n) (h_at ▸ List.mem_append_right a List.mem_cons_self)
  rwa [Pi.add_apply, oneOf_self, ← Nat.add_assoc] at h_count

/-- A notice is through, and more are to come. -/
theorem Noticed.heard (h : d.Noticed (inHand + oneOf (some x)))
    (h_at : d.sessions = a ++ (x, n) :: b) (h_at' : d'.sessions = a ++ (x, n - 1) :: b)
    (h_more : n - 1 ≠ 0) (h_notices : ∀ y, d'.notices y = d.notices y)
    (h_begun : ∀ y, d.Begun y → d'.Begun y) : d'.Noticed inHand where
  counted r h_r := by
    rw [h_at'] at h_r
    rw [h_notices]
    rcases List.mem_cons.mp (List.perm_middle.mem_iff.mp h_r) with rfl | h_r
    · have h_own := h.own h_at
      exact ⟨Nat.pos_of_ne_zero h_more, Nat.sub_le_of_le_add h_own.2⟩
    · exact h.others h_at r h_r
  distinct := by
    have h_distinct := h.distinct
    rw [h_at, List.map_append, List.map_cons] at h_distinct
    rwa [h_at', List.map_append, List.map_cons]
  begun r h_r := by
    rw [h_at'] at h_r
    refine h_begun r.1 ?_
    rcases List.mem_cons.mp (List.perm_middle.mem_iff.mp h_r) with rfl | h_r
    · exact h.begun (x, n) (h_at ▸ List.mem_append_right a List.mem_cons_self)
    · refine h.begun r (h_at ▸ ?_)
      exact (List.Sublist.append_left (List.sublist_cons_self _ b) a).subset h_r

/-- The session is over. -/
theorem Noticed.settled (h : d.Noticed (inHand + oneOf (some x)))
    (h_at : d.sessions = a ++ (x, n) :: b) (h_at' : d'.sessions = a ++ b)
    (h_notices : ∀ y, d'.notices y = d.notices y) (h_begun : ∀ y, d.Begun y → d'.Begun y) :
    d'.Noticed inHand where
  counted r h_r := by
    rw [h_notices]
    exact h.others h_at r (h_at' ▸ h_r)
  distinct := by
    have h_sub : (a ++ b).Sublist (a ++ (x, n) :: b) :=
      List.Sublist.append_left (List.sublist_cons_self _ b) a
    rw [h_at']
    exact (h_sub.map Prod.fst).nodup (h_at ▸ h.distinct)
  begun r h_r := by
    refine h_begun r.1 (h.begun r ?_)
    rw [h_at]
    exact (List.Sublist.append_left (List.sublist_cons_self _ b) a).subset (h_at' ▸ h_r)

/-- No session waits for the notice. -/
theorem Noticed.unheard (h : d.Noticed (inHand + oneOf (some x)))
    (h_none : ∀ r ∈ d.sessions, r.1 ≠ x) : d.Noticed inHand where
  counted r h_r := by
    have h_count := h.counted r h_r
    rwa [Pi.add_apply, oneOf_of_ne (h_none r h_r), Nat.add_zero] at h_count
  distinct := h.distinct
  begun := h.begun

/-- A session begins, with its notices in hand. -/
theorem Noticed.opened (h : d.Noticed inHand) (h_at : d.sessions = a ++ b)
    (h_at' : d'.sessions = a ++ (x, m) :: b) (h_pos : 0 < m) (h_le : m ≤ n)
    (h_new : ¬ d.Begun x) (h_x : d'.Begun x) (h_notices : ∀ y, d'.notices y = d.notices y)
    (h_begun : ∀ y, d.Begun y → d'.Begun y) : d'.Noticed (inHand + n • oneOf (some x)) where
  counted r h_r := by
    rw [h_at'] at h_r
    rw [h_notices, Pi.add_apply, Pi.smul_apply]
    rcases List.mem_cons.mp (List.perm_middle.mem_iff.mp h_r) with rfl | h_r
    · rw [oneOf_self, Nat.nsmul_eq_mul, Nat.mul_one]
      exact ⟨h_pos, h_le.trans ((Nat.le_add_left _ _).trans (Nat.le_add_left _ _))⟩
    · have h_count := h.counted r (h_at ▸ h_r)
      refine ⟨h_count.1, h_count.2.trans ?_⟩
      exact Nat.add_le_add_left (Nat.le_add_right _ _) _
  distinct := by
    rw [h_at', (List.perm_middle.map Prod.fst).nodup_iff, List.map_cons, List.nodup_cons, ← h_at]
    refine ⟨fun h_mem => ?_, h.distinct⟩
    obtain ⟨r, h_r, rfl⟩ := List.mem_map.mp h_mem
    exact h_new (h.begun r h_r)
  begun r h_r := by
    rw [h_at'] at h_r
    rcases List.mem_cons.mp (List.perm_middle.mem_iff.mp h_r) with rfl | h_r
    · exact h_x
    · exact h_begun r.1 (h.begun r (h_at ▸ h_r))

end Sessions

-- ============================================================================
-- Notices
-- ============================================================================

section Notices

variable {session : Nat} {ask : MessageId} {waiting ok : Bool}

/-- How many notices a parked cancellation waits for. -/
def cancelCount (cancel : Nat × AwaitingCancel) : NoticeSession × Nat :=
  (.cancel cancel.1, cancel.2.remaining)

/-- How many notices a parked retirement waits for. -/
def waiterRetireCount (retire : Nat × AwaitingWaiterRetire) : NoticeSession × Nat :=
  (.waiterRetire retire.1, retire.2.remaining)

theorem sessions_put_cancels {entries : List (Nat × AwaitingCancel)} :
    (d.put .cancels entries).sessions =
      entries.map cancelCount ++ (d.awaiting .waiterRetires).map waiterRetireCount := by
  rw [sessions, awaiting_put_self, awaiting_put_of_ne (by decide)]
  rfl

theorem sessions_put_waiterRetires {entries : List (Nat × AwaitingWaiterRetire)} :
    (d.put .waiterRetires entries).sessions =
      (d.awaiting .cancels).map cancelCount ++ entries.map waiterRetireCount := by
  rw [sessions, awaiting_put_self, awaiting_put_of_ne (by decide)]
  rfl

theorem sessions_of_cancels {pre post : List (Nat × AwaitingCancel)} {cancel : AwaitingCancel}
    (h_at : d.awaiting .cancels = pre ++ (session, cancel) :: post) :
    d.sessions = pre.map cancelCount ++ (.cancel session, cancel.remaining) ::
      (post.map cancelCount ++ (d.awaiting .waiterRetires).map waiterRetireCount) := by
  rw [sessions, h_at, List.map_append, List.map_cons, List.append_assoc]
  rfl

theorem sessions_of_waiterRetires {pre post : List (Nat × AwaitingWaiterRetire)}
    {retire : AwaitingWaiterRetire}
    (h_at : d.awaiting .waiterRetires = pre ++ (session, retire) :: post) :
    d.sessions = ((d.awaiting .cancels).map cancelCount ++ pre.map waiterRetireCount) ++
      (.waiterRetire session, retire.remaining) :: post.map waiterRetireCount := by
  rw [sessions, h_at, List.map_append, List.map_cons, List.append_assoc]
  rfl

theorem Owes.noteCancelNotice
    (h : d.Owes all [] (inHand + oneOf (some (.cancel session)))) :
    (d.noteCancelNotice session waiting ok).Owes all [] inHand := by
  rw [Daemon.noteCancelNotice]
  split
  · rename_i h_none
    refine { h with kept := { h.kept with noticed := h.kept.noticed.unheard fun r h_r h_eq => ?_ } }
    rcases List.mem_append.mp h_r with h_r | h_r
    · obtain ⟨cancel, h_cancel, rfl⟩ := List.mem_map.mp h_r
      exact locate_eq_none h_none h_cancel (decide_eq_true (NoticeSession.cancel.inj h_eq))
    · obtain ⟨retire, -, rfl⟩ := List.mem_map.mp h_r
      cases h_eq
  · rename_i index session' cancel h_some
    obtain ⟨pre, post, h_at, h_index, h_session⟩ := locate_eq_some h_some
    obtain rfl : session' = session := of_decide_eq_true h_session
    dsimp only
    split
    · rename_i h_more
      refine h.setQuiet quiet_cancels h_at h_index rfl ?_
      refine h.kept.noticed.heard (sessions_of_cancels h_at) ?_ h_more (fun _ => rfl)
        (fun _ h_begun => h_begun)
      rw [Daemon.setAt, h_at, set_at h_index, sessions_put_cancels, List.map_append, List.map_cons,
        List.append_assoc]
      rfl
    · refine (h.removeQuiet quiet_cancels h_at h_index ?_).answer
      refine h.kept.noticed.settled (sessions_of_cancels h_at) ?_ (fun _ => rfl)
        (fun _ h_begun => h_begun)
      rw [Daemon.removeAt, h_at, eraseIdx_at h_index, sessions_put_cancels, List.map_append,
        List.append_assoc]

theorem Owes.noteWaiterRetireNotice
    (h : d.Owes all [] (inHand + oneOf (some (.waiterRetire session)))) :
    (d.noteWaiterRetireNotice session ask ok).Owes all [] inHand := by
  rw [Daemon.noteWaiterRetireNotice]
  split
  · rename_i h_none
    refine { h with kept := { h.kept with noticed := h.kept.noticed.unheard fun r h_r h_eq => ?_ } }
    rcases List.mem_append.mp h_r with h_r | h_r
    · obtain ⟨cancel, -, rfl⟩ := List.mem_map.mp h_r
      cases h_eq
    · obtain ⟨retire, h_retire, rfl⟩ := List.mem_map.mp h_r
      exact locate_eq_none h_none h_retire (decide_eq_true (NoticeSession.waiterRetire.inj h_eq))
  · rename_i index session' retire h_some
    obtain ⟨pre, post, h_at, h_index, h_session⟩ := locate_eq_some h_some
    obtain rfl : session' = session := of_decide_eq_true h_session
    dsimp only
    split
    · rename_i h_more
      refine h.setQuiet quiet_waiterRetires h_at h_index rfl ?_
      refine h.kept.noticed.heard (sessions_of_waiterRetires h_at) ?_ h_more (fun _ => rfl)
        (fun _ h_begun => h_begun)
      rw [Daemon.setAt, h_at, set_at h_index, sessions_put_waiterRetires, List.map_append,
        List.map_cons, List.append_assoc]
      rfl
    · refine (h.removeQuiet quiet_waiterRetires h_at h_index ?_).answer
      refine h.kept.noticed.settled (sessions_of_waiterRetires h_at) ?_ (fun _ => rfl)
        (fun _ h_begun => h_begun)
      rw [Daemon.removeAt, h_at, eraseIdx_at h_index, sessions_put_waiterRetires,
        List.map_append, List.append_assoc]

/-- The notices in hand are parked. -/
theorem Owes.parkNotices {β : Type} {x : NoticeSession} {prepared : β → PreparedPrompt}
    {owner : β → PromptOwner} (h_owner : ∀ p, (owner p).session = some x) {prompts : List β}
    (h : d.Owes all [] (inHand + prompts.length • oneOf (some x))) :
    (prompts.foldl (fun d p => d.parkPrompt (noticePrompt (prepared p) (owner p))) d).Owes all []
      inHand := by
  induction prompts generalizing d with
  | nil =>
    rw [List.length_nil, zero_nsmul, add_zero] at h
    exact h
  | cons p prompts ih =>
    rw [List.length_cons, succ_nsmul, ← add_assoc] at h
    refine ih (Owes.parkPrompt rfl (fun h_some => nomatch h_some) ?_ h)
    rw [← h_owner p]
    rfl

theorem Owes.parkCancel {requestId : String} {stream : StreamId} {outcome : CancelOutcome}
    {prompts : List PreparedCancellation} (h_prompts : prompts ≠ [])
    (h : d.Owes all [⟨stream, requestId⟩] inHand) :
    (d.parkCancel requestId stream outcome prompts).Owes all [] inHand := by
  have h_begun : ∀ x, d.Begun x →
      ({ d with nextCancelSession := d.nextCancelSession + 1 } : Daemon).Begun x := by
    intro x h_x
    cases x with
    | cancel session => exact Nat.lt_succ_of_lt h_x
    | waiterRetire session => exact h_x
  have h_next : ({ d with nextCancelSession := d.nextCancelSession + 1 } : Daemon).Owes all
      [⟨stream, requestId⟩] inHand :=
    { h with kept := { h.kept with noticed := { h.kept.noticed with
        begun := fun r h_r => h_begun r.1 (h.kept.noticed.begun r h_r) } } }
  have h_pos : 0 < min prompts.length u32Max :=
    Nat.lt_min.mpr ⟨List.length_pos_iff.mpr h_prompts, by decide⟩
  refine Owes.parkNotices (fun _ => rfl) (h_next.pushQuiet quiet_cancels rfl ?_)
  refine h.kept.noticed.opened rfl ?_ h_pos (Nat.min_le_left _ _) (Nat.lt_irrefl _)
    (Nat.lt_succ_self _) (fun _ => rfl) h_begun
  rw [Daemon.push, sessions_put_cancels, List.map_append, List.append_assoc]
  rfl

theorem Owes.parkWaiterRetire {requestId : String} {stream : StreamId}
    {logicalAgentId : LogicalAgentId} {cancelledAskIds : List MessageId}
    {notices : List PreparedWaiterRetireNotice} (h : d.Owes all [⟨stream, requestId⟩] inHand) :
    (d.parkWaiterRetire requestId stream logicalAgentId cancelledAskIds notices).Owes all []
      inHand := by
  have h_begun : ∀ x, d.Begun x →
      ({ d with nextWaiterRetireSession := d.nextWaiterRetireSession + 1 } : Daemon).Begun x := by
    intro x h_x
    cases x with
    | cancel session => exact h_x
    | waiterRetire session => exact Nat.lt_succ_of_lt h_x
  have h_next : ({ d with nextWaiterRetireSession := d.nextWaiterRetireSession + 1 } :
      Daemon).Owes all [⟨stream, requestId⟩] inHand :=
    { h with kept := { h.kept with noticed := { h.kept.noticed with
        begun := fun r h_r => h_begun r.1 (h.kept.noticed.begun r h_r) } } }
  rw [Daemon.parkWaiterRetire]
  dsimp only
  split
  · exact h_next.answer
  · rename_i h_some
    refine Owes.parkNotices (fun _ => rfl) (h_next.pushQuiet quiet_waiterRetires rfl ?_)
    refine h.kept.noticed.opened (List.append_nil _).symm ?_ (Nat.pos_of_ne_zero h_some)
      (Nat.min_le_left _ _) (Nat.lt_irrefl _) (Nat.lt_succ_self _) (fun _ => rfl) h_begun
    rw [Daemon.push, sessions_put_waiterRetires, List.map_append, ← List.append_assoc]
    rfl

end Notices

-- ============================================================================
-- Prompts
-- ============================================================================

section Prompts

variable {prompt : AwaitingPrompt}

/-- The prompt is taken out of its table; if it is a notice, the notice is in hand. -/
theorem Owes.takePrompt {pre post : List (JobId × AwaitingPrompt)} (h : d.Owes all [] inHand)
    (h_handles : Handles (some j) d d') (h_at : d.awaiting .prompts = pre ++ (j, prompt) :: post)
    (h_index : pre.length = index) :
    ((d'.removeAt .prompts index).dropLease prompt.lease).Owes all
      (prompt.stream.map (⟨·, prompt.requestId⟩)).toList (inHand + oneOf prompt.session) :=
  h.take (t := .prompts) (e := (j, prompt)) h_handles h_at h_index rfl
    (h.kept.lease_at (t := .prompts) h_at)

theorem Owes.writeParkedPrompt {delivered : Except RequestError Unit}
    (h : d.Owes all (prompt.stream.map (⟨·, prompt.requestId⟩)).toList inHand) :
    (d.writeParkedPrompt prompt delivered).Owes all [] inHand := by
  rw [Daemon.writeParkedPrompt]
  split
  · rename_i h_none
    rw [h_none] at h
    exact h
  · rename_i h_some
    rw [h_some] at h
    exact h.answer

/-- Nothing is in hand of a prompt that is no client's. -/
theorem Owes.of_other
    (h : d.Owes all (prompt.stream.map (⟨·, prompt.requestId⟩)).toList inHand)
    (h_sound : prompt.stream.isSome → prompt.owner = .client ∧ prompt.reminder = none)
    (h_other : ¬ (prompt.owner = .client ∧ prompt.reminder = none)) : d.Owes all [] inHand := by
  cases h_stream : prompt.stream with
  | none =>
    rw [h_stream] at h
    exact h
  | some stream => exact absurd (h_sound (h_stream ▸ rfl)) h_other

theorem Owes.settleParkedPrompt {delivered : Except RequestError Unit}
    (h_sound : prompt.stream.isSome → prompt.owner = .client ∧ prompt.reminder = none)
    (h_reminder : prompt.reminder = none)
    (h : d.Owes all (prompt.stream.map (⟨·, prompt.requestId⟩)).toList
      (inHand + oneOf prompt.session)) :
    (d.settleParkedPrompt k prompt delivered).Owes all [] inHand := by
  have h_session : prompt.session = prompt.owner.session := by
    rw [AwaitingPrompt.session, h_reminder]
  rw [h_session] at h
  rw [Daemon.settleParkedPrompt]
  cases h_owner : prompt.owner with
  | cancel session waiting =>
    rw [h_owner] at h
    exact (h.of_other h_sound
      fun h_client => nomatch h_owner.symm.trans h_client.1).noteCancelNotice
  | waiterRetire session ask =>
    rw [h_owner] at h
    exact (h.of_other h_sound
      fun h_client => nomatch h_owner.symm.trans h_client.1).noteWaiterRetireNotice
  | client =>
    rw [h_owner] at h
    exact Owes.writeParkedPrompt h
  | internal =>
    rw [h_owner] at h
    exact Owes.writeParkedPrompt h

/-- A reminder is done with. -/
theorem Owes.of_reminder {reminder : PreparedReminder}
    (h_reminder : prompt.reminder = some reminder)
    (h_sound : prompt.stream.isSome → prompt.owner = .client ∧ prompt.reminder = none)
    (h : d.Owes all (prompt.stream.map (⟨·, prompt.requestId⟩)).toList
      (inHand + oneOf prompt.session)) : d.Owes all [] inHand := by
  have h_session : prompt.session = none := by
    rw [AwaitingPrompt.session, h_reminder]
  rw [h_session] at h
  exact h.of_other h_sound fun h_client => nomatch h_reminder.symm.trans h_client.2

theorem Owes.finishParkedPrompt (h : d.Owes all [] inHand)
    (h_owner : d.herdrOwners j = some .prompt) :
    ((d.endJob j).finishParkedPrompt k j).Owes all [] inHand := by
  rw [Daemon.finishParkedPrompt]
  cases h_entry : (d.endJob j).entryForJob .prompts j with
  | none => exact h.endIdle (t := .prompts) h_owner h_entry
  | some found =>
    obtain ⟨index, j', prompt⟩ := found
    obtain ⟨pre, post, h_at, h_index, h_job⟩ := entry_at h_entry
    obtain rfl : j' = j := Option.some.inj h_job
    have h_taken := h.takePrompt h.kept.handles.endJob h_at h_index
    have h_sound := h.kept.sound_at (t := .prompts) h_at
    dsimp only
    split
    · exact h_taken.of_reminder ‹_› h_sound
    · exact h_taken.settleParkedPrompt h_sound ‹_›

theorem Owes.failParkedPrompt {error : HerdrError} (h : d.Owes all [] inHand)
    (h_handles : Handles (some j) d d') (h_owner : d.herdrOwners j = some .prompt) :
    (d'.failParkedPrompt k j error).Owes all [] inHand := by
  rw [Daemon.failParkedPrompt]
  cases h_entry : d'.entryForJob .prompts j with
  | none => exact h.idleAt (t := .prompts) h_handles h_owner h_entry
  | some found =>
    obtain ⟨index, j', prompt⟩ := found
    obtain ⟨pre, post, h_at, h_index, h_job⟩ := entry_at h_entry
    rw [h_handles.awaiting] at h_at
    obtain rfl : j' = j := Option.some.inj h_job
    have h_taken := h.takePrompt h_handles h_at h_index
    have h_sound := h.kept.sound_at (t := .prompts) h_at
    dsimp only
    split
    · exact h_taken.of_reminder ‹_› h_sound
    · exact h_taken.settleParkedPrompt h_sound ‹_›

theorem Owes.onPromptOpened (h : d.Owes all [] inHand)
    (h_owner : d.herdrOwners j = some .prompt)
    (h_commits : ∀ index prompt, d.entryForJob .prompts j = some (index, j, prompt) →
      prompt.session.isSome → k.commitPromptIntent.isOk) :
    (d.onPromptOpened k j).Owes all [] inHand := by
  rw [Daemon.onPromptOpened]
  cases h_entry : d.entryForJob .prompts j with
  | none => exact h.endIdle (t := .prompts) h_owner h_entry
  | some found =>
    obtain ⟨index, j', prompt⟩ := found
    obtain ⟨pre, post, h_at, h_index, h_job⟩ := entry_at h_entry
    obtain rfl : j' = j := Option.some.inj h_job
    have h_sound := h.kept.sound_at (t := .prompts) h_at
    have h_sent : ((d.sentOn j').setAt .prompts index (j', { prompt with
        intentCommitted := true, lease := some j' })).Owes all [] inHand :=
      h.sent (t := .prompts) h_at h_index rfl h_job rfl nofun rfl rfl rfl h_sound
    have h_kept : (d.setAt .prompts index (j', { prompt with
        intentCommitted := true })).Owes all [] inHand :=
      h.keep (t := .prompts) h_at h_index rfl rfl (fun _ h_fits => h_fits)
        (fun h_timed => h_timed) rfl rfl rfl h_sound
    have h_closed : ∀ error, ((d.setAt .prompts index (j', { prompt with
        intentCommitted := true })).failParkedPrompt k j' error).Owes all [] inHand :=
      fun _ => h_kept.failParkedPrompt h_kept.kept.handles h_owner
    dsimp only
    split
    · split
      · split
        · exact h_sent
        · exact h_closed _
      · exact h.failParkedPrompt h.kept.handles.endJob h_owner
    · rename_i h_reminder
      split
      · split
        · exact h_sent
        · exact h_closed _
      · rename_i error h_error
        have h_session : prompt.session = none := by
          by_contra h_some
          have h_ok := h_commits index prompt h_entry (Option.isSome_iff_ne_none.mpr h_some)
          rw [h_error] at h_ok
          cases h_ok
        have h_taken := h.takePrompt h.kept.handles.endJob h_at h_index
        rw [h_session] at h_taken
        have h_ended : (d.endJob j').entryForJob .prompts j' = some (index, j', prompt) := h_entry
        rw [Daemon.answerParkedPrompt, h_ended]
        exact Owes.writeParkedPrompt h_taken

end Prompts

end Daemon

end Kelpie
