/-
  Kelpie.Slice.Targets

  The target of a prompt at its write boundary.  A reminder checks there that its
  incarnation is Ready, and so does a delivery that came due before it is prepared;
  any other prompt goes into the pane that it was prepared for, whatever became of
  the incarnation since.
-/

import Kelpie.Recovery.Handoffs
import Kelpie.Slice.Sweep

namespace Kelpie

open Lib Lib.Tx Ledger

-- As in `Kelpie.Store.Frames`.
set_option synthInstance.maxSize 100000

-- ============================================================================
-- Preparation
-- ============================================================================

/-- One delivery that is to be written to Herdr. -/
structure DueDelivery where
  operationId : OperationId
  messageId : MessageId
  kind : MessageKind
  sender : Option LogicalAgentId
  recipient : LogicalAgentId
  recipientIncarnation : IncarnationId
deriving DecidableEq, Repr

/-- The address in the envelope of a delivery, of which only a cancellation has none. -/
def senderAddress (item : DueDelivery) : Query (Option String) := fun s =>
  match item.sender with
  | some sender => (agentAddress sender s).map some
  | none =>
    if item.kind = .cancellation then .ok none
    else .error (.invalidRecord "queued delivery requires a sender")

/-- The side that a cancellation is for. -/
def cancellationAudience (item : DueDelivery) : Query (Option CancellationAudience) := fun s =>
  if item.kind = .cancellation then
    (cancellationRendering item.operationId s).map fun rendering => some rendering.2.2
  else .ok none

/-- The request of a delivery to Herdr. -/
def promptRequestId (item : DueDelivery) (audience : Option CancellationAudience) : String :=
  match item.kind, audience with
  | .ask, _ => s!"kelpie:ask:{item.operationId}"
  | .tell, _ => s!"kelpie:tell:{item.operationId}"
  | .reply, _ => s!"kelpie:reply:{item.operationId}"
  | .cancellation, some .owing => s!"kelpie:owing-cancellation:{item.operationId}"
  | .cancellation, _ => s!"kelpie:cancellation:{item.operationId}"

/-- The ask and the disposition of a reply. -/
def replyRendering (messageId : MessageId) : Query (MessageId × ReplyDisposition) := fun s =>
  match (s.messages.find messageId).filter (·.kind = .reply) with
  | none => .error (.invalidRecord s!"message {messageId} is not a complete reply")
  | some m =>
    match m.replyToMessageId, m.disposition with
    | some replyTo, some disposition => .ok (replyTo, disposition)
    | _, _ => .error (.sql .invalidColumnType)

/-- The attributes of the envelope of a delivery, in the order of its rendering. -/
def envelopeAttrs (item : DueDelivery) (sender : Option String) :
    Query (List (String × String)) := fun s =>
  match item.kind with
  | .ask => .ok [("from", sender.getD ""), ("reply-to", toString item.messageId)]
  | .tell => .ok [("from", sender.getD ""), ("msg", toString item.messageId)]
  | .reply => do
    let (replyTo, _) ← replyRendering item.messageId s
    return [("from", sender.getD ""), ("re", toString replyTo), ("msg", toString item.messageId)]
  | .cancellation => do
    let address ← agentAddress item.recipient s
    let (cancelledAsk, _, audience) ← cancellationRendering item.operationId s
    let role := match audience with
      | .waiting => "waiting"
      | .owing => "owing"
    return [(role, address), ("cancelled-ask", toString cancelledAsk)]

/-- The envelope of a delivery, which is refused unless each attribute is safe without
    quotes.  One that was rendered before is taken as it is. -/
def checkEnvelope (item : DueDelivery) (sender rendered : Option String) : Query Unit := fun s =>
  match rendered with
  | some _ => .ok ()
  | none => do
    let attrs ← envelopeAttrs item sender s
    let _ ← attrs.mapM fun attr => validatedAttr attr.1 attr.2
    return ()

/-- Build the Herdr prompt without connecting or recording an attempt. -/
def preparePromptDelivery (item : DueDelivery) (queued : Bool) (rendered : Option String) :
    SliceProg PreparedPrompt := do
  let (paneId, _) ← stored (query (readyBinding item.recipientIncarnation))
  let sender ← stored (query (senderAddress item))
  let audience ← stored (query (cancellationAudience item))
  stored (query (checkEnvelope item sender rendered))
  return { operationId := item.operationId, recipientIncarnation := item.recipientIncarnation,
           paneId, requestId := promptRequestId item audience, queued }

/-- The prompt of a delivery that came due, or its refusal where the recipient is no longer
    Ready. -/
def beginOneDue (begunAt submittedAt rejectedAt : Millis) (item : DueDelivery) :
    SliceProg (Option PreparedPrompt) := do
  let binding ← Prog.reads (readyBinding item.recipientIncarnation)
  match binding with
  | .ok _ => do
    let prepared ← preparePromptDelivery item true none
    return some prepared
  | .error (.conflict _) => do
    let requestId := s!"kelpie:due:{item.operationId}"
    let attempt ← stored (beginAttempt begunAt item.operationId item.recipientIncarnation
      requestId)
    stored (submitQueuedDelivery item.operationId attempt requestId submittedAt)
    stored (markRejected rejectedAt item.operationId item.recipientIncarnation
      "exact recipient incarnation is no longer Ready" .targetUnavailable)
    return none
  | .error e => Prog.fail (.store e)

/-- A reminder that is drafted for the pane that its query found. -/
structure DraftedReminder where
  reminder : DueReminder
  paneId : String
  requestId : String
  nowMs : Millis
deriving DecidableEq, Repr

/-- Record reminder write-boundary intent after a Herdr connection exists. -/
def commitReminderIntent (prepared : DraftedReminder) : SliceProg Unit := do
  stored (prepareReminderAttempt prepared.reminder prepared.requestId prepared.nowMs)
  stored (submitReminderAttempt prepared.requestId)

variable {s s' : Store} {inc : IncarnationId} {now : Millis}

-- ============================================================================
-- What leaves an incarnation Ready
-- ============================================================================

/-- The same incarnation; if it is `inc` and was Ready, it still is. -/
structure IncarnationRow.StaysUp (inc : IncarnationId) (i i' : IncarnationRow) : Prop where
  id : i'.id = i.id
  ready : i.id = inc → i.state = .ready → i'.state = .ready

instance : Stepwise (IncarnationRow.StaysUp inc) where
  refl _ := ⟨rfl, fun _ => id⟩
  trans h h' := ⟨h'.id.trans h.id,
    fun h_id h_ready => h'.ready (h.id.trans h_id) (h.ready h_id h_ready)⟩

/-- The incarnation `inc` is left Ready. -/
abbrev LeavesReady (inc : IncarnationId) : Store → Store → Prop :=
  Over Tab.incarnations (Table.GoesOn (IncarnationRow.StaysUp inc))

section Frames

/-- An edit of what is not the state. -/
instance {p} [DecidablePred p] {native : IncarnationRow → Option NativeSession}
    {rotated : IncarnationRow → Option Millis} {pending : IncarnationRow → Option String} {h_key} :
    Keeps (LeavesReady inc) (updateRows Tab.incarnations p
      (fun i => { i with
        observedNativeSession := native i, nativeSessionRotatedAtMs := rotated i,
        pendingRenameTo := pending i }) h_key : StoreTx Nat) :=
  Keeps.goesOn_updateRows fun _ _ => ⟨rfl, fun _ => id⟩

/-- An edit of no Ready incarnation. -/
theorem keeps_leavesReady {p : IncarnationRow → Prop} [DecidablePred p]
    {f : IncarnationRow → IncarnationRow} {h_key : ∀ i, (f i).id = i.id}
    (h : ∀ i, p i → i.id = inc → i.state = .ready → (f i).state = .ready) :
    Keeps (LeavesReady inc) (updateRows Tab.incarnations p f h_key : StoreTx Nat) :=
  Keeps.goesOn_updateRows fun i h_i => ⟨h_key i, h i h_i⟩

instance {op i request} : Keeps (LeavesReady inc) (beginAttempt now op i request) := by
  have h_begin {h_key} : Keeps (LeavesReady inc) (updateRows Tab.incarnations
      (fun j => j.id = i ∧ j.state = .declared) (fun j => { j with state := .starting })
      h_key : StoreTx Nat) :=
    keeps_leavesReady fun _ h _ h_ready => by simp [h.2] at h_ready
  unfold beginAttempt
  infer_instance

instance {op i pane terminal} :
    Keeps (LeavesReady inc) (acceptStartSubmission op i pane terminal) := by
  have h_seat {h_key} : Keeps (LeavesReady inc) (updateRows Tab.incarnations (fun j => j.id = i)
      (fun j => { j with observedPaneId := some pane, observedTerminalId := some terminal })
      h_key : StoreTx Nat) := keeps_leavesReady fun _ _ _ => id
  unfold acceptStartSubmission
  infer_instance

instance {i op agent} : Keeps (LeavesReady inc) (acceptAdoptReady now op i agent) := by
  have h_ready {pane terminal} {native : IncarnationRow → Option NativeSession} {h_key} :
      Keeps (LeavesReady inc) (updateRows Tab.incarnations (fun j => j.id = i)
        (fun j => { j with
          state := .ready, observedPaneId := some pane, observedTerminalId := some terminal,
          observedNativeSession := native j }) h_key : StoreTx Nat) :=
    keeps_leavesReady fun _ _ _ _ => rfl
  unfold acceptAdoptReady
  infer_instance

/-- A handoff of another incarnation. -/
theorem demotePredecessor_leavesReady {predecessor i : IncarnationId} (h : predecessor ≠ inc) :
    Keeps (LeavesReady inc) (demotePredecessor now predecessor i) := by
  have h_demote (agent : Option LogicalAgentId) {h_key} : Keeps (LeavesReady inc)
      (updateRows Tab.incarnations
        (fun j => j.id = predecessor ∧ j.state = .ready ∧ some j.logicalAgentId = agent)
        (fun j => { j with
          state := .superseded, terminalAtMs := some now,
          terminalReason := some "superseded by a handoff to a new incarnation" })
        h_key : StoreTx Nat) :=
    keeps_leavesReady fun _ h_j h_id => absurd (h_j.1.symm.trans h_id) h
  unfold demotePredecessor
  infer_instance

theorem acceptStartReady_leavesReady {i : IncarnationId} {op : OperationId}
    {agent : AgentObservation} {supersedes : Option IncarnationId} (h : supersedes ≠ some inc) :
    Keeps (LeavesReady inc) (acceptStartReady now op i agent supersedes) := by
  have h_ready {pane terminal} {native : Option NativeSession} {h_key} :
      Keeps (LeavesReady inc) (updateRows Tab.incarnations (fun j => j.id = i)
        (fun j => { j with
          state := .ready, observedPaneId := some pane, observedTerminalId := some terminal,
          observedNativeSession := native }) h_key : StoreTx Nat) :=
    keeps_leavesReady fun _ _ _ _ => rfl
  unfold acceptStartReady
  cases supersedes with
  | none => infer_instance
  | some predecessor =>
    have h_demote : Keeps (LeavesReady inc) (demotePredecessor now predecessor i) :=
      demotePredecessor_leavesReady fun h_eq => h (congrArg some h_eq)
    infer_instance

instance {i name} : Keeps (LeavesReady inc) (declareRename i name) := by
  unfold declareRename
  infer_instance

instance {i name} : Keeps (LeavesReady inc) (commitRename i name) := by
  unfold commitRename
  infer_instance

instance {i} : Keeps (LeavesReady inc) (abandonRename i) := by
  unfold abandonRename
  infer_instance

instance {i pane terminal session} :
    Keeps (LeavesReady inc) (fillObservedNativeSession i pane terminal session) := by
  unfold fillObservedNativeSession
  infer_instance

instance {i session} : Keeps (LeavesReady inc) (replaceObservedNativeSession i session) := by
  unfold replaceObservedNativeSession
  infer_instance

/-- The retirement of another incarnation. -/
theorem requestRetirement_leavesReady {i : IncarnationId} {key : String} (h : i ≠ inc) :
    Keeps (LeavesReady inc) (requestRetirement now i key) := by
  have h_retire {h_key} : Keeps (LeavesReady inc) (updateRows Tab.incarnations
      (fun j => j.id = i ∧ j.state = .ready) (fun j => { j with state := .retiring })
      h_key : StoreTx Nat) := keeps_leavesReady fun _ h_j h_id => absurd (h_j.1.symm.trans h_id) h
  unfold requestRetirement
  infer_instance

instance {op i evidence delay} :
    Keeps (LeavesReady inc) (markUnknownWithClearSpacing now op i evidence delay) := by
  have h_unknown {h_key} : Keeps (LeavesReady inc) (updateRows Tab.incarnations
      (fun j => j.id = i ∧ j.state = .starting) (fun j => { j with state := .unknown })
      h_key : StoreTx Nat) := keeps_leavesReady fun _ h _ h_ready => by simp [h.2] at h_ready
  unfold markUnknownWithClearSpacing
  cases delay <;> infer_instance

instance {op i evidence} : Keeps (LeavesReady inc) (markUnknown now op i evidence) := by
  unfold markUnknown
  infer_instance

instance {op i evidence delay} :
    Keeps (LeavesReady inc) (markClearUnknown now op i evidence delay) := by
  unfold markClearUnknown
  infer_instance

instance {op i evidence outcome} :
    Keeps (LeavesReady inc) (markRejected now op i evidence outcome) := by
  have h_failed {h_key} : Keeps (LeavesReady inc) (updateRows Tab.incarnations
      (fun j => j.id = i ∧ j.state = .starting) (fun j => { j with state := .failed })
      h_key : StoreTx Nat) := keeps_leavesReady fun _ h _ h_ready => by simp [h.2] at h_ready
  unfold markRejected
  infer_instance

instance {op i session delay} : Keeps (LeavesReady inc) (completeClear now op i session delay) := by
  unfold completeClear
  cases session <;> infer_instance

instance {row} : Keeps (LeavesReady inc) (settleAbsentUnknownStart now row) := by
  have h_lost {h_key} : Keeps (LeavesReady inc) (updateRows Tab.incarnations
      (fun j => j.id = row.incarnationId ∧ j.state = .unknown ∧
        j.observedPaneId = row.observedPaneId ∧ j.observedTerminalId = row.observedTerminalId)
      (fun j => { j with
        state := .lost, terminalAtMs := some now, terminalReason := some row.reason })
      h_key : StoreTx Nat) := keeps_leavesReady fun _ h _ h_ready => by simp [h.2.1] at h_ready
  unfold settleAbsentUnknownStart
  infer_instance

instance {op i pane terminal snapshot} :
    Keeps (LeavesReady inc) (reconcileRetirement now op i pane terminal snapshot) := by
  have h_retired {h_key} : Keeps (LeavesReady inc) (updateRows Tab.incarnations
      (fun j => j.id = i ∧ j.state = .retiring)
      (fun j => { j with
        state := .retired, terminalAtMs := some now,
        terminalReason := some "authoritative_absence" })
      h_key : StoreTx Nat) := keeps_leavesReady fun _ h _ h_ready => by simp [h.2] at h_ready
  unfold reconcileRetirement
  infer_instance

end Frames

-- ============================================================================
-- What takes it away
-- ============================================================================

/-- The Ready incarnation under the name is `inc`, and its seat is empty in the snapshot. -/
def Store.Released (s : Store) (publicName : String) (snapshot : Snapshot)
    (inc : IncarnationId) : Prop :=
  ∃ i ∈ s.incarnations.rows.find? (fun i =>
      i.state = .ready ∧ s.publicName i.logicalAgentId = some publicName),
    i.id = inc ∧ ∃ paneId ∈ i.observedPaneId, ∃ terminalId ∈ i.observedTerminalId,
      ¬ snapshot.Occupied paneId terminalId

instance (s : Store) (publicName : String) (snapshot : Snapshot) :
    DecidablePred (s.Released publicName snapshot) := fun inc => by
  unfold Store.Released
  infer_instance

/-- The call retires the incarnation, hands it over, or is given a snapshot that does not show
    its binding. -/
def Call.Unseats (c : Call) (s : Store) (inc : IncarnationId) : Prop :=
  match c with
  | .requestRetirement _ i _ => i = inc
  | .acceptStartReady _ _ _ _ supersedes => supersedes = some inc
  | .reconcileReadyIncarnations _ snapshot =>
    ∃ i ∈ s.incarnations, i.id = inc ∧ ¬ s.StaysReady snapshot i
  | .releaseAbsentAliasBinding _ publicName snapshot => s.Released publicName snapshot inc
  | _ => False

instance (c : Call) (s : Store) : DecidablePred (c.Unseats s) := fun inc => by
  apply Call.casesOn (motive := fun c => Decidable (c.Unseats s inc)) c <;>
    intros <;>
    dsimp only [Call.Unseats] <;>
    infer_instance

theorem Call.leavesReady (c : Call) (h : c.Step s s') (h_c : ¬ c.Unseats s inc) :
    LeavesReady inc s s' := by
  cases c with
  | requestRetirement now i key =>
    have := @requestRetirement_leavesReady inc now i key h_c
    exact Keeps.commit h
  | acceptStartReady now op i agent supersedes =>
    have := @acceptStartReady_leavesReady inc now i op agent supersedes h_c
    exact Keeps.commit h
  | reconcileReadyIncarnations now snapshot =>
    obtain ⟨_, h_run⟩ := commit_ok.mp h
    obtain ⟨bs, h_read, h_done⟩ := reconcileReadyIncarnations_run h_run
    intro i h_i
    by_cases h_ready : i.id = inc ∧ i.state = .ready
    · have h_stays : s.StaysReady snapshot i := by
        by_contra h_not
        exact h_c ⟨i, h_i, h_ready.1, h_not⟩
      obtain ⟨i', h_i', h_id, h_ready'⟩ := (h_done.stays h_read h_i).mpr h_stays
      exact ⟨i', h_i', h_id, fun _ _ => h_ready'⟩
    · obtain ⟨i', h_i', h_checked⟩ := h_done.incarnations.image i h_i
      exact ⟨i', h_i', h_checked.same.id, fun h_id h_was => absurd ⟨h_id, h_was⟩ h_ready⟩
  | releaseAbsentAliasBinding now name snapshot =>
    obtain ⟨_, h_run⟩ := commit_ok.mp h
    simp only [Kelpie.releaseAbsentAliasBinding, run_bind_reads] at h_run
    split at h_run
    · cases h_run
      exact Stepwise.refl s
    · rename_i i h_find
      split at h_run
      · rename_i paneId terminalId h_pane h_terminal
        split at h_run
        · cases h_run
          exact Stepwise.refl s
        · rename_i h_free
          have h_other : i.id ≠ inc := fun h_id =>
            h_c ⟨i, h_find, h_id, paneId, h_pane, terminalId, h_terminal, h_free⟩
          have h_lost : Keeps (LeavesReady inc) (markLost now i.id) :=
            keeps_leavesReady fun _ h_j h_id => absurd (h_j.1.symm.trans h_id) h_other
          exact Keeps.keeps h_run
      · cases h_run
        exact Stepwise.refl s
  | _ => exact Keeps.commit h

-- ============================================================================
-- Targets
-- ============================================================================

/-- The incarnation is Ready on the pane. -/
def Store.Targets (s : Store) (inc : IncarnationId) (paneId : String) : Prop :=
  ∃ i ∈ s.incarnations, i.id = inc ∧ i.state = .ready ∧ i.observedPaneId = some paneId

instance (s : Store) (inc : IncarnationId) : DecidablePred (s.Targets inc) := fun paneId =>
  inferInstanceAs (Decidable (∃ i ∈ s.incarnations.rows,
    i.id = inc ∧ i.state = .ready ∧ i.observedPaneId = some paneId))

/-- A state that an incarnation does not come back from to Ready. -/
def IncarnationState.Left (state : IncarnationState) : Prop :=
  state = .retiring ∨ state = .retired ∨ state = .lost ∨ state = .superseded

namespace IncarnationState

variable {a b : IncarnationState}

theorem Next.left (h : Next a b) (h_a : a.Left) : b.Left := by
  cases h with
  | vanish => exact .inr (.inl rfl)
  | _ => simp [Left] at h_a

theorem MovesTo.left (h : MovesTo a b) (h_a : a.Left) : b.Left := by
  induction h with
  | refl => exact h_a
  | tail _ h_next ih => exact h_next.left ih

theorem MovesTo.of_ready (h : MovesTo .ready b) : b = .ready ∨ b.Left := by
  induction h with
  | refl => exact .inl rfl
  | tail _ h_next ih =>
    rcases ih with rfl | h_left
    · cases h_next with
      | retire => exact .inr (.inl rfl)
      | handOver => exact .inr (.inr (.inr (.inr rfl)))
      | lose => exact .inr (.inr (.inr (.inl rfl)))
    · exact .inr (h_next.left h_left)

end IncarnationState

section Targets

variable {s₁ : Store} {paneId : String}

/-- The incarnation that was Ready on the pane, later. -/
theorem Store.Targets.ages (h : s.Targets inc paneId) (h_ages : Matures s s') :
    ∃ i' ∈ s'.incarnations, i'.id = inc ∧ (i'.state = .ready ∨ i'.state.Left) ∧
      i'.observedPaneId = some paneId := by
  obtain ⟨i, h_i, h_id, h_ready, h_pane⟩ := h
  obtain ⟨i', h_i', h_aged⟩ := h_ages i h_i
  have h_moves := h_aged.state
  rw [h_ready] at h_moves
  have h_seat : i'.seat = i.seat := h_aged.seat (by simp [IncarnationRow.Early, h_ready])
  exact ⟨i', h_i', h_aged.id.trans h_id, h_moves.of_ready, (congrArg Prod.fst h_seat).trans h_pane⟩

/-- What leaves a target Ready leaves it in place. -/
theorem Store.Targets.kept (h : s.Targets inc paneId) (h_ages : Matures s s')
    (h_leaves : LeavesReady inc s s') : s'.Targets inc paneId := by
  obtain ⟨j, h_j, h_id, -, h_pane⟩ := h.ages h_ages
  obtain ⟨i, h_i, h_i_id, h_ready, -⟩ := h
  obtain ⟨i', h_i', h_stands⟩ := h_leaves i h_i
  obtain rfl := Table.eq_of_key h_j h_i' (h_id.trans (h_stands.id.trans h_i_id).symm)
  exact ⟨j, h_j, h_id, h_stands.ready h_i_id h_ready, h_pane⟩

/-- What was a target once is one now exactly if it is Ready. -/
theorem Store.Targets.iff_ready (h : s.Targets inc paneId) (h_ages : Matures s s') :
    s'.Targets inc paneId ↔ s'.HasReady inc := by
  obtain ⟨i', h_i', h_id', -, h_pane⟩ := h.ages h_ages
  constructor
  · rintro ⟨i, h_i, h_id, h_ready, -⟩
    exact ⟨i, h_i, h_id, h_ready⟩
  · rintro ⟨i, h_i, h_id, h_ready⟩
    obtain rfl := Table.eq_of_key h_i h_i' (h_id.trans h_id'.symm)
    exact ⟨i, h_i, h_id, h_ready, h_pane⟩

/-- A target that is one later was one all the while. -/
theorem Store.Targets.between (h : s.Targets inc paneId) (h_ages : Matures s s₁)
    (h_ages' : Matures s₁ s') (h' : s'.Targets inc paneId) : s₁.Targets inc paneId := by
  obtain ⟨i₁, h_i₁, h_id₁, h_state, h_pane⟩ := h.ages h_ages
  obtain ⟨i', h_i', h_aged⟩ := h_ages' i₁ h_i₁
  obtain ⟨j, h_j, h_id, h_ready, -⟩ := h'
  obtain rfl := Table.eq_of_key h_j h_i' (h_id.trans (h_aged.id.trans h_id₁).symm)
  refine ⟨i₁, h_i₁, h_id₁, h_state.resolve_right fun h_left => ?_, h_pane⟩
  have h_left' := h_aged.state.left h_left
  rw [h_ready] at h_left'
  simp [IncarnationState.Left] at h_left'

/-- An incarnation that left is not Ready again. -/
theorem not_hasReady_of_left {i : IncarnationRow} (h_i : i ∈ s₁.incarnations)
    (h_left : i.state.Left) (h_ages : Matures s₁ s') : ¬ s'.HasReady i.id := by
  rintro ⟨j, h_j, h_id, h_ready⟩
  obtain ⟨i', h_i', h_aged⟩ := h_ages i h_i
  obtain rfl := Table.eq_of_key h_j h_i' (h_id.trans h_aged.id.symm)
  have h_left' := h_aged.state.left h_left
  rw [h_ready] at h_left'
  simp [IncarnationState.Left] at h_left'

/-- A statement that changed a row made the one incarnation that it names leave. -/
theorem not_hasReady_of_update {p : IncarnationRow → Prop} [DecidablePred p]
    {f : IncarnationRow → IncarnationRow} {h_key : ∀ i, (f i).id = i.id} {n : Nat}
    (h : (updateRows Tab.incarnations p f h_key : StoreTx Nat).run s = .ok (n, s₁)) (h_n : 0 < n)
    (h_p : ∀ i, p i → i.id = inc) (h_f : ∀ i, (f i).state.Left) (h_ages : Matures s₁ s') :
    ¬ s'.HasReady inc := by
  obtain ⟨t, rfl, i, -, h_pi, h_t⟩ := run_updateRows_pos h h_n
  have h_id : (f i).id = inc := (h_key i).trans (h_p i h_pi)
  rw [← h_id]
  exact not_hasReady_of_left h_t (h_f i) h_ages

theorem demotePredecessor_leaves {i : IncarnationId}
    (h : (demotePredecessor now inc i).run s = .ok ((), s')) : ¬ s'.HasReady inc := by
  simp only [demotePredecessor, run_bind_reads] at h
  obtain ⟨n, s₁, h_update, h⟩ := run_bind_ok.mp h
  rw [run_require_ok, Prod.mk.injEq] at h
  obtain ⟨h_one, -, rfl⟩ := h
  exact not_hasReady_of_update h_update (by omega) (fun _ h_p => h_p.1)
    (fun _ => .inr (.inr (.inr rfl))) (Stepwise.refl _)

theorem requestRetirement_leaves {key : String} {op : OperationId}
    (h : (requestRetirement now inc key).run s = .ok (op, s')) : ¬ s'.HasReady inc := by
  simp only [requestRetirement, run_bind_query_ok] at h
  obtain ⟨-, -, h⟩ := h
  obtain ⟨n, s₁, h_update, h⟩ := run_bind_ok.mp h
  rw [run_bind_require_ok] at h
  obtain ⟨h_one, h⟩ := h
  exact not_hasReady_of_update h_update (by omega) (fun _ h_p => h_p.1) (fun _ => .inl rfl)
    (Keeps.keeps h)

theorem markLost_leaves {i : IncarnationRow} {n : Nat} (h_i : i ∈ s.incarnations)
    (h_ready : i.state = .ready) (h : (markLost now i.id).run s = .ok (n, s')) :
    ¬ s'.HasReady i.id := by
  have h_pos : 0 < n := by
    simp only [markLost, run_updateRows, Except.ok.injEq, Prod.mk.injEq] at h
    rw [← h.1]
    exact Table.count_pos.mpr ⟨i, h_i, rfl, h_ready⟩
  exact not_hasReady_of_update h h_pos (fun _ h_p => h_p.1) (fun _ => .inr (.inr (.inl rfl)))
    (Stepwise.refl _)

theorem Call.not_hasReady (c : Call) (h : c.Step s s') (h_c : c.Unseats s inc) :
    ¬ s'.HasReady inc := by
  cases c with
  | requestRetirement now i key =>
    obtain rfl : i = inc := h_c
    obtain ⟨_, h_run⟩ := commit_ok.mp h
    exact requestRetirement_leaves h_run
  | acceptStartReady now op i agent supersedes =>
    obtain rfl : supersedes = some inc := h_c
    obtain ⟨_, h_run⟩ := commit_ok.mp h
    simp only [Kelpie.acceptStartReady, run_bind_reads, run_bind_orFail_ok, run_bind_require_ok,
      run_bind_query_ok] at h_run
    obtain ⟨_, -, -, _, -, h_run⟩ := h_run
    obtain ⟨_, s₁, -, h_run⟩ := run_bind_ok.mp h_run
    rw [run_bind_require_ok] at h_run
    obtain ⟨-, h_run⟩ := h_run
    obtain ⟨_, s₂, -, h_run⟩ := run_bind_ok.mp h_run
    obtain ⟨_, s₃, -, h_run⟩ := run_bind_ok.mp h_run
    exact demotePredecessor_leaves h_run
  | reconcileReadyIncarnations now snapshot =>
    obtain ⟨i, h_i, rfl, h_not⟩ := h_c
    obtain ⟨_, h_run⟩ := commit_ok.mp h
    obtain ⟨bs, h_read, h_done⟩ := reconcileReadyIncarnations_run h_run
    exact fun h_ready => h_not ((h_done.stays h_read h_i).mp h_ready)
  | releaseAbsentAliasBinding now name snapshot =>
    obtain ⟨i, h_find, rfl, paneId, h_pane, terminalId, h_terminal, h_free⟩ := h_c
    rw [Option.mem_def] at h_find h_pane h_terminal
    have h_holds := List.find?_some h_find
    rw [decide_eq_true_eq] at h_holds
    obtain ⟨_, h_run⟩ := commit_ok.mp h
    simp only [Kelpie.releaseAbsentAliasBinding, run_bind_reads, h_find, h_pane, h_terminal,
      id_eq, h_free, if_false] at h_run
    obtain ⟨n, s₁, h_lost, h_run⟩ := run_bind_ok.mp h_run
    cases h_run
    exact markLost_leaves (List.mem_of_find?_eq_some h_find) h_holds.1 h_lost
  | _ => exact h_c.elim

/-- A call leaves a target in place exactly if it does not unseat it. -/
theorem Call.targets_iff (c : Call) (h : c.Step s s') (h_target : s.Targets inc paneId) :
    s'.Targets inc paneId ↔ ¬ c.Unseats s inc := by
  constructor
  · rintro ⟨i, h_i, h_id, h_ready, -⟩ h_c
    exact c.not_hasReady h h_c ⟨i, h_i, h_id, h_ready⟩
  · exact fun h_c => h_target.kept (c.matures h) (c.leavesReady h h_c)

/-- Over a run a target stays in place exactly if no call unseats it. -/
theorem targets_run_iff {ok : Call → Store → Prop} (h : StoreRun ok s s')
    (h_target : s.Targets inc paneId) :
    s'.Targets inc paneId ↔ StoreRun (fun c t => ok c t ∧ ¬ c.Unseats t inc) s s' := by
  constructor
  · intro h_target'
    induction h with
    | refl => exact .refl
    | tail c h_run h_ok h_step ih =>
      have h_before := h_target.between (matures_run h_run) (c.matures h_step) h_target'
      exact .tail c (ih h_before) ⟨h_ok, (c.targets_iff h_step h_before).mp h_target'⟩ h_step
  · intro h_seated
    refine Run.invariant (I := (Store.Targets · inc paneId)) h_seated h_target
      fun c a b h_a h_c h_step => ?_
    exact (c.targets_iff h_step h_a).mpr h_c.2

end Targets

-- ============================================================================
-- Write boundaries
-- ============================================================================

section Boundaries

variable {item : DueDelivery} {queued : Bool} {rendered : Option String} {p : PreparedPrompt}
  {begunAt submittedAt rejectedAt : Millis}

theorem stored_query_ok {α : Type} {q : Query α} {a : α}
    (h : (stored (query q)).run s = (.ok a, s')) : q s = .ok a ∧ s = s' := by
  obtain ⟨h_q, rfl⟩ := run_query_ok.mp (stored_ok h)
  exact ⟨h_q, rfl⟩

theorem readyBinding_targets {paneId terminalId : String}
    (h : readyBinding inc s = .ok (paneId, terminalId)) : s.Targets inc paneId := by
  obtain ⟨i, h_find, h_on⟩ := readyBinding_ok h
  obtain ⟨h_i, h_id⟩ := Table.find_eq_some.mp h_find
  exact ⟨i, h_i, h_id, h_on.1, h_on.2.1⟩

theorem readyBinding_conflict {text : String}
    (h : readyBinding inc s = .error (.conflict text)) : ¬ s.HasReady inc := by
  rintro ⟨i, h_i, h_id, h_ready⟩
  have h_find : (s.incarnations.find inc).filter (·.state = .ready) = some i :=
    Option.filter_eq_some_iff.mpr ⟨Table.find_eq_some.mpr ⟨h_i, h_id⟩, decide_eq_true h_ready⟩
  simp only [readyBinding, h_find] at h
  split at h <;> cases h

/-- What is prepared is prepared for the pane of a Ready incarnation, and nothing is written. -/
theorem preparePromptDelivery_targets
    (h : (preparePromptDelivery item queued rendered).run s = (.ok p, s')) :
    s = s' ∧ s.Targets p.recipientIncarnation p.paneId := by
  unfold preparePromptDelivery at h
  obtain ⟨⟨paneId, terminalId⟩, s₁, h_binding, h⟩ := Prog.run_bind_ok.mp h
  obtain ⟨h_ready, rfl⟩ := stored_query_ok h_binding
  obtain ⟨sender, s₂, h_sender, h⟩ := Prog.run_bind_ok.mp h
  obtain ⟨-, rfl⟩ := stored_query_ok h_sender
  obtain ⟨audience, s₃, h_audience, h⟩ := Prog.run_bind_ok.mp h
  obtain ⟨-, rfl⟩ := stored_query_ok h_audience
  obtain ⟨_, s₄, h_envelope, h⟩ := Prog.run_bind_ok.mp h
  obtain ⟨-, rfl⟩ := stored_query_ok h_envelope
  obtain ⟨rfl, rfl⟩ := Prog.run_pure_ok.mp h
  exact ⟨rfl, readyBinding_targets h_ready⟩

instance {prepared : PreparedPrompt} :
    Prog.Keeps (LeavesReady inc) (commitPromptIntent begunAt submittedAt prepared) := by
  unfold commitPromptIntent
  infer_instance

instance {prepared : PreparedPrompt} :
    Prog.Keeps Matures (commitPromptIntent begunAt submittedAt prepared) := by
  unfold commitPromptIntent
  infer_instance

instance {prepared : DraftedReminder} :
    Prog.Keeps (LeavesReady inc) (commitReminderIntent prepared) := by
  unfold commitReminderIntent
  infer_instance

instance {prepared : DraftedReminder} : Prog.Keeps Matures (commitReminderIntent prepared) := by
  unfold commitReminderIntent
  infer_instance

/-- A delivery that came due is prepared for its Ready recipient and otherwise refused. -/
theorem beginOneDue_targets {prepared : Option PreparedPrompt}
    (h : (beginOneDue begunAt submittedAt rejectedAt item).run s = (.ok prepared, s')) :
    (∀ p ∈ prepared, s = s' ∧ s.Targets p.recipientIncarnation p.paneId) ∧
      (prepared = none → ¬ s.HasReady item.recipientIncarnation ∧
        s'.OperationIs item.operationId item.recipientIncarnation (· = .failed) ∧
        ∃ d ∈ s'.deliveries, d.operationId = some item.operationId ∧
          d.outcome = .targetUnavailable) := by
  unfold beginOneDue at h
  obtain ⟨binding, s₁, h_binding, h⟩ := Prog.run_bind_ok.mp h
  obtain ⟨h_read, rfl⟩ := Prog.run_reads_ok.mp h_binding
  split at h
  · -- The recipient is Ready.
    obtain ⟨p, s₂, h_prepared, h⟩ := Prog.run_bind_ok.mp h
    obtain ⟨rfl, rfl⟩ := Prog.run_pure_ok.mp h
    refine ⟨fun p' h_p' => ?_, nofun⟩
    obtain rfl := Option.mem_some.mp h_p'
    exact preparePromptDelivery_targets h_prepared
  · -- The intent of the write is recorded, and refused before there is one.
    let refused : PreparedPrompt :=
      { operationId := item.operationId, recipientIncarnation := item.recipientIncarnation,
        paneId := "", requestId := s!"kelpie:due:{item.operationId}", queued := true }
    obtain ⟨attempt, s₂, h_begin, h⟩ := Prog.run_bind_ok.mp h
    obtain ⟨_, s₃, h_submit, h⟩ := Prog.run_bind_ok.mp h
    obtain ⟨_, s₄, h_reject, h⟩ := Prog.run_bind_ok.mp h
    obtain ⟨rfl, rfl⟩ := Prog.run_pure_ok.mp h
    have h_intent : (commitPromptIntent begunAt submittedAt refused).run s = (.ok (), s₃) :=
      Prog.run_bind_ok.mpr ⟨attempt, s₂, h_begin, h_submit⟩
    have h_awaits : s₃.AwaitsAnswer refused := commitPromptIntent_awaits nofun h_intent
    exact ⟨nofun, fun _ => ⟨readyBinding_conflict h_read,
      (markRejected_fails (stored_ok h_reject)).ends h_awaits⟩⟩
  · cases h

/-- A prompt whose intent is committed goes to its target if that is one before. -/
theorem commitPromptIntent_targets_iff {s₀ : Store}
    (h_target : s₀.Targets p.recipientIncarnation p.paneId) (h_ages : Matures s₀ s)
    (h : (commitPromptIntent begunAt submittedAt p).run s = (.ok (), s')) :
    s'.Targets p.recipientIncarnation p.paneId ↔ s.Targets p.recipientIncarnation p.paneId := by
  have h_ages' : Matures s s' := Prog.Keeps.of_run inferInstance h
  have h_leaves : LeavesReady p.recipientIncarnation s s' := Prog.Keeps.of_run inferInstance h
  exact ⟨h_target.between h_ages h_ages', fun h_before => h_before.kept h_ages' h_leaves⟩

/-- A reminder is prepared for a Ready incarnation at its write boundary. -/
theorem commitReminderIntent_ready {prepared : DraftedReminder}
    (h : (commitReminderIntent prepared).run s = (.ok (), s')) :
    s.HasReady prepared.reminder.recipientIncarnation := by
  unfold commitReminderIntent at h
  obtain ⟨_, s₁, h_prepare, -⟩ := Prog.run_bind_ok.mp h
  have h_prepare := stored_ok h_prepare
  simp only [prepareReminderAttempt, run_bind_reads, run_bind_require_ok] at h_prepare
  obtain ⟨⟨r, -, -, -, -, o, -, -, i, h_find, h_ready, -⟩, -⟩ := h_prepare
  obtain ⟨h_i, h_id⟩ := Table.find_eq_some.mp h_find
  exact ⟨i, h_i, h_id, h_ready⟩

end Boundaries

/-- A prompt is prepared for the pane of its Ready recipient.  When the intent to write it is
    committed, after any run, the recipient is still Ready on the pane exactly if no call of the run
    unseated it.  A reminder is never written to anything but its Ready target, and a delivery
    that comes due without one is refused. -/
theorem prompts_targeted {ok : Call → Store → Prop} :
    (∀ {s s' : Store} {item : DueDelivery} {queued : Bool} {rendered : Option String}
      {p : PreparedPrompt}, (preparePromptDelivery item queued rendered).run s = (.ok p, s') →
      s = s' ∧ s.Targets p.recipientIncarnation p.paneId) ∧
    (∀ {s₀ s s' : Store} {p : PreparedPrompt} {begunAt submittedAt : Millis},
      s₀.Targets p.recipientIncarnation p.paneId → StoreRun ok s₀ s →
      (commitPromptIntent begunAt submittedAt p).run s = (.ok (), s') →
      (s'.Targets p.recipientIncarnation p.paneId ↔
        StoreRun (fun c t => ok c t ∧ ¬ c.Unseats t p.recipientIncarnation) s₀ s)) ∧
    (∀ {s₀ s s' : Store} {prepared : DraftedReminder},
      s₀.Targets prepared.reminder.recipientIncarnation prepared.paneId → StoreRun ok s₀ s →
      (commitReminderIntent prepared).run s = (.ok (), s') →
      s'.Targets prepared.reminder.recipientIncarnation prepared.paneId) ∧
    ∀ {s s' : Store} {item : DueDelivery} {prepared : Option PreparedPrompt}
      {begunAt submittedAt rejectedAt : Millis},
      (beginOneDue begunAt submittedAt rejectedAt item).run s = (.ok prepared, s') →
      (∀ p ∈ prepared, s = s' ∧ s.Targets p.recipientIncarnation p.paneId) ∧
        (prepared = none → ¬ s.HasReady item.recipientIncarnation ∧
          s'.OperationIs item.operationId item.recipientIncarnation (· = .failed) ∧
          ∃ d ∈ s'.deliveries, d.operationId = some item.operationId ∧
            d.outcome = .targetUnavailable) := by
  refine ⟨preparePromptDelivery_targets, ?_, ?_, beginOneDue_targets⟩
  · intro s₀ s s' p begunAt submittedAt h_target h_run h_commit
    rw [commitPromptIntent_targets_iff h_target (matures_run h_run) h_commit]
    exact targets_run_iff h_run h_target
  · intro s₀ s s' prepared h_target h_run h_commit
    have h_before : s.Targets prepared.reminder.recipientIncarnation prepared.paneId :=
      (h_target.iff_ready (matures_run h_run)).mpr (commitReminderIntent_ready h_commit)
    exact h_before.kept (Prog.Keeps.of_run inferInstance h_commit)
      (Prog.Keeps.of_run inferInstance h_commit)

/-- The delivery of the ask of `askedRun`. -/
def workerDelivery : DueDelivery where
  operationId := 3
  messageId := 1
  kind := .ask
  sender := some 1
  recipient := 2
  recipientIncarnation := 2

/-- What leads to a prompt of `workerDelivery` that is written after the calls. -/
theorem written_after (ok : Call → Store → Prop) (P : Store → Prop) (cs : List Call)
    (h : Leads Call.AsCalled (fun s₀ =>
      ((preparePromptDelivery workerDelivery false none).run s₀).1 = .ok workerPrompt ∧
      Leads ok (fun s => ((commitPromptIntent 8 8 workerPrompt).run s).1.isOk ∧
        P ((commitPromptIntent 8 8 workerPrompt).final s)) cs s₀) askedRun Store.empty) :
    ∃ s₀ s s', Reachable Call.AsCalled s₀ ∧
      (preparePromptDelivery workerDelivery false none).run s₀ = (.ok workerPrompt, s₀) ∧
      StoreRun ok s₀ s ∧ (commitPromptIntent 8 8 workerPrompt).run s = (.ok (), s') ∧ P s' := by
  obtain ⟨s₀, h_reach, h_prepared, h_rest⟩ := h.run
  obtain ⟨s, h_run, h_ok, h_P⟩ := h_rest.run
  have h_draft : (preparePromptDelivery workerDelivery false none).run s₀ =
      (.ok workerPrompt, ((preparePromptDelivery workerDelivery false none).run s₀).2) :=
    Prod.ext h_prepared rfl
  rw [← (preparePromptDelivery_targets h_draft).1] at h_draft
  exact ⟨s₀, s, _, h_reach, h_draft, h_run, Prog.run_of_isOk h_ok, h_P⟩

/-- The reminder of the ask of `remindedRun`. -/
def workerReminder : DraftedReminder where
  reminder :=
    { askMessageId := 1, owingAgentId := 2, waitingAgentId := 1, recipientIncarnation := 2,
      intervalMs := 1000 }
  paneId := "w1:p2"
  requestId := "kelpie:reminder:1:2000"
  nowMs := 2000

/-- The asker retires between the preparation of its ask, or of a reminder of it, and the
    write; a scheduled ask comes due after its recipient retired. -/
theorem prompts_targeted_askedRun :
    (∃ s₀ s s' p, Reachable Call.AsCalled s₀ ∧
      (preparePromptDelivery workerDelivery false none).run s₀ = (.ok p, s₀) ∧
      StoreRun Call.AsCalled s₀ s ∧ (commitPromptIntent 8 8 p).run s = (.ok (), s') ∧
      ¬ s'.HasReady 1 ∧ s'.Targets p.recipientIncarnation p.paneId) ∧
    (∃ s₀ s s', Reachable Call.AsCalled s₀ ∧ StoreRun Call.AsCalled s₀ s ∧
      (commitReminderIntent workerReminder).run s = (.ok (), s') ∧ ¬ s'.HasReady 1 ∧
      s'.Targets 2 "w1:p2") ∧
    ∃ s s', Reachable Call.AsCalled s ∧
      (beginOneDue 8 8 8 workerDelivery).run s = (.ok none, s') ∧
      ∃ d ∈ s'.deliveries, d.operationId = some 3 ∧ d.outcome = .targetUnavailable := by
  obtain ⟨h_prepared, h_written, h_reminded, h_due⟩ := @prompts_targeted Call.AsCalled
  refine ⟨?_, ?_, ?_⟩
  · obtain ⟨s₀, s, s', h_reach, h_draft, h_run, h_commit, h_retired⟩ := written_after
      (fun c t => Call.AsCalled c t ∧ ¬ c.Unseats t 2) (fun s' => ¬ s'.HasReady 1)
      [.requestRetirement 5 1 "k4"] (by decide +kernel)
    have h_all : StoreRun Call.AsCalled s₀ s := h_run.mono fun _ _ h => h.1
    obtain ⟨-, h_target⟩ := h_prepared h_draft
    exact ⟨s₀, s, s', workerPrompt, h_reach, h_draft, h_all, h_commit, h_retired,
      (h_written h_target h_all h_commit).mpr h_run⟩
  · have h : Leads Call.AsCalled (fun s₀ => s₀.Targets 2 "w1:p2" ∧
        Leads Call.AsCalled (fun s => ((commitReminderIntent workerReminder).run s).1.isOk ∧
          ¬ ((commitReminderIntent workerReminder).final s).HasReady 1)
          [.requestRetirement 5 1 "k4"] s₀)
        (remindedRun ++ submitting 3 3 2 "r1" ++ [.acceptDelivery 4 3 2 "w1:p2" "t2" none])
        Store.empty := by decide +kernel
    obtain ⟨s₀, h_reach, h_target, h_rest⟩ := h.run
    obtain ⟨s, h_run, h_ok, h_retired⟩ := h_rest.run
    exact ⟨s₀, s, _, h_reach, h_run, Prog.run_of_isOk h_ok, h_retired,
      h_reminded h_target h_run (Prog.run_of_isOk h_ok)⟩
  · have h : Leads Call.AsCalled (fun s =>
        ((beginOneDue 8 8 8 workerDelivery).run s).1 = .ok none)
        [adopting 1 "w1:p1" "t1" "asker" "k1", adopting 1 "w1:p2" "t2" "worker" "k2",
          .createAsk 2 1 2 2 "Which branch?" "k3" (some 3) none false .inject,
          .requestRetirement 5 2 "k4"] Store.empty := by decide +kernel
    obtain ⟨s, h_reach, h_none⟩ := h.run
    have h_refused : (beginOneDue 8 8 8 workerDelivery).run s =
        (.ok none, (beginOneDue 8 8 8 workerDelivery).final s) := Prod.ext h_none rfl
    obtain ⟨-, -, h_delivery⟩ := (h_due h_refused).2 rfl
    exact ⟨s, _, h_reach, h_refused, h_delivery⟩

/-- The worker retires between the preparation of the prompt and the write, and another agent
    has its pane by then: the prompt is written to that one. -/
theorem prompts_targeted_retired : ∃ s₀ s s' p, Reachable Call.AsCalled s₀ ∧
    (preparePromptDelivery workerDelivery false none).run s₀ = (.ok p, s₀) ∧
    StoreRun Call.AsCalled s₀ s ∧ (commitPromptIntent 8 8 p).run s = (.ok (), s') ∧
    ¬ s'.Targets p.recipientIncarnation p.paneId ∧ s'.Targets 3 p.paneId := by
  obtain ⟨s₀, s, s', h_reach, h_draft, h_run, h_commit, h_lost⟩ := written_after
    Call.AsCalled (fun s' => ¬ s'.Targets 2 "w1:p2" ∧ s'.Targets 3 "w1:p2")
    [.requestRetirement 5 2 "k4",
      .reconcileRetirement 6 4 2 "w1:p2" "t2" { panes := [], agents := [] },
      adopting 7 "w1:p2" "t3" "other" "k5"] (by decide +kernel)
  exact ⟨s₀, s, s', workerPrompt, h_reach, h_draft, h_run, h_commit, h_lost⟩

end Kelpie
