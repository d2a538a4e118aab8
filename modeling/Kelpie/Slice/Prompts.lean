/-
  Kelpie.Slice.Prompts

  A prompt after its write: the intent that is recorded before it, the answer of
  Herdr that is recorded after it, and when recording the answer comes to
  nothing.
-/

import Kelpie.Ledger.Linked
import Kelpie.Lib.Prog
import Kelpie.Slice.Reads

namespace Kelpie

open Lib Lib.Tx Ledger

-- ============================================================================
-- Evidence
-- ============================================================================

/-- What Herdr observed after a prompt write. -/
inductive SubmissionObservation where
  | observed
  /-- The write was accepted but no agent activity followed within the window. -/
  | stalled
  /-- Herdr returned before observing either, e.g. a caller timeout. -/
  | unobserved
deriving DecidableEq, Repr

/-- One character of a JSON string, as `serde_json` writes it. -/
def jsonChar (c : Char) : String :=
  if c = '"' then "\\\""
  else if c = '\\' then "\\\\"
  else if c = '\n' then "\\n"
  else if c = '\r' then "\\r"
  else if c = '\t' then "\\t"
  else if c.toNat = 8 then "\\b"
  else if c.toNat = 12 then "\\f"
  else if c.toNat < 32 then
    "\\u00" ++ String.ofList [Nat.digitChar (c.toNat / 16), Nat.digitChar (c.toNat % 16)]
  else String.singleton c

/-- A string as JSON writes it. -/
def jsonString (text : String) : String :=
  "\"" ++ String.join (text.toList.map jsonChar) ++ "\""

/-- Serializable evidence recorded beside one accepted delivery attempt. -/
def SubmissionObservation.evidence (observation : SubmissionObservation)
    (detail : Option String) : String :=
  let submission := match observation with
    | .observed => "observed"
    | .stalled => "stalled"
    | .unobserved => "unobserved"
  match detail with
  | none => "\x7b\"submission\":" ++ jsonString submission ++ "\x7d"
  | some detail =>
    "\x7b\"detail\":" ++ jsonString detail ++ ",\"submission\":" ++ jsonString submission ++
      "\x7d"

/-- Classify a post-write prompt error as submission evidence. -/
def postWriteObservation : HerdrError → Option SubmissionObservation
  | .rejected code _ =>
    if code = "agent_prompt_stalled" then some .stalled
    else if code = "timeout" then some .unobserved
    else none
  | _ => none

-- ============================================================================
-- Intent and answer
-- ============================================================================

/-- What recording the intent and the answer reads of a prepared prompt. -/
structure PreparedPrompt where
  operationId : OperationId
  recipientIncarnation : IncarnationId
  paneId : String
  requestId : String
  queued : Bool
deriving DecidableEq, Repr

/-- Transactions that commit one by one; the first failure ends them. -/
abbrev SliceProg := Prog Store SliceError

/-- One transaction of the store. -/
def stored {α : Type} (x : StoreTx α) : SliceProg α :=
  ⟨fun s => match x.run s with
    | .ok (a, s') => (.ok a, s')
    | .error e => (.error (.store e), s)⟩

/-- Record write-boundary intent after a Herdr connection exists. -/
def commitPromptIntent (now submittedAt : Millis) (prepared : PreparedPrompt) :
    SliceProg Unit := do
  let attempt ← stored (beginAttempt now prepared.operationId prepared.recipientIncarnation
    prepared.requestId)
  if prepared.queued then
    stored (submitQueuedDelivery prepared.operationId attempt prepared.requestId submittedAt)
  else
    stored (markSubmitted submittedAt prepared.operationId attempt prepared.requestId)

/-- `ready_binding`, the exact pane and terminal of a Ready incarnation. -/
def readyBinding (incarnationId : IncarnationId) : Query (String × String) := fun s =>
  match (s.incarnations.find incarnationId).filter (·.state = .ready) with
  | none => .error (.conflict "incarnation has no exact ready binding")
  | some i =>
    match i.observedPaneId, i.observedTerminalId with
    | some paneId, some terminalId => .ok (paneId, terminalId)
    | _, _ => .error (.sql .invalidColumnType)

/-- Record an answer that shows the prompt was written: Herdr's acceptance, or what it
    observed of the target afterwards. -/
def acceptObserved (now : Millis) (prepared : PreparedPrompt)
    (observation : SubmissionObservation) (detail : String) : SliceProg Unit := do
  let (paneId, terminalId) ← stored (query (readyBinding prepared.recipientIncarnation))
  stored (acceptDeliveryWithSubmission now prepared.operationId
    prepared.recipientIncarnation paneId terminalId (some (observation.evidence (some detail))))

/-- `apply_prompt_error`: a post-write failure that is evidence, not a rejection. -/
def applyPromptError (now noticeAt : Millis) (prepared : PreparedPrompt)
    (source : HerdrError) : SliceProg Unit :=
  match postWriteObservation source with
  | none =>
    match source with
    | .rejected code _ => do
      let deliveryOutcome : DeliveryOutcome :=
        if code.contains "not_found" then .targetUnavailable else .rejected
      stored (markRejected now prepared.operationId prepared.recipientIncarnation source.text
        deliveryOutcome)
      Prog.fail (.herdr source)
    | _ => do
      stored (markUnknown now prepared.operationId prepared.recipientIncarnation source.text)
      Prog.fail (.unknownOutcome (toString prepared.operationId) source)
  | some observation => do
    acceptObserved now prepared observation source.text
    if observation = .stalled then
      let _ ← stored (insertOperatorNotice noticeAt
        (s!"prompt {prepared.requestId} to incarnation {prepared.recipientIncarnation} on " ++
          s!"pane {prepared.paneId} was written but produced no observed agent activity " ++
          s!"({source.text}); nothing was resent and any obligation stays open"))

/-- `apply_prompt_outcome`. -/
def completePromptDelivery (now noticeAt : Millis) (prepared : PreparedPrompt)
    (result : Except HerdrError AgentObservation) : SliceProg Unit :=
  match result with
  | .ok agent =>
    stored (acceptDeliveryWithSubmission now prepared.operationId
      prepared.recipientIncarnation agent.paneId agent.terminalId
      (some (SubmissionObservation.observed.evidence none)))
  | .error source => applyPromptError now noticeAt prepared source

/-- Apply an initial-message Herdr outcome without failing the launch. -/
def completeInitialDelivery (now noticeAt : Millis) (prepared : PreparedPrompt)
    (startedIncarnation : IncarnationId) (messageId : MessageId)
    (result : Except HerdrError AgentObservation) : SliceProg Unit :=
  match result with
  | .ok agent =>
    stored (acceptDeliveryWithSubmission now prepared.operationId
      prepared.recipientIncarnation agent.paneId agent.terminalId
      (some (SubmissionObservation.observed.evidence none)))
  | .error source =>
    match postWriteObservation source with
    | some observation => do
      acceptObserved now prepared observation source.text
      if observation = .stalled then
        let _ ← stored (insertOperatorNotice noticeAt
          (s!"initial message {messageId} to incarnation {startedIncarnation} on pane " ++
            s!"{prepared.paneId} was written but produced no observed agent activity " ++
            s!"({source.text}); nothing was resent"))
    | none =>
      match source with
      | .rejected _ _ =>
        stored (markRejected now prepared.operationId prepared.recipientIncarnation
          source.text .rejected)
      | _ => do
        stored (markUnknown now prepared.operationId prepared.recipientIncarnation source.text)
        let _ ← stored (insertOperatorNotice noticeAt
          (s!"initial message {messageId} has unknown delivery outcome for incarnation " ++
            s!"{startedIncarnation}"))

-- ============================================================================
-- Transactions that commit
-- ============================================================================

section Commits

variable {s : Store} {now : Millis} {op : OperationId} {inc : IncarnationId}

/-- The operation is the live one of the incarnation. -/
def Store.OperationIs (s : Store) (op : OperationId) (inc : IncarnationId)
    (p : OperationOutcome → Prop) : Prop :=
  ∃ o ∈ s.operations.rows, o.Owns op inc ∧ p o.outcome

instance {p : OperationOutcome → Prop} [DecidablePred p] :
    Decidable (s.OperationIs op inc p) := by
  unfold Store.OperationIs
  infer_instance

/-- The final reply that the operation delivers, where it delivers one, is still owed. -/
def Store.FinalReplyOwed (s : Store) (op : OperationId) : Prop :=
  ∀ r ∈ finalReplyAmong (s.messagesOfOperation op),
    ∃ o ∈ s.obligations.rows, o.askMessageId = r.1 ∧ o.state.Unresolved

instance : Decidable (s.FinalReplyOwed op) := by
  unfold Store.FinalReplyOwed
  infer_instance

theorem count_operations_eq_one {p : OperationOutcome → Prop} [DecidablePred p] :
    s.operations.count (fun o => o.Owns op inc ∧ p o.outcome) = 1 ↔ s.OperationIs op inc p :=
  Table.count_eq_one_iff fun _ h_o => h_o.1.1

theorem messagesOfOperation_congr {s' : Store} (h : SameLedger s s') :
    s'.messagesOfOperation op = s.messagesOfOperation op := by
  have h_deliveries : s'.deliveries = s.deliveries := congrArg Ledger.deliveries h
  have h_messages : s'.messages = s.messages := congrArg Ledger.messages h
  rw [Store.messagesOfOperation, Store.messagesOfOperation, h_deliveries, h_messages]

/-- An update of deliveries that keeps them what they are keeps what each operation
    delivers. -/
theorem messagesOfOperation_update {p : DeliveryRow → Prop} [DecidablePred p]
    {f : DeliveryRow → DeliveryRow} {h_key : ∀ d, (f d).rowid = d.rowid}
    (h_f : ∀ d : DeliveryRow, d.SameMail (f d)) :
    { s with deliveries := s.deliveries.update p f h_key }.messagesOfOperation op =
      s.messagesOfOperation op := by
  have h_op (d : DeliveryRow) : (if p d then f d else d).operationId = d.operationId := by
    by_cases h : p d
    · rw [if_pos h, (h_f d).operation]
    · rw [if_neg h]
  have h_message (d : DeliveryRow) : (if p d then f d else d).messageId = d.messageId := by
    by_cases h : p d
    · rw [if_pos h, (h_f d).message]
    · rw [if_neg h]
  simp only [Store.messagesOfOperation, Table.update, List.filter_map, List.filterMap_map,
    Function.comp_def, h_op, h_message]

theorem armReminder_commits : (armReminder now op).Commits s := by
  simp only [armReminder, commits_bind_reads]
  split
  · exact commits_pure
  · exact (commits_bind_run run_updateRows).mpr commits_pure

/-- An acceptance commits when the incarnation is Ready where the answer says, the operation
    is pending on it, and the final reply that it delivers is owed. -/
theorem acceptDelivery_commits {paneId terminalId : String} {submission : Option String} :
    (acceptDeliveryWithSubmission now op inc paneId terminalId submission).Commits s ↔
      (∃ i ∈ s.incarnations.find inc, i.ReadyOn paneId terminalId) ∧
        s.OperationIs op inc (· = .pending) ∧ s.FinalReplyOwed op := by
  simp only [acceptDeliveryWithSubmission, commits_bind_reads]
  rw [commits_bind_require, commits_bind_run run_updateRows, commits_bind_require]
  refine and_congr_right fun _ => and_congr (count_operations_eq_one (p := (· = .pending))) ?_
  rw [commits_bind_run run_updateRows]
  -- What the rest looks at is as it was before the operation and its delivery changed.
  set s₂ := TableOf.put Tab.deliveries _ _ with h_s₂
  obtain ⟨_, s₃, h_last⟩ : (updateLastAttempt op fun a =>
      { a with phase := .responseCommitted, resolvedAtMs := some now,
               evidence := submission.or a.evidence }).Commits s₂ := ⟨_, _, rfl⟩
  rw [commits_bind_run h_last]
  obtain ⟨_, s₄, h_arm⟩ : (armReminder now op).Commits s₃ := armReminder_commits
  rw [commits_bind_run h_arm, commits_bind_reads]
  have h_same : SameLedger s₂ s₃ := Keeps.keeps h_last
  obtain ⟨t, rfl, -⟩ := armReminder_run h_arm
  have h_messages : { s₃ with obligationReminders := t }.messagesOfOperation op =
      s.messagesOfOperation op :=
    (messagesOfOperation_congr h_same).trans
      (messagesOfOperation_update fun _ => ⟨rfl, rfl, rfl, rfl, rfl, rfl⟩)
  have h_obligations : s₃.obligations = s.obligations := congrArg Ledger.obligations h_same
  rw [h_messages, Store.FinalReplyOwed]
  cases h_final : finalReplyAmong (s.messagesOfOperation op) with
  | none => simp [commits_pure]
  | some r =>
    obtain ⟨ask, resolving⟩ := r
    dsimp only
    rw [resolveObligation, commits_bind_run run_updateRows, commits_require,
      Table.count_eq_one_iff fun _ h_o => h_o.1]
    simp only [Option.mem_some_iff, forall_eq', Tab.obligations, h_obligations]
    rfl

theorem settleOperation_commits {outcome : OperationOutcome} {stale : StoreError} :
    (settleOperation now op inc outcome stale).Commits s ↔ s.OperationIs op inc (·.Live) := by
  rw [settleOperation, commits_bind_run run_updateRows, commits_require]
  exact count_operations_eq_one

/-- What follows the settling of an operation always commits. -/
theorem settle_then_commits {outcome : OperationOutcome} {stale : StoreError}
    {rest : StoreTx Unit} (h_rest : ∀ s', rest.Commits s') :
    ((settleOperation now op inc outcome stale) >>= fun _ => rest).Commits s ↔
      s.OperationIs op inc (·.Live) := by
  rw [← @settleOperation_commits _ now _ _ outcome stale, commits_bind]
  constructor
  · rintro ⟨u, s', h, -⟩
    exact ⟨u, s', h⟩
  · rintro ⟨u, s', h⟩
    exact ⟨u, s', h, h_rest s'⟩

theorem markUnknown_commits {evidence : String} :
    (markUnknown now op inc evidence).Commits s ↔ s.OperationIs op inc (·.Live) :=
  settle_then_commits fun _ => ⟨_, _, rfl⟩

theorem markRejected_commits {evidence : String} {outcome : DeliveryOutcome} :
    (markRejected now op inc evidence outcome).Commits s ↔ s.OperationIs op inc (·.Live) :=
  settle_then_commits fun _ => ⟨_, _, rfl⟩

end Commits

-- ============================================================================
-- Operations that await an answer
-- ============================================================================

namespace Ledger

variable {op : OperationId} {inc : IncarnationId} {g g' : Ledger}

/-- The operation and its one delivery are between the write and the answer, or both have
    come to their ends. -/
def Standing (op : OperationId) (inc : IncarnationId) (g : Ledger) : Prop :=
  ∃ o ∈ g.operations, o.Owns op inc ∧ ∃ d ∈ g.deliveries, d.operationId = some op ∧
    (o.outcome = .pending ∧ d.outcome = .submitted ∨ ¬ o.outcome.Live ∧ ¬ d.outcome.Live)

/-- The rows of a standing prompt after an edit of each. -/
theorem Standing.of_images (h : Standing op inc g) (h_images : ∀ o ∈ g.operations,
    o.Owns op inc → ∀ d ∈ g.deliveries, d.operationId = some op →
    (o.outcome = .pending ∧ d.outcome = .submitted ∨ ¬ o.outcome.Live ∧ ¬ d.outcome.Live) →
    ∃ o' ∈ g'.operations, ∃ d' ∈ g'.deliveries, o.SameTask o' ∧ d.SameMail d' ∧
      (o'.outcome = .pending ∧ d'.outcome = .submitted ∨
        ¬ o'.outcome.Live ∧ ¬ d'.outcome.Live)) : Standing op inc g' := by
  obtain ⟨o, h_o, h_owns, d, h_d, h_op, h_state⟩ := h
  obtain ⟨o', h_o', d', h_d', h_task, h_mail, h_state'⟩ :=
    h_images o h_o h_owns d h_d h_op h_state
  refine ⟨o', h_o', ⟨h_task.id.trans h_owns.1, h_task.target.trans h_owns.2⟩, d', h_d', ?_,
    h_state'⟩
  rw [h_mail.operation, h_op]

theorem Standing.effect (h_g : Linked g) (h : Standing op inc g) (h_effect : Effect True g g') :
    Standing op inc g' := by
  cases h_effect with
  | post h_posts =>
    obtain ⟨o, h_o, h_owns, d, h_d, h_rest⟩ := h
    exact ⟨o, (h_posts.operations.mem o).mpr (.inl h_o), h_owns, d,
      (h_posts.deliveries.mem d).mpr (.inl h_d), h_rest⟩
  | operate h_kind h_t =>
    obtain ⟨o, h_o, h_rest⟩ := h
    exact ⟨o, (h_t.mem o).mpr (.inl h_o), h_rest⟩
  | conduct h_t =>
    refine h.of_images fun o h_o h_owns d h_d h_op h_state => ?_
    obtain ⟨o', h_o', h_task, h_outcome⟩ := h_t.image o h_o
    refine ⟨o', h_o', d, h_d, h_task, .rfl, ?_⟩
    rcases h_outcome with h_same | ⟨-, h_other⟩
    · rwa [h_same]
    · have h_id : d.operationId = some o.id := h_op.trans (congrArg some h_owns.1.symm)
      exact absurd (h_g.isPrompt h_d h_o h_id) (h_other trivial)
  | deliver h_t =>
    refine h.of_images fun o h_o h_owns d h_d h_op h_state => ?_
    obtain ⟨d', h_d', h_mail, h_outcome⟩ := h_t.image d h_d
    refine ⟨o, h_o, d', h_d', .rfl, h_mail, ?_⟩
    rcases h_outcome with h_same | ⟨h_unsent, -⟩ | ⟨h_sink, -⟩
    · rwa [h_same]
    · rcases h_state with ⟨-, h_sent⟩ | ⟨-, h_end⟩
      · rw [h_sent] at h_unsent
        rcases h_unsent with h | h <;> cases h
      · exact absurd (h_unsent.imp id .inl) h_end
    · exact absurd ((h_g.herdr d h_d).mpr (by simp [h_op])) h_sink
  | fail h_live h_outcome h_dropped h_os h_ds =>
    refine h.of_images fun o h_o h_owns d h_d h_op h_state => ?_
    obtain ⟨o', h_o', h_end⟩ := h_os.image o h_o
    obtain ⟨d', h_d', h_drop⟩ := h_ds.image d h_d
    refine ⟨o', h_o', d', h_d', h_end.sameTask, h_drop.sameMail, ?_⟩
    rcases h_end with ⟨h_id, rfl⟩ | ⟨h_id, -, -, h_ended⟩
    · rcases h_drop with ⟨-, rfl⟩ | ⟨h_op', -⟩
      · exact h_state
      · rw [h_op, Option.some_inj] at h_op'
        exact absurd (h_owns.1.trans h_op') h_id
    · -- Both come to their ends.
      refine .inr ⟨h_ended ▸ h_outcome, ?_⟩
      rcases h_drop with ⟨h_other, -⟩ | ⟨-, -, h_dropped' | ⟨h_not, h_same⟩⟩
      · exact absurd (h_op.trans (congrArg some (h_owns.1.symm.trans h_id))) h_other
      · exact h_dropped' ▸ h_dropped trivial
      · exact h_same ▸ h_not
  | supersede h_queued h_os h_ds =>
    refine h.of_images fun o h_o h_owns d h_d h_op h_state => ?_
    obtain ⟨o', h_o', h_end⟩ := h_os.image o h_o
    obtain ⟨d', h_d', h_drop⟩ := h_ds.image d h_d
    -- What is superseded was queued, so this operation and its delivery stay.
    have h_notQueued : d.outcome ≠ .queued := by
      rintro h
      rcases h_state with ⟨-, h_sent⟩ | ⟨-, h_end⟩
      · simp [h] at h_sent
      · exact h_end (.inr (.inl h))
    obtain rfl : d' = d := by
      rcases h_drop with ⟨-, h_same⟩ | ⟨-, h_was, -⟩
      · exact h_same
      · exact absurd h_was h_notQueued
    obtain rfl : o' = o := by
      rcases h_end with ⟨-, h_same⟩ | ⟨h_id, -⟩
      · exact h_same
      · obtain ⟨d₀, h_d₀, h_op₀, h_queued₀⟩ := h_queued
        obtain rfl := h_g.single d' h_d d₀ h_d₀ op h_op (by rw [h_op₀, ← h_id, h_owns.1])
        exact absurd h_queued₀ h_notQueued
    exact ⟨o', h_o', d', h_d', .rfl, .rfl, h_state⟩
  | resolve | amend | remind | attempt => exact h

theorem Standing.accepts {op' : OperationId} {inc' : IncarnationId} (h_g : Linked g)
    (h : Standing op inc g) (h_accepts : Accepts op' inc' g g') : Standing op inc g' := by
  refine h.of_images fun o h_o h_owns d h_d h_op h_state => ?_
  obtain ⟨o', h_o', h_end⟩ := h_accepts.operations.image o h_o
  obtain ⟨d', h_d', h_deliver⟩ := h_accepts.deliveries.image d h_d
  refine ⟨o', h_o', d', h_d', h_end.sameTask, h_deliver.sameMail, ?_⟩
  rcases h_end with ⟨h_id, rfl⟩ | ⟨h_id, h_pending, -, h_succeeded⟩
  · rcases h_deliver with ⟨-, rfl⟩ | ⟨h_op', -⟩
    · exact h_state
    · rw [h_op, Option.some_inj] at h_op'
      exact absurd (h_owns.1.trans h_op') h_id
  · -- The operation was pending, so its delivery was submitted, to the same incarnation.
    have h_sent : d.outcome = .submitted := by
      rcases h_state with ⟨-, h_sent⟩ | ⟨h_end, -⟩
      · exact h_sent
      · exact absurd (.inl h_pending) h_end
    obtain ⟨r, h_r, h_r_id, h_r_target, -⟩ := h_accepts.operation
    obtain rfl := Table.eq_of_key h_r h_o (h_r_id.trans h_id.symm)
    obtain ⟨o₀, h_o₀, h_id₀, -, h_inc₀⟩ := h_g.operation d h_d op h_op
    obtain rfl := Table.eq_of_key h_o₀ h_o (h_id₀.trans h_owns.1.symm)
    rw [h_r_target] at h_inc₀
    rcases h_deliver with ⟨h_not, -⟩ | ⟨-, -, -, -, h_accepted⟩
    · exact absurd ⟨h_op.trans (congrArg some (h_owns.1.symm.trans h_id)), h_inc₀, h_sent⟩ h_not
    · rw [h_succeeded, h_accepted]
      decide

theorem Standing.sweep {t : Table DeliveryRow.rowid} (h : Standing op inc g)
    (h_t : g.deliveries.Edits g.AskSwept t) : Standing op inc { g with deliveries := t } := by
  refine h.of_images fun o h_o h_owns d h_d h_op h_state => ?_
  obtain ⟨d', h_d', h_swept⟩ := h_t.image d h_d
  refine ⟨o, h_o, d', h_d', .rfl, h_swept.sameMail, ?_⟩
  rcases h_swept with rfl | ⟨-, h_queued, -⟩
  · exact h_state
  · rcases h_state with ⟨-, h_sent⟩ | ⟨-, h_end⟩
    · simp [h_queued] at h_sent
    · exact absurd (.inr (.inl h_queued)) h_end

end Ledger

theorem standing_kept {op : OperationId} {inc : IncarnationId} :
    Ledger.Kept True Call.AsCalled fun g => Linked g ∧ Standing op inc g where
  effect h h_effect := ⟨h.1.effect h_effect, h.2.effect h.1 h_effect⟩
  accepts h _ h_accepts := ⟨h.1.rewrites h_accepts.rewrites, h.2.accepts h.1 h_accepts⟩
  answers h _ _ _ h_answers := by
    refine ⟨h.1.rewrites h_answers.rewrites, ?_⟩
    rw [Standing, h_answers.operations, h_answers.deliveries]
    exact h.2
  sweep h _ h_t := ⟨h.1.rewrites (rewrites_sweep h_t), h.2.sweep h_t⟩

-- ============================================================================
-- Recorded answers
-- ============================================================================

/-- The intent of the prompt is committed, and its answer is not recorded. -/
def Store.AwaitsAnswer (s : Store) (p : PreparedPrompt) : Prop :=
  s.OperationIs p.operationId p.recipientIncarnation (· = .pending) ∧
    ∃ d ∈ s.deliveries.rows, d.operationId = some p.operationId ∧ d.outcome = .submitted

/-- The outcomes that an answer leaves a delivery with. -/
def DeliveryOutcome.Answered (o : DeliveryOutcome) : Prop :=
  o = .accepted ∨ o = .rejected ∨ o = .targetUnavailable ∨ o = .unknown

instance : DecidablePred DeliveryOutcome.Answered := fun o =>
  inferInstanceAs (Decidable (o = .accepted ∨ o = .rejected ∨ o = .targetUnavailable ∨
    o = .unknown))

/-- The operation is terminal and its delivery has an answer. -/
def Store.AnswerRecorded (s : Store) (p : PreparedPrompt) : Prop :=
  s.OperationIs p.operationId p.recipientIncarnation (¬ ·.Live) ∧
    ∃ d ∈ s.deliveries.rows, d.operationId = some p.operationId ∧ d.outcome.Answered

instance (s : Store) (p : PreparedPrompt) : Decidable (s.AwaitsAnswer p) := by
  unfold Store.AwaitsAnswer
  infer_instance

instance (s : Store) (p : PreparedPrompt) : Decidable (s.AnswerRecorded p) := by
  unfold Store.AnswerRecorded
  infer_instance

/-- The state lets the answer be recorded: a refusal or a failed transport always is; an
    answer that shows the write is where the incarnation is still Ready, on the runtime that
    answered, and a final reply among the messages is still owed. -/
def Store.AnswerFits (s : Store) (p : PreparedPrompt)
    (result : Except HerdrError AgentObservation) : Prop :=
  match result with
  | .ok agent =>
    (∃ i ∈ s.incarnations.find p.recipientIncarnation,
      i.ReadyOn agent.paneId agent.terminalId) ∧ s.FinalReplyOwed p.operationId
  | .error source => (postWriteObservation source).isSome →
    (∃ i ∈ s.incarnations.find p.recipientIncarnation,
      i.state = .ready ∧ i.observedPaneId.isSome ∧ i.observedTerminalId.isSome) ∧
        s.FinalReplyOwed p.operationId

instance (s : Store) (p : PreparedPrompt) (result : Except HerdrError AgentObservation) :
    Decidable (s.AnswerFits p result) := by
  unfold Store.AnswerFits
  split <;> infer_instance

section Answers

variable {s : Store} {p : PreparedPrompt} {now noticeAt : Millis}

theorem stored_final_of_run {α : Type} {x : StoreTx α} {a : α} {s' : Store}
    (h : x.run s = .ok (a, s')) : (stored x).final s = s' := by
  simp only [Prog.final, stored, h]

theorem stored_final_of_not {α : Type} {x : StoreTx α} (h : ¬ x.Commits s) :
    (stored x).final s = s := by
  cases h_run : x.run s with
  | error e => simp only [Prog.final, stored, h_run]
  | ok r => exact absurd (.of_run h_run) h

instance {R : Store → Store → Prop} [hR : Stepwise R] {α : Type} {x : StoreTx α} [hx : Keeps R x] :
    Prog.Keeps R (stored x) where
  keeps s := by
    by_cases h : x.Commits s
    · obtain ⟨a, s', h_run⟩ := h
      rw [stored_final_of_run h_run]
      exact hx.keeps h_run
    · rw [stored_final_of_not h]
      exact hR.refl s

theorem answerRecorded_congr {s' : Store} (h : SameLedger s s') :
    s'.AnswerRecorded p ↔ s.AnswerRecorded p := by
  have h_deliveries : s'.deliveries = s.deliveries := congrArg Ledger.deliveries h
  have h_operations : s'.operations = s.operations := congrArg Ledger.operations h
  rw [Store.AnswerRecorded, Store.AnswerRecorded, Store.OperationIs, Store.OperationIs,
    h_deliveries, h_operations]

/-- One operation is in one state. -/
theorem Store.OperationIs.unique {op : OperationId} {inc : IncarnationId}
    {q q' : OperationOutcome → Prop} (h : s.OperationIs op inc q) (h' : s.OperationIs op inc q') :
    ∃ o, q o ∧ q' o := by
  obtain ⟨o, h_o, h_owns, h_q⟩ := h
  obtain ⟨o', h_o', h_owns', h_q'⟩ := h'
  obtain rfl := Table.eq_of_key h_o h_o' (h_owns.1.trans h_owns'.1.symm)
  exact ⟨o.outcome, h_q, h_q'⟩

/-- A standing prompt awaits its answer, or its operation takes none. -/
theorem Ledger.Standing.cases (h : Standing p.operationId p.recipientIncarnation s.ledger) :
    s.AwaitsAnswer p ∨ s.OperationIs p.operationId p.recipientIncarnation (¬ ·.Live) := by
  obtain ⟨o, h_o, h_owns, d, h_d, h_op, ⟨h_pending, h_sent⟩ | ⟨h_end, -⟩⟩ := h
  · exact .inl ⟨⟨o, h_o, h_owns, h_pending⟩, d, h_d, h_op, h_sent⟩
  · exact .inr ⟨o, h_o, h_owns, h_end⟩

/-- A transaction that records the answer of a live operation, where the state lets it. -/
theorem stored_records_iff {x : StoreTx Unit} {fits : Prop} {q : OperationOutcome → Prop}
    (h_standing : Standing p.operationId p.recipientIncarnation s.ledger)
    (h_q : ∀ o, q o → o.Live) (h_pending : q .pending)
    (h_commits : x.Commits s ↔
      s.OperationIs p.operationId p.recipientIncarnation q ∧ fits)
    (h_records : ∀ u s', x.run s = .ok (u, s') → s.AwaitsAnswer p → s'.AnswerRecorded p) :
    ((stored x).final s).AnswerRecorded p ↔
      s.AnswerRecorded p ∨ (s.AwaitsAnswer p ∧ fits) := by
  have h_not (h : s.OperationIs p.operationId p.recipientIncarnation (¬ ·.Live)) {q'}
      (h_q' : ∀ o, q' o → o.Live) : ¬ s.OperationIs p.operationId p.recipientIncarnation q' := by
    intro h'
    obtain ⟨o, h_end, h_live⟩ := h.unique h'
    exact h_end (h_q' o h_live)
  rcases h_standing.cases with h_awaits | h_end
  · have h_unrecorded : ¬ s.AnswerRecorded p := fun h =>
      h_not h.1 (fun _ h => .inl h) h_awaits.1
    by_cases h_fits : fits
    · have h_is : s.OperationIs p.operationId p.recipientIncarnation q := by
        obtain ⟨o, h_o, h_owns, h_o_pending⟩ := h_awaits.1
        exact ⟨o, h_o, h_owns, h_o_pending ▸ h_pending⟩
      obtain ⟨u, s', h_run⟩ := h_commits.mpr ⟨h_is, h_fits⟩
      rw [stored_final_of_run h_run]
      exact iff_of_true (h_records u s' h_run h_awaits) (.inr ⟨h_awaits, h_fits⟩)
    · rw [stored_final_of_not fun h => h_fits (h_commits.mp h).2]
      exact iff_of_false h_unrecorded fun h => h.elim h_unrecorded fun h => h_fits h.2
  · rw [stored_final_of_not fun h => h_not h_end h_q (h_commits.mp h).1]
    refine ⟨.inl, fun h => h.elim id fun h => ?_⟩
    exact absurd h.1.1 (h_not h_end fun _ h => .inl h)

/-- The acceptance of a prompt that awaits its answer. -/
theorem Ledger.Accepts.recorded {s' : Store} (h_g : Linked s.ledger)
    (h : Accepts p.operationId p.recipientIncarnation s.ledger s'.ledger)
    (h_awaits : s.AwaitsAnswer p) : s'.AnswerRecorded p := by
  obtain ⟨⟨o, h_o, h_owns, h_pending⟩, d, h_d, h_op, h_sent⟩ := h_awaits
  obtain ⟨o', h_o', h_end⟩ := h.operations.image o h_o
  obtain ⟨d', h_d', h_deliver⟩ := h.deliveries.image d h_d
  obtain ⟨o₀, h_o₀, h_id₀, -, h_inc₀⟩ := h_g.operation d h_d p.operationId h_op
  obtain rfl := Table.eq_of_key h_o₀ h_o (h_id₀.trans h_owns.1.symm)
  rw [h_owns.2] at h_inc₀
  have h_task := h_end.sameTask
  rcases h_end with ⟨h_id, -⟩ | ⟨-, -, -, h_succeeded⟩
  · exact absurd h_owns.1 h_id
  rcases h_deliver with ⟨h_not, -⟩ | ⟨-, -, -, h_mail, h_accepted⟩
  · exact absurd ⟨h_op, h_inc₀, h_sent⟩ h_not
  · refine ⟨⟨o', h_o', ⟨h_task.id.trans h_owns.1, h_task.target.trans h_owns.2⟩, ?_⟩,
      d', h_d', h_mail.operation.trans h_op, .inl h_accepted⟩
    rw [h_succeeded]
    decide

/-- The failure of a prompt that awaits its answer, by its outcomes. -/
theorem Ledger.Fails.ends {s' : Store} {outcome : OperationOutcome} {dropped : DeliveryOutcome}
    (h : Fails p.operationId outcome dropped s.ledger s'.ledger) (h_awaits : s.AwaitsAnswer p) :
    s'.OperationIs p.operationId p.recipientIncarnation (· = outcome) ∧
      ∃ d ∈ s'.deliveries.rows, d.operationId = some p.operationId ∧ d.outcome = dropped := by
  obtain ⟨⟨o, h_o, h_owns, h_pending⟩, d, h_d, h_op, h_sent⟩ := h_awaits
  obtain ⟨o', h_o', h_end⟩ := h.operations.image o h_o
  obtain ⟨d', h_d', h_drop⟩ := h.deliveries.image d h_d
  have h_task := h_end.sameTask
  rcases h_end with ⟨h_id, -⟩ | ⟨-, -, -, h_ended⟩
  · exact absurd h_owns.1 h_id
  rcases h_drop with ⟨h_not, -⟩ | ⟨-, h_mail, h_dropped | ⟨h_end', -⟩⟩
  · exact absurd h_op h_not
  · exact ⟨⟨o', h_o', ⟨h_task.id.trans h_owns.1, h_task.target.trans h_owns.2⟩, h_ended⟩,
      d', h_d', h_mail.operation.trans h_op, h_dropped⟩
  · exact absurd (.inr (.inr h_sent)) h_end'

/-- The failure of a prompt that awaits its answer. -/
theorem Ledger.Fails.recorded {s' : Store} {outcome : OperationOutcome}
    {dropped : DeliveryOutcome} (h : Fails p.operationId outcome dropped s.ledger s'.ledger)
    (h_outcome : ¬ outcome.Live) (h_dropped : dropped.Answered) (h_awaits : s.AwaitsAnswer p) :
    s'.AnswerRecorded p := by
  obtain ⟨⟨o, h_o, h_owns, h_ended⟩, d, h_d, h_op, h_as⟩ := h.ends h_awaits
  exact ⟨⟨o, h_o, h_owns, h_ended ▸ h_outcome⟩, d, h_d, h_op, h_as ▸ h_dropped⟩

theorem readyBinding_ok {inc : IncarnationId} {b : String × String}
    (h : readyBinding inc s = .ok b) : ∃ i ∈ s.incarnations.find inc, i.ReadyOn b.1 b.2 := by
  unfold readyBinding at h
  split at h
  · cases h
  · rename_i i h_i
    obtain ⟨h_find, h_ready⟩ := Option.filter_eq_some_iff.mp h_i
    split at h
    · rename_i pane terminal h_pane h_terminal
      cases h
      exact ⟨i, h_find, of_decide_eq_true h_ready, h_pane, h_terminal⟩
    · cases h

theorem readyBinding_error {inc : IncarnationId} {e : StoreError}
    (h : readyBinding inc s = .error e) : ¬ ∃ i ∈ s.incarnations.find inc,
      i.state = .ready ∧ i.observedPaneId.isSome ∧ i.observedTerminalId.isSome := by
  rintro ⟨i, h_find, h_ready, h_pane, h_terminal⟩
  obtain ⟨pane, h_pane⟩ := Option.isSome_iff_exists.mp h_pane
  obtain ⟨terminal, h_terminal⟩ := Option.isSome_iff_exists.mp h_terminal
  have h_filter : (s.incarnations.find inc).filter (·.state = .ready) = some i :=
    Option.filter_eq_some_iff.mpr ⟨h_find, decide_eq_true h_ready⟩
  simp only [readyBinding, h_filter, h_pane, h_terminal] at h
  cases h

section Outcomes

variable (h_g : Linked s.ledger)
  (h_standing : Standing p.operationId p.recipientIncarnation s.ledger)

include h_g h_standing in
theorem accept_records_iff {paneId terminalId : String} {submission : Option String} :
    ((stored (acceptDeliveryWithSubmission now p.operationId p.recipientIncarnation paneId
      terminalId submission)).final s).AnswerRecorded p ↔
      s.AnswerRecorded p ∨ (s.AwaitsAnswer p ∧
        (∃ i ∈ s.incarnations.find p.recipientIncarnation, i.ReadyOn paneId terminalId) ∧
          s.FinalReplyOwed p.operationId) :=
  stored_records_iff (q := (· = .pending)) h_standing (fun _ h => .inl h) rfl
    (acceptDelivery_commits.trans and_left_comm)
    fun _ _ h_run => (acceptDelivery_accepts h_run).recorded h_g

include h_standing in
theorem reject_records_iff {evidence : String} {outcome : DeliveryOutcome}
    (h_outcome : outcome.Answered) :
    ((stored (markRejected now p.operationId p.recipientIncarnation evidence
      outcome)).final s).AnswerRecorded p ↔ s.AnswerRecorded p ∨ (s.AwaitsAnswer p ∧ True) :=
  stored_records_iff (q := (·.Live)) h_standing (fun _ h => h) (.inl rfl)
    (markRejected_commits.trans (and_true _).symm.to_iff)
    fun _ _ h_run => (markRejected_fails h_run).recorded (by decide) h_outcome

include h_standing in
theorem unknown_records_iff {evidence : String} :
    ((stored (markUnknown now p.operationId p.recipientIncarnation
      evidence)).final s).AnswerRecorded p ↔ s.AnswerRecorded p ∨ (s.AwaitsAnswer p ∧ True) :=
  stored_records_iff (q := (·.Live)) h_standing (fun _ h => h) (.inl rfl)
    (markUnknown_commits.trans (and_true _).symm.to_iff)
    fun _ _ h_run => (markUnknown_fails h_run).recorded (by decide) (.inr (.inr (.inr rfl)))

include h_g h_standing in
/-- What Herdr observed is recorded against the binding that the incarnation has by then. -/
theorem acceptObserved_records_iff {observation : SubmissionObservation} {detail : String} :
    ((acceptObserved now p observation detail).final s).AnswerRecorded p ↔
      s.AnswerRecorded p ∨ (s.AwaitsAnswer p ∧
        (∃ i ∈ s.incarnations.find p.recipientIncarnation,
          i.state = .ready ∧ i.observedPaneId.isSome ∧ i.observedTerminalId.isSome) ∧
            s.FinalReplyOwed p.operationId) := by
  unfold acceptObserved
  cases h : readyBinding p.recipientIncarnation s with
  | error e =>
    have h_run : (stored (query (readyBinding p.recipientIncarnation))).run s =
        (.error (.store e), s) := by
      simp only [stored, query, h]
    rw [Prog.final_bind_error h_run]
    exact (or_iff_left fun h_fits => readyBinding_error h h_fits.2.1).symm
  | ok b =>
    have h_run : (stored (query (readyBinding p.recipientIncarnation))).run s = (.ok b, s) := by
      simp only [stored, query, h]
    rw [Prog.final_bind_ok h_run, accept_records_iff h_g h_standing]
    refine or_congr_right (and_congr_right fun _ => and_congr_left fun _ => ?_)
    obtain ⟨i, h_find, h_on⟩ := readyBinding_ok h
    constructor
    · rintro ⟨j, h_j, h_ready, h_pane, h_terminal⟩
      exact ⟨j, h_j, h_ready, by simp [h_pane], by simp [h_terminal]⟩
    · rintro -
      exact ⟨i, h_find, h_on⟩

end Outcomes

/-- What comes after an answer is recorded does not touch the ledger. -/
theorem answerRecorded_bind {α β : Type} {x : SliceProg α} {f : α → SliceProg β}
    (h_f : ∀ a, Prog.Keeps SameLedger (f a)) :
    ((x >>= f).final s).AnswerRecorded p ↔ (x.final s).AnswerRecorded p :=
  answerRecorded_congr (Prog.final_bind h_f s)

theorem answerFits_observed {source : HerdrError} {observation : SubmissionObservation}
    (h : postWriteObservation source = some observation) : s.AnswerFits p (.error source) ↔
      (∃ i ∈ s.incarnations.find p.recipientIncarnation,
        i.state = .ready ∧ i.observedPaneId.isSome ∧ i.observedTerminalId.isSome) ∧
          s.FinalReplyOwed p.operationId := by
  rw [Store.AnswerFits, h, Option.isSome_some]
  exact ⟨fun h_fits => h_fits rfl, fun h_fits _ => h_fits⟩

theorem answerFits_refused {source : HerdrError} (h : postWriteObservation source = none) :
    s.AnswerFits p (.error source) ↔ True := by
  simp [Store.AnswerFits, h]

/-- When the answer to a prompt in flight ends up on record. -/
theorem completePromptDelivery_records_iff (h_g : Linked s.ledger)
    (h_standing : Standing p.operationId p.recipientIncarnation s.ledger)
    (result : Except HerdrError AgentObservation) :
    ((completePromptDelivery now noticeAt p result).final s).AnswerRecorded p ↔
      s.AnswerRecorded p ∨ (s.AwaitsAnswer p ∧ s.AnswerFits p result) := by
  cases result with
  | ok agent => exact accept_records_iff h_g h_standing
  | error source =>
    cases h_seen : postWriteObservation source with
    | some observation =>
      rw [answerFits_observed h_seen]
      simp only [completePromptDelivery, applyPromptError, h_seen]
      rw [answerRecorded_bind fun _ => inferInstance, acceptObserved_records_iff h_g h_standing]
    | none =>
      rw [answerFits_refused h_seen]
      cases source with
      | rejected code message =>
        simp only [completePromptDelivery, applyPromptError, h_seen]
        rw [answerRecorded_bind fun _ => inferInstance]
        refine reject_records_iff h_standing ?_
        split <;> decide
      | _ =>
        simp only [completePromptDelivery, applyPromptError, h_seen]
        rw [answerRecorded_bind fun _ => inferInstance, unknown_records_iff h_standing]

theorem completeInitialDelivery_records_iff (h_g : Linked s.ledger)
    (h_standing : Standing p.operationId p.recipientIncarnation s.ledger)
    (startedIncarnation : IncarnationId) (messageId : MessageId)
    (result : Except HerdrError AgentObservation) :
    ((completeInitialDelivery now noticeAt p startedIncarnation messageId
      result).final s).AnswerRecorded p ↔
      s.AnswerRecorded p ∨ (s.AwaitsAnswer p ∧ s.AnswerFits p result) := by
  cases result with
  | ok agent => exact accept_records_iff h_g h_standing
  | error source =>
    cases h_seen : postWriteObservation source with
    | some observation =>
      rw [answerFits_observed h_seen]
      simp only [completeInitialDelivery, h_seen]
      rw [answerRecorded_bind fun _ => inferInstance, acceptObserved_records_iff h_g h_standing]
    | none =>
      rw [answerFits_refused h_seen]
      cases source with
      | rejected code message =>
        simp only [completeInitialDelivery, h_seen]
        exact reject_records_iff h_standing (.inr (.inl rfl))
      | _ =>
        simp only [completeInitialDelivery, h_seen]
        rw [answerRecorded_bind fun _ => inferInstance, unknown_records_iff h_standing]

theorem stored_bind_ok {α β : Type} {x : StoreTx α} {f : α → SliceProg β} {b : β} {s' : Store}
    (h : (stored x >>= f).run s = (.ok b, s')) :
    ∃ a s₁, x.run s = .ok (a, s₁) ∧ (f a).run s₁ = (.ok b, s') := by
  cases h_x : x.run s with
  | error e =>
    simp only [Bind.bind, stored, h_x] at h
    cases h
  | ok r =>
    obtain ⟨a, s₁⟩ := r
    simp only [Bind.bind, stored, h_x] at h
    exact ⟨a, s₁, rfl, h⟩

/-- An attempt begins on a pending operation, outside the ledger. -/
theorem beginAttempt_run {op : OperationId} {inc : IncarnationId} {request : String} {n : Nat}
    {s' : Store} (h : (beginAttempt now op inc request).run s = .ok (n, s')) :
    s.OperationIs op inc (· = .pending) ∧ SameLedger s s' := by
  unfold beginAttempt at h
  rw [run_bind_reads, run_bind_require_ok] at h
  obtain ⟨⟨o, h_find, h_pending, h_target⟩, h⟩ := h
  obtain ⟨h_o, h_id⟩ := Table.find_eq_some.mp h_find
  exact ⟨⟨o, h_o, ⟨h_id, h_target⟩, h_pending⟩, Keeps.keeps h⟩

theorem stored_ok {α : Type} {x : StoreTx α} {a : α} {s' : Store}
    (h : (stored x).run s = (.ok a, s')) : x.run s = .ok (a, s') := by
  cases h_x : x.run s with
  | error e =>
    simp only [stored, h_x] at h
    cases h
  | ok r =>
    simp only [stored, h_x] at h
    cases h
    rfl

instance {op attempt request} : Keeps SameLedger (submitAttempt op attempt request) := by
  unfold submitAttempt
  infer_instance

/-- The delivery that waits is submitted, beside an operation that stays pending. -/
theorem submits_awaits {s₁ s' : Store} {n : Nat} {q : DeliveryRow → Prop} [DecidablePred q]
    {f : DeliveryRow → DeliveryRow} {h_key : ∀ d, (f d).rowid = d.rowid}
    (h_is : s.OperationIs p.operationId p.recipientIncarnation (· = .pending))
    (h_same : SameLedger s s₁)
    (h : (updateRows Tab.deliveries q f h_key : StoreTx Nat).run s₁ = .ok (n, s'))
    (h_f : ∀ d, (f d).operationId = d.operationId ∧ (f d).outcome = .submitted)
    (h_waits : ∃ d ∈ s.deliveries, d.operationId = some p.operationId ∧ q d) :
    s'.AwaitsAnswer p := by
  have h_deliveries : s₁.deliveries = s.deliveries := congrArg Ledger.deliveries h_same
  have h_operations : s₁.operations = s.operations := congrArg Ledger.operations h_same
  rw [run_updateRows, Except.ok.injEq, Prod.mk.injEq] at h
  obtain ⟨-, rfl⟩ := h
  obtain ⟨d, h_d, h_op, h_q⟩ := h_waits
  have h_d' : d ∈ Tab.deliveries.get s₁ := by
    change d ∈ s₁.deliveries
    rw [h_deliveries]
    exact h_d
  refine ⟨?_, f d, @Table.mem_update_of _ _ _ _ q _ f h_key d h_d' h_q, (h_f d).1.trans h_op,
    (h_f d).2⟩
  rw [Store.OperationIs, ← h_operations] at h_is
  exact h_is

/-- Once its intent is committed, a prompt awaits its answer.  That a queued delivery is
    there to be submitted is checked, of any other it is known. -/
theorem commitPromptIntent_awaits {s' : Store} {submittedAt : Millis}
    (h_waits : ¬ p.queued → ∃ d ∈ s.deliveries, d.operationId = some p.operationId ∧
      d.outcome = .pending)
    (h : (commitPromptIntent now submittedAt p).run s = (.ok (), s')) : s'.AwaitsAnswer p := by
  obtain ⟨attempt, s₁, h_begin, h⟩ := stored_bind_ok h
  obtain ⟨h_is, h_begun⟩ := beginAttempt_run h_begin
  split at h
  · obtain ⟨_, s₂, h_attempt, h_submit⟩ := run_bind_ok.mp (stored_ok h)
    have h_same : SameLedger s s₂ := SameLedger.stepwise.trans h_begun (Keeps.keeps h_attempt)
    obtain ⟨n, s₃, h_update, h_one⟩ := run_bind_ok.mp h_submit
    rw [run_require_ok, Prod.mk.injEq] at h_one
    obtain ⟨h_one, -, rfl⟩ := h_one
    -- The one delivery that was submitted was queued for the operation.
    obtain ⟨t, -, d, h_d, h_q, -⟩ := run_updateRows_pos h_update (by omega)
    have h_deliveries : s₂.deliveries = s.deliveries := congrArg Ledger.deliveries h_same
    refine submits_awaits h_is h_same h_update (fun _ => ⟨rfl, rfl⟩) ⟨d, ?_, h_q.1, h_q⟩
    exact h_deliveries ▸ h_d
  · rename_i h_queued
    obtain ⟨_, s₂, h_attempt, h_submit⟩ := run_bind_ok.mp (stored_ok h)
    have h_same : SameLedger s s₂ := SameLedger.stepwise.trans h_begun (Keeps.keeps h_attempt)
    obtain ⟨n, s₃, h_update, h_end⟩ := run_bind_ok.mp h_submit
    rw [run_pure, Except.ok.injEq, Prod.mk.injEq] at h_end
    obtain ⟨-, rfl⟩ := h_end
    obtain ⟨d, h_d, h_op, h_pending⟩ := h_waits h_queued
    exact submits_awaits h_is h_same h_update (fun _ => ⟨rfl, rfl⟩)
      ⟨d, h_d, h_op, h_op, h_pending⟩

/-- The intent of a prompt is two calls of the store. -/
theorem commitPromptIntent_steps {s' : Store} {submittedAt : Millis}
    (h : (commitPromptIntent now submittedAt p).run s = (.ok (), s')) :
    StoreRun Call.AsCalled s s' := by
  obtain ⟨attempt, s₁, h_begin, h⟩ := stored_bind_ok h
  have h_begun : (Call.beginAttempt now p.operationId p.recipientIncarnation p.requestId).Step
      s s₁ := commit_ok.mpr ⟨attempt, h_begin⟩
  refine .trans (.single (.beginAttempt now p.operationId p.recipientIncarnation p.requestId)
    trivial h_begun) ?_
  split at h
  · exact .single (.submitQueuedDelivery p.operationId attempt p.requestId submittedAt) trivial
      (commit_ok.mpr ⟨(), stored_ok h⟩)
  · exact .single (.markSubmitted submittedAt p.operationId attempt p.requestId) trivial
      (commit_ok.mpr ⟨(), stored_ok h⟩)

end Answers

/-- A Herdr answer is recorded, after whatever happened since the write, exactly when the
    state lets it be or the prompt was recorded before.  The write follows the commit of the
    intent, which leaves the prompt to await its answer. -/
theorem answers_recorded {p : PreparedPrompt} :
    (∀ {s₀ s₁ : Store} {begunAt submittedAt : Millis}, Reachable Call.AsCalled s₀ →
      (¬ p.queued → ∃ d ∈ s₀.deliveries, d.operationId = some p.operationId ∧
        d.outcome = .pending) →
      (commitPromptIntent begunAt submittedAt p).run s₀ = (.ok (), s₁) →
      Reachable Call.AsCalled s₁ ∧ s₁.AwaitsAnswer p) ∧
    ∀ {s₁ s : Store}, Reachable Call.AsCalled s₁ → s₁.AwaitsAnswer p →
      StoreRun Call.AsCalled s₁ s →
      ∀ (now noticeAt : Millis) (result : Except HerdrError AgentObservation),
      (((completePromptDelivery now noticeAt p result).final s).AnswerRecorded p ↔
        s.AnswerRecorded p ∨ (s.AwaitsAnswer p ∧ s.AnswerFits p result)) ∧
      ∀ startedIncarnation messageId,
        (((completeInitialDelivery now noticeAt p startedIncarnation messageId
          result).final s).AnswerRecorded p ↔
          s.AnswerRecorded p ∨ (s.AwaitsAnswer p ∧ s.AnswerFits p result)) := by
  refine ⟨fun h₀ h_prepared h_intent => ⟨h₀.trans (commitPromptIntent_steps h_intent),
    commitPromptIntent_awaits h_prepared h_intent⟩, ?_⟩
  intro s₁ s h₁ h_awaits h_run now noticeAt result
  have h_linked₁ : Linked s₁.ledger := h₁.ledger (fun _ _ _ => False.elim) linked_invariant
  have h_standing₁ : Standing p.operationId p.recipientIncarnation s₁.ledger := by
    obtain ⟨⟨o, h_o, h_owns, h_pending⟩, d, h_d, h_op, h_sent⟩ := h_awaits
    exact ⟨o, h_o, h_owns, d, h_d, h_op, .inl ⟨h_pending, h_sent⟩⟩
  obtain ⟨h_g, h_standing⟩ : Linked s.ledger ∧
      Standing p.operationId p.recipientIncarnation s.ledger :=
    Run.invariant (I := fun s => Linked s.ledger ∧
      Standing p.operationId p.recipientIncarnation s.ledger) h_run ⟨h_linked₁, h_standing₁⟩
      fun c _ _ h_I h_c h_step => standing_kept.step (fun _ _ h _ => h) h_I h_c h_step
  exact ⟨completePromptDelivery_records_iff h_g h_standing result,
    fun started message =>
      completeInitialDelivery_records_iff h_g h_standing started message result⟩

/-- The prompt of the ask of `askedRun`. -/
def workerPrompt : PreparedPrompt where
  operationId := 3
  recipientIncarnation := 2
  paneId := "w1:p2"
  requestId := "kelpie:ask:3"
  queued := false

/-- The ask is written. -/
def writtenRun : List Call := askedRun ++ submitting 3 3 2 "kelpie:ask:3"

/-- The recipient's agent, as Herdr answers for it. -/
def workerAgent : AgentObservation := { terminalId := "t2", paneId := "w1:p2" }

/-- The ask is cancelled between the write and Herdr's acceptance. -/
theorem answers_recorded_workerPrompt : ∃ s₀ s₁ s : Store, Reachable Call.AsCalled s₀ ∧
    (commitPromptIntent 3 3 workerPrompt).run s₀ = (.ok (), s₁) ∧
    StoreRun Call.AsCalled s₁ s ∧
    (∃ o ∈ s.obligations.rows, o.askMessageId = 1 ∧ o.state = .cancelled) ∧
    ((completePromptDelivery 6 6 workerPrompt (.ok workerAgent)).final s).AnswerRecorded
      workerPrompt := by
  have h : Leads Call.AsCalled (fun s₀ =>
      (∃ d ∈ s₀.deliveries.rows, d.operationId = some 3 ∧ d.outcome = .pending) ∧
      ((commitPromptIntent 3 3 workerPrompt).run s₀).1.isOk ∧
      Leads Call.AsCalled (fun s => s.AwaitsAnswer workerPrompt ∧
          s.AnswerFits workerPrompt (.ok workerAgent) ∧
          ∃ o ∈ s.obligations.rows, o.askMessageId = 1 ∧ o.state = .cancelled)
        [.cancelObligation 5 1 1 "Found it."] ((commitPromptIntent 3 3 workerPrompt).run s₀).2)
      askedRun Store.empty := by decide +kernel
  obtain ⟨s₀, h_reach, h_pending, h_ok, h_rest⟩ := h.run
  obtain ⟨s, h_run, h_awaits, h_fits, h_cancelled⟩ := h_rest.run
  have h_intent : (commitPromptIntent 3 3 workerPrompt).run s₀ =
      (.ok (), (commitPromptIntent 3 3 workerPrompt).final s₀) := Prog.run_of_isOk h_ok
  obtain ⟨h_reach₁, h_awaits₁⟩ := answers_recorded.1 h_reach (fun _ => h_pending) h_intent
  exact ⟨s₀, _, s, h_reach, h_intent, h_run, h_cancelled,
    (answers_recorded.2 h_reach₁ h_awaits₁ h_run 6 6 (.ok workerAgent)).1.mpr
      (.inr ⟨h_awaits, h_fits⟩)⟩

/-- The recipient is asked to retire between the write and the answer, and Herdr's acceptance
    is lost: the operation stays pending, and its delivery submitted. -/
theorem answer_lost_by_retirement : ∃ s₀ s, Reachable Call.AsCalled s₀ ∧
    s₀.AwaitsAnswer workerPrompt ∧ StoreRun Call.AsCalled s₀ s ∧
    ((completePromptDelivery 6 6 workerPrompt (.ok workerAgent)).final s).AwaitsAnswer
      workerPrompt ∧
    ¬ ((completePromptDelivery 6 6 workerPrompt (.ok workerAgent)).final s).AnswerRecorded
      workerPrompt := by
  have h : Leads Call.AsCalled (fun s₀ => s₀.AwaitsAnswer workerPrompt ∧
      Leads Call.AsCalled (fun s =>
        ((completePromptDelivery 6 6 workerPrompt (.ok workerAgent)).final s).AwaitsAnswer
          workerPrompt ∧
        ¬ ((completePromptDelivery 6 6 workerPrompt (.ok workerAgent)).final s).AnswerRecorded
          workerPrompt) [.requestRetirement 5 2 "k4"] s₀) writtenRun Store.empty := by
    decide +kernel
  obtain ⟨s₀, h_reach, h_awaits, h_lost⟩ := h.run
  obtain ⟨s, h_run, h_end⟩ := h_lost.run
  exact ⟨s₀, s, h_reach, h_awaits, h_run, h_end⟩

end Kelpie
