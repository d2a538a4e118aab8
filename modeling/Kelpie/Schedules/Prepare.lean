/-
  Kelpie.Schedules.Prepare

  The prepare ask of a renew: it belongs to its cycle, which alone closes it and
  which closes it where it goes on without the reply.
-/

import Kelpie.Ledger.Linked
import Kelpie.Schedules.Successors
import Kelpie.Schedules.Waiting

namespace Kelpie

open Lib Lib.Tx Ledger

-- As in `Kelpie.Store.Frames`.
set_option synthInstance.maxSize 100000

variable {s s' : Store} {p : ObligationState → Prop} {ask : MessageId}

-- ============================================================================
-- Prepared stores
-- ============================================================================

section Prepared

variable {c : Call} {b b' : Book}

/-- Where a renew with a prepare ask comes from: the same renew with the same ask, or the
    call that links it. -/
theorem Book.Turn.asked (h : Book.Turn b c b') {r' : RenewRow} (h_r' : r' ∈ b'.renews)
    (h_ask : r'.askMessageId = some ask) :
    ∃ r ∈ b.renews, r.SameRenew r' ∧
      (r.askMessageId = some ask ∧ (r'.phase.Armed → r.phase.Armed) ∨
        ∃ deadline, c = .markRenewPreparing r'.id ask deadline) := by
  have h_closed {id : RenewId} {rs : Table RenewRow.id} (h_rs : b.renews.Edits (Book.Closed id) rs)
      (h_mem : r' ∈ rs) : ∃ r ∈ b.renews, r.SameRenew r' ∧
        r.askMessageId = some ask ∧ (r'.phase.Armed → r.phase.Armed) := by
    obtain ⟨r, h_r, h_rr⟩ := h_rs.origin r' h_mem
    refine ⟨r, h_r, h_rr.same, ?_, fun h_armed => ?_⟩
    · rcases h_rr with ⟨-, rfl⟩ | ⟨-, -, h_same, -⟩
      · exact h_ask
      · exact h_same ▸ h_ask
    · rw [← (h_rr.armed h_armed).2]
      exact h_armed
  cases h with
  | same => exact ⟨r', h_r', .rfl, .inl ⟨h_ask, id⟩⟩
  | move _ _ h_rs =>
    obtain ⟨r, h_r, h_moved⟩ := h_rs.origin r' h_r'
    exact ⟨r, h_r, h_moved.toSameRenew, .inl ⟨h_moved.ask ▸ h_ask, h_moved.armed.mp⟩⟩
  | link h_rs =>
    obtain ⟨r, h_r, h_rr⟩ := h_rs.origin r' h_r'
    rcases h_rr with ⟨-, rfl⟩ | ⟨h_id, h_same, -, -, h_linked⟩
    · exact ⟨r', h_r, .rfl, .inl ⟨h_ask, id⟩⟩
    · obtain rfl := Option.some_inj.mp (h_linked.symm.trans h_ask)
      rw [← h_same.key] at h_id
      subst h_id
      exact ⟨r, h_r, h_same, .inr ⟨_, rfl⟩⟩
  | arm _ h_new _ _ _ h_rs =>
    rcases (h_rs.mem r').mp h_r' with h_old | h_some
    · exact ⟨r', h_old, .rfl, .inl ⟨h_ask, id⟩⟩
    · obtain rfl := Option.mem_some.mp h_some
      rw [h_new.2.2] at h_ask
      cases h_ask
  | close _ _ h_rs =>
    obtain ⟨r, h_r, h_same, h_rest⟩ := h_closed h_rs h_r'
    exact ⟨r, h_r, h_same, .inl h_rest⟩
  | next _ h_rs h_next =>
    obtain ⟨-, -, -, h_new, -, -, h_add, -⟩ := h_next
    rcases (h_add.mem r').mp h_r' with h_old | h_some
    · obtain ⟨r, h_r, h_same, h_rest⟩ := h_closed h_rs h_old
      exact ⟨r, h_r, h_same, .inl h_rest⟩
    · obtain rfl := Option.mem_some.mp h_some
      rw [h_new.2.2.1] at h_ask
      cases h_ask
  | stop _ _ h_rs _ =>
    obtain ⟨r, h_r, h_same, h_rest⟩ := h_closed h_rs h_r'
    exact ⟨r, h_r, h_same, .inl h_rest⟩
  | compose => exact ⟨r', h_r', .rfl, .inl ⟨h_ask, id⟩⟩
  | fire => exact ⟨r', h_r', .rfl, .inl ⟨h_ask, id⟩⟩
  | cancel => exact ⟨r', h_r', .rfl, .inl ⟨h_ask, id⟩⟩

theorem createRenew_agent {now : Millis} {intent : RenewIntent} {res : RenewId}
    (h : (createRenew now intent).run s = .ok (res, s')) {r' : RenewRow}
    (h_r' : r' ∈ s'.renews) :
    r' ∈ s.renews ∨ ∃ i ∈ s.incarnations,
      i.id = r'.incarnationId ∧ i.logicalAgentId = r'.logicalAgentId := by
  simp only [createRenew, run_bind_reads, run_bind_require_ok] at h
  obtain ⟨⟨i, h_i, h_agent, -⟩, -, -, h⟩ := h
  obtain ⟨h_mem, h_id⟩ := Table.find_eq_some.mp h_i
  have h_new {rs : Table RenewRow.id} {r : RenewRow} (h_rs : s.renews.Adds (some r) rs)
      (h_r : r.incarnationId = intent.incarnationId ∧ r.logicalAgentId = intent.logicalAgentId)
      (h_mem' : r' ∈ rs) : r' ∈ s.renews ∨ ∃ i ∈ s.incarnations,
        i.id = r'.incarnationId ∧ i.logicalAgentId = r'.logicalAgentId := by
    rcases (h_rs.mem r').mp h_mem' with h_old | h_some
    · exact .inl h_old
    · obtain rfl := Option.mem_some.mp h_some
      exact .inr ⟨i, h_mem, h_id.trans h_r.1.symm, h_agent.trans h_r.2.symm⟩
  cases h_every : intent.everyMs with
  | none =>
    simp only [h_every, run_bind_pure] at h
    obtain ⟨rs, rfl, h_rs, -⟩ := insertRenew_run h
    exact h_new h_rs ⟨rfl, rfl⟩ h_r'
  | some every =>
    simp only [h_every, run_bind_require_ok] at h
    obtain ⟨-, key, s₁, h_append, h⟩ := h.imp_right run_bind_ok.mp
    obtain ⟨cs, rfl, h_cs⟩ := run_appendRow_adds h_append
    rw [run_bind_pure] at h
    obtain ⟨rs, rfl, h_rs, -⟩ := insertRenew_run h
    exact h_new h_rs ⟨rfl, rfl⟩ h_r'

/-- Every renew is of the same incarnation and of the same agent as a renew before it, or of an
    incarnation with its agent. -/
theorem Call.renewAgent (h : c.Step s s') {r' : RenewRow} (h_r' : r' ∈ s'.renews) :
    (∃ r ∈ s.renews, r.incarnationId = r'.incarnationId ∧
        r.logicalAgentId = r'.logicalAgentId) ∨
      ∃ i ∈ s.incarnations, i.id = r'.incarnationId ∧
        i.logicalAgentId = r'.logicalAgentId := by
  have h_turn := c.turn h
  generalize h_b : s.book = b at h_turn
  generalize h_b' : s'.book = b' at h_turn
  have h_r' : r' ∈ b'.renews := by
    rw [← h_b']
    exact h_r'
  have h_old {r : RenewRow} (h_r : r ∈ b.renews)
      (h_same : r.incarnationId = r'.incarnationId ∧ r.logicalAgentId = r'.logicalAgentId) :
      (∃ r ∈ s.renews, r.incarnationId = r'.incarnationId ∧
          r.logicalAgentId = r'.logicalAgentId) ∨
        ∃ i ∈ s.incarnations, i.id = r'.incarnationId ∧
          i.logicalAgentId = r'.logicalAgentId := by
    rw [← h_b] at h_r
    exact .inl ⟨r, h_r, h_same⟩
  have h_closed {id : RenewId} {rs : Table RenewRow.id}
      (h_rs : b.renews.Edits (Book.Closed id) rs) {r'' : RenewRow} (h_mem : r'' ∈ rs) :
      ∃ r ∈ b.renews, r.incarnationId = r''.incarnationId ∧
        r.logicalAgentId = r''.logicalAgentId := by
    obtain ⟨r, h_r, h_rr⟩ := h_rs.origin r'' h_mem
    exact ⟨r, h_r, h_rr.same.incarnation.symm, h_rr.same.agent.symm⟩
  cases h_turn with
  | same | compose | fire | cancel => exact h_old h_r' ⟨rfl, rfl⟩
  | move _ _ h_rs =>
    obtain ⟨r, h_r, h_moved⟩ := h_rs.origin r' h_r'
    exact h_old h_r ⟨h_moved.incarnation.symm, h_moved.agent.symm⟩
  | link h_rs =>
    obtain ⟨r, h_r, h_rr⟩ := h_rs.origin r' h_r'
    rcases h_rr with ⟨-, rfl⟩ | ⟨-, h_same, -⟩
    · exact h_old h_r ⟨rfl, rfl⟩
    · exact h_old h_r ⟨h_same.incarnation.symm, h_same.agent.symm⟩
  | arm =>
    obtain ⟨_, h_run⟩ := commit_ok.mp h
    have h_mem : r' ∈ s'.renews := by
      rw [show s'.renews = s'.book.renews from rfl, h_b']
      exact h_r'
    rcases createRenew_agent h_run h_mem with h_r | h_i
    · exact .inl ⟨r', h_r, rfl, rfl⟩
    · exact .inr h_i
  | close _ _ h_rs | stop _ _ h_rs =>
    obtain ⟨r, h_r, h_same⟩ := h_closed h_rs h_r'
    exact h_old h_r h_same
  | next _ h_rs h_next =>
    obtain ⟨h_r₀, -, -, h_new, -, -, h_add, -⟩ := h_next
    rcases (h_add.mem r').mp h_r' with h_mem | h_some
    · obtain ⟨r, h_r, h_same⟩ := h_closed h_rs h_mem
      exact h_old h_r h_same
    · obtain rfl := Option.mem_some.mp h_some
      obtain ⟨r, h_r, h_same⟩ := h_closed h_rs h_r₀.1
      obtain ⟨-, -, -, -, -, h_incarnation, h_agent⟩ := h_new
      exact h_old h_r ⟨h_same.1.trans h_incarnation.symm, h_same.2.trans h_agent.symm⟩

theorem Store.Prepared.empty : Store.empty.Prepared where
  alone _ h_r := absurd h_r Table.notMem_empty
  waits _ h_r := absurd h_r Table.notMem_empty
  bindable _ h_r := absurd h_r Table.notMem_empty

theorem Store.Prepared.step (h_s : s.Prepared) (h_roster : s.roster.OneNameSpace)
    (h_c : c.LinksOwnAsk s) (h : c.Step s s') : s'.Prepared where
  alone r₁' h_r₁' r₂' h_r₂' ask h_ask₁ h_ask₂ := by
    obtain ⟨r₁, h_r₁, h_same₁, h₁⟩ := (c.turn h).asked h_r₁' h_ask₁
    obtain ⟨r₂, h_r₂, h_same₂, h₂⟩ := (c.turn h).asked h_r₂' h_ask₂
    rcases h₁ with ⟨h_old₁, -⟩ | ⟨_, h_link₁⟩ <;> rcases h₂ with ⟨h_old₂, -⟩ | ⟨_, h_link₂⟩
    · obtain rfl := h_s.alone r₁ h_r₁ r₂ h_r₂ ask h_old₁ h_old₂
      exact Table.eq_of_key h_r₁' h_r₂' (h_same₁.key.trans h_same₂.key.symm)
    · rw [h_link₂] at h_c
      exact absurd h_old₁ (h_c.1 r₁ h_r₁)
    · rw [h_link₁] at h_c
      exact absurd h_old₂ (h_c.1 r₂ h_r₂)
    · rw [h_link₁, Call.markRenewPreparing.injEq] at h_link₂
      exact Table.eq_of_key h_r₁' h_r₂' h_link₂.1
  waits r' h_r' ask h_ask := by
    obtain ⟨r, h_r, h_same, h_origin⟩ := (c.turn h).asked h_r' h_ask
    rcases h_origin with ⟨h_old, h_armed⟩ | ⟨_, rfl⟩
    · obtain ⟨o, h_o, h_key, h_waiting, h_state⟩ := h_s.waits r h_r ask h_old
      obtain ⟨o', h_o', h_parties⟩ := c.parties h o h_o
      refine ⟨o', h_o', h_parties.ask.trans h_key, ?_, fun h_armed' h_orphaned => ?_⟩
      · rw [h_parties.waiting, h_waiting, h_same.agent]
      · have h_spares : Spares (· = .orphaned) ask s s' :=
          c.spares h h_s h_r h_old (h_armed h_armed') (fun _ => .inr) nofun
        obtain ⟨o₁, h_o₁, h_key₁, h_state₁⟩ :=
          h_spares o' h_o' (h_parties.ask.trans h_key) h_orphaned
        obtain rfl := Table.eq_of_key h_o h_o₁ (h_key.trans h_key₁.symm)
        exact h_state (h_armed h_armed') (h_state₁.trans h_orphaned)
    · obtain ⟨-, r₀, h_r₀, o, h_o, h_waiting, h_state⟩ := h_c
      obtain ⟨h_mem, h_id⟩ := Table.find_eq_some.mp h_r₀
      obtain ⟨h_o, h_key⟩ := Table.find_eq_some.mp h_o
      obtain rfl := Table.eq_of_key h_r h_mem (h_same.key.symm.trans h_id.symm)
      have h_kept : s'.obligations = s.obligations := by
        obtain ⟨_, h_run⟩ := commit_ok.mp h
        simp only [markRenewPreparing, run_bind_reads] at h_run
        obtain ⟨_, s₁, h_update, h_run⟩ := run_bind_ok.mp h_run
        simp only [run_require_ok, Prod.mk.injEq] at h_run
        obtain ⟨-, -, rfl⟩ := h_run
        obtain ⟨rs, rfl, -, -⟩ := updateRenew_run h_update
        rfl
      refine ⟨o, h_kept ▸ h_o, h_key, ?_, fun _ => h_state⟩
      rw [h_waiting, h_same.agent]
  bindable r' h_r' := by
    rcases c.renewAgent h h_r' with ⟨r, h_r, -, h_agent⟩ | ⟨i, h_i, -, h_agent⟩
    · exact c.bindable h (h_agent ▸ h_s.bindable r h_r)
    · exact c.bindable h (h_agent ▸ h_roster.owner i h_i)

theorem Reachable.prepared (h : Reachable Call.LinksOwnAsk s) : s.Prepared := by
  induction h with
  | refl => exact .empty
  | tail c h_run h_ok h_step ih =>
    exact ih.step (Reachable.oneNameSpace h_run) h_ok h_step

end Prepared

-- ============================================================================
-- Prepare asks
-- ============================================================================

/-- An ask that `create_ask` makes anew is the renew's own to link. -/
theorem newAsk_linksOwnAsk (h_s : s.Prepared) {r : RenewRow} (h_r : r ∈ s.renews)
    {now : Millis} {inc : IncarnationId} {body key : String} {due remind : Option Millis}
    {created : CreatedPrompt}
    (h_new : replayPromptByIdempotencyKey key .ask r.logicalAgentId none s = .ok none)
    (h : (createAskWithReplyDelivery now r.logicalAgentId r.logicalAgentId inc body key due
      remind false .inject).run s = .ok (created, s')) (deadline : Millis) :
    (Call.markRenewPreparing r.id created.messageId deadline).LinksOwnAsk s' := by
  have h_book : SameBook s s' := Keeps.keeps h
  have h_renews : s'.renews = s.renews := congrArg Book.renews h_book
  simp only [createAskWithReplyDelivery, run_bind_require_ok, run_bind_query_ok] at h
  obtain ⟨-, replay, h_replay, h⟩ := h
  obtain rfl := Except.ok.inj (h_new.symm.trans h_replay)
  simp only [run_bind_require_ok, run_bind_query_ok, run_bind_reads] at h
  obtain ⟨_, -, -, _, -, -, -, -, h⟩ := h
  obtain ⟨ask, s₁, h_message, h⟩ := run_bind_ok.mp h
  obtain ⟨_, s₂, h_obligation, h⟩ := run_bind_ok.mp h
  have h_same₁ : SameObligations s s₁ := Keeps.keeps h_message
  simp only [insertObligation, run_bind_reads, run_insertRow_ok, Prod.mk.injEq] at h_obligation
  obtain ⟨t, h_t, -, rfl⟩ := h_obligation
  have h_adds := Table.adds_insert? h_t
  have h_prompt {s₂ : Store} {x : StoreTx OperationId} [Keeps SameObligations x]
      (h_run : (do
        let operationId ← x
        return ({ messageId := ask, operationId } : CreatedPrompt)).run s₂ = .ok (created, s')) :
      SameObligations s₂ s' ∧ created.messageId = ask := by
    obtain ⟨_, s₃, h_insert, h_run⟩ := run_bind_ok.mp h_run
    cases h_run
    exact ⟨Keeps.keeps h_insert, rfl⟩
  have h_rest : s'.obligations = t ∧ created.messageId = ask := by
    cases remind with
    | none =>
      obtain ⟨h_same, h_id⟩ := h_prompt h
      exact ⟨h_same, h_id⟩
    | some interval =>
      obtain ⟨_, s₂, h_reminder, h⟩ := run_bind_ok.mp h
      have h_same₂ : SameObligations { s₁ with obligations := t } s₂ := Keeps.keeps h_reminder
      obtain ⟨h_same, h_id⟩ := h_prompt h
      exact ⟨h_same.trans h_same₂, h_id⟩
  obtain ⟨h_t', rfl⟩ := h_rest
  refine ⟨fun r' h_r' h_ask => ?_, r, ?_, ?_⟩
  · -- An ask that a renew has linked has its obligation already.
    obtain ⟨o, h_o, h_key, -⟩ := h_s.waits r' (h_renews ▸ h_r') _ h_ask
    have h_old : o ∈ s₁.obligations := by
      rw [h_same₁]
      exact h_o
    exact h_adds.fresh _ rfl o h_old h_key
  · exact Table.find_eq_some.mpr ⟨h_renews.symm ▸ h_r, rfl⟩
  · have h_new : _ ∈ s'.obligations := h_t' ▸ (h_adds.mem _).mpr (.inr rfl)
    exact ⟨_, Table.find_eq_some.mpr ⟨h_new, rfl⟩, rfl, by simp⟩

/-- An ask that a renew may link when its key replays it: the renewed agent waits on it, no
    renew has it, and it was not orphaned. -/
def PromptOperationReplay.Linkable (p : PromptOperationReplay) (s : Store) (r : RenewRow) : Prop :=
  (∀ r' ∈ s.renews.rows, r'.askMessageId ≠ some p.messageId) ∧
    p.waitingAgentId = some r.logicalAgentId ∧ p.obligationState ≠ some .orphaned

/-- A replayed ask carries the parties and the state of its obligation. -/
theorem promptReplay_obligation {o : OperationRow} {sender : LogicalAgentId}
    {p : PromptOperationReplay} (h : s.promptReplay o .ask sender none = .ok p) :
    p.waitingAgentId = (s.obligations.find p.messageId).map (·.waitingAgentId) ∧
      p.obligationState = (s.obligations.find p.messageId).map (·.state) := by
  unfold Store.promptReplay at h
  split at h
  · cases h
  split at h
  · cases h
  rename_i m h_m
  dsimp only at h
  by_cases h_ask : m.kind = .ask
  · simp only [h_ask, reduceCtorEq, if_false, if_true, ne_eq, not_true_eq_false] at h
    split at h
    · cases h
    cases h_delivery : obligationReplyDelivery m.id s with
    | error e =>
      rw [h_delivery] at h
      cases h
    | ok delivery =>
      rw [h_delivery] at h
      cases h
      exact ⟨rfl, rfl⟩
  · rw [if_pos h_ask] at h
    cases h

theorem replayPrompt_obligation {key : String} {sender : LogicalAgentId}
    {p : PromptOperationReplay}
    (h : replayPromptByIdempotencyKey key .ask sender none s = .ok (some p)) :
    p.waitingAgentId = (s.obligations.find p.messageId).map (·.waitingAgentId) ∧
      p.obligationState = (s.obligations.find p.messageId).map (·.state) := by
  unfold replayPromptByIdempotencyKey at h
  split at h
  · cases h
  rename_i o _
  split at h
  · cases h
  split at h
  · cases h
  split at h
  · cases h
  cases h_replay : s.promptReplay o .ask sender none with
  | error e =>
    rw [h_replay] at h
    cases h
  | ok p' =>
    rw [h_replay] at h
    cases h
    exact promptReplay_obligation h_replay

/-- The ask that `begin_renew_prepare` is given by `create_ask` is the renew's own to link,
    unless its key replays one that is not. -/
theorem createAsk_linksOwnAsk (h_s : s.Prepared) {r : RenewRow} (h_r : r ∈ s.renews)
    {now : Millis} {inc : IncarnationId} {body key : String} {due remind : Option Millis}
    {created : CreatedPrompt}
    (h : (createAskWithReplyDelivery now r.logicalAgentId r.logicalAgentId inc body key due
      remind false .inject).run s = .ok (created, s')) (deadline : Millis) :
    (Call.markRenewPreparing r.id created.messageId deadline).LinksOwnAsk s' ↔
      ∀ p, replayPromptByIdempotencyKey key .ask r.logicalAgentId none s = .ok (some p) →
        p.Linkable s r := by
  have h_run := h
  simp only [createAskWithReplyDelivery, run_bind_require_ok, run_bind_query_ok] at h
  obtain ⟨-, replay, h_replay, h⟩ := h
  cases replay with
  | none =>
    refine iff_of_true (newAsk_linksOwnAsk h_s h_r h_replay h_run deadline) fun p h_p => ?_
    cases h_replay.symm.trans h_p
  | some p =>
    obtain ⟨-, h⟩ := run_bind_require_ok.mp h
    cases h
    obtain ⟨h_waiting, h_state⟩ := replayPrompt_obligation h_replay
    have h_find : s.renews.find r.id = some r := Table.find_eq_some.mpr ⟨h_r, rfl⟩
    constructor
    · rintro ⟨h_free, r', h_r', o, h_o, h_agent, h_open⟩ p' h_p'
      cases h_replay.symm.trans h_p'
      cases h_find.symm.trans h_r'
      rw [Option.mem_def.mp h_o] at h_waiting h_state
      exact ⟨h_free, h_waiting.trans (congrArg some h_agent),
        fun h_orphaned => h_open (Option.some_inj.mp (h_state.symm.trans h_orphaned))⟩
    · intro h_link
      obtain ⟨h_free, h_agent, h_open⟩ := h_link p h_replay
      obtain ⟨o, h_o, h_owner⟩ := Option.map_eq_some_iff.mp (h_waiting.symm.trans h_agent)
      rw [h_o] at h_state
      exact ⟨h_free, r, h_find, o, h_o, h_owner,
        fun h_orphaned => h_open (h_state.trans (congrArg some h_orphaned))⟩

/-- While a renew has not ended, its prepare ask is closed by its own transitions only: the
    calls that close asks leave it as it is.  A cycle that stops waiting for the reply has
    its ask resolved by then, or cancels it.

    The runs are those in which every renew links an ask of its own.  A driver whose keys no
    client uses keeps to them; one that replays a client's ask may link one that has been
    orphaned before, which nothing cancels any more. -/
theorem prepare_ask_of_cycle {s s' : Store} (h : Reachable Call.LinksOwnAsk s) {c : Call}
    (h_step : c.Step s s') {r : RenewRow} (h_r : r ∈ s.renews) {ask : MessageId}
    (h_ask : r.askMessageId = some ask) (h_armed : r.phase.Armed) :
    (∃ o ∈ s.obligations, o.askMessageId = ask) ∧
    (¬ c.MovesOn r.id → ∀ o ∈ s.obligations, o.askMessageId = ask → ¬ o.state.Discarded →
      ∀ o' ∈ s'.obligations, o'.askMessageId = ask → ¬ o'.state.Discarded) ∧
    (c.ClosesAsks → ∀ o ∈ s.obligations, o.askMessageId = ask →
      ∀ o' ∈ s'.obligations, o'.askMessageId = ask → o'.state = o.state) ∧
    (r.Awaiting → (∀ r' ∈ s'.renews, r'.id = r.id → ¬ r'.Awaiting) →
      ∀ o ∈ s.obligations, o.askMessageId = ask → o.state ≠ .resolved →
        ∃ o' ∈ s'.obligations, o'.askMessageId = ask ∧ o'.state = .cancelled) := by
  have h_s := Reachable.prepared h
  obtain ⟨o₀, h_o₀, h_key₀, -, h_orphaned⟩ := h_s.waits r h_r ask h_ask
  refine ⟨⟨o₀, h_o₀, h_key₀⟩, ?_, ?_, ?_⟩
  · intro h_c o h_o h_key h_open o' h_o' h_key' h_discarded
    have h_spares : Spares ObligationState.Discarded ask s s' :=
      c.spares h_step h_s h_r h_ask h_armed (fun _ => id) fun _ => h_c
    obtain ⟨o₁, h_o₁, h_key₁, h_state⟩ := h_spares o' h_o' h_key' h_discarded
    obtain rfl := Table.eq_of_key h_o h_o₁ (h_key.trans h_key₁.symm)
    exact h_open (h_state ▸ h_discarded)
  · intro h_c o h_o h_key o' h_o' h_key'
    have h_spares : Spares (fun _ => True) ask s s' :=
      h_c.spares h_step h_s h_r h_ask h_armed
    obtain ⟨o₁, h_o₁, h_key₁, h_state⟩ := h_spares o' h_o' h_key' trivial
    obtain rfl := Table.eq_of_key h_o h_o₁ (h_key.trans h_key₁.symm)
    exact h_state.symm
  · intro h_awaiting h_left o h_o h_key h_unresolved
    have h_moves : c.MovesOn r.id := by
      by_contra h_c
      obtain ⟨r', h_r', h_id, h_awaiting'⟩ :=
        c.staysAwaiting h_step h_c ⟨r, h_r, rfl, h_awaiting⟩
      exact h_left r' h_r' h_id h_awaiting'
    obtain ⟨o', h_o', h_key', h_state⟩ :=
      Call.MovesOn.withdraws h_moves h_step h_r h_ask o h_o h_key
    obtain rfl := Table.eq_of_key h_o h_o₀ (h_key.trans h_key₀.symm)
    have h_not : o.state ≠ .orphaned := h_orphaned h_armed
    refine ⟨o', h_o', h_key', h_state.trans ?_⟩
    cases h_o_state : o.state <;> simp_all [ObligationState.Unresolved]

/-- The prepare ask of `renewedRun`, which the renewed agent is about to answer. -/
def preparedRun : List Call := renewedRun.take 4

theorem prepare_ask_of_cycle_preparedRun : ∃ s s' : Store, Reachable Call.LinksOwnAsk s ∧
    (Call.abortRenew 3600130 1 "abort").Step s s' ∧
    (∃ o ∈ s.obligations, o.askMessageId = 1 ∧ o.state = .open) ∧
    ∃ o' ∈ s'.obligations, o'.askMessageId = 1 ∧ o'.state = .cancelled := by
  have h : Leads Call.LinksOwnAsk
      (fun s => (∃ o ∈ s.obligations.rows, o.askMessageId = 1 ∧ o.state = .open) ∧
        (∃ r ∈ s.renews.rows, r.askMessageId = some 1 ∧ r.phase.Armed ∧ r.Awaiting ∧ r.id = 1) ∧
        ∃ s' ∈ ((Call.abortRenew 3600130 1 "abort").commit s).toOption,
          ∀ r' ∈ s'.renews.rows, r'.id = 1 → ¬ r'.Awaiting)
      preparedRun Store.empty := by decide +kernel
  obtain ⟨s, h_run, ⟨o, h_o, h_key, h_open⟩, ⟨r, h_r, h_ask, h_armed, h_awaiting, h_id⟩, s',
    h_s', h_left⟩ := h.run
  have h_step : (Call.abortRenew 3600130 1 "abort").Step s s' := Call.step_of_mem h_s'
  refine ⟨s, s', h_run, h_step, ⟨o, h_o, h_key, h_open⟩, ?_⟩
  exact (prepare_ask_of_cycle h_run h_step h_r h_ask h_armed).2.2.2 h_awaiting
    (fun r' h_r' h_id' => h_left r' h_r' (h_id'.trans h_id)) o h_o h_key (by simp [h_open])

/-- The first agent asks the second under a key that the renews compose, and the ask is
    orphaned when the second is lost.  Then the first has itself renewed. -/
def squattedPrepareRun : List Call :=
  [adopting 1 "w1:p1" "t1" "asker" "k1", adopting 1 "w1:p2" "t2" "worker" "k2",
    .createAsk 2 1 2 2 "Which branch?" "kelpie:renew:prepare:1" none none false .inject] ++
  submitting 3 3 2 "r1" ++
  [.acceptDelivery 4 3 2 "w1:p2" "t2" none,
    .reconcileReadyIncarnations 10
      ⟨[], [{ terminalId := "t1", paneId := "w1:p1", name := some "asker",
              agent := some "claude" }]⟩,
    .observeAskAvailability 100, .orphanAsk 600100 1,
    .createRenew 600200
      { logicalAgentId := 1, incarnationId := 1, requesterAgentId := 1,
        preparePrompt := "Write a checkpoint.", resumePrompt := "Continue.",
        onTimeout := .abort, prepareTimeoutMs := 100, scheduledAtMs := 600200 }]

/-- `create_ask` replays the orphaned ask and the renew links it.  When the deadline has
    passed, the cycle ends, and its ask stays orphaned. -/
theorem prepare_ask_stays_orphaned : ∃ s₀ s₁ s₂ s s' : Store, ∃ created : CreatedPrompt,
    Reachable (fun _ _ => True) s₀ ∧
    (createAskWithReplyDelivery 600200 1 1 1 "Write a checkpoint." "kelpie:renew:prepare:1" none
      (some 100) false .inject).run s₀ = .ok (created, s₁) ∧
    (Call.markRenewPreparing 1 created.messageId 600300).Step s₁ s₂ ∧
    (Call.markRenewTimedOut 1).Step s₂ s ∧
    (Call.abortRenew 600310 1 "The deadline has passed.").Step s s' ∧
    (∃ r ∈ s.renews, r.id = 1 ∧ r.askMessageId = some created.messageId ∧ r.phase.Armed ∧
      r.Awaiting) ∧
    (∀ r ∈ s'.renews, r.id = 1 → ¬ r.Awaiting) ∧
    ∃ o ∈ s'.obligations, o.askMessageId = created.messageId ∧ o.state = .orphaned := by
  have h : Leads (fun _ _ => True)
      (fun s₀ => ∃ asked ∈ ((createAskWithReplyDelivery 600200 1 1 1 "Write a checkpoint."
          "kelpie:renew:prepare:1" none (some 100) false .inject).run s₀).toOption,
        ∃ s₂ ∈ ((Call.markRenewPreparing 1 asked.1.messageId 600300).commit asked.2).toOption,
        ∃ s ∈ ((Call.markRenewTimedOut 1).commit s₂).toOption,
        ∃ s' ∈ ((Call.abortRenew 600310 1 "The deadline has passed.").commit s).toOption,
          (∃ r ∈ s.renews.rows, r.id = 1 ∧ r.askMessageId = some asked.1.messageId ∧
            r.phase.Armed ∧ r.Awaiting) ∧
          (∀ r ∈ s'.renews.rows, r.id = 1 → ¬ r.Awaiting) ∧
          ∃ o ∈ s'.obligations.rows, o.askMessageId = asked.1.messageId ∧ o.state = .orphaned)
      squattedPrepareRun Store.empty := by decide +kernel
  obtain ⟨s₀, h_run, ⟨created, s₁⟩, h_asked, s₂, h_s₂, s, h_s, s', h_s', h_awaiting, h_left,
    h_orphaned⟩ := h.run
  refine ⟨s₀, s₁, s₂, s, s', created, h_run, ?_, Call.step_of_mem h_s₂, Call.step_of_mem h_s,
    Call.step_of_mem h_s', h_awaiting, h_left, h_orphaned⟩
  cases h_result : (createAskWithReplyDelivery 600200 1 1 1 "Write a checkpoint."
    "kelpie:renew:prepare:1" none (some 100) false .inject).run s₀ with
  | error e =>
    rw [h_result] at h_asked
    cases h_asked
  | ok result =>
    rw [h_result] at h_asked
    cases h_asked
    rfl

end Kelpie
