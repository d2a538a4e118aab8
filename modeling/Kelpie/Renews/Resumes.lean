/-
  Kelpie.Renews.Resumes

  The prepare of a scheduled renew, interrupted between any two of its
  transactions: which prefix of them is durable, and whether the next pass over
  the renew goes on from there.

  The ask and its link are two transactions.  An interruption between them leaves
  a pending operation under the key of the renew, which the next prepare is
  refused for.
-/

import Kelpie.Renews.Handlers
import Kelpie.Renews.Prepares
import Kelpie.Slice.Sweep

namespace Kelpie

open Lib Lib.Tx Lib.Process

variable {config : SliceConfig} {s s' : Store} {item : DueRenew} {nowMs now : Millis}

-- ============================================================================
-- One prepare
-- ============================================================================

/-- The ask of the prepare. -/
abbrev prepareAsk (item : DueRenew) (now : Millis) : StoreTx CreatedPrompt :=
  createAskWithReplyDelivery now item.logicalAgentId item.logicalAgentId item.incarnationId
    item.preparePrompt (renewPrepareKey item.renewId) none (some item.prepareTimeoutMs) false
    .inject

/-- The link of the ask to its renew. -/
abbrev linkAsk (item : DueRenew) (nowMs : Millis) (ask : CreatedPrompt) : StoreTx Unit :=
  markRenewPreparing item.renewId ask.messageId (saturatingAdd nowMs item.prepareTimeoutMs)

/-- What a prepare makes durable: nothing, the ask alone, or the ask with its link. -/
inductive Begun (fates : List (Fate StoreError)) (item : DueRenew) (nowMs now : Millis)
    (s s' : Store) : Prop where
  | idle (h : ¬ (Fate.Commits fates[0]? ∧ Fate.Commits fates[1]? ∧
      (query (agentAddress item.requesterAgentId) : StoreTx String).Commits s ∧
      (prepareAsk item now).Commits s)) (h_same : s' = s)
  | asked {ask : CreatedPrompt} (h_fates : Fate.Commits fates[0]? ∧ Fate.Commits fates[1]?)
      (h_ask : (prepareAsk item now).run s = .ok (ask, s'))
      (h : ¬ Fate.Commits fates[2]? ∨ ¬ (linkAsk item nowMs ask).Commits s')
  | linked {ask : CreatedPrompt} {s₁ : Store} {u : Unit} (h_fate : Fate.Commits fates[2]?)
      (h_ask : (prepareAsk item now).run s = .ok (ask, s₁))
      (h_link : (linkAsk item nowMs ask).run s₁ = .ok (u, s'))

theorem beginRenewPrepare_eq : beginRenewPrepare item nowMs now =
    (commits (query (agentAddress item.requesterAgentId)) >>= fun requester =>
      commits (prepareAsk item now) >>= fun ask =>
        commits (linkAsk item nowMs ask) >>= fun _ =>
          commits (query fun _ => validatedAttr "from" requester) >>= fun _ =>
            commits (query (readyPane item.incarnationId)) >>= fun _ => Pure.pure ()) := rfl

/-- A read leaves the store. -/
theorem ensures_query {α : Type} {q : Query α} {j : RenewJournal} (h : j.state = s) :
    (commits (query q)).Ensures (fun j => j.state = s) (fun _ _ => True) j := by
  refine ensures_tx h fun a j' h_run => ⟨?_, trivial⟩
  have h_state : j'.state = j.state := (run_query_ok.mp (run_noting_ok.mp h_run).1).2
  exact h_state.trans h

theorem beginRenewPrepare_begun (fates : List (Fate StoreError)) (j : RenewJournal) :
    Begun fates item nowMs now j.state
      ((beginRenewPrepare item nowMs now).run fates j).2.state := by
  have h₀ : fates.head? = fates[0]? := List.head?_eq_getElem?
  have h₁ : fates.tail.head? = fates[1]? := by
    rw [List.head?_eq_getElem?, List.getElem?_tail]
  have h₂ : fates.tail.tail.head? = fates[2]? := by
    rw [List.head?_eq_getElem?, List.getElem?_tail, List.getElem?_tail]
  rw [beginRenewPrepare_eq]
  rcases run_commits_cases (x := query (agentAddress item.requesterAgentId)) fates j with
    ⟨h_not, h_failed, h_same⟩ | ⟨h_fate₀, h_rest, address, j₁, h_address, -, h_run⟩
  · rw [h₀] at h_not
    refine .idle (by tauto) ?_
    rw [run_bind_of_not_ok h_failed, h_same]
  have h_state₁ : j₁.state = j.state := (run_query_ok.mp h_address).2
  rw [run_bind_ok h_run, h_rest]
  rcases run_commits_cases (x := prepareAsk item now) fates.tail j₁ with
    ⟨h_not, h_failed, h_same⟩ | ⟨h_fate₁, h_rest, ask, j₂, h_ask, -, h_run⟩
  · rw [h₁, h_state₁] at h_not
    refine .idle (by tauto) ?_
    rw [run_bind_of_not_ok h_failed, h_same, h_state₁]
  rw [h_state₁] at h_ask
  rw [run_bind_ok h_run, h_rest]
  rcases run_commits_cases (x := linkAsk item nowMs ask) fates.tail.tail j₂ with
    ⟨h_not, h_failed, h_same⟩ | ⟨h_fate₂, h_rest, u, j₃, h_link, -, h_run⟩
  · rw [run_bind_of_not_ok h_failed, h_same]
    exact .asked ⟨h₀ ▸ h_fate₀, h₁ ▸ h_fate₁⟩ h_ask (h₂ ▸ h_not)
  rw [run_bind_ok h_run, h_rest]
  -- What follows the link only reads.
  have h_reads : (commits (query fun _ => validatedAttr "from" address) >>= fun _ =>
      commits (query (readyPane item.incarnationId)) >>= fun _ => Pure.pure ()).Ensures
        (fun j => j.state = j₃.state) (fun _ _ => True) j₃ :=
    (ensures_query rfl).bind fun _ _ h _ => (ensures_query h).bind fun _ _ h _ =>
      ensures_pure h trivial
  rw [(h_reads.run _).1]
  exact .linked (h₂ ▸ h_fate₂) h_ask h_link

-- ============================================================================
-- The driver
-- ============================================================================

/-- The call writes an operator notice. -/
def Call.Notes : Call → Prop
  | .createOperatorNotice .. => True
  | _ => False

/-- Only operator notices were written. -/
abbrev Noted : Store → Store → Prop := StoreRun fun c _ => c.Notes

section Programs

variable {ok : Call → Prop} {α β : Type}

/-- The programs whose transactions are calls that meet `ok`. -/
def OnlyCalls (ok : Call → Prop) (p : RenewProcess α) : Prop :=
  ∀ s j, StoreRun (fun c _ => ok c) s j.state →
    p.Ensures (fun j => StoreRun (fun c _ => ok c) s j.state) (fun _ _ => True) j

theorem onlyCalls_pure {a : α} : OnlyCalls ok (Pure.pure a : RenewProcess α) :=
  fun _ _ h => ensures_pure h trivial

theorem OnlyCalls.bind {p : RenewProcess α} {f : α → RenewProcess β} (h : OnlyCalls ok p)
    (h_f : ∀ a, OnlyCalls ok (f a)) : OnlyCalls ok (p >>= f) :=
  fun s j h_j => (h s j h_j).bind fun a j' h_j' _ => h_f a s j' h_j'

theorem OnlyCalls.result {p : RenewProcess α} (h : OnlyCalls ok p) :
    OnlyCalls ok (p.result : RenewProcess (Except SliceError α)) :=
  fun s j h_j => (h s j h_j).result.mono (fun _ h => h) fun _ _ _ _ => trivial

theorem onlyCalls_commits {x : StoreTx α} {note : Store → α → List RenewAct}
    [hx : Keeps (StoreRun fun c _ => ok c) x] : OnlyCalls ok (commits x note) :=
  fun _ _ h => ensures_tx h fun _ _ h_run =>
    ⟨h.trans (hx.keeps (run_noting_ok.mp h_run).1), trivial⟩

theorem onlyCalls_noteRenewDriveError {e : SliceError}
    (h_ok : ∀ now body, ok (.createOperatorNotice now body)) :
    OnlyCalls ok (noteRenewDriveError config now e) := by
  have h_keeps {body : String} : Keeps (StoreRun fun c _ => ok c) (insertOperatorNotice now body) :=
    keeps_call (.createOperatorNotice now body) (fun _ => rfl) fun _ => h_ok _ _
  exact fun _ _ h => ensures_attempt h fun _ _ h_run =>
    h.trans (h_keeps.keeps (run_noting_ok.mp h_run).1)

theorem OnlyCalls.run {p : RenewProcess α} (h : OnlyCalls ok p) (fates : List (Fate StoreError))
    (j : RenewJournal) : StoreRun (fun c _ => ok c) j.state (p.run fates j).2.state :=
  ((h j.state j .refl).run fates).1

/-- What is done with the result of a program, if no more than notices. -/
theorem noted_bind_result {p : RenewProcess α} {k : Except SliceError α → RenewProcess β}
    (fates : List (Fate StoreError)) (j : RenewJournal)
    (h_k : ∀ r, (p.run fates j).1 = some r → OnlyCalls Call.Notes (k r)) :
    Noted (p.run fates j).2.state ((p.result >>= k).run fates j).2.state := by
  have h_result : (p.result : RenewProcess (Except SliceError α)).run fates j =
      ((p.run fates j).1.map .ok, (p.run fates j).2) := run_result
  cases h_run : (p.run fates j).1 with
  | none =>
    rw [h_run, Option.map_none] at h_result
    rw [run_bind_of_not_ok, h_result]
    · exact .refl
    · rw [h_result]
      nofun
  | some r =>
    rw [h_run, Option.map_some] at h_result
    rw [run_bind_ok h_result]
    exact (h_k r h_run).run _ _

/-- What the driver does with the result of a handler. -/
theorem onlyCalls_driven {f : α → RenewDrive}
    (h_ok : ∀ now body, ok (.createOperatorNotice now body)) (r : Except SliceError α) :
    OnlyCalls ok (match r with
      | .ok a => return f a
      | .error e =>
        if e.RenewDriveSkips then return .next
        else do
          noteRenewDriveError config now e
          return .stop : RenewProcess RenewDrive) := by
  cases r with
  | ok a => exact onlyCalls_pure
  | error e =>
    dsimp only
    split
    · exact onlyCalls_pure
    · exact (onlyCalls_noteRenewDriveError h_ok).bind fun _ => onlyCalls_pure

theorem OnlyCalls.driving {p : RenewProcess α} {f : α → RenewDrive} (h : OnlyCalls ok p)
    (h_ok : ∀ now body, ok (.createOperatorNotice now body)) :
    OnlyCalls ok (driving config now p f) :=
  h.result.bind fun r => onlyCalls_driven h_ok r

theorem driving_noted {p : RenewProcess α} {f : α → RenewDrive} (fates : List (Fate StoreError))
    (j : RenewJournal) :
    Noted (p.run fates j).2.state ((driving config now p f).run fates j).2.state :=
  noted_bind_result fates j fun r _ => onlyCalls_driven (fun _ _ => trivial) r

end Programs

/-- What a pass does after it has read the clear spacing of a scheduled renew. -/
def drivePrepare (config : SliceConfig) (item : DueRenew) (nowMs : Millis)
    (clock : Nat → Millis) : Except SliceError Bool → RenewProcess RenewDrive
  | .error e => do
    noteRenewDriveError config (clock 3) e
    return .next
  | .ok true => return .next
  | .ok false => driving config (clock 3) (beginRenewPrepare item nowMs (clock 0)) fun _ => .next

/-- The read of the clear spacing. -/
abbrev readSpacing (config : SliceConfig) (item : DueRenew) (nowMs : Millis) : StoreTx Bool :=
  reads fun s : Store => decide (s.PromptSpacingActive config item.incarnationId nowMs)

theorem driveRenew_eq {clock : Nat → Millis} (h_phase : item.phase = .scheduled) :
    driveRenew config item nowMs clock =
      ((commits (readSpacing config item nowMs)).result >>=
        drivePrepare config item nowMs clock) := by
  unfold driveRenew
  rw [h_phase]
  dsimp only
  congr 1

/-- A pass begins the prepare of a scheduled renew unless its clear spacing is active. -/
theorem driveRenew_scheduled (config : SliceConfig) (nowMs : Millis) (clock : Nat → Millis)
    (h_phase : item.phase = .scheduled)
    (fates : List (Fate StoreError)) (j : RenewJournal) :
    (¬ (Fate.Commits fates[0]? ∧ ¬ j.state.PromptSpacingActive config item.incarnationId nowMs) ∧
        Noted j.state ((driveRenew config item nowMs clock).run fates j).2.state) ∨
      Fate.Commits fates[0]? ∧ ¬ j.state.PromptSpacingActive config item.incarnationId nowMs ∧
        ∃ s₁, Begun fates.tail item nowMs (clock 0) j.state s₁ ∧
          Noted s₁ ((driveRenew config item nowMs clock).run fates j).2.state := by
  have h₀ : fates.head? = fates[0]? := List.head?_eq_getElem?
  rw [driveRenew_eq h_phase]
  rcases run_commits_cases (x := readSpacing config item nowMs) fates j with
    ⟨h_not, h_failed, h_same⟩ | ⟨h_fate, h_rest, spacing, j₁, h_spacing, -, h_run⟩
  · refine .inl ⟨fun h => ?_, ?_⟩
    · rw [h₀] at h_not
      rcases h_not with h_not | h_not
      · exact h_not h.1
      · exact h_not ⟨_, _, rfl⟩
    · have h_noted := noted_bind_result (k := drivePrepare config item nowMs clock) fates j
        fun r h_r => by
          cases r with
          | ok spacing => exact absurd h_r (h_failed spacing)
          | error e =>
            exact (onlyCalls_noteRenewDriveError fun _ _ => trivial).bind fun _ => onlyCalls_pure
      rwa [h_same] at h_noted
  · obtain ⟨h_spacing, h_state⟩ := Prod.mk.inj (Except.ok.inj h_spacing)
    have h_result : ((commits (readSpacing config item nowMs)).result :
        RenewProcess (Except SliceError Bool)).run fates j = (some (.ok (.ok spacing)), j₁) := by
      rw [run_result, h_run]
      rfl
    rw [run_bind_ok h_result, rest_result, h_rest]
    cases spacing with
    | true =>
      have h_active := of_decide_eq_true h_spacing
      refine .inl ⟨fun h => h.2 h_active, ?_⟩
      rw [h_state]
      exact .refl
    | false =>
      refine .inr ⟨h₀ ▸ h_fate, of_decide_eq_false h_spacing, _,
        h_state ▸ beginRenewPrepare_begun fates.tail j₁, ?_⟩
      exact driving_noted _ _

-- ============================================================================
-- Runs
-- ============================================================================

/-- The item is what a pass at the reading `nowMs` reads of a renew. -/
def Store.Owes (s : Store) (nowMs : Millis) (item : DueRenew) : Prop :=
  ∃ r ∈ s.renews.rows, s.dueRenew nowMs r = some (.ok item)

instance (s : Store) (nowMs : Millis) (item : DueRenew) : Decidable (s.Owes nowMs item) := by
  unfold Store.Owes
  infer_instance

/-- One call of any part of the daemon, or the driver's handling of one renew that is owed. -/
inductive PrepareLabel where
  | call (c : Call)
  | drive (item : DueRenew) (nowMs : Millis) (clock : Nat → Millis)
      (fates : List (Fate StoreError))

namespace PrepareLabel

/-- A call of the store, or a pass of the driver over a renew that is owed. -/
def next (config : SliceConfig) (label : PrepareLabel) (s : Store) : Option Store :=
  match label with
  | .call c => (c.commit s).toOption
  | .drive item nowMs clock fates => do
    guard (s.Owes nowMs item)
    return ((driveRenew config item nowMs clock).run fates { state := s }).2.state

end PrepareLabel

/-- The driver goes on as far as the ask of a prepare, and comes no further: it dies before the
    link of the ask, or the database fails the link. -/
def PrepareCut (fates : List (Fate StoreError)) : Prop :=
  Fate.Commits fates[0]? ∧ Fate.Commits fates[1]? ∧ Fate.Commits fates[2]? ∧
    ¬ Fate.Commits fates[3]?

instance : DecidablePred PrepareCut := fun fates => by
  unfold PrepareCut
  infer_instance

/-- Prepares are made by the driver alone, under keys that no client uses, and none is cut
    between its ask and its link. -/
def PrepareLabel.Uncut (config : SliceConfig) (label : PrepareLabel) (s : Store) : Prop :=
  match label with
  | .call c => c.OffPrepares
  | .drive item nowMs _ fates => item.phase = .scheduled →
    ¬ s.PromptSpacingActive config item.incarnationId nowMs → ¬ PrepareCut fates

/-- The stores that such runs reach from an empty one. -/
abbrev PrepareReachable (config : SliceConfig) (s : Store) : Prop :=
  Run (StepOf (PrepareLabel.next config)) (PrepareLabel.Uncut config) Store.empty s

-- ============================================================================
-- What is owed
-- ============================================================================

/-- What a pass reads of a renew. -/
theorem Store.dueRenew_ok {r : RenewRow} (h : s.dueRenew nowMs r = some (.ok item)) :
    item.renewId = r.id ∧ item.phase = r.phase ∧ item.logicalAgentId = r.logicalAgentId ∧
      item.incarnationId = r.incarnationId ∧ item.requesterAgentId = r.requesterAgentId ∧
      item.prepareTimeoutMs = r.prepareTimeoutMs ∧ r.Owed s nowMs := by
  obtain ⟨i, -, h⟩ := Option.bind_eq_some_iff.mp h
  obtain ⟨⟨-, -, h_owed⟩, h⟩ := guard_bind_eq_some.mp h
  split at h
  · cases h
    exact ⟨rfl, rfl, rfl, rfl, rfl, rfl, h_owed⟩
  · cases h

/-- What a pass reads of a renew, where only the obligations differ. -/
theorem Store.dueRenew_same {r : RenewRow} (h : s.dueRenew nowMs r = some (.ok item))
    (h_incarnations : s'.incarnations = s.incarnations) (h_schedules : s'.schedules = s.schedules)
    (h_clear : s'.ClearInFlight r.incarnationId → s.ClearInFlight r.incarnationId) :
    ∃ item', s'.dueRenew nowMs r = some (.ok item') ∧ item'.renewId = item.renewId ∧
      item'.phase = item.phase ∧ item'.incarnationId = item.incarnationId := by
  obtain ⟨i, h_i, h⟩ := Option.bind_eq_some_iff.mp h
  obtain ⟨⟨h_ready, h_clear', h_owed⟩, h⟩ := guard_bind_eq_some.mp h
  have h_owed' : r.Owed s' nowMs := by
    unfold RenewRow.Owed at h_owed ⊢
    rw [h_schedules]
    exact h_owed
  unfold Store.dueRenew
  rw [h_incarnations, h_i, Option.bind_eq_bind, Option.bind_some]
  split at h
  · cases h
    exact ⟨_, guard_bind_eq_some.mpr ⟨⟨h_ready, fun h => h_clear' (h_clear h), h_owed'⟩, rfl⟩,
      rfl, rfl, rfl⟩
  · cases h

-- ============================================================================
-- The invariant
-- ============================================================================

/-- The driver goes on with a renew that is off its schedule by calls that make no prepare. -/
theorem driveRenew_off {clock : Nat → Millis} (h_phase : item.phase ≠ .scheduled) :
    OnlyCalls Call.OffPrepares (driveRenew config item nowMs clock) := by
  have h_notes (now : Millis) (body : String) : (Call.createOperatorNotice now body).OffPrepares :=
    ⟨nofun, nofun⟩
  have h_notice {now : Millis} {body : String} :
      Keeps (StoreRun fun c _ => c.OffPrepares) (insertOperatorNotice now body) :=
    keeps_call (.createOperatorNotice now body) (fun _ => rfl) fun _ => h_notes _ _
  have h_ready {now : Millis} {id : RenewId} :
      Keeps (StoreRun fun c _ => c.OffPrepares) (markRenewReady now id) :=
    keeps_call (.markRenewReady now id) (fun _ => rfl) fun _ => ⟨nofun, nofun⟩
  have h_timedOut {id : RenewId} :
      Keeps (StoreRun fun c _ => c.OffPrepares) (markRenewTimedOut id) :=
    keeps_call (.markRenewTimedOut id) (fun _ => rfl) fun _ => ⟨nofun, nofun⟩
  have h_abort {now : Millis} {id : RenewId} {reason : String} :
      Keeps (StoreRun fun c _ => c.OffPrepares) (abortRenew now id reason) :=
    keeps_call (.abortRenew now id reason) (fun _ => rfl) fun _ => ⟨nofun, nofun⟩
  have h_complete {now : Millis} {id : RenewId} :
      Keeps (StoreRun fun c _ => c.OffPrepares) (completeRenew now id) :=
    keeps_call (.completeRenew now id) (fun _ => rfl) fun _ => ⟨nofun, nofun⟩
  have h_record {now : Millis} {detail : String} :
      OnlyCalls Call.OffPrepares (recordRenewNotice now item detail) :=
    onlyCalls_commits.bind fun _ => onlyCalls_commits.bind fun _ => onlyCalls_pure
  unfold driveRenew
  split
  · exact absurd (by assumption) h_phase
  · refine OnlyCalls.driving ?_ h_notes
    unfold renewSettlePrepare
    split
    · exact onlyCalls_commits
    · split
      · exact onlyCalls_commits
      · exact onlyCalls_pure
  · refine OnlyCalls.driving ?_ h_notes
    unfold renewApplyTimeout
    cases item.onTimeout with
    | abort => exact onlyCalls_commits.bind fun _ => h_record
    | proceed => exact onlyCalls_commits.bind fun _ => h_record
  · exact (onlyCalls_commits.bind fun _ => onlyCalls_pure).driving h_notes
  · exact onlyCalls_pure
  · split
    · exact (onlyCalls_commits.bind fun _ => onlyCalls_pure).driving h_notes
    · exact onlyCalls_pure
  all_goals exact onlyCalls_pure

/-- A reachable store whose prepares are all whole. -/
structure Store.Whole (s : Store) : Prop where
  reached : Reachable Call.LinksOwnAsk s
  prepares : s.Prepares

theorem Call.OffPrepares.linksOwnAsk {c : Call} (h : c.OffPrepares) : c.LinksOwnAsk s := by
  unfold Call.LinksOwnAsk
  split
  · exact absurd rfl (h.1 _ _ _)
  · trivial

theorem Store.Whole.empty : Store.empty.Whole := ⟨.refl, .empty⟩

theorem Store.Whole.call {c : Call} (h : s.Whole) (h_c : c.OffPrepares) (h_step : c.Step s s') :
    s'.Whole :=
  ⟨.tail c h.reached h_c.linksOwnAsk h_step,
    h.prepares.step (Reachable.prepared h.reached) h_c h_step⟩

theorem Store.Whole.calls {ok : Call → Prop} (h : s.Whole) (h_ok : ∀ c, ok c → c.OffPrepares)
    (h_run : StoreRun (fun c _ => ok c) s s') : s'.Whole :=
  Run.invariant h_run h fun c _ _ h_s h_c h_step => h_s.call (h_ok c h_c) h_step

theorem Call.Notes.offPrepares {c : Call} (h : c.Notes) : c.OffPrepares := by
  cases c <;> first | exact h.elim | exact ⟨nofun, nofun⟩

theorem Call.Recovers.offPrepares {c : Call} (h : c.Recovers) : c.OffPrepares := by
  cases c <;> first | exact h.elim | exact ⟨nofun, nofun⟩

section Prepare

variable {r : RenewRow} {ask : CreatedPrompt}

/-- The ask of a scheduled renew is new. -/
theorem Store.Whole.records (h : s.Whole) (h_r : r ∈ s.renews) (h_phase : r.phase = .scheduled)
    (h_item : s.dueRenew nowMs r = some (.ok item))
    (h_ask : (prepareAsk item now).run s = .ok (ask, s')) :
    RecordsAsk (renewPrepareKey r.id) ask.messageId s s' := by
  obtain ⟨h_id, -⟩ := Store.dueRenew_ok h_item
  rw [← h_id]
  refine createAsk_records (replay_of_free fun o h_o => ?_) h_ask
  rw [h_id]
  exact h.prepares.free h_r h_phase h_o

/-- The ask of a scheduled renew can be created, and then linked. -/
theorem Store.Whole.commits (h : s.Whole) (h_r : r ∈ s.renews) (h_phase : r.phase = .scheduled)
    (h_item : s.dueRenew nowMs r = some (.ok item)) :
    (prepareAsk item now).Commits s ∧
      ∀ ask s', (prepareAsk item now).run s = .ok (ask, s') →
        (linkAsk item nowMs ask).Commits s' := by
  obtain ⟨h_id, -, h_agent, h_inc, -, h_timeout, -⟩ := Store.dueRenew_ok h_item
  obtain ⟨h_checks, -⟩ := Reachable.sound h.reached r h_r
  constructor
  · unfold prepareAsk
    rw [h_agent, h_inc, h_timeout, h_id]
    have h_mailed : s.ledger.Mailed :=
      Reachable.ledger h.reached (fun _ _ _ => False.elim) mailed_invariant
    exact createAsk_commits h_r h_mailed (Reachable.renewsOwned h.reached)
      ((Reachable.prepared h.reached).bindable r h_r) h_checks.1
      fun o h_o => h.prepares.free h_r h_phase h_o
  · intro ask s' h_ask
    have h_records := h.records h_r h_phase h_item h_ask
    have h_r' : r ∈ s'.renews := by
      rw [h_records.rest]
      exact h_r
    unfold linkAsk
    rw [h_id]
    exact markRenewPreparing_commits h_r' h_phase h_checks h_records.message

/-- A prepare that comes as far as the link is whole. -/
theorem Store.Whole.prepare (h : s.Whole) (h_r : r ∈ s.renews) (h_phase : r.phase = .scheduled)
    (h_item : s.dueRenew nowMs r = some (.ok item)) {s₁ : Store} {u : Unit}
    (h_ask : (prepareAsk item now).run s = .ok (ask, s₁))
    (h_link : (linkAsk item nowMs ask).run s₁ = .ok (u, s')) :
    s'.Whole ∧ ∃ o ∈ s'.operations, o.idempotencyKey = renewPrepareKey r.id := by
  have h_records := h.records h_r h_phase h_item h_ask
  obtain ⟨h_id, -, h_agent, -⟩ := Store.dueRenew_ok h_item
  have h_asks : (Call.createAsk now item.logicalAgentId item.logicalAgentId item.incarnationId
      item.preparePrompt (renewPrepareKey item.renewId) none (some item.prepareTimeoutMs) false
      .inject).Step s s₁ := commit_ok.mpr ⟨ask, h_ask⟩
  have h_links : (Call.markRenewPreparing r.id ask.messageId
      (saturatingAdd nowMs item.prepareTimeoutMs)).Step s₁ s' := by
    rw [← h_id]
    exact commit_ok.mpr ⟨u, h_link⟩
  have h_own : (Call.markRenewPreparing r.id ask.messageId
      (saturatingAdd nowMs item.prepareTimeoutMs)).LinksOwnAsk s₁ := by
    have h_run : (createAskWithReplyDelivery now r.logicalAgentId r.logicalAgentId
        item.incarnationId item.preparePrompt (renewPrepareKey r.id) none
        (some item.prepareTimeoutMs) false .inject).run s = .ok (ask, s₁) := by
      rw [← h_agent, ← h_id]
      exact h_ask
    exact newAsk_linksOwnAsk (Reachable.prepared h.reached) h_r
      (replay_of_free fun o h_o => h.prepares.free h_r h_phase h_o) h_run _
  have h_prepares : s'.Prepares := by
    have h_mark : (markRenewPreparing r.id ask.messageId
        (saturatingAdd nowMs item.prepareTimeoutMs)).run s₁ = .ok (u, s') := by
      rw [← h_id]
      exact h_link
    exact h.prepares.prepare h_r h_phase h_records (fun _ h => h.step _ h_asks) h_mark
  have h_reached₁ : Reachable Call.LinksOwnAsk s₁ :=
    .tail (Call.createAsk ..) h.reached (by exact trivial) h_asks
  refine ⟨⟨.tail _ h_reached₁ h_own h_links, h_prepares⟩, ?_⟩
  obtain ⟨o, h_adds, -, h_key, -⟩ := h_records.operation
  obtain ⟨o', h_o', h_same⟩ := (Call.addsKeys _ h_links).kept o ((h_adds.mem o).mpr (.inr rfl))
  exact ⟨o', h_o', h_same.key.trans h_key⟩

/-- What a prepare that is not cut makes durable. -/
theorem Store.Whole.begun {fates : List (Fate StoreError)} (h : s.Whole) (h_r : r ∈ s.renews)
    (h_phase : r.phase = .scheduled) (h_item : s.dueRenew nowMs r = some (.ok item))
    (h_begun : Begun fates item nowMs now s s')
    (h_uncut : Fate.Commits fates[0]? → Fate.Commits fates[1]? → Fate.Commits fates[2]?) :
    s'.Whole := by
  cases h_begun with
  | idle _ h_same => exact h_same ▸ h
  | asked h_fates h_ask h_not =>
    rcases h_not with h_not | h_not
    · exact absurd (h_uncut h_fates.1 h_fates.2) h_not
    · exact absurd ((h.commits h_r h_phase h_item).2 _ _ h_ask) h_not
  | linked _ h_ask h_link => exact (h.prepare h_r h_phase h_item h_ask h_link).1

end Prepare

theorem PrepareCut.of_tail {fates : List (Fate StoreError)} (h : Fate.Commits fates[0]?)
    (h_not : ¬ PrepareCut fates) : Fate.Commits fates.tail[0]? → Fate.Commits fates.tail[1]? →
      Fate.Commits fates.tail[2]? := by
  simp only [List.getElem?_tail]
  intro h₁ h₂
  by_contra h₃
  exact h_not ⟨h, h₁, h₂, h₃⟩

theorem Store.Whole.drive {clock : Nat → Millis} {fates : List (Fate StoreError)} (h : s.Whole)
    (h_owes : s.Owes nowMs item) (h_uncut : item.phase = .scheduled →
      ¬ s.PromptSpacingActive config item.incarnationId nowMs → ¬ PrepareCut fates) :
    ((driveRenew config item nowMs clock).run fates { state := s }).2.state.Whole := by
  obtain ⟨r, h_r, h_item⟩ := h_owes
  by_cases h_phase : item.phase = .scheduled
  · have h_scheduled : r.phase = .scheduled := (Store.dueRenew_ok h_item).2.1.symm.trans h_phase
    rcases driveRenew_scheduled config nowMs clock h_phase fates
      { state := s } with ⟨-, h_noted⟩ | ⟨h_fate, h_idle, s₁, h_begun, h_noted⟩
    · exact h.calls (fun _ h => h.offPrepares) h_noted
    · have h_whole : s₁.Whole := h.begun h_r h_scheduled h_item h_begun
        (PrepareCut.of_tail h_fate (h_uncut h_phase h_idle))
      exact h_whole.calls (fun _ h => h.offPrepares) h_noted
  · exact h.calls (fun _ h => h) ((driveRenew_off h_phase).run fates { state := s })

/-- Uncut prepares are whole. -/
theorem PrepareReachable.whole (h : PrepareReachable config s) : s.Whole := by
  refine Run.invariant h .empty fun label s s' h_s h_ok h_step => ?_
  cases label with
  | call c => exact h_s.call h_ok (Call.step_of_mem h_step)
  | drive item nowMs clock fates =>
    obtain ⟨h_owes, h_same⟩ := guard_bind_eq_some.mp h_step
    cases h_same
    exact h_s.drive h_owes h_ok

-- ============================================================================
-- Resumption
-- ============================================================================

/-- The message is an ask that was created under the prepare key of the renew. -/
def Store.AsksToPrepare (s : Store) (id : RenewId) (ask : MessageId) : Prop :=
  (∃ ob ∈ s.obligations, ob.askMessageId = ask) ∧
    ∃ o ∈ s.operations, o.idempotencyKey = renewPrepareKey id ∧ o.prompted = some ask

/-- The prepare of the renew is under way: it has one ask, and no prepare ask of any renew
    is owed that no armed renew refers to. -/
structure Store.Resumed (s : Store) (id : RenewId) : Prop where
  begun : ∃ r ∈ s.renews, r.id = id ∧ r.phase ≠ .scheduled
  single : ∃! ask, s.AsksToPrepare id ask
  referenced : ∀ id' ask, s.AsksToPrepare id' ask →
    (∃ ob ∈ s.obligations, ob.askMessageId = ask ∧ ob.state.Unresolved) →
      ∃ r ∈ s.renews, r.phase.Armed ∧ r.askMessageId = some ask

/-- However the daemon recovers, the next pass over the renew, if it is owed and its clear
    spacing is past, resumes its prepare. -/
def PrepareResumes (config : SliceConfig) (s : Store) (id : RenewId) : Prop :=
  ∀ s₁, StoreRun (fun c _ => c.Recovers) s s₁ → ∀ item nowMs clock, s₁.Owes nowMs item →
    item.renewId = id → ¬ s₁.PromptSpacingActive config item.incarnationId nowMs →
      ((driveRenew config item nowMs clock).run [] { state := s₁ }).2.state.Resumed id

/-- The operations stay under their keys. -/
theorem StoreRun.keyed {ok : Call → Store → Prop} (h : StoreRun ok s s') {key : String}
    (h_key : ∃ o ∈ s.operations, o.idempotencyKey = key) :
    ∃ o ∈ s'.operations, o.idempotencyKey = key := by
  refine Run.invariant (I := fun s' => ∃ o ∈ s'.operations, o.idempotencyKey = key) h h_key
    fun c a b h_a _ h_step => ?_
  obtain ⟨o, h_o, h_key⟩ := h_a
  obtain ⟨o', h_o', h_same⟩ := (c.addsKeys h_step).kept o h_o
  exact ⟨o', h_o', h_same.key.trans h_key⟩

/-- A whole store in which the renew has its prepare operation. -/
theorem Store.Whole.resumed {id : RenewId} (h : s.Whole)
    (h_key : ∃ o ∈ s.operations, o.idempotencyKey = renewPrepareKey id) : s.Resumed id := by
  obtain ⟨o, h_o, h_key⟩ := h_key
  obtain ⟨r, h_r, h_id, h_phase, h_some, h_ask⟩ := h.prepares.linked o h_o id h_key
  obtain ⟨ask, h_prompted⟩ := Option.isSome_iff_exists.mp h_some
  rw [h_prompted] at h_ask
  refine ⟨⟨r, h_r, h_id, h_phase⟩, ⟨ask, ⟨?_, o, h_o, h_key, h_prompted⟩, ?_⟩, ?_⟩
  · obtain ⟨ob, h_ob, h_ob_ask, -⟩ := (Reachable.prepared h.reached).waits r h_r ask h_ask
    exact ⟨ob, h_ob, h_ob_ask⟩
  · rintro ask' ⟨-, o', h_o', h_key', h_prompted'⟩
    obtain rfl := h.prepares.single o h_o o' h_o' id h_key h_key'
    exact Option.some.inj (h_prompted'.symm.trans h_prompted)
  · rintro id' ask' ⟨-, o', h_o', h_key', h_prompted'⟩ ⟨ob, h_ob, h_ob_ask, h_open⟩
    obtain ⟨r', h_r', -, -, -, h_ask'⟩ := h.prepares.linked o' h_o' id' h_key'
    rw [h_prompted'] at h_ask'
    rcases h.prepares.owed r' h_r' ask' h_ask' with h_awaiting | ⟨ob', h_ob', h_same, h_settled⟩
    · refine ⟨r', h_r', ?_, h_ask'⟩
      rcases h_awaiting with h_phase | h_phase <;> rw [h_phase] <;> decide
    · obtain rfl := Table.eq_of_key h_ob h_ob' (h_ob_ask.trans h_same.symm)
      exact absurd h_open h_settled

/-- The requester of a renew has an address. -/
theorem Store.Whole.requester {r : RenewRow} (h : s.Whole) (h_r : r ∈ s.renews) :
    (query (agentAddress r.requesterAgentId) : StoreTx String).Commits s := by
  obtain ⟨-, -, h_requester, -⟩ := Reachable.sound h.reached r h_r
  obtain ⟨a, h_a⟩ := Option.isSome_iff_exists.mp h_requester
  refine ⟨a.publicName, s, run_query_ok.mpr ⟨?_, rfl⟩⟩
  rw [agentAddress, h_a]

theorem RenewRow.Owed.armed {r : RenewRow} (h : r.Owed s nowMs) : r.phase.Armed := by
  unfold RenewRow.Owed at h
  cases h_phase : r.phase with
  | done | aborted | terminated =>
    rw [h_phase] at h
    exact h.elim
  | _ => decide

/-- A pass without faults over a whole store. -/
theorem Store.Whole.resumes {clock : Nat → Millis} (h : s.Whole) (h_owes : s.Owes nowMs item)
    (h_spacing : ¬ s.PromptSpacingActive config item.incarnationId nowMs) :
    ((driveRenew config item nowMs clock).run [] { state := s }).2.state.Resumed
      item.renewId := by
  have h_whole : ((driveRenew config item nowMs clock).run [] { state := s }).2.state.Whole :=
    h.drive h_owes fun _ _ h_cut => h_cut.2.2.2 trivial
  refine h_whole.resumed ?_
  obtain ⟨r, h_r, h_item⟩ := h_owes
  obtain ⟨h_id, h_same, -, -, h_requester, -, h_owed⟩ := Store.dueRenew_ok h_item
  rw [h_id]
  by_cases h_phase : item.phase = .scheduled
  · have h_scheduled : r.phase = .scheduled := h_same.symm.trans h_phase
    rcases driveRenew_scheduled config nowMs clock h_phase []
      { state := s } with ⟨h_not, -⟩ | ⟨-, -, s₁, h_begun, h_noted⟩
    · exact absurd ⟨trivial, h_spacing⟩ h_not
    · refine h_noted.keyed ?_
      cases h_begun with
      | idle h_not =>
        refine absurd ⟨trivial, trivial, ?_, (h.commits h_r h_scheduled h_item).1⟩ h_not
        rw [h_requester]
        exact h.requester h_r
      | asked _ h_ask h_not =>
        rcases h_not with h_not | h_not
        · exact absurd trivial h_not
        · exact absurd ((h.commits h_r h_scheduled h_item).2 _ _ h_ask) h_not
      | linked _ h_ask h_link => exact (h.prepare h_r h_scheduled h_item h_ask h_link).2
  · refine StoreRun.keyed ((driveRenew_off h_phase).run [] { state := s }) ?_
    exact h.prepares.asked r h_r h_owed.armed fun h_eq => h_phase (h_same.trans h_eq)

-- ============================================================================
-- The cut
-- ============================================================================

theorem Noted.same (h : Noted s s') : s' = { s with operatorNotices := s'.operatorNotices } := by
  refine Run.invariant (I := fun s' => s' = { s with operatorNotices := s'.operatorNotices }) h rfl
    fun c a b h_a h_c h_step => ?_
  cases c with
  | createOperatorNotice now body =>
    obtain ⟨id, h_run⟩ := commit_ok.mp h_step
    obtain ⟨t, rfl, -⟩ := run_appendRow_adds h_run
    rw [h_a]
    rfl
  | _ => exact h_c.elim

/-- The replay of an operation that is pending is refused. -/
theorem replay_of_pending {o : OperationRow} {kind : MessageKind} {sender : LogicalAgentId}
    {replyTo : Option MessageId} {r : Option PromptOperationReplay}
    (h_rows : s.operations.rows.filter (·.idempotencyKey = o.idempotencyKey) = [o])
    (h_pending : o.outcome = .pending) :
    replayPromptByIdempotencyKey o.idempotencyKey kind sender replyTo s ≠ .ok r := by
  have h_candidate : s.replayCandidate o.idempotencyKey = some o := by
    rw [Store.replayCandidate, h_rows]
    rfl
  rw [replayPromptByIdempotencyKey, h_candidate]
  dsimp only
  split
  · intro h_replay
    cases h_replay
  · rw [if_neg (by rw [h_pending]; decide), if_pos (by rw [h_pending]; decide)]
    intro h_replay
    cases h_replay

theorem prepareAsk_replays {r : CreatedPrompt × Store} (h : (prepareAsk item now).run s = .ok r) :
    ∃ replay, replayPromptByIdempotencyKey (renewPrepareKey item.renewId) .ask
      item.logicalAgentId none s = .ok replay := by
  unfold prepareAsk at h
  simp only [createAskWithReplyDelivery, run_bind_require_ok, run_bind_query_ok] at h
  obtain ⟨-, replay, h_replay, -⟩ := h
  exact ⟨replay, h_replay⟩

/-- What a cut leaves: the ask is recorded and pending, and the renew is on its schedule. -/
theorem PrepareCut.leaves (clock : Nat → Millis) {fates : List (Fate StoreError)} {r : RenewRow}
    (h_cut : PrepareCut fates) (h : s.Whole) (h_r : r ∈ s.renews)
    (h_item : s.dueRenew nowMs r = some (.ok item)) (h_phase : item.phase = .scheduled)
    (h_spacing : ¬ s.PromptSpacingActive config item.incarnationId nowMs) :
    ∃ s₁ ask, RecordsAsk (renewPrepareKey r.id) ask s s₁ ∧
      Noted s₁ ((driveRenew config item nowMs clock).run fates { state := s }).2.state := by
  obtain ⟨h₀, h₁, h₂, h₃⟩ := h_cut
  obtain ⟨-, h_same, -, -, h_requester, -⟩ := Store.dueRenew_ok h_item
  have h_scheduled : r.phase = .scheduled := h_same.symm.trans h_phase
  rcases driveRenew_scheduled config nowMs clock h_phase fates
    { state := s } with ⟨h_not, -⟩ | ⟨-, -, s₁, h_begun, h_noted⟩
  · exact absurd ⟨h₀, h_spacing⟩ h_not
  · refine ⟨s₁, ?_⟩
    cases h_begun with
    | idle h_not =>
      simp only [List.getElem?_tail] at h_not
      refine absurd ⟨h₁, h₂, ?_, (h.commits h_r h_scheduled h_item).1⟩ h_not
      rw [h_requester]
      exact h.requester h_r
    | asked _ h_ask => exact ⟨_, h.records h_r h_scheduled h_item h_ask, h_noted⟩
    | linked h_fate =>
      rw [List.getElem?_tail] at h_fate
      exact absurd h_fate h₃

/-- The key of a recorded ask is refused. -/
theorem RecordsAsk.refuses {key : String} {ask : MessageId} {kind : MessageKind}
    {sender : LogicalAgentId} {replyTo : Option MessageId} {r : Option PromptOperationReplay}
    (h : RecordsAsk key ask s s') (h_free : ∀ o ∈ s.operations, o.idempotencyKey ≠ key) :
    replayPromptByIdempotencyKey key kind sender replyTo s' ≠ .ok r := by
  obtain ⟨o, -, h_rows, rfl, -, h_pending, -⟩ := h.operation
  refine replay_of_pending ?_ h_pending
  have h_none : s.operations.rows.filter (·.idempotencyKey = o.idempotencyKey) = [] :=
    List.filter_eq_nil_iff.mpr fun o' h_o' => by simpa using h_free o' h_o'
  rw [h_rows, List.filter_append, h_none]
  simp

/-- Recorded asks are no clears. -/
theorem RecordsAsk.clear {key : String} {ask : MessageId} (h : RecordsAsk key ask s s')
    {inc : IncarnationId} (h_clear : s'.ClearInFlight inc) : s.ClearInFlight inc := by
  obtain ⟨o, -, h_rows, -, h_kind, -⟩ := h.operation
  obtain ⟨o', h_o', h_kind', h_rest⟩ := h_clear
  rw [h_rows, List.mem_append, List.mem_singleton] at h_o'
  rcases h_o' with h_old | rfl
  · exact ⟨o', h_old, h_kind', h_rest⟩
  · rw [h_kind] at h_kind'
    nomatch h_kind'

theorem RecordsAsk.spacing {key : String} {ask : MessageId} (h : RecordsAsk key ask s s')
    {inc : IncarnationId} :
    s'.lastClearSpacingAtMs inc = s.lastClearSpacingAtMs inc := by
  obtain ⟨o, -, h_rows, -, h_kind, -⟩ := h.operation
  have h_attempts : s'.operationAttempts = s.operationAttempts := by rw [h.rest]
  unfold Store.lastClearSpacingAtMs
  rw [h_rows, h_attempts, List.filter_append]
  simp [h_kind]

/-- After a cut the next pass leaves the renew on its schedule. -/
theorem PrepareCut.stuck {clock : Nat → Millis} {fates : List (Fate StoreError)}
    (h_cut : PrepareCut fates) (h : s.Whole) (h_owes : s.Owes nowMs item)
    (h_phase : item.phase = .scheduled)
    (h_spacing : ¬ s.PromptSpacingActive config item.incarnationId nowMs) :
    ¬ PrepareResumes config
      ((driveRenew config item nowMs clock).run fates { state := s }).2.state item.renewId := by
  obtain ⟨r, h_r, h_item⟩ := h_owes
  obtain ⟨s₁, ask, h_records, h_noted⟩ :=
    h_cut.leaves clock h h_r h_item h_phase h_spacing
  generalize ((driveRenew config item nowMs clock).run fates { state := s }).2.state = s'
    at h_noted ⊢
  intro h_resumes
  obtain ⟨h_id, h_same, -, h_inc, -⟩ := Store.dueRenew_ok h_item
  have h_scheduled : r.phase = .scheduled := h_same.symm.trans h_phase
  have h_rest := Noted.same h_noted
  have h_ops : s'.operations = s₁.operations := by rw [h_rest]
  have h_renews : s'.renews = s.renews := by rw [h_rest, h_records.rest]
  have h_last {inc : IncarnationId} : s'.lastClearSpacingAtMs inc = s.lastClearSpacingAtMs inc := by
    rw [h_rest]
    exact h_records.spacing
  -- The renew is owed as before.
  have h_incarnations : s'.incarnations = s.incarnations := by rw [h_rest, h_records.rest]
  have h_schedules : s'.schedules = s.schedules := by rw [h_rest, h_records.rest]
  have h_clear (h : s'.ClearInFlight r.incarnationId) : s.ClearInFlight r.incarnationId := by
    rw [h_rest] at h
    exact h_records.clear h
  obtain ⟨item', h_item', h_id', h_phase', h_inc'⟩ :=
    Store.dueRenew_same h_item h_incarnations h_schedules h_clear
  have h_spacing' : ¬ s'.PromptSpacingActive config item'.incarnationId nowMs := by
    unfold Store.PromptSpacingActive at h_spacing ⊢
    rwa [h_last, h_inc']
  obtain ⟨r', h_r', h_rid, h_off⟩ := (h_resumes s' .refl item' nowMs clock
    ⟨r, h_renews ▸ h_r, h_item'⟩ h_id' h_spacing').begun
  -- Its ask is refused.
  have h_refused {now : Millis} {a : CreatedPrompt} {s₂ : Store} :
      (prepareAsk item' now).run s' ≠ .ok (a, s₂) := fun h_ask => by
    obtain ⟨replay, h_replay⟩ := prepareAsk_replays h_ask
    rw [h_id', h_id, h_rest] at h_replay
    exact h_records.refuses (fun o h_o => h.prepares.free h_r h_scheduled h_o) h_replay
  have h_kept {s₂ : Store} (h_renews₂ : s₂.renews = s.renews) (h_noted₂ : Noted s₂
      ((driveRenew config item' nowMs clock).run [] { state := s' }).2.state) : False := by
    rw [Noted.same h_noted₂, h_renews₂] at h_r'
    obtain rfl := Table.eq_of_key h_r h_r' (h_id.symm.trans h_rid.symm)
    exact h_off h_scheduled
  rcases driveRenew_scheduled config nowMs clock
    (h_phase'.trans h_phase) [] { state := s' } with ⟨-, h_noted'⟩ | ⟨-, -, s₂, h_begun, h_noted'⟩
  · exact h_kept h_renews h_noted'
  · cases h_begun with
    | idle _ h_eq => exact h_kept (h_eq ▸ h_renews) h_noted'
    | asked _ h_ask => exact h_refused h_ask
    | linked _ h_ask => exact h_refused h_ask

/-- An interrupted prepare resumes if and only if it is not cut between its ask and its
    link. -/
theorem prepare_resumes_iff {clock : Nat → Millis} {fates : List (Fate StoreError)}
    (h : PrepareReachable config s) (h_owes : s.Owes nowMs item)
    (h_phase : item.phase = .scheduled)
    (h_spacing : ¬ s.PromptSpacingActive config item.incarnationId nowMs) :
    PrepareResumes config
      ((driveRenew config item nowMs clock).run fates { state := s }).2.state item.renewId ↔
        ¬ PrepareCut fates := by
  refine ⟨fun h_resumes h_cut => h_cut.stuck h.whole h_owes h_phase h_spacing h_resumes, ?_⟩
  intro h_not s₁ h_recovers item' nowMs' clock' h_owes' h_id h_spacing'
  have h_driven : ((driveRenew config item nowMs clock).run fates { state := s }).2.state.Whole :=
    h.whole.drive h_owes fun _ _ => h_not
  have h_whole : s₁.Whole := h_driven.calls (fun _ h => h.offPrepares) h_recovers
  rw [← h_id]
  exact h_whole.resumes h_owes' h_spacing'

-- ============================================================================
-- A renew that is due
-- ============================================================================

/-- The call links no ask, and its key is not of the form of prepare keys. -/
def Call.KeyedApart (c : Call) : Prop :=
  match c with
  | .markRenewPreparing .. => False
  | c => ∀ key ∈ c.givenKey?, ¬ "kelpie:renew:prepare:".toList <+: key.toList

instance : DecidablePred Call.KeyedApart := fun c => by
  apply Call.casesOn (motive := fun c => Decidable (c.KeyedApart)) c <;>
    intros <;>
    dsimp only [Call.KeyedApart] <;>
    infer_instance

theorem Call.KeyedApart.offPrepares {c : Call} (h : c.KeyedApart) : c.OffPrepares := by
  have h_keys {id : RenewId} (h_all : ∀ key ∈ c.givenKey?,
      ¬ "kelpie:renew:prepare:".toList <+: key.toList) :
      c.givenKey? ≠ some (renewPrepareKey id) := fun h_key => by
    refine h_all _ (Option.mem_def.mpr h_key) ?_
    have h_text : (renewPrepareKey id).toList =
        "kelpie:renew:prepare:".toList ++ (toString id).toList := String.toList_append
    rw [h_text]
    exact List.prefix_append _ _
  cases c with
  | markRenewPreparing => exact h.elim
  | _ => exact ⟨nofun, fun id => h_keys h⟩

theorem PrepareReachable.of_calls (h : StoreRun (fun c _ => c.OffPrepares) Store.empty s) :
    PrepareReachable config s := by
  induction h with
  | refl => exact .refl
  | tail c _ h_ok h_step ih =>
    refine .tail (.call c) ih h_ok ?_
    have h_commit : c.commit _ = .ok _ := h_step
    simp [StepOf, PrepareLabel.next, h_commit, Except.toOption]

/-- A renew that is due at 100. -/
def dueRun : List Call :=
  [adopting 1 "w1:p1" "t1" "worker" "k1",
    .createRenew 10
      { logicalAgentId := 1, incarnationId := 1, requesterAgentId := 1,
        preparePrompt := "Write a checkpoint.", resumePrompt := "Continue.",
        onTimeout := .proceed, prepareTimeoutMs := 100, scheduledAtMs := 100 }]

theorem dueRun_owes : ∃ s item, PrepareReachable plainConfig s ∧ s.Owes 100 item ∧
    item.phase = .scheduled ∧ ¬ s.PromptSpacingActive plainConfig item.incarnationId 100 := by
  have h : Leads (fun c _ => c.KeyedApart)
      (fun s => ∃ r ∈ s.renews.rows, ∃ item ∈ (s.dueRenew 100 r).bind Except.toOption,
        item.phase = .scheduled ∧ ¬ s.PromptSpacingActive plainConfig item.incarnationId 100)
      dueRun Store.empty := by decide +kernel
  obtain ⟨s, h_run, r, h_r, item, h_item, h_phase, h_spacing⟩ := h.run
  obtain ⟨result, h_due, h_ok⟩ := Option.bind_eq_some_iff.mp h_item
  cases result with
  | error e => nomatch h_ok
  | ok item' =>
    cases h_ok
    exact ⟨s, item, .of_calls (h_run.mono fun c _ h_c => h_c.offPrepares), ⟨r, h_r, h_due⟩,
      h_phase, h_spacing⟩

/-- A crash between the ask and its link: the next pass is refused by its own key. -/
theorem cut_prepare_does_not_resume : ∃ s item, PrepareReachable plainConfig s ∧
    s.Owes 100 item ∧ item.phase = .scheduled ∧
    ¬ s.PromptSpacingActive plainConfig item.incarnationId 100 ∧
    ¬ PrepareResumes plainConfig ((driveRenew plainConfig item 100 fun _ => 100).run
      [.commit, .commit, .commit, .crash] { state := s }).2.state item.renewId := by
  obtain ⟨s, item, h_run, h_owes, h_phase, h_spacing⟩ := dueRun_owes
  have h_cut : PrepareCut [.commit, .commit, .commit, .crash] := by decide
  exact ⟨s, item, h_run, h_owes, h_phase, h_spacing,
    h_cut.stuck h_run.whole h_owes h_phase h_spacing⟩

theorem prepare_resumes_iff_dueRun : ∃ s item, PrepareReachable plainConfig s ∧
    s.Owes 100 item ∧
    PrepareResumes plainConfig ((driveRenew plainConfig item 100 fun _ => 100).run
      [.commit, .commit, .commit, .commit, .crash] { state := s }).2.state item.renewId := by
  obtain ⟨s, item, h_run, h_owes, h_phase, h_spacing⟩ := dueRun_owes
  exact ⟨s, item, h_run, h_owes,
    (prepare_resumes_iff h_run h_owes h_phase h_spacing).mpr (by decide)⟩

end Kelpie
