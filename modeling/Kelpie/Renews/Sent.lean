/-
  Kelpie.Renews.Sent

  Whether the clear of a renew left the daemon.  Its record, its attempt and the
  mark of its submission are three transactions, and its command is sent later,
  on a connection that has yet to open: a renew whose clear comes to nothing on
  that way is left in the phase of a cleared one.
-/

import Kelpie.Renews.Cycles
import Kelpie.Schedules.Keys

namespace Kelpie

open Lib Lib.Tx Lib.Process

-- As in `Kelpie.Store.Frames`.
set_option synthInstance.maxSize 100000

variable {s s' : Store} {id : RenewId}

-- ============================================================================
-- Attempts
-- ============================================================================

/-- The request under which the clear of a renew is attempted. -/
def renewClearKey (renewId : RenewId) : String := s!"kelpie:renew:clear:{renewId}"

theorem renewClearKey_inj {id id' : RenewId} (h : renewClearKey id = renewClearKey id') :
    id = id' :=
  Nat.repr_injective ((String.append_right_inj _).mp h)

theorem renewClearKey_ne_inject {id other : RenewId} {nowMs : Millis} :
    s!"kelpie:renew:inject:{other}:{nowMs}" ≠ renewClearKey id := by
  rw [String.append_assoc, String.append_assoc]
  exact append_ne (by decide) (by decide)

/-- The request attempts no clear. -/
def NoClearKey (requestId : String) : Prop := ∀ id, requestId ≠ renewClearKey id

theorem renewStepSubmitted_iff {step : RenewStep} : s.renewStepSubmitted id step = true ↔
    ∃ a ∈ s.renewAttempts, a.renewId = id ∧ a.step = step ∧ a.phase ≠ .prepared := by
  simp only [Store.renewStepSubmitted, List.any_eq_true, decide_eq_true_iff]
  rfl

/-- The attempts go on: none that was submitted is taken back, and no clear is prepared. -/
structure AttemptsStand (t t' : Table RenewAttemptRow.id) : Prop where
  kept : ∀ a ∈ t, ∃ a' ∈ t', a'.renewId = a.renewId ∧ a'.step = a.step ∧
    (a.phase ≠ .prepared → a'.phase ≠ .prepared)
  origin : ∀ a' ∈ t', (∃ a ∈ t, a.requestId = a'.requestId) ∨ NoClearKey a'.requestId

instance AttemptsStand.stepwise : Stepwise AttemptsStand where
  refl _ := ⟨fun a h_a => ⟨a, h_a, rfl, rfl, fun h => h⟩, fun a h_a => .inl ⟨a, h_a, rfl⟩⟩
  trans h h' := by
    constructor
    · intro a h_a
      obtain ⟨a₁, h_a₁, h_renew, h_step, h_phase⟩ := h.kept a h_a
      obtain ⟨a₂, h_a₂, h_renew', h_step', h_phase'⟩ := h'.kept a₁ h_a₁
      exact ⟨a₂, h_a₂, h_renew'.trans h_renew, h_step'.trans h_step,
        fun h_sent => h_phase' (h_phase h_sent)⟩
    · intro a₂ h_a₂
      rcases h'.origin a₂ h_a₂ with ⟨a₁, h_a₁, h_key⟩ | h_new
      · rcases h.origin a₁ h_a₁ with ⟨a, h_a, h_key'⟩ | h_new
        · exact .inl ⟨a, h_a, h_key'.trans h_key⟩
        · exact .inr (h_key ▸ h_new)
      · exact .inr h_new

section Frames

instance : Apart Tab.renewAttempts Tab.logicalAgents := ⟨fun _ _ => rfl⟩
instance : Apart Tab.renewAttempts Tab.incarnations := ⟨fun _ _ => rfl⟩
instance : Apart Tab.renewAttempts Tab.operations := ⟨fun _ _ => rfl⟩
instance : Apart Tab.renewAttempts Tab.operationAttempts := ⟨fun _ _ => rfl⟩
instance : Apart Tab.renewAttempts Tab.operatorNotices := ⟨fun _ _ => rfl⟩
instance : Apart Tab.renewAttempts Tab.messages := ⟨fun _ _ => rfl⟩
instance : Apart Tab.renewAttempts Tab.obligations := ⟨fun _ _ => rfl⟩
instance : Apart Tab.renewAttempts Tab.deliveries := ⟨fun _ _ => rfl⟩
instance : Apart Tab.renewAttempts Tab.obligationReminders := ⟨fun _ _ => rfl⟩
instance : Apart Tab.renewAttempts Tab.reminderAttempts := ⟨fun _ _ => rfl⟩
instance : Apart Tab.renewAttempts Tab.schedules := ⟨fun _ _ => rfl⟩
instance : Apart Tab.renewAttempts Tab.renews := ⟨fun _ _ => rfl⟩
instance : Apart Tab.renewAttempts Tab.socketWaiterKeys := ⟨fun _ _ => rfl⟩
instance : Apart Tab.renewAttempts Tab.socketInboxKeys := ⟨fun _ _ => rfl⟩
instance : Apart Tab.renewAttempts Tab.scheduleFirings := ⟨fun _ _ => rfl⟩
instance : Apart Tab.renewAttempts Tab.askPullLeases := ⟨fun _ _ => rfl⟩
instance : Apart Tab.renewAttempts Tab.askPullKeys := ⟨fun _ _ => rfl⟩

instance {R₀} [hR : Stepwise R₀] : IgnoresCounters (Over Tab.renewAttempts R₀) :=
  ⟨fun _ _ => hR.refl _, fun _ _ => hR.refl _, fun _ _ => hR.refl _⟩

/-- A later phase of an attempt. -/
theorem keeps_attempted {p : RenewAttemptRow → Prop} [DecidablePred p]
    {f : RenewAttemptRow → RenewAttemptRow} {h_key : ∀ a, (f a).id = a.id}
    (h_f : ∀ a, (f a).renewId = a.renewId ∧ (f a).step = a.step ∧
      (f a).requestId = a.requestId ∧ (f a).phase ≠ .prepared) :
    Keeps (Over Tab.renewAttempts AttemptsStand)
      (updateRows Tab.renewAttempts p f h_key : StoreTx Nat) :=
  .updateRows fun s => by
    have h_edits : (Tab.renewAttempts.get s).Edits
        (fun a a' => a'.renewId = a.renewId ∧ a'.step = a.step ∧ a'.requestId = a.requestId ∧
          (a.phase ≠ .prepared → a'.phase ≠ .prepared))
        ((Tab.renewAttempts.get s).update p f h_key) :=
      Table.edits_update h_key
        (fun a _ _ => ⟨(h_f a).1, (h_f a).2.1, (h_f a).2.2.1, fun _ => (h_f a).2.2.2⟩)
        fun _ _ _ => ⟨rfl, rfl, rfl, fun h => h⟩
    constructor
    · intro a h_a
      obtain ⟨a', h_a', h_renew, h_step, -, h_phase⟩ := h_edits.image a h_a
      exact ⟨a', h_a', h_renew, h_step, h_phase⟩
    · intro a' h_a'
      obtain ⟨a, h_a, -, -, h_request, -⟩ := h_edits.origin a' h_a'
      exact .inl ⟨a, h_a, h_request.symm⟩

instance {request} :
    Keeps (Over Tab.renewAttempts AttemptsStand) (submitRenewAttempt request) := by
  have h_submit {h_key} : Keeps (Over Tab.renewAttempts AttemptsStand)
      (updateRows Tab.renewAttempts (fun a => a.requestId = request ∧ a.phase = .prepared)
        (fun a => { a with phase := .submitted }) h_key : StoreTx Nat) :=
    keeps_attempted fun _ => ⟨rfl, rfl, rfl, nofun⟩
  unfold submitRenewAttempt
  infer_instance

instance {request outcome evidence nowMs} : Keeps (Over Tab.renewAttempts AttemptsStand)
    (resolveRenewAttempt request outcome evidence nowMs) := by
  have h_resolve {h_key} : Keeps (Over Tab.renewAttempts AttemptsStand)
      (updateRows Tab.renewAttempts (fun a => a.requestId = request ∧ a.phase = .submitted)
        (fun a => { a with phase := outcome.phase, resolvedAtMs := some nowMs, evidence })
        h_key : StoreTx Nat) :=
    keeps_attempted fun _ => ⟨rfl, rfl, rfl, by cases outcome <;> nofun⟩
  unfold resolveRenewAttempt
  infer_instance

/-- The attempt `a` of the step is added, the last one and the only one of its request. -/
structure PreparesAttempt (id : RenewId) (step : RenewStep) (request : String)
    (s s' : Store) (a : RenewAttemptRow) : Prop where
  rest : ∃ ts, s' = { s with renewAttempts := ts }
  adds : s.renewAttempts.Adds (some a) s'.renewAttempts
  rows : s'.renewAttempts.rows = s.renewAttempts.rows ++ [a]
  renewId : a.renewId = id
  stepIs : a.step = step
  requestId : a.requestId = request
  phase : a.phase = .prepared
  alone : ∀ b ∈ s.renewAttempts.rows, b.requestId ≠ request

theorem prepareRenewAttempt_run {inc : IncarnationId} {step : RenewStep} {request : String}
    {nowMs : Millis} {u : Unit}
    (h : (prepareRenewAttempt id inc step request nowMs).run s = .ok (u, s')) :
    ∃ a, PreparesAttempt id step request s s' a := by
  simp only [prepareRenewAttempt, run_bind_reads, run_bind_require_ok] at h
  obtain ⟨⟨-, -, h_alone⟩, h⟩ := h
  obtain ⟨n, s₁, h_append, h_pure⟩ := run_bind_ok.mp h
  cases h_pure
  obtain ⟨ts, rfl, h_ts, h_rows⟩ := run_appendRow_rows h_append
  exact ⟨_, ⟨ts, rfl⟩, h_ts, h_rows, rfl, rfl, rfl, rfl, h_alone⟩

theorem prepareRenewAttempt_commits {inc : IncarnationId} {step : RenewStep} {request : String}
    {nowMs : Millis} (h_renew : (s.renews.find id).isSome)
    (h_inc : (s.incarnations.find inc).isSome)
    (h_alone : ∀ a ∈ s.renewAttempts.rows, a.requestId ≠ request) :
    (prepareRenewAttempt id inc step request nowMs).Commits s := by
  unfold prepareRenewAttempt
  rw [commits_bind_reads, commits_bind_require]
  exact ⟨⟨h_renew, h_inc, h_alone⟩, _, _, rfl⟩

/-- The attempt that was prepared last is the one that is submitted. -/
theorem PreparesAttempt.submits {step : RenewStep} {request : String} {a : RenewAttemptRow}
    (h : PreparesAttempt id step request s s' a) : (submitRenewAttempt request).Commits s' := by
  have h_old : s.renewAttempts.rows.countP
      (fun b => decide (b.requestId = request ∧ b.phase = .prepared)) = 0 :=
    List.countP_eq_zero.mpr fun b h_b h_request =>
      h.alone b h_b (of_decide_eq_true h_request).1
  have h_count : s'.renewAttempts.count (fun b => b.requestId = request ∧ b.phase = .prepared) =
      1 := by
    rw [Table.count, h.rows, List.countP_append, h_old, Nat.zero_add]
    simp [h.requestId, h.phase]
  unfold submitRenewAttempt
  rw [commits_bind_run rfl]
  exact commits_require.mpr h_count

theorem PreparesAttempt.submitted {step : RenewStep} {request : String} {a : RenewAttemptRow}
    {s'' : Store} {u : Unit} (h : PreparesAttempt id step request s s' a)
    (h_submit : (submitRenewAttempt request).run s' = .ok (u, s'')) :
    s''.renewStepSubmitted id step = true := by
  obtain ⟨n, s₁, h_update, h_require⟩ := run_bind_ok.mp h_submit
  obtain ⟨h_one, h_end⟩ := run_require_ok.mp h_require
  cases h_end
  obtain ⟨ts, rfl, b, h_b, ⟨h_request, -⟩, h_new⟩ :=
    run_updateRows_pos h_update (h_one ▸ Nat.zero_lt_one)
  have h_same : b = a := by
    rcases (h.adds.mem b).mp h_b with h_old | h_last
    · exact absurd h_request (h.alone b h_old)
    · exact (Option.mem_some.mp h_last).symm
  subst h_same
  exact renewStepSubmitted_iff.mpr ⟨_, h_new, h.renewId, h.stepIs, nofun⟩

theorem keeps_prepareRenewAttempt {inc : IncarnationId} {step : RenewStep} {request : String}
    {nowMs : Millis} (h_key : NoClearKey request) :
    Keeps (Over Tab.renewAttempts AttemptsStand)
      (prepareRenewAttempt id inc step request nowMs) where
  keeps h := by
    obtain ⟨a, h_a⟩ := prepareRenewAttempt_run h
    constructor
    · intro b h_b
      exact ⟨b, (h_a.adds.mem b).mpr (.inl h_b), rfl, rfl, fun h => h⟩
    · intro b h_b
      rcases (h_a.adds.mem b).mp h_b with h_old | h_new
      · exact .inl ⟨b, h_old, rfl⟩
      · obtain rfl := Option.mem_some.mp h_new
        exact .inr (h_a.requestId ▸ h_key)

end Frames

-- ============================================================================
-- Clears that stand
-- ============================================================================

/-- The cycle has come to its clear, and goes on. -/
def RenewPhase.PastClear (p : RenewPhase) : Prop := p = .clearing ∨ p = .injected

instance : DecidablePred RenewPhase.PastClear := fun p =>
  inferInstanceAs (Decidable (p = .clearing ∨ p = .injected))

/-- No renew comes to its clear. -/
def NoneClears (t t' : Table RenewRow.id) : Prop :=
  ∀ r' ∈ t', r'.phase.PastClear → ∃ r ∈ t, r.id = r'.id ∧ r.phase.PastClear

/-- No renew comes to its clear, and the attempts of clears stand. -/
structure ClearsStand (s s' : Store) : Prop where
  renews : NoneClears s.renews s'.renews
  attempts : AttemptsStand s.renewAttempts s'.renewAttempts

instance ClearsStand.stepwise : Stepwise ClearsStand where
  refl _ := ⟨fun r h_r h_past => ⟨r, h_r, rfl, h_past⟩, Stepwise.refl _⟩
  trans h h' := by
    refine ⟨fun r h_r h_past => ?_, Stepwise.trans h.attempts h'.attempts⟩
    obtain ⟨r₁, h_r₁, h_id, h_past⟩ := h'.renews r h_r h_past
    obtain ⟨r₂, h_r₂, h_id', h_past⟩ := h.renews r₁ h_r₁ h_past
    exact ⟨r₂, h_r₂, h_id'.trans h_id, h_past⟩

/-- Whatever moves the renews and records no clear. -/
theorem RenewMoves.noneClears {e : RenewRow → RenewRow → Prop} {t t' : Table RenewRow.id}
    (h : RenewMoves e t t') (h_e : ∀ r r', e r r' → r'.id = r.id ∧
      (r'.phase.PastClear → r.phase.PastClear)) : NoneClears t t' := by
  intro r' h_r' h_past
  rcases h.origin r' h_r' with ⟨r, h_r, h_move⟩ | ⟨h_fresh, -⟩
  · obtain ⟨h_id, h_was⟩ := h_e r r' h_move
    exact ⟨r, h_r, h_id.symm, h_was h_past⟩
  · obtain ⟨h_clearing, h_injected, -⟩ := h_fresh.before.ne
    exact absurd h_past (not_or.mpr ⟨h_clearing, h_injected⟩)

theorem RenewRow.Prepares.noneClears {r r' : RenewRow} (h : r.Prepares r') :
    r'.id = r.id ∧ (r'.phase.PastClear → r.phase.PastClear) :=
  ⟨h.id, h.proceeds.cleared⟩

/-- The move of one renew to a phase that is not past its clear, or from one that is. -/
theorem RenewMoves.aside_noneClears {p : RenewPhase → Prop} {phase : RenewPhase}
    {t t' : Table RenewRow.id} (h : RenewMoves (RenewRow.Aside id (RenewRow.Goes p phase)) t t')
    (h_phase : phase.PastClear → ∀ q, p q → q.PastClear) : NoneClears t t' := by
  refine h.noneClears ?_
  rintro r r' (⟨-, h_prep⟩ | ⟨-, h_goes⟩)
  · exact h_prep.noneClears
  · exact ⟨h_goes.id, fun h_past => h_phase (h_goes.target ▸ h_past) _ h_goes.source⟩

section Transactions

variable {α : Type} {x : StoreTx α} {now nowMs : Millis}

instance [hx : Keeps (Over Tab.renews Preparing) x]
    [hx' : Keeps (Over Tab.renewAttempts AttemptsStand) x] : Keeps ClearsStand x where
  keeps h := by
    have h_renews : RenewMoves RenewRow.Prepares _ _ := hx.keeps h
    exact ⟨h_renews.noneClears fun _ _ h_r => h_r.noneClears, hx'.keeps h⟩

instance : Keeps ClearsStand (markRenewReady now id) where
  keeps h := ⟨(markRenewReady_moves h).aside_noneClears (absurd · (by decide)),
    Keeps.keeps (R := Over Tab.renewAttempts AttemptsStand) h⟩

instance : Keeps ClearsStand (markRenewInjected id) where
  keeps h := ⟨(markRenewInjected_moves h).aside_noneClears fun _ _ h_q => .inl h_q,
    Keeps.keeps (R := Over Tab.renewAttempts AttemptsStand) h⟩

instance : Keeps ClearsStand (claimRenewClearStallNotice id nowMs) where
  keeps h := by
    refine ⟨(claimRenewClearStallNotice_moves h).1.noneClears ?_,
      Keeps.keeps (R := Over Tab.renewAttempts AttemptsStand) h⟩
    rintro r r' (⟨-, h_prep⟩ | ⟨-, h_same, h_phase⟩)
    · exact h_prep.noneClears
    · exact ⟨h_same.id, fun h_past => h_phase ▸ h_past⟩

instance : Keeps ClearsStand (completeRenew now id) where
  keeps h := ⟨(completeRenew_moves h).1.aside_noneClears (absurd · (by decide)),
    Keeps.keeps (R := Over Tab.renewAttempts AttemptsStand) h⟩

instance {reason} : Keeps ClearsStand (abortRenew now id reason) where
  keeps h := ⟨(abortRenew_moves h).1.aside_noneClears (absurd · (by decide)),
    Keeps.keeps (R := Over Tab.renewAttempts AttemptsStand) h⟩

instance {reason} : Keeps ClearsStand (abandonRenewProof now id reason) where
  keeps h := ⟨(abandonRenewProof_moves h).1.aside_noneClears (absurd · (by decide)),
    Keeps.keeps (R := Over Tab.renewAttempts AttemptsStand) h⟩

instance {reason notice} :
    Keeps ClearsStand (terminateRenewAnnounced now id reason notice) where
  keeps h := ⟨(terminateRenewAnnounced_moves h).1.aside_noneClears (absurd · (by decide)),
    Keeps.keeps (R := Over Tab.renewAttempts AttemptsStand) h⟩

instance {requester reason notice} :
    Keeps ClearsStand (cancelRenew now id requester reason notice) where
  keeps h := ⟨(cancelRenew_moves h).1.aside_noneClears (absurd · (by decide)),
    Keeps.keeps (R := Over Tab.renewAttempts AttemptsStand) h⟩

/-- The call of another part of the daemon. -/
theorem Call.clearsStand {c : Call} (h_c : ¬ c.DrivesRenew) (h : c.Step s s') :
    ClearsStand s s' := by
  cases c with
  | cancelRenew now id requester reason notice =>
    obtain ⟨_, h_run⟩ := commit_ok.mp h
    exact Keeps.keeps h_run
  | markRenewPreparing | markRenewReady | markRenewClearing | claimRenewClearStallNotice
  | markRenewInjected | markRenewTimedOut | completeRenew | abortRenew | abandonRenewProof
  | terminateRenew | terminateRenewAnnounced | prepareRenewAttempt | submitRenewAttempt
  | resolveRenewAttempt | replaceObservedNativeSession => exact absurd trivial h_c
  | _ => exact Keeps.commit h

end Transactions

-- ============================================================================
-- Handlers that record no clear
-- ============================================================================

/-- What is noted where no clear is recorded, and no renew but those of `P` is resumed. -/
def RenewAct.Allowed (P : RenewId → Prop) : RenewAct → Prop
  | .records .. | .submits _ .clear _ | .sends .. => False
  | .submits id .inject _ => P id
  | .observes .. | .reports _ | .ends .. => True

/-- The journal goes on from `j₀` by such entries, and its clears stand. -/
structure RenewJournal.Stands (P : RenewId → Prop) (j₀ j : RenewJournal) : Prop where
  extend : ∃ acts, j.log = j₀.log ++ acts ∧ ∀ a ∈ acts, a.Allowed P
  store : ClearsStand j₀.state j.state

/-- The handler records no clear, wherever it fails or the daemon dies. -/
class LeavesClears {α : Type} (P : RenewId → Prop) (p : RenewProcess α) : Prop where
  ensures : ∀ j₀ j, RenewJournal.Stands P j₀ j →
    p.Ensures (RenewJournal.Stands P j₀) (fun _ _ => True) j

section Handlers

variable {α β : Type} {P : RenewId → Prop} {config : SliceConfig} {now nowMs : Millis}
  {item : DueRenew} {detail : String}

theorem RenewJournal.Stands.refl {j : RenewJournal} : j.Stands P j :=
  ⟨⟨[], (List.append_nil _).symm, fun _ h => absurd h List.not_mem_nil⟩, Stepwise.refl _⟩

theorem RenewJournal.Stands.trans {j j₁ j₂ : RenewJournal} (h : j.Stands P j₁)
    (h' : j₁.Stands P j₂) : j.Stands P j₂ := by
  obtain ⟨acts, h_log, h_acts⟩ := h.extend
  obtain ⟨acts', h_log', h_acts'⟩ := h'.extend
  refine ⟨⟨acts ++ acts', by rw [h_log', h_log, List.append_assoc], fun a h_a => ?_⟩,
    Stepwise.trans h.store h'.store⟩
  exact (List.mem_append.mp h_a).elim (h_acts a) (h_acts' a)

theorem RenewJournal.Stands.mem {j j' : RenewJournal} (h : j.Stands P j') {a : RenewAct}
    (h_a : a ∈ j.log) : a ∈ j'.log := by
  obtain ⟨acts, h_log, -⟩ := h.extend
  rw [h_log]
  exact List.mem_append_left acts h_a

theorem LeavesClears.run {p : RenewProcess α} (h : LeavesClears P p)
    (fates : List (Fate StoreError)) (j : RenewJournal) : j.Stands P (p.run fates j).2 :=
  ((h.ensures j j .refl).run fates).1

theorem leavesClears_commits {x : StoreTx α} {note : Store → α → List RenewAct}
    [hx : Keeps ClearsStand x] (h_note : ∀ s a, ∀ act ∈ note s a, act.Allowed P) :
    LeavesClears P (commits x note) where
  ensures _ j h := ensures_tx h fun a j' h_run => by
    obtain ⟨h_x, h_log⟩ := run_noting_ok.mp h_run
    exact ⟨h.trans ⟨⟨_, h_log, h_note j.state a⟩, hx.keeps h_x⟩, trivial⟩

instance {x : StoreTx α} [Keeps ClearsStand x] : LeavesClears P (commits x) :=
  leavesClears_commits fun _ _ _ h => absurd h List.not_mem_nil

instance {x : StoreTx α} [Keeps ClearsStand x] {how : RenewEnd} :
    LeavesClears P (commits x (endsRenew id how)) := by
  refine leavesClears_commits fun s a act h_act => ?_
  obtain ⟨r, -, rfl⟩ := Option.map_eq_some_iff.mp (Option.mem_toList.mp h_act)
  exact trivial

instance {a : α} : LeavesClears P (Pure.pure a : RenewProcess α) :=
  ⟨fun _ _ h => ensures_pure h trivial⟩

instance {e : SliceError} : LeavesClears P (Process.fail e : RenewProcess α) :=
  ⟨fun _ _ h => ensures_fail h⟩

instance {r : Except SliceError α} :
    LeavesClears P (Process.ofExcept r : RenewProcess α) :=
  ⟨fun _ _ h => ensures_ofExcept h fun _ _ => trivial⟩

instance {p : RenewProcess α} {f : α → RenewProcess β} [hp : LeavesClears P p]
    [hf : ∀ a, LeavesClears P (f a)] : LeavesClears P (p >>= f) :=
  ⟨fun j₀ j h => (hp.ensures j₀ j h).bind fun a j' h' _ => (hf a).ensures j₀ j' h'⟩

instance {p : RenewProcess α} [hp : LeavesClears P p] :
    LeavesClears P (p.result : RenewProcess (Except SliceError α)) :=
  ⟨fun j₀ j h => (hp.ensures j₀ j h).result.mono (fun _ h => h) fun _ _ _ _ => trivial⟩

instance {c : Prop} [Decidable c] {p q : RenewProcess α} [hp : LeavesClears P p]
    [hq : LeavesClears P q] : LeavesClears P (if c then p else q) := by
  split
  · exact hp
  · exact hq

instance {xs : List α} {f : α → RenewProcess Unit} [hf : ∀ a, LeavesClears P (f a)] :
    LeavesClears P (Process.forEach xs f) :=
  ⟨fun j₀ _ h => ensures_forEach h fun x _ j h_j => (hf x).ensures j₀ j h_j⟩

instance {e : SliceError} : LeavesClears P (noteRenewDriveError config now e) where
  ensures _ _ h := ensures_attempt h fun _ _ h_run => by
    obtain ⟨h_x, h_log⟩ := run_noting_ok.mp h_run
    exact h.trans ⟨⟨_, h_log, fun _ h => absurd h List.not_mem_nil⟩, Keeps.keeps h_x⟩

theorem leavesClears_recordRenewNotice {acts : List RenewAct}
    (h_acts : ∀ act ∈ acts, act.Allowed P) :
    LeavesClears P (recordRenewNotice now item detail acts) := by
  have h_insert {body : String} :
      LeavesClears P (commits (insertOperatorNotice now body) fun _ _ => acts) :=
    leavesClears_commits fun _ _ => h_acts
  unfold recordRenewNotice
  infer_instance

instance : LeavesClears P (recordRenewNotice now item detail) :=
  leavesClears_recordRenewNotice fun _ h => absurd h List.not_mem_nil

instance {clock : RenewId → Millis} : LeavesClears P (terminateEndedRenews clock) := by
  unfold terminateEndedRenews
  have h_end (id : RenewId) (r : Option RenewRow) : LeavesClears P (match r with
      | none => Process.fail (.store (.invalidRecord
          s!"renew {id} vanished between selection and termination"))
      | some r => do
        let notice ← commits (query (renewTerminationNotice id r))
        let _ ← commits (terminateRenewAnnounced (clock id) id
          "incarnation is no longer Ready" notice) (endsRenew id .lost)
      : RenewProcess Unit) := by
    split <;> infer_instance
  infer_instance

instance : LeavesClears P (beginRenewPrepare item nowMs now) := by
  unfold beginRenewPrepare
  infer_instance

instance : LeavesClears P (renewSettlePrepare item nowMs now) := by
  unfold renewSettlePrepare
  infer_instance

instance {clock : Nat → Millis} : LeavesClears P (renewApplyTimeout item clock) := by
  unfold renewApplyTimeout
  dsimp only
  split <;> infer_instance

instance : LeavesClears P (renewClearReadyToProbe config item nowMs) := by
  unfold renewClearReadyToProbe
  infer_instance

instance {request : String} {result : Except HerdrError Unit} :
    LeavesClears P (applyRenewAttemptResult id request nowMs result) := by
  unfold applyRenewAttemptResult
  split <;> infer_instance

instance {consequence : String} :
    LeavesClears P (reportClearStall item nowMs now consequence) := by
  have h_notice {detail : String} :
      LeavesClears P (recordRenewNotice now item detail [.reports item.renewId]) :=
    leavesClears_recordRenewNotice fun act h_act => by
      rw [List.mem_singleton.mp h_act]
      exact trivial
  unfold reportClearStall
  infer_instance

/-- A resume prompt is submitted for a renew of `P`. -/
theorem leavesClears_renewInjectDecision {observed : AgentObservation} (h_P : P item.renewId) :
    LeavesClears P (renewInjectDecision item nowMs now observed) := by
  have h_prepare : LeavesClears P (commits (prepareRenewAttempt item.renewId item.incarnationId
      .inject s!"kelpie:renew:inject:{item.renewId}:{nowMs}" nowMs)) := by
    have h_stand : Keeps (Over Tab.renewAttempts AttemptsStand) (prepareRenewAttempt item.renewId
        item.incarnationId .inject s!"kelpie:renew:inject:{item.renewId}:{nowMs}" nowMs) :=
      keeps_prepareRenewAttempt fun _ => renewClearKey_ne_inject
    infer_instance
  have h_submit {request : String} : LeavesClears P (commits (submitRenewAttempt request)
      fun _ _ => [.submits item.renewId .inject nowMs]) :=
    leavesClears_commits fun _ _ act h_act => by
      rw [List.mem_singleton.mp h_act]
      exact h_P
  unfold renewInjectDecision
  split
  · infer_instance
  · infer_instance

instance {write : RenewInjectWrite} {result : Except HerdrError Unit} :
    LeavesClears P (applyRenewInjectResult item nowMs write result) := by
  unfold applyRenewInjectResult
  split
  · have h_session : LeavesClears P (match write.rotated, write.observed.agentSession with
        | true, some session => commits (replaceObservedNativeSession item.incarnationId session)
        | _, _ => Pure.pure () : RenewProcess Unit) := by
      split <;> infer_instance
    infer_instance
  · infer_instance

instance {clock : Nat → Millis} : LeavesClears P (abandonUnprovenCycle item nowMs clock) := by
  unfold abandonUnprovenCycle
  split <;> infer_instance

instance {clock : Nat → Millis} {observed : AgentObservation} :
    LeavesClears P (applyRenewConfirmObservation item nowMs clock observed) := by
  unfold applyRenewConfirmObservation
  split
  · infer_instance
  · split
    · infer_instance
    · dsimp only
      split <;> infer_instance

instance : LeavesClears P (finishRenew item now) := by
  unfold finishRenew
  infer_instance

instance {clock : Nat → Millis} : LeavesClears P (beginRenewPass config nowMs clock) := by
  have h_items (items : Except SliceError (List DueRenew)) : LeavesClears P (match items with
      | .ok items => return items
      | .error e => do
        noteRenewDriveError config (clock 0) e
        return [] : RenewProcess (List DueRenew)) := by
    split <;> infer_instance
  unfold beginRenewPass
  infer_instance

/-- The cycles that are parked by a pass: before their clear, or past it. -/
theorem ensures_driveRenew_parks {clock : Nat → Millis} (j : RenewJournal) :
    (driveRenew config item nowMs clock).Ensures (j.Stands P)
      (fun drive _ => ∀ state, drive = .park state → state = .probe ∨ item.phase.PastClear) j := by
  have h_note (e : SliceError) (j' : RenewJournal) (h : j.Stands P j') :=
    LeavesClears.ensures (p := noteRenewDriveError config (clock 3) e) j j' h
  have h_probe {α : Type} {p : RenewProcess α} [hp : LeavesClears P p] {f : α → RenewDrive}
      {j' : RenewJournal} (h : j.Stands P j')
      (h_f : ∀ a state, f a = .park state → state = .probe) :
      (driving config (clock 3) p f).Ensures (j.Stands P) (fun drive _ => ∀ state,
        drive = .park state → state = .probe ∨ item.phase.PastClear) j' :=
    (ensures_driving (hp.ensures j j' h) h_note h_f).mono (fun _ h => h)
      fun _ _ _ h_Q state h_park => .inl (h_Q state h_park)
  unfold driveRenew
  split
  · refine Ensures.bind (LeavesClears.ensures j j .refl) fun spacing j' h _ => ?_
    cases spacing with
    | error e => exact Ensures.bind (h_note e j' h) fun _ j' h _ => ensures_pure h nofun
    | ok active =>
      cases active with
      | true => exact ensures_pure h nofun
      | false => exact h_probe h nofun
  · exact h_probe .refl nofun
  · exact h_probe .refl nofun
  · refine h_probe .refl fun probes state h_state => ?_
    split at h_state
    · cases h_state
      rfl
    · cases h_state
  · rename_i h_phase
    exact ensures_pure .refl fun _ _ => .inr (.inl h_phase)
  · rename_i h_phase
    split
    · exact h_probe .refl nofun
    · exact ensures_pure .refl fun _ _ => .inr (.inr h_phase)
  all_goals exact ensures_pure .refl nofun

/-- An answer to a cycle past its probe at most lets it go on to inject. -/
theorem ensures_onRenewDone_parks {q : AwaitingRenew}
    {result : Except HerdrError HerdrJobResult} {clock : Nat → Millis} (j : RenewJournal)
    (h_probe : q.state ≠ .probe) (h_P : q.state = .rotationGet → P q.item.renewId) :
    (onRenewDone config q result nowMs clock).Ensures (j.Stands P)
      (fun next _ => ∀ state, next = some state → ∃ write, state = .injectSend write) j := by
  refine ensures_settling ?_ (fun e j' h =>
    LeavesClears.ensures (p := noteRenewDriveError config (clock 3) e) j j' h) nofun
  cases h_state : q.state with
  | probe => exact absurd h_state h_probe
  | clearingSend write =>
    exact Ensures.bind (LeavesClears.ensures j j .refl) fun _ j' h _ => ensures_pure h nofun
  | rotationGet =>
    refine Ensures.bind (LeavesClears.ensures j j .refl) fun observed j' h _ => ?_
    have h_inject : LeavesClears P (renewInjectDecision q.item nowMs (clock 0) observed) :=
      leavesClears_renewInjectDecision (h_P h_state)
    refine Ensures.bind (h_inject.ensures j j' h) fun write j' h _ => ?_
    refine ensures_pure h fun state h_next => ?_
    obtain ⟨write, -, rfl⟩ := Option.map_eq_some_iff.mp h_next
    exact ⟨write, rfl⟩
  | injectSend write =>
    exact Ensures.bind (LeavesClears.ensures j j .refl) fun _ j' h _ => ensures_pure h nofun
  | confirmGet =>
    refine Ensures.bind (LeavesClears.ensures j j .refl) fun observed j' h _ => ?_
    refine Ensures.bind (LeavesClears.ensures j j' h) fun proven j' h _ => ?_
    cases proven with
    | false => exact ensures_pure h nofun
    | true =>
      exact Ensures.bind (LeavesClears.ensures j j' h) fun _ j' h _ => ensures_pure h nofun

end Handlers

-- ============================================================================
-- The record of a clear
-- ============================================================================

/-- The driver comes as far as the record of a clear, and no further than before the mark of its
    submission: it dies there, or the database fails what is left. -/
def ClearCut (fates : List (Fate StoreError)) : Prop :=
  Fate.Commits fates[0]? ∧ Fate.Commits fates[1]? ∧
    ¬ (Fate.Commits fates[2]? ∧ Fate.Commits fates[3]?)

instance : DecidablePred ClearCut := fun fates => by
  unfold ClearCut
  infer_instance

/-- The renew is ready to clear, on a backend that can be cleared. -/
structure Store.ReadyToClear (s : Store) (item : DueRenew) : Prop where
  renew : ∃ r ∈ s.renews.rows, r.id = item.renewId ∧ r.phase = .ready
  backend : ∃ i ∈ s.incarnations.find item.incarnationId, (clearProtocolFor i.backendKind).isSome

instance (s : Store) : DecidablePred s.ReadyToClear := fun item =>
  decidable_of_iff ((∃ r ∈ s.renews.rows, r.id = item.renewId ∧ r.phase = .ready) ∧
    ∃ i ∈ s.incarnations.find item.incarnationId, (clearProtocolFor i.backendKind).isSome)
    ⟨fun h => ⟨h.1, h.2⟩, fun h => ⟨h.renew, h.backend⟩⟩

/-- The clear of the renew is recorded, and its one attempt is marked submitted. -/
structure RenewJournal.TakesUp (id : RenewId) (j j' : RenewJournal) : Prop where
  log : ∃ nowMs session rotation,
    j'.log = j.log ++ [.records id nowMs session rotation, .submits id .clear nowMs]
  renews : ∀ r' ∈ j'.state.renews, r'.phase.PastClear → r'.id = id ∨
    ∃ r ∈ j.state.renews, r.id = r'.id ∧ r.phase.PastClear
  kept : ∀ id', j.state.renewStepSubmitted id' .clear = true →
    j'.state.renewStepSubmitted id' .clear = true
  submitted : j'.state.renewStepSubmitted id .clear = true
  origin : ∀ a' ∈ j'.state.renewAttempts, (∃ a ∈ j.state.renewAttempts,
    a.requestId = a'.requestId) ∨ a'.requestId = renewClearKey id ∨ NoClearKey a'.requestId

theorem AttemptsStand.submitted {t : Store} (h : AttemptsStand s.renewAttempts t.renewAttempts)
    {step : RenewStep} (h_s : s.renewStepSubmitted id step = true) :
    t.renewStepSubmitted id step = true := by
  obtain ⟨a, h_a, h_renew, h_step, h_phase⟩ := renewStepSubmitted_iff.mp h_s
  obtain ⟨a', h_a', h_renew', h_step', h_sent⟩ := h.kept a h_a
  exact renewStepSubmitted_iff.mpr
    ⟨a', h_a', h_renew'.trans h_renew, h_step'.trans h_step, h_sent h_phase⟩

section Recording

variable {item : DueRenew} {nowMs : Millis} {observed : AgentObservation} {P : RenewId → Prop}

/-- The record of the clear. -/
abbrev clearingRecord (item : DueRenew) (nowMs : Millis) (session : NativeSession)
    (protocol : ClearProtocol) : StoreTx Unit :=
  markRenewClearing item.renewId session (saturatingAdd nowMs clearRotationStallMs)
    (protocol.rotation.injectNotBeforeMs nowMs)

/-- The attempt of the clear. -/
abbrev clearingAttempt (item : DueRenew) (nowMs : Millis) : StoreTx Unit :=
  prepareRenewAttempt item.renewId item.incarnationId .clear (renewClearKey item.renewId) nowMs

/-- The mark of its submission. -/
abbrev clearingSubmission (item : DueRenew) : StoreTx Unit :=
  submitRenewAttempt (renewClearKey item.renewId)

/-- What follows the reading of the backend. -/
def takeUpClear (item : DueRenew) (nowMs : Millis) (session : NativeSession)
    (protocol : ClearProtocol) : RenewProcess RenewClearWrite :=
  commits (clearingRecord item nowMs session protocol)
    (fun _ _ => [.records item.renewId nowMs session protocol.rotation]) >>= fun _ =>
  commits (clearingAttempt item nowMs) >>= fun _ =>
  commits (clearingSubmission item) (fun _ _ => [.submits item.renewId .clear nowMs]) >>= fun _ =>
  Pure.pure { requestId := renewClearKey item.renewId, paneId := item.paneId,
              command := protocol.command }

theorem recordRenewClearing_eq : recordRenewClearing item nowMs observed =
    (commits (query (incarnationBackendKind item.incarnationId)) >>= fun backendKind =>
      match clearProtocolFor backendKind with
      | none => Process.fail (.unsupportedBackend backendKind)
      | some protocol =>
        takeUpClear item nowMs (observed.agentSession.getD .null) protocol) := rfl

/-- The record, the attempt and the mark of a clear. -/
theorem takesUp_of_runs {session : NativeSession} {protocol : ClearProtocol}
    {j₁ j₂ j₃ : RenewJournal} {j : RenewJournal} {u u' u'' : Unit}
    (h_mark : (clearingRecord item nowMs session protocol).run j.state = .ok (u, j₁.state))
    (h_log₁ : j₁.log = j.log ++ [.records item.renewId nowMs session protocol.rotation])
    (h_prepare : (clearingAttempt item nowMs).run j₁.state = .ok (u', j₂.state))
    (h_log₂ : j₂.log = j₁.log ++ [])
    (h_submit : (clearingSubmission item).run j₂.state = .ok (u'', j₃.state))
    (h_log₃ : j₃.log = j₂.log ++ [.submits item.renewId .clear nowMs]) :
    j.TakesUp item.renewId j₃ := by
  obtain ⟨h_moves, -⟩ := markRenewClearing_moves h_mark
  obtain ⟨a, h_a⟩ := prepareRenewAttempt_run h_prepare
  obtain ⟨ts, h_state₂⟩ := h_a.rest
  have h_marked : AttemptsStand j.state.renewAttempts j₁.state.renewAttempts :=
    Keeps.keeps (R := Over Tab.renewAttempts AttemptsStand) h_mark
  have h_submitted : AttemptsStand j₂.state.renewAttempts j₃.state.renewAttempts :=
    Keeps.keeps (R := Over Tab.renewAttempts AttemptsStand) h_submit
  have h_renews : RenewMoves RenewRow.Prepares j₂.state.renews j₃.state.renews :=
    Keeps.keeps (R := Over Tab.renews Preparing) h_submit
  refine ⟨⟨nowMs, session, protocol.rotation, ?_⟩, ?_, ?_, h_a.submitted h_submit, ?_⟩
  · rw [h_log₃, h_log₂, h_log₁, List.append_nil, List.append_assoc, List.singleton_append]
  · intro r' h_r' h_past
    obtain ⟨r₂, h_r₂, h_id₂, h_past₂⟩ :=
      h_renews.noneClears (fun _ _ h_r => h_r.noneClears) r' h_r' h_past
    rw [h_state₂] at h_r₂
    rcases h_moves.origin r₂ h_r₂ with ⟨r, h_r, ⟨-, h_prep⟩ | ⟨h_id, h_clears⟩⟩ | ⟨h_fresh, -⟩
    · obtain ⟨h_id, h_was⟩ := h_prep.noneClears
      exact .inr ⟨r, h_r, h_id.symm.trans h_id₂, h_was h_past₂⟩
    · exact .inl (h_id₂.symm.trans (h_clears.id.trans h_id))
    · obtain ⟨h_clearing, h_injected, -⟩ := h_fresh.before.ne
      exact absurd h_past₂ (not_or.mpr ⟨h_clearing, h_injected⟩)
  · intro id' h_sent
    refine h_submitted.submitted ?_
    obtain ⟨b, h_b, h_sent⟩ := renewStepSubmitted_iff.mp (h_marked.submitted h_sent)
    exact renewStepSubmitted_iff.mpr ⟨b, (h_a.adds.mem b).mpr (.inl h_b), h_sent⟩
  · intro a' h_a'
    rcases h_submitted.origin a' h_a' with ⟨b, h_b, h_key⟩ | h_none
    · rcases (h_a.adds.mem b).mp h_b with h_old | h_last
      · rcases h_marked.origin b h_old with ⟨c, h_c, h_key'⟩ | h_none
        · exact .inl ⟨c, h_c, h_key'.trans h_key⟩
        · exact .inr (.inr (h_key ▸ h_none))
      · obtain rfl := Option.mem_some.mp h_last
        exact .inr (.inl (h_key.symm.trans h_a.requestId))
    · exact .inr (.inr h_none)

/-- A clear is taken up as a whole, or not at all. -/
theorem takeUpClear_cases {session : NativeSession} {protocol : ClearProtocol}
    (fates : List (Fate StoreError)) (j : RenewJournal)
    (h_backend : ∃ i ∈ j.state.incarnations.find item.incarnationId,
      (clearProtocolFor i.backendKind).isSome)
    (h_cut : j.state.ReadyToClear item →
      ¬ (Fate.Commits fates[0]? ∧ ¬ (Fate.Commits fates[1]? ∧ Fate.Commits fates[2]?)))
    (h_new : j.state.ReadyToClear item →
      ∀ a ∈ j.state.renewAttempts.rows, a.requestId ≠ renewClearKey item.renewId) :
    ((∀ write, ((takeUpClear item nowMs session protocol).run fates j).1 ≠ some (.ok write)) ∧
        ((takeUpClear item nowMs session protocol).run fates j).2 = j) ∨
      ∃ write, ((takeUpClear item nowMs session protocol).run fates j).1 = some (.ok write) ∧
        j.TakesUp item.renewId ((takeUpClear item nowMs session protocol).run fates j).2 := by
  have h₀ : fates.head? = fates[0]? := List.head?_eq_getElem?
  have h₁ : fates.tail.head? = fates[1]? := by
    rw [List.head?_eq_getElem?, List.getElem?_tail]
  have h₂ : fates.tail.tail.head? = fates[2]? := by
    rw [List.head?_eq_getElem?, List.getElem?_tail, List.getElem?_tail]
  unfold takeUpClear
  rcases @run_commits_cases _ (clearingRecord item nowMs session protocol)
      (fun _ _ => [.records item.renewId nowMs session protocol.rotation]) fates j with
    ⟨-, h_failed, h_same⟩ | ⟨h_fate₀, h_rest, u, j₁, h_mark, h_log₁, h_run⟩
  · exact .inl ⟨run_bind_not_ok h_failed, (run_bind_of_not_ok h_failed).trans h_same⟩
  obtain ⟨h_moves, r, h_r, h_id, h_phase⟩ := markRenewClearing_moves h_mark
  have h_ready : j.state.ReadyToClear item := ⟨⟨r, h_r, h_id, h_phase⟩, h_backend⟩
  obtain ⟨h_fate₁, h_fate₂⟩ : Fate.Commits fates[1]? ∧ Fate.Commits fates[2]? := by
    by_contra h_not
    exact h_cut h_ready ⟨h₀ ▸ h_fate₀, h_not⟩
  rw [run_bind_ok h_run, h_rest]
  obtain ⟨rs, h_state₁, -⟩ := updateRenew_run h_mark
  obtain ⟨r', h_r', h_move⟩ := h_moves.image r h_r
  have h_found : (j₁.state.renews.find item.renewId).isSome := by
    refine Table.isSome_find.mpr ⟨r', h_r', ?_⟩
    rcases h_move with ⟨-, h_prep⟩ | ⟨-, h_clears⟩
    · exact h_prep.id.trans h_id
    · exact h_clears.id.trans h_id
  have h_commits : (clearingAttempt item nowMs).Commits j₁.state := by
    refine prepareRenewAttempt_commits h_found ?_ ?_
    · rw [h_state₁]
      obtain ⟨i, h_i, -⟩ := h_backend
      exact Option.isSome_of_mem h_i
    · rw [h_state₁]
      exact h_new h_ready
  rcases run_commits_cases (x := clearingAttempt item nowMs) fates.tail j₁ with
    ⟨h_not, -⟩ | ⟨-, h_rest, u', j₂, h_prepare, h_log₂, h_run⟩
  · rw [h₁] at h_not
    exact absurd h_not (not_or.mpr ⟨not_not.mpr h_fate₁, not_not.mpr h_commits⟩)
  rw [run_bind_ok h_run, h_rest]
  obtain ⟨a, h_a⟩ := prepareRenewAttempt_run h_prepare
  rcases @run_commits_cases _ (clearingSubmission item)
      (fun _ _ => [.submits item.renewId .clear nowMs]) fates.tail.tail j₂ with
    ⟨h_not, -⟩ | ⟨-, -, u'', j₃, h_submit, h_log₃, h_run⟩
  · rw [h₂] at h_not
    exact absurd h_not (not_or.mpr ⟨not_not.mpr h_fate₂, not_not.mpr h_a.submits⟩)
  rw [run_bind_ok h_run]
  exact .inr ⟨_, rfl, takesUp_of_runs h_mark h_log₁ h_prepare h_log₂ h_submit h_log₃⟩

/-- A clear is recorded as a whole, or not at all. -/
theorem recordRenewClearing_cases (fates : List (Fate StoreError)) (j : RenewJournal)
    (h_cut : j.state.ReadyToClear item → ¬ ClearCut fates)
    (h_new : j.state.ReadyToClear item →
      ∀ a ∈ j.state.renewAttempts.rows, a.requestId ≠ renewClearKey item.renewId) :
    ((∀ write, ((recordRenewClearing item nowMs observed).run fates j).1 ≠ some (.ok write)) ∧
        j.Stands P ((recordRenewClearing item nowMs observed).run fates j).2) ∨
      ∃ write, ((recordRenewClearing item nowMs observed).run fates j).1 = some (.ok write) ∧
        j.TakesUp item.renewId ((recordRenewClearing item nowMs observed).run fates j).2 := by
  have h_read : LeavesClears P (commits (query (incarnationBackendKind item.incarnationId))) :=
    inferInstance
  rw [recordRenewClearing_eq]
  rcases run_commits_cases (x := query (incarnationBackendKind item.incarnationId)) fates j with
    ⟨-, h_failed, h_same⟩ | ⟨h_fate₀, h_rest, backendKind, j₁, h_backend, h_log₁, h_run⟩
  · refine .inl ⟨run_bind_not_ok h_failed, ?_⟩
    rw [run_bind_of_not_ok h_failed, h_same]
    exact .refl
  obtain ⟨h_found, h_state₁⟩ := run_query_ok.mp h_backend
  have h_same : j₁ = j := by
    cases j₁
    cases j
    simp_all
  subst h_same
  rw [run_bind_ok h_run, h_rest]
  cases h_protocol : clearProtocolFor backendKind with
  | none => exact .inl ⟨nofun, .refl⟩
  | some protocol =>
    have h_backend : ∃ i ∈ j₁.state.incarnations.find item.incarnationId,
        (clearProtocolFor i.backendKind).isSome := by
      unfold incarnationBackendKind at h_found
      split at h_found
      · rename_i i h_i
        cases h_found
        exact ⟨i, h_i, h_protocol ▸ rfl⟩
      · cases h_found
    have h_tail (n : Nat) : fates.tail[n]? = fates[n + 1]? := List.getElem?_tail
    refine (takeUpClear_cases fates.tail j₁ h_backend (fun h_ready h_cut' => ?_) h_new).imp_left ?_
    · rw [h_tail, h_tail, h_tail] at h_cut'
      exact h_cut h_ready ⟨List.head?_eq_getElem? ▸ h_fate₀, h_cut'⟩
    · rintro ⟨h_failed, h_same⟩
      dsimp only
      rw [h_same]
      exact ⟨h_failed, .refl⟩

/-- The answer to a read of an agent shows it. -/
def AgentSeen : Except HerdrError HerdrJobResult → Prop
  | .ok (.agent _) => True
  | _ => False

instance : DecidablePred AgentSeen := fun result => by
  unfold AgentSeen
  split <;> infer_instance

/-- A handler that came to its answer hands it on. -/
theorem run_settling_ok {config : SliceConfig} {now : Millis} {fates : List (Fate StoreError)}
    {p : RenewProcess (Option RenewParkState)} {state : Option RenewParkState}
    {j j' : RenewJournal} (h : p.run fates j = (some (.ok state), j')) :
    (settling config now p).run fates j = (some (.ok state), j') := by
  have h_result : (p.result : RenewProcess _).run fates j = (some (.ok (.ok state)), j') := by
    rw [run_result, h]
    rfl
  unfold settling
  rw [run_bind_ok h_result]
  rfl

/-- A handler that did not leaves its cycle behind. -/
theorem run_settling_not_ok {config : SliceConfig} {now : Millis}
    {fates : List (Fate StoreError)} {p : RenewProcess (Option RenewParkState)} {j : RenewJournal}
    (h : ∀ state, (p.run fates j).1 ≠ some (.ok state)) :
    (∀ state, ((settling config now p).run fates j).1 ≠ some (.ok (some state))) ∧
      (p.run fates j).2.Stands P ((settling config now p).run fates j).2 := by
  unfold settling
  cases h_run : p.run fates j with | mk ended j' =>
  rw [h_run] at h
  have h_result : (p.result : RenewProcess _).run fates j = (ended.map .ok, j') := by
    rw [run_result, h_run]
  cases ended with
  | none =>
    have h_dead (r : Except SliceError (Option RenewParkState)) :
        ((p.result : RenewProcess _).run fates j).1 ≠ some (.ok r) := by
      rw [h_result]
      nofun
    refine ⟨fun state => run_bind_not_ok h_dead _, ?_⟩
    rw [run_bind_of_not_ok h_dead, h_result]
    exact .refl
  | some answer =>
    cases answer with
    | ok state => exact absurd rfl (h state)
    | error e =>
      rw [run_bind_ok h_result]
      have h_note : Ensures (do
          if ¬ e.RenewDriveSkips then noteRenewDriveError config now e
          Pure.pure none : RenewProcess (Option RenewParkState))
          (j'.Stands P) (fun next _ => next = none) j' := by
        split
        · exact Ensures.bind (LeavesClears.ensures j' j' .refl) fun _ j h _ => ensures_pure h rfl
        · exact ensures_pure .refl rfl
      obtain ⟨h_stands, h_none⟩ := h_note.run (p.result.rest fates j)
      refine ⟨fun state h_state => ?_, h_stands⟩
      cases h_none _ h_state

/-- The answer to a probe: the cycle goes on to send its clear once that is taken up. -/
theorem onRenewDone_probe_cases {config : SliceConfig} {q : AwaitingRenew}
    {result : Except HerdrError HerdrJobResult} {clock : Nat → Millis}
    (fates : List (Fate StoreError)) (j : RenewJournal) (h_probe : q.state = .probe)
    (h_cut : AgentSeen result → j.state.ReadyToClear q.item → ¬ ClearCut fates)
    (h_new : j.state.ReadyToClear q.item →
      ∀ a ∈ j.state.renewAttempts.rows, a.requestId ≠ renewClearKey q.item.renewId) :
    ((∀ state, ((onRenewDone config q result nowMs clock).run fates j).1 ≠
          some (.ok (some state))) ∧
        j.Stands P ((onRenewDone config q result nowMs clock).run fates j).2) ∨
      ∃ write, ((onRenewDone config q result nowMs clock).run fates j).1 =
          some (.ok (some (.clearingSend write))) ∧
        j.TakesUp q.item.renewId ((onRenewDone config q result nowMs clock).run fates j).2 := by
  have h_failed {p : RenewProcess (Option RenewParkState)}
      (h_not : ∀ state, (p.run fates j).1 ≠ some (.ok state)) (h_j : j.Stands P (p.run fates j).2) :
      (∀ state, ((settling config (clock 3) p).run fates j).1 ≠ some (.ok (some state))) ∧
        j.Stands P ((settling config (clock 3) p).run fates j).2 := by
    obtain ⟨h_none, h_stands⟩ := run_settling_not_ok (P := P) h_not
    exact ⟨h_none, h_j.trans h_stands⟩
  unfold onRenewDone
  rw [h_probe]
  dsimp only
  cases h_agent : agentResult "probe" result with
  | error e => exact .inl (h_failed nofun .refl)
  | ok observed =>
    have h_seen : AgentSeen result := by
      unfold agentResult at h_agent
      split at h_agent
      · exact trivial
      · cases h_agent
      · cases h_agent
    rcases @recordRenewClearing_cases q.item nowMs observed P fates j (h_cut h_seen) h_new with
      ⟨h_not, h_stands⟩ | ⟨write, h_write, h_takes⟩
    · refine .inl (h_failed (fun state => run_bind_not_ok h_not _) ?_)
      show j.Stands P ((recordRenewClearing q.item nowMs observed >>= _).run fates j).2
      rw [run_bind_of_not_ok h_not]
      exact h_stands
    · refine .inr ⟨write, ?_⟩
      have h_run : (recordRenewClearing q.item nowMs observed).run fates j =
          (some (.ok write), _) := Prod.ext h_write rfl
      have h_all : (do
          let observed ← Process.ofExcept (.ok observed : Except SliceError AgentObservation)
          let write ← recordRenewClearing q.item nowMs observed
          Pure.pure (some (RenewParkState.clearingSend write)) : RenewProcess _).run fates j =
          (some (.ok (some (.clearingSend write))), _) := run_bind_ok h_run
      rw [run_settling_ok h_all]
      exact ⟨rfl, h_takes⟩

end Recording

-- ============================================================================
-- Clears on their way
-- ============================================================================

/-- The clear of the cycle is recorded, and waits for its connection. -/
def AwaitingRenew.ClearWaits (q : AwaitingRenew) : Prop :=
  q.state.sending = some .clear ∧ q.lease = none

instance : DecidablePred AwaitingRenew.ClearWaits := fun q => by
  unfold AwaitingRenew.ClearWaits
  infer_instance

/-- The clear of the renew was sent, or there is no renew that it stands for. -/
def RenewJournal.ClearOut (j : RenewJournal) (id : RenewId) : Prop :=
  .sends id .clear ∈ j.log ∨ ∀ r ∈ j.state.renews, r.id = id → ¬ r.phase.PastClear

/-- The journal and the attempts know of every recorded clear that it was marked submitted, and
    that it is out, or `waits`. -/
structure RenewJournal.SeesOut (waits : RenewId → Prop) (j : RenewJournal) : Prop where
  recorded : ∀ id time session rotation, RecordsClear j.log id time session rotation →
    j.state.renewStepSubmitted id .clear = true ∧ (j.ClearOut id ∨ waits id)
  attempts : ∀ a ∈ j.state.renewAttempts, ∀ id, a.requestId = renewClearKey id →
    ∃ time session rotation, RecordsClear j.log id time session rotation
  resumed : Preceded (fun before act => ∀ id nowMs, act = .submits id .inject nowMs →
    .sends id .clear ∈ before) j.log

section Journals

variable {waits waits' P : RenewId → Prop} {j j' : RenewJournal}

theorem RenewJournal.ClearOut.stands {id : RenewId} (h : j.ClearOut id) (h_j' : j.Stands P j') :
    j'.ClearOut id := by
  refine h.imp h_j'.mem fun h_over r' h_r' h_id h_past => ?_
  obtain ⟨r, h_r, h_same, h_past⟩ := h_j'.store.renews r' h_r' h_past
  exact h_over r h_r (h_same.trans h_id) h_past

theorem RenewJournal.SeesOut.rewaits (h : j.SeesOut waits)
    (h_waits : ∀ id, waits id → j.ClearOut id ∨ waits' id) : j.SeesOut waits' where
  recorded id time session rotation h_rec := by
    obtain ⟨h_submitted, h_out⟩ := h.recorded id time session rotation h_rec
    exact ⟨h_submitted, h_out.elim .inl (h_waits id)⟩
  attempts := h.attempts
  resumed := h.resumed

/-- What records no clear leaves it so. -/
theorem RenewJournal.SeesOut.stands (h : j.SeesOut waits) (h_j' : j.Stands P j')
    (h_P : ∀ id, P id → .sends id .clear ∈ j.log) : j'.SeesOut waits := by
  obtain ⟨acts, h_log, h_acts⟩ := h_j'.extend
  constructor
  · intro id time session rotation h_rec
    rw [h_log] at h_rec
    rcases List.mem_append.mp h_rec with h_rec | h_rec
    · obtain ⟨h_submitted, h_out⟩ := h.recorded id time session rotation h_rec
      exact ⟨h_j'.store.attempts.submitted h_submitted, h_out.imp_left (·.stands h_j')⟩
    · exact (h_acts _ h_rec).elim
  · intro a' h_a' id h_key
    rcases h_j'.store.attempts.origin a' h_a' with ⟨a, h_a, h_same⟩ | h_none
    · obtain ⟨time, session, rotation, h_rec⟩ := h.attempts a h_a id (h_same.trans h_key)
      rw [h_log]
      exact ⟨time, session, rotation, h_rec.append acts⟩
    · exact absurd h_key (h_none id)
  · rw [h_log]
    refine h.resumed.append fun pre act post h_eq id nowMs h_act => ?_
    subst h_act
    have h_allowed := h_acts _ (h_eq ▸ List.mem_append_right pre List.mem_cons_self)
    exact List.mem_append_left pre (h_P id h_allowed)

/-- A clear that is taken up waits. -/
theorem RenewJournal.SeesOut.takesUp {id : RenewId} (h : j.SeesOut waits)
    (h_j' : j.TakesUp id j') (h_waits : ∀ id', waits id' → waits' id') (h_id : waits' id) :
    j'.SeesOut waits' := by
  obtain ⟨nowMs, session, rotation, h_log⟩ := h_j'.log
  constructor
  · intro id' time session' rotation' h_rec
    by_cases h_same : id' = id
    · exact ⟨h_same ▸ h_j'.submitted, .inr (h_same ▸ h_id)⟩
    · rw [h_log] at h_rec
      rcases List.mem_append.mp h_rec with h_rec | h_rec
      · obtain ⟨h_submitted, h_out⟩ := h.recorded id' time session' rotation' h_rec
        refine ⟨h_j'.kept id' h_submitted, h_out.imp (fun h_out => ?_) (h_waits id')⟩
        refine h_out.imp (fun h_sent => h_log ▸ List.mem_append_left _ h_sent)
          fun h_over r' h_r' h_r'_id h_past => ?_
        rcases h_j'.renews r' h_r' h_past with h_this | ⟨r, h_r, h_r_id, h_past⟩
        · exact h_same (h_r'_id.symm.trans h_this)
        · exact h_over r h_r (h_r_id.trans h_r'_id) h_past
      · rcases List.mem_cons.mp h_rec with h_eq | h_rest
        · cases h_eq
          exact absurd rfl h_same
        · cases List.mem_singleton.mp h_rest
  · intro a' h_a' id' h_key
    rw [h_log]
    rcases h_j'.origin a' h_a' with ⟨a, h_a, h_same⟩ | h_this | h_none
    · obtain ⟨time, session', rotation', h_rec⟩ := h.attempts a h_a id' (h_same.trans h_key)
      exact ⟨time, session', rotation', h_rec.append _⟩
    · obtain rfl := renewClearKey_inj (h_this.symm.trans h_key)
      exact ⟨nowMs, session, rotation, List.mem_append_right _ List.mem_cons_self⟩
    · exact absurd h_key (h_none id')
  · rw [h_log]
    refine h.resumed.append fun pre act post h_eq id' nowMs' h_act => ?_
    subst h_act
    have h_mem : .submits id' .inject nowMs' ∈
        [RenewAct.records id nowMs session rotation, .submits id .clear nowMs] :=
      h_eq ▸ List.mem_append_right pre List.mem_cons_self
    simp at h_mem

/-- A command that is sent. -/
theorem RenewJournal.SeesOut.sends {id : RenewId} {step : RenewStep} (h : j.SeesOut waits) :
    RenewJournal.SeesOut waits { j with log := j.log ++ [.sends id step] } where
  recorded id' time session rotation h_rec := by
    rcases List.mem_append.mp h_rec with h_rec | h_rec
    · obtain ⟨h_submitted, h_out⟩ := h.recorded id' time session rotation h_rec
      exact ⟨h_submitted, h_out.imp_left (·.imp_left (List.mem_append_left _))⟩
    · cases List.mem_singleton.mp h_rec
  attempts a h_a id' h_key := by
    obtain ⟨time, session, rotation, h_rec⟩ := h.attempts a h_a id' h_key
    exact ⟨time, session, rotation, h_rec.append _⟩
  resumed := h.resumed.concat nofun

end Journals

-- ============================================================================
-- Steps of the daemon
-- ============================================================================

namespace RenewWorld

variable {config : SliceConfig} {w w' : RenewWorld} {P : RenewId → Prop} {j : RenewJournal}
  {q r r' : AwaitingRenew}

/-- A cycle of the renew waits with its clear. -/
def ClearWaits (w : RenewWorld) (id : RenewId) : Prop :=
  ∃ q ∈ w.awaiting, q.item.renewId = id ∧ q.ClearWaits

/-- The clear of the cycle waits, and its renew goes on. -/
def Clearing (w : RenewWorld) (q : AwaitingRenew) : Prop :=
  q.ClearWaits ∧ ∃ r ∈ w.journal.state.renews.rows, r.id = q.item.renewId ∧ r.phase = .clearing

instance (w : RenewWorld) : DecidablePred w.Clearing := fun q =>
  inferInstanceAs (Decidable (q.ClearWaits ∧
    ∃ r ∈ w.journal.state.renews.rows, r.id = q.item.renewId ∧ r.phase = .clearing))

/-- The clears are seen out, as far as the memory of the daemon tells. -/
structure SeesOut (w : RenewWorld) : Prop where
  journal : w.journal.SeesOut w.ClearWaits
  due : ∀ item ∈ w.due, item.phase.PastClear →
    .sends item.renewId .clear ∈ w.journal.log ∨ w.ClearWaits item.renewId
  parked : ∀ q ∈ w.awaiting, q.state = .rotationGet → .sends q.item.renewId .clear ∈ w.journal.log

theorem SeesOut.empty : SeesOut {} where
  journal :=
    { recorded := fun _ _ _ _ h => absurd h List.not_mem_nil
      attempts := fun _ h => absurd h Table.notMem_empty
      resumed := .nil }
  due _ h := absurd h List.not_mem_nil
  parked _ h := absurd h List.not_mem_nil

/-- A renew has injected only after its clear was sent. -/
theorem SeesOut.sent_of_injected (h : w.SeesOut) (h_order : w.Ordered) {r : RenewRow}
    (h_r : r ∈ w.journal.state.renews) (h_phase : r.phase = .injected) :
    .sends r.id .clear ∈ w.journal.log := by
  obtain ⟨nowMs, h_submits⟩ := h_order.agree.resumed r h_r h_phase
  obtain ⟨pre, post, h_log, h_before⟩ := h.journal.resumed.of_mem h_submits
  rw [h_log]
  exact List.mem_append_left _ (h_before r.id nowMs rfl)

/-- A clear may be dropped once its renew is over. -/
theorem SeesOut.dropped (h : w.SeesOut) (h_order : w.Ordered) (h_q : ¬ w.Clearing q)
    (h_waits : q.ClearWaits) : w.journal.ClearOut q.item.renewId := by
  refine or_iff_not_imp_left.mpr fun h_unsent r h_r h_id h_past => ?_
  rcases h_past with h_clearing | h_injected
  · exact h_q ⟨h_waits, r, h_r, h_id, h_clearing⟩
  · exact h_unsent (h_id ▸ h.sent_of_injected h_order h_r h_injected)

/-- A handler that records no clear. -/
theorem SeesOut.stands (h : w.SeesOut) (h_j : w.journal.Stands P j)
    (h_P : ∀ id, P id → .sends id .clear ∈ w.journal.log) :
    SeesOut { w with journal := j } where
  journal := h.journal.stands h_j h_P
  due item h_item h_past := (h.due item h_item h_past).imp_left h_j.mem
  parked q h_q h_state := h_j.mem (h.parked q h_q h_state)

/-- The daemon loses its memory while no clear waits. -/
theorem SeesOut.restart (h : w.SeesOut) (h_order : w.Ordered)
    (h_idle : ∀ q ∈ w.awaiting, ¬ w.Clearing q) (h_j : w.journal.Stands P j)
    (h_P : ∀ id, P id → .sends id .clear ∈ w.journal.log) : (w.restart j).SeesOut where
  journal := by
    refine RenewJournal.SeesOut.stands (h.journal.rewaits fun id h_waits => ?_) h_j h_P
    obtain ⟨q, h_q, rfl, h_q_waits⟩ := h_waits
    exact .inl (h.dropped h_order (h_idle q h_q) h_q_waits)
  due _ h := absurd h List.not_mem_nil
  parked _ h := absurd h List.not_mem_nil

theorem SeesOut.unpark (h : w.SeesOut) (h_due : w.due = [])
    (h_r : r.ClearWaits → w.journal.ClearOut r.item.renewId) : (w.unpark r).SeesOut where
  journal := by
    refine h.journal.rewaits fun id h_waits => ?_
    obtain ⟨q, h_q, rfl, h_q_waits⟩ := h_waits
    by_cases h_this : q = r
    · subst h_this
      exact .inl (h_r h_q_waits)
    · exact .inr ⟨q, (List.mem_erase_of_ne h_this).mpr h_q, rfl, h_q_waits⟩
  due item h_item := absurd h_item (h_due ▸ List.not_mem_nil)
  parked q h_q := h.parked q (List.mem_of_mem_erase h_q)

theorem mem_replace (h_q : q ∈ (w.replace r r').awaiting) : q = r' ∨ q ∈ w.awaiting := by
  obtain ⟨p, h_p, rfl⟩ := List.mem_map.mp h_q
  split
  · exact .inl rfl
  · exact .inr h_p

/-- A parked cycle goes on to wait for something else. -/
theorem SeesOut.replace (h : w.SeesOut) (h_due : w.due = []) (h_item : r'.item = r.item)
    (h_r : r.ClearWaits → w.journal.ClearOut r.item.renewId ∨ r'.ClearWaits)
    (h_r' : r'.state = .rotationGet → .sends r'.item.renewId .clear ∈ w.journal.log) :
    (w.replace r r').SeesOut where
  journal := by
    refine h.journal.rewaits fun id h_waits => ?_
    obtain ⟨q, h_q, rfl, h_q_waits⟩ := h_waits
    by_cases h_this : q = r
    · subst h_this
      refine (h_r h_q_waits).imp_right fun h_r'_waits => ?_
      exact ⟨r', List.mem_map.mpr ⟨q, h_q, if_pos rfl⟩, by rw [h_item], h_r'_waits⟩
    · exact .inr ⟨q, List.mem_map.mpr ⟨q, h_q, if_neg h_this⟩, rfl, h_q_waits⟩
  due item h_item' := absurd h_item' (h_due ▸ List.not_mem_nil)
  parked q h_q h_state := by
    rcases mem_replace h_q with rfl | h_q
    · exact h_r' h_state
    · exact h.parked q h_q h_state

theorem SeesOut.submitJob (h : w.SeesOut) (h_due : w.due = [])
    (h_r : r.state = .rotationGet → .sends r.item.renewId .clear ∈ w.journal.log) :
    (w.submitJob r).SeesOut := by
  have h_replace : (w.replace r { r with herdrJob := some w.nextHerdrJob }).SeesOut :=
    h.replace h_due rfl .inr h_r
  exact ⟨h_replace.journal, h_replace.due, h_replace.parked⟩

theorem SeesOut.advanceAwaiting (h : w.SeesOut) (h_due : w.due = []) :
    w.advanceAwaiting.SeesOut := by
  unfold RenewWorld.advanceAwaiting
  have h_all : ∀ r ∈ w.awaiting.filter (·.herdrJob = none), r.state = .rotationGet →
      .sends r.item.renewId .clear ∈ w.journal.log :=
    fun r h_r => h.parked r (List.mem_of_mem_filter h_r)
  generalize w.awaiting.filter (·.herdrJob = none) = rs at h_all
  induction rs generalizing w with
  | nil => exact h
  | cons r rs ih =>
    refine ih (h.submitJob h_due (h_all r List.mem_cons_self)) h_due fun q h_q => ?_
    exact h_all q (List.mem_cons_of_mem r h_q)

theorem SeesOut.sends (h : w.SeesOut) (id : RenewId) (step : RenewStep) :
    SeesOut { w with journal := { w.journal with log := w.journal.log ++ [.sends id step] } } where
  journal := h.journal.sends
  due item h_item h_past := (h.due item h_item h_past).imp_left (List.mem_append_left _)
  parked q h_q h_state := List.mem_append_left _ (h.parked q h_q h_state)

/-- A connection opens, and what waits on it is sent, unless it is the clear of a renew that is
    over. -/
theorem SeesOut.opened (h : w.SeesOut) (h_order : w.Ordered) (h_due : w.due = [])
    {step : RenewStep} (h_step : r.state.sending = some step) {lease : LeaseSending}
    (h_lease : w.Clearing r → lease = .taken) : (w.opened r step lease).SeesOut := by
  have h_drop (h_not : lease ≠ .taken) (h_waits : r.ClearWaits) :=
    h.dropped h_order (fun h_r => h_not (h_lease h_r)) h_waits
  have h_read : r.state ≠ .rotationGet := fun h_state => by
    rw [h_state] at h_step
    cases h_step
  cases lease with
  | closed => exact h.unpark h_due (h_drop nofun)
  | lost => exact h.replace h_due rfl (fun h_waits => .inl (h_drop nofun h_waits)) (absurd · h_read)
  | taken =>
    refine (h.sends r.item.renewId step).replace h_due rfl ?_ (absurd · h_read)
    rintro ⟨h_clear, -⟩
    cases h_step.symm.trans h_clear
    exact .inl (.inl (List.mem_append_right _ List.mem_cons_self))

/-- A call of another part of the daemon. -/
theorem SeesOut.call (h : w.SeesOut) {c : Call} (h_c : ¬ c.DrivesRenew) {s' : Store}
    (h_commit : c.Step w.journal.state s') :
    SeesOut { w with journal :=
      { state := s', log := w.journal.log ++ c.renewActs w.journal.state } } := by
  refine h.stands (P := fun _ => False) ⟨⟨_, rfl, fun act h_act => ?_⟩, c.clearsStand h_c h_commit⟩
    fun _ => False.elim
  unfold Call.renewActs at h_act
  split at h_act
  · obtain ⟨r, -, rfl⟩ := Option.map_eq_some_iff.mp (Option.mem_toList.mp h_act)
    exact trivial
  · cases h_act

/-- A pass reads the phases of the renews. -/
theorem ensures_beginRenewPass_rows {nowMs : Millis} {clock : Nat → Millis} :
    (beginRenewPass config nowMs clock).Ensures (j.Stands P) (fun items j' =>
      ∀ item ∈ items, ∃ r ∈ j'.state.renews, r.id = item.renewId ∧ r.phase = item.phase) j := by
  have h_items : Process.Ensures (do
      terminateEndedRenews clock
      commits (query (actionableRenews nowMs)))
      (j.Stands P) (fun items j' => ∀ item ∈ items, ∃ r ∈ j'.state.renews,
        r.id = item.renewId ∧ r.phase = item.phase) j := by
    refine Ensures.bind (LeavesClears.ensures j j .refl) fun _ j₁ h _ => ?_
    refine ensures_tx h fun items j₂ h_run => ?_
    obtain ⟨h_read, h_log⟩ := run_noting_ok.mp h_run
    obtain ⟨h_query, h_state⟩ : actionableRenews nowMs j₁.state = .ok items ∧
        j₂.state = j₁.state := run_query_ok.mp h_read
    refine ⟨?_, fun item h_item => ?_⟩
    · refine h.trans ⟨⟨_, h_log, fun _ h => absurd h List.not_mem_nil⟩, ?_⟩
      rw [h_state]
      exact Stepwise.refl _
    · obtain ⟨r, h_r, h_id, h_phase, -⟩ := row_of_actionableRenews h_query item h_item
      rw [h_state]
      exact ⟨r, h_r, h_id, h_phase⟩
  refine Ensures.bind h_items.result fun items j₁ h h_Q => ?_
  cases items with
  | ok items => exact ensures_pure h (h_Q items rfl)
  | error e =>
    refine Ensures.bind (LeavesClears.ensures j j₁ h) fun _ j₂ h _ => ?_
    exact ensures_pure h fun _ h_mem => absurd h_mem List.not_mem_nil

theorem SeesOut.pass (h : w.SeesOut) (h_order : w.Ordered) (h_next : w'.Ordered) {nowMs : Millis}
    {clock : Nat → Millis} {fates : List (Fate StoreError)}
    (h_idle : .crash ∈ fates → ∀ q ∈ w.awaiting, ¬ w.Clearing q)
    (h_step : StepOf (RenewWorld.next config) (.pass nowMs clock fates) w w') : w'.SeesOut := by
  have h_none (id : RenewId) : False → .sends id .clear ∈ w.journal.log := False.elim
  obtain ⟨h_due, h_step⟩ := guard_bind_eq_some.mp h_step
  have h_pass : (beginRenewPass config nowMs clock).Ensures _ _ w.journal :=
    ensures_beginRenewPass_rows (P := fun _ => False)
  obtain ⟨h_j, h_Q⟩ := h_pass.run fates
  split at h_step <;> rename_i h_run <;> rw [h_run] at h_j h_Q <;> cases h_step
  · exact h.restart h_order (h_idle (crash_of_run (by rw [h_run]))) h_j h_none
  · have h_w := h.stands h_j h_none
    refine ⟨h_w.journal, fun item h_item h_past => ?_, h_w.parked⟩
    obtain ⟨r, h_r, h_id, h_phase⟩ := h_Q _ rfl item h_item
    have h_past : r.phase.PastClear := h_phase ▸ h_past
    obtain ⟨time, session, rotation, h_rec⟩ :=
      h_next.agree.records r h_r (h_next.agree.cleared r h_r h_past)
    obtain ⟨-, (h_sent | h_over) | h_waits⟩ := h_w.journal.recorded _ _ _ _ h_rec
    · exact .inl (h_id ▸ h_sent)
    · exact absurd h_past (h_over r h_r rfl)
    · exact .inr (h_id ▸ h_waits)
  · exact h.stands h_j h_none

theorem SeesOut.drive (h : w.SeesOut) (h_order : w.Ordered) {item : DueRenew}
    {rest : List DueRenew} (h_due : w.due = item :: rest) {clock : Nat → Millis}
    {fates : List (Fate StoreError)}
    (h_idle : .crash ∈ fates → ∀ q ∈ w.awaiting, ¬ w.Clearing q) :
    (w.drive config item rest clock fates).SeesOut := by
  have h_none (id : RenewId) : False → .sends id .clear ∈ w.journal.log := False.elim
  have h_rest : SeesOut { w with due := rest } :=
    ⟨h.journal, fun q h_q => h.due q (h_due ▸ List.mem_cons_of_mem item h_q), h.parked⟩
  have h_stop : SeesOut { w with due := [] } :=
    ⟨h.journal, fun _ h_mem => absurd h_mem List.not_mem_nil, h.parked⟩
  have h_drive : (driveRenew config item w.passNowMs clock).Ensures _ _ w.journal :=
    ensures_driveRenew_parks (P := fun _ => False) w.journal
  obtain ⟨h_j, h_Q⟩ := h_drive.run fates
  unfold RenewWorld.drive
  split
  · exact h_rest
  · rename_i h_flight
    split <;> rename_i h_run <;> rw [h_run] at h_j h_Q
    · exact h.restart h_order (h_idle (crash_of_run (by rw [h_run]))) h_j h_none
    · exact h_rest.stands h_j h_none
    · rename_i state journal
      have h_w := h_rest.stands h_j h_none
      refine ⟨h_w.journal.rewaits fun id h_waits => ?_, fun q h_q h_past => ?_,
        fun q h_q h_state => ?_⟩
      · obtain ⟨q, h_q, h_waits⟩ := h_waits
        exact .inr ⟨q, List.mem_append_left _ h_q, h_waits⟩
      · refine (h_w.due q h_q h_past).imp_right ?_
        rintro ⟨q, h_q, h_waits⟩
        exact ⟨q, List.mem_append_left _ h_q, h_waits⟩
      · rcases List.mem_append.mp h_q with h_q | h_q
        · exact h_w.parked q h_q h_state
        · obtain rfl := List.mem_singleton.mp h_q
          rcases h_Q _ rfl state rfl with h_probe | h_past
          · rw [h_probe] at h_state
            cases h_state
          · rcases h.due item (h_due ▸ List.mem_cons_self) h_past with h_sent | h_waits
            · exact h_j.mem h_sent
            · obtain ⟨q, h_q, h_id, -⟩ := h_waits
              exact absurd ⟨q, h_q, h_id⟩ h_flight
    · exact h_stop.stands h_j h_none
    · exact h_stop.stands h_j h_none

theorem stands_observing {result : Except HerdrError HerdrJobResult} :
    w.journal.Stands P (w.observing q result) := by
  unfold RenewWorld.observing
  split
  · refine ⟨⟨_, rfl, fun act h_act => ?_⟩, Stepwise.refl _⟩
    rw [List.mem_singleton.mp h_act]
    exact trivial
  · exact .refl

/-- A probe is answered, and the clear of its renew taken up. -/
theorem SeesOut.takesUp (h : w.SeesOut) (h_due : w.due = []) (h_q : q ∈ w.awaiting)
    (h_waits : ¬ q.ClearWaits) {result : Except HerdrError HerdrJobResult} {nowMs : Millis}
    {clock : Nat → Millis} {fates : List (Fate StoreError)} {write : RenewClearWrite}
    (h_seen : w.journal.Stands (fun id => .sends id .clear ∈ w.journal.log) (w.observing q result))
    (h_ok : ((onRenewDone config q result nowMs clock).run fates (w.observing q result)).1 =
      some (.ok (some (.clearingSend write))))
    (h_takes : (w.observing q result).TakesUp q.item.renewId
      ((onRenewDone config q result nowMs clock).run fates (w.observing q result)).2) :
    (w.done config q result nowMs clock fates).SeesOut := by
  unfold RenewWorld.done
  cases h_run : (onRenewDone config q result nowMs clock).run fates (w.observing q result) with
  | mk ended j =>
    rw [h_run] at h_ok h_takes
    cases h_ok
    obtain ⟨time, session, rotation, h_log⟩ := h_takes.log
    refine SeesOut.submitJob ⟨?_, fun item h_item => ?_, fun p h_p h_state => ?_⟩ h_due nofun
    · refine (h.journal.stands h_seen fun _ h_P => h_P).takesUp h_takes ?_ ?_
      · rintro id ⟨p, h_p, h_id, h_p_waits⟩
        have h_other : p ≠ q := fun h_this => h_waits (h_this ▸ h_p_waits)
        exact ⟨p, List.mem_map.mpr ⟨p, h_p, if_neg h_other⟩, h_id, h_p_waits⟩
      · exact ⟨_, List.mem_map.mpr ⟨q, h_q, if_pos rfl⟩, rfl, rfl, rfl⟩
    · exact absurd h_item (h_due ▸ List.not_mem_nil)
    · rcases mem_replace h_p with rfl | h_p
      · cases h_state
      · rw [h_log]
        exact List.mem_append_left _ (h_seen.mem (h.parked p h_p h_state))

/-- The answer to a probe comes while its renew has no attempt of a clear yet. -/
theorem SeesOut.unattempted (h : w.SeesOut) (h_order : w.Ordered) {item : DueRenew}
    (h_ready : w.journal.state.ReadyToClear item) :
    ∀ a ∈ w.journal.state.renewAttempts.rows, a.requestId ≠ renewClearKey item.renewId := by
  intro a h_a h_key
  obtain ⟨time, session, rotation, h_rec⟩ := h.journal.attempts a h_a item.renewId h_key
  obtain ⟨r, h_r, h_id, h_recorded⟩ := h_order.agree.recorded _ _ _ _ h_rec
  obtain ⟨r', h_r', h_r'_id, h_phase⟩ := h_ready.renew
  obtain rfl := Table.eq_of_key h_r h_r' (h_id.trans h_r'_id.symm)
  have h_none := h_order.agree.before r h_r (h_phase ▸ by decide)
  rw [h_recorded.session] at h_none
  cases h_none

/-- An answer moves its cycle on, or ends the wait for it. -/
theorem SeesOut.done (h : w.SeesOut) (h_order : w.Ordered) (h_due : w.due = [])
    (h_q : q ∈ w.awaiting) (h_open : q.state.sending = none ∨ q.lease = some .taken)
    {result : Except HerdrError HerdrJobResult} {nowMs : Millis} {clock : Nat → Millis}
    {fates : List (Fate StoreError)}
    (h_idle : .crash ∈ fates → ∀ q ∈ w.awaiting, ¬ w.Clearing q)
    (h_cut : q.state = .probe → AgentSeen result → w.journal.state.ReadyToClear q.item →
      ¬ ClearCut fates) :
    (w.done config q result nowMs clock fates).SeesOut := by
  have h_waits : ¬ q.ClearWaits := by
    rintro ⟨h_clear, h_lease⟩
    rcases h_open with h_none | h_taken
    · rw [h_clear] at h_none
      cases h_none
    · rw [h_lease] at h_taken
      cases h_taken
  have h_seen : w.journal.Stands (fun id => .sends id .clear ∈ w.journal.log)
      (w.observing q result) := stands_observing
  have h_state := w.observing_state q result
  -- Where no clear is taken up, the cycle goes on to inject or is left.
  have h_left (h_j : w.journal.Stands (fun id => .sends id .clear ∈ w.journal.log)
      ((onRenewDone config q result nowMs clock).run fates (w.observing q result)).2)
      (h_next : ∀ state, ((onRenewDone config q result nowMs clock).run fates
        (w.observing q result)).1 = some (.ok (some state)) → ∃ write, state = .injectSend write) :
      (w.done config q result nowMs clock fates).SeesOut := by
    unfold RenewWorld.done
    split <;> rename_i h_run <;> rw [h_run] at h_j h_next
    · exact h.restart h_order (h_idle (crash_of_run (by rw [h_run]))) h_j fun _ h_P => h_P
    · rename_i state journal
      obtain ⟨write, rfl⟩ := h_next _ rfl
      have h_w := h.stands h_j fun _ h_P => h_P
      have h_moved : (RenewWorld.replace { w with journal } q
          { item := q.item, state := .injectSend write }).SeesOut :=
        h_w.replace h_due rfl (absurd · h_waits) nofun
      exact SeesOut.submitJob h_moved h_due nofun
    · exact (h.stands h_j fun _ h_P => h_P).unpark h_due (absurd · h_waits)
    · exact (h.stands h_j fun _ h_P => h_P).unpark h_due (absurd · h_waits)
  by_cases h_probe : q.state = .probe
  · have h_cut := h_cut h_probe
    have h_new := @SeesOut.unattempted w h h_order q.item
    rw [← h_state] at h_cut h_new
    rcases onRenewDone_probe_cases (P := fun id => .sends id .clear ∈ w.journal.log) fates
        (w.observing q result) h_probe h_cut h_new with ⟨h_not, h_stands⟩ | ⟨write, h_ok, h_takes⟩
    · exact h_left (h_seen.trans h_stands) fun state h_some => absurd h_some (h_not state)
    · exact h.takesUp h_due h_q h_waits h_seen h_ok h_takes
  · have h_next : (onRenewDone config q result nowMs clock).Ensures _ _ (w.observing q result) :=
      ensures_onRenewDone_parks (P := fun id => .sends id .clear ∈ w.journal.log) _ h_probe
        (h.parked q h_q)
    obtain ⟨h_j, h_Q⟩ := h_next.run fates
    exact h_left (h_seen.trans h_j) fun state h_some => h_Q _ h_some state rfl

end RenewWorld

-- ============================================================================
-- Runs
-- ============================================================================

/-- No clear comes to nothing between its record and its connection: a probe that is answered
    takes it up as a whole, and while it waits its connection opens and its command is taken, and
    the daemon lives on. -/
def RenewLabel.LetsClearsOut (label : RenewLabel) (w : RenewWorld) : Prop :=
  match label with
  | .call _ | .advance => True
  | .pass _ _ fates | .drive _ fates => .crash ∈ fates → ∀ q ∈ w.awaiting, ¬ w.Clearing q
  | .opened jobId lease => ∀ q ∈ w.parked jobId, w.Clearing q → lease = .taken
  | .done jobId result _ _ fates => (.crash ∈ fates → ∀ q ∈ w.awaiting, ¬ w.Clearing q) ∧
      ∀ q ∈ w.parked jobId, q.state = .probe → AgentSeen result →
        w.journal.state.ReadyToClear q.item → ¬ ClearCut fates
  | .failed jobId => ∀ q ∈ w.parked jobId, ¬ w.Clearing q
  | .crash => ∀ q ∈ w.awaiting, ¬ w.Clearing q

instance (label : RenewLabel) (w : RenewWorld) : Decidable (label.LetsClearsOut w) := by
  apply RenewLabel.casesOn (motive := fun label => Decidable (label.LetsClearsOut w)) label <;>
    intros <;>
    dsimp only [RenewLabel.LetsClearsOut] <;>
    infer_instance

namespace RenewWorld

variable {config : SliceConfig} {w w' : RenewWorld}

/-- Every step that lets the clears out sees them out. -/
theorem SeesOut.step (h : w.SeesOut) (h_order : w.Ordered) {label : RenewLabel}
    (h_ok : label.LetsClearsOut w) (h_step : StepOf (RenewWorld.next config) label w w') :
    w'.SeesOut := by
  cases label with
  | call c =>
    obtain ⟨⟨-, h_c⟩, h_next⟩ := guard_bind_eq_some.mp h_step
    obtain ⟨s', h_commit, h_next⟩ := Option.bind_eq_some_iff.mp h_next
    cases h_next
    exact h.call h_c (Call.step_of_mem h_commit)
  | pass nowMs clock fates => exact h.pass h_order (h_order.step h_step) h_ok h_step
  | drive clock fates =>
    have h_next : RenewWorld.next config (.drive clock fates) w = some w' := h_step
    unfold RenewWorld.next at h_next
    dsimp only at h_next
    split at h_next
    · cases h_next
    · rename_i item rest h_due
      cases h_next
      exact h.drive h_order h_due h_ok
  | advance =>
    obtain ⟨h_due, h_next⟩ := guard_bind_eq_some.mp h_step
    cases h_next
    exact h.advanceAwaiting h_due
  | opened jobId lease =>
    obtain ⟨h_due, h_next⟩ := guard_bind_eq_some.mp h_step
    obtain ⟨q, h_parked, h_next⟩ := Option.bind_eq_some_iff.mp h_next
    obtain ⟨step, h_sending, h_next⟩ := Option.bind_eq_some_iff.mp h_next
    obtain ⟨-, h_next⟩ := guard_bind_eq_some.mp h_next
    cases h_next
    exact h.opened h_order h_due h_sending (h_ok q h_parked)
  | done jobId result nowMs clock fates =>
    obtain ⟨h_due, h_next⟩ := guard_bind_eq_some.mp h_step
    obtain ⟨q, h_parked, h_next⟩ := Option.bind_eq_some_iff.mp h_next
    obtain ⟨h_open, h_next⟩ := guard_bind_eq_some.mp h_next
    cases h_next
    exact h.done h_order h_due (List.mem_of_find?_eq_some h_parked) h_open h_ok.1
      (h_ok.2 q h_parked)
  | failed jobId =>
    obtain ⟨h_due, h_next⟩ := guard_bind_eq_some.mp h_step
    obtain ⟨q, h_parked, h_next⟩ := Option.bind_eq_some_iff.mp h_next
    cases h_next
    exact h.unpark h_due (h.dropped h_order (h_ok q h_parked))
  | crash =>
    cases h_step
    exact h.restart (P := fun _ => False) h_order h_ok .refl fun _ => False.elim

/-- Every renew past its clear has one that was marked submitted, and was sent or waits for its
    connection; no resume prompt is submitted before the clear was sent. -/
structure ClearsSent (w : RenewWorld) : Prop where
  submitted : ∀ r ∈ w.journal.state.renews, r.phase.PastClear →
    w.journal.state.renewStepSubmitted r.id .clear = true
  sent : ∀ r ∈ w.journal.state.renews, r.phase.PastClear →
    .sends r.id .clear ∈ w.journal.log ∨ (r.phase = .clearing ∧ w.ClearWaits r.id)
  resumed : ∀ pre id nowMs post, w.journal.log = pre ++ .submits id .inject nowMs :: post →
    .sends id .clear ∈ pre

theorem SeesOut.clearsSent (h : w.SeesOut) (h_order : w.Ordered) : w.ClearsSent := by
  have h_recorded {r : RenewRow} (h_r : r ∈ w.journal.state.renews) (h_past : r.phase.PastClear) :
      ∃ time session rotation, RecordsClear w.journal.log r.id time session rotation :=
    h_order.agree.records r h_r (h_order.agree.cleared r h_r h_past)
  refine ⟨fun r h_r h_past => ?_, fun r h_r h_past => ?_, fun pre id nowMs post h_log =>
    h.journal.resumed pre _ post h_log id nowMs rfl⟩
  · obtain ⟨time, session, rotation, h_rec⟩ := h_recorded h_r h_past
    exact (h.journal.recorded _ _ _ _ h_rec).1
  · obtain ⟨time, session, rotation, h_rec⟩ := h_recorded h_r h_past
    obtain ⟨-, (h_sent | h_over) | h_waits⟩ := h.journal.recorded _ _ _ _ h_rec
    · exact .inl h_sent
    · exact absurd h_past (h_over r h_r rfl)
    · rcases h_past with h_clearing | h_injected
      · exact .inr ⟨h_clearing, h_waits⟩
      · exact .inl (h.sent_of_injected h_order h_r h_injected)

end RenewWorld

theorem RenewReachable.seesOut {config : SliceConfig} {w : RenewWorld}
    (h : RenewReachable config RenewLabel.LetsClearsOut w) : w.SeesOut := by
  have h_both : w.Ordered ∧ w.SeesOut :=
    Run.invariant (I := fun w => w.Ordered ∧ w.SeesOut) h
      ⟨RenewWorld.Ordered.empty, RenewWorld.SeesOut.empty⟩
      fun _ _ _ ⟨h_order, h_w⟩ h_ok h_step => ⟨h_order.step h_step, h_w.step h_order h_ok h_step⟩
  exact h_both.2

/-- A renew of an agent whose session only rotates with its next prompt.  The connection for its
    clear is refused, and a later one, for its resume prompt, is not. -/
def unsentRun : List RenewLabel :=
  calling [.declareAdopt 1 { paneId := "w1:p1", expectedTerminalId := "t1", idempotencyKey := "k1" }
      { paneId := "w1:p1", terminalId := "t1", publicName := "worker", backendKind := "opencode",
        workingDirectory := "/", launchPending := false, nativeAgentSession := none },
    .createRenew 10
      { logicalAgentId := 1, incarnationId := 1, requesterAgentId := 1,
        preparePrompt := "Write a checkpoint.", resumePrompt := "Continue.",
        onTimeout := .proceed, prepareTimeoutMs := 100, scheduledAtMs := 100 }] ++
    passing 100 ++
    calling (submitting 101 2 1 "r1" ++ [.acceptDelivery 102 2 1 "w1:p1" "t1" none]) ++
    passing 300 ++ passing 400 ++ passing 500 ++
    [.advance, .done 1 (showing "a") 600 (fun _ => 600) [], .failed 2] ++ passing 100000 ++
    [.advance, .done 3 (showing "a") 100100 (fun _ => 100100) [], .opened 4 .taken,
      .done 4 (showing "a") 100200 (fun _ => 100200) []]

end Kelpie
