/-
  Kelpie.Ledger.Step

  What each call of the store does to its ledger, and the rule for invariants of
  the ledger over whole runs that follows from it.
-/

import Kelpie.Ledger.Upkeep

namespace Kelpie

open Lib Lib.Tx Ledger

variable {strict : Prop} {s s' : Store}

/-- What the daemon keeps to when it calls: a launch, an adoption or a retirement settles an
    operation that delivers no message, and a rejected delivery has come to an end. -/
def Call.AsCalled (c : Call) (s : Store) : Prop :=
  match c with
  | .acceptAdoptReady _ op _ _ => s.ledger.NoPrompt op
  | .acceptStartSubmission op _ _ _ => s.ledger.NoPrompt op
  | .acceptStartReady _ op _ _ _ => s.ledger.NoPrompt op
  | .reconcileRetirement _ op _ _ _ _ => s.ledger.NoPrompt op
  | .markRejected _ _ _ _ outcome => ¬ outcome.Live
  | _ => True

instance (g : Ledger) : DecidablePred g.NoPrompt := fun id =>
  inferInstanceAs (Decidable (∀ r ∈ g.operations.rows, r.id = id → r.kind ≠ .prompt))

instance (c : Call) (s : Store) : Decidable (c.AsCalled s) := by
  apply Call.casesOn (motive := fun c => Decidable (c.AsCalled s)) c <;>
    intros <;>
    dsimp only [Call.AsCalled] <;>
    infer_instance

/-- What a call does to the ledger. -/
inductive Account (strict : Prop) (g g' : Ledger) : Call → Prop where
  | path {c : Call} (h : Path strict g g') : Account strict g g' c
  | accept {now id inc pane terminal submission} (h : Accepts id inc g g') :
      Account strict g g' (.acceptDelivery now id inc pane terminal submission)
  | reply {now ask requester body disposition key due} {p : Posting} {g₁ : Ledger}
      (h_kind : p.message.kind = .reply) (h_posts : Posts p g g₁)
      (h_answers : Answers ask requester disposition g₁ g') :
      Account strict g g' (.createReply now ask requester body disposition key due)
  | sweep {nowMs} {t : Table DeliveryRow.rowid} (h_g' : g' = { g with deliveries := t })
      (h : g.deliveries.Edits g.AskSwept t) :
      Account strict g g' (.supersedeSettledQueuedAsks nowMs)

theorem Account.of_conducting {c : Call} {α : Type} {x : StoreTx α} {id : OperationId}
    [hx : Keeps (Conducting strict id) x] (h : x.commit s = .ok s')
    (h_called : strict → s.ledger.NoPrompt id) : Account strict s.ledger s'.ledger c :=
  .path (hx.commit h h_called).1

theorem Account.of_accounted {c : Call} {α : Type} {x : StoreTx α}
    [hx : Keeps (Accounted strict) x] (h : x.commit s = .ok s') :
    Account strict s.ledger s'.ledger c :=
  .path (hx.commit h)

/-- Every call accounts for the ledger that it leaves. -/
theorem Call.account (c : Call) (h : c.Step s s') (h_called : strict → c.AsCalled s) :
    Account strict s.ledger s'.ledger c := by
  cases c with
  | acceptAdoptReady now op inc agent => exact .of_conducting h h_called
  | acceptStartSubmission op inc pane terminal => exact .of_conducting h h_called
  | acceptStartReady now op inc agent supersedes => exact .of_conducting h h_called
  | reconcileRetirement now op inc pane terminal snapshot => exact .of_conducting h h_called
  | markRejected now op inc evidence outcome => exact .path ((keeps_markRejected h_called).commit h)
  | acceptDelivery now op inc pane terminal submission =>
    obtain ⟨_, h_run⟩ := commit_ok.mp h
    exact .accept (acceptDelivery_accepts h_run)
  | createReply now ask requester body disposition key due =>
    obtain ⟨_, h_run⟩ := commit_ok.mp h
    rcases createReply_answers h_run with rfl | ⟨p, g₁, h_kind, h_posts, h_answers⟩
    · exact .path .refl
    · exact .reply h_kind h_posts h_answers
  | supersedeSettledQueuedAsks nowMs =>
    obtain ⟨_, h_run⟩ := commit_ok.mp h
    obtain ⟨t, h_g', h_t⟩ := supersedeSettledQueuedAsks_run h_run
    exact .sweep h_g' h_t
  | _ => exact .of_accounted h

-- ============================================================================
-- Invariants of the ledger
-- ============================================================================

/-- A property of ledgers that the effects keep, and that acceptances, recorded replies and
    sweeps keep when the call meets `ok`. -/
structure Ledger.Kept (strict : Prop) (ok : Call → Store → Prop) (I : Ledger → Prop) :
    Prop where
  effect : ∀ {g g'}, I g → Effect strict g g' → I g'
  accepts : ∀ {s g' now id inc pane terminal submission}, I s.ledger →
    ok (.acceptDelivery now id inc pane terminal submission) s → Accepts id inc s.ledger g' →
    I g'
  answers : ∀ {s g₁ g' now ask requester body disposition key due}, I g₁ → I s.ledger →
    ok (.createReply now ask requester body disposition key due) s →
    (∃ p, p.message.kind = .reply ∧ Posts p s.ledger g₁) →
    Answers ask requester disposition g₁ g' → I g'
  sweep : ∀ {s nowMs t}, I s.ledger → ok (.supersedeSettledQueuedAsks nowMs) s →
    s.ledger.deliveries.Edits s.ledger.AskSwept t → I { s.ledger with deliveries := t }

/-- A property that is kept, and that the empty ledger has. -/
structure Ledger.Invariant (strict : Prop) (ok : Call → Store → Prop) (I : Ledger → Prop) :
    Prop extends Ledger.Kept strict ok I where
  empty : I Store.empty.ledger

theorem Ledger.Kept.path {ok : Call → Store → Prop} {I : Ledger → Prop}
    (h_I : Ledger.Kept strict ok I) {g g' : Ledger} (h_g : I g) (h : Path strict g g') :
    I g' := by
  induction h with
  | refl => exact h_g
  | tail _ h_effect ih => exact h_I.effect ih h_effect

theorem Ledger.Kept.step {ok : Call → Store → Prop} {I : Ledger → Prop}
    (h_I : Ledger.Kept strict ok I) (h_ok : ∀ c s, ok c s → strict → c.AsCalled s)
    {c : Call} (h_s : I s.ledger) (h_c : ok c s) (h_step : c.Step s s') : I s'.ledger := by
  cases c.account h_step (h_ok c s h_c) with
  | path h_path => exact h_I.path h_s h_path
  | accept h_accepts => exact h_I.accepts h_s h_c h_accepts
  | reply h_kind h_posts h_answers =>
    exact h_I.answers (h_I.effect h_s (.post h_posts)) h_s h_c ⟨_, h_kind, h_posts⟩ h_answers
  | sweep h_g' h_t =>
    rw [h_g']
    exact h_I.sweep h_s h_c h_t

/-- An invariant of ledgers holds in every state that a run reaches. -/
theorem Reachable.ledger {ok : Call → Store → Prop} {I : Ledger → Prop}
    (h : Reachable ok s) (h_ok : ∀ c s, ok c s → strict → c.AsCalled s)
    (h_I : Ledger.Invariant strict ok I) : I s.ledger := by
  induction h with
  | refl => exact h_I.empty
  | tail c _ h_c h_step ih => exact h_I.toKept.step h_ok ih h_c h_step

end Kelpie
