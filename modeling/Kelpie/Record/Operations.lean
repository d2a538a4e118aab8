/-
  Kelpie.Record.Operations

  What the store remembers of an operation over any run: who it is for, and how it
  came to its end.
-/

import Kelpie.Lib.Histories
import Kelpie.Store.Frames

namespace Kelpie

open Lib Lib.Tx OperationRow

variable {s s' : Store}

-- ============================================================================
-- Later rows
-- ============================================================================

/-- The same request. -/
structure OperationRow.SameRequest (o o' : OperationRow) : Prop where
  id : o'.id = o.id
  key : o'.idempotencyKey = o.idempotencyKey
  kind : o'.kind = o.kind
  target : o'.targetIncarnationId = o.targetIncarnationId
  intent : o'.intent = o.intent
  created : o'.createdAtMs = o.createdAtMs

/-- The same request, which stays as it is or moves on from a live outcome. -/
structure OperationRow.Later (o o' : OperationRow) : Prop extends o.SameRequest o' where
  outcome : o' = o ∨ (o.outcome.Live ∧ o'.outcome ≠ .pending)

theorem OperationRow.SameRequest.trans {o o₁ o₂ : OperationRow} (h : o.SameRequest o₁)
    (h' : o₁.SameRequest o₂) : o.SameRequest o₂ where
  id := h'.id.trans h.id
  key := h'.key.trans h.key
  kind := h'.kind.trans h.kind
  target := h'.target.trans h.target
  intent := h'.intent.trans h.intent
  created := h'.created.trans h.created

instance OperationRow.later_stepwise : Stepwise OperationRow.Later where
  refl _ := ⟨⟨rfl, rfl, rfl, rfl, rfl, rfl⟩, .inl rfl⟩
  trans {o o₁ o₂} h h' := by
    refine ⟨h.toSameRequest.trans h'.toSameRequest, ?_⟩
    rcases h.outcome with rfl | ⟨h_live, h_moved⟩
    · exact h'.outcome
    · rcases h'.outcome with rfl | ⟨-, h_moved'⟩
      · exact .inr ⟨h_live, h_moved⟩
      · exact .inr ⟨h_live, h_moved'⟩

theorem OperationRow.Concludes.later {outcome : OperationOutcome} (h_outcome : outcome ≠ .pending)
    {o o' : OperationRow} (h : o.Concludes outcome o') : o.Later o' where
  id := h.id
  key := h.key
  kind := h.kind
  target := h.target
  intent := h.intent
  created := h.created
  outcome := h.ends.imp_right fun ⟨h_live, h_ends⟩ => ⟨h_live, h_ends ▸ h_outcome⟩

-- ============================================================================
-- Frames
-- ============================================================================

instance : Readable Tab.operations := ⟨fun _ _ => rfl⟩

/-- Every operation goes on, and moves on from live outcomes only. -/
abbrev Remembers : Store → Store → Prop := Over Tab.operations (Table.GoesOn OperationRow.Later)

instance : Tolerates Remembers Tab.operations (Concludes .accepted) :=
  Over.goesOn_tolerates fun _ _ => Concludes.later (by decide)

instance : Tolerates Remembers Tab.operations (Concludes .succeeded) :=
  Over.goesOn_tolerates fun _ _ => Concludes.later (by decide)

instance : Tolerates Remembers Tab.operations (Concludes .failed) :=
  Over.goesOn_tolerates fun _ _ => Concludes.later (by decide)

instance : Tolerates Remembers Tab.operations (Concludes .superseded) :=
  Over.goesOn_tolerates fun _ _ => Concludes.later (by decide)

instance : Tolerates Remembers Tab.operations (Concludes .unknown) :=
  Over.goesOn_tolerates fun _ _ => Concludes.later (by decide)

theorem Call.remembers (c : Call) (h : c.Step s s') : Remembers s s' := by
  cases c <;> exact Keeps.commit h

-- ============================================================================
-- Runs
-- ============================================================================

theorem remembers_run {ok : Call → Store → Prop} (h : StoreRun ok s s') : Remembers s s' :=
  h.relates fun c _ _ _ h_step => c.remembers h_step

/-- Over any run every operation stays the request that it was; once it has ended its row
    never changes, and no operation becomes pending again. -/
theorem operations_remembered {ok : Call → Store → Prop} (h : StoreRun ok s s')
    {o : OperationRow} (h_o : o ∈ s.operations) : ∃ o' ∈ s'.operations, o.SameRequest o' ∧
      (¬ o.outcome.Live → o' = o) ∧ (o'.outcome = .pending → o' = o) := by
  obtain ⟨o', h_o', h_later⟩ := remembers_run h o h_o
  refine ⟨o', h_o', h_later.toSameRequest, ?_, ?_⟩
  · intro h_ended
    exact h_later.outcome.resolve_right fun h => h_ended h.1
  · intro h_pending
    exact h_later.outcome.resolve_right fun h => h.2 h_pending

/-- A start that is given up as unknown, and what is recorded after it. -/
theorem operations_remembered_startingRun : ∃ (s s' : Store) (o : OperationRow),
    StoreRun (fun _ _ => True) s s' ∧ o ∈ s.operations ∧ o.outcome = .unknown ∧
      o ∈ s'.operations := by
  have h : Leads (fun _ _ => True)
      (fun s => (∃ o ∈ s.operations.rows, o.outcome = .unknown) ∧
        Leads (fun _ _ => True) (fun _ => True) [adopting 5 "w1:p2" "t2" "second" "k2"] s)
      (startingRun ++ [.markUnknown 3 1 1 "no answer"]) Store.empty := by decide +kernel
  obtain ⟨s, -, ⟨o, h_o, h_unknown⟩, h_leads⟩ := h.run
  obtain ⟨s', h_run, -⟩ := h_leads.run
  obtain ⟨o', h_o', -, h_ended, -⟩ := operations_remembered h_run h_o
  obtain rfl := h_ended (by rw [h_unknown]; decide)
  exact ⟨s, s', o', h_run, h_o, h_unknown, h_o'⟩

end Kelpie
