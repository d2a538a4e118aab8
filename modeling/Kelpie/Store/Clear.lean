/-
  Kelpie.Store.Clear

  Standalone clears of an incarnation's context, the spacing they impose on the
  queued prompts, and the queued deliveries that are due.
-/

import Kelpie.Store.Schedules

namespace Kelpie

open Lib Lib.Tx

-- ============================================================================
-- Clears
-- ============================================================================

/-- Persist the intent to clear one exact Ready incarnation. -/
def createClear (now : Millis) (recipient : LogicalAgentId)
    (recipientIncarnation : IncarnationId) (command : String)
    (preClearSession : NativeSession) (promptSettleDelayMs : Millis)
    (idempotencyKey : String) : StoreTx OperationId := do
  query (refuseReusedNonPromptIdempotencyKey idempotencyKey)
  let s ← reads id
  require (∃ i ∈ s.incarnations.find recipientIncarnation,
      i.state = .ready ∧ i.logicalAgentId = recipient)
    (.conflict "recipient incarnation is not the recipient's exact ready incarnation")
  require (∀ r ∈ s.renews.rows, r.incarnationId = recipientIncarnation →
      r.phase = .scheduled ∨ ¬ r.phase.Armed)
    (.conflict "recipient incarnation has an active renew")
  require (¬ s.ClearInFlight recipientIncarnation)
    (.conflict "recipient incarnation already has an active clear")
  insertOperation now idempotencyKey .clear recipientIncarnation
    (.clear { recipient, command, preClearSession, promptSettleDelayMs })
    .pending idempotencyKeyExists

/-- Complete a standalone clear after its required proof. -/
def completeClear (now : Millis) (operationId : OperationId) (incarnationId : IncarnationId)
    (newSession : Option NativeSession) (promptSettleDelayMs : Millis) : StoreTx Unit := do
  let changed ← updateRows Tab.operations
    (fun o => o.Owns operationId incarnationId ∧ o.kind = .clear ∧ o.outcome = .pending)
    (fun o => { o with outcome := .succeeded, resolvedAtMs := some now })
    (OperationRow.succeeded_id now)
  require (changed = 1) (.conflict "clear completion does not own the pending operation")
  match newSession with
  | none => pure ()
  | some session => do
    let updated ← updateRows Tab.incarnations
      (fun i => i.id = incarnationId ∧ i.state = .ready)
      (fun i => { i with
        observedNativeSession := some session, nativeSessionRotatedAtMs := some now })
    require (updated = 1) (.conflict "clear completion belongs to a replacement runtime")
  let _ ← updateLastAttempt operationId fun a => { a with phase := .responseCommitted }
  let _ ← updateRows Tab.deliveries
    (fun d => d.recipientIncarnationId = some incarnationId ∧ d.outcome = .queued)
    (fun d => { d with
      scheduledAtMs := max d.scheduledAtMs (saturatingAdd now promptSettleDelayMs) })

/-- Fail a clear that no attempt went past preparation: nothing was written. -/
def failUnattemptedClear (now : Millis) (operationId : OperationId) : StoreTx Bool := do
  let s ← reads id
  let changed ← updateRows Tab.operations
    (fun o => o.id = operationId ∧ o.kind = .clear ∧ o.outcome = .pending ∧
      ¬ s.Submitted operationId)
    (fun o => { o with outcome := .failed, resolvedAtMs := some now })
  return changed = 1

/-- The clear that must be resolved before another may be submitted. -/
def Store.unprovenClear (s : Store) (incarnationId : IncarnationId) : Option OperationId :=
  let rotatedAt := ((s.incarnations.find incarnationId).bind
    (·.nativeSessionRotatedAtMs)).getD 0
  let settledAt := fun o : OperationRow => o.resolvedAtMs.getD o.createdAtMs
  let blocking := s.operations.rows.filter fun o => o.kind = .clear ∧
    o.targetIncarnationId = incarnationId ∧ o.outcome = .unknown ∧ rotatedAt ≤ settledAt o
  ((blocking.insertionSort fun a b => settledAt b ≤ settledAt a).head?).map (·.id)

end Kelpie
