/-
  Kelpie.Waiters.Absence

  The daemon's watch over connected waiters: the claims of inboxes, the sweeps
  that touch every open session when they are scheduled, and the clock by which
  they expire waiters when their snapshot arrives.

  A sweep reads the clock twice.  It retires no connected waiter exactly if each
  was touched less than the grace before the second reading.
-/

import Kelpie.Ledger.Spares
import Kelpie.Slice.Sweep
import Kelpie.Waiters.Roll

namespace Kelpie

open Lib Lib.Tx

-- As in `Kelpie.Store.Frames`.
set_option synthInstance.maxSize 100000

-- ============================================================================
-- The daemon
-- ============================================================================

/-- `ASK_ORPHAN_GRACE_MS`. -/
def askOrphanGraceMs : Millis := 600000

/-- An obligation is open, or an active waiter once claimed its inbox. -/
def Store.HasSweepableState (s : Store) : Prop :=
  (∃ o ∈ s.obligations.rows, o.state.Unresolved) ∨
    ∃ l ∈ s.logicalAgents.rows, l.ActiveWaiter ∧ l.waiterLastSeenAtMs.isSome

instance (s : Store) : Decidable s.HasSweepableState := by
  unfold Store.HasSweepableState
  infer_instance

section Handlers

variable (config : SliceConfig)

/-- One transaction whose failure is of no consequence. -/
def tried {α : Type} (x : StoreTx α) : SliceProg (Except SliceError α) := Prog.result (stored x)

/-- `claim_inbox`: the waiter must be active, and is seen. -/
def claimInbox (nowMs : Millis) (waiter : LogicalAgentId) : SliceProg Unit := do
  stored (query (requireActiveSocketWaiter waiter))
  let _ ← tried (touchWaiterSeen waiter nowMs)

/-- Touch every open session, as a sweep is scheduled. -/
def touchSessions (nowMs : Millis) (waiters : List LogicalAgentId) : SliceProg Unit := do
  let _ ← Prog.forEach waiters fun waiter => tried (touchWaiterSeen waiter nowMs)

/-- `on_obligation_sweep_done` with the snapshot; what it records is stamped `now`. -/
def onObligationSweepDone (now nowMs : Millis) (snapshot : Snapshot) :
    SliceProg (List PreparedPrompt) := do
  let recovered ← Prog.result (recoverWithSnapshot now snapshot)
  match recovered with
  | .error e => do
    let _ ← tried (insertOperatorNotice now
      s!"absence sweep recover failed: {config.errorText e}")
    return []
  | .ok _ => do
    let swept ← Prog.result (sweepAbsentAsks config now nowMs askOrphanGraceMs)
    match swept with
    | .ok sweep => return sweep.prompts
    | .error e => do
      let _ ← tried (insertOperatorNotice now
        s!"absence sweep failed: {config.errorText e}")
      return []

end Handlers

-- ============================================================================
-- Watches
-- ============================================================================

/-- The store with the daemon's open sessions, and what the daemon saw of its waiters. -/
structure Watch where
  store : Store
  clock : Millis
  /-- The waiters with an open inbox session. -/
  inboxes : List LogicalAgentId
  /-- A sweep is scheduled and waits for its snapshot. -/
  sweeping : Bool
  /-- The latest reading under which the waiter was to be touched. -/
  touched : LogicalAgentId → Option Millis
  /-- The latest reading under which the connection of a waiter was lost. -/
  dropped : LogicalAgentId → Option Millis

namespace Watch

/-- A daemon that has just started for the first time. -/
def empty : Watch where
  store := Store.empty
  clock := 0
  inboxes := []
  sweeping := false
  touched _ := none
  dropped _ := none

/-- The latest reading under which the daemon had a connection of the waiter. -/
def lastConnected (w : Watch) (agent : LogicalAgentId) : Option Millis :=
  if agent ∈ w.inboxes then some w.clock else w.dropped agent

/-- Note the reading for the waiters. -/
def note (t : Millis) (waiters : List LogicalAgentId) (at? : LogicalAgentId → Option Millis) :
    LogicalAgentId → Option Millis :=
  fun agent => if agent ∈ waiters then some t else at? agent

end Watch

/-- What happens to the daemon and its store. -/
inductive WatchLabel where
  | tick (t : Millis)
  /-- Any other part of the daemon calls the store. -/
  | call (c : Call)
  /-- A client claims an inbox; its connection may be lost before it is answered. -/
  | claim (waiter : LogicalAgentId) (answered : Bool)
  /-- The connection of a session fails. -/
  | drop (waiter : LogicalAgentId)
  /-- A sweep is scheduled. -/
  | schedule
  /-- The snapshot of a sweep fails. -/
  | fail
  /-- The snapshot of a sweep arrives. -/
  | sweep (now : Millis) (snapshot : Snapshot)
  /-- The process ends, and another one serves the store. -/
  | restart

namespace Watch

variable (config : SliceConfig)

/-- What the daemon does about its waiters under a label. -/
def next (l : WatchLabel) (w : Watch) : Option Watch :=
  match l with
  | .tick t => if w.clock ≤ t then some { w with clock := t } else none
  | .call c =>
    match c with
    | .touchWaiterSeen _ _ | .bootResetWaiterSeen _ => none
    | c => (c.commit w.store).toOption.map fun s => { w with store := s }
  | .claim waiter answered =>
    match (claimInbox w.clock waiter).run w.store with
    | (.error _, _) => none
    | (.ok _, s) => some { w with
        store := s
        inboxes := if answered then w.inboxes.filter (· ≠ waiter) ++ [waiter] else w.inboxes
        touched := note w.clock [waiter] w.touched
        dropped := note w.clock [waiter] w.dropped }
  | .drop waiter =>
    if waiter ∈ w.inboxes then
      some { w with
        inboxes := w.inboxes.filter (· ≠ waiter)
        dropped := note w.clock [waiter] w.dropped }
    else none
  | .schedule =>
    if w.sweeping = false ∧ w.store.HasSweepableState then
      some { w with
        store := (touchSessions w.clock w.inboxes).final w.store
        sweeping := true
        touched := note w.clock w.inboxes w.touched }
    else none
  | .fail => if w.sweeping then some { w with sweeping := false } else none
  | .sweep now snapshot =>
    if w.sweeping then
      some { w with
        store := (onObligationSweepDone config now w.clock snapshot).final w.store
        sweeping := false }
    else none
  | .restart =>
    some { w with
      store := (stored (bootResetWaiterSeen w.clock)).final w.store
      inboxes := []
      sweeping := false
      touched := fun agent => (w.touched agent).map fun _ => w.clock
      dropped := note w.clock w.inboxes w.dropped }

end Watch

-- ============================================================================
-- The seen
-- ============================================================================

/-- The active waiters were last seen under the noted readings, which name known agents. -/
structure Seen (t : Table LogicalAgentRow.id) (touched : LogicalAgentId → Option Millis) :
    Prop where
  seen : ∀ l ∈ t, l.ActiveWaiter → l.waiterLastSeenAtMs = touched l.id
  known : ∀ agent, (touched agent).isSome → ∃ l ∈ t, l.id = agent

section Seen

variable {s s' : Store} {t t' : Table LogicalAgentRow.id} {now : Millis}
  {touched : LogicalAgentId → Option Millis} {ended : LogicalAgentId → Prop}

/-- Where nobody is seen, the notes stand. -/
theorem Seen.roll (h : Seen t touched) (h_roll : Rolls (fun _ => False) ended t t') :
    Seen t' touched where
  seen l' h_l' h_active := by
    rcases h_roll.origin l' h_l' with ⟨l, h_l, h_stays⟩ | ⟨h_unseen, h_fresh⟩
    · rw [h_stays.seen.resolve_right id, h_stays.id]
      exact h.seen l h_l (h_stays.active h_active)
    · rw [h_unseen.resolve_right id]
      by_contra h_some
      obtain ⟨l, h_l, h_id⟩ := h.known l'.id (Option.isSome_iff_ne_none.mpr (Ne.symm h_some))
      exact h_fresh l h_l h_id
  known agent h_some := by
    obtain ⟨l, h_l, h_id⟩ := h.known agent h_some
    obtain ⟨l', h_l', h_stays⟩ := h_roll.kept l h_l
    exact ⟨l', h_l', h_stays.id.trans h_id⟩

/-- The row of a waiter that is touched when it is among the `waiters`. -/
def LogicalAgentRow.TouchedIn (now : Millis) (waiters : List LogicalAgentId)
    (l l' : LogicalAgentRow) : Prop :=
  l'.id = l.id ∧ (l'.ActiveWaiter ↔ l.ActiveWaiter) ∧
    (l.ActiveWaiter → l'.waiterLastSeenAtMs =
      if l.id ∈ waiters then some now else l.waiterLastSeenAtMs)

/-- Touching known waiters notes the reading. -/
theorem Seen.touch {waiters : List LogicalAgentId} (h : Seen t touched)
    (h_t : t.Edits (LogicalAgentRow.TouchedIn now waiters) t')
    (h_waiters : ∀ agent ∈ waiters, ∃ l ∈ t, l.id = agent) :
    Seen t' (Watch.note now waiters touched) where
  seen l' h_l' h_active' := by
    obtain ⟨l, h_l, h_id, h_active, h_seen⟩ := h_t.origin l' h_l'
    have h_was := h_active.mp h_active'
    rw [h_seen h_was, h.seen l h_l h_was, h_id, Watch.note]
  known agent h_some := by
    have h_known : ∃ l ∈ t, l.id = agent := by
      by_cases h_mem : agent ∈ waiters
      · exact h_waiters agent h_mem
      · rw [Watch.note, if_neg h_mem] at h_some
        exact h.known agent h_some
    obtain ⟨l, h_l, h_id⟩ := h_known
    obtain ⟨l', h_l', h_same, -⟩ := h_t.image l h_l
    exact ⟨l', h_l', h_same.trans h_id⟩

/-- Booting moves every noted reading. -/
theorem Seen.boot (h : Seen t touched) (h_t : t.Edits (fun l l' : LogicalAgentRow =>
      l'.id = l.id ∧ (l'.ActiveWaiter ↔ l.ActiveWaiter) ∧ (l.ActiveWaiter →
        l'.waiterLastSeenAtMs = l.waiterLastSeenAtMs.map fun _ => now)) t') :
    Seen t' (fun agent => (touched agent).map fun _ => now) where
  seen l' h_l' h_active' := by
    obtain ⟨l, h_l, h_id, h_active, h_seen⟩ := h_t.origin l' h_l'
    have h_was := h_active.mp h_active'
    rw [h_seen h_was, h.seen l h_l h_was, h_id]
  known agent h_some := by
    rw [Option.isSome_map] at h_some
    obtain ⟨l, h_l, h_id⟩ := h.known agent h_some
    obtain ⟨l', h_l', h_same, -⟩ := h_t.image l h_l
    exact ⟨l', h_l', h_same.trans h_id⟩

theorem final_touch (s : Store) (now : Millis) (waiter : LogicalAgentId) :
    ∃ t, (tried (touchWaiterSeen waiter now)).final s = { s with logicalAgents := t } ∧
      s.logicalAgents.Edits (LogicalAgentRow.TouchedIn now [waiter]) t := by
  refine ⟨_, rfl, Table.edits_update _ (fun l _ h_l => ?_) fun l _ h_l => ?_⟩
  · refine ⟨rfl, Iff.rfl, fun _ => ?_⟩
    rw [if_pos (List.mem_singleton.mpr h_l.1)]
  · refine ⟨rfl, Iff.rfl, fun h_active => ?_⟩
    rw [if_neg fun h_mem => h_l ⟨List.mem_singleton.mp h_mem, h_active⟩]

theorem final_bootReset (s : Store) (now : Millis) :
    ∃ t, (stored (bootResetWaiterSeen now)).final s = { s with logicalAgents := t } ∧
      s.logicalAgents.Edits (fun l l' : LogicalAgentRow =>
        l'.id = l.id ∧ (l'.ActiveWaiter ↔ l.ActiveWaiter) ∧ (l.ActiveWaiter →
          l'.waiterLastSeenAtMs = l.waiterLastSeenAtMs.map fun _ => now)) t := by
  refine ⟨_, rfl, Table.edits_update _ (fun l _ h_l => ?_) fun l _ h_l => ?_⟩
  · refine ⟨rfl, Iff.rfl, fun _ => ?_⟩
    obtain ⟨seen, h_seen⟩ := Option.isSome_iff_exists.mp h_l.2
    simp [h_seen]
  · refine ⟨rfl, Iff.rfl, fun h_active => ?_⟩
    have h_none : l.waiterLastSeenAtMs = none := by
      by_contra h_some
      exact h_l ⟨h_active, Option.isSome_iff_ne_none.mpr h_some⟩
    rw [h_none, Option.map_none]

theorem final_touchSessions (s : Store) (now : Millis) (waiters : List LogicalAgentId) :
    ∃ t, (touchSessions now waiters).final s = { s with logicalAgents := t } ∧
      s.logicalAgents.Edits (LogicalAgentRow.TouchedIn now waiters) t := by
  rw [touchSessions, Prog.final_bind_pure]
  induction waiters generalizing s with
  | nil => exact ⟨_, rfl, .refl (fun _ => ⟨rfl, Iff.rfl, fun _ => rfl⟩) _⟩
  | cons waiter waiters ih =>
    obtain ⟨t₁, h_first, h_t₁⟩ := final_touch s now waiter
    obtain ⟨t₂, h_rest, h_t₂⟩ := ih (s := { s with logicalAgents := t₁ })
    refine ⟨t₂, ?_, h_t₁.trans h_t₂ fun l l₁ l₂ h_l h_l₁ => ?_⟩
    · have h_run : (tried (touchWaiterSeen waiter now)).run s =
          (.ok ((stored (touchWaiterSeen waiter now)).run s).1,
            { s with logicalAgents := t₁ }) := by rw [← h_first]; rfl
      rw [Prog.forEach, Prog.final_bind_ok h_run, Prog.final_bind_pure, h_rest]
    · obtain ⟨h_id, h_active, h_seen⟩ := h_l
      obtain ⟨h_id₁, h_active₁, h_seen₁⟩ := h_l₁
      refine ⟨h_id₁.trans h_id, h_active₁.trans h_active, fun h_was => ?_⟩
      rw [h_seen₁ (h_active.mpr h_was), h_seen h_was, h_id]
      by_cases h_mem : l.id ∈ waiters <;> by_cases h_waiter : l.id = waiter <;>
        simp [h_mem, h_waiter]

end Seen

-- ============================================================================
-- A sweep
-- ============================================================================

section Sweep

variable {config : SliceConfig} {now nowMs graceMs : Millis} {snapshot : Snapshot}
  {s s' : Store} {ask : MessageId} {agent : LogicalAgentId} {expired : List LogicalAgentId}

/-- A recovery sees no waiter and ends none. -/
theorem Call.Recovers.apart {c : Call} (h : c.Recovers) :
    ¬ c.SeesWaiter agent ∧ ¬ c.EndsWaiter agent := by
  cases c <;> first | exact h.elim | exact ⟨id, id⟩

/-- A sweep sees no waiter, and ends the expired ones. -/
theorem Call.Sweeps.apart {c : Call} (h : c.Sweeps expired) :
    ¬ c.SeesWaiter agent ∧ (c.EndsWaiter agent → agent ∈ expired) := by
  cases c with
  | endSocketWaiter now waiter due reason =>
    refine ⟨id, fun h_ends => ?_⟩
    have h_same : agent = waiter := h_ends
    rw [h_same]
    exact h
  | observeAskAvailability | orphanAsk | createOperatorNotice => exact ⟨id, False.elim⟩
  | _ => exact h.elim

/-- Nobody is seen in a recovery, so the waiters that are expired after it were so before. -/
theorem expired_of_recovered (h : StoreRun (fun c _ => c.Recovers) s s')
    (h_expired : agent ∈ s'.expiredWaiters nowMs graceMs) :
    agent ∈ s.expiredWaiters nowMs graceMs := by
  have h_rolls : Rolls (fun _ => False) (fun _ => False) s.logicalAgents s'.logicalAgents :=
    StoreRun.rolls h (fun c _ h_c a => (Call.Recovers.apart h_c).1)
      fun c _ h_c a => (Call.Recovers.apart h_c).2
  obtain ⟨l', h_l', ⟨h_active, seen, h_seen, h_past⟩, h_id⟩ := mem_expiredWaiters.mp h_expired
  rcases h_rolls.origin l' h_l' with ⟨l, h_l, h_stays⟩ | ⟨h_unseen, -⟩
  · refine mem_expiredWaiters.mpr ⟨l, h_l, ⟨h_stays.active h_active, seen, ?_, h_past⟩,
      h_stays.id.symm.trans h_id⟩
    rw [← h_stays.seen.resolve_right id]
    exact h_seen
  · rw [h_unseen.resolve_right id] at h_seen
    cases h_seen

/-- The handler of a snapshot is a recovery and then a sweep. -/
theorem sweepDone_runs (config : SliceConfig) (now nowMs : Millis) (snapshot : Snapshot)
    (s : Store) :
    ∃ s₁, StoreRun (fun c _ => c.Recovers) s s₁ ∧
      StoreRun (fun c _ => c.Sweeps (s₁.expiredWaiters nowMs askOrphanGraceMs)) s₁
        ((onObligationSweepDone config now nowMs snapshot).final s) := by
  have h_notice {expired : List LogicalAgentId} {body : String} :
      Prog.Keeps (StoreRun fun c _ => c.Sweeps expired)
        (tried (insertOperatorNotice now body)) := by
    unfold tried
    infer_instance
  refine ⟨(recoverWithSnapshot now snapshot).final s, recover_run s, ?_⟩
  have h_recover : (Prog.result (recoverWithSnapshot now snapshot) : SliceProg _).run s =
      (.ok ((recoverWithSnapshot now snapshot).run s).1,
        (recoverWithSnapshot now snapshot).final s) := rfl
  rw [onObligationSweepDone, Prog.final_bind_ok h_recover]
  generalize (recoverWithSnapshot now snapshot).final s = s₁
  split
  · exact Prog.Keeps.keeps s₁
  · have h_sweep : (Prog.result (sweepAbsentAsks config now nowMs askOrphanGraceMs) :
        SliceProg _).run s₁ = (.ok ((sweepAbsentAsks config now nowMs askOrphanGraceMs).run s₁).1,
          (sweepAbsentAsks config now nowMs askOrphanGraceMs).final s₁) := rfl
    rw [Prog.final_bind_ok h_sweep]
    refine (sweep_run config now nowMs askOrphanGraceMs s₁).trans ?_
    generalize (sweepAbsentAsks config now nowMs askOrphanGraceMs).final s₁ = s₂
    split
    · exact .refl
    · exact Prog.Keeps.keeps s₂

/-- A sweep sees nobody, and ends waiters that were expired. -/
theorem sweepDone_rolls (config : SliceConfig) (now nowMs : Millis) (snapshot : Snapshot)
    (s : Store) :
    Rolls (fun _ => False) (· ∈ s.expiredWaiters nowMs askOrphanGraceMs) s.logicalAgents
      ((onObligationSweepDone config now nowMs snapshot).final s).logicalAgents := by
  obtain ⟨s₁, h_recover, h_sweep⟩ := sweepDone_runs config now nowMs snapshot s
  have h_first : Rolls (fun _ => False) (· ∈ s.expiredWaiters nowMs askOrphanGraceMs)
      s.logicalAgents s₁.logicalAgents :=
    StoreRun.rolls h_recover (fun c _ h_c a => (Call.Recovers.apart h_c).1)
      fun c _ h_c a h_ends => absurd h_ends (Call.Recovers.apart h_c).2
  have h_last : Rolls (fun _ => False) (· ∈ s.expiredWaiters nowMs askOrphanGraceMs)
      s₁.logicalAgents ((onObligationSweepDone config now nowMs snapshot).final s).logicalAgents :=
    StoreRun.rolls h_sweep (fun c _ h_c a => (Call.Sweeps.apart h_c).1)
      fun c _ h_c a h_ends => expired_of_recovered h_recover ((Call.Sweeps.apart h_c).2 h_ends)
  exact Rolls.stepwise.trans h_first h_last

/-- The waiting side of the ask is `waiter`. -/
def Store.Asked (s : Store) (ask : MessageId) (waiter : LogicalAgentId) : Prop :=
  ∃ o ∈ s.obligations, o.askMessageId = ask ∧ o.waitingAgentId = waiter

theorem Store.Asked.waiting (h : s.Asked ask agent) {o : ObligationRow}
    (h_o : o ∈ s.obligations) (h_ask : o.askMessageId = ask) : o.waitingAgentId = agent := by
  obtain ⟨o₀, h_o₀, h_ask₀, h_waiting⟩ := h
  rw [Table.eq_of_key h_o h_o₀ (h_ask.trans h_ask₀.symm), h_waiting]

theorem Store.Asked.step {c : Call} (h : s.Asked ask agent) (h_step : c.Step s s') :
    s'.Asked ask agent := by
  obtain ⟨o, h_o, h_ask, h_waiting⟩ := h
  obtain ⟨o', h_o', h_same⟩ := c.parties h_step o h_o
  exact ⟨o', h_o', h_same.ask.trans h_ask, h_same.waiting.trans h_waiting⟩

theorem orphanAsk_spares_cancelled {other : MessageId} :
    Keeps (Spares (· = .cancelled) ask) (orphanAsk now other) := by
  have h_settle {requester reason} : Keeps (Spares (· = .cancelled) ask) (settleObligations now
      (fun o => o.askMessageId = other) .orphaned requester reason) :=
    spares_settleObligations fun o _ _ => by decide
  constructor
  intro s a s' h
  simp only [orphanAsk, run_bind_reads, run_bind_query_ok] at h
  obtain ⟨-, -, h⟩ := h
  split at h <;> exact Keeps.keeps h

theorem Call.Recovers.spares {c : Call} (h : c.Recovers) (h_step : c.Step s s') :
    Spares (· = .cancelled) ask s s' := by
  cases c <;> first | exact h.elim | exact Keeps.commit h_step

/-- A sweep cancels no ask of a waiter that was not expired. -/
theorem Call.Sweeps.spares {c : Call} (h : c.Sweeps expired) (h_step : c.Step s s')
    (h_ask : s.Asked ask agent) (h_agent : agent ∉ expired) :
    Spares (· = .cancelled) ask s s' := by
  cases c with
  | endSocketWaiter now waiter due reason =>
    obtain ⟨_, h_run⟩ := commit_ok.mp h_step
    refine endSocketWaiter_spares h_run fun o h_o h_key h_waiting => h_agent ?_
    rw [← h_ask.waiting h_o h_key, h_waiting]
    exact h
  | observeAskAvailability nowMs => exact spares_observeAskAvailability.commit h_step
  | orphanAsk now other => exact orphanAsk_spares_cancelled.commit h_step
  | createOperatorNotice => exact Keeps.commit h_step
  | _ => exact h.elim

/-- Calls that spare an ask of the waiter, one by one, spare it together. -/
theorem StoreRun.spares {ok : Call → Store → Prop} (h : StoreRun ok s s')
    (h_ask : s.Asked ask agent) (h_ok : ∀ c t t', ok c t → c.Step t t' → t.Asked ask agent →
      Spares (· = .cancelled) ask t t') :
    Spares (· = .cancelled) ask s s' ∧ s'.Asked ask agent := by
  refine Run.invariant (I := fun t => Spares (· = .cancelled) ask s t ∧ t.Asked ask agent) h
    ⟨Spares.stepwise.refl s, h_ask⟩ ?_
  rintro c t t' ⟨h_spares, h_t⟩ h_c h_step
  exact ⟨Spares.stepwise.trans h_spares (h_ok c t t' h_c h_step h_t), h_t.step h_step⟩

/-- What the handler of a snapshot leaves alone: the asks of a waiter that was not expired. -/
theorem sweepDone_spares (config : SliceConfig) (now nowMs : Millis) (snapshot : Snapshot)
    {o : ObligationRow} (h_o : o ∈ s.obligations)
    (h_waiter : o.waitingAgentId ∉ s.expiredWaiters nowMs askOrphanGraceMs) :
    Spares (· = .cancelled) o.askMessageId s
      ((onObligationSweepDone config now nowMs snapshot).final s) := by
  obtain ⟨s₁, h_recover, h_sweep⟩ := sweepDone_runs config now nowMs snapshot s
  have h_asked : s.Asked o.askMessageId o.waitingAgentId := ⟨o, h_o, rfl, rfl⟩
  obtain ⟨h_first, h_asked₁⟩ := StoreRun.spares h_recover h_asked
    fun c _ _ h_c h_step _ => h_c.spares h_step
  obtain ⟨h_last, -⟩ := StoreRun.spares h_sweep h_asked₁
    fun c _ _ h_c h_step h_t => h_c.spares h_step h_t
      fun h_expired => h_waiter (expired_of_recovered h_recover h_expired)
  exact Spares.stepwise.trans h_first h_last

/-- An agent that is no longer an active waiter does not become one again. -/
def Gone (agent : LogicalAgentId) (s : Store) : Prop :=
  (∃ l ∈ s.logicalAgents, l.id = agent) ∧
    ∀ l ∈ s.logicalAgents, l.id = agent → ¬ l.ActiveWaiter

theorem Gone.rolls {seen ended : LogicalAgentId → Prop} (h : Gone agent s)
    (h_rolls : Rolls seen ended s.logicalAgents s'.logicalAgents) : Gone agent s' := by
  obtain ⟨⟨l, h_l, h_id⟩, h_gone⟩ := h
  constructor
  · obtain ⟨l', h_l', h_stays⟩ := h_rolls.kept l h_l
    exact ⟨l', h_l', h_stays.id.trans h_id⟩
  · intro l' h_l' h_id' h_active
    rcases h_rolls.origin l' h_l' with ⟨l₀, h_l₀, h_stays⟩ | ⟨-, h_fresh⟩
    · exact h_gone l₀ h_l₀ (h_stays.id.symm.trans h_id') (h_stays.active h_active)
    · exact h_fresh l h_l (h_id.trans h_id'.symm)

theorem Gone.run {ok : Call → Store → Prop} (h : Gone agent s) (h_run : StoreRun ok s s') :
    Gone agent s' :=
  h.rolls (StoreRun.rolls h_run (fun _ _ _ _ _ => trivial) fun _ _ _ _ _ => trivial)

theorem endSocketWaiter_gone {due : MessageId → Option Millis} {reason : String}
    {res : EndedWaiter}
    (h : (endSocketWaiterWithOwingDue now agent due reason).run s = .ok (res, s')) :
    Gone agent s' := by
  simp only [endSocketWaiterWithOwingDue, run_bind_query_ok, run_bind_reads] at h
  obtain ⟨_, h_waiter, h⟩ := h
  obtain ⟨l, h_l, h_id, h_active⟩ := requireActiveSocketWaiter_ok h_waiter
  obtain ⟨_, s₁, h_end, h⟩ := run_bind_ok.mp h
  obtain ⟨t, rfl, h_t⟩ := run_updateRows_edits
    (fun l l' : LogicalAgentRow => l'.id = l.id ∧ (l'.id = agent → ¬ l'.ActiveWaiter)) h_end
    (fun l _ _ => ⟨rfl, fun _ h_still => by cases h_still.2⟩)
    fun l _ h_not => ⟨rfl, fun h_same h_still => h_not ⟨h_same, h_still⟩⟩
  have h_gone : Gone agent (Tab.logicalAgents.put t s) := by
    constructor
    · obtain ⟨l', h_l', h_same, -⟩ := h_t.image l h_l
      exact ⟨l', h_l', h_same.trans h_id⟩
    · intro l' h_l'
      obtain ⟨l₀, -, -, h_end⟩ := h_t.origin l' h_l'
      exact h_end
  have h_rest : Over Tab.logicalAgents (Rolls (fun _ => False) fun _ => False)
      (Tab.logicalAgents.put t s) s' := Keeps.keeps h
  exact h_gone.rolls h_rest

theorem prepareRetireWaiter_gone {reason : String} {prepared : PreparedWaiterRetire}
    (h : (prepareRetireWaiter config now agent reason).run s = (.ok prepared, s')) :
    Gone agent s' := by
  obtain ⟨asks, s₁, -, h⟩ := Prog.run_bind_ok.mp h
  obtain ⟨schedules, s₂, -, h⟩ := Prog.run_bind_ok.mp h
  obtain ⟨ended, s₃, h_end, h⟩ := Prog.run_bind_ok.mp h
  obtain ⟨prompts, s₄, h_prompts, h⟩ := Prog.run_bind_ok.mp h
  cases h
  have h_rest : StoreRun (fun _ _ => True) s₃ s' := by
    rw [← show (Prog.forEach ended.owingNotices _).final s₃ = s' from
      congrArg Prod.snd h_prompts]
    exact Prog.Keeps.keeps s₃
  exact (endSocketWaiter_gone (stored_ok h_end)).run h_rest

theorem sweepExpired_gone {prompts : List PreparedPrompt}
    (h : (sweepExpired config now agent).run s = (.ok prompts, s')) : Gone agent s' := by
  obtain ⟨address, s₁, -, h⟩ := Prog.run_bind_ok.mp h
  obtain ⟨prepared, s₂, h_retire, h⟩ := Prog.run_bind_ok.mp h
  obtain ⟨notice, s₃, h_notice, h⟩ := Prog.run_bind_ok.mp h
  cases h
  have h_rest : Over Tab.logicalAgents (Rolls (fun _ => False) fun _ => False) s₂ s' :=
    Keeps.keeps (stored_ok h_notice)
  exact (prepareRetireWaiter_gone h_retire).rolls h_rest

/-- A sweep that ends well ended every waiter that it found expired. -/
theorem sweep_gone {sweep : AbsenceSweep}
    (h : (sweepAbsentAsks config now nowMs graceMs).run s = (.ok sweep, s'))
    (h_agent : agent ∈ s.expiredWaiters nowMs graceMs) : Gone agent s' := by
  obtain ⟨expired, s₀, h_read, h⟩ := Prog.run_bind_ok.mp h
  cases h_read
  obtain ⟨retired, s₁, h_retired, h⟩ := Prog.run_bind_ok.mp h
  have h_body (a : LogicalAgentId) : Prog.Keeps (StoreRun fun _ _ => True)
      (sweepExpired config now a) := by
    have h_mem : a ∈ [a] := List.mem_singleton_self a
    exact ⟨fun t => Run.mono ((keeps_sweepExpired h_mem).keeps t) fun _ _ _ => trivial⟩
  obtain ⟨t, t', b, -, h_run, h_after⟩ := Prog.forEach_ok h_body h_retired h_agent
  have h_rest : StoreRun (fun c _ => c.Sweeps []) s₁ s' := by
    rw [← show Prog.final _ s₁ = s' from congrArg Prod.snd h]
    exact Prog.Keeps.keeps s₁
  exact ((sweepExpired_gone h_run).run h_after).run h_rest

end Sweep

-- ============================================================================
-- Runs
-- ============================================================================

variable {config : SliceConfig}

/-- The states that a run of the daemon reaches. -/
abbrev WatchReachable (config : SliceConfig) (w : Watch) : Prop :=
  Run (StepOf (Watch.next config)) (fun _ _ => True) Watch.empty w

/-- What the daemon noted is what the store records of its active waiters, and the waiters
    that were touched are those that were connected. -/
structure Watch.Tracks (w : Watch) : Prop extends Seen w.store.logicalAgents w.touched where
  connected : ∀ agent, (w.touched agent).isSome ↔
    agent ∈ w.inboxes ∨ (w.dropped agent).isSome

namespace Watch

variable {w w' : Watch} {now t : Millis} {agent : LogicalAgentId} {snapshot : Snapshot}

@[simp] theorem note_isSome {waiters : List LogicalAgentId}
    {at? : LogicalAgentId → Option Millis} :
    (note t waiters at? agent).isSome ↔ agent ∈ waiters ∨ (at? agent).isSome := by
  unfold note
  by_cases h : agent ∈ waiters <;> simp [h]

theorem lastConnected_isSome :
    (w.lastConnected agent).isSome ↔ agent ∈ w.inboxes ∨ (w.dropped agent).isSome := by
  unfold lastConnected
  by_cases h : agent ∈ w.inboxes <;> simp [h]

theorem Tracks.empty : Tracks Watch.empty where
  seen l h_l := absurd h_l (by rintro ⟨⟩)
  known _ h_some := by cases h_some
  connected _ := by simp [Watch.empty]

/-- A store that was left by a program which saw no waiter. -/
theorem Tracks.roll {s : Store} {ended : LogicalAgentId → Prop} (h : w.Tracks)
    (h_roll : Rolls (fun _ => False) ended w.store.logicalAgents s.logicalAgents) :
    Tracks { w with store := s } :=
  ⟨h.toSeen.roll h_roll, h.connected⟩

/-- A claim finds its waiter, and touches it. -/
theorem claimInbox_run {s s' : Store} {u : Unit}
    (h : (claimInbox now agent).run s = (.ok u, s')) :
    (∃ l ∈ s.logicalAgents, l.id = agent) ∧
      ∃ t, s' = { s with logicalAgents := t } ∧
        s.logicalAgents.Edits (LogicalAgentRow.TouchedIn now [agent]) t := by
  obtain ⟨_, s₁, h_query, h_touch⟩ := Prog.run_bind_ok.mp h
  obtain ⟨h_active, h_same⟩ := run_query_ok.mp (stored_ok h_query)
  obtain rfl : s₁ = s := h_same
  obtain ⟨l, h_l, h_id, -⟩ := requireActiveSocketWaiter_ok h_active
  obtain ⟨t, h_final, h_t⟩ := final_touch s₁ now agent
  refine ⟨⟨l, h_l, h_id⟩, t, ?_, h_t⟩
  rw [← h_final, ← Prog.final_bind_pure (f := fun _ => ())]
  exact (congrArg Prod.snd h_touch).symm

theorem Tracks.step {l : WatchLabel} (h : w.Tracks) (h_step : Watch.next config l w = some w') :
    w'.Tracks := by
  cases l with
  | tick t =>
    simp only [Watch.next, Option.ite_none_right_eq_some, Option.some.injEq] at h_step
    obtain ⟨-, rfl⟩ := h_step
    exact ⟨h.toSeen, h.connected⟩
  | call c =>
    have h_call (h_c : ∀ a, ¬ c.SeesWaiter a)
        (h_step : (c.commit w.store).toOption.map (fun s => { w with store := s }) = some w') :
        w'.Tracks := by
      obtain ⟨s, h_commit, rfl⟩ := Option.map_eq_some_iff.mp h_step
      have h_rolls := c.rolls (Call.step_of_mem (Option.mem_def.mpr h_commit))
      exact h.roll (h_rolls.mono h_c fun _ h_ends => h_ends)
    cases c with
    | touchWaiterSeen => cases h_step
    | bootResetWaiterSeen => cases h_step
    | _ => exact h_call (fun _ h_sees => h_sees) h_step
  | claim waiter answered =>
    simp only [Watch.next] at h_step
    split at h_step
    · cases h_step
    · rename_i u s h_claim
      obtain rfl := Option.some_inj.mp h_step
      obtain ⟨h_known, t, rfl, h_t⟩ := claimInbox_run h_claim
      refine ⟨h.toSeen.touch h_t fun agent h_mem => ?_, fun agent => ?_⟩
      · rwa [List.mem_singleton.mp h_mem]
      · have h_connected := h.connected agent
        by_cases h_same : agent = waiter <;> cases answered <;> simp [h_same, h_connected]
  | drop waiter =>
    simp only [Watch.next, Option.ite_none_right_eq_some, Option.some.injEq] at h_step
    obtain ⟨h_open, rfl⟩ := h_step
    refine ⟨h.toSeen, fun agent => ?_⟩
    have h_connected := h.connected agent
    by_cases h_same : agent = waiter
    · simp [h_same, (h.connected waiter).mpr (.inl h_open)]
    · simp [h_same, h_connected]
  | schedule =>
    simp only [Watch.next, Option.ite_none_right_eq_some, Option.some.injEq] at h_step
    obtain ⟨-, rfl⟩ := h_step
    obtain ⟨t, h_final, h_t⟩ := final_touchSessions w.store w.clock w.inboxes
    rw [h_final]
    refine ⟨h.toSeen.touch h_t fun agent h_mem => ?_, fun agent => ?_⟩
    · exact h.known agent ((h.connected agent).mpr (.inl h_mem))
    · have h_connected := h.connected agent
      simp only [note_isSome, h_connected, or_self_left]
  | fail =>
    simp only [Watch.next, Option.ite_none_right_eq_some, Option.some.injEq] at h_step
    obtain ⟨-, rfl⟩ := h_step
    exact ⟨h.toSeen, h.connected⟩
  | sweep now snapshot =>
    simp only [Watch.next, Option.ite_none_right_eq_some, Option.some.injEq] at h_step
    obtain ⟨-, rfl⟩ := h_step
    have h_roll := h.roll (sweepDone_rolls config now w.clock snapshot w.store)
    exact ⟨h_roll.toSeen, h_roll.connected⟩
  | restart =>
    obtain rfl := Option.some_inj.mp h_step
    obtain ⟨t, h_final, h_t⟩ := final_bootReset w.store w.clock
    rw [h_final]
    refine ⟨h.toSeen.boot h_t, fun agent => ?_⟩
    have h_connected := h.connected agent
    simp [h_connected]

-- ============================================================================
-- Connected waiters
-- ============================================================================

/-- Every active waiter that was connected less than the grace ago was touched less than the
    grace ago: its inbox was claimed, or a sweep was scheduled while its session was open. -/
def FreshlyTouched (w : Watch) : Prop :=
  ∀ l ∈ w.store.logicalAgents, l.ActiveWaiter → ∀ t ∈ w.lastConnected l.id,
    w.clock - t < askOrphanGraceMs → ∃ u ∈ w.touched l.id, w.clock - u < askOrphanGraceMs

instance (w : Watch) : Decidable w.FreshlyTouched :=
  inferInstanceAs (Decidable (∀ l ∈ w.store.logicalAgents.rows, l.ActiveWaiter →
    ∀ t ∈ w.lastConnected l.id, w.clock - t < askOrphanGraceMs →
      ∃ u ∈ w.touched l.id, w.clock - u < askOrphanGraceMs))

/-- What the sweep that leads to `s'` owes to the waiters that the daemon saw. -/
structure SparesConnected (w : Watch) (s' : Store) : Prop where
  opened : ∀ l ∈ w.store.logicalAgents, l.ActiveWaiter → l.id ∈ w.inboxes → ¬ Gone l.id s'
  asks : ∀ o ∈ w.store.obligations, o.waitingAgentId ∈ w.inboxes → o.state ≠ .cancelled →
    ∀ o' ∈ s'.obligations, o'.askMessageId = o.askMessageId → o'.state ≠ .cancelled
  graced : ∀ l ∈ w.store.logicalAgents, l.ActiveWaiter → Gone l.id s' →
    ∃ t ∈ w.lastConnected l.id, askOrphanGraceMs ≤ w.clock - t
  unclaimed : ∀ l ∈ w.store.logicalAgents, l.ActiveWaiter → w.touched l.id = none →
    ¬ Gone l.id s'

/-- The recovery and the sweep both run to their ends. -/
def SweepFinishes (config : SliceConfig) (now : Millis) (snapshot : Snapshot) (w : Watch) :
    Prop :=
  ∃ r s₁ sweep s₂, (recoverWithSnapshot now snapshot).run w.store = (.ok r, s₁) ∧
    (sweepAbsentAsks config now w.clock askOrphanGraceMs).run s₁ = (.ok sweep, s₂)

/-- The expired waiters by what the daemon noted. -/
theorem Tracks.expired_iff (h : w.Tracks) {l : LogicalAgentRow} (h_l : l ∈ w.store.logicalAgents)
    (h_active : l.ActiveWaiter) :
    l.id ∈ w.store.expiredWaiters w.clock askOrphanGraceMs ↔
      ∃ u ∈ w.touched l.id, askOrphanGraceMs ≤ w.clock - u := by
  rw [mem_expiredWaiters, ← h.seen l h_l h_active]
  constructor
  · rintro ⟨l₀, h_l₀, ⟨-, h_seen⟩, h_id⟩
    rwa [Table.eq_of_key h_l₀ h_l h_id] at h_seen
  · exact fun h_seen => ⟨l, h_l, ⟨h_active, h_seen⟩, rfl⟩

/-- A waiter that the sweep retired was expired. -/
theorem gone_expired {l : LogicalAgentRow} (h_l : l ∈ w.store.logicalAgents)
    (h_active : l.ActiveWaiter)
    (h_gone : Gone l.id ((onObligationSweepDone config now w.clock snapshot).final w.store)) :
    l.id ∈ w.store.expiredWaiters w.clock askOrphanGraceMs := by
  obtain ⟨l', h_l', h_stays⟩ := (sweepDone_rolls config now w.clock snapshot w.store).kept l h_l
  rcases h_stays.ended with h_same | ⟨h_expired, -⟩
  · refine absurd ⟨?_, ?_⟩ (h_gone.2 l' h_l' h_stays.id)
    · rw [h_stays.transport]
      exact h_active.1
    · rw [h_same]
      exact h_active.2
  · exact h_expired

theorem Tracks.spares (h : w.Tracks) (h_fresh : w.FreshlyTouched) :
    w.SparesConnected ((onObligationSweepDone config now w.clock snapshot).final w.store) := by
  -- An expired waiter was last connected before the grace.
  have h_graced (l : LogicalAgentRow) (h_l : l ∈ w.store.logicalAgents)
      (h_active : l.ActiveWaiter)
      (h_expired : l.id ∈ w.store.expiredWaiters w.clock askOrphanGraceMs) :
      ∃ t ∈ w.lastConnected l.id, askOrphanGraceMs ≤ w.clock - t := by
    obtain ⟨u, h_u, h_past⟩ := (h.expired_iff h_l h_active).mp h_expired
    have h_touched : (w.touched l.id).isSome := Option.isSome_iff_exists.mpr ⟨u, h_u⟩
    have h_some := lastConnected_isSome.mpr ((h.connected l.id).mp h_touched)
    obtain ⟨t, h_t⟩ := Option.isSome_iff_exists.mp h_some
    refine ⟨t, h_t, ?_⟩
    by_contra h_recent
    obtain ⟨u', h_u', h_soon⟩ := h_fresh l h_l h_active t h_t (not_le.mp h_recent)
    rw [Option.mem_unique h_u' h_u] at h_soon
    exact absurd h_past (not_le.mpr h_soon)
  -- So it has no open session.
  have h_closed (l : LogicalAgentRow) (h_l : l ∈ w.store.logicalAgents)
      (h_active : l.ActiveWaiter) (h_open : l.id ∈ w.inboxes) :
      l.id ∉ w.store.expiredWaiters w.clock askOrphanGraceMs := by
    intro h_expired
    obtain ⟨t, h_t, h_past⟩ := h_graced l h_l h_active h_expired
    rw [lastConnected, if_pos h_open, Option.mem_some_iff] at h_t
    rw [← h_t, Int.sub_self] at h_past
    exact absurd h_past (by decide)
  constructor
  · exact fun l h_l h_active h_open h_gone =>
      h_closed l h_l h_active h_open (gone_expired h_l h_active h_gone)
  · intro o h_o h_open h_state o' h_o' h_ask h_cancelled
    have h_spared := sweepDone_spares config now w.clock snapshot h_o fun h_expired => by
        obtain ⟨l, h_l, ⟨h_active, -⟩, h_id⟩ := mem_expiredWaiters.mp h_expired
        exact h_closed l h_l h_active (h_id ▸ h_open) (h_id ▸ h_expired)
    obtain ⟨o₀, h_o₀, h_ask₀, h_same⟩ := h_spared o' h_o' h_ask h_cancelled
    rw [Table.eq_of_key h_o₀ h_o h_ask₀, h_cancelled] at h_same
    exact h_state h_same
  · exact fun l h_l h_active h_gone => h_graced l h_l h_active (gone_expired h_l h_active h_gone)
  · intro l h_l h_active h_none h_gone
    obtain ⟨u, h_u, -⟩ := (h.expired_iff h_l h_active).mp (gone_expired h_l h_active h_gone)
    rw [h_none] at h_u
    cases h_u

/-- The waiters that are expired before a recovery are so after it. -/
theorem expired_recovered {s s' : Store} {nowMs graceMs : Millis}
    (h : StoreRun (fun c _ => c.Recovers) s s')
    (h_expired : agent ∈ s.expiredWaiters nowMs graceMs) :
    agent ∈ s'.expiredWaiters nowMs graceMs := by
  have h_rolls : Rolls (fun _ => False) (fun _ => False) s.logicalAgents s'.logicalAgents :=
    StoreRun.rolls h (fun c _ h_c a => (Call.Recovers.apart h_c).1)
      fun c _ h_c a => (Call.Recovers.apart h_c).2
  obtain ⟨l, h_l, ⟨⟨h_transport, h_open⟩, h_seen⟩, h_id⟩ := mem_expiredWaiters.mp h_expired
  obtain ⟨l', h_l', h_stays⟩ := h_rolls.kept l h_l
  have h_ended := h_stays.ended.resolve_right fun h_end => h_end.1
  refine mem_expiredWaiters.mpr ⟨l', h_l', ⟨⟨?_, ?_⟩, ?_⟩, h_stays.id.trans h_id⟩
  · rw [h_stays.transport, h_transport]
  · rw [h_ended, h_open]
  · rwa [h_stays.seen.resolve_right id]

/-- A sweep that finishes retires every expired waiter. -/
theorem SweepFinishes.gone (h : w.SweepFinishes config now snapshot)
    (h_expired : agent ∈ w.store.expiredWaiters w.clock askOrphanGraceMs) :
    Gone agent ((onObligationSweepDone config now w.clock snapshot).final w.store) := by
  obtain ⟨r, s₁, sweep, s₂, h_recover, h_sweep⟩ := h
  have h_recovered : StoreRun (fun c _ => c.Recovers) w.store s₁ := by
    rw [← show (recoverWithSnapshot now snapshot).final w.store = s₁ from
      congrArg Prod.snd h_recover]
    exact recover_run w.store
  have h_gone := sweep_gone h_sweep (expired_recovered h_recovered h_expired)
  have h_first : (Prog.result (recoverWithSnapshot now snapshot) : SliceProg _).run w.store =
      (.ok (.ok r), s₁) := by
    rw [Prog.run_result, h_recover]
  have h_second : (Prog.result (sweepAbsentAsks config now w.clock askOrphanGraceMs) :
      SliceProg _).run s₁ = (.ok (.ok sweep), s₂) := by
    rw [Prog.run_result, h_sweep]
  have h_final : (onObligationSweepDone config now w.clock snapshot).final w.store = s₂ := by
    rw [onObligationSweepDone, Prog.final_bind_ok h_first, Prog.final_bind_ok h_second]
    rfl
  rwa [h_final]

/-- Only a sweep over freshly touched waiters finishes and spares the connected. -/
theorem Tracks.fresh (h : w.Tracks) (h_finishes : w.SweepFinishes config now snapshot)
    (h_spares : w.SparesConnected
      ((onObligationSweepDone config now w.clock snapshot).final w.store)) :
    w.FreshlyTouched := by
  intro l h_l h_active t h_t h_recent
  have h_connected : (w.lastConnected l.id).isSome := Option.isSome_iff_exists.mpr ⟨t, h_t⟩
  have h_some := (h.connected l.id).mpr (lastConnected_isSome.mp h_connected)
  obtain ⟨u, h_u⟩ := Option.isSome_iff_exists.mp h_some
  refine ⟨u, h_u, ?_⟩
  by_contra h_past
  have h_expired := (h.expired_iff h_l h_active).mpr ⟨u, h_u, not_lt.mp h_past⟩
  obtain ⟨t', h_t', h_old⟩ := h_spares.graced l h_l h_active (h_finishes.gone h_expired)
  rw [Option.mem_unique h_t' h_t] at h_old
  exact absurd h_recent (not_lt.mpr h_old)

end Watch

/-- A sweep spares the waiters that the daemon saw connected if each of them was freshly
    touched, and a sweep that finishes does so only then. -/
theorem sweep_spares_connected {w w' : Watch} {now : Millis} {snapshot : Snapshot}
    (h : WatchReachable config w) (h_step : Watch.next config (.sweep now snapshot) w = some w') :
    (w.FreshlyTouched → w.SparesConnected w'.store) ∧
      (w.SweepFinishes config now snapshot → w.SparesConnected w'.store → w.FreshlyTouched) := by
  have h_tracks : w.Tracks := Run.invariant (I := Watch.Tracks) h .empty
    fun _ _ _ h_w _ h_next => h_w.step h_next
  simp only [Watch.next, Option.ite_none_right_eq_some, Option.some.injEq] at h_step
  obtain ⟨-, rfl⟩ := h_step
  exact ⟨h_tracks.spares, h_tracks.fresh⟩

/-- A worker, and a waiter that asked it and claimed its inbox before a sweep. -/
def watchedRun : List WatchLabel :=
  [.call (adopting 1 "w1:p1" "t1" "worker" "k1"),
    .call (.registerSocketWaiter 1 "waiter" .parentless "k2"),
    .call (.createAsk 1 2 1 1 "Which branch?" "k3" none none false .inject),
    .claim 2 true, .schedule]

/-- The sweep completes on time: the waiter has a session, and stays. -/
theorem sweep_spares_connected_watched : ∃ w w' : Watch, WatchReachable plainConfig w ∧
    Watch.next plainConfig (.sweep 599999 { panes := [], agents := [] }) w = some w' ∧
    2 ∈ w.inboxes ∧ w.FreshlyTouched ∧
    (w.FreshlyTouched → w.SparesConnected w'.store) ∧
      (w.SweepFinishes plainConfig 599999 { panes := [], agents := [] } →
        w.SparesConnected w'.store → w.FreshlyTouched) := by
  have h : Script (Watch.next plainConfig) (fun _ _ => True)
      (fun w => 2 ∈ w.inboxes ∧ w.FreshlyTouched ∧
        (Watch.next plainConfig (.sweep 599999 { panes := [], agents := [] }) w).isSome)
      (watchedRun ++ [.tick 599999]) Watch.empty := by decide +kernel
  obtain ⟨w, h_run, h_open, h_fresh, h_next⟩ := h.run
  obtain ⟨w', h_step⟩ := Option.isSome_iff_exists.mp h_next
  exact ⟨w, w', h_run, h_step, h_open, h_fresh, sweep_spares_connected h_run h_step⟩

/-- The machine sleeps between the two readings: a waiter with an open session is retired,
    and the ask that it waits on is cancelled. -/
theorem sweep_retires_connected : ∃ w w' : Watch, WatchReachable plainConfig w ∧
    Watch.next plainConfig (.sweep 600000 { panes := [], agents := [] }) w = some w' ∧
    ¬ w.SparesConnected w'.store := by
  have h : Script (Watch.next plainConfig) (fun _ _ => True)
      (fun w => 2 ∈ w.inboxes ∧ (∃ o ∈ w.store.obligations.rows, o.askMessageId = 1 ∧
          o.waitingAgentId = 2 ∧ o.state = .open) ∧
        ∃ w' ∈ Watch.next plainConfig (.sweep 600000 { panes := [], agents := [] }) w,
          ∃ o ∈ w'.store.obligations.rows, o.askMessageId = 1 ∧ o.state = .cancelled)
      (watchedRun ++ [.tick 600000]) Watch.empty := by decide +kernel
  obtain ⟨w, h_run, h_inbox, ⟨o, h_o, h_ask, h_waiting, h_open⟩, w', h_step,
    o', h_o', h_ask', h_cancelled⟩ := h.run
  refine ⟨w, w', h_run, h_step, fun h_spares => ?_⟩
  refine h_spares.asks o h_o (h_waiting ▸ h_inbox) ?_ o' h_o' (h_ask'.trans h_ask.symm)
    h_cancelled
  rw [h_open]
  decide

end Kelpie
