/-
  Kelpie.Lib.Rows

  Statements over one table of a larger state.

  A `TableOf σ key` names a table of the state `σ`.  `updateRows` answers how
  many rows met the condition, as a database reports its changes; `appendRow`
  answers the number it gave the row; `insertRow` fails on a key in use.
-/

import Kelpie.Lib.Table
import Kelpie.Lib.Tx

namespace Kelpie.Lib

/-- A table inside the state `σ`. -/
structure TableOf (σ : Type) {ρ κ : Type} (key : ρ → κ) where
  get : σ → Table key
  put : Table key → σ → σ

namespace Tx

variable {σ ε ρ κ : Type} {key : ρ → κ}

-- ============================================================================
-- Statements
-- ============================================================================

/-- Change the rows that meet `p`; answer how many there were. -/
def updateRows (T : TableOf σ key) (p : ρ → Prop) [DecidablePred p] (f : ρ → ρ)
    (h : ∀ r, key (f r) = key r := by intro _; rfl) : Tx σ ε Nat :=
  ⟨fun s => .ok ((T.get s).count p, T.put ((T.get s).update p f h) s)⟩

/-- Append a row under the next free number, and answer that number. -/
def appendRow {key : ρ → Nat} (T : TableOf σ key) (mk : Nat → ρ)
    (h : ∀ n, key (mk n) = n := by intro _; rfl) : Tx σ ε Nat :=
  ⟨fun s => .ok ((T.get s).nextId, T.put ((T.get s).append mk h) s)⟩

/-- Append a row under a key that must be free. -/
def insertRow [DecidableEq κ] (T : TableOf σ key) (r : ρ) (e : ε) : Tx σ ε Unit :=
  ⟨fun s => match (T.get s).insert? r with
    | some t => .ok ((), T.put t s)
    | none => .error e⟩

/-- Remove the rows that meet `p`. -/
def deleteRows (T : TableOf σ key) (p : ρ → Prop) [DecidablePred p] : Tx σ ε Unit :=
  ⟨fun s => .ok ((), T.put ((T.get s).delete p) s)⟩

-- ============================================================================
-- Inversion
-- ============================================================================

@[simp] theorem run_updateRows {T : TableOf σ key} {p : ρ → Prop} [DecidablePred p]
    {f : ρ → ρ} {h : ∀ r, key (f r) = key r} {s : σ} :
    (updateRows T p f h : Tx σ ε Nat).run s =
      .ok ((T.get s).count p, T.put ((T.get s).update p f h) s) := rfl

/-- A committed update edits the table it names, and nothing else. -/
theorem run_updateRows_edits {T : TableOf σ key} {p : ρ → Prop} [DecidablePred p] {f : ρ → ρ}
    {h_key : ∀ r, key (f r) = key r} {s s' : σ} {n : Nat} (e : ρ → ρ → Prop)
    (h : (updateRows T p f h_key : Tx σ ε Nat).run s = .ok (n, s'))
    (h_p : ∀ r ∈ T.get s, p r → e r (f r)) (h_not : ∀ r ∈ T.get s, ¬ p r → e r r) :
    ∃ t, s' = T.put t s ∧ (T.get s).Edits e t := by
  simp only [run_updateRows, Except.ok.injEq, Prod.mk.injEq] at h
  exact ⟨_, h.2.symm, Table.edits_update h_key h_p h_not⟩

/-- A committed update that changed a row has its image in the new table. -/
theorem run_updateRows_pos {T : TableOf σ key} {p : ρ → Prop} [DecidablePred p] {f : ρ → ρ}
    {h_key : ∀ r, key (f r) = key r} {s s' : σ} {n : Nat}
    (h : (updateRows T p f h_key : Tx σ ε Nat).run s = .ok (n, s')) (h_n : 0 < n) :
    ∃ t, s' = T.put t s ∧ ∃ r ∈ T.get s, p r ∧ f r ∈ t := by
  simp only [run_updateRows, Except.ok.injEq, Prod.mk.injEq] at h
  obtain ⟨h_count, rfl⟩ := h
  obtain ⟨r, h_r, h_p⟩ := Table.count_pos.mp (h_count ▸ h_n)
  exact ⟨_, rfl, r, h_r, h_p, Table.mem_update_of h_r h_p⟩

/-- A committed update that changed no row leaves the table as it is. -/
theorem run_updateRows_zero {T : TableOf σ key} {p : ρ → Prop} [DecidablePred p] {f : ρ → ρ}
    {h_key : ∀ r, key (f r) = key r} {s s' : σ}
    (h : (updateRows T p f h_key : Tx σ ε Nat).run s = .ok (0, s')) :
    s' = T.put (T.get s) s := by
  simp only [run_updateRows, Except.ok.injEq, Prod.mk.injEq] at h
  rw [← h.2, Table.update_eq_self (Table.count_eq_zero.mp h.1)]

@[simp] theorem run_appendRow {key : ρ → Nat} {T : TableOf σ key} {mk : Nat → ρ}
    {h : ∀ n, key (mk n) = n} {s : σ} :
    (appendRow T mk h : Tx σ ε Nat).run s =
      .ok ((T.get s).nextId, T.put ((T.get s).append mk h) s) := rfl

/-- A committed append adds the row under the number that it answers. -/
theorem run_appendRow_adds {key : ρ → Nat} {T : TableOf σ key} {mk : Nat → ρ}
    {h_key : ∀ n, key (mk n) = n} {s s' : σ} {n : Nat}
    (h : (appendRow T mk h_key : Tx σ ε Nat).run s = .ok (n, s')) :
    ∃ t, s' = T.put t s ∧ (T.get s).Adds (some (mk n)) t := by
  simp only [run_appendRow, Except.ok.injEq, Prod.mk.injEq] at h
  obtain ⟨rfl, rfl⟩ := h
  exact ⟨_, rfl, Table.adds_append _⟩

/-- The row that is appended is the last one. -/
theorem run_appendRow_rows {key : ρ → Nat} {T : TableOf σ key} {mk : Nat → ρ}
    {h_key : ∀ n, key (mk n) = n} {s s' : σ} {n : Nat}
    (h : (appendRow T mk h_key : Tx σ ε Nat).run s = .ok (n, s')) :
    ∃ t, s' = T.put t s ∧ (T.get s).Adds (some (mk n)) t ∧ t.rows = (T.get s).rows ++ [mk n] := by
  simp only [run_appendRow, Except.ok.injEq, Prod.mk.injEq] at h
  obtain ⟨rfl, rfl⟩ := h
  exact ⟨_, rfl, Table.adds_append _, rfl⟩

@[simp] theorem run_insertRow_ok [DecidableEq κ] {T : TableOf σ key} {r : ρ} {e : ε} {s : σ}
    {q : Unit × σ} :
    (insertRow T r e : Tx σ ε Unit).run s = .ok q ↔
      ∃ t, (T.get s).insert? r = some t ∧ q = ((), T.put t s) := by
  cases h : (T.get s).insert? r <;> simp [insertRow, h, eq_comm]

theorem insertRow_failsOnly [DecidableEq κ] {T : TableOf σ key} {r : ρ} {e : ε} {s : σ}
    {p : ε → Prop} (h : p e) : (insertRow T r e : Tx σ ε Unit).FailsOnly p s := by
  intro e' h_run
  cases h_insert : (T.get s).insert? r with
  | none =>
    simp only [insertRow, h_insert] at h_run
    cases h_run
    exact h
  | some t =>
    simp only [insertRow, h_insert] at h_run
    cases h_run

@[simp] theorem run_deleteRows {T : TableOf σ key} {p : ρ → Prop} [DecidablePred p] {s : σ} :
    (deleteRows T p : Tx σ ε Unit).run s = .ok ((), T.put ((T.get s).delete p) s) := rfl

-- ============================================================================
-- Kept relations
-- ============================================================================

section Keeps

variable {R : σ → σ → Prop}

theorem Keeps.updateRows {T : TableOf σ key} {p : ρ → Prop} [DecidablePred p] {f : ρ → ρ}
    {h : ∀ r, key (f r) = key r}
    (h_R : ∀ s, R s (T.put ((T.get s).update p f h) s)) :
    Keeps R (Tx.updateRows T p f h : Tx σ ε Nat) where
  keeps h_run := by
    simp only [run_updateRows, Except.ok.injEq, Prod.mk.injEq] at h_run
    exact h_run.2 ▸ h_R _

theorem Keeps.appendRow {key : ρ → Nat} {T : TableOf σ key} {mk : Nat → ρ}
    {h : ∀ n, key (mk n) = n} (h_R : ∀ s, R s (T.put ((T.get s).append mk h) s)) :
    Keeps R (Tx.appendRow T mk h : Tx σ ε Nat) where
  keeps h_run := by
    simp only [run_appendRow, Except.ok.injEq, Prod.mk.injEq] at h_run
    exact h_run.2 ▸ h_R _

theorem Keeps.insertRow [DecidableEq κ] {T : TableOf σ key} {r : ρ} {e : ε}
    (h_R : ∀ s t, (T.get s).insert? r = some t → R s (T.put t s)) :
    Keeps R (Tx.insertRow T r e : Tx σ ε Unit) where
  keeps h_run := by
    simp only [run_insertRow_ok, Prod.mk.injEq] at h_run
    obtain ⟨t, h_t, -, rfl⟩ := h_run
    exact h_R _ t h_t

theorem Keeps.deleteRows {T : TableOf σ key} {p : ρ → Prop} [DecidablePred p]
    (h_R : ∀ s, R s (T.put ((T.get s).delete p) s)) :
    Keeps R (Tx.deleteRows T p : Tx σ ε Unit) where
  keeps h_run := by
    simp only [run_deleteRows, Except.ok.injEq, Prod.mk.injEq] at h_run
    exact h_run.2 ▸ h_R _

end Keeps

-- ============================================================================
-- Frames
-- ============================================================================

/-- `R` does not look at the table `T`: replacing it relates the states. -/
class Ignores (R : σ → σ → Prop) (T : TableOf σ key) : Prop where
  put : ∀ s t, R s (T.put t s)

/-- `R` asks of the table `T` at most that it keep its keys. -/
class Grows (R : σ → σ → Prop) (T : TableOf σ key) : Prop where
  put : ∀ s t, (∀ r ∈ T.get s, ∃ r' ∈ t, key r' = key r) → R s (T.put t s)

/-- `R` relates the states around an edit of the table `T` by `e`. -/
class Tolerates (R : σ → σ → Prop) (T : TableOf σ key) (e : ρ → ρ → Prop) : Prop where
  put : ∀ s t, (T.get s).Edits e t → R s (T.put t s)

/-- `R` relates the states around the addition to the table `T` of a row that is `new` to it. -/
class Admits (R : σ → σ → Prop) (T : TableOf σ key) (new : Table key → ρ → Prop) : Prop where
  put : ∀ s t r, new (T.get s) r → (T.get s).Adds (some r) t → R s (T.put t s)

section Frames

variable {R : σ → σ → Prop} {T : TableOf σ key}

instance Ignores.grows [hT : Ignores R T] : Grows R T := ⟨fun s t _ => hT.put s t⟩

instance Ignores.deleteRows [hT : Ignores R T] {p : ρ → Prop} [DecidablePred p] :
    Keeps R (Tx.deleteRows T p : Tx σ ε Unit) :=
  .deleteRows fun s => hT.put s _

instance Grows.updateRows [hT : Grows R T] {p : ρ → Prop} [DecidablePred p] {f : ρ → ρ}
    {h : ∀ r, key (f r) = key r} : Keeps R (Tx.updateRows T p f h : Tx σ ε Nat) :=
  .updateRows fun s => hT.put s _ fun r h_r => by
    by_cases h_p : p r
    · exact ⟨f r, Table.mem_update_of h_r h_p, h r⟩
    · exact ⟨r, Table.mem_update_of_not h_r h_p, rfl⟩

instance Grows.appendRow {key : ρ → Nat} {T : TableOf σ key} [hT : Grows R T]
    {mk : Nat → ρ} {h : ∀ n, key (mk n) = n} :
    Keeps R (Tx.appendRow T mk h : Tx σ ε Nat) :=
  .appendRow fun s => hT.put s _ fun r h_r => ⟨r, Table.mem_append.mpr (.inl h_r), rfl⟩

instance Grows.insertRow [hT : Grows R T] [DecidableEq κ] {r : ρ} {e : ε} :
    Keeps R (Tx.insertRow T r e : Tx σ ε Unit) :=
  .insertRow fun s t h_t => hT.put s t fun r' h_r' =>
    ⟨r', ((Table.insert?_eq_some h_t).2 r').mpr (.inl h_r'), rfl⟩

instance Grows.admits [hT : Grows R T] {new : Table key → ρ → Prop} : Admits R T new :=
  ⟨fun s t _ _ h => hT.put s t fun r h_r => ⟨r, (h.mem r).mpr (.inl h_r), rfl⟩⟩

theorem Grows.tolerates [hT : Grows R T] {e : ρ → ρ → Prop}
    (h_key : ∀ r r', e r r' → key r' = key r) : Tolerates R T e :=
  ⟨fun s t h => hT.put s t fun r h_r => by
    obtain ⟨r', h_r', h_e⟩ := h.image r h_r
    exact ⟨r', h_r', h_key r r' h_e⟩⟩

theorem Tolerates.mono {e e' : ρ → ρ → Prop} [hT : Tolerates R T e']
    (h_le : ∀ r r', e r r' → e' r r') : Tolerates R T e :=
  ⟨fun s t h => hT.put s t (h.mono fun r _ r' _ => h_le r r')⟩

/-- An update is an edit, when it is one where it applies and where it does not. -/
theorem Tolerates.updateRows (e : ρ → ρ → Prop) [hT : Tolerates R T e] {p : ρ → Prop}
    [DecidablePred p] {f : ρ → ρ} {h : ∀ r, key (f r) = key r} (h_p : ∀ r, p r → e r (f r))
    (h_not : ∀ r, e r r) : Keeps R (Tx.updateRows T p f h : Tx σ ε Nat) :=
  .updateRows fun s => hT.put s _ (Table.edits_update h (fun r _ => h_p r) fun r _ _ => h_not r)

theorem Admits.appendRow {key : ρ → Nat} {T : TableOf σ key} (new : Table key → ρ → Prop)
    [hT : Admits R T new] {mk : Nat → ρ} {h : ∀ n, key (mk n) = n}
    (h_new : ∀ t, new t (mk t.nextId)) : Keeps R (Tx.appendRow T mk h : Tx σ ε Nat) :=
  .appendRow fun s => hT.put s _ _ (h_new _) (Table.adds_append _)

theorem Admits.insertRow (new : Table key → ρ → Prop) [hT : Admits R T new] [DecidableEq κ]
    {r : ρ} {e : ε} (h_new : ∀ t, new t r) : Keeps R (Tx.insertRow T r e : Tx σ ε Unit) :=
  .insertRow fun s _ h_t => hT.put s _ r (h_new _) (Table.adds_insert? h_t)

end Frames

-- ============================================================================
-- Relations over one table
-- ============================================================================

/-- Writing the table `U` leaves the table `T` as it is. -/
class Apart {κ' ρ' : Type} {key' : ρ' → κ'} (T : TableOf σ key) (U : TableOf σ key') : Prop where
  get_put : ∀ s t, T.get (U.put t s) = T.get s

/-- `R` relates the table `T` of the one state to that of the other. -/
def Over (T : TableOf σ key) (R : Table key → Table key → Prop) (s s' : σ) : Prop :=
  R (T.get s) (T.get s')

section Over

variable {T : TableOf σ key} {R : Table key → Table key → Prop} [hR : Stepwise R]

instance Over.stepwise : Stepwise (Over T R) where
  refl s := hR.refl (T.get s)
  trans h h' := hR.trans h h'

instance Over.ignores {κ' ρ' : Type} {key' : ρ' → κ'} {U : TableOf σ key'} [hU : Apart T U] :
    Ignores (Over T R) U where
  put s t := by
    rw [Over, hU.get_put]
    exact hR.refl _

end Over

end Tx

end Kelpie.Lib
