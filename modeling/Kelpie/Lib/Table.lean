/-
  Kelpie.Lib.Table

  Tables of rows under a unique key.

  A `Table` carries the uniqueness of its keys, so that neither an insertion nor
  an update can build a table with two rows under one key.  Rows are kept in
  insertion order and are never removed by an update.
-/

import Mathlib.Data.List.Basic
import Mathlib.Data.List.Nodup

namespace Kelpie.Lib

/-- Rows `ρ` under the key `key`, no two of them sharing it. -/
structure Table {ρ κ : Type} (key : ρ → κ) where
  rows : List ρ
  keys_nodup : (rows.map key).Nodup

namespace Table

variable {ρ κ : Type} {key : ρ → κ}

/-- The table without rows. -/
def empty : Table key := ⟨[], List.nodup_nil⟩

instance : Membership ρ (Table key) := ⟨fun t r => r ∈ t.rows⟩

theorem mem_def {t : Table key} {r : ρ} : r ∈ t ↔ r ∈ t.rows := Iff.rfl

@[simp] theorem notMem_empty {r : ρ} : ¬ r ∈ (empty : Table key) := by
  simp [mem_def, empty]

/-- Two rows of one table under the same key are the same row. -/
theorem eq_of_key {t : Table key} {r r' : ρ} (h : r ∈ t) (h' : r' ∈ t)
    (h_key : key r = key r') : r = r' :=
  List.inj_on_of_nodup_map t.keys_nodup h h' h_key

-- ============================================================================
-- Lookup
-- ============================================================================

section Lookup

variable [DecidableEq κ]

/-- The row under key `k`. -/
def find (t : Table key) (k : κ) : Option ρ := t.rows.find? fun r => key r = k

theorem find_eq_some {t : Table key} {k : κ} {r : ρ} :
    t.find k = some r ↔ r ∈ t ∧ key r = k := by
  constructor
  · intro h
    refine ⟨List.mem_of_find?_eq_some h, ?_⟩
    simpa using List.find?_some h
  · rintro ⟨h_mem, h_key⟩
    cases h : t.find k with
    | none =>
      have h_none := List.find?_eq_none.mp h r h_mem
      simp [h_key] at h_none
    | some r' =>
      have h_mem' : r' ∈ t := List.mem_of_find?_eq_some h
      have h_key' : key r' = k := by simpa using List.find?_some h
      rw [eq_of_key h_mem h_mem' (h_key.trans h_key'.symm)]

theorem find_eq_none {t : Table key} {k : κ} :
    t.find k = none ↔ ∀ r ∈ t, key r ≠ k := by
  simp [find, List.find?_eq_none, mem_def]

/-- A lookup depends on the rows under its key only. -/
theorem find_congr {t t' : Table key} {k : κ} (h : ∀ r, key r = k → (r ∈ t' ↔ r ∈ t)) :
    t'.find k = t.find k := by
  cases h_r : t.find k with
  | some r =>
    obtain ⟨h_mem, h_key⟩ := find_eq_some.mp h_r
    exact find_eq_some.mpr ⟨(h r h_key).mpr h_mem, h_key⟩
  | none =>
    rw [find_eq_none] at h_r ⊢
    exact fun r h_mem h_key => h_r r ((h r h_key).mp h_mem) h_key

theorem isSome_find {t : Table key} {k : κ} : (t.find k).isSome ↔ ∃ r ∈ t, key r = k := by
  simp only [Option.isSome_iff_exists, find_eq_some]

end Lookup

-- ============================================================================
-- Update
-- ============================================================================

section Update

/-- Replace every row that meets `p` by its image under `f`, which keeps keys. -/
def update (t : Table key) (p : ρ → Prop) [DecidablePred p] (f : ρ → ρ)
    (h_key : ∀ r, key (f r) = key r) : Table key where
  rows := t.rows.map fun r => if p r then f r else r
  keys_nodup := by
    have h_keys : (key ∘ fun r => if p r then f r else r) = key := by
      funext r
      by_cases h : p r <;> simp [h, h_key]
    rw [List.map_map, h_keys]
    exact t.keys_nodup

/-- The number of rows an update under `p` changes. -/
def count (t : Table key) (p : ρ → Prop) [DecidablePred p] : Nat :=
  t.rows.countP fun r => p r

variable {t : Table key} {p : ρ → Prop} [DecidablePred p] {f : ρ → ρ}
  {h_key : ∀ r, key (f r) = key r}

theorem mem_update {r : ρ} :
    r ∈ t.update p f h_key ↔ ∃ r₀ ∈ t, r = if p r₀ then f r₀ else r₀ := by
  simp [mem_def, update, eq_comm]

/-- A row of the updated table is an old row that the update left alone, or the
    image of an old row that met the condition. -/
theorem mem_update_cases {r : ρ} (h : r ∈ t.update p f h_key) :
    (r ∈ t ∧ ¬ p r) ∨ ∃ r₀ ∈ t, p r₀ ∧ r = f r₀ := by
  obtain ⟨r₀, h_mem, rfl⟩ := mem_update.mp h
  by_cases h_p : p r₀
  · exact .inr ⟨r₀, h_mem, h_p, by simp [h_p]⟩
  · exact .inl (by simpa [h_p] using h_mem)

theorem mem_update_of_not {r : ρ} (h : r ∈ t) (h_p : ¬ p r) : r ∈ t.update p f h_key :=
  mem_update.mpr ⟨r, h, by simp [h_p]⟩

theorem mem_update_of {r : ρ} (h : r ∈ t) (h_p : p r) : f r ∈ t.update p f h_key :=
  mem_update.mpr ⟨r, h, by simp [h_p]⟩

/-- An update that no row meets changes nothing. -/
theorem update_eq_self (h : ∀ r ∈ t, ¬ p r) : t.update p f h_key = t := by
  have h_rows : (t.rows.map fun r => if p r then f r else r) = t.rows.map id :=
    List.map_congr_left fun r h_r => if_neg (h r h_r)
  rw [List.map_id] at h_rows
  cases t
  simp only [update, mk.injEq]
  exact h_rows

theorem count_pos {t : Table key} : 0 < t.count p ↔ ∃ r ∈ t, p r := by
  simp [count, List.countP_pos_iff, mem_def]

theorem count_eq_zero {t : Table key} : t.count p = 0 ↔ ∀ r ∈ t, ¬ p r := by
  simp [count, List.countP_eq_zero, mem_def]

/-- At most one row is under a key, so an update of it changes that row alone. -/
theorem count_of_key [DecidableEq κ] {t : Table key} {r : ρ} (h : r ∈ t) (h_p : p r)
    (h_key : ∀ r', p r' → key r' = key r) : t.count p = 1 := by
  have h_le : t.count p ≤ (t.rows.map key).count (key r) := by
    rw [List.count, List.countP_map]
    exact List.countP_mono_left fun r' _ h_p' => by simpa using h_key r' (by simpa using h_p')
  have h_one := List.nodup_iff_count_le_one.mp t.keys_nodup (key r)
  have h_pos : 0 < t.count p := count_pos.mpr ⟨r, h, h_p⟩
  omega

/-- Where only the row under one key can meet `p`, one row does or none. -/
theorem count_eq_one_iff [DecidableEq κ] {t : Table key} {k : κ} (h_key : ∀ r, p r → key r = k) :
    t.count p = 1 ↔ ∃ r ∈ t, p r := by
  constructor
  · intro h_one
    exact count_pos.mp (by omega)
  · rintro ⟨r, h_r, h_p⟩
    exact count_of_key h_r h_p fun r' h_p' => (h_key r' h_p').trans (h_key r h_p).symm

theorem find_update [DecidableEq κ] {k : κ} :
    (t.update p f h_key).find k = (t.find k).map fun r => if p r then f r else r := by
  cases h : t.find k with
  | none =>
    rw [find_eq_none] at h
    rw [Option.map_none, find_eq_none]
    intro r h_mem
    obtain ⟨r₀, h_mem₀, rfl⟩ := mem_update.mp h_mem
    by_cases h_p : p r₀ <;> simp [h_p, h_key, h r₀ h_mem₀]
  | some r =>
    rw [find_eq_some] at h
    rw [Option.map_some, find_eq_some]
    refine ⟨mem_update.mpr ⟨r, h.1, rfl⟩, ?_⟩
    by_cases h_p : p r <;> simp [h_p, h_key, h.2]

end Update

-- ============================================================================
-- Deletion
-- ============================================================================

/-- Remove the rows that meet `p`. -/
def delete (t : Table key) (p : ρ → Prop) [DecidablePred p] : Table key where
  rows := t.rows.filter fun r => ¬ p r
  keys_nodup := t.keys_nodup.sublist (List.filter_sublist.map key)

theorem mem_delete {t : Table key} {p : ρ → Prop} [DecidablePred p] {r : ρ} :
    r ∈ t.delete p ↔ r ∈ t ∧ ¬ p r := by
  simp [mem_def, delete]

-- ============================================================================
-- Insertion
-- ============================================================================

section Insert

variable [DecidableEq κ]

/-- Append a row under a key that the table does not hold yet. -/
def insert (t : Table key) (r : ρ) (h : t.find (key r) = none) : Table key where
  rows := t.rows ++ [r]
  keys_nodup := by
    rw [List.map_append, List.map_singleton, List.nodup_append]
    refine ⟨t.keys_nodup, List.nodup_singleton _, ?_⟩
    intro a h_a b h_b
    obtain ⟨r', h_mem, rfl⟩ := List.mem_map.mp h_a
    rw [List.mem_singleton.mp h_b]
    exact find_eq_none.mp h r' h_mem

theorem mem_insert {t : Table key} {r r' : ρ} {h : t.find (key r) = none} :
    r' ∈ t.insert r h ↔ r' ∈ t ∨ r' = r := by
  simp [mem_def, insert]

/-- Append a row under a key that must be new. -/
def insert? (t : Table key) (r : ρ) : Option (Table key) :=
  if h : t.find (key r) = none then some (t.insert r h) else none

theorem insert?_eq_some {t t' : Table key} {r : ρ} (h : t.insert? r = some t') :
    (∀ r' ∈ t, key r' ≠ key r) ∧ ∀ r', r' ∈ t' ↔ r' ∈ t ∨ r' = r := by
  unfold insert? at h
  split at h
  · rename_i h_new
    cases h
    exact ⟨find_eq_none.mp h_new, fun r' => mem_insert⟩
  · cases h

end Insert

-- ============================================================================
-- Numbered rows
-- ============================================================================

section Numbered

variable {key : ρ → Nat}

/-- The key that the next numbered row gets: one more than the largest in use. -/
def nextId (t : Table key) : Nat := (t.rows.map key).foldr max 0 + 1

theorem key_lt_nextId {t : Table key} {r : ρ} (h : r ∈ t) : key r < t.nextId := by
  have h_le : ∀ (l : List Nat) (n : Nat), n ∈ l → n ≤ l.foldr max 0 := by
    intro l
    induction l with
    | nil => simp
    | cons a l ih =>
      intro n h_n
      rcases List.mem_cons.mp h_n with rfl | h_n
      · exact Nat.le_max_left _ _
      · exact Nat.le_trans (ih n h_n) (Nat.le_max_right _ _)
  have := h_le (t.rows.map key) (key r) (List.mem_map_of_mem h)
  simp only [nextId]
  omega

/-- Append the row that `mk` builds for the next free number. -/
def append (t : Table key) (mk : Nat → ρ) (h_key : ∀ n, key (mk n) = n) : Table key :=
  t.insert (mk t.nextId) (by
    rw [find_eq_none, h_key]
    intro r h_mem
    exact Nat.ne_of_lt (key_lt_nextId h_mem))

theorem mem_append {t : Table key} {mk : Nat → ρ} {h_key : ∀ n, key (mk n) = n} {r : ρ} :
    r ∈ t.append mk h_key ↔ r ∈ t ∨ r = mk t.nextId := mem_insert

end Numbered

-- ============================================================================
-- Evolution of a table
-- ============================================================================

/-- `t'` holds an image under `e` of every row of `t`, and no other row. -/
structure Edits (e : ρ → ρ → Prop) (t t' : Table key) : Prop where
  image : ∀ r ∈ t, ∃ r' ∈ t', e r r'
  origin : ∀ r' ∈ t', ∃ r ∈ t, e r r'

theorem Edits.refl {e : ρ → ρ → Prop} (h_e : ∀ r, e r r) (t : Table key) : Edits e t t where
  image r h := ⟨r, h, h_e r⟩
  origin r h := ⟨r, h, h_e r⟩

theorem Edits.mono {e e' : ρ → ρ → Prop} {t t' : Table key} (h : Edits e t t')
    (h_le : ∀ r ∈ t, ∀ r' ∈ t', e r r' → e' r r') : Edits e' t t' where
  image r h_r := by
    obtain ⟨r', h_r', h_e⟩ := h.image r h_r
    exact ⟨r', h_r', h_le r h_r r' h_r' h_e⟩
  origin r' h_r' := by
    obtain ⟨r, h_r, h_e⟩ := h.origin r' h_r'
    exact ⟨r, h_r, h_le r h_r r' h_r' h_e⟩

theorem Edits.trans {e₁ e₂ e : ρ → ρ → Prop} {t t₁ t' : Table key} (h₁ : Edits e₁ t t₁)
    (h₂ : Edits e₂ t₁ t') (h_e : ∀ r r₁ r', e₁ r r₁ → e₂ r₁ r' → e r r') : Edits e t t' where
  image r h_r := by
    obtain ⟨r₁, h_r₁, h_e₁⟩ := h₁.image r h_r
    obtain ⟨r', h_r', h_e₂⟩ := h₂.image r₁ h_r₁
    exact ⟨r', h_r', h_e r r₁ r' h_e₁ h_e₂⟩
  origin r' h_r' := by
    obtain ⟨r₁, h_r₁, h_e₂⟩ := h₂.origin r' h_r'
    obtain ⟨r, h_r, h_e₁⟩ := h₁.origin r₁ h_r₁
    exact ⟨r, h_r, h_e r r₁ r' h_e₁ h_e₂⟩

/-- The row under a key is the image of the row that was under it. -/
theorem Edits.find_some [DecidableEq κ] {e : ρ → ρ → Prop} {t t' : Table key}
    (h : Edits e t t') (h_key : ∀ r r', e r r' → key r' = key r) {k : κ} {r : ρ}
    (h_r : t.find k = some r) : ∃ r', t'.find k = some r' ∧ e r r' := by
  obtain ⟨h_mem, h_k⟩ := find_eq_some.mp h_r
  obtain ⟨r', h_r', h_e⟩ := h.image r h_mem
  exact ⟨r', find_eq_some.mpr ⟨h_r', (h_key r r' h_e).trans h_k⟩, h_e⟩

/-- What the edit keeps of a row can be looked up as before. -/
theorem Edits.find_map [DecidableEq κ] {β : Type} {v : ρ → β} {e : ρ → ρ → Prop}
    {t t' : Table key} (h : Edits e t t') (h_key : ∀ r r', e r r' → key r' = key r)
    (h_v : ∀ r r', e r r' → v r' = v r) (k : κ) : (t'.find k).map v = (t.find k).map v := by
  cases h_r : t.find k with
  | some r =>
    obtain ⟨r', h_r', h_e⟩ := h.find_some h_key h_r
    rw [h_r', Option.map_some, Option.map_some, h_v r r' h_e]
  | none =>
    rw [find_eq_none] at h_r
    have h_none : t'.find k = none := by
      rw [find_eq_none]
      intro r' h_r'
      obtain ⟨r, h_mem, h_e⟩ := h.origin r' h_r'
      rw [h_key r r' h_e]
      exact h_r r h_mem
    rw [h_none]

theorem edits_update {t : Table key} {p : ρ → Prop} [DecidablePred p] {f : ρ → ρ}
    (h_key : ∀ r, key (f r) = key r) {e : ρ → ρ → Prop}
    (h_p : ∀ r ∈ t, p r → e r (f r)) (h_not : ∀ r ∈ t, ¬ p r → e r r) :
    Edits e t (t.update p f h_key) where
  image r h := by
    by_cases h_r : p r
    · exact ⟨f r, mem_update_of h h_r, h_p r h h_r⟩
    · exact ⟨r, mem_update_of_not h h_r, h_not r h h_r⟩
  origin r' h := by
    rcases mem_update_cases h with ⟨h_mem, h_r⟩ | ⟨r, h_mem, h_r, rfl⟩
    · exact ⟨r', h_mem, h_not r' h_mem h_r⟩
    · exact ⟨r, h_mem, h_p r h_mem h_r⟩

/-- `t'` is `t` with the row `new`, if there is one, under a fresh key. -/
structure Adds (t : Table key) (new : Option ρ) (t' : Table key) : Prop where
  mem : ∀ r, r ∈ t' ↔ r ∈ t ∨ r ∈ new
  fresh : ∀ r ∈ new, ∀ r' ∈ t, key r' ≠ key r

theorem Adds.none (t : Table key) : Adds t none t where
  mem r := by simp
  fresh r h := by simp at h

theorem adds_append {key : ρ → Nat} {t : Table key} {mk : Nat → ρ}
    (h_key : ∀ n, key (mk n) = n) : Adds t (some (mk t.nextId)) (t.append mk h_key) where
  mem r := by simp [mem_append, eq_comm]
  fresh r h r' h' := by
    cases h
    rw [h_key]
    exact Nat.ne_of_lt (key_lt_nextId h')

theorem adds_insert? [DecidableEq κ] {t t' : Table key} {r : ρ} (h : t.insert? r = some t') :
    Adds t (some r) t' where
  mem r' := by simp [(insert?_eq_some h).2, eq_comm]
  fresh r' h' := by
    cases h'
    exact (insert?_eq_some h).1

end Table

end Kelpie.Lib
