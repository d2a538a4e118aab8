/-
  Kelpie.Lib.Exclusive

  Values that the rows of a table hold exclusively: among the rows that meet a
  condition, no two share the value.
-/

import Mathlib.Data.Set.Function
import Kelpie.Lib.Table

namespace Kelpie.Lib

/-- Selected values do not repeat exactly when no two elements select the same one. -/
theorem nodup_filterMap_iff {α β : Type} {l : List α} {g : α → Option β} (h : l.Nodup) :
    (l.filterMap g).Nodup ↔
      ∀ a ∈ l, ∀ b ∈ l, ∀ x, g a = some x → g b = some x → a = b := by
  induction l with
  | nil => simp
  | cons a l ih =>
    obtain ⟨h_a, h_l⟩ := List.nodup_cons.mp h
    constructor
    · intro h_nodup c h_c d h_d x h_x h_x'
      rcases List.mem_cons.mp h_c with rfl | h_cl
      · rcases List.mem_cons.mp h_d with rfl | h_dl
        · rfl
        · rw [List.filterMap_cons_some h_x, List.nodup_cons] at h_nodup
          exact absurd (List.mem_filterMap.mpr ⟨d, h_dl, h_x'⟩) h_nodup.1
      · rcases List.mem_cons.mp h_d with rfl | h_dl
        · rw [List.filterMap_cons_some h_x', List.nodup_cons] at h_nodup
          exact absurd (List.mem_filterMap.mpr ⟨c, h_cl, h_x⟩) h_nodup.1
        · have h_rest : (l.filterMap g).Nodup :=
            h_nodup.sublist ((List.sublist_cons_self a l).filterMap g)
          exact (ih h_l).mp h_rest c h_cl d h_dl x h_x h_x'
    · intro h_inj
      have h_rest := (ih h_l).mpr fun c h_c d h_d x h_x h_x' =>
        h_inj c (List.mem_cons_of_mem a h_c) d (List.mem_cons_of_mem a h_d) x h_x h_x'
      cases h_x : g a with
      | none => rwa [List.filterMap_cons_none h_x]
      | some x =>
        rw [List.filterMap_cons_some h_x, List.nodup_cons]
        refine ⟨fun h_mem => ?_, h_rest⟩
        obtain ⟨c, h_c, h_x'⟩ := List.mem_filterMap.mp h_mem
        have h_eq : a = c :=
          h_inj a List.mem_cons_self c (List.mem_cons_of_mem a h_c) x h_x h_x'
        exact h_a (h_eq ▸ h_c)

namespace Table

variable {ρ κ β : Type} {key : ρ → κ}

/-- No two rows of `t` that meet `p` share their value under `f`. -/
def Exclusive (t : Table key) (p : ρ → Prop) (f : ρ → β) : Prop :=
  Set.InjOn f {r | r ∈ t ∧ p r}

instance [DecidableEq κ] [DecidableEq β] (t : Table key) (p : ρ → Prop) [DecidablePred p]
    (f : ρ → β) : Decidable (t.Exclusive p f) :=
  decidable_of_iff (∀ r ∈ t.rows, p r → ∀ r' ∈ t.rows, p r' → f r = f r' → key r = key r')
    ⟨fun h _ h_r _ h_r' h_f =>
      eq_of_key h_r.1 h_r'.1 (h _ h_r.1 h_r.2 _ h_r'.1 h_r'.2 h_f),
    fun h _ h_r h_p _ h_r' h_p' h_f => congrArg key (h ⟨h_r, h_p⟩ ⟨h_r', h_p'⟩ h_f)⟩

namespace Exclusive

variable {t t' : Table key} {p p' : ρ → Prop} {f f' : ρ → β}

theorem empty : (Table.empty : Table key).Exclusive p f :=
  fun _ h => absurd h.1 notMem_empty

/-- Two holders of one value are the same row. -/
theorem eq (h : t.Exclusive p f) {r r' : ρ} (h_r : r ∈ t) (h_r' : r' ∈ t) (h_p : p r)
    (h_p' : p r') (h_f : f r = f r') : r = r' :=
  h ⟨h_r, h_p⟩ ⟨h_r', h_p'⟩ h_f

/-- The values stay exclusive when every row that holds one afterwards held the same one
    before, or holds one that no other row holds. -/
theorem edits {e : ρ → ρ → Prop} (h : t.Exclusive p f) (h_t : t.Edits e t')
    (h_key : ∀ r r', e r r' → key r' = key r)
    (h_e : ∀ r ∈ t, ∀ r' ∈ t', e r r' → p' r' → (p r ∧ f' r' = f r) ∨
      ∀ r₂ ∈ t', p' r₂ → f' r₂ = f' r' → r₂ = r') : t'.Exclusive p' f' := by
  rintro a' ⟨h_a', h_pa'⟩ b' ⟨h_b', h_pb'⟩ h_f
  obtain ⟨a, h_a, h_ea⟩ := h_t.origin a' h_a'
  obtain ⟨b, h_b, h_eb⟩ := h_t.origin b' h_b'
  rcases h_e a h_a a' h_a' h_ea h_pa' with ⟨h_pa, h_fa⟩ | h_alone
  · rcases h_e b h_b b' h_b' h_eb h_pb' with ⟨h_pb, h_fb⟩ | h_alone
    · obtain rfl : a = b := h.eq h_a h_b h_pa h_pb (by rw [← h_fa, h_f, h_fb])
      exact eq_of_key h_a' h_b' ((h_key a a' h_ea).trans (h_key a b' h_eb).symm)
    · exact h_alone a' h_a' h_pa' h_f
  · exact (h_alone b' h_b' h_pb' h_f.symm).symm

/-- The values stay exclusive when rows only give them up. -/
theorem narrow {e : ρ → ρ → Prop} (h : t.Exclusive p f) (h_t : t.Edits e t')
    (h_key : ∀ r r', e r r' → key r' = key r)
    (h_e : ∀ r ∈ t, ∀ r' ∈ t', e r r' → p' r' → p r ∧ f' r' = f r) : t'.Exclusive p' f' :=
  h.edits h_t h_key fun r h_r r' h_r' h_rr h_p => .inl (h_e r h_r r' h_r' h_rr h_p)

/-- The values stay exclusive when a new row holds none, or one that no old row holds. -/
theorem adds {new : Option ρ} (h : t.Exclusive p f) (h_t : t.Adds new t')
    (h_p : ∀ r ∈ t, p' r → p r) (h_f : ∀ r ∈ t, p' r → f' r = f r)
    (h_new : ∀ r ∈ new, p' r → ∀ r₂ ∈ t, p' r₂ → f' r₂ ≠ f' r) : t'.Exclusive p' f' := by
  rintro a ⟨h_a, h_pa⟩ b ⟨h_b, h_pb⟩ h_ab
  rcases (h_t.mem a).mp h_a with h_a | h_a <;> rcases (h_t.mem b).mp h_b with h_b | h_b
  · refine h.eq h_a h_b (h_p a h_a h_pa) (h_p b h_b h_pb) ?_
    rw [← h_f a h_a h_pa, h_ab, h_f b h_b h_pb]
  · exact absurd h_ab (h_new b h_b h_pb a h_a h_pa)
  · exact absurd h_ab.symm (h_new a h_a h_pa b h_b h_pb)
  · exact Option.mem_unique h_a h_b

/-- The values stay exclusive under a new row that holds one exactly when no old row
    holds it. -/
theorem adds_iff {r : ρ} (h_t : t.Adds (some r) t') (h_r : p r) :
    t'.Exclusive p f ↔ t.Exclusive p f ∧ ∀ r₂ ∈ t, p r₂ → f r₂ ≠ f r := by
  constructor
  · intro h
    have h_old {r₂ : ρ} (h_r₂ : r₂ ∈ t) : r₂ ∈ t' := (h_t.mem r₂).mpr (.inl h_r₂)
    have h_new : r ∈ t' := (h_t.mem r).mpr (.inr rfl)
    refine ⟨fun a h_a b h_b => h ⟨h_old h_a.1, h_a.2⟩ ⟨h_old h_b.1, h_b.2⟩, ?_⟩
    intro r₂ h_r₂ h_p h_f
    obtain rfl := h.eq (h_old h_r₂) h_new h_p h_r h_f
    exact h_t.fresh r₂ rfl r₂ h_r₂ rfl
  · rintro ⟨h, h_new⟩
    refine h.adds h_t (fun _ _ => id) (fun _ _ _ => rfl) fun r' h_r' _ r₂ h_r₂ h_p => ?_
    obtain rfl := Option.mem_some.mp h_r'
    exact h_new r₂ h_r₂ h_p

end Exclusive

-- ============================================================================
-- Several new rows
-- ============================================================================

/-- `t'` is `t` with the rows `rs`, each under a key that was fresh. -/
inductive AddsAll : List ρ → Table key → Table key → Prop where
  | nil {t : Table key} : AddsAll [] t t
  | cons {r : ρ} {rs : List ρ} {t t₁ t' : Table key} (h : t.Adds (some r) t₁)
      (h_rest : AddsAll rs t₁ t') : AddsAll (r :: rs) t t'

theorem AddsAll.append {rs rs' : List ρ} {t t₁ t' : Table key} (h : AddsAll rs t t₁)
    (h' : AddsAll rs' t₁ t') : AddsAll (rs ++ rs') t t' := by
  induction h with
  | nil => exact h'
  | cons h_r _ ih => exact .cons h_r (ih h')

theorem AddsAll.mem {rs : List ρ} {t t' : Table key} (h : AddsAll rs t t') (r : ρ) :
    r ∈ t' ↔ r ∈ t ∨ r ∈ rs := by
  induction h with
  | nil => simp
  | cons h_r _ ih =>
    rw [ih, h_r.mem, List.mem_cons, or_assoc, Option.mem_some, eq_comm]

/-- The values stay exclusive under new rows that hold some exactly when these neither
    repeat nor are held already. -/
theorem AddsAll.exclusive_iff {rs : List ρ} {t t' : Table key} {p : ρ → Prop} {f : ρ → β}
    (h : AddsAll rs t t') (h_rs : ∀ r ∈ rs, p r) : t'.Exclusive p f ↔
      t.Exclusive p f ∧ (rs.map f).Nodup ∧ ∀ r ∈ rs, ∀ r₂ ∈ t, p r₂ → f r₂ ≠ f r := by
  induction h with
  | nil => simp
  | @cons r rs t t₁ t' h_r _ ih =>
    have h_pr : p r := h_rs r List.mem_cons_self
    rw [ih fun r' h_r' => h_rs r' (List.mem_cons_of_mem r h_r'),
      Exclusive.adds_iff h_r h_pr, List.map_cons, List.nodup_cons]
    constructor
    · rintro ⟨⟨h_t, h_new⟩, h_nodup, h_held⟩
      refine ⟨h_t, ⟨fun h_mem => ?_, h_nodup⟩, fun r' h_r' r₂ h_r₂ => ?_⟩
      · obtain ⟨r', h_r', h_f⟩ := List.mem_map.mp h_mem
        exact h_held r' h_r' r ((h_r.mem r).mpr (.inr rfl)) h_pr h_f.symm
      · rcases List.mem_cons.mp h_r' with rfl | h_r'
        · exact h_new r₂ h_r₂
        · exact h_held r' h_r' r₂ ((h_r.mem r₂).mpr (.inl h_r₂))
    · rintro ⟨h_t, ⟨h_fresh, h_nodup⟩, h_held⟩
      refine ⟨⟨h_t, h_held r List.mem_cons_self⟩, h_nodup, fun r' h_r' r₂ h_r₂ h_p h_f => ?_⟩
      rcases (h_r.mem r₂).mp h_r₂ with h_r₂ | h_r₂
      · exact h_held r' (List.mem_cons_of_mem r h_r') r₂ h_r₂ h_p h_f
      · obtain rfl := Option.mem_some.mp h_r₂
        exact h_fresh (List.mem_map.mpr ⟨r', h_r', h_f.symm⟩)

end Table

end Kelpie.Lib
