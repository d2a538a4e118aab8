/-
  Kelpie.Lib.Parked

  Lists of parked entries.  Each entry waits for the completion of a job or for the
  next pass, and no two entries wait for one job.
-/

import Mathlib.Data.List.Basic
import Mathlib.Data.List.Nodup

namespace Kelpie.Lib

-- ============================================================================
-- Positions
-- ============================================================================

section Positions

variable {α : Type} {p : α → Bool} {l pre post : List α} {a b : α} {i : Nat}

/-- The first entry that meets `p`, with its index. -/
def locate (p : α → Bool) (l : List α) : Option (Nat × α) :=
  (l.findIdx? p).bind fun i => l[i]?.map (i, ·)

theorem locate_cons : locate p (a :: l) =
    if p a then some (0, a) else (locate p l).map fun r => (r.1 + 1, r.2) := by
  rw [locate, List.findIdx?_cons]
  by_cases h_a : p a = true
  · rw [if_pos h_a, if_pos h_a]
    rfl
  · rw [if_neg h_a, if_neg h_a, locate]
    cases List.findIdx? p l with
    | none => rfl
    | some i =>
      rw [Option.map_some, Option.bind_some, Option.bind_some, List.getElem?_cons_succ,
        Option.map_map]
      rfl

/-- Where the entry stands. -/
theorem locate_eq_some (h : locate p l = some (i, a)) :
    ∃ pre post, l = pre ++ a :: post ∧ pre.length = i ∧ p a = true := by
  induction l generalizing i with
  | nil => cases h
  | cons b l ih =>
    rw [locate_cons] at h
    by_cases h_b : p b = true
    · rw [if_pos h_b] at h
      cases h
      exact ⟨[], l, rfl, rfl, h_b⟩
    · rw [if_neg h_b] at h
      obtain ⟨⟨i', a'⟩, h_l, h_eq⟩ := Option.map_eq_some_iff.mp h
      cases h_eq
      obtain ⟨pre, post, rfl, rfl, h_a⟩ := ih h_l
      exact ⟨b :: pre, post, rfl, rfl, h_a⟩

theorem locate_eq_none (h : locate p l = none) (h_a : a ∈ l) : ¬ p a = true := by
  induction l with
  | nil => cases h_a
  | cons b l ih =>
    rw [locate_cons] at h
    by_cases h_b : p b = true
    · rw [if_pos h_b] at h
      cases h
    · rw [if_neg h_b] at h
      rcases List.mem_cons.mp h_a with rfl | h_mem
      · exact h_b
      · exact ih (Option.map_eq_none_iff.mp h) h_mem

/-- Another entry in the place of the first one that meets `p`. -/
theorem locate_set (h : locate p l = some (i, a)) (h_b : p b = true) :
    locate p (l.set i b) = some (i, b) := by
  induction l generalizing i with
  | nil => cases h
  | cons c l ih =>
    rw [locate_cons] at h
    by_cases h_c : p c = true
    · rw [if_pos h_c] at h
      cases h
      rw [List.set_cons_zero, locate_cons, if_pos h_b]
    · rw [if_neg h_c] at h
      obtain ⟨⟨i', a'⟩, h_l, h_eq⟩ := Option.map_eq_some_iff.mp h
      cases h_eq
      rw [List.set_cons_succ, locate_cons, if_neg h_c, ih h_l]
      rfl

theorem getElem?_at (h_i : pre.length = i) : (pre ++ a :: post)[i]? = some a := by
  subst h_i
  rw [List.getElem?_append_right (Nat.le_refl _), Nat.sub_self, List.getElem?_cons_zero]

theorem eraseIdx_at (h_i : pre.length = i) : (pre ++ a :: post).eraseIdx i = pre ++ post := by
  subst h_i
  rw [List.eraseIdx_append_of_length_le (Nat.le_refl _), Nat.sub_self, List.eraseIdx_cons_zero]

theorem set_at (h_i : pre.length = i) : (pre ++ a :: post).set i b = pre ++ b :: post := by
  subst h_i
  rw [List.set_append_right _ _ (Nat.le_refl _), Nat.sub_self, List.set_cons_zero]

end Positions

-- ============================================================================
-- Waiting entries
-- ============================================================================

/-- What the entries of a list wait for. -/
structure Waiting (E J S : Type) where
  /-- The job whose completion the entry waits for. -/
  job : E → Option J
  /-- The stages that the job of the entry may be in. -/
  fits : E → S → Prop
  /-- An entry without a job that the next pass takes up. -/
  timed : E → Prop

variable {E J S O : Type}

/-- Each entry waits for an outstanding job that is known under `o`, or for the next pass. -/
structure Attended (w : Waiting E J S) (stage : J → Option S) (owner : J → Option O)
    (o : Option O) (l : List E) : Prop where
  distinct : (l.filterMap w.job).Nodup
  outstanding : ∀ e ∈ l, ∀ j ∈ w.job e, owner j = o ∧ ∃ s ∈ stage j, w.fits e s
  timed : ∀ e ∈ l, w.job e = none → w.timed e

namespace Attended

variable {w : Waiting E J S} {stage stage' : J → Option S} {owner owner' : J → Option O}
  {o : Option O} {l pre post : List E} {e e' : E}

theorem nil : Attended w stage owner o [] where
  distinct := List.nodup_nil
  outstanding _ h := absurd h List.not_mem_nil
  timed _ h := absurd h List.not_mem_nil

/-- Changes to other jobs do not matter. -/
theorem frame (h : Attended w stage owner o l)
    (h_frame : ∀ j s, owner j = o → stage j = some s → stage' j = some s ∧ owner' j = owner j) :
    Attended w stage' owner' o l where
  distinct := h.distinct
  outstanding e h_e j h_j := by
    obtain ⟨h_owner, s, h_s, h_fits⟩ := h.outstanding e h_e j h_j
    obtain ⟨h_stage', h_owner'⟩ := h_frame j s h_owner h_s
    exact ⟨h_owner'.trans h_owner, s, h_stage', h_fits⟩
  timed := h.timed

/-- No other entry waits for the job of `e`. -/
theorem job_ne (h : Attended w stage owner o (pre ++ e :: post)) {x : E} {j : J}
    (h_x : x ∈ pre ++ post) (h_j : w.job x = some j) : w.job e ≠ some j := by
  intro h_e
  have h_distinct := h.distinct
  rw [List.filterMap_append, List.filterMap_cons_some h_e, List.nodup_append] at h_distinct
  obtain ⟨-, h_post, h_apart⟩ := h_distinct
  rcases List.mem_append.mp h_x with h_x | h_x
  · exact h_apart j (List.mem_filterMap.mpr ⟨x, h_x, h_j⟩) j List.mem_cons_self rfl
  · exact (List.nodup_cons.mp h_post).1 (List.mem_filterMap.mpr ⟨x, h_x, h_j⟩)

/-- Take one entry out. -/
theorem take (h : Attended w stage owner o (pre ++ e :: post))
    (h_frame : ∀ j s, w.job e ≠ some j → stage j = some s →
      stage' j = some s ∧ owner' j = owner j) :
    Attended w stage' owner' o (pre ++ post) where
  distinct := by
    refine List.Nodup.sublist (List.Sublist.filterMap _ ?_) h.distinct
    exact List.Sublist.append_left (List.sublist_cons_self e post) pre
  outstanding x h_x j h_j := by
    have h_mem : x ∈ pre ++ e :: post :=
      (List.Sublist.append_left (List.sublist_cons_self e post) pre).subset h_x
    obtain ⟨h_owner, s, h_s, h_fits⟩ := h.outstanding x h_mem j h_j
    obtain ⟨h_stage', h_owner'⟩ := h_frame j s (h.job_ne h_x h_j) h_s
    exact ⟨h_owner'.trans h_owner, s, h_stage', h_fits⟩
  timed x h_x :=
    h.timed x ((List.Sublist.append_left (List.sublist_cons_self e post) pre).subset h_x)

/-- Insert one entry. -/
theorem insert (h : Attended w stage owner o (pre ++ post))
    (h_fresh : ∀ x ∈ pre ++ post, ∀ j ∈ w.job e, w.job x ≠ some j)
    (h_outstanding : ∀ j ∈ w.job e, owner j = o ∧ ∃ s ∈ stage j, w.fits e s)
    (h_timed : w.job e = none → w.timed e) :
    Attended w stage owner o (pre ++ e :: post) where
  distinct := by
    rw [(List.perm_middle.filterMap w.job).nodup_iff]
    cases h_e : w.job e with
    | none =>
      rw [List.filterMap_cons_none h_e]
      exact h.distinct
    | some j =>
      rw [List.filterMap_cons_some h_e, List.nodup_cons]
      refine ⟨fun h_mem => ?_, h.distinct⟩
      obtain ⟨x, h_x, h_j⟩ := List.mem_filterMap.mp h_mem
      exact h_fresh x h_x j h_e h_j
  outstanding x h_x := by
    rcases List.mem_cons.mp (List.perm_middle.mem_iff.mp h_x) with rfl | h_x
    · exact h_outstanding
    · exact h.outstanding x h_x
  timed x h_x := by
    rcases List.mem_cons.mp (List.perm_middle.mem_iff.mp h_x) with rfl | h_x
    · exact h_timed
    · exact h.timed x h_x

/-- Put another entry in the place of one. -/
theorem put (h : Attended w stage owner o (pre ++ e :: post))
    (h_frame : ∀ j s, w.job e ≠ some j → stage j = some s →
      stage' j = some s ∧ owner' j = owner j)
    (h_fresh : ∀ j ∈ w.job e', w.job e = some j ∨ stage j = none)
    (h_outstanding : ∀ j ∈ w.job e', owner' j = o ∧ ∃ s ∈ stage' j, w.fits e' s)
    (h_timed : w.job e' = none → w.timed e') :
    Attended w stage' owner' o (pre ++ e' :: post) := by
  refine (h.take h_frame).insert (fun x h_x j h_j h_same => ?_) h_outstanding h_timed
  rcases h_fresh j h_j with h_e | h_none
  · exact h.job_ne h_x h_same h_e
  · have h_mem : x ∈ pre ++ e :: post :=
      (List.Sublist.append_left (List.sublist_cons_self e post) pre).subset h_x
    obtain ⟨-, s, h_s, -⟩ := h.outstanding x h_mem j h_same
    rw [h_none] at h_s
    cases h_s

end Attended

end Kelpie.Lib
