/-
  Kelpie.Slice.Names

  Herdr-legal public names, derived from raw texts, working directories and panes.

  A raw text is mapped, collapsed and trimmed at both ends before it is cut to 32
  characters.  Nothing trims it after the cut, which may leave a separator at its
  end.
-/

import Kelpie.Store.Sinks
import Mathlib.Data.List.Destutter
import Mathlib.Data.List.DropRight

namespace Kelpie

-- ============================================================================
-- Derivation
-- ============================================================================

/-- `HERDR_NAME_MAX`. -/
def herdrNameMax : Nat := 32

/-- The characters that separate the parts of a name. -/
def IsSeparator (ch : Char) : Prop := ch = '-' ∨ ch = '_'

instance : DecidablePred IsSeparator := fun ch =>
  inferInstanceAs (Decidable (ch = '-' ∨ ch = '_'))

/-- `is_ascii_whitespace`. -/
def isAsciiWhitespace (ch : Char) : Bool :=
  ch = ' ' || ch = '\t' || ch = '\n' || ch = '\x0c' || ch = '\r'

/-- What a character of the raw text becomes in the name. -/
def mapped (ch : Char) : Option Char :=
  if ch.isUpper then some ch.toLower
  else if ch.isLower || ch.isDigit || ch = '-' || ch = '_' then some ch
  else if isAsciiWhitespace ch || ch = '.' || ch = ':' || ch = '/' then some '-'
  else none

/-- Append a character as names spell it, and no second dash. -/
def pushMapped (out : List Char) (ch : Char) : List Char :=
  match mapped ch with
  | some next => if next = '-' ∧ out.getLast? = some '-' then out else out ++ [next]
  | none => out

/-- Sanitize raw text into a Herdr-legal name, or `none` if nothing legal remains. -/
def sanitizeHerdrName (raw : String) : Option String :=
  let out := raw.toList.foldl pushMapped []
  let out := out.dropWhile fun ch => !ch.isLower
  let out := out.rdropWhile IsSeparator
  if out = [] then none
  else
    let name := String.ofList (out.take herdrNameMax)
    if validHerdrName name then some name else none

/-- `Path::file_name`: the last component of the path, if it is a name. -/
def fileName (path : String) : Option String :=
  let components := (path.toList.splitOn '/').filter fun c => c ≠ [] ∧ c ≠ ['.']
  match components.getLast? with
  | none | some ['.', '.'] => none
  | some name => some (String.ofList name)

/-- The name that the working directory suggests. -/
def basenameCandidate (workingDirectory : String) : Option String :=
  (fileName workingDirectory).bind sanitizeHerdrName

/-- A public name is not a valid Herdr agent name or cannot be derived. -/
abbrev NameError := String

/-- Derive the canonical lookup alias from a working-directory basename. -/
def canonicalCwdAlias (workingDirectory : String) : Except NameError String :=
  match basenameCandidate workingDirectory with
  | some name => .ok name
  | none => .error "cannot derive a Herdr-legal name from the working directory"

/-- The name with the suffix, cut before it to the length that Herdr takes. -/
def fitSuffixedName (base suffix : String) : Option String :=
  let needed := suffix.utf8ByteSize + 1
  if herdrNameMax ≤ needed then sanitizeHerdrName suffix
  else
    let keep := herdrNameMax - needed
    if keep = 0 then none
    else
      let stem := (base.toList.take keep).rdropWhile IsSeparator
      if stem = [] then none
      else
        let name := String.ofList stem ++ "-" ++ suffix
        if validHerdrName name then some name else none

/-- The text of the pane ID without its colons. -/
def paneText (paneId : String) : String := String.ofList (paneId.toList.filter (· ≠ ':'))

/-- Derive the preferred live name for an unnamed occupant. -/
def alignedLiveName (workingDirectory paneId : String) (taken : List String) :
    Except NameError String :=
  match (basenameCandidate workingDirectory).or (sanitizeHerdrName (paneText paneId)) with
  | none => .error "cannot derive a Herdr-legal public name"
  | some base =>
    if base ∉ taken then .ok base
    else
      match sanitizeHerdrName (paneText paneId) with
      | none => .error "cannot derive a stable pane suffix for a colliding name"
      | some suffix =>
        match fitSuffixedName base suffix with
        | none => .error "colliding name cannot fit a pane suffix within 32 characters"
        | some candidate =>
          if candidate ∈ taken then .error s!"derived name {candidate} is already used"
          else .ok candidate

-- ============================================================================
-- Collapsed texts
-- ============================================================================

/-- The characters are not two hyphens. -/
def Parted (a b : Char) : Prop := ¬ (a = '-' ∧ b = '-')

instance : DecidableRel Parted := fun a b => inferInstanceAs (Decidable (¬ (a = '-' ∧ b = '-')))

/-- The characters that a name is made of. -/
def NameChar (ch : Char) : Prop := ch.isLower ∨ ch.isDigit ∨ IsSeparator ch

/-- What the loop pushes is the mapped text with its runs of hyphens collapsed. -/
theorem foldl_pushMapped_concat {out : List Char} {last : Char} {l : List Char} :
    l.foldl pushMapped (out ++ [last]) =
      out ++ (l.filterMap mapped).destutter' Parted last := by
  induction l generalizing out last with
  | nil => rfl
  | cons ch l ih =>
    rw [List.foldl_cons, pushMapped]
    cases h_mapped : mapped ch with
    | none =>
      rw [List.filterMap_cons_none h_mapped]
      exact ih
    | some next =>
      rw [List.filterMap_cons_some h_mapped]
      dsimp only
      rw [List.getLast?_concat]
      by_cases h_hyphens : last = '-' ∧ next = '-'
      · rw [if_pos ⟨h_hyphens.2, congrArg some h_hyphens.1⟩,
          List.destutter'_cons_neg _ (not_not.mpr h_hyphens)]
        exact ih
      · rw [if_neg fun h => h_hyphens ⟨Option.some.inj h.2, h.1⟩, ih,
          List.destutter'_cons_pos _ h_hyphens, List.append_assoc]
        rfl

theorem foldl_pushMapped {l : List Char} :
    l.foldl pushMapped [] = (l.filterMap mapped).destutter Parted := by
  induction l with
  | nil => rfl
  | cons ch l ih =>
    rw [List.foldl_cons, pushMapped]
    cases h_mapped : mapped ch with
    | none =>
      rw [List.filterMap_cons_none h_mapped]
      exact ih
    | some next =>
      rw [List.filterMap_cons_some h_mapped, List.destutter_cons']
      dsimp only
      rw [if_neg fun h => nomatch h.2]
      exact foldl_pushMapped_concat

theorem isUpper_eq_true {ch : Char} : ch.isUpper = true ↔ 65 ≤ ch.toNat ∧ ch.toNat ≤ 90 := by
  have h_def : ch.isUpper = decide (ch.val ≥ 'A'.val ∧ ch.val ≤ 'Z'.val) := rfl
  simp only [h_def, decide_eq_true_eq, ge_iff_le, UInt32.le_iff_toNat_le]
  rfl

theorem isLower_eq_true {ch : Char} : ch.isLower = true ↔ 97 ≤ ch.toNat ∧ ch.toNat ≤ 122 := by
  have h_def : ch.isLower = (decide (ch.val ≥ 'a'.val) && decide (ch.val ≤ 'z'.val)) := rfl
  simp only [h_def, Bool.and_eq_true, decide_eq_true_eq, ge_iff_le, UInt32.le_iff_toNat_le]
  rfl

theorem isDigit_eq_true {ch : Char} : ch.isDigit = true ↔ 48 ≤ ch.toNat ∧ ch.toNat ≤ 57 := by
  simp only [Char.isDigit, Bool.and_eq_true, decide_eq_true_eq, ge_iff_le, UInt32.le_iff_toNat_le]
  rfl

theorem isLower_toLower {ch : Char} (h : ch.isUpper = true) : ch.toLower.isLower = true := by
  have h_upper := isUpper_eq_true.mp h
  have h_val : ch.val ≥ 'A'.val ∧ ch.val ≤ 'Z'.val := of_decide_eq_true h
  have h_nat : ch.toLower.toNat = ch.toNat + 32 := by
    have h_def : ch.toLower = ⟨ch.val + ('a'.val - 'A'.val), _⟩ := dif_pos h_val
    rw [h_def]
    show (ch.val + ('a'.val - 'A'.val)).toNat = ch.val.toNat + 32
    rw [UInt32.toNat_add, Nat.mod_eq_of_lt]
    · rfl
    · show ch.toNat + 32 < 2 ^ 32
      omega
  rw [isLower_eq_true, h_nat]
  omega

theorem mapped_nameChar {ch ch' : Char} (h : mapped ch = some ch') : NameChar ch' := by
  unfold mapped at h
  split at h
  · cases h
    exact .inl (isLower_toLower (by assumption))
  · split at h
    · cases h
      unfold NameChar IsSeparator
      simp_all
      tauto
    · split at h
      · cases h
        exact .inr (.inr (.inl rfl))
      · cases h

/-- The characters of names map to themselves. -/
theorem mapped_of_nameChar {ch : Char} (h : NameChar ch) : mapped ch = some ch := by
  have h_upper : ch.isUpper = false := by
    rcases h with h | h | rfl | rfl
    · rw [isLower_eq_true] at h
      rw [← Bool.not_eq_true, isUpper_eq_true]
      omega
    · rw [isDigit_eq_true] at h
      rw [← Bool.not_eq_true, isUpper_eq_true]
      omega
    · rfl
    · rfl
  have h_kept : (ch.isLower || ch.isDigit || ch = '-' || ch = '_') = true := by
    unfold NameChar IsSeparator at h
    simp only [Bool.or_eq_true, decide_eq_true_eq]
    tauto
  rw [mapped, if_neg (by simp [h_upper]), if_pos h_kept]

-- ============================================================================
-- Names
-- ============================================================================

/-- A letter, and after it letters, digits and separators, no two hyphens side by side. -/
structure Named (cs : List Char) : Prop where
  begins : ∃ ch ∈ cs.head?, ch.isLower
  chars : ∀ ch ∈ cs, NameChar ch
  apart : cs.IsChain Parted

/-- The text ends in a separator. -/
def EndsInSeparator (cs : List Char) : Prop := ∃ ch ∈ cs.getLast?, IsSeparator ch

instance : DecidablePred EndsInSeparator := fun cs =>
  decidable_of_iff (cs.getLast?.any (decide <| IsSeparator ·) = true) <| by
    simp [EndsInSeparator, Option.any_eq_true]

theorem Named.ne_nil {cs : List Char} (h : Named cs) : cs ≠ [] := by
  rintro rfl
  obtain ⟨ch, h_ch, -⟩ := h.begins
  cases h_ch

theorem Named.front {cs cs' : List Char} (h : Named cs) (h_front : cs' <+: cs)
    (h_ne : cs' ≠ []) : Named cs' where
  begins := by
    obtain ⟨rest, rfl⟩ := h_front
    have h_begins := h.begins
    rwa [List.head?_append_of_ne_nil _ h_ne] at h_begins
  chars ch h_ch := h.chars ch (h_front.mem h_ch)
  apart := h.apart.prefix h_front

/-- Two names with a hyphen between them. -/
theorem Named.append {stem suffix : List Char} (h : Named stem) (h_end : ¬ EndsInSeparator stem)
    (h' : Named suffix) : Named (stem ++ '-' :: suffix) where
  begins := by
    rw [List.head?_append_of_ne_nil _ h.ne_nil]
    exact h.begins
  chars ch h_ch := by
    rcases List.mem_append.mp h_ch with h_stem | h_rest
    · exact h.chars ch h_stem
    · rcases List.mem_cons.mp h_rest with rfl | h_suffix
      · exact .inr (.inr (.inl rfl))
      · exact h'.chars ch h_suffix
  apart := by
    refine List.isChain_append.mpr ⟨h.apart, ?_, ?_⟩
    · refine List.isChain_cons.mpr ⟨fun ch h_ch h_hyphens => ?_, h'.apart⟩
      obtain ⟨ch', h_ch', h_lower⟩ := h'.begins
      obtain rfl := Option.mem_unique h_ch h_ch'
      rw [h_hyphens.2] at h_lower
      exact absurd h_lower (by decide)
    · intro ch h_ch _ _ h_hyphens
      exact h_end ⟨ch, h_ch, .inl h_hyphens.1⟩

theorem validHerdrName_ofList {cs : List Char} (h : Named cs) :
    validHerdrName (String.ofList cs) = true ↔ cs.length ≤ herdrNameMax := by
  obtain ⟨ch, h_ch, h_lower⟩ := h.begins
  obtain ⟨rest, rfl⟩ := List.head?_eq_some_iff.mp h_ch
  have h_rest : rest.all (fun c => c.isLower || c.isDigit || c = '-' || c = '_') = true := by
    rw [List.all_eq_true]
    intro c h_c
    have h_char := h.chars c (List.mem_cons_of_mem _ h_c)
    unfold NameChar IsSeparator at h_char
    simp only [Bool.or_eq_true, decide_eq_true_eq]
    tauto
  unfold validHerdrName
  rw [String.toList_ofList]
  dsimp only
  rw [h_lower, h_rest, Bool.true_and, Bool.and_true, decide_eq_true_iff, List.length_cons]
  exact Iff.rfl

-- ============================================================================
-- Sanitized texts
-- ============================================================================

/-- The characters that the raw text leaves, its runs of hyphens collapsed, from the first
    letter on. -/
def nameChars (raw : String) : List Char :=
  ((raw.toList.filterMap mapped).destutter Parted).dropWhile fun ch => !ch.isLower

theorem named_nameChars {raw : String} (h : nameChars raw ≠ []) : Named (nameChars raw) where
  begins := by
    refine ⟨(nameChars raw).head h, List.head_mem_head? h, ?_⟩
    have h_head : (!((nameChars raw).head h).isLower) = false := List.head_dropWhile_not _ h
    rwa [Bool.not_eq_false'] at h_head
  chars ch h_ch := by
    have h_mem : ch ∈ raw.toList.filterMap mapped :=
      (List.destutter_sublist Parted _).subset ((List.dropWhile_suffix _).subset h_ch)
    obtain ⟨ch', -, h_mapped⟩ := List.mem_filterMap.mp h_mem
    exact mapped_nameChar h_mapped
  apart := (List.isChain_destutter Parted _).suffix (List.dropWhile_suffix _)

theorem sanitizeHerdrName_eq_some {raw name : String} : sanitizeHerdrName raw = some name ↔
    (nameChars raw).rdropWhile IsSeparator ≠ [] ∧
      name = String.ofList (((nameChars raw).rdropWhile IsSeparator).take herdrNameMax) := by
  have h_def : sanitizeHerdrName raw =
      if (nameChars raw).rdropWhile IsSeparator = [] then none
      else if validHerdrName (String.ofList
          (((nameChars raw).rdropWhile IsSeparator).take herdrNameMax)) then
        some (String.ofList (((nameChars raw).rdropWhile IsSeparator).take herdrNameMax))
      else none := by
    rw [sanitizeHerdrName, foldl_pushMapped]
    rfl
  rw [h_def]
  by_cases h_nil : (nameChars raw).rdropWhile IsSeparator = []
  · rw [if_pos h_nil]
    exact iff_of_false nofun fun h => h.1 h_nil
  · have h_chars : nameChars raw ≠ [] := by
      intro h_eq
      rw [h_eq, List.rdropWhile_nil] at h_nil
      exact h_nil rfl
    have h_named : Named (((nameChars raw).rdropWhile IsSeparator).take herdrNameMax) := by
      refine ((named_nameChars h_chars).front (List.rdropWhile_prefix _ _) h_nil).front
        (List.take_prefix _ _) ?_
      rw [ne_eq, List.take_eq_nil_iff, not_or]
      exact ⟨by decide, h_nil⟩
    rw [if_neg h_nil, if_pos ((validHerdrName_ofList h_named).mpr (List.length_take_le _ _))]
    constructor
    · intro h
      exact ⟨h_nil, (Option.some.inj h).symm⟩
    · rintro ⟨-, rfl⟩
      rfl

theorem rdropWhile_separators {cs : List Char} (h : ¬ EndsInSeparator cs) :
    cs.rdropWhile IsSeparator = cs := by
  refine List.rdropWhile_eq_self_iff.mpr fun h_ne h_last => h ?_
  exact ⟨cs.getLast h_ne, List.getLast_mem_getLast? h_ne, of_decide_eq_true h_last⟩

theorem not_endsInSeparator_rdropWhile {cs : List Char} :
    ¬ EndsInSeparator (cs.rdropWhile IsSeparator) := by
  rintro ⟨ch, h_ch, h_sep⟩
  obtain ⟨h_ne, rfl⟩ := List.mem_getLast?_eq_getLast h_ch
  exact List.rdropWhile_last_not _ _ h_ne (decide_eq_true h_sep)

/-- A name leaves all its characters. -/
theorem nameChars_of_named {name : String} (h : Named name.toList) :
    nameChars name = name.toList := by
  have h_mapped : name.toList.filterMap mapped = name.toList := by
    rw [List.filterMap_congr fun ch h_ch => mapped_of_nameChar (h.chars ch h_ch)]
    exact List.filterMap_some
  rw [nameChars, h_mapped, List.destutter_of_isChain _ _ h.apart]
  obtain ⟨ch, h_ch, h_lower⟩ := h.begins
  obtain ⟨rest, h_chars⟩ := List.head?_eq_some_iff.mp h_ch
  rw [h_chars, List.dropWhile_cons_of_neg]
  simp [h_lower]

/-- What a sanitized name is made of. -/
theorem named_of_sanitize {raw name : String} (h : sanitizeHerdrName raw = some name) :
    Named name.toList ∧ name.length ≤ herdrNameMax := by
  obtain ⟨h_ne, rfl⟩ := sanitizeHerdrName_eq_some.mp h
  have h_chars : nameChars raw ≠ [] := by
    intro h_eq
    rw [h_eq, List.rdropWhile_nil] at h_ne
    exact h_ne rfl
  rw [String.toList_ofList, String.length_ofList]
  refine ⟨((named_nameChars h_chars).front (List.rdropWhile_prefix _ _) h_ne).front
    (List.take_prefix _ _) ?_, List.length_take_le _ _⟩
  rw [ne_eq, List.take_eq_nil_iff, not_or]
  exact ⟨by decide, h_ne⟩

-- ============================================================================
-- Where the cut falls
-- ============================================================================

/-- The name is legal, ends in no separator, and is its own sanitized form. -/
structure Canonical (name : String) : Prop where
  valid : validHerdrName name = true
  ends : ¬ EndsInSeparator name.toList
  fixed : sanitizeHerdrName name = some name

/-- The 32nd character that the raw text leaves is a separator, and a letter or digit comes
    after it. -/
def CutAtSeparator (raw : String) : Prop :=
  ∃ ch ∈ (nameChars raw)[herdrNameMax - 1]?, IsSeparator ch ∧
    ∃ ch' ∈ (nameChars raw).drop herdrNameMax, ¬ IsSeparator ch'

instance : DecidablePred CutAtSeparator := fun raw => by
  unfold CutAtSeparator
  have h_after : Decidable (∃ ch ∈ (nameChars raw).drop herdrNameMax, ¬ IsSeparator ch) :=
    List.decidableBEx _ _
  have h_cut : DecidablePred fun ch => IsSeparator ch ∧
      ∃ ch' ∈ (nameChars raw).drop herdrNameMax, ¬ IsSeparator ch' := fun _ => inferInstance
  exact Option.decidableExistsMem _

theorem canonical_of_named {name : String} (h : Named name.toList)
    (h_length : name.length ≤ herdrNameMax) (h_end : ¬ EndsInSeparator name.toList) :
    Canonical name where
  valid := by
    rw [← String.ofList_toList (s := name), validHerdrName_ofList h]
    exact h_length
  ends := h_end
  fixed := by
    rw [sanitizeHerdrName_eq_some, nameChars_of_named h, rdropWhile_separators h_end,
      List.take_of_length_le h_length, String.ofList_toList]
    exact ⟨h.ne_nil, rfl⟩

/-- A text that is trimmed and then cut ends in a separator exactly where it is cut after a
    separator that something else follows. -/
theorem endsInSeparator_take_iff {cs : List Char} {n : Nat} :
    EndsInSeparator ((cs.rdropWhile IsSeparator).take (n + 1)) ↔
      ∃ ch ∈ cs[n]?, IsSeparator ch ∧ ∃ ch' ∈ cs.drop (n + 1), ¬ IsSeparator ch' := by
  have h_split : cs.rdropWhile IsSeparator ++ cs.rtakeWhile IsSeparator = cs :=
    List.rdropWhile_append_rtakeWhile
  have h_rest : ∀ ch ∈ cs.rtakeWhile IsSeparator, IsSeparator ch := by
    intro ch h_ch
    have h_sep := List.mem_rtakeWhile_imp (p := fun b => decide (IsSeparator b)) h_ch
    exact of_decide_eq_true h_sep
  have h_kept : ¬ EndsInSeparator (cs.rdropWhile IsSeparator) := not_endsInSeparator_rdropWhile
  generalize cs.rdropWhile IsSeparator = kept at h_split h_kept ⊢
  generalize cs.rtakeWhile IsSeparator = rest at h_split h_rest
  subst h_split
  by_cases h_length : kept.length ≤ n + 1
  · rw [List.take_of_length_le h_length]
    refine iff_of_false h_kept ?_
    rintro ⟨-, -, -, ch', h_ch', h_not⟩
    rw [List.drop_append, List.drop_eq_nil_of_le h_length, List.nil_append] at h_ch'
    exact h_not (h_rest ch' (List.mem_of_mem_drop h_ch'))
  · have h_lt : n < kept.length := by omega
    have h_ne : kept.drop (n + 1) ≠ [] := by
      rw [ne_eq, List.drop_eq_nil_iff]
      exact h_length
    have h_last : (kept.take (n + 1)).getLast? = some kept[n] := by
      rw [List.getLast?_take, if_neg (Nat.succ_ne_zero n), Nat.add_sub_cancel,
        List.getElem?_eq_getElem h_lt]
      rfl
    have h_follows : ∃ ch' ∈ (kept ++ rest).drop (n + 1), ¬ IsSeparator ch' := by
      refine ⟨(kept.drop (n + 1)).getLast h_ne, ?_, fun h_sep => ?_⟩
      · rw [List.drop_append, List.mem_append]
        exact .inl (List.getLast_mem h_ne)
      · rw [List.getLast_drop h_ne] at h_sep
        exact h_kept ⟨_, List.getLast_mem_getLast? _, h_sep⟩
    rw [EndsInSeparator, h_last, List.getElem?_append_left h_lt, List.getElem?_eq_getElem h_lt]
    constructor
    · rintro ⟨ch, h_ch, h_sep⟩
      exact ⟨ch, h_ch, h_sep, h_follows⟩
    · rintro ⟨ch, h_ch, h_sep, -⟩
      exact ⟨ch, h_ch, h_sep⟩

/-- A sanitized name is canonical exactly where the cut falls after no separator. -/
theorem canonical_sanitize_iff {raw name : String} (h : sanitizeHerdrName raw = some name) :
    Canonical name ↔ ¬ CutAtSeparator raw := by
  obtain ⟨h_named, h_length⟩ := named_of_sanitize h
  obtain ⟨-, rfl⟩ := sanitizeHerdrName_eq_some.mp h
  have h_ends : EndsInSeparator (String.ofList
      (((nameChars raw).rdropWhile IsSeparator).take herdrNameMax)).toList ↔
      CutAtSeparator raw := by
    rw [String.toList_ofList]
    exact endsInSeparator_take_iff
  rw [← h_ends]
  exact ⟨Canonical.ends, canonical_of_named h_named h_length⟩

/-- A text that is cut at a separator has a name. -/
theorem CutAtSeparator.sanitizes {raw : String} (h : CutAtSeparator raw) :
    ∃ name, sanitizeHerdrName raw = some name := by
  refine ⟨_, sanitizeHerdrName_eq_some.mpr ⟨?_, rfl⟩⟩
  have h_ends := endsInSeparator_take_iff.mpr h
  intro h_nil
  rw [h_nil, List.take_nil] at h_ends
  obtain ⟨ch, h_ch, -⟩ := h_ends
  cases h_ch

theorem forall_sanitize_canonical_iff {raw : String} :
    (∀ name, sanitizeHerdrName raw = some name → Canonical name) ↔ ¬ CutAtSeparator raw := by
  constructor
  · intro h h_cut
    obtain ⟨name, h_name⟩ := h_cut.sanitizes
    exact (canonical_sanitize_iff h_name).mp (h name h_name) h_cut
  · intro h name h_name
    exact (canonical_sanitize_iff h_name).mpr h

-- ============================================================================
-- Suffixed names
-- ============================================================================

theorem utf8ByteSize_of_named {name : String} (h : Named name.toList) :
    name.utf8ByteSize = name.length := by
  have h_ascii : ∀ cs : List Char, (∀ ch ∈ cs, NameChar ch) →
      (String.ofList cs).utf8ByteSize = cs.length := by
    intro cs
    induction cs with
    | nil => exact fun _ => rfl
    | cons ch cs ih =>
      intro h_chars
      have h_one : ch.utf8Size = 1 := by
        rw [Char.utf8Size_eq_one_iff]
        show ch.toNat ≤ 127
        rcases h_chars ch List.mem_cons_self with h | h | rfl | rfl
        · exact (isLower_eq_true.mp h).2.trans (by decide)
        · exact (isDigit_eq_true.mp h).2.trans (by decide)
        · decide
        · decide
      rw [String.ofList_cons, String.utf8ByteSize_append, String.utf8ByteSize_singleton, h_one,
        ih fun c h_c => h_chars c (List.mem_cons_of_mem _ h_c), List.length_cons, Nat.add_comm]
  have h_size := h_ascii name.toList h.chars
  rwa [String.ofList_toList, String.length_toList] at h_size

/-- A name that its pane suffix does not fit gives way to the suffix. -/
theorem fitSuffixedName_cases {base suffix name : String}
    (h : fitSuffixedName base suffix = some name) :
    (herdrNameMax ≤ suffix.utf8ByteSize + 1 ∧ sanitizeHerdrName suffix = some name) ∨
      (suffix.utf8ByteSize + 1 < herdrNameMax ∧ validHerdrName name = true ∧
        ∃ stem, stem <+: base.toList ∧ stem ≠ [] ∧ ¬ EndsInSeparator stem ∧
          name = String.ofList stem ++ "-" ++ suffix) := by
  unfold fitSuffixedName at h
  dsimp only at h
  split at h
  · exact .inl ⟨by assumption, h⟩
  · rename_i h_fits
    split at h
    · cases h
    · split at h
      · cases h
      · split at h
        · cases h
          exact .inr ⟨Nat.lt_of_not_le h_fits, by assumption, _,
            (List.rdropWhile_prefix _ _).trans (List.take_prefix _ _), by assumption,
            not_endsInSeparator_rdropWhile, rfl⟩
        · cases h

theorem validHerdrName_length {name : String} (h : validHerdrName name = true) :
    name.length ≤ herdrNameMax := by
  unfold validHerdrName at h
  split at h
  · cases h
  · rename_i first rest h_chars
    simp only [Bool.and_eq_true, decide_eq_true_eq] at h
    rw [← String.length_toList, h_chars, List.length_cons]
    exact h.1.2

theorem fitSuffixedName_length {base suffix name : String}
    (h : fitSuffixedName base suffix = some name) : name.length ≤ herdrNameMax := by
  rcases fitSuffixedName_cases h with ⟨-, h_name⟩ | ⟨-, h_valid, -⟩
  · exact (named_of_sanitize h_name).2
  · exact validHerdrName_length h_valid

/-- Only a name of full length ends in a separator. -/
theorem length_of_endsInSeparator {raw name : String} (h : sanitizeHerdrName raw = some name)
    (h_end : EndsInSeparator name.toList) : name.length = herdrNameMax := by
  obtain ⟨-, rfl⟩ := sanitizeHerdrName_eq_some.mp h
  rw [String.toList_ofList] at h_end
  rw [String.length_ofList]
  by_contra h_length
  rw [List.take_of_length_le] at h_end
  · exact not_endsInSeparator_rdropWhile h_end
  · rw [List.length_take] at h_length
    omega

/-- A name loses its separators at the end when it is sanitized again. -/
theorem sanitizeHerdrName_again {name : String} (h : Named name.toList)
    (h_length : name.length ≤ herdrNameMax) :
    sanitizeHerdrName name = some (String.ofList (name.toList.rdropWhile IsSeparator)) := by
  have h_short : (name.toList.rdropWhile IsSeparator).length ≤ herdrNameMax :=
    (List.rdropWhile_prefix _ _).length_le.trans h_length
  rw [sanitizeHerdrName_eq_some, nameChars_of_named h, List.take_of_length_le h_short]
  refine ⟨fun h_nil => ?_, rfl⟩
  obtain ⟨ch, h_ch, h_lower⟩ := h.begins
  have h_sep := List.rdropWhile_eq_nil_iff.mp h_nil ch (List.mem_of_mem_head? h_ch)
  rcases of_decide_eq_true h_sep with rfl | rfl <;> exact absurd h_lower (by decide)

/-- A pane suffix that is cut at a separator loses it where it takes the name's place. -/
theorem fitSuffixedName_suffix_iff {raw suffix : String} (h : sanitizeHerdrName raw = some suffix) :
    (∀ base name, fitSuffixedName base suffix = some name → suffix.toList <:+ name.toList) ↔
      ¬ CutAtSeparator raw := by
  obtain ⟨h_named, h_length⟩ := named_of_sanitize h
  rw [← canonical_sanitize_iff h]
  constructor
  · intro h_keeps
    refine canonical_of_named h_named h_length fun h_end => ?_
    have h_again := sanitizeHerdrName_again h_named h_length
    have h_fit : fitSuffixedName "" suffix =
        some (String.ofList (suffix.toList.rdropWhile IsSeparator)) := by
      rw [fitSuffixedName, utf8ByteSize_of_named h_named, length_of_endsInSeparator h h_end,
        if_pos (Nat.le_succ _), h_again]
    have h_suffix := h_keeps _ _ h_fit
    rw [String.toList_ofList] at h_suffix
    have h_same := (List.rdropWhile_prefix _ _).eq_of_length_le h_suffix.length_le
    rw [← h_same] at h_end
    exact not_endsInSeparator_rdropWhile h_end
  · intro h_canonical base name h_fit
    rcases fitSuffixedName_cases h_fit with ⟨-, h_name⟩ | ⟨-, -, stem, -, -, -, rfl⟩
    · obtain rfl := Option.some.inj (h_canonical.fixed.symm.trans h_name)
      exact List.suffix_rfl
    · rw [String.toList_append]
      exact List.suffix_append _ _

/-- A suffixed name is canonical. -/
theorem canonical_fitSuffixedName {base raw suffix name : String} (h_base : Named base.toList)
    (h : sanitizeHerdrName raw = some suffix) (h_fit : fitSuffixedName base suffix = some name) :
    Canonical name := by
  obtain ⟨h_named, h_length⟩ := named_of_sanitize h
  rcases fitSuffixedName_cases h_fit with ⟨-, h_name⟩ |
    ⟨h_short, h_valid, stem, h_front, h_ne, h_stem, rfl⟩
  · rw [canonical_sanitize_iff h_name]
    rintro ⟨-, -, -, ch, h_ch, -⟩
    rw [nameChars_of_named h_named, List.drop_eq_nil_of_le h_length] at h_ch
    cases h_ch
  · have h_chars : (String.ofList stem ++ "-" ++ suffix).toList = stem ++ '-' :: suffix.toList := by
      rw [String.toList_append, String.toList_append, String.toList_ofList, List.append_assoc]
      rfl
    refine canonical_of_named ?_ (validHerdrName_length h_valid) ?_ <;> rw [h_chars]
    · exact (h_base.front h_front h_ne).append h_stem h_named
    · rintro ⟨ch, h_ch, h_sep⟩
      have h_last : ch ∈ suffix.toList.getLast? := by
        rwa [List.getLast?_append_of_ne_nil _ (List.cons_ne_nil _ _),
          List.getLast?_cons_of_ne_nil h_named.ne_nil] at h_ch
      have h_full := length_of_endsInSeparator h ⟨ch, h_last, h_sep⟩
      rw [utf8ByteSize_of_named h_named, h_full] at h_short
      omega

-- ============================================================================
-- Live names
-- ============================================================================

/-- The text that a live name is derived from: the basename of the working directory, or the
    pane where that leaves nothing. -/
def nameSource (workingDirectory paneId : String) : String :=
  match fileName workingDirectory with
  | some name => if (sanitizeHerdrName name).isSome then name else paneText paneId
  | none => paneText paneId

theorem sanitize_nameSource {workingDirectory paneId : String} :
    (basenameCandidate workingDirectory).or (sanitizeHerdrName (paneText paneId)) =
      sanitizeHerdrName (nameSource workingDirectory paneId) := by
  unfold basenameCandidate nameSource
  cases fileName workingDirectory with
  | none => rw [Option.bind_none, Option.none_or]
  | some name =>
    rw [Option.bind_some]
    dsimp only
    by_cases h_some : (sanitizeHerdrName name).isSome
    · rw [if_pos h_some, Option.or_of_isSome h_some]
    · rw [if_neg h_some, Option.not_isSome_iff_eq_none.mp h_some, Option.none_or]

/-- A live name is its base where that is free, and else a suffixed name that is free. -/
theorem alignedLiveName_ok {workingDirectory paneId name : String} {taken : List String} :
    alignedLiveName workingDirectory paneId taken = .ok name ↔
      ∃ base, sanitizeHerdrName (nameSource workingDirectory paneId) = some base ∧
        (base ∉ taken ∧ name = base ∨ base ∈ taken ∧ name ∉ taken ∧
          ∃ suffix, sanitizeHerdrName (paneText paneId) = some suffix ∧
            fitSuffixedName base suffix = some name) := by
  unfold alignedLiveName
  rw [sanitize_nameSource]
  cases sanitizeHerdrName (nameSource workingDirectory paneId) with
  | none => simp
  | some base =>
    dsimp only
    by_cases h_taken : base ∈ taken
    · rw [if_neg (not_not.mpr h_taken)]
      cases sanitizeHerdrName (paneText paneId) with
      | none => simp [h_taken]
      | some suffix =>
        dsimp only
        cases h_fit : fitSuffixedName base suffix with
        | none => simp [h_taken, h_fit]
        | some candidate =>
          dsimp only
          by_cases h_candidate : candidate ∈ taken
          · rw [if_pos h_candidate]
            refine iff_of_false nofun ?_
            rintro ⟨_, ⟨⟩, ⟨h_free, -⟩ | ⟨-, h_free, _, ⟨⟩, h_fit'⟩⟩
            · exact h_free h_taken
            · rw [h_fit] at h_fit'
              exact h_free (Option.some.inj h_fit' ▸ h_candidate)
          · rw [if_neg h_candidate]
            constructor
            · intro h
              obtain rfl := Except.ok.inj h
              exact ⟨base, rfl, .inr ⟨h_taken, h_candidate, suffix, rfl, h_fit⟩⟩
            · rintro ⟨_, ⟨⟩, ⟨h_free, -⟩ | ⟨-, -, _, ⟨⟩, h_fit'⟩⟩
              · exact absurd h_taken h_free
              · rw [h_fit] at h_fit'
                exact congrArg Except.ok (Option.some.inj h_fit')
    · rw [if_pos h_taken]
      simp [h_taken, eq_comm]

/-- Derived names are canonical, and a live name keeps its whole pane suffix, except where the
    text that a name is derived from is cut at a separator. -/
theorem derived_names_canonical_iff (raw workingDirectory paneId : String) (taken : List String) :
    ((∀ name, sanitizeHerdrName raw = some name → Canonical name) ↔ ¬ CutAtSeparator raw) ∧
    ((∀ name, canonicalCwdAlias workingDirectory = .ok name → Canonical name) ↔
      ∀ base ∈ fileName workingDirectory, ¬ CutAtSeparator base) ∧
    ((∀ name, alignedLiveName workingDirectory paneId taken = .ok name →
        Canonical name ∧ name ∉ taken) ↔
      (CutAtSeparator (nameSource workingDirectory paneId) →
        ∃ base ∈ taken, sanitizeHerdrName (nameSource workingDirectory paneId) = some base)) ∧
    ∀ suffix, sanitizeHerdrName (paneText paneId) = some suffix →
      ((∀ base name, fitSuffixedName base suffix = some name →
          name.length ≤ herdrNameMax ∧ suffix.toList <:+ name.toList) ↔
        ¬ CutAtSeparator (paneText paneId)) := by
  refine ⟨forall_sanitize_canonical_iff, ?_, ?_, ?_⟩
  · unfold canonicalCwdAlias basenameCandidate
    cases fileName workingDirectory with
    | none => simp
    | some base =>
      rw [Option.bind_some]
      simp only [Option.mem_some_iff, forall_eq']
      rw [← forall_sanitize_canonical_iff]
      cases sanitizeHerdrName base <;> simp
  · constructor
    · intro h h_cut
      obtain ⟨base, h_base⟩ := h_cut.sanitizes
      refine ⟨base, ?_, h_base⟩
      by_contra h_free
      obtain ⟨h_canonical, -⟩ := h base (alignedLiveName_ok.mpr ⟨base, h_base, .inl ⟨h_free, rfl⟩⟩)
      exact (canonical_sanitize_iff h_base).mp h_canonical h_cut
    · intro h name h_name
      obtain ⟨base, h_base, ⟨h_free, rfl⟩ | ⟨-, h_free, suffix, h_suffix, h_fit⟩⟩ :=
        alignedLiveName_ok.mp h_name
      · refine ⟨(canonical_sanitize_iff h_base).mpr fun h_cut => ?_, h_free⟩
        obtain ⟨base, h_taken, h_base'⟩ := h h_cut
        obtain rfl := Option.some.inj (h_base.symm.trans h_base')
        exact h_free h_taken
      · exact ⟨canonical_fitSuffixedName (named_of_sanitize h_base).1 h_suffix h_fit, h_free⟩
  · intro suffix h_suffix
    rw [← fitSuffixedName_suffix_iff h_suffix]
    exact ⟨fun h base name h_fit => (h base name h_fit).2,
      fun h base name h_fit => ⟨fitSuffixedName_length h_fit, h base name h_fit⟩⟩

/-- A text of 31 letters, a hyphen and a letter: the cut leaves the hyphen. -/
theorem derived_name_ends_in_separator : ∃ raw name, sanitizeHerdrName raw = some name ∧
    EndsInSeparator name.toList ∧ sanitizeHerdrName name ≠ some name :=
  ⟨"aaaaaaaaaaaaaaaaaaaaaaaaaaaaaaa-b", "aaaaaaaaaaaaaaaaaaaaaaaaaaaaaaa-",
    by decide +kernel, by decide +kernel, by decide +kernel⟩

end Kelpie
