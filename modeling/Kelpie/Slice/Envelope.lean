/-
  Kelpie.Slice.Envelope

  The envelope of a prepare prompt, and when its text tells the two prompts that
  it quotes apart.

  Both prompts are escaped, and so is the line that is to divide them: a prompt
  may spell the divider.
-/

import Kelpie.Lib.Texts
import Mathlib.Data.String.Basic
import Mathlib.Tactic.IntervalCases

namespace Kelpie

open Lib

-- ============================================================================
-- Rendering
-- ============================================================================

/-- Failures when composing a receiver envelope. -/
inductive EnvelopeError where
  | emptyAttribute
  | unsafeAttribute (text : String)
deriving DecidableEq, Repr

/-- How a character is written within an envelope. -/
def escapeChar : Char → List Char
  | '&' => ['&', 'a', 'm', 'p', ';']
  | '<' => ['&', 'l', 't', ';']
  | '>' => ['&', 'g', 't', ';']
  | ch => [ch]

/-- Escape untrusted body text so it cannot forge or terminate the envelope. -/
def escapeBody (body : String) : String := String.ofList (body.toList.flatMap escapeChar)

/-- The character may stand in an attribute without quotes. -/
def SafeAttr (ch : Char) : Prop :=
  ch.isAlphanum ∨ ch = '-' ∨ ch = '_' ∨ ch = '.' ∨ ch = ':' ∨ ch = '/'

instance : DecidablePred SafeAttr := fun ch => by
  unfold SafeAttr
  infer_instance

/-- An attribute, which must be safe without quotes. -/
def safeAttr (name value : String) : Except EnvelopeError String :=
  if value = "" then .error .emptyAttribute
  else if ∀ ch ∈ value.toList, SafeAttr ch then .ok value
  else .error (.unsafeAttribute s!"{name}={value}")

/-- The text before the resume prompt. -/
def renewPrepareHead (sender replyTo : String) (cycle deadlineMs : Int) : String :=
  s!"<kelpie-renew from={sender} reply-to={replyTo} prepare cycle={cycle} " ++
    s!"deadline-ms={deadlineMs}>\n" ++
    "Your context is being renewed so it stays a fixed size. This is routine, not a failure.\n" ++
    "You will be cleared and immediately resumed.\n\n" ++
    "Survives: files on disk, your working directory, your Kelpie identity, and every\n" ++
    "obligation you owe.\n" ++
    "Does not survive: this conversation, your in-context reasoning, and anything you have\n" ++
    "decided but not written down.\n\n" ++
    "Prepare now:\n"

/-- What stands between the two prompts. -/
def renewPrepareDivider : String :=
  "\n\nAfter the clear your only input will be the text below, quoted here for reference.\n" ++
    "Do not act on it now. Prepare so that it will be enough on its own.\n" ++
    "&lt;resume&gt;\n"

/-- The text behind it. -/
def renewPrepareTail (replyTo : String) : String :=
  "\n&lt;/resume&gt;\n\n" ++
    s!"Reply when your checkpoint is complete: kelpie reply {replyTo} --final\n" ++
    "Reply --defer if now is a bad time, or say so if some state could not be written down.\n" ++
    "</kelpie-renew>"

/-- Render the prompt that asks an agent to prepare for its clear. -/
def renderRenewPrepare (sender replyTo : String) (cycle deadlineMs : Int)
    (preparePrompt resumePrompt : String) : Except EnvelopeError String := do
  let sender ← safeAttr "from" sender
  let replyTo ← safeAttr "reply-to" replyTo
  return renewPrepareHead sender replyTo cycle deadlineMs ++ escapeBody preparePrompt ++
    renewPrepareDivider ++ escapeBody resumePrompt ++ renewPrepareTail replyTo

-- ============================================================================
-- Escaped texts
-- ============================================================================

theorem escapeChar_ne_nil (ch : Char) : escapeChar ch ≠ [] := by
  unfold escapeChar
  split <;> exact List.cons_ne_nil _ _

/-- The code of a character that is none of the three is itself. -/
theorem escapeChar_cases (ch : Char) :
    (ch = '&' ∨ ch = '<' ∨ ch = '>') ∨ (escapeChar ch = [ch] ∧ ch ≠ '&') := by
  unfold escapeChar
  split
  · exact .inl (.inl rfl)
  · exact .inl (.inr (.inl rfl))
  · exact .inl (.inr (.inr rfl))
  · exact .inr ⟨rfl, by assumption⟩

/-- The code of one of the three begins with an ampersand. -/
theorem head_escapeChar {ch : Char} (h : ch = '&' ∨ ch = '<' ∨ ch = '>') :
    ∃ code, escapeChar ch = '&' :: code := by
  rcases h with rfl | rfl | rfl <;> exact ⟨_, rfl⟩

theorem escapeChar_prefixFree : PrefixFree escapeChar := by
  intro a b u v h
  rcases escapeChar_cases a with h_a | ⟨h_a, h_a_ne⟩ <;>
    rcases escapeChar_cases b with h_b | ⟨h_b, h_b_ne⟩
  · rcases h_a with rfl | rfl | rfl <;> rcases h_b with rfl | rfl | rfl <;>
      simp_all [escapeChar]
  · obtain ⟨code, h_code⟩ := head_escapeChar h_a
    rw [h_code, h_b] at h
    exact absurd (List.cons.inj h).1.symm h_b_ne
  · obtain ⟨code, h_code⟩ := head_escapeChar h_b
    rw [h_a, h_code] at h
    exact absurd (List.cons.inj h).1 h_a_ne
  · rw [h_a, h_b] at h
    obtain ⟨rfl, h_rest⟩ := List.cons.inj h
    exact ⟨rfl, h_rest⟩

theorem escapeBody_append (a b : String) : escapeBody (a ++ b) = escapeBody a ++ escapeBody b := by
  unfold escapeBody
  rw [String.toList_append, List.flatMap_append, String.ofList_append]

theorem escapeBody_ofList {cs codes : List Char} (h : cs.flatMap escapeChar = codes) :
    escapeBody (String.ofList cs) = String.ofList codes := by
  rw [escapeBody, String.toList_ofList, h]

theorem escapeBody_injective : Function.Injective escapeBody := by
  intro a b h
  have h_codes : a.toList.flatMap escapeChar = b.toList.flatMap escapeChar := by
    have h_lists := congrArg String.toList h
    rwa [escapeBody, escapeBody, String.toList_ofList, String.toList_ofList] at h_lists
  exact String.toList_inj.mp (escapeChar_prefixFree.flatMap_injective escapeChar_ne_nil h_codes)

-- ============================================================================
-- Two prompts in one text
-- ============================================================================

/-- What a prompt has to hold so that the divider stands in its escaped text. -/
def renewPrepareForgery : String :=
  "\n\nAfter the clear your only input will be the text below, quoted here for reference.\n" ++
    "Do not act on it now. Prepare so that it will be enough on its own.\n" ++
    "<resume>\n"

theorem escapeBody_forgery : escapeBody renewPrepareForgery = renewPrepareDivider := by
  unfold renewPrepareForgery renewPrepareDivider
  rw [escapeBody_append, escapeBody_append]
  refine congrArg₂ (· ++ ·) (congrArg₂ (· ++ ·) ?_ ?_) ?_
  all_goals exact escapeBody_ofList (by decide +kernel)

theorem toList_forgery_ne_nil : renewPrepareForgery.toList ≠ [] := by
  unfold renewPrepareForgery
  rw [String.toList_append, String.toList_append, ne_eq, List.append_eq_nil_iff,
    List.append_eq_nil_iff]
  exact fun h => List.cons_ne_nil _ _ (String.toList_ofList.symm.trans h.1.1)

/-- The two prompts, as the text holds them. -/
def quoted (preparePrompt resumePrompt : String) : String :=
  preparePrompt ++ renewPrepareForgery ++ resumePrompt

theorem safeAttr_cases (name value : String) :
    safeAttr name value = .ok value ∨ ∃ e, safeAttr name value = .error e := by
  unfold safeAttr
  split
  · exact .inr ⟨_, rfl⟩
  · split
    · exact .inl rfl
    · exact .inr ⟨_, rfl⟩

theorem renderRenewPrepare_ok {sender replyTo : String} {cycle deadlineMs : Int}
    {preparePrompt resumePrompt text : String} :
    renderRenewPrepare sender replyTo cycle deadlineMs preparePrompt resumePrompt = .ok text ↔
      safeAttr "from" sender = .ok sender ∧ safeAttr "reply-to" replyTo = .ok replyTo ∧
        renewPrepareHead sender replyTo cycle deadlineMs ++
          escapeBody (quoted preparePrompt resumePrompt) ++ renewPrepareTail replyTo = text := by
  have h_text : escapeBody (quoted preparePrompt resumePrompt) =
      escapeBody preparePrompt ++ renewPrepareDivider ++ escapeBody resumePrompt := by
    rw [quoted, escapeBody_append, escapeBody_append, escapeBody_forgery]
  rw [h_text]
  unfold renderRenewPrepare
  rcases safeAttr_cases "from" sender with h_sender | ⟨e, h_sender⟩ <;> rw [h_sender]
  · rcases safeAttr_cases "reply-to" replyTo with h_reply | ⟨e, h_reply⟩ <;> rw [h_reply]
    · simp only [String.append_assoc]
      constructor
      · intro h
        exact ⟨trivial, trivial, Except.ok.inj h⟩
      · rintro ⟨-, -, rfl⟩
        rfl
    · exact iff_of_false nofun nofun
  · exact iff_of_false nofun nofun

/-- Two prompts render to the text of two others exactly where both pairs are quoted alike. -/
theorem quoted_eq_iff {sender replyTo : String} {cycle deadlineMs : Int}
    {preparePrompt resumePrompt text preparePrompt' resumePrompt' : String}
    (h : renderRenewPrepare sender replyTo cycle deadlineMs preparePrompt resumePrompt =
      .ok text) :
    renderRenewPrepare sender replyTo cycle deadlineMs preparePrompt' resumePrompt' = .ok text ↔
      quoted preparePrompt' resumePrompt' = quoted preparePrompt resumePrompt := by
  obtain ⟨h_sender, h_reply, rfl⟩ := renderRenewPrepare_ok.mp h
  rw [renderRenewPrepare_ok, String.append_assoc, String.append_assoc]
  constructor
  · rintro ⟨-, -, h_eq⟩
    exact escapeBody_injective
      (String.append_left_inj _ |>.mp (String.append_right_inj _ |>.mp h_eq))
  · rintro h_eq
    exact ⟨h_sender, h_reply, by rw [h_eq]⟩

/-- The text of a prepare prompt tells its two prompts exactly where the divider stands in
    them once. -/
theorem renew_prepare_unambiguous_iff {sender replyTo : String} {cycle deadlineMs : Int}
    {preparePrompt resumePrompt text : String}
    (h : renderRenewPrepare sender replyTo cycle deadlineMs preparePrompt resumePrompt =
      .ok text) :
    (∀ preparePrompt' resumePrompt',
      renderRenewPrepare sender replyTo cycle deadlineMs preparePrompt' resumePrompt' =
        .ok text → preparePrompt' = preparePrompt ∧ resumePrompt' = resumePrompt) ↔
    ∀ n, OccursAt renewPrepareForgery.toList (quoted preparePrompt resumePrompt).toList n →
      n = preparePrompt.length := by
  have h_toList (p r : String) :
      (quoted p r).toList = p.toList ++ renewPrepareForgery.toList ++ r.toList := by
    rw [quoted, String.toList_append, String.toList_append]
  rw [h_toList, ← String.length_toList, ← split_unique_iff toList_forgery_ne_nil]
  constructor
  · intro h_unique p r h_eq
    have h_quoted : quoted (String.ofList p) (String.ofList r) =
        quoted preparePrompt resumePrompt := by
      rw [← String.toList_inj, h_toList, h_toList, String.toList_ofList, String.toList_ofList]
      exact h_eq
    obtain ⟨h_p, h_r⟩ := h_unique _ _ ((quoted_eq_iff h).mpr h_quoted)
    rw [← h_p, ← h_r, String.toList_ofList, String.toList_ofList]
    exact ⟨rfl, rfl⟩
  · intro h_unique p r h_render
    have h_quoted := (quoted_eq_iff h).mp h_render
    rw [← String.toList_inj, h_toList, h_toList] at h_quoted
    obtain ⟨h_p, h_r⟩ := h_unique _ _ h_quoted
    exact ⟨String.toList_inj.mp h_p, String.toList_inj.mp h_r⟩

theorem renew_prepare_unambiguous_plain :
    (renderRenewPrepare "boss" "1" 1 100 "Save." "Go on.").isOk ∧
      ∀ preparePrompt' resumePrompt', renderRenewPrepare "boss" "1" 1 100 preparePrompt'
          resumePrompt' = renderRenewPrepare "boss" "1" 1 100 "Save." "Go on." →
        preparePrompt' = "Save." ∧ resumePrompt' = "Go on." := by
  have h : renderRenewPrepare "boss" "1" 1 100 "Save." "Go on." = .ok
      (renewPrepareHead "boss" "1" 1 100 ++ escapeBody (quoted "Save." "Go on.") ++
        renewPrepareTail "1") :=
    renderRenewPrepare_ok.mpr ⟨by decide +kernel, by decide +kernel, rfl⟩
  rw [h]
  refine ⟨rfl, (renew_prepare_unambiguous_iff h).mpr fun n h_n => ?_⟩
  obtain ⟨rest, h_rest⟩ : ∃ rest, renewPrepareForgery.toList =
      '\n' :: '\n' :: 'A' :: 'f' :: 't' :: 'e' :: 'r' :: rest := by
    unfold renewPrepareForgery
    rw [String.toList_append, String.toList_append]
    exact ⟨_, congrArg (· ++ _ ++ _) String.toList_ofList⟩
  have h_chars : (quoted "Save." "Go on.").toList =
      ['S', 'a', 'v', 'e', '.'] ++ renewPrepareForgery.toList ++
        ['G', 'o', ' ', 'o', 'n', '.'] := by
    have h_save : ("Save." : String).toList = ['S', 'a', 'v', 'e', '.'] := String.toList_ofList
    have h_go : ("Go on." : String).toList = ['G', 'o', ' ', 'o', 'n', '.'] := String.toList_ofList
    rw [quoted, String.toList_append, String.toList_append, h_save, h_go]
  rw [h_chars, h_rest] at h_n
  -- The divider does not fit any later, and does not begin any earlier.
  have h_fits := h_n.length_le
  simp only [List.length_drop, List.length_append, List.length_cons, List.length_nil] at h_fits
  have h_le : n ≤ 11 := by omega
  have h_five : n = 5 := by
    unfold OccursAt at h_n
    interval_cases n <;> simp at h_n ⊢
  exact h_five

/-- A prepare prompt that spells the divider takes the resume prompt's place. -/
theorem renew_prepare_forged :
    (renderRenewPrepare "boss" "1" 1 100 "Save." (quoted "Stop." "Go on.")).isOk ∧
      renderRenewPrepare "boss" "1" 1 100 "Save." (quoted "Stop." "Go on.") =
        renderRenewPrepare "boss" "1" 1 100 (quoted "Save." "Stop.") "Go on." := by
  have h_quoted : quoted "Save." (quoted "Stop." "Go on.") =
      quoted (quoted "Save." "Stop.") "Go on." := by
    simp only [quoted, String.append_assoc]
  have h_text : renderRenewPrepare "boss" "1" 1 100 "Save." (quoted "Stop." "Go on.") = .ok
      (renewPrepareHead "boss" "1" 1 100 ++ escapeBody (quoted "Save." (quoted "Stop." "Go on.")) ++
        renewPrepareTail "1") :=
    renderRenewPrepare_ok.mpr ⟨by decide +kernel, by decide +kernel, rfl⟩
  rw [h_text]
  refine ⟨rfl, Eq.symm (renderRenewPrepare_ok.mpr ⟨by decide +kernel, by decide +kernel, ?_⟩)⟩
  rw [h_quoted]

end Kelpie
