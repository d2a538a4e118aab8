/-
  Kelpie.Cli.Tokens

  Reading a command line.  A parse takes its flags, values and names from the
  arguments one after the other, and ends with an error unless it used them all.
-/

import Kelpie.Lib.Takes

namespace Kelpie

open Lib

-- ============================================================================
-- Takes
-- ============================================================================

/-- The arguments, each with the mark of those that were used. -/
structure Tokens where
  items : List (String × Bool)

/-- A parser that uses up arguments, and stops at the first error. -/
abbrev Take := Prog Tokens String

/-- `starts_with('-')` -/
def startsWithDash (item : String) : Prop := item.toList.head? = some '-'

instance : DecidablePred startsWithDash := fun item =>
  inferInstanceAs (Decidable (item.toList.head? = some '-'))

namespace Tokens

/-- `Tokens::new` -/
def new (items : List String) : Tokens := ⟨items.map (·, false)⟩

/-- The places of the unused arguments that are the flag. -/
def hits (t : Tokens) (flag : String) : List Nat :=
  (List.range t.items.length).filter fun i => t.items[i]? = some (flag, false)

/-- The argument at a place is used. -/
def use (t : Tokens) (i : Nat) (item : String) : Tokens := ⟨t.items.set i (item, true)⟩

/-- The flag at a place is used with the value behind it, unless there is none that is unused. -/
def useValue (t : Tokens) (flag : String) (i : Nat) (allowDashValue : Bool) :
    Except String (Option String) × Tokens :=
  match t.items[i + 1]? with
  | some (value, false) =>
    if allowDashValue = false ∧ startsWithDash value then (.error s!"{flag} needs a value", t)
    else (.ok (some value), (t.use i flag).use (i + 1) value)
  | _ => (.error s!"{flag} needs a value", t)

end Tokens

/-- Whether the flag is given, which may be once. -/
def takeBool (flag : String) : Take Bool := ⟨fun t =>
  match t.hits flag with
  | [] => (.ok false, t)
  | [i] => (.ok true, t.use i flag)
  | _ => (.error s!"{flag} specified more than once", t)⟩

/-- `take_next_raw_value` -/
def takeNextRawValue (flag : String) : Take (Option String) := ⟨fun t =>
  match t.hits flag with
  | [] => (.ok none, t)
  | i :: _ => t.useValue flag i true⟩

/-- The loop of `take_all_values`. -/
def takeValues (flag : String) : Nat → Take (List String)
  | 0 => pure []
  | n + 1 => do
    match ← takeNextRawValue flag with
    | none => return []
    | some value =>
      let values ← takeValues flag n
      return value :: values

/-- Each turn of the loop uses two arguments. -/
def takeAllValues (flag : String) : Take (List String) := do
  let turns ← Prog.reads fun t => t.items.length
  takeValues flag turns

/-- The value of a flag, which may be given once. -/
def takeValue (flag : String) : Take (Option String) := ⟨fun t =>
  match t.hits flag with
  | [] => (.ok none, t)
  | [i] => t.useValue flag i false
  | _ => (.error s!"{flag} specified more than once", t)⟩

/-- `take_value(flag)?.ok_or(otherwise)?` -/
def takeNeeded (flag otherwise : String) : Take String := do
  match ← takeValue flag with
  | some value => return value
  | none => Prog.fail otherwise

/-- The first unused argument that begins with no dash. -/
def takePositional : Take (Option String) := ⟨fun t =>
  match (List.range t.items.length).find? fun i =>
    t.items[i]?.any fun (item, used) => used = false ∧ ¬ startsWithDash item with
  | none => (.ok none, t)
  | some i =>
    match t.items[i]? with
    | none => (.ok none, t)
    | some (item, _) => (.ok (some item), t.use i item)⟩

/-- `take_positional().ok_or(otherwise)?` -/
def takeName (otherwise : String) : Take String := do
  match ← takePositional with
  | some name => return name
  | none => Prog.fail otherwise

/-- The flags that stand before the command. -/
def globalFlags : List String := ["--socket", "--json"]

/-- The error of an argument that no parser used. -/
def leftover (item : String) : String :=
  if ¬ startsWithDash item then s!"unexpected argument {item}"
  else if item ∈ globalFlags then
    s!"{item} is a global flag and goes before the command, as " ++
      s!"`kelpie {item} <command> ...`"
  else s!"unknown argument {item}"

/-- The arguments that were never used, one entry each.  One that follows an unknown flag may be
    its value, and has no entry of its own. -/
def leftoversFrom (afterFlag : Bool) : List (String × Bool) → List String
  | [] => []
  | (_, true) :: items => leftoversFrom false items
  | (item, false) :: items =>
    if afterFlag = true ∧ ¬ startsWithDash item then leftoversFrom false items
    else leftover item :: leftoversFrom (startsWithDash item) items

/-- Describe every argument this parse never consumed, one entry each. -/
def leftovers (t : Tokens) : List String := leftoversFrom false t.items

/-- `Tokens::finish` -/
def finish (command : String) : Take Unit := do
  match ← Prog.reads leftovers with
  | [] => return ()
  | problems => Prog.fail (command ++ " " ++ "; ".intercalate problems)

-- ============================================================================
-- Problems
-- ============================================================================

/-- The arguments, with every usage problem found so far. -/
structure Reading where
  tokens : Tokens
  found : List String

/-- A parser that goes on after an error, and gathers them. -/
abbrev Parse := Prog Reading String

namespace Problems

/-- Note an error, and go on. -/
def note (problem : String) : Parse Unit := ⟨fun r =>
  (.ok (), { r with found := r.found ++ [problem] })⟩

/-- A take of which an error is one more problem, and does not end the parse. -/
def noting {α : Type} (otherwise : α) (x : Take α) : Parse α := ⟨fun r =>
  match x.run r.tokens with
  | (.ok a, t) => (.ok a, { r with tokens := t })
  | (.error problem, t) => (.ok otherwise, ⟨t, r.found ++ [problem]⟩)⟩

/-- Take an optional value, recording a malformed one instead of returning. -/
def value (flag : String) : Parse (Option String) := noting none (takeValue flag)

/-- Take a required value, recording its absence as one more problem. -/
def required (flag : String) : Parse (Option String) :=
  noting none do
    let value ← takeNeeded flag s!"missing {flag}"
    return some value

/-- Whether the flag is given; an error is noted. -/
def switch (flag : String) : Parse Bool := noting false (takeBool flag)

/-- Fold in whatever the parse never consumed, then report everything at once. -/
def resolve (command : String) : Parse Unit := do
  match ← Prog.reads fun r => r.found ++ leftovers r.tokens with
  | [] => return ()
  | [problem] => Prog.fail s!"{command}: {problem}"
  | found => Prog.fail (command ++ ": " ++ toString found.length ++ " problems" ++
      String.join (found.map fun problem => "\n  " ++ problem))

end Problems

-- ============================================================================
-- Words
-- ============================================================================

/-- The words of a switch. -/
def switchWords (flag : String) (present : Bool) : List (List String) :=
  if present then [[flag]] else []

/-- The words of a flag that was given a value, or of one that was not. -/
def optionWords (flag : String) (value : Option String) : List (List String) :=
  value.toList.map fun v => [flag, v]

/-- The words of a flag that may be given several times. -/
def valuesWords (flag : String) (values : List String) : List (List String) :=
  values.map fun v => [flag, v]

/-- The words of a name or an id that has no flag. -/
def nameWords (name : Option String) : List (List String) := name.toList.map fun n => [n]

instance Tokens.marked : Marked Tokens String where
  marks := Tokens.items
  Clean _ := True

instance Reading.marked : Marked Reading String where
  marks r := r.tokens.items
  Clean r := r.found = []

theorem Tokens.mem_hits {t : Tokens} {flag : String} {i : Nat} (h : i ∈ t.hits flag) :
    t.items[i]? = some (flag, false) :=
  of_decide_eq_true (List.mem_filter.mp h).2

/-- The argument behind one that is used stays as it was. -/
theorem Tokens.use_next {t : Tokens} {i : Nat} {item : String} :
    (t.use i item).items[i + 1]? = t.items[i + 1]? :=
  List.getElem?_set_ne (by omega)

/-- A flag is used with the unused value behind it. -/
theorem Tokens.useValue_ok {t t' : Tokens} {flag : String} {value : Option String} {i : Nat}
    {dash : Bool} (h : t.useValue flag i dash = (.ok value, t')) :
    ∃ v, value = some v ∧ t.items[i + 1]? = some (v, false) ∧
      t' = (t.use i flag).use (i + 1) v := by
  unfold useValue at h
  split at h
  · rename_i v h_v
    split at h
    · cases h
    · cases h
      exact ⟨v, rfl, h_v, rfl⟩
  · cases h

section Uses

variable {t t' : Tokens} {flag : String} {i : Nat}

/-- Words are used, and the arguments stay. -/
structure Tokens.Uses (t t' : Tokens) (w : List (List String)) : Prop where
  same : t'.items.map Prod.fst = t.items.map Prod.fst
  taken : ∀ blocks, Taken blocks t.items → Taken (blocks ++ w) t'.items

theorem Tokens.uses_none : t.Uses t [] :=
  ⟨rfl, fun _ h => by simpa using h⟩

theorem Tokens.uses_one {item : String} (h : t.items[i]? = some (item, false)) :
    t.Uses (t.use i item) [[item]] :=
  ⟨map_fst_set h, fun _ h_taken => h_taken.take_one h⟩

theorem Tokens.uses_value {value : Option String} {dash : Bool} (h_flag : i ∈ t.hits flag)
    (h : t.useValue flag i dash = (.ok value, t')) : t.Uses t' (optionWords flag value) := by
  have h_i := mem_hits h_flag
  obtain ⟨v, rfl, h_v, rfl⟩ := useValue_ok h
  refine ⟨?_, fun _ h_taken => h_taken.take_two h_i h_v⟩
  exact (map_fst_set (use_next.trans h_v)).trans (map_fst_set h_i)

/-- A take is described by what it uses when it succeeds. -/
theorem takes_of_uses {α : Type} {x : Take α} {words : α → List (List String)}
    (h : ∀ t a t', x.run t = (.ok a, t') → t.Uses t' (words a)) :
    Takes x fun a w => w = words a := by
  intro t a t' h_run _
  have h_uses := h t a t' h_run
  exact ⟨trivial, h_uses.same, words a, rfl, h_uses.taken⟩

end Uses

theorem takeBool_takes (flag : String) :
    Takes (takeBool flag) fun present w => w = switchWords flag present := by
  apply takes_of_uses
  intro t present t' h
  unfold takeBool at h
  dsimp only at h
  split at h
  · cases h
    exact Tokens.uses_none
  · rename_i i h_hits
    cases h
    exact Tokens.uses_one (Tokens.mem_hits (h_hits ▸ List.mem_singleton_self i))
  · cases h

theorem takeNextRawValue_takes (flag : String) :
    Takes (takeNextRawValue flag) fun value w => w = optionWords flag value := by
  apply takes_of_uses
  intro t value t' h
  unfold takeNextRawValue at h
  dsimp only at h
  split at h
  · cases h
    exact Tokens.uses_none
  · rename_i h_hits
    exact Tokens.uses_value (h_hits ▸ List.mem_cons_self) h

theorem takeValue_takes (flag : String) :
    Takes (takeValue flag) fun value w => w = optionWords flag value := by
  apply takes_of_uses
  intro t value t' h
  unfold takeValue at h
  dsimp only at h
  split at h
  · cases h
    exact Tokens.uses_none
  · rename_i i h_hits
    exact Tokens.uses_value (h_hits ▸ List.mem_singleton_self i) h
  · cases h

theorem takeValues_takes (flag : String) (n : Nat) :
    Takes (takeValues flag n) fun values w => w = valuesWords flag values := by
  induction n with
  | zero => exact .pure rfl
  | succ n ih =>
    refine .bind_eq (takeNextRawValue_takes flag) fun value => ?_
    cases value with
    | none => exact .pure rfl
    | some v => exact .bind_eq ih fun values => .pure (congrArg _ (List.append_nil _))

theorem takeAllValues_takes (flag : String) :
    Takes (takeAllValues flag) fun values w => w = valuesWords flag values := by
  intro t values t' h_run h_clean
  obtain ⟨n, t₁, h_n, h_run⟩ := Prog.run_bind_ok.mp h_run
  obtain ⟨-, rfl⟩ := Prog.run_reads_ok.mp h_n
  exact takeValues_takes flag n t values t' h_run h_clean

theorem takeNeeded_takes (flag otherwise : String) :
    Takes (takeNeeded flag otherwise) fun value w => w = [[flag, value]] := by
  refine .bind_eq (takeValue_takes flag) fun value => ?_
  cases value with
  | none => exact .fail _
  | some v => exact .pure rfl

theorem takePositional_takes :
    Takes takePositional fun name w => w = nameWords name := by
  apply takes_of_uses
  intro t name t' h
  unfold takePositional at h
  dsimp only at h
  split at h
  · cases h
    exact Tokens.uses_none
  · rename_i i h_find
    have h_any := List.find?_some h_find
    split at h
    · cases h
      exact Tokens.uses_none
    · rename_i item used h_item
      cases h
      rw [h_item] at h_any
      have h_used : used = false := by simp at h_any; exact h_any.1
      exact Tokens.uses_one (h_used ▸ h_item)

theorem takeName_takes (otherwise : String) :
    Takes (takeName otherwise) fun name w => w = [[name]] := by
  refine .bind_eq takePositional_takes fun name => ?_
  cases name with
  | none => exact .fail _
  | some n => exact .pure rfl

/-- An argument that is not used is reported, itself or as the value of an unknown flag. -/
theorem leftoversFrom_eq_nil {items : List (String × Bool)} (h : leftoversFrom false items = []) :
    ∀ m ∈ items, m.2 = true := by
  induction items with
  | nil => simp
  | cons m items ih =>
    obtain ⟨item, used⟩ := m
    cases used with
    | true =>
      intro m h_m
      rcases List.mem_cons.mp h_m with rfl | h_m
      · rfl
      · exact ih h m h_m
    | false => simp [leftoversFrom] at h

/-- A parse that finishes has used every argument. -/
theorem finish_all {command : String} {t t' : Tokens} {u : Unit}
    (h : (finish command).run t = (.ok u, t')) : ∀ m ∈ t.items, m.2 = true := by
  obtain ⟨problems, t₁, h_reads, h_rest⟩ := Prog.run_bind_ok.mp h
  obtain ⟨h_problems, rfl⟩ := Prog.run_reads_ok.mp h_reads
  cases problems with
  | nil => exact leftoversFrom_eq_nil h_problems
  | cons problem problems => cases h_rest

/-- A parse that is resolved found no problem and has used every argument. -/
theorem Problems.resolve_all {command : String} {r r' : Reading} {u : Unit}
    (h : (resolve command).run r = (.ok u, r')) :
    r.found = [] ∧ ∀ m ∈ r.tokens.items, m.2 = true := by
  obtain ⟨found, r₁, h_reads, h_rest⟩ := Prog.run_bind_ok.mp h
  obtain ⟨h_found, rfl⟩ := Prog.run_reads_ok.mp h_reads
  rcases found with _ | ⟨problem, _ | ⟨problem', found⟩⟩
  · obtain ⟨h_none, h_left⟩ := List.append_eq_nil_iff.mp h_found
    exact ⟨h_none, leftoversFrom_eq_nil h_left⟩
  · cases h_rest
  · cases h_rest

section Rules

variable {α β : Type} {x : Take α} {f : Unit → Take β} {g : Unit → Parse β} {command : String}
  {P : α → List (List String) → Prop} {Q : β → List (List String) → Prop}

/-- What a parse took without a problem goes with its result. -/
theorem Problems.noting_takes {otherwise : α} (h : Takes x P) :
    Takes (noting otherwise x) P := by
  intro r a r' h_run h_clean
  unfold noting at h_run
  dsimp only at h_run
  split at h_run
  · rename_i b t h_x
    cases h_run
    obtain ⟨-, h_rest⟩ := h r.tokens a t h_x trivial
    exact ⟨h_clean, h_rest⟩
  · cases h_run
    exact absurd h_clean (List.append_ne_nil_of_right_ne_nil _ (List.cons_ne_nil _ _))

/-- A problem that is noted ends the parse at the latest when it is resolved. -/
theorem Problems.note_takes {problem : String} {R : Unit → List (List String) → Prop} :
    Takes (note problem) R := by
  intro r a r' h_run h_clean
  cases h_run
  exact absurd h_clean (List.append_ne_nil_of_right_ne_nil _ (List.cons_ne_nil _ _))

theorem Problems.value_takes (flag : String) :
    Takes (value flag) fun v w => w = optionWords flag v :=
  noting_takes (takeValue_takes flag)

theorem Problems.switch_takes (flag : String) :
    Takes (switch flag) fun present w => w = switchWords flag present :=
  noting_takes (takeBool_takes flag)

theorem Problems.required_takes (flag : String) :
    Takes (required flag) fun v w => w = optionWords flag v :=
  noting_takes (.bind_eq (takeNeeded_takes flag _) fun _ => .pure rfl)

theorem finish_takesAll (h : Yields (f ()) fun b => Q b []) :
    TakesAll (finish command >>= f) Q :=
  .check (fun _ _ _ h_run => ⟨trivial, finish_all h_run⟩) h

theorem Problems.resolve_takesAll (h : Yields (g ()) fun b => Q b []) :
    TakesAll (resolve command >>= g) Q :=
  .check (fun _ _ _ h_run => resolve_all h_run) h

end Rules

end Kelpie
