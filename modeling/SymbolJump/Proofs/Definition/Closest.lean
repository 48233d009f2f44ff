/-
The search reports the closest preceding definition.

An offset defines a name if the tokenizer reads the name there and a rule
accepts what stands before and after it on its line. Of all such offsets before
the start of the search the greatest is reported. Lines and columns do not show
in this: a word is the same in the text as on its line.
-/

import Mathlib.Order.Bounds.Basic
import SymbolJump.Proofs.Definition.Search
import SymbolJump.Proofs.Text.Word

namespace SymbolJump.Definition

open Text

variable (set : RuleSet) (name : List Char)

/-! ### Offsets that define a name -/

/-- The line of an offset as rules see it. -/
def seenLine (text : List Char) (offset : Nat) : List Char :=
  cutLine ((line? text (positionAt text offset).line).getD [])

/-- Whether the tokenizer reads the name at an offset, and a rule accepts the parts of the line
before and after it. -/
def Defines (text : List Char) (offset : Nat) : Prop :=
  tokenAt text offset = ⟨name, offset⟩ ∧
    let column := (positionAt text offset).column
    (set.definitionRule? ((seenLine text offset).take column)
      ((seenLine text offset).drop (column + name.length))).isSome = true

variable {name}

theorem definesAt_iff (plain : ∀ c ∈ name, isIdentifierChar c = true) (line : List Char)
    (column : Nat) :
    definesAt set name line column = true ↔
      (beginsWord line column = true ∧ wordFrom line column = name) ∧
        (set.definitionRule? (line.take column) (line.drop (column + name.length))).isSome =
          true := by
  rw [← prefix_and_standsWhole_iff plain, definesAt, Bool.and_eq_true, Bool.and_eq_true,
    List.isPrefixOf_iff_prefix]

/-- What the search looks for on lines is what the tokenizer reads in the text. -/
theorem definedAt_iff (identifier : isIdentifier name = true) (text : List Char) (offset : Nat) :
    DefinedAt set name (lines text) offset ↔ Defines set name text offset := by
  have plain := isIdentifierChar_of_mem identifier
  have named := ne_nil_of_isIdentifier identifier
  -- Both sides agree on the characters of a line that rules see.
  have onLine {number column : Nat} {line : List Char} (isLine : line? text number = some line)
      (visible : column < (cutLine line).length) (isChar : identifierAt line column = true) :
      definesAt set name (cutLine line) column = true ↔
        Defines set name text (lineStart text number + column) := by
    have inLine : column < line.length := lt_length_of_identifierAt isChar
    have isPlace : positionAt text (lineStart text number + column) = ⟨number, column⟩ :=
      positionAt_lineStart isLine (Nat.le_of_lt inLine) (.inl inLine)
    rw [definesAt_iff set plain, Defines, tokenAt_eq_iff named, seenLine, isPlace, isLine,
      beginsWord_of_line isLine visible, (wordFrom_of_line isLine isChar).2]
    rfl
  constructor
  · rintro ⟨number, line, column, isLine, visible, defines⟩
    have isWord := ((definesAt_iff set plain _ _).mp defines).1.2
    have inCut := identifierAt_of_wordFrom (by rw [isWord]; exact named)
    have isChar : identifierAt line column = true := by
      obtain ⟨hidden, parted⟩ : cutLine line <+: line := List.takeWhile_prefix _
      rw [← parted, identifierAt_append_left visible, inCut]
    exact (onLine isLine visible isChar).mp defines
  · intro defines
    have isWord := ((tokenAt_eq_iff named).mp defines.1).2
    have isChar := identifierAt_of_wordFrom (by rw [isWord]; exact named)
    obtain ⟨number, line, column, isLine, inLine, rfl⟩ :=
      exists_place (lt_length_of_identifierAt isChar)
    rw [identifierAt_lineStart_add isLine inLine] at isChar
    have visible := (wordFrom_of_line isLine isChar).1
    exact .inLine number line column isLine visible ((onLine isLine visible isChar).mpr defines)

/-! ### The greatest of them -/

theorem exists_find?_reverse_range {holds : Nat → Bool} {limit index : Nat} (below : index < limit)
    (isHit : holds index = true) :
    ∃ found, (List.range limit).reverse.find? holds = some found ∧ index ≤ found := by
  induction limit with
  | zero => exact absurd below (Nat.not_lt_zero index)
  | succ limit ih =>
      rw [List.range_succ, List.reverse_append, List.reverse_singleton, List.singleton_append,
        List.find?_cons]
      cases hit : holds limit with
      | true => exact ⟨limit, rfl, Nat.le_of_lt_succ below⟩
      | false =>
          refine ih (Nat.lt_of_le_of_ne (Nat.le_of_lt_succ below) ?_)
          rintro rfl
          rw [isHit] at hit
          cases hit

/-- No definition below the limit is passed over: what is found is not before it. -/
theorem DefinedAt.exists_lastOffset? {lines : List (List Char)} {offset limit : Nat}
    (place : DefinedAt set name lines offset) (below : offset < limit) :
    ∃ found, lastOffset? set name lines limit = some found ∧ offset ≤ found := by
  obtain ⟨number, line, column, isLine, visible, defines⟩ := place
  induction lines generalizing number limit with
  | nil => cases isLine
  | cons first rest ih =>
      rw [lastOffset?_cons]
      cases number with
      | zero =>
          cases isLine
          rw [List.take_zero, List.flatten_nil, List.length_nil, Nat.zero_add] at below ⊢
          cases lastOffset? set name rest (limit - line.length) with
          | some later =>
              have behind : column ≤ line.length :=
                Nat.le_trans (Nat.le_of_lt visible) (length_cutLine_le line)
              exact ⟨line.length + later, rfl, by omega⟩
          | none =>
              exact exists_find?_reverse_range (Nat.lt_min.mpr ⟨below, visible⟩) defines
      | succ number =>
          rw [List.take_succ_cons, List.flatten_cons, List.length_append] at below ⊢
          have below : (rest.take number).flatten.length + column < limit - first.length := by
            omega
          obtain ⟨found, isFound, behind⟩ := ih number isLine below
          rw [isFound]
          exact ⟨first.length + found, rfl, by omega⟩

theorem lastDefinition?_defines {text : List Char} {token found : Token} {start : Nat}
    (isFound : lastDefinition? set text token start = some found) :
    isIdentifier token.value = true ∧ found.value = token.value ∧
      found.offset < min start text.length ∧ Defines set token.value text found.offset := by
  obtain ⟨sameName, below, place⟩ := lastDefinition?_eq_some set isFound
  cases identifier : isIdentifier token.value with
  | false =>
      rw [lastDefinition?, identifier] at isFound
      cases isFound
  | true => exact ⟨rfl, sameName, below, (definedAt_iff set identifier text _).mp place⟩

theorem Defines.exists_lastDefinition? {text : List Char} {token : Token} {offset start : Nat}
    (defines : Defines set token.value text offset) (identifier : isIdentifier token.value = true)
    (below : offset < min start text.length) :
    ∃ found, lastDefinition? set text token start = some found ∧ offset ≤ found.offset := by
  have place := (definedAt_iff set identifier text offset).mpr defines
  obtain ⟨found, isFound, behind⟩ := place.exists_lastOffset? set below
  refine ⟨⟨token.value, found⟩, ?_, behind⟩
  rw [lastDefinition?, if_pos identifier, isFound]
  rfl

/-- The offsets before the start of a search, and inside the text, that define a name. -/
def candidates (name text : List Char) (start : Nat) : Set Nat :=
  { offset | offset < min start text.length ∧ Defines set name text offset }

theorem lastDefinition?_eq_some_iff {text : List Char} {token found : Token} {start : Nat} :
    lastDefinition? set text token start = some found ↔
      isIdentifier token.value = true ∧ found.value = token.value ∧
        IsGreatest (candidates set token.value text start) found.offset := by
  constructor
  · intro isFound
    obtain ⟨identifier, sameName, candidate⟩ := lastDefinition?_defines set isFound
    refine ⟨identifier, sameName, candidate, ?_⟩
    intro offset other
    obtain ⟨last, isLast, behind⟩ := other.2.exists_lastDefinition? set identifier other.1
    obtain rfl : found = last := Option.some.inj (isFound.symm.trans isLast)
    exact behind
  · rintro ⟨identifier, sameName, candidate, greatest⟩
    obtain ⟨last, isLast, behind⟩ := candidate.2.exists_lastDefinition? set identifier candidate.1
    obtain ⟨_, lastName, lastCandidate⟩ := lastDefinition?_defines set isLast
    have sameOffset : last.offset = found.offset := Nat.le_antisymm (greatest lastCandidate) behind
    have same : last = found := by
      cases last
      cases found
      rw [Token.mk.injEq]
      exact ⟨lastName.trans sameName.symm, sameOffset⟩
    rw [isLast, same]

theorem lastDefinition?_eq_none_iff {text : List Char} {token : Token} {start : Nat} :
    lastDefinition? set text token start = none ↔
      isIdentifier token.value = false ∨ candidates set token.value text start = ∅ := by
  constructor
  · intro nothing
    cases identifier : isIdentifier token.value with
    | false => exact .inl rfl
    | true =>
        right
        refine Set.eq_empty_of_forall_notMem ?_
        intro offset candidate
        obtain ⟨found, isFound, _⟩ := candidate.2.exists_lastDefinition? set identifier candidate.1
        rw [nothing] at isFound
        cases isFound
  · intro reason
    cases isFound : lastDefinition? set text token start with
    | none => rfl
    | some found =>
        obtain ⟨identifier, _, candidate⟩ := lastDefinition?_defines set isFound
        rcases reason with other | empty
        · rw [identifier] at other
          cases other
        · have impossible : found.offset ∈ candidates set token.value text start := candidate
          rw [empty] at impossible
          cases impossible

/-- The search for the name of a token reports the greatest offset before the start, and inside
the text, that defines the name. It finds nothing exactly if the name is no identifier or no
such offset exists. -/
theorem lastDefinition?_is_closest (text : List Char) (token : Token) (start : Nat) :
    (∀ found, lastDefinition? set text token start = some found ↔
      isIdentifier token.value = true ∧ found.value = token.value ∧
        IsGreatest (candidates set token.value text start) found.offset) ∧
      (lastDefinition? set text token start = none ↔
        isIdentifier token.value = false ∨ candidates set token.value text start = ∅) := by
  constructor
  · intro found
    exact lastDefinition?_eq_some_iff set
  · exact lastDefinition?_eq_none_iff set

/-! ### Text behind the start -/

/-- A search from within a text that ends with a line feed is a search of that text alone,
whatever follows it. -/
theorem text_behind_feed_is_unseen (text first second : List Char) (token : Token) (start : Nat)
    (ends : text.getLast? = some '\n') (inText : start ≤ text.length) :
    lastDefinition? set (text ++ first) token start =
        lastDefinition? set (text ++ second) token start ∧
      lastDefinition? set (text ++ first) token start = lastDefinition? set text token start := by
  obtain ⟨body, rfl⟩ := List.getLast?_eq_some_iff.mp ends
  rw [List.length_append, List.length_singleton] at inText
  have beforeRest : start - (body.length + 1) = 0 := Nat.sub_eq_zero_of_le inText
  have bodyAlone (rest : List Char) :
      lastDefinition? set (body ++ '\n' :: rest) token start =
        lastDefinition? set body token start := by
    rw [lastDefinition?_append_feed, beforeRest, lastDefinition?_zero]
    rfl
  rw [← List.append_cons, ← List.append_cons, bodyAlone, bodyAlone, bodyAlone]
  exact ⟨rfl, rfl⟩

/-- The search starts at the very end of the text, on a line that belongs to what follows. -/
theorem text_behind_feed_is_unseen_at_end :
    "x\r\n".toList.getLast? = some '\n' ∧ 3 ≤ "x\r\n".toList.length ∧
      lastDefinition? ⟨"", none, [{ name := "any" }]⟩ ("x\r\n".toList ++ "x\n".toList) ⟨['x'], 3⟩ 3 =
        some ⟨['x'], 0⟩ ∧
      lastDefinition? ⟨"", none, [{ name := "any" }]⟩ ("x\r\n".toList ++ "\nx".toList) ⟨['x'], 3⟩ 3 =
        some ⟨['x'], 0⟩ := by
  have ends : "x\r\n".toList.getLast? = some '\n' := by decide
  have inText : 3 ≤ "x\r\n".toList.length := by decide
  have alone : lastDefinition? ⟨"", none, [{ name := "any" }]⟩ "x\r\n".toList ⟨['x'], 3⟩ 3 =
      some ⟨['x'], 0⟩ := by
    decide
  have unseen := text_behind_feed_is_unseen ⟨"", none, [{ name := "any" }]⟩ "x\r\n".toList
    "x\n".toList "\nx".toList ⟨['x'], 3⟩ 3 ends inText
  exact ⟨ends, inText, unseen.2.trans alone, unseen.1.symm.trans (unseen.2.trans alone)⟩

end SymbolJump.Definition
