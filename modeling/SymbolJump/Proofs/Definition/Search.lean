/-
What a backward search finds, and how it passes from one part of a text to the
next.

A search over two runs of lines is a search over the later run, and where that
finds nothing, over the earlier one. At a line feed the same holds of the two
texts it parts, although the line before the feed differs from the last line
of the first text by its break: rules never see a break that starts with CR or
LF.
-/

import SymbolJump.Definition.Search
import SymbolJump.Proofs.Text.Lines

namespace SymbolJump.Definition

open Text

variable (set : RuleSet) (name : List Char)

/-! ### Runs of lines -/

theorem lastOffset?_cons (line : List Char) (rest : List (List Char)) (limit : Nat) :
    lastOffset? set name (line :: rest) limit =
      ((lastOffset? set name rest (limit - line.length)).map (line.length + ·)).or
        (lastColumn? set name (cutLine line) limit) := by
  rw [lastOffset?]
  cases lastOffset? set name rest (limit - line.length) with
  | none => rfl
  | some offset => rfl

theorem lastOffset?_append (first second : List (List Char)) (limit : Nat) :
    lastOffset? set name (first ++ second) limit =
      ((lastOffset? set name second (limit - first.flatten.length)).map
        (first.flatten.length + ·)).or (lastOffset? set name first limit) := by
  induction first generalizing limit with
  | nil => simp [lastOffset?]
  | cons line rest ih =>
      have lengths : (line :: rest).flatten.length = line.length + rest.flatten.length := by
        rw [List.flatten_cons, List.length_append]
      rw [List.cons_append, lastOffset?_cons, lastOffset?_cons, ih, lengths, Nat.sub_add_eq]
      cases lastOffset? set name second (limit - line.length - rest.flatten.length) with
      | none => rfl
      | some offset => simp [Nat.add_assoc]

theorem lastColumn?_of_length_le {line : List Char} {limit : Nat} (covers : line.length ≤ limit) :
    lastColumn? set name line limit = lastColumn? set name line line.length := by
  unfold lastColumn?
  rw [Nat.min_eq_right covers, Nat.min_self]

theorem lastOffset?_of_length_le {lines : List (List Char)} {limit : Nat}
    (covers : lines.flatten.length ≤ limit) :
    lastOffset? set name lines limit = lastOffset? set name lines lines.flatten.length := by
  induction lines generalizing limit with
  | nil => rfl
  | cons line rest ih =>
      rw [List.flatten_cons, List.length_append] at covers ⊢
      have cutCovered : (cutLine line).length ≤ line.length := length_cutLine_le line
      have restCovered : rest.flatten.length ≤ limit - line.length := by omega
      rw [lastOffset?_cons, lastOffset?_cons, ih restCovered, Nat.add_sub_cancel_left,
        lastColumn?_of_length_le set name (Nat.le_trans cutCovered (by omega : _ ≤ limit)),
        lastColumn?_of_length_le set name
          (Nat.le_trans cutCovered (by omega : _ ≤ line.length + rest.flatten.length))]

theorem lastOffset?_zero (lines : List (List Char)) : lastOffset? set name lines 0 = none := by
  induction lines with
  | nil => rfl
  | cons line rest ih =>
      rw [lastOffset?_cons, Nat.zero_sub, ih, lastColumn?, Nat.zero_min]
      rfl

/-! ### Texts parted by a line feed -/

/-- The line before a feed is searched like the last line of the text before it. -/
theorem lastOffset?_append_feed (first rest : List Char) (limit : Nat) :
    lastOffset? set name (lines (first ++ '\n' :: rest)) limit =
      ((lastOffset? set name (lines rest) (limit - (first.length + 1))).map
        (first.length + 1 + ·)).or (lastOffset? set name (lines first) limit) := by
  have whole := congrArg List.length (flatten_lines first)
  cases feedSeam first with
  | plain before last alone joined =>
      have lengths : (before ++ [last ++ ['\n']]).flatten.length = first.length + 1 := by
        rw [alone] at whole
        simp only [List.flatten_append, List.flatten_singleton, List.length_append,
          List.length_singleton] at whole ⊢
        omega
      rw [joined, List.append_cons, lastOffset?_append, lengths, alone,
        lastOffset?_append set name before, lastOffset?_append set name before]
      simp only [lastOffset?, cutLine_append_break (.inr rfl)]
  | pair before last alone joined =>
      have lengths : (before ++ [last ++ ['\r', '\n']]).flatten.length = first.length + 1 := by
        rw [alone] at whole
        simp only [List.flatten_append, List.flatten_cons, List.flatten_nil, List.length_append,
          List.length_cons, List.length_nil] at whole ⊢
        omega
      rw [joined, List.append_cons, lastOffset?_append, lengths, alone,
        lastOffset?_append set name before, lastOffset?_append set name before]
      have emptyLine (limit : Nat) : lastColumn? set name (cutLine []) limit = none := by
        rw [lastColumn?, cutLine, List.takeWhile_nil, List.length_nil, Nat.min_zero]
        rfl
      simp only [lastOffset?, cutLine_append_break (.inl rfl), emptyLine]

/-! ### The place found -/

/-- The offsets in a run of lines where the name stands whole and a rule accepts it. -/
inductive DefinedAt (lines : List (List Char)) : Nat → Prop where
  | inLine (number : Nat) (line : List Char) (column : Nat)
      (isLine : lines[number]? = some line)
      (visible : column < (cutLine line).length)
      (defines : definesAt set name (cutLine line) column = true) :
      DefinedAt lines ((lines.take number).flatten.length + column)

theorem lastColumn?_eq_some {line : List Char} {limit column : Nat}
    (found : lastColumn? set name line limit = some column) :
    column < limit ∧ column < line.length ∧ definesAt set name line column = true := by
  have inRange := List.mem_of_find?_eq_some found
  rw [List.mem_reverse, List.mem_range] at inRange
  exact ⟨by omega, by omega, List.find?_some found⟩

theorem DefinedAt.cons {lines : List (List Char)} {offset : Nat} (line : List Char)
    (place : DefinedAt set name lines offset) :
    DefinedAt set name (line :: lines) (line.length + offset) := by
  cases place with
  | inLine number own column isLine visible defines =>
      have later : DefinedAt set name (line :: lines)
          (((line :: lines).take (number + 1)).flatten.length + column) :=
        .inLine (number + 1) own column isLine visible defines
      rw [List.take_succ_cons, List.flatten_cons, List.length_append, Nat.add_assoc] at later
      exact later

theorem lastOffset?_eq_some {lines : List (List Char)} {limit offset : Nat}
    (found : lastOffset? set name lines limit = some offset) :
    offset < limit ∧ DefinedAt set name lines offset := by
  induction lines generalizing limit offset with
  | nil => cases found
  | cons line rest ih =>
      rw [lastOffset?_cons, Option.or_eq_some_iff] at found
      rcases found with later | ⟨_, here⟩
      · obtain ⟨inner, innerFound, rfl⟩ := Option.map_eq_some_iff.mp later
        obtain ⟨below, place⟩ := ih innerFound
        exact ⟨by omega, place.cons set name line⟩
      · obtain ⟨below, visible, defines⟩ := lastColumn?_eq_some set name here
        have place : DefinedAt set name (line :: rest)
            (((line :: rest).take 0).flatten.length + offset) :=
          .inLine 0 line offset rfl visible defines
        rw [List.take_zero, List.flatten_nil, List.length_nil, Nat.zero_add] at place
        exact ⟨below, place⟩

theorem DefinedAt.name_prefix {lines : List (List Char)} {offset : Nat}
    (place : DefinedAt set name lines offset) : name <+: lines.flatten.drop offset := by
  cases place with
  | inLine number line column isLine visible defines =>
      simp only [definesAt, Bool.and_eq_true, List.isPrefixOf_iff_prefix] at defines
      have inLine : column ≤ line.length :=
        Nat.le_trans (Nat.le_of_lt visible) (length_cutLine_le line)
      obtain ⟨hidden, whole⟩ : cutLine line <+: line := List.takeWhile_prefix _
      have cutPrefix : (cutLine line).drop column <+: line.drop column := by
        refine ⟨hidden, ?_⟩
        rw [← List.drop_append_of_le_length (Nat.le_of_lt visible), whole]
      rw [drop_flatten isLine inLine]
      exact (defines.1.1.trans cutPrefix).trans (List.prefix_append _ _)

theorem lastDefinition?_eq_some {text : List Char} {token found : Token} {start : Nat}
    (isFound : lastDefinition? set text token start = some found) :
    found.value = token.value ∧ found.offset < min start text.length ∧
      DefinedAt set token.value (lines text) found.offset := by
  unfold lastDefinition? at isFound
  split at isFound
  · obtain ⟨offset, offsetFound, rfl⟩ := Option.map_eq_some_iff.mp isFound
    obtain ⟨below, place⟩ := lastOffset?_eq_some set token.value offsetFound
    exact ⟨rfl, below, place⟩
  · cases isFound

/-! ### Whole searches -/

/-- The token as it stands behind a text of some length. -/
def advance (distance : Nat) (token : Token) : Token :=
  { token with offset := distance + token.offset }

theorem lastDefinition?_of_length_le {text : List Char} (token : Token) {start : Nat}
    (covers : text.length ≤ start) :
    lastDefinition? set text token start = lastDefinition? set text token text.length := by
  unfold lastDefinition?
  rw [Nat.min_eq_right covers, Nat.min_self]

theorem lastDefinition?_zero (text : List Char) (token : Token) :
    lastDefinition? set text token 0 = none := by
  unfold lastDefinition?
  rw [Nat.zero_min, lastOffset?_zero]
  split <;> rfl

/-- The text behind a line feed is searched first, then the text before it. -/
theorem lastDefinition?_append_feed (first rest : List Char) (token : Token) (start : Nat) :
    lastDefinition? set (first ++ '\n' :: rest) token start =
      ((lastDefinition? set rest token (start - (first.length + 1))).map
        (advance (first.length + 1))).or (lastDefinition? set first token start) := by
  have behind : min start (first ++ '\n' :: rest).length - (first.length + 1) =
      min (start - (first.length + 1)) rest.length := by
    rw [List.length_append, List.length_cons]
    omega
  have before : lastOffset? set token.value (lines first)
        (min start (first ++ '\n' :: rest).length) =
      lastOffset? set token.value (lines first) (min start first.length) := by
    have whole := congrArg List.length (flatten_lines first)
    by_cases inside : start ≤ first.length
    · rw [List.length_append, Nat.min_eq_left inside, Nat.min_eq_left (by omega)]
    · rw [lastOffset?_of_length_le set token.value (by rw [whole, List.length_append]; omega),
        Nat.min_eq_right (by omega), whole]
  unfold lastDefinition?
  split
  · rw [lastOffset?_append_feed, behind, before]
    cases lastOffset? set token.value (lines rest) (min (start - (first.length + 1)) rest.length) with
    | none => rfl
    | some offset => rfl
  · rfl

end SymbolJump.Definition
