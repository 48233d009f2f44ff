/-
Carets at rest.

A caret rests in a text if it lies on one of the lines, not behind the content
of that line, and before the line's end unless the line is the last. These are
the positions that moving a caret leaves alone, and wherever a caret is asked
to go, it comes to rest. A column at the end of a content that reaches up to
the end of its line is the first column of the next line.
-/

import SymbolJump.Proofs.Text.Lines
import SymbolJump.Text.Position

namespace SymbolJump.Text

/-- The positions that exist in a text. -/
def Rests (text : List Char) (position : Position) : Prop :=
  ∃ line, line? text position.line = some line ∧
    position.column ≤ (lineContent line).length ∧
    (position.column < line.length ∨ position.line + 1 = lineCount text)

/-! ### Lines and offsets -/

theorem lineContent_begins_line (line : List Char) : lineContent line <+: line := by
  have shorter (part : List Char) (c : Char) :
      (if part.getLast? = some c then part.dropLast else part) <+: part := by
    split
    · exact List.dropLast_prefix part
    · exact List.prefix_rfl
  exact (shorter _ '\r').trans (shorter line '\n')

theorem length_lineContent_le (line : List Char) : (lineContent line).length ≤ line.length :=
  (lineContent_begins_line line).length_le

theorem exists_line {text : List Char} {number : Nat} (inRange : number < lineCount text) :
    ∃ line, line? text number = some line :=
  ⟨_, List.getElem?_eq_getElem inRange⟩

theorem lt_lineCount {text line : List Char} {number : Nat}
    (isLine : line? text number = some line) : number < lineCount text :=
  (List.getElem?_eq_some_iff.mp isLine).1

theorem lineStart_succ {text line : List Char} {number : Nat}
    (isLine : line? text number = some line) :
    lineStart text (number + 1) = lineStart text number + line.length := by
  unfold line? at isLine
  unfold lineStart
  rw [List.take_add_one, isLine, List.flatten_append, List.length_append]
  simp

theorem lineStart_le (text : List Char) (number : Nat) : lineStart text number ≤ text.length := by
  have whole := congrArg List.length (flatten_lines text)
  rw [← List.take_append_drop number (lines text), List.flatten_append, List.length_append] at whole
  unfold lineStart
  omega

theorem lineStart_add_le {text line : List Char} {number : Nat}
    (isLine : line? text number = some line) :
    lineStart text number + line.length ≤ text.length := by
  rw [← lineStart_succ isLine]
  exact lineStart_le text (number + 1)

theorem exists_flatten_place {lines : List (List Char)} {offset : Nat}
    (inside : offset < lines.flatten.length) :
    ∃ number line column, lines[number]? = some line ∧ column < line.length ∧
      (lines.take number).flatten.length + column = offset := by
  induction lines generalizing offset with
  | nil => exact absurd inside (Nat.not_lt_zero offset)
  | cons first rest ih =>
      by_cases here : offset < first.length
      · exact ⟨0, first, offset, rfl, here, Nat.zero_add offset⟩
      · rw [List.flatten_cons, List.length_append] at inside
        obtain ⟨number, line, column, isLine, inLine, isPlace⟩ :=
          ih (by omega : offset - first.length < rest.flatten.length)
        refine ⟨number + 1, line, column, isLine, inLine, ?_⟩
        rw [List.take_succ_cons, List.flatten_cons, List.length_append]
        omega

/-- Every character stands on a line. -/
theorem exists_place {text : List Char} {offset : Nat} (inText : offset < text.length) :
    ∃ number line column, line? text number = some line ∧ column < line.length ∧
      lineStart text number + column = offset := by
  rw [← flatten_lines text] at inText
  exact exists_flatten_place inText

theorem getElem?_lineStart_add {text row : List Char} {number column : Nat}
    (isLine : line? text number = some row) (inLine : column < row.length) :
    text[lineStart text number + column]? = row[column]? := by
  have behind := drop_flatten isLine (Nat.le_of_lt inLine)
  rw [flatten_lines] at behind
  have first : (text.drop (lineStart text number + column))[0]? =
      (row.drop column ++ ((lines text).drop (number + 1)).flatten)[0]? :=
    congrArg (·[0]?) behind
  rw [List.getElem?_drop, Nat.add_zero, List.getElem?_append_left, List.getElem?_drop,
    Nat.add_zero] at first
  · exact first
  · rw [List.length_drop]
    omega

theorem placeIn_take {lines : List (List Char)} {line : List Char} {number column : Nat}
    (isLine : lines[number]? = some line)
    (within : column < line.length ∨ number + 1 = lines.length) (first : Nat) :
    placeIn first lines ((lines.take number).flatten.length + column) =
      ⟨first + number, column⟩ := by
  induction lines generalizing first number with
  | nil => cases isLine
  | cons head rest ih =>
      cases number with
      | zero =>
          cases isLine
          rw [List.take_zero, List.flatten_nil, List.length_nil, Nat.zero_add, Nat.add_zero]
          cases rest with
          | nil => rfl
          | cons next others =>
              have inside : column < line.length := by
                rcases within with inside | isLast
                · exact inside
                · simp at isLast
              rw [placeIn, if_pos inside]
              intro impossible
              cases impossible
      | succ number =>
          have isLater : rest[number]? = some line := isLine
          have restWithin : column < line.length ∨ number + 1 = rest.length := by
            rcases within with inside | isLast
            · exact .inl inside
            · exact .inr (by simpa using isLast)
          cases rest with
          | nil => cases isLater
          | cons next others =>
              rw [List.take_succ_cons, List.flatten_cons, List.length_append, Nat.add_assoc,
                placeIn, if_neg (by omega), Nat.add_sub_cancel_left,
                ih isLater restWithin (first + 1)]
              · congr 1
                omega
              · intro impossible
                cases impossible

theorem positionAt_lineStart {text line : List Char} {number column : Nat}
    (isLine : line? text number = some line) (inLine : column ≤ line.length)
    (within : column < line.length ∨ number + 1 = lineCount text) :
    positionAt text (lineStart text number + column) = ⟨number, column⟩ := by
  have inText := lineStart_add_le isLine
  unfold positionAt
  rw [Nat.min_eq_left (by omega)]
  have placed := placeIn_take isLine within 0
  rw [Nat.zero_add] at placed
  exact placed

theorem offsetAt_of_line {text line : List Char} {position : Position} {number : Nat}
    (isNumber : min position.line (lineCount text - 1) = number)
    (isLine : line? text number = some line) :
    offsetAt text position = lineStart text number + min position.column (lineContent line).length := by
  subst isNumber
  simp only [offsetAt, isLine, Option.getD_some]

/-! ### Coming to rest -/

theorem rests_zero (text : List Char) : Rests text .zero := by
  obtain ⟨line, isLine⟩ := exists_line (lineCount_pos text)
  refine ⟨line, isLine, Nat.zero_le _, ?_⟩
  by_cases followed : 0 + 1 < lineCount text
  · exact .inl (length_pos_of_not_last isLine followed)
  · have positive := lineCount_pos text
    exact .inr (by change 0 + 1 = lineCount text; omega)

theorem clamp_of_rests {text : List Char} {position : Position} (rests : Rests text position) :
    clamp text position = position := by
  obtain ⟨line, isLine, inContent, within⟩ := rests
  have inRange := lt_lineCount isLine
  have inLine := Nat.le_trans inContent (length_lineContent_le line)
  have isNumber : min position.line (lineCount text - 1) = position.line := by omega
  rw [clamp, offsetAt_of_line isNumber isLine, Nat.min_eq_left inContent]
  exact positionAt_lineStart isLine inLine within

theorem rests_clamp (text : List Char) (position : Position) :
    Rests text (clamp text position) := by
  have positive := lineCount_pos text
  generalize isNumber : min position.line (lineCount text - 1) = number
  have inRange : number < lineCount text := by omega
  obtain ⟨line, isLine⟩ := exists_line inRange
  rw [clamp, offsetAt_of_line isNumber isLine]
  have inContent : min position.column (lineContent line).length ≤ (lineContent line).length :=
    Nat.min_le_right _ _
  have contentInLine := length_lineContent_le line
  generalize min position.column (lineContent line).length = column at inContent
  by_cases within : column < line.length ∨ number + 1 = lineCount text
  · rw [positionAt_lineStart isLine (by omega) within]
    exact ⟨line, isLine, inContent, within⟩
  · -- The content is the whole line and another line follows: the caret passes on to its start.
    have isStart : lineStart text number + column = lineStart text (number + 1) + 0 := by
      rw [lineStart_succ isLine]
      omega
    obtain ⟨next, isNext⟩ := exists_line (by omega : number + 1 < lineCount text)
    have nextWithin : 0 < next.length ∨ number + 1 + 1 = lineCount text := by
      by_cases followed : number + 1 + 1 < lineCount text
      · exact .inl (length_pos_of_not_last isNext followed)
      · exact .inr (by omega)
    rw [isStart, positionAt_lineStart isNext (Nat.zero_le _) nextWithin]
    exact ⟨next, isNext, Nat.zero_le _, nextWithin⟩

theorem clamp_clamp (text : List Char) (position : Position) :
    clamp text (clamp text position) = clamp text position :=
  clamp_of_rests (rests_clamp text position)

/-! ### Breaks of two characters -/

/-- Whether an offset lies between the CR and the LF of one break. -/
def SplitsBreak (text : List Char) (offset : Nat) : Prop :=
  ∃ before after, text = before ++ '\r' :: '\n' :: after ∧ offset = before.length + 1

/-- Such an offset lies behind the content of its line, where no caret rests. -/
theorem not_splitsBreak_of_rests {text : List Char} {position : Position}
    (rests : Rests text position) : ¬SplitsBreak text (offsetAt text position) := by
  rintro ⟨before, after, isText, isOffset⟩
  obtain ⟨front, body, isLines, isBefore⟩ := exists_pair_line before after
  rw [← isText] at isLines
  have isLine : line? text front.length = some (body ++ ['\r', '\n']) := by
    rw [line?, isLines, List.getElem?_append_right (Nat.le_refl _), Nat.sub_self]
    rfl
  have isStart : lineStart text front.length + (body.length + 1) = before.length + 1 := by
    rw [lineStart, isLines, List.take_left' rfl, ← isBefore, List.length_append]
    omega
  have isPosition : position = ⟨front.length, body.length + 1⟩ := by
    rw [← clamp_of_rests rests, clamp, isOffset, ← isStart]
    have inLine : body.length + 1 < (body ++ ['\r', '\n']).length := by simp
    exact positionAt_lineStart isLine (Nat.le_of_lt inLine) (.inl inLine)
  obtain ⟨line, isOwnLine, inContent, _⟩ := rests
  rw [isPosition] at isOwnLine inContent
  rw [isLine] at isOwnLine
  cases isOwnLine
  have isContent : lineContent (body ++ ['\r', '\n']) = body := by simp [lineContent]
  rw [isContent] at inContent
  exact Nat.not_succ_le_self _ inContent

end SymbolJump.Text
