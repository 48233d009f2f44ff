/-
Offsets and positions.

An offset has one place: a line and a column that lies in the line, or at the end
of the text if the line is the last. The order of places is that of offsets, and
going back from a place gives its offset unless the column is behind the content
of the line. There is one such column, that between the characters of a CR LF;
every other break that is dropped from the content has its only column at the
content's end.
-/

import SymbolJump.Proofs.Text.Caret

namespace SymbolJump.Text

/-! ### Reading order -/

namespace Position

variable {left right : Position}

theorem order_eq_lt_iff :
    left.order right = .lt ↔
      left.line < right.line ∨ left.line = right.line ∧ left.column < right.column := by
  rw [order, Ordering.then_eq_lt, Nat.compare_eq_lt, Nat.compare_eq_eq, Nat.compare_eq_lt]

theorem isLE_order_iff :
    (left.order right).isLE = true ↔
      left.line < right.line ∨ left.line = right.line ∧ left.column ≤ right.column := by
  rw [order, Ordering.isLE_then_iff_or, Nat.compare_eq_lt, Nat.compare_eq_eq, Nat.isLE_compare]

end Position

/-! ### The place of an offset -/

theorem lineStart_mono (text : List Char) {earlier later : Nat} (ordered : earlier ≤ later) :
    lineStart text earlier ≤ lineStart text later := by
  have parted := congrArg (List.length ∘ List.flatten)
    (List.take_append_drop earlier ((lines text).take later))
  simp only [Function.comp_apply, List.flatten_append, List.length_append, List.take_take,
    Nat.min_eq_left ordered] at parted
  unfold lineStart
  omega

theorem lineStart_lineCount (text : List Char) : lineStart text (lineCount text) = text.length := by
  unfold lineStart lineCount
  rw [List.take_length, flatten_lines]

theorem exists_place_of_le {text : List Char} {offset : Nat} (inText : offset ≤ text.length) :
    ∃ number line column, line? text number = some line ∧ column ≤ line.length ∧
      (column < line.length ∨ number + 1 = lineCount text) ∧
      lineStart text number + column = offset := by
  by_cases before : offset < text.length
  · obtain ⟨number, line, column, isLine, inLine, isPlace⟩ := exists_place before
    exact ⟨number, line, column, isLine, Nat.le_of_lt inLine, .inl inLine, isPlace⟩
  · -- The end of the text lies at the end of the last line.
    have positive := lineCount_pos text
    obtain ⟨line, isLine⟩ := exists_line (by omega : lineCount text - 1 < lineCount text)
    have isEnd := lineStart_succ isLine
    rw [Nat.sub_add_cancel positive, lineStart_lineCount] at isEnd
    exact ⟨_, line, line.length, isLine, Nat.le_refl _, .inr (by omega), by omega⟩

/-- Earlier offsets have earlier positions. -/
theorem positionAt_lt {text : List Char} {earlier later : Nat} (before : earlier < later)
    (inText : later ≤ text.length) :
    (positionAt text earlier).order (positionAt text later) = .lt := by
  obtain ⟨number, line, column, isLine, inLine, within, rfl⟩ :=
    exists_place_of_le (Nat.le_trans (Nat.le_of_lt before) inText)
  obtain ⟨other, row, place, isRow, inRow, rowWithin, rfl⟩ := exists_place_of_le inText
  rw [positionAt_lineStart isLine inLine within, positionAt_lineStart isRow inRow rowWithin,
    Position.order_eq_lt_iff]
  rcases Nat.lt_trichotomy number other with above | rfl | below
  · exact .inl above
  · exact .inr ⟨rfl, Nat.lt_of_add_lt_add_left before⟩
  · have behind := lineStart_mono text (Nat.succ_le_of_lt below)
    rw [Nat.succ_eq_add_one, lineStart_succ isRow] at behind
    omega

theorem positionAt_le (text : List Char) (offset : Nat) :
    (positionAt text offset).line ≤ text.length ∧
      (positionAt text offset).column ≤ text.length := by
  have clamped : positionAt text offset = positionAt text (min offset text.length) := by
    unfold positionAt
    rw [Nat.min_assoc, Nat.min_self]
  obtain ⟨number, line, column, isLine, inLine, within, isPlace⟩ :=
    exists_place_of_le (Nat.min_le_right offset text.length)
  have inCount := lt_lineCount isLine
  have fewLines := lineCount_le text
  have upTo := lineStart_add_le isLine
  rw [clamped, ← isPlace, positionAt_lineStart isLine inLine within]
  dsimp only
  omega

theorem clamp_le (text : List Char) (position : Position) :
    (clamp text position).line ≤ text.length ∧ (clamp text position).column ≤ text.length :=
  positionAt_le text _

/-! ### The offset of a place -/

theorem offsetAt_le (text : List Char) (position : Position) :
    offsetAt text position ≤ text.length := by
  have positive := lineCount_pos text
  obtain ⟨line, isLine⟩ :=
    exists_line (by omega : min position.line (lineCount text - 1) < lineCount text)
  have inLine := length_lineContent_le line
  have inText := lineStart_add_le isLine
  rw [offsetAt_of_line rfl isLine]
  omega

theorem length_le_lineContent {body : List Char} (plain : ∀ c ∈ body, isLineBreak c = false)
    (ending : List Char) : body.length ≤ (lineContent (body ++ ending)).length := by
  have visible := length_cutLine_le_content (body ++ ending)
  rw [cutLine_append_of_plain plain, List.length_append] at visible
  omega

section

variable {text line : List Char} {number column : Nat} (isLine : line? text number = some line)
  (inLine : column ≤ line.length) (within : column < line.length ∨ number + 1 = lineCount text)

include isLine inLine within

/-- A column behind the content of its line lies between CR and LF. -/
theorem splitsBreak_of_behind (behind : (lineContent line).length < column) :
    (lineContent line).length + 1 = column ∧
      SplitsBreak text (lineStart text number + column) := by
  obtain ⟨body, ending, rfl, plain, ends, _⟩ := exists_body_ending isLine
  have bodyInContent := length_le_lineContent plain ending
  have notLast : ∀ c ∈ ending, column < (body ++ ending).length := by
    intro c member
    have followed := followed_of_break isLine (ends.isLineBreak c member)
      (List.mem_append_right body member)
    exact within.resolve_right (Nat.ne_of_lt followed)
  rw [List.length_append] at inLine notLast
  cases ends with
  | none =>
      rw [List.length_nil] at inLine
      omega
  | single c _ =>
      have inside := notLast c (List.mem_singleton_self c)
      rw [List.length_singleton] at inside
      omega
  | pair =>
      have inside := notLast '\r' List.mem_cons_self
      have isContent : lineContent (body ++ ['\r', '\n']) = body := by simp [lineContent]
      rw [isContent] at behind ⊢
      simp only [List.length_cons, List.length_nil] at inside
      obtain rfl : column = body.length + 1 := by omega
      refine ⟨rfl, text.take (lineStart text number + body.length),
        ((lines text).drop (number + 1)).flatten, ?_, ?_⟩
      · have rest := drop_flatten isLine (by rw [List.length_append]; omega :
          body.length ≤ (body ++ ['\r', '\n']).length)
        rw [flatten_lines, List.drop_left] at rest
        have parted := List.take_append_drop (lineStart text number + body.length) text
        rw [lineStart, rest] at parted
        exact parted.symm
      · have inText := lineStart_add_le isLine
        rw [List.length_append] at inText
        rw [List.length_take, Nat.min_eq_left (by omega)]
        rfl

theorem offsetAt_positionAt_of_line :
    offsetAt text (positionAt text (lineStart text number + column)) =
      lineStart text number + min column (lineContent line).length := by
  have inRange := lt_lineCount isLine
  have isNumber : min number (lineCount text - 1) = number := by omega
  rw [positionAt_lineStart isLine inLine within]
  exact offsetAt_of_line isNumber isLine

end

/-- An offset comes back from its position, except that one between CR and LF loses the CR. -/
theorem offsetAt_positionAt {text : List Char} {offset : Nat} (inText : offset ≤ text.length) :
    (SplitsBreak text offset → offsetAt text (positionAt text offset) + 1 = offset) ∧
      (¬SplitsBreak text offset → offsetAt text (positionAt text offset) = offset) := by
  obtain ⟨number, line, column, isLine, inLine, within, rfl⟩ := exists_place_of_le inText
  have back := offsetAt_positionAt_of_line isLine inLine within
  by_cases behind : (lineContent line).length < column
  · obtain ⟨oneBehind, splits⟩ := splitsBreak_of_behind isLine inLine within behind
    refine ⟨fun _ => ?_, fun whole => absurd splits whole⟩
    rw [back]
    omega
  · rw [Nat.min_eq_left (Nat.le_of_not_lt behind)] at back
    refine ⟨fun splits => ?_, fun _ => back⟩
    have rests : Rests text (positionAt text (lineStart text number + column)) := by
      rw [positionAt_lineStart isLine inLine within]
      exact ⟨line, isLine, Nat.le_of_not_lt behind, within⟩
    rw [← back] at splits
    exact absurd splits (not_splitsBreak_of_rests rests)

/-- Positions on lines that exist have offsets in their order. -/
theorem offsetAt_mono {text : List Char} {left right : Position}
    (leftLine : left.line < lineCount text) (rightLine : right.line < lineCount text)
    (ordered : (left.order right).isLE = true) : offsetAt text left ≤ offsetAt text right := by
  obtain ⟨line, isLine⟩ := exists_line leftLine
  obtain ⟨row, isRow⟩ := exists_line rightLine
  rw [offsetAt_of_line (Nat.min_eq_left (by omega)) isLine,
    offsetAt_of_line (Nat.min_eq_left (by omega)) isRow]
  rcases Position.isLE_order_iff.mp ordered with above | ⟨sameLine, before⟩
  · have upToNext := lineStart_mono text (Nat.succ_le_of_lt above)
    rw [Nat.succ_eq_add_one, lineStart_succ isLine] at upToNext
    have inLine := length_lineContent_le line
    omega
  · rw [sameLine] at isLine
    rw [isRow] at isLine
    cases isLine
    rw [sameLine]
    omega

/-! ### Both ways -/

/-- Positions go up with offsets, and offsets with the positions on existing lines. An offset
comes back from its position unless it lies between the CR and the LF of one break, and then
the offset before it does. No position has an offset outside of the text, and a position that
was moved into the text stays where it is. -/
theorem offsets_and_positions_correspond (text : List Char) :
    (∀ earlier later, earlier < later → later ≤ text.length →
      (positionAt text earlier).order (positionAt text later) = .lt) ∧
    (∀ offset, offset ≤ text.length →
      (SplitsBreak text offset → offsetAt text (positionAt text offset) = offset - 1) ∧
      (¬SplitsBreak text offset → offsetAt text (positionAt text offset) = offset)) ∧
    (∀ left right : Position, left.line < lineCount text → right.line < lineCount text →
      (left.order right).isLE = true → offsetAt text left ≤ offsetAt text right) ∧
    (∀ position, offsetAt text position ≤ text.length) ∧
    ∀ position, clamp text (clamp text position) = clamp text position := by
  refine ⟨fun _ _ => positionAt_lt, ?_, fun _ _ => offsetAt_mono, offsetAt_le text,
    clamp_clamp text⟩
  intro offset inText
  obtain ⟨splitting, whole⟩ := offsetAt_positionAt inText
  exact ⟨fun splits => Nat.eq_sub_of_add_eq (splitting splits), whole⟩

/-- Three lines, the first with a CR LF and the second with a separator. The offset between CR
and LF has a position before that of the next line, and goes back to the one before. -/
theorem offsets_and_positions_correspond_over_breaks :
    SplitsBreak "a\r\nb\u000bc".toList 2 ∧
      (positionAt "a\r\nb\u000bc".toList 2).order (positionAt "a\r\nb\u000bc".toList 3) = .lt ∧
      offsetAt "a\r\nb\u000bc".toList (positionAt "a\r\nb\u000bc".toList 2) = 1 ∧
      offsetAt "a\r\nb\u000bc".toList ⟨0, 9⟩ ≤ offsetAt "a\r\nb\u000bc".toList ⟨1, 1⟩ := by
  have splits : SplitsBreak "a\r\nb\u000bc".toList 2 :=
    ⟨['a'], ['b', '\u000b', 'c'], by decide, rfl⟩
  obtain ⟨up, back, upAgain, _, _⟩ := offsets_and_positions_correspond "a\r\nb\u000bc".toList
  refine ⟨splits, up 2 3 (by decide) (by decide), (back 2 (by decide)).1 splits, ?_⟩
  exact upAgain ⟨0, 9⟩ ⟨1, 1⟩ (by decide) (by decide) (by decide)

end SymbolJump.Text
