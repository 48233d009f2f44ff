/-
Positions sent to a server and received from one.

A server counts columns in code units. The column behind a number of units is
the largest one whose characters fit into them, and this fixes the conversion
altogether. What an editor sends and reads back is therefore its own caret. A
position that a server sends comes back moved into its line, and before the
character whose pair of units it splits. The latter needs lines that end with
LF or CR only: any other break is content, and a caret behind it stands on the
next line.
-/

import SymbolJump.Proofs.Text.Caret
import SymbolJump.Text.Units16

namespace SymbolJump.Text

/-! ### Counting code units -/

theorem units_eq_one_or_two (c : Char) : units c = 1 ∨ units c = 2 := by
  unfold units
  split
  · exact .inl rfl
  · exact .inr rfl

theorem units_of_isLineBreak {c : Char} (isBreak : isLineBreak c = true) : units c = 1 := by
  simp only [isLineBreak, Bool.or_eq_true, Bool.and_eq_true, decide_eq_true_eq,
    beq_iff_eq] at isBreak
  exact if_pos (by omega)

theorem units16_cons (c : Char) (rest : List Char) :
    units16 (c :: rest) = units c + units16 rest := rfl

theorem units16_append (first second : List Char) :
    units16 (first ++ second) = units16 first + units16 second := by
  induction first with
  | nil => exact (Nat.zero_add _).symm
  | cons c rest ih =>
      rw [List.cons_append, units16_cons, units16_cons, ih]
      omega

theorem length_le_units16 (text : List Char) : text.length ≤ units16 text := by
  induction text with
  | nil => exact Nat.le_refl 0
  | cons c rest ih =>
      have size := units_eq_one_or_two c
      rw [List.length_cons, units16_cons]
      omega

theorem units16_le_of_prefix {part text : List Char} (isPart : part <+: text) :
    units16 part ≤ units16 text := by
  obtain ⟨rest, rfl⟩ := isPart
  rw [units16_append]
  omega

theorem units16_take_mono (text : List Char) {column other : Nat} (before : column ≤ other) :
    units16 (text.take column) ≤ units16 (text.take other) :=
  units16_le_of_prefix (List.take_prefix_take_left before)

theorem units16_take_succ {text : List Char} {column : Nat} {c : Char}
    (isChar : text[column]? = some c) :
    units16 (text.take (column + 1)) = units16 (text.take column) + units c := by
  rw [List.take_add_one, isChar, units16_append]
  rfl

theorem units16_line_le {text line : List Char} {number : Nat}
    (isLine : line? text number = some line) : units16 line ≤ units16 text := by
  obtain ⟨inRange, rfl⟩ := List.getElem?_eq_some_iff.mp isLine
  have parted := congrArg units16 (flatten_lines text)
  rw [← List.take_append_drop number (lines text), List.drop_eq_getElem_cons inRange,
    List.flatten_append, List.flatten_cons, units16_append, units16_append] at parted
  omega

/-! ### The column behind a number of code units -/

theorem le_columnOfUnits_iff (text : List Char) (count column : Nat) :
    column ≤ columnOfUnits text count ↔
      column ≤ text.length ∧ units16 (text.take column) ≤ count := by
  induction text generalizing count column with
  | nil =>
      rw [List.take_nil]
      exact ⟨fun below => ⟨below, Nat.zero_le count⟩, fun both => both.1⟩
  | cons c rest ih =>
      cases column with
      | zero => exact ⟨fun _ => ⟨Nat.zero_le _, Nat.zero_le _⟩, fun _ => Nat.zero_le _⟩
      | succ column =>
          rw [columnOfUnits, List.take_succ_cons, units16_cons, List.length_cons]
          by_cases fits : units c ≤ count
          · rw [if_pos fits, Nat.add_le_add_iff_right, Nat.add_le_add_iff_right, ih]
            omega
          · rw [if_neg fits]
            omega

theorem columnOfUnits_le (text : List Char) (count : Nat) :
    columnOfUnits text count ≤ text.length :=
  ((le_columnOfUnits_iff text count _).mp (Nat.le_refl _)).1

theorem units16_take_columnOfUnits_le (text : List Char) (count : Nat) :
    units16 (text.take (columnOfUnits text count)) ≤ count :=
  ((le_columnOfUnits_iff text count _).mp (Nat.le_refl _)).2

theorem columnOfUnits_append (before behind : List Char) (count : Nat) :
    min (columnOfUnits (before ++ behind) count) before.length = columnOfUnits before count := by
  refine Nat.le_antisymm ?_ (Nat.le_min.mpr ⟨?_, columnOfUnits_le before count⟩)
  · obtain ⟨_, fits⟩ := (le_columnOfUnits_iff (before ++ behind) count _).mp
      (Nat.min_le_left (columnOfUnits (before ++ behind) count) before.length)
    rw [List.take_append_of_le_length (Nat.min_le_right _ _)] at fits
    exact (le_columnOfUnits_iff before count _).mpr ⟨Nat.min_le_right _ _, fits⟩
  · have inBefore := columnOfUnits_le before count
    refine (le_columnOfUnits_iff (before ++ behind) count _).mpr ⟨?_, ?_⟩
    · rw [List.length_append]
      omega
    · rw [List.take_append_of_le_length inBefore]
      exact units16_take_columnOfUnits_le before count

theorem lt_units16_of_columnOfUnits {text : List Char} {count : Nat} {c : Char}
    (isChar : text[columnOfUnits text count]? = some c) :
    count < units16 (text.take (columnOfUnits text count)) + units c := by
  have inText := (List.getElem?_eq_some_iff.mp isChar).1
  have further := mt (le_columnOfUnits_iff text count (columnOfUnits text count + 1)).mpr
    (Nat.not_succ_le_self _)
  rw [units16_take_succ isChar] at further
  omega

theorem columnOfUnits_units16_take {text : List Char} {column : Nat}
    (inText : column ≤ text.length) :
    columnOfUnits text (units16 (text.take column)) = column := by
  have reached : column ≤ columnOfUnits text (units16 (text.take column)) :=
    (le_columnOfUnits_iff text _ column).mpr ⟨inText, Nat.le_refl _⟩
  have bounded := columnOfUnits_le text (units16 (text.take column))
  have fits := units16_take_columnOfUnits_le text (units16 (text.take column))
  rcases Nat.eq_or_lt_of_le reached with same | beyond
  · exact same.symm
  · -- One column further the text has more units than were counted.
    have inRange : column < text.length := by omega
    have more := units16_take_succ (List.getElem?_eq_getElem inRange)
    have mono := units16_take_mono text (Nat.succ_le_of_lt beyond)
    have size := units_eq_one_or_two text[column]
    rw [Nat.succ_eq_add_one, more] at mono
    omega

/-- A number of code units that ends between the two units of a character. -/
def SplitsPair (text : List Char) (count : Nat) : Prop :=
  ∃ index c, text[index]? = some c ∧ 0x10000 ≤ c.toNat ∧
    count = units16 (text.take index) + 1

theorem units_of_pair {c : Char} (isPair : 0x10000 ≤ c.toNat) : units c = 2 :=
  if_neg (Nat.not_lt.mpr isPair)

theorem not_splitsPair_units16_take (text : List Char) (column : Nat) :
    ¬SplitsPair text (units16 (text.take column)) := by
  rintro ⟨index, c, isChar, isPair, isCount⟩
  have size := units_of_pair isPair
  have next := units16_take_succ isChar
  rcases Nat.lt_or_ge index column with before | behind
  · have mono := units16_take_mono text (Nat.succ_le_of_lt before)
    rw [Nat.succ_eq_add_one, next] at mono
    omega
  · have mono := units16_take_mono text behind
    omega

/-- The units before the column reached are those asked for, as far as the text has them, less
the first unit of a pair that would be split. -/
theorem units16_take_columnOfUnits (text : List Char) (count : Nat) :
    units16 (text.take (columnOfUnits text count)) = min count (units16 text) ∨
      SplitsPair text (min count (units16 text)) ∧
        units16 (text.take (columnOfUnits text count)) + 1 = min count (units16 text) := by
  have fits := units16_take_columnOfUnits_le text count
  have part := units16_le_of_prefix (List.take_prefix (columnOfUnits text count) text)
  rcases Nat.eq_or_lt_of_le (columnOfUnits_le text count) with atEnd | inText
  · left
    rw [atEnd, List.take_length] at fits ⊢
    exact (Nat.min_eq_right fits).symm
  · have isChar := List.getElem?_eq_getElem inText
    have exceeds := lt_units16_of_columnOfUnits isChar
    have next := units16_take_succ isChar
    have partNext := units16_le_of_prefix (List.take_prefix (columnOfUnits text count + 1) text)
    by_cases isPair : 0x10000 ≤ text[columnOfUnits text count].toNat
    · have size := units_of_pair isPair
      rcases Nat.eq_or_lt_of_le fits with atStart | inside
      · left
        omega
      · right
        refine ⟨⟨_, _, isChar, isPair, ?_⟩, ?_⟩
        · omega
        · omega
    · have size : units text[columnOfUnits text count] = 1 := if_pos (Nat.not_le.mp isPair)
      left
      omega

/-! ### Contents of lines -/

theorem take_lineContent {line : List Char} {column : Nat}
    (inContent : column ≤ (lineContent line).length) :
    (lineContent line).take column = line.take column := by
  obtain ⟨rest, parted⟩ := lineContent_begins_line line
  rw [← List.take_append_of_le_length inContent, parted]

def PlainBreaks (text : List Char) : Prop :=
  ∀ c ∈ text, isLineBreak c = true → c = '\n' ∨ c = '\r'

theorem getLast?_ne_of_plain {body : List Char} (plain : ∀ c ∈ body, isLineBreak c = false)
    {c : Char} (isBreak : isLineBreak c = true) : body.getLast? ≠ some c := by
  intro ends
  have noBreak := plain c (List.mem_of_getLast? ends)
  rw [isBreak] at noBreak
  cases noBreak

theorem lineContent_eq_cutLine {text line : List Char} {number : Nat}
    (isLine : line? text number = some line) (plainBreaks : PlainBreaks text) :
    lineContent line = cutLine line ∧
      (number + 1 < lineCount text → (cutLine line).length < line.length) := by
  obtain ⟨body, ending, rfl, plain, ends, followed⟩ := exists_body_ending isLine
  have noFeed := getLast?_ne_of_plain plain isLineBreak_lineFeed
  have noReturn := getLast?_ne_of_plain plain isLineBreak_carriageReturn
  have inText : ∀ c ∈ ending, c ∈ text := by
    intro c member
    rw [← flatten_lines text]
    exact List.mem_flatten.mpr ⟨_, List.mem_of_getElem? isLine, List.mem_append_right body member⟩
  -- Every break that is left begins with CR or LF, where both the cut and the content stop.
  cases ends with
  | none =>
      rw [List.append_nil, cutLine_of_plain plain]
      refine ⟨?_, fun more => absurd rfl (followed more)⟩
      simp only [lineContent, if_neg noFeed, if_neg noReturn]
  | single c isBreak =>
      rcases plainBreaks c (inText c (List.mem_singleton_self c)) isBreak with rfl | rfl
      · rw [cutLine_append_break (.inr rfl), cutLine_of_plain plain]
        refine ⟨?_, fun _ => by simp⟩
        simp [lineContent, noReturn]
      · rw [cutLine_append_break (.inl rfl), cutLine_of_plain plain]
        refine ⟨?_, fun _ => by simp⟩
        simp [lineContent]
  | pair =>
      rw [cutLine_append_break (.inl rfl), cutLine_of_plain plain]
      refine ⟨?_, fun _ => by simp⟩
      simp [lineContent]

/-! ### There and back -/

theorem toServer_of_line {text line : List Char} {position : Position}
    (isLine : line? text (clamp text position).line = some line)
    (few : units16 text < UInt32.size) :
    (toServer text position).line.toNat = (clamp text position).line ∧
      (toServer text position).character.toNat =
        units16 (line.take (clamp text position).column) := by
  have lineFits : (clamp text position).line < UInt32.size := by
    have inRange := lt_lineCount isLine
    have lineBound := lineCount_le text
    have lengthBound := length_le_units16 text
    omega
  have unitsFit : units16 (line.take (clamp text position).column) < UInt32.size := by
    have part := units16_le_of_prefix (List.take_prefix (clamp text position).column line)
    have whole := units16_line_le isLine
    omega
  simp only [toServer, isLine, Option.getD_some]
  exact ⟨UInt32.toNat_ofNat_of_lt' lineFits, UInt32.toNat_ofNat_of_lt' unitsFit⟩

theorem ofServer_of_line {text line : List Char} {position : ServerPosition} {number : Nat}
    (isNumber : min position.line.toNat (lineCount text - 1) = number)
    (isLine : line? text number = some line) :
    ofServer text position =
      ⟨number, columnOfUnits (lineContent line) position.character.toNat⟩ := by
  subst isNumber
  simp only [ofServer, isLine, Option.getD_some]

theorem extract_to_caret {text line : List Char} {caret : Position} (rests : Rests text caret)
    (isLine : line? text caret.line = some line) :
    text.extract (lineStart text caret.line) (offsetAt text caret) = line.take caret.column := by
  obtain ⟨sameLine, isSame, inContent, _⟩ := rests
  obtain rfl : sameLine = line := Option.some.inj (isSame.symm.trans isLine)
  have inRange := lt_lineCount isLine
  have isNumber : min caret.line (lineCount text - 1) = caret.line := by omega
  have inLine := Nat.le_trans inContent (length_lineContent_le sameLine)
  have dropped := drop_flatten isLine (Nat.zero_le sameLine.length)
  rw [flatten_lines, Nat.add_zero, List.drop_zero] at dropped
  rw [offsetAt_of_line isNumber isLine, Nat.min_eq_left inContent, List.extract_eq_take_drop,
    Nat.add_sub_cancel_left, lineStart, dropped, List.take_append_of_le_length inLine]

/-- An editor position of a text with less than 2³² code units, sent to a server and read back,
is the caret that the editor would take for it. What is sent are the line of this caret and the
number of code units from the start of that line to the caret. -/
theorem sent_position_reads_back_clamped (text : List Char) (position : Position)
    (few : units16 text < UInt32.size) :
    let caret := clamp text position
    let sent := toServer text position
    ofServer text sent = caret ∧ sent.line.toNat = caret.line ∧
      sent.character.toNat =
        units16 (text.extract (lineStart text caret.line) (offsetAt text caret)) := by
  intro caret sent
  have rests : Rests text caret := rests_clamp text position
  obtain ⟨line, isLine, inContent, within⟩ := rests
  obtain ⟨sentLine, sentUnits⟩ : sent.line.toNat = caret.line ∧
      sent.character.toNat = units16 (line.take caret.column) := toServer_of_line isLine few
  have inRange := lt_lineCount isLine
  have isNumber : min sent.line.toNat (lineCount text - 1) = caret.line := by omega
  refine ⟨?_, sentLine, ?_⟩
  · rw [ofServer_of_line isNumber isLine, sentUnits, ← take_lineContent inContent,
      columnOfUnits_units16_take inContent]
  · rw [sentUnits, extract_to_caret ⟨line, isLine, inContent, within⟩ isLine]

/-- The separator counts as content, so a caret asked to go behind the first line comes to rest
on the second. -/
theorem sent_position_reads_back_over_separator :
    units16 "a😀\u2028é".toList < UInt32.size ∧
      toServer "a😀\u2028é".toList ⟨0, 2⟩ = ⟨0, 3⟩ ∧
      ofServer "a😀\u2028é".toList ⟨0, 3⟩ = ⟨0, 2⟩ ∧
      ofServer "a😀\u2028é".toList (toServer "a😀\u2028é".toList ⟨0, 9⟩) = ⟨1, 0⟩ := by
  have few : units16 "a😀\u2028é".toList < UInt32.size := by decide
  have sent : toServer "a😀\u2028é".toList ⟨0, 2⟩ = ⟨0, 3⟩ := by decide
  refine ⟨few, sent, ?_, ?_⟩
  · rw [← sent, (sent_position_reads_back_clamped _ ⟨0, 2⟩ few).1]
    decide
  · rw [(sent_position_reads_back_clamped _ ⟨0, 9⟩ few).1]
    decide

theorem rests_ofServer {text line : List Char} {position : ServerPosition} {number : Nat}
    (isNumber : min position.line.toNat (lineCount text - 1) = number)
    (isLine : line? text number = some line) (plainBreaks : PlainBreaks text) :
    Rests text (ofServer text position) := by
  obtain ⟨isContent, shorter⟩ := lineContent_eq_cutLine isLine plainBreaks
  have inRange := lt_lineCount isLine
  have inContent := columnOfUnits_le (lineContent line) position.character.toNat
  rw [ofServer_of_line isNumber isLine]
  refine ⟨line, isLine, inContent, ?_⟩
  by_cases followed : number + 1 < lineCount text
  · have beforeBreak := shorter followed
    rw [← isContent] at beforeBreak
    exact .inl (Nat.lt_of_le_of_lt inContent beforeBreak)
  · exact .inr (by change number + 1 = lineCount text; omega)

/-- In a text with less than 2³² code units whose only breaks are LF, CR and CR LF, a server
position that is read and sent again has its line, or the last one if there is no such line,
and its character, or the end of that line without the break. Only a character between the
two units of a pair is sent as the one before it. -/
theorem received_position_returns_settled (text : List Char) (position : ServerPosition)
    (few : units16 text < UInt32.size) (plainBreaks : PlainBreaks text) :
    let number := min position.line.toNat (lineCount text - 1)
    let returned := toServer text (ofServer text position)
    ∃ line, line? text number = some line ∧ returned.line.toNat = number ∧
      let wanted := min position.character.toNat (units16 (cutLine line))
      (SplitsPair (cutLine line) wanted → returned.character.toNat + 1 = wanted) ∧
        (¬SplitsPair (cutLine line) wanted → returned.character.toNat = wanted) := by
  intro number returned
  have inRange : number < lineCount text := by
    have positive := lineCount_pos text
    omega
  obtain ⟨line, isLine⟩ := exists_line inRange
  have isPlace : ofServer text position =
      ⟨number, columnOfUnits (lineContent line) position.character.toNat⟩ :=
    ofServer_of_line rfl isLine
  have stays : clamp text (ofServer text position) =
      ⟨number, columnOfUnits (lineContent line) position.character.toNat⟩ := by
    rw [clamp_of_rests (rests_ofServer rfl isLine plainBreaks), isPlace]
  have sameLine : line? text (clamp text (ofServer text position)).line = some line := by
    rw [stays]
    exact isLine
  have inContent := columnOfUnits_le (lineContent line) position.character.toNat
  obtain ⟨sentLine, sentUnits⟩ := toServer_of_line sameLine few
  rw [stays] at sentLine sentUnits
  rw [← take_lineContent inContent, (lineContent_eq_cutLine isLine plainBreaks).1] at sentUnits
  refine ⟨line, isLine, sentLine, ?_, ?_⟩
  · intro splits
    rcases units16_take_columnOfUnits (cutLine line) position.character.toNat with whole | part
    · rw [← whole] at splits
      exact absurd splits (not_splitsPair_units16_take _ _)
    · exact sentUnits ▸ part.2
  · intro whole
    rcases units16_take_columnOfUnits (cutLine line) position.character.toNat with same | part
    · exact sentUnits.trans same
    · exact absurd part.1 whole

theorem received_position_returns_before_pair :
    units16 "a😀b\r\n".toList < UInt32.size ∧ PlainBreaks "a😀b\r\n".toList ∧
      SplitsPair "a😀b".toList 2 ∧
      (toServer "a😀b\r\n".toList (ofServer "a😀b\r\n".toList ⟨0, 2⟩)).character.toNat + 1 = 2 := by
  have few : units16 "a😀b\r\n".toList < UInt32.size := by decide
  have plainBreaks : PlainBreaks "a😀b\r\n".toList := by
    intro c member
    change c ∈ ['a', '😀', 'b', '\r', '\n'] at member
    simp only [List.mem_cons, List.not_mem_nil, or_false] at member
    rcases member with rfl | rfl | rfl | rfl | rfl <;> decide
  have splits : SplitsPair "a😀b".toList 2 := ⟨1, '😀', rfl, by decide, by decide⟩
  refine ⟨few, plainBreaks, splits, ?_⟩
  obtain ⟨line, isLine, _, split, _⟩ :=
    received_position_returns_settled "a😀b\r\n".toList ⟨0, 2⟩ few plainBreaks
  obtain rfl : "a😀b\r\n".toList = line := Option.some.inj isLine
  exact split splits

end SymbolJump.Text
