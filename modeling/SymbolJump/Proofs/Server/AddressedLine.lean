/-
The line a caret is asked for.

A caret that is asked to go behind the end of a line stays on it, at the last
place before the break, if the line ends with LF, CR or both, or with the text.
Every other break counts as content: behind it lies the next line, and there a
caret goes that is asked to pass it.
-/

import SymbolJump.Proofs.Server.Pumping
import SymbolJump.Proofs.Text.Units16

namespace SymbolJump.Text

/-- The characters of a line before its break, whichever break it is. -/
def lineBody (line : List Char) : List Char :=
  line.takeWhile fun c => !isLineBreak c

/-- Whether a line ends with a break other than LF, CR and CR LF. -/
def endsWithSeparator (line : List Char) : Bool :=
  line.getLast?.any fun c => isLineBreak c && c != '\r' && c != '\n'

/-! ### Bodies and contents -/

theorem lineBody_append {body ending : List Char} (plain : ∀ c ∈ body, isLineBreak c = false)
    (ends : Ending ending) : lineBody (body ++ ending) = body := by
  have passes : ∀ c ∈ body, (!isLineBreak c) = true :=
    fun c member => by rw [plain c member]; rfl
  unfold lineBody
  rw [List.takeWhile_append_of_pos passes]
  cases ends with
  | none => exact List.append_nil body
  | single c isBreak =>
      simp only [List.takeWhile_cons, isBreak, Bool.not_true, Bool.false_eq_true, if_false,
        List.append_nil]
  | pair =>
      simp only [List.takeWhile_cons, isLineBreak_carriageReturn, Bool.not_true,
        Bool.false_eq_true, if_false, List.append_nil]

section

variable {text line : List Char} {number : Nat} (isLine : line? text number = some line)

include isLine

/-- The content of a line is its body, together with a separator if there is one. -/
theorem lineContent_eq :
    lineContent line = if endsWithSeparator line then line else lineBody line := by
  obtain ⟨body, ending, rfl, plain, ends, _⟩ := exists_body_ending isLine
  have noFeed := getLast?_ne_of_plain plain isLineBreak_lineFeed
  have noReturn := getLast?_ne_of_plain plain isLineBreak_carriageReturn
  rw [lineBody_append plain ends]
  cases ends with
  | none =>
      have noSeparator : endsWithSeparator body = false := by
        unfold endsWithSeparator
        cases last : body.getLast? with
        | none => rfl
        | some c =>
            have noBreak := plain c (List.mem_of_getLast? last)
            simp only [Option.any_some, noBreak, Bool.false_and]
      rw [List.append_nil, noSeparator]
      simp only [lineContent, if_neg noFeed, if_neg noReturn, Bool.false_eq_true, if_false]
  | single c isBreak =>
      by_cases isReturn : c = '\r'
      · subst isReturn
        simp [lineContent, endsWithSeparator]
      · by_cases isFeed : c = '\n'
        · subst isFeed
          simp [lineContent, endsWithSeparator, noReturn]
        · simp [lineContent, endsWithSeparator, isBreak, isReturn, isFeed]
  | pair => simp [lineContent, endsWithSeparator]

theorem exists_separator (separated : endsWithSeparator line = true) :
    number + 1 < lineCount text ∧ ∃ c, isLineBreak c = true ∧ line = lineBody line ++ [c] := by
  obtain ⟨body, ending, rfl, plain, ends, _⟩ := exists_body_ending isLine
  rw [lineBody_append plain ends]
  cases ends with
  | none =>
      rw [List.append_nil] at separated
      unfold endsWithSeparator at separated
      obtain ⟨c, last, isSeparator⟩ := (Option.any_eq_true _ _).mp separated
      rw [plain c (List.mem_of_getLast? last)] at isSeparator
      cases isSeparator
  | single c isBreak =>
      have member : c ∈ body ++ [c] := List.mem_append_right body (List.mem_singleton_self c)
      exact ⟨followed_of_break isLine isBreak member, c, isBreak, rfl⟩
  | pair => simp [endsWithSeparator] at separated

theorem lineBody_shorter (followed : number + 1 < lineCount text) :
    (lineBody line).length < line.length := by
  obtain ⟨body, ending, rfl, plain, ends, broken⟩ := exists_body_ending isLine
  rw [lineBody_append plain ends, List.length_append]
  have positive := List.length_pos_iff.mpr (broken followed)
  omega

/-! ### Where the caret goes -/

/-- A caret goes to the line it is asked for and into its body, unless it is asked to pass a
separator. -/
theorem clamp_of_line {position : Position}
    (isNumber : min position.line (lineCount text - 1) = number) :
    clamp text position =
      if endsWithSeparator line = true ∧ (lineBody line).length < position.column then
        ⟨number + 1, 0⟩
      else ⟨number, min position.column (lineBody line).length⟩ := by
  have inRange := lt_lineCount isLine
  rw [clamp, offsetAt_of_line isNumber isLine, lineContent_eq isLine]
  by_cases separated : endsWithSeparator line = true
  · obtain ⟨followed, c, isBreak, parted⟩ := exists_separator isLine separated
    have lengths : line.length = (lineBody line).length + 1 := by
      rw [parted, List.length_append, ← parted]
      rfl
    rw [if_pos separated]
    by_cases passes : (lineBody line).length < position.column
    · obtain ⟨next, isNext⟩ := exists_line followed
      have nextWithin : 0 < next.length ∨ number + 1 + 1 = lineCount text := by
        by_cases more : number + 1 + 1 < lineCount text
        · exact .inl (length_pos_of_not_last isNext more)
        · exact .inr (by omega)
      rw [if_pos ⟨separated, passes⟩, Nat.min_eq_right (by omega), ← lineStart_succ isLine]
      exact positionAt_lineStart isNext (Nat.zero_le _) nextWithin
    · rw [if_neg fun both => passes both.2, Nat.min_eq_left (by omega), Nat.min_eq_left (by omega)]
      exact positionAt_lineStart isLine (by omega) (.inl (by omega))
  · rw [if_neg separated, if_neg fun both => separated both.1]
    have bodyInLine : (lineBody line).length ≤ line.length :=
      (List.takeWhile_sublist _).length_le
    refine positionAt_lineStart isLine (by omega) ?_
    by_cases followed : number + 1 < lineCount text
    · have shorter := lineBody_shorter isLine followed
      exact .inl (by omega)
    · exact .inr (by omega)

theorem clamp_ofServer_of_line {position : ServerPosition}
    (isNumber : min position.line.toNat (lineCount text - 1) = number) :
    clamp text (ofServer text position) =
      if endsWithSeparator line = true ∧
          units16 (lineBody line) < position.character.toNat then ⟨number + 1, 0⟩
      else ⟨number, columnOfUnits (lineBody line) position.character.toNat⟩ := by
  have inRange := lt_lineCount isLine
  rw [ofServer_of_line isNumber isLine,
    clamp_of_line isLine (by change min number _ = number; omega), lineContent_eq isLine]
  dsimp only
  by_cases separated : endsWithSeparator line = true
  · obtain ⟨_, c, isBreak, parted⟩ := exists_separator isLine separated
    have lengths : line.length = (lineBody line).length + 1 := by
      rw [parted, List.length_append, ← parted]
      rfl
    have lineUnits : units16 line = units16 (lineBody line) + 1 := by
      rw [parted, units16_append, ← parted, units16_cons, units_of_isLineBreak isBreak]
      rfl
    have passes : (lineBody line).length < columnOfUnits line position.character.toNat ↔
        units16 (lineBody line) < position.character.toNat := by
      rw [← Nat.succ_le_iff, le_columnOfUnits_iff, Nat.succ_eq_add_one, ← lengths,
        List.take_length, lineUnits]
      exact ⟨fun both => both.2, fun fits => ⟨Nat.le_refl _, fits⟩⟩
    have within := columnOfUnits_append (lineBody line) [c] position.character.toNat
    rw [← parted] at within
    rw [if_pos separated]
    simp only [separated, true_and, passes, within]
  · have within := columnOfUnits_append (lineBody line) [] position.character.toNat
    rw [List.append_nil] at within
    rw [if_neg separated, if_neg fun both => separated both.1, if_neg fun both => separated both.1,
      within]

end

end SymbolJump.Text

namespace SymbolJump.Server

open Text

/-! ### Carets that are moved -/

theorem activeEditor?_handleLocations_here {documentUri : String} {location : Location}
    (here : Uri.sameDocument location.uri documentUri = true) (others : List Location)
    {jumper : Jumper} {editor : Editor} (isActive : jumper.activeEditor? = some editor)
    (host : Host) :
    (handleLocations documentUri jumper host (location :: others)).2.1.activeEditor? =
      some (editor.ledTo (some location)) := by
  cases jumper with
  | file jumper =>
      cases isActive
      rw [handleLocations_here here]
      rfl
  | notebook jumper =>
      have isCell : jumper.cells[jumper.active]? = some editor := isActive
      have inRange := (List.getElem?_eq_some_iff.mp isCell).1
      have arrived : editor.arrive ((Jumper.notebook jumper).destinationAt
          (ofServer editor.text location.range.start)) = editor.ledTo (some location) :=
        Editor.arrive_eq_of_caret (clamp_clamp _ _)
      have target : jumper.targetCell? ((Jumper.notebook jumper).destinationAt
          (ofServer editor.text location.range.start)) = some jumper.active := rfl
      simp only [handleLocations, GoTo.ofLocations, here, if_true, follow, isActive,
        Option.map_some, Jumper.jump, NotebookJumper.jump_of_target target isCell, arrived]
      exact List.getElem?_set_self inRange

/-- The number of the line that a line number means: the last one if there are fewer. -/
def addressedNumber (text : List Char) (number : Nat) : Nat :=
  min number (lineCount text - 1)

def addressedLine (text : List Char) (number : Nat) : List Char :=
  (line? text (addressedNumber text number)).getD []

theorem line?_addressedNumber (text : List Char) (number : Nat) :
    line? text (addressedNumber text number) = some (addressedLine text number) := by
  have positive := lineCount_pos text
  obtain ⟨line, isLine⟩ :=
    exists_line (by unfold addressedNumber; omega : addressedNumber text number < lineCount text)
  rw [addressedLine, isLine]
  rfl

/-- A caret that is set, or moved by an answer in its document, comes to the line it is asked
for, and there to a column no further than the line's break. The one exception is a line whose
break is neither LF nor CR: asked to go behind the break, the caret comes to the start of the
next line. -/
theorem caret_leaves_line_only_over_separator (editor : Editor) :
    (∀ position : Position,
      let number := addressedNumber editor.text position.line
      let line := addressedLine editor.text position.line
      (editor.setCursor position).cursor = clamp editor.text position ∧
        clamp editor.text position =
          if endsWithSeparator line = true ∧ (lineBody line).length < position.column then
            ⟨number + 1, 0⟩
          else ⟨number, min position.column (lineBody line).length⟩) ∧
      ∀ (documentUri : String) (jumper : Jumper) (host : Host) (location : Location)
        (others : List Location), jumper.activeEditor? = some editor →
        Uri.sameDocument location.uri documentUri = true →
          let start := location.range.start
          let number := addressedNumber editor.text start.line.toNat
          let line := addressedLine editor.text start.line.toNat
          ∃ moved,
            (handleLocations documentUri jumper host (location :: others)).2.1.activeEditor? =
              some moved ∧
            moved.cursor =
              if endsWithSeparator line = true ∧
                  units16 (lineBody line) < start.character.toNat then ⟨number + 1, 0⟩
              else ⟨number, columnOfUnits (lineBody line) start.character.toNat⟩ := by
  constructor
  · intro position number line
    exact ⟨rfl, clamp_of_line (line?_addressedNumber editor.text position.line) rfl⟩
  · intro documentUri jumper host location others isActive here start number line
    refine ⟨_, activeEditor?_handleLocations_here here others isActive host, ?_⟩
    exact clamp_ofServer_of_line (line?_addressedNumber editor.text start.line.toNat) rfl

/-- A text with a page break between its first two lines. -/
def paged : Editor :=
  { id := "main", text := "ab\x0ccd\r\nef".toList, contentType := "" }

theorem caret_leaves_line_only_over_separator_of_pages :
    (paged.setCursor ⟨0, 10⟩).cursor = ⟨1, 0⟩ ∧ (paged.setCursor ⟨1, 10⟩).cursor = ⟨1, 2⟩ ∧
      Jumper.activeEditor? (.file { editor := paged, path := [], language := "", registry := ⟨[]⟩ }) =
        some paged ∧
      Uri.sameDocument "file:///main" "file:///main" = true ∧
      ∃ moved,
        (handleLocations "file:///main"
          (.file { editor := paged, path := [], language := "", registry := ⟨[]⟩ }) {}
          [⟨"file:///main", ⟨⟨0, 10⟩, ⟨0, 10⟩⟩⟩]).2.1.activeEditor? = some moved ∧
        moved.cursor = ⟨1, 0⟩ := by
  have here : Uri.sameDocument "file:///main" "file:///main" = true := by decide
  obtain ⟨placed, led⟩ := caret_leaves_line_only_over_separator paged
  obtain ⟨setFirst, isFirst⟩ := placed ⟨0, 10⟩
  obtain ⟨setSecond, isSecond⟩ := placed ⟨1, 10⟩
  obtain ⟨moved, isMoved, isCursor⟩ := led "file:///main"
    (.file { editor := paged, path := [], language := "", registry := ⟨[]⟩ }) {}
    ⟨"file:///main", ⟨⟨0, 10⟩, ⟨0, 10⟩⟩⟩ [] rfl here
  refine ⟨?_, ?_, rfl, here, moved, isMoved, ?_⟩
  · rw [setFirst, isFirst]
    decide
  · rw [setSecond, isSecond]
    decide
  · rw [isCursor]
    decide

/-- So a caret does not always stay on the line it is asked for. -/
theorem caret_may_leave_line :
    ¬ ∀ (text : List Char) (position : Position),
      (clamp text position).line = addressedNumber text position.line ∧
        (clamp text position).column ≤ (lineBody (addressedLine text position.line)).length := by
  intro stays
  have kept := (stays paged.text ⟨0, 10⟩).1
  revert kept
  decide

end SymbolJump.Server
