/-
What the command prints can be given back to it.

A printed place is a path, a line and a column with colons between them, and
the path may have colons of its own. Reading splits at the last colons and asks
whether numbers stand behind them, so the printed numbers are always taken and
never more than these two: a path that looks like a place itself is kept whole.
With one number only, such a path would lose its end.
-/

import Mathlib.Data.List.TakeWhile
import SymbolJump.Proofs.CommandLine.Answer
import SymbolJump.Proofs.Text.Offsets

namespace SymbolJump

open Text

namespace CommandLine

/-! ### Splitting at the last colon -/

theorem ne_colon_of_mem_reverse {text : List Char} (noColon : ':' ∉ text) :
    ∀ c ∈ text.reverse, (c != ':') = true := by
  intro c member
  rw [bne_iff_ne]
  rintro rfl
  exact noColon (List.mem_reverse.mp member)

theorem takeWhile_reverse_append {last : List Char} (noColon : ':' ∉ last) (front : List Char) :
    ((front ++ ':' :: last).reverse.takeWhile (· != ':')).reverse = last := by
  rw [List.reverse_append, List.reverse_cons, List.append_assoc,
    List.takeWhile_append_of_pos (ne_colon_of_mem_reverse noColon), List.singleton_append,
    List.takeWhile_cons_of_neg (by decide), List.append_nil, List.reverse_reverse]

theorem splitColon?_append {last : List Char} (noColon : ':' ∉ last) (front : List Char) :
    splitColon? (front ++ ':' :: last) = some (front, last) := by
  have shorter : last.length < (front ++ ':' :: last).length := by
    rw [List.length_append, List.length_cons]
    omega
  have frontLength : (front ++ ':' :: last).length - last.length - 1 = front.length := by
    rw [List.length_append, List.length_cons]
    omega
  simp only [splitColon?, takeWhile_reverse_append noColon, if_pos shorter, frontLength,
    List.take_left]

theorem splitColon?_eq_none {text : List Char} (noColon : ':' ∉ text) :
    splitColon? text = none := by
  have whole := List.takeWhile_eq_self_iff.mpr (ne_colon_of_mem_reverse noColon)
  simp only [splitColon?, whole, List.reverse_reverse, Nat.lt_irrefl, if_false]

theorem exists_last_colon {text : List Char} (hasColon : ':' ∈ text) :
    ∃ front last, text = front ++ ':' :: last ∧ ':' ∉ last := by
  obtain ⟨behind, before, reversed, noColon⟩ :=
    List.eq_append_cons_of_mem (List.mem_reverse.mpr hasColon)
  refine ⟨before.reverse, behind.reverse, ?_, fun member => noColon (List.mem_reverse.mp member)⟩
  rw [← List.reverse_inj, reversed, List.reverse_append, List.reverse_cons, List.reverse_reverse,
    List.reverse_reverse, List.append_assoc, List.singleton_append]

theorem no_colon_numeral (number : Nat) : ':' ∉ numeral number := by
  intro member
  have isDigit : ':'.isDigit = true := Nat.isDigit_of_mem_toDigits (by decide) (by decide) member
  exact absurd isDigit (by decide)

/-! ### Reading a target -/

/-- Whether a path ends in a colon and a number, as if it were a place itself. -/
def EndsInNumber (path : Path) : Prop :=
  ∃ front last, path = front ++ ':' :: last ∧ ':' ∉ last ∧ (numeral64? last).isSome = true

theorem endsInNumber_append_iff {last : List Char} (noColon : ':' ∉ last) (front : List Char) :
    EndsInNumber (front ++ ':' :: last) ↔ (numeral64? last).isSome = true := by
  constructor
  · rintro ⟨otherFront, otherLast, same, otherNoColon, isNumber⟩
    have parted := splitColon?_append noColon front
    rw [same, splitColon?_append otherNoColon otherFront] at parted
    cases parted
    exact isNumber
  · intro isNumber
    exact ⟨front, last, rfl, noColon, isNumber⟩

theorem not_endsInNumber {path : Path} (noColon : ':' ∉ path) : ¬EndsInNumber path := by
  rintro ⟨front, last, rfl, _⟩
  exact noColon (List.mem_append_right front List.mem_cons_self)

namespace Target

variable {line column : Nat}

theorem ofText_text (path : Path) (lineFits : line < limit64) (columnFits : column < limit64) :
    ofText (text path line column) =
      { path := path, line := some line, column := some column } := by
  have atColumn := splitColon?_append (no_colon_numeral column) (path ++ ':' :: numeral line)
  have atLine := splitColon?_append (no_colon_numeral line) path
  simp only [ofText, text, atColumn, atLine, numeral64?_numeral columnFits,
    numeral64?_numeral lineFits]

/-- A number at the end of the path is taken for the line, and the line for a column. -/
theorem ofText_line_iff (path : Path) (fits : line < limit64) :
    ofText (path ++ ':' :: numeral line) = { path := path, line := some line } ↔
      ¬EndsInNumber path := by
  have atLine := splitColon?_append (no_colon_numeral line) path
  -- What stands behind the last colon of the path itself decides.
  by_cases hasColon : ':' ∈ path
  · obtain ⟨front, last, rfl, noColon⟩ := exists_last_colon hasColon
    have inPath := splitColon?_append noColon front
    rw [endsInNumber_append_iff noColon]
    cases isNumber : numeral64? last with
    | none =>
        simp only [ofText, atLine, numeral64?_numeral fits, inPath, isNumber, Option.isSome_none,
          Bool.false_eq_true, not_false_eq_true]
    | some number =>
        simp only [ofText, atLine, numeral64?_numeral fits, inPath, isNumber, Option.isSome_some,
          Target.mk.injEq, reduceCtorEq, and_false, not_true_eq_false]
  · simp only [ofText, atLine, numeral64?_numeral fits, splitColon?_eq_none hasColon,
      not_endsInNumber hasColon, not_false_eq_true]

end Target

/-! ### What a search prints -/

theorem exists_position_of_printed {request : Request} {text printed : List Char}
    (isPrinted : printed ∈ (search request text).output) :
    ∃ position, printed = shown request.file position ∧ position.line ≤ text.length ∧
      position.column ≤ text.length := by
  obtain ⟨log, isSearched⟩ := search_eq request text
  rw [isSearched] at isPrinted
  unfold answer at isPrinted
  dsimp only at isPrinted
  cases isFound : lexicalDefinition? request.language text (clamp text request.position) with
  | none =>
      rw [isFound] at isPrinted
      cases isPrinted
  | some found =>
      rw [isFound] at isPrinted
      rcases List.mem_cons.mp isPrinted with isDefinition | isCaret
      · exact ⟨_, isDefinition, positionAt_le text found.offset⟩
      · split at isCaret
        · exact ⟨_, List.mem_singleton.mp isCaret, clamp_le text request.position⟩
        · cases isCaret

/-! ### Giving a printed place back -/

/-- Options that have a place as target and say nothing else about the line and the column. -/
structure Options.GivesBack (options : Options) (path : Path) (line column : Nat) : Prop where
  target : options.target.toList = Target.text path line column
  lineUnset : options.line = none
  columnUnset : options.column = none

theorem read_target_alone (target : String) :
    Options.read ["--", target] = .ok { target := target } := by
  rw [Options.read, Draft.read_target rfl]
  rfl

section

variable {options : Options} {path : Path} {line column : Nat}

theorem Options.GivesBack.exists_request (givesBack : options.GivesBack path line column)
    (hasLine : 0 < line) (lineFits : line < limit64) (hasColumn : 0 < column)
    (columnFits : column < limit64) :
    ∃ request, Request.ofOptions? options false = some request ∧ request.file = path ∧
      request.position = ⟨line - 1, column - 1⟩ := by
  have isTarget : Target.read false options.target.toList =
      { path := path, line := some line, column := some column } := by
    rw [givesBack.target]
    exact Target.ofText_text path lineFits columnFits
  have isPositive : ¬(line = 0 ∨ column = 0) := by omega
  simp only [Request.ofOptions?, isTarget, givesBack.lineUnset, givesBack.columnUnset,
    Option.none_or, Option.getD_some, if_neg isPositive]
  exact ⟨_, rfl, rfl, rfl⟩

variable {σ : Type} {disk : Disk (StateM σ)} {view : σ → Path → Found} {state : σ}

theorem Options.GivesBack.exists_run (givesBack : options.GivesBack path line column)
    (shows : disk.Shows view) {arguments : List String}
    (isRead : Options.read arguments = .ok options) (hasLine : 0 < line)
    (lineFits : line < limit64) (hasColumn : 0 < column) (columnFits : column < limit64)
    (missing : (view state options.target.toList).isThere = false)
    (environment : Settings.Environment) (directory : Path) :
    ∃ request, Request.ofOptions? options false = some request ∧ request.file = path ∧
      request.position = ⟨line - 1, column - 1⟩ ∧
      (run disk environment directory arguments).run state =
        (carryOut disk environment directory request).run state := by
  obtain ⟨request, isRequest, isFile, isPosition⟩ :=
    givesBack.exists_request hasLine lineFits hasColumn columnFits
  refine ⟨request, isRequest, isFile, isPosition, ?_⟩
  rw [run_of_read shows isRead, missing, isRequest]

/-- A place is read back as it was printed, whatever colons and numbers its path has, unless
the place is itself the name of something. A place without a column is read back exactly if its
path does not end in a number. Without options for line and column, the run that is given a
printed place is that of a request for the path, with the caret at the place. All that a search
prints are such places, so each can be given back alone. -/
theorem printed_place_is_valid_target (shows : disk.Shows view)
    (environment : Settings.Environment) (directory : Path) (state : σ) :
    (∀ path line column, line < limit64 → column < limit64 →
      Target.read false (Target.text path line column) =
        { path := path, line := some line, column := some column }) ∧
      (∀ path line, line < limit64 →
        (Target.read false (path ++ ':' :: numeral line) = { path := path, line := some line } ↔
          ¬EndsInNumber path)) ∧
      (∀ path line column arguments options, 0 < line → line < limit64 → 0 < column →
        column < limit64 → Options.read arguments = .ok options →
        options.GivesBack path line column →
        (view state options.target.toList).isThere = false →
        ∃ request, Request.ofOptions? options false = some request ∧ request.file = path ∧
          request.position = ⟨line - 1, column - 1⟩ ∧
          (run disk environment directory arguments).run state =
            (carryOut disk environment directory request).run state) ∧
      ∀ request text printed, text.length + 1 < limit64 →
        printed ∈ (search request text).output → (view state printed).isThere = false →
        ∃ position again, printed = shown request.file position ∧ again.file = request.file ∧
          again.position = position ∧
          (run disk environment directory ["--", String.ofList printed]).run state =
            (carryOut disk environment directory again).run state := by
  refine ⟨fun path line column => Target.ofText_text path,
    fun path line => Target.ofText_line_iff path, ?_, ?_⟩
  · intro path line column arguments options hasLine lineFits hasColumn columnFits isRead
      givesBack missing
    exact givesBack.exists_run shows isRead hasLine lineFits hasColumn columnFits missing
      environment directory
  · intro request text printed fits isPrinted missing
    obtain ⟨position, rfl, lineUpTo, columnUpTo⟩ := exists_position_of_printed isPrinted
    have isRead := read_target_alone (String.ofList (shown request.file position))
    have givesBack : Options.GivesBack
        { target := String.ofList (shown request.file position) } request.file
        (position.line + 1) (position.column + 1) := ⟨String.toList_ofList, rfl, rfl⟩
    obtain ⟨again, _, isFile, isPosition, isRun⟩ :=
      givesBack.exists_run shows isRead (Nat.succ_pos _) (by omega) (Nat.succ_pos _) (by omega)
        (by rw [String.toList_ofList]; exact missing) environment directory
    exact ⟨position, again, rfl, isFile, isPosition, isRun⟩

end

def fromSecondLine : Request :=
  { file := "f.py".toList, position := ⟨1, 0⟩, language := "python", back := false, verbosity := 0,
    logFile := none }

/-- A path that looks like a place is kept whole, and what a search prints can be given back
alone. -/
theorem printed_place_is_valid_target_after_search :
    FileTree.disk.Shows FileTree.look ∧
      Target.read false "a:3:2:9".toList =
        { path := "a:3".toList, line := some 2, column := some 9 } ∧
      "f.py:1:1".toList ∈ (search fromSecondLine "x = 1\nx".toList).output ∧
      (twoLines.look "f.py:1:1".toList).isThere = false ∧
      ∃ position again, "f.py:1:1".toList = shown fromSecondLine.file position ∧
        again.file = fromSecondLine.file ∧ again.position = position ∧
        (run FileTree.disk { home := ['h'] } ['d'] ["--", "f.py:1:1"]).run twoLines =
          (carryOut FileTree.disk { home := ['h'] } ['d'] again).run twoLines := by
  obtain ⟨readBack, _, _, searched⟩ := printed_place_is_valid_target
    FileTree.disk_shows { home := ['h'] } ['d'] twoLines
  have isAnswer : answer "f.py".toList "python" false "x = 1\nx".toList ⟨1, 0⟩ =
      (0, ["f.py:1:1".toList]) := by decide +kernel
  have isPrinted : "f.py:1:1".toList ∈ (search fromSecondLine "x = 1\nx".toList).output := by
    obtain ⟨log, isSearched⟩ := search_eq fromSecondLine "x = 1\nx".toList
    rw [isSearched, fromSecondLine, isAnswer]
    exact List.mem_singleton_self _
  have missing : (twoLines.look "f.py:1:1".toList).isThere = false := by decide +kernel
  exact ⟨FileTree.disk_shows, readBack "a:3".toList 2 9 (by decide) (by decide), isPrinted, missing,
    searched fromSecondLine _ _ (by decide) isPrinted missing⟩

end CommandLine

end SymbolJump
