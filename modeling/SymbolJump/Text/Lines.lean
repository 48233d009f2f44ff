/-
Lines of a text.

A line keeps the break that ends it, CR followed by LF is one break, and the
part after the last break is a line too, even when it is empty. So the lines of
a text joined together are the text, and there is always at least one.
-/

import SymbolJump.Text.Character

namespace SymbolJump.Text

/-- The lines of a text, each with its break. -/
def lines : List Char → List (List Char)
  | [] => [[]]
  | '\r' :: '\n' :: rest => ['\r', '\n'] :: lines rest
  | c :: rest =>
      if isLineBreak c then [c] :: lines rest
      else
        match lines rest with
        | [] => [[c]]
        | line :: others => (c :: line) :: others

theorem lines_ne_nil (text : List Char) : lines text ≠ [] := by
  fun_cases lines text <;> simp_all

/-- The lines joined together are the text. -/
theorem flatten_lines (text : List Char) : (lines text).flatten = text := by
  fun_induction lines text with
  | case1 => rfl
  | case2 rest ih => simp [ih]
  | case3 c rest _ isBreak ih => simp [ih]
  | case4 c rest _ notBreak empty ih => exact absurd empty (lines_ne_nil rest)
  | case5 c rest _ notBreak line others found ih =>
      rw [found] at ih
      simpa using ih

/-- The number of lines, at least one. -/
def lineCount (text : List Char) : Nat :=
  (lines text).length

/-- One line by number. -/
def line? (text : List Char) (number : Nat) : Option (List Char) :=
  (lines text)[number]?

/-- The offset of the first character of a line; the length of the text past the last one. -/
def lineStart (text : List Char) (number : Nat) : Nat :=
  ((lines text).take number).flatten.length

/-- The text of a line without the LF, or CR, or CR LF that may end it. Other breaks belong
to the content. -/
def lineContent (line : List Char) : List Char :=
  let withoutFeed := if line.getLast? = some '\n' then line.dropLast else line
  if withoutFeed.getLast? = some '\r' then withoutFeed.dropLast else withoutFeed

/-- The first offset and the content length of every line. -/
def lineTable (text : List Char) : List (Nat × Nat) :=
  go 0 (lines text)
where
  go (start : Nat) : List (List Char) → List (Nat × Nat)
    | [] => []
    | line :: rest => (start, (lineContent line).length) :: go (start + line.length) rest

/-- The part of a line before its first CR or LF. -/
def cutLine (line : List Char) : List Char :=
  line.takeWhile fun c => c != '\r' && c != '\n'

end SymbolJump.Text
