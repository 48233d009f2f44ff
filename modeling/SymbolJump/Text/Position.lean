/-
Positions by line and column.

Both count from zero, columns in characters. A position read from outside need
not exist in the text: turning it into an offset moves it to the nearest place
that does.
-/

import SymbolJump.Text.Lines

namespace SymbolJump.Text

structure Position where
  line : Nat
  column : Nat
  deriving DecidableEq, Repr

namespace Position

def zero : Position := ⟨0, 0⟩

/-- The position a displacement away, line by line and column by column. -/
def add (left right : Position) : Position :=
  ⟨left.line + right.line, left.column + right.column⟩

/-- Reading order: by line, then by column. -/
def order (left right : Position) : Ordering :=
  (compare left.line right.line).then (compare left.column right.column)

end Position

/-- Finds the line an offset falls in, given the lines from some line number on. The last
line takes every offset that is left. -/
def placeIn (number : Nat) : List (List Char) → Nat → Position
  | [], offset => ⟨number, offset⟩
  | [_], offset => ⟨number, offset⟩
  | line :: rest, offset =>
      if offset < line.length then ⟨number, offset⟩
      else placeIn (number + 1) rest (offset - line.length)

/-- The position of an offset; an offset past the end counts as the end. -/
def positionAt (text : List Char) (offset : Nat) : Position :=
  placeIn 0 (lines text) (min offset text.length)

/-- The offset of a position. A line past the last counts as the last, and a column past
the content of its line as the end of the content. -/
def offsetAt (text : List Char) (position : Position) : Nat :=
  let number := min position.line (lineCount text - 1)
  let content := lineContent ((line? text number).getD [])
  lineStart text number + min position.column content.length

/-- The position a caret takes when it is asked to go somewhere. -/
def clamp (text : List Char) (position : Position) : Position :=
  positionAt text (offsetAt text position)

end SymbolJump.Text
