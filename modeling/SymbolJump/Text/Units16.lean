/-
Columns counted in UTF-16 code units.

Language servers count columns this way: a character outside the basic plane
takes two units and every other character one. The conversions go between such
server positions and the editor's positions by character.
-/

import SymbolJump.Text.Position

namespace SymbolJump.Text

/-- A position as a language server writes it: 32-bit numbers, the second counting code
units. -/
structure ServerPosition where
  line : UInt32
  character : UInt32
  deriving DecidableEq, Repr

/-- The number of code units of one character. -/
def units (c : Char) : Nat :=
  if c.toNat < 0x10000 then 1 else 2

/-- The number of code units of a text. -/
def units16 (text : List Char) : Nat :=
  text.foldr (fun c total => units c + total) 0

/-- The column reached after a number of code units. A number that ends inside a character
stops before that character. -/
def columnOfUnits : List Char → Nat → Nat
  | [], _ => 0
  | c :: rest, count =>
      if units c ≤ count then columnOfUnits rest (count - units c) + 1 else 0

/-- The editor's place for a server position: an existing line, and a column in its
content. -/
def ofServer (text : List Char) (position : ServerPosition) : Position :=
  let number := min position.line.toNat (lineCount text - 1)
  let content := lineContent ((line? text number).getD [])
  ⟨number, columnOfUnits content position.character.toNat⟩

/-- The server's form of an editor position, taken after moving the position into the
text. -/
def toServer (text : List Char) (position : Position) : ServerPosition :=
  let caret := clamp text position
  let line := (line? text caret.line).getD []
  ⟨caret.line.toUInt32, (units16 (line.take caret.column)).toUInt32⟩

end SymbolJump.Text
