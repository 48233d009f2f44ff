/-
Definitions across the cells of a notebook.

The cells are read as one text, a line feed between neighbours, and a search
from a cell runs back through the cells before it. Offsets are turned from a
cell's own into those of the joined text and back.
-/

import SymbolJump.Definition.Search

namespace SymbolJump.Definition

open Text

/-- The texts of a notebook's cells, in reading order. -/
abbrev Cells := List (List Char)

namespace Cells

/-- The cells as one text. -/
def joined (cells : Cells) : List Char :=
  List.intercalate ['\n'] cells

/-- The offset in the joined text where a cell begins. -/
def base (cells : Cells) (cell : Nat) : Nat :=
  (cells.take cell).flatten.length + (cells.take cell).length

/-- The joined offset of an offset in a cell; past the cell's end counts as its end. -/
def toGlobal? (cells : Cells) (cell offset : Nat) : Option Nat :=
  (cells[cell]?).map fun text => base cells cell + min offset text.length

/-- The cell that a joined offset falls in, and the offset there. The place of a joining
line feed belongs to the cell before it, and the last cell takes all offsets that are
left. -/
def toLocal : Cells → Nat → Nat × Nat
  | [], offset => (0, offset)
  | [_], offset => (0, offset)
  | text :: rest, offset =>
      if offset ≤ text.length then (0, offset)
      else
        let (cell, inner) := toLocal rest (offset - (text.length + 1))
        (cell + 1, inner)

/-- The last definition before a token of a cell, with the cell it stands in. -/
def lastDefinition? (set : RuleSet) (cells : Cells) (cell : Nat) (token : Token) :
    Option (Nat × Token) := do
  let start ← toGlobal? cells cell token.offset
  let found ← Definition.lastDefinition? set (joined cells) token start
  let (owner, offset) := toLocal cells found.offset
  return (owner, ⟨found.value, offset⟩)

end Cells

end SymbolJump.Definition
