/-
Jumping between the cells of a notebook.

One cell is active. Where a jump came from is stored with the id of its cell's
editor, so that returning finds the cell again after others were added or
removed, and does nothing when the cell is gone.
-/

import SymbolJump.Definition.Cells
import SymbolJump.Definition.Language
import SymbolJump.Editor
import SymbolJump.Jump.History
import SymbolJump.Path

namespace SymbolJump

/-- A notebook under navigation: its cells in reading order and the active one. -/
structure NotebookJumper where
  id : String
  path : Path
  language : String
  registry : Definition.Registry
  cells : List Editor := []
  active : Nat := 0

namespace NotebookJumper

def surface (jumper : NotebookJumper) : Surface :=
  .notebook jumper.id

def rules (jumper : NotebookJumper) : Definition.RuleSet :=
  jumper.registry.rulesFor jumper.language

def setLanguage (jumper : NotebookJumper) (language : String) : NotebookJumper :=
  { jumper with language := language }

/-! ### Cells -/

def activeCell? (jumper : NotebookJumper) : Option Editor :=
  jumper.cells[jumper.active]?

/-- The number of the cell with an editor's id. -/
def cellIndex? (jumper : NotebookJumper) (editorId : String) : Option Nat :=
  jumper.cells.findIdx? (·.id == editorId)

def setActive (jumper : NotebookJumper) (index : Nat) : Option NotebookJumper :=
  if index < jumper.cells.length then some { jumper with active := index } else none

/-- Adds a cell at the end. -/
def pushCell (jumper : NotebookJumper) (cell : Editor) : NotebookJumper :=
  { jumper with cells := jumper.cells ++ [cell] }

/-- Adds a cell at an index, or at the end if there is no such index; gives the index
taken. The active cell stays the same one. -/
def insertCell (jumper : NotebookJumper) (index : Nat) (cell : Editor) :
    Nat × NotebookJumper :=
  let place := min index jumper.cells.length
  let shifts := place ≤ jumper.active && 0 < jumper.cells.length
  (place,
    { jumper with
      cells := jumper.cells.take place ++ cell :: jumper.cells.drop place
      active := if shifts then jumper.active + 1 else jumper.active })

/-- Removes the cell at an index, if there is one. A removed active cell hands over to the
next one, or at the end to the one before. -/
def removeCell (jumper : NotebookJumper) (index : Nat) : Option (Editor × NotebookJumper) :=
  (jumper.cells[index]?).map fun removed =>
    let cells := jumper.cells.eraseIdx index
    let shifts := index < jumper.active || cells.length ≤ jumper.active
    (removed,
      { jumper with
        cells := cells
        active := if shifts then jumper.active - 1 else jumper.active })

/-- Changes one cell, if there is such a cell. -/
def modifyCell (jumper : NotebookJumper) (index : Nat) (change : Editor → Editor) :
    NotebookJumper :=
  { jumper with cells := jumper.cells.modify index change }

/-! ### Jumps -/

/-- The cell a destination means: that of its editor if it names one, otherwise the cell of
its number, otherwise the active one. -/
def targetCell? (jumper : NotebookJumper) (destination : Destination) : Option Nat :=
  match destination.editor with
  | some editorId => jumper.cellIndex? editorId
  | none => some (destination.cell.getD jumper.active)

/-- Puts the caret at a destination and makes its cell the active one. -/
def jump (jumper : NotebookJumper) (destination : Destination) : Option NotebookJumper := do
  let index ← jumper.targetCell? destination
  let cell ← jumper.cells[index]?
  let arrived := (cell.setCursor (destination.caret cell.text)).focus
  return { jumper with cells := jumper.cells.set index arrived, active := index }

/-- Where to return to after a jump from a cell: the caret if the cell is active, the token
otherwise. -/
def origin (jumper : NotebookJumper) (usage : Usage) (index : Nat) (cell : Editor) :
    Destination :=
  let place :=
    if index = jumper.active then Destination.ofPosition cell.cursor
    else Destination.ofToken usage.token
  (place.inCell index).inEditor cell.id

/-- Goes to the last definition before a token, through the cells above if need be, and
stores where to return to. -/
def jumpToDefinition (jumper : NotebookJumper) (history : History) (usage : Usage) :
    Bool × NotebookJumper × History :=
  let index := usage.cell.getD jumper.active
  match jumper.cells[index]? with
  | none => (false, jumper, history)
  | some cell =>
      let readable : Definition.Cells := (jumper.cells.take (index + 1)).map (·.text)
      match readable.lastDefinition? jumper.rules index usage.token with
      | none => (false, jumper, history)
      | some (owner, token) =>
          let stored := history.store jumper.surface (jumper.origin usage index cell)
          match jumper.jump ((Destination.ofToken token).inCell owner) with
          | some arrived => (true, arrived, stored)
          | none => (false, jumper, stored)

/-- Returns to where the latest jump came from. A destination whose cell is gone is used up
without effect. -/
def jumpBack (jumper : NotebookJumper) (history : History) :
    Bool × NotebookJumper × History :=
  match history.recollect jumper.surface with
  | (none, history) => (false, jumper, history)
  | (some destination, history) =>
      match jumper.jump destination with
      | some arrived => (true, arrived, history)
      | none => (false, jumper, history)

end NotebookJumper

end SymbolJump
