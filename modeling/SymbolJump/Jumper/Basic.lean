/-
What files and notebooks have in common under navigation.

Every operation either moves a caret or leaves all as it was; the truth value
says which.
-/

import SymbolJump.Jumper.File
import SymbolJump.Jumper.Notebook

namespace SymbolJump

open Text

inductive Jumper where
  | file (jumper : FileJumper)
  | notebook (jumper : NotebookJumper)

namespace Jumper

def surface : Jumper → Surface
  | file jumper => jumper.surface
  | notebook jumper => jumper.surface

def language : Jumper → String
  | file jumper => jumper.language
  | notebook jumper => jumper.language

/-- The file behind a jumper. -/
def file? : Jumper → Option FileJumper
  | file jumper => some jumper
  | notebook _ => none

/-- The editors in reading order. -/
def editors : Jumper → List Editor
  | file jumper => [jumper.editor]
  | notebook jumper => jumper.cells

/-- The editor that has the caret. -/
def activeEditor? : Jumper → Option Editor
  | file jumper => some jumper.editor
  | notebook jumper => jumper.activeCell?

/-- The editor of a cell; a file has only the one editor. -/
def editorAt? (jumper : Jumper) (cell : Nat) : Option Editor :=
  match jumper with
  | file jumper => some jumper.editor
  | notebook jumper => jumper.cells[cell]?

/-- Moves the caret in a cell; false if there is no such cell. -/
def setCursor (jumper : Jumper) (cell : Nat) (position : Position) : Bool × Jumper :=
  match jumper with
  | file jumper => (true, file { jumper with editor := jumper.editor.setCursor position })
  | notebook jumper =>
      (cell < jumper.cells.length, notebook (jumper.modifyCell cell (·.setCursor position)))

/-- The caret as a place to return to. -/
def current? : Jumper → Option Destination
  | file jumper => some (.ofPosition jumper.editor.cursor)
  | notebook jumper =>
      jumper.activeCell?.map fun cell =>
        ((Destination.ofPosition cell.cursor).inCell jumper.active).inEditor cell.id

/-- A position of the active editor as a destination. -/
def destinationAt (jumper : Jumper) (position : Position) : Destination :=
  match jumper with
  | file _ => .ofPosition position
  | notebook jumper => (Destination.ofPosition position).inCell jumper.active

/-- Puts the caret at a destination. -/
def jump (jumper : Jumper) (destination : Destination) : Bool × Jumper :=
  match jumper with
  | file jumper => (true, file (jumper.jump destination))
  | notebook jumper =>
      match jumper.jump destination with
      | some arrived => (true, notebook arrived)
      | none => (false, notebook jumper)

/-- Goes to the last definition before a token. -/
def jumpToDefinition (jumper : Jumper) (history : History) (usage : Usage) :
    Bool × Jumper × History :=
  match jumper with
  | file jumper =>
      let (moved, jumper, history) := jumper.jumpToDefinition history usage
      (moved, file jumper, history)
  | notebook jumper =>
      let (moved, jumper, history) := jumper.jumpToDefinition history usage
      (moved, notebook jumper, history)

/-- Returns to where the latest jump came from. -/
def jumpBack (jumper : Jumper) (history : History) : Bool × Jumper × History :=
  match jumper with
  | file jumper =>
      let (moved, jumper, history) := jumper.jumpBack history
      (moved, file jumper, history)
  | notebook jumper =>
      let (moved, jumper, history) := jumper.jumpBack history
      (moved, notebook jumper, history)

/-- The token at the caret as a usage, if there is one. -/
def usageAtCursor? (jumper : Jumper) : Option Usage := do
  let editor ← jumper.activeEditor?
  let token := editor.tokenAtCursor
  if token.isEmpty then none
  else
    let cell ← jumper.editors.findIdx? (·.id == editor.id)
    return { token := token, cell := some cell }

end Jumper

end SymbolJump
