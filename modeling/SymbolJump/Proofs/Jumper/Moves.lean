/-
What the moves of a jumper can do.

A jump to a definition either finds none and leaves everything as it is, or
stores one destination and takes one editor to the definition. In a notebook
the second part cannot fail after the first: the search reads only the cells
up to that of the token, so the cell it reports exists.
-/

import SymbolJump.Jumper.Basic
import SymbolJump.Proofs.Definition.Cells
import SymbolJump.Proofs.Editor

namespace SymbolJump

open Text

/-! ### Arriving at a definition -/

theorem Definition.DefinedAt.rests {set : Definition.RuleSet} {name text : List Char}
    {offset : Nat} (place : Definition.DefinedAt set name (lines text) offset) :
    Rests text (positionAt text offset) := by
  cases place with
  | inLine number line column isLine visible defines =>
      have inContent := length_cutLine_le_content line
      have contentInLine := length_lineContent_le line
      have inLine : column < line.length := by omega
      have isPlace : positionAt text (lineStart text number + column) = ⟨number, column⟩ :=
        positionAt_lineStart isLine (Nat.le_of_lt inLine) (.inl inLine)
      change Rests text (positionAt text (lineStart text number + column))
      rw [isPlace]
      exact ⟨line, isLine, by change column ≤ _; omega, .inl inLine⟩

theorem Editor.arrive_definition {set : Definition.RuleSet} {editor : Editor}
    {token found : Token} {start : Nat} (cell : Option Nat)
    (isFound : Definition.lastDefinition? set editor.text token start = some found) :
    editor.arrive { place := .token found, cell := cell } =
      { editor with cursor := positionAt editor.text found.offset, focused := true } := by
  obtain ⟨_, _, place⟩ := Definition.lastDefinition?_eq_some set isFound
  exact arrive_eq_of_caret (clamp_of_rests place.rests)

/-! ### Files -/

namespace FileJumper

theorem jump_eq (jumper : FileJumper) (destination : Destination) :
    jumper.jump destination = { jumper with editor := jumper.editor.arrive destination } := rfl

def definition? (jumper : FileJumper) (usage : Usage) : Option Token :=
  Definition.lastDefinition? jumper.rules jumper.editor.text usage.token usage.token.offset

theorem jumpToDefinition_of_none {jumper : FileJumper} {usage : Usage}
    (missing : jumper.definition? usage = none) (history : History) :
    jumper.jumpToDefinition history usage = (false, jumper, history) := by
  unfold definition? at missing
  simp only [jumpToDefinition, missing]

theorem jumpToDefinition_of_some {jumper : FileJumper} {usage : Usage} {token : Token}
    (found : jumper.definition? usage = some token) (history : History) :
    jumper.jumpToDefinition history usage =
      (true, jumper.jump (.ofToken token),
        history.store jumper.surface (.ofPosition jumper.editor.cursor)) := by
  unfold definition? at found
  simp only [jumpToDefinition, found]

theorem jumpBack_of_nil {jumper : FileJumper} {history : History}
    (empty : history.stack jumper.surface = []) :
    jumper.jumpBack history = (false, jumper, history) := by
  unfold jumpBack History.recollect
  rw [empty]

theorem jumpBack_of_cons {jumper : FileJumper} {history : History} {latest : Destination}
    {earlier : List Destination} (stacked : history.stack jumper.surface = latest :: earlier) :
    jumper.jumpBack history =
      (true, jumper.jump latest, (history.recollect jumper.surface).2) := by
  unfold jumpBack History.recollect
  rw [stacked]

end FileJumper

/-! ### Notebooks -/

namespace NotebookJumper

theorem jump_of_target {jumper : NotebookJumper} {destination : Destination} {index : Nat}
    {cell : Editor} (target : jumper.targetCell? destination = some index)
    (isCell : jumper.cells[index]? = some cell) :
    jumper.jump destination =
      some { jumper with
        cells := jumper.cells.set index (cell.arrive destination), active := index } := by
  simp only [jump, target, isCell, Option.bind_eq_bind, Option.bind_some]
  rfl

theorem jump_of_lost {jumper : NotebookJumper} {destination : Destination}
    (lost : jumper.targetCell? destination = none) : jumper.jump destination = none := by
  simp only [jump, lost, Option.bind_eq_bind, Option.bind_none]

theorem jump_eq_some {jumper arrived : NotebookJumper} {destination : Destination}
    (jumped : jumper.jump destination = some arrived) :
    ∃ index cell, jumper.cells[index]? = some cell ∧
      arrived = { jumper with
        cells := jumper.cells.set index (cell.arrive destination), active := index } := by
  cases target : jumper.targetCell? destination with
  | none =>
      rw [jump_of_lost target] at jumped
      cases jumped
  | some index =>
      cases isCell : jumper.cells[index]? with
      | none =>
          simp only [jump, target, isCell, Option.bind_eq_bind, Option.bind_some,
            Option.bind_none] at jumped
          cases jumped
      | some cell =>
          rw [jump_of_target target isCell] at jumped
          exact ⟨index, cell, isCell, (Option.some.inj jumped).symm⟩

def usedCell (jumper : NotebookJumper) (usage : Usage) : Nat :=
  usage.cell.getD jumper.active

/-- The search of a jump, cell by cell. -/
def definition? (jumper : NotebookJumper) (usage : Usage) : Option (Nat × Token) :=
  if jumper.usedCell usage < jumper.cells.length then
    Definition.Cells.cellByCell? jumper.rules (jumper.cells.map (·.text)) (jumper.usedCell usage)
      usage.token
  else none

theorem definition?_of_cell {jumper : NotebookJumper} {usage : Usage} {cell : Editor}
    (isCell : jumper.cells[jumper.usedCell usage]? = some cell) :
    Definition.Cells.lastDefinition? jumper.rules
        ((jumper.cells.take (jumper.usedCell usage + 1)).map (·.text)) (jumper.usedCell usage)
        usage.token = jumper.definition? usage := by
  have inRange := (List.getElem?_eq_some_iff.mp isCell).1
  have readable : jumper.usedCell usage <
      ((jumper.cells.take (jumper.usedCell usage + 1)).map (·.text)).length := by
    rw [List.length_map, List.length_take]
    omega
  rw [Definition.Cells.lastDefinition?_eq_cellByCell? _ readable, definition?, if_pos inRange,
    List.map_take, Definition.Cells.cellByCell?_take]

theorem jumpToDefinition_of_none {jumper : NotebookJumper} {usage : Usage}
    (missing : jumper.definition? usage = none) (history : History) :
    jumper.jumpToDefinition history usage = (false, jumper, history) := by
  cases isCell : jumper.cells[jumper.usedCell usage]? with
  | none =>
      simp only [usedCell] at isCell
      simp only [jumpToDefinition, isCell]
  | some cell =>
      have searched := definition?_of_cell isCell
      rw [missing] at searched
      simp only [usedCell] at isCell searched
      simp only [jumpToDefinition, isCell, searched]

/-- A definition found is always reached: its cell is one of those searched. -/
theorem jumpToDefinition_of_some {jumper : NotebookJumper} {usage : Usage} {owner : Nat}
    {token : Token} (found : jumper.definition? usage = some (owner, token)) (history : History) :
    ∃ cell target start,
      jumper.cells[jumper.usedCell usage]? = some cell ∧ jumper.cells[owner]? = some target ∧
      Definition.lastDefinition? jumper.rules target.text usage.token start = some token ∧
      jumper.jumpToDefinition history usage =
        (true,
          { jumper with
            cells := jumper.cells.set owner
              (target.arrive ((Destination.ofToken token).inCell owner))
            active := owner },
          history.store jumper.surface (jumper.origin usage (jumper.usedCell usage) cell)) := by
  have inRange : jumper.usedCell usage < jumper.cells.length := by
    unfold definition? at found
    split at found
    · assumption
    · cases found
  have isCell := List.getElem?_eq_getElem inRange
  have searched := definition?_of_cell isCell
  rw [found] at searched
  have cellwise := found
  rw [definition?, if_pos inRange] at cellwise
  obtain ⟨_, text, start, isText, isPlace⟩ := Definition.Cells.cellByCell?_eq_some _ cellwise
  rw [List.getElem?_map] at isText
  obtain ⟨target, isTarget, rfl⟩ := Option.map_eq_some_iff.mp isText
  have reached := jump_of_target
    (rfl : jumper.targetCell? ((Destination.ofToken token).inCell owner) = some owner) isTarget
  refine ⟨_, target, start, isCell, isTarget, isPlace, ?_⟩
  simp only [usedCell] at isCell searched
  simp only [jumpToDefinition, isCell, searched, reached]
  rfl

theorem jumpBack_of_nil {jumper : NotebookJumper} {history : History}
    (empty : history.stack jumper.surface = []) :
    jumper.jumpBack history = (false, jumper, history) := by
  unfold jumpBack History.recollect
  rw [empty]

theorem jumpBack_of_cons {jumper : NotebookJumper} {history : History} {latest : Destination}
    {earlier : List Destination} (stacked : history.stack jumper.surface = latest :: earlier) :
    jumper.jumpBack history =
      ((jumper.jump latest).isSome, (jumper.jump latest).getD jumper,
        (history.recollect jumper.surface).2) := by
  unfold jumpBack History.recollect
  rw [stacked]
  dsimp only
  cases jumper.jump latest with
  | none => rfl
  | some arrived => rfl

end NotebookJumper

end SymbolJump
