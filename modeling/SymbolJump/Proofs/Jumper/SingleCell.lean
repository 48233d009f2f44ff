/-
A notebook with one cell is navigated like a file.

The two share no code: one searches its text, the other the joined texts of
its cells; one stores a bare caret to return to, the other a caret tagged with
the number and the editor of a cell. Side by side they stay in step all the
same. Their editors look alike after every action, and their stacks match
entry by entry in all but the tags, which in a notebook of one cell always
lead to that cell.
-/

import Mathlib.Data.List.Forall2
import SymbolJump.Proofs.Jumper.AllOrNothing

namespace SymbolJump

open Text

/-! ### What is done and what is seen -/

/-- The actions that a file and a notebook have in common. A token is used in the active
cell or in the first one. -/
inductive SurfaceAction where
  | setCursor (position : Position)
  | jump (place : Place)
  | define (token : Token) (cell : Option (Fin 1))
  | jumpTo (position : Position)
  | back
  | leave (target : OutsideTarget) (linked : Bool)

structure Sight where
  caret : Option Position
  focused : Option Bool
  depth : Nat
  asked : List Asked
  deriving DecidableEq

namespace Workplace

def sight (place : Workplace) : Sight where
  caret := place.jumper.activeEditor?.map (·.cursor)
  focused := place.jumper.activeEditor?.map (·.focused)
  depth := place.history.depth place.jumper.surface
  asked := place.host.log

def jump (place : Workplace) (destination : Destination) : Bool × Workplace :=
  let (moved, jumper) := place.jumper.jump destination
  (moved, { place with jumper := jumper })

def act (place : Workplace) : SurfaceAction → Bool × Workplace
  | .setCursor position =>
      let (known, jumper) := place.jumper.setCursor 0 position
      (known, { place with jumper := jumper })
  | .jump target => place.jump { place := target }
  | .define token cell => place.jumpToDefinition { token := token, cell := cell.map Fin.val }
  | .jumpTo position => place.jump (place.jumper.destinationAt position)
  | .back =>
      let (moved, jumper, history) := place.jumper.jumpBack place.history
      (moved, { place with jumper := jumper, history := history })
  | .leave target linked =>
      let (shown, host) := place.host.present (target.request linked)
      (shown, { place with host := host })

/-- The answer to every action of a run, and what is seen after it. -/
def reports : Workplace → List SurfaceAction → List (Bool × Sight)
  | _, [] => []
  | place, action :: rest =>
      ((place.act action).1, (place.act action).2.sight) :: reports (place.act action).2 rest

end Workplace

/-! ### Editors that look alike -/

def Editor.look (editor : Editor) : List Char × Position × Bool :=
  (editor.text, editor.cursor, editor.focused)

theorem Editor.look_eq_iff {editor other : Editor} :
    other.look = editor.look ↔ other.text = editor.text ∧ other.cursor = editor.cursor ∧
      other.focused = editor.focused := by
  simp only [look, Prod.mk.injEq]

theorem Editor.look_setCursor {editor other : Editor} (alike : other.look = editor.look)
    (position : Position) :
    (other.setCursor position).look = (editor.setCursor position).look := by
  obtain ⟨sameText, _, sameFocus⟩ := look_eq_iff.mp alike
  simp only [look, setCursor, sameText, sameFocus]

theorem Editor.look_arrive {editor other : Editor} {left right : Destination}
    (alike : other.look = editor.look) (samePlace : right.place = left.place) :
    (other.arrive right).look = (editor.arrive left).look := by
  obtain ⟨sameText, _, _⟩ := look_eq_iff.mp alike
  simp only [look, arrive, setCursor, focus, Destination.caret, sameText, samePlace]

/-- A notebook of one cell, with the rules of a file and a cell that looks like its editor. -/
structure Twin (file : FileJumper) (notebook : NotebookJumper) (cell : Editor) : Prop where
  cells : notebook.cells = [cell]
  active : notebook.active = 0
  rules : notebook.rules = file.rules
  alike : cell.look = file.editor.look

namespace Twin

variable {file : FileJumper} {notebook : NotebookJumper} {cell : Editor}

theorem isCell (twin : Twin file notebook cell) : notebook.cells[0]? = some cell := by
  rw [twin.cells]
  rfl

theorem activeCell? (twin : Twin file notebook cell) : notebook.activeCell? = some cell := by
  unfold NotebookJumper.activeCell?
  rw [twin.active, twin.isCell]

theorem arrive (twin : Twin file notebook cell) {left right : Destination}
    (samePlace : right.place = left.place) :
    Twin (file.jump left)
      { notebook with cells := notebook.cells.set 0 (cell.arrive right), active := 0 }
      (cell.arrive right) where
  cells := by
    rw [twin.cells]
    rfl
  active := rfl
  rules := twin.rules
  alike := Editor.look_arrive twin.alike samePlace

theorem setCursor (twin : Twin file notebook cell) (position : Position) :
    Twin { file with editor := file.editor.setCursor position }
      (notebook.modifyCell 0 (·.setCursor position)) (cell.setCursor position) where
  cells := by
    change notebook.cells.modify 0 _ = _
    rw [twin.cells]
    rfl
  active := twin.active
  rules := twin.rules
  alike := Editor.look_setCursor twin.alike position

theorem usedCell (twin : Twin file notebook cell) (token : Token) (index : Option (Fin 1)) :
    notebook.usedCell { token := token, cell := index.map Fin.val } = 0 := by
  cases index with
  | none => exact twin.active
  | some index => exact Nat.lt_one_iff.mp index.isLt

theorem definition? (twin : Twin file notebook cell) (token : Token) (index : Option (Fin 1)) :
    notebook.definition? { token := token, cell := index.map Fin.val } =
      (file.definition? { token := token, cell := index.map Fin.val }).map fun found =>
        (0, found) := by
  obtain ⟨sameText, _, _⟩ := Editor.look_eq_iff.mp twin.alike
  unfold NotebookJumper.definition? FileJumper.definition?
  rw [twin.usedCell, twin.cells, twin.rules, List.length_singleton, if_pos Nat.one_pos, ← sameText]
  -- There is no cell above the first one, so only its own text is searched.
  unfold Definition.Cells.cellByCell? Definition.Cells.inCell?
  cases found : Definition.lastDefinition? file.rules cell.text token token.offset with
  | none => simp [found]
  | some place => simp [found]

theorem origin (twin : Twin file notebook cell) (usage : Usage) :
    notebook.origin usage 0 cell =
      ((Destination.ofPosition file.editor.cursor).inCell 0).inEditor cell.id := by
  obtain ⟨_, sameCaret, _⟩ := Editor.look_eq_iff.mp twin.alike
  unfold NotebookJumper.origin
  rw [if_pos twin.active.symm, sameCaret]

end Twin

/-! ### Workplaces in step -/

/-- Two destinations that differ by their tags alone, where the second names an editor. -/
structure SameReturn (editor : String) (left right : Destination) : Prop where
  samePlace : right.place = left.place
  names : right.editor = some editor

namespace Workplace

inductive InStep : Workplace → Workplace → Prop where
  | intro {file : FileJumper} {notebook : NotebookJumper} {cell : Editor}
      {fileHistory notebookHistory : History} {host : Host}
      (twin : Twin file notebook cell)
      (stacksMatch : List.Forall₂ (SameReturn cell.id) (fileHistory.stack file.surface)
        (notebookHistory.stack notebook.surface)) :
      InStep ⟨.file file, fileHistory, host⟩ ⟨.notebook notebook, notebookHistory, host⟩

/-- Two outcomes with the same answer that leave workplaces in step. -/
def Agree (left right : Bool × Workplace) : Prop :=
  left.1 = right.1 ∧ InStep left.2 right.2

theorem InStep.sight {left right : Workplace} (inStep : InStep left right) :
    left.sight = right.sight := by
  cases inStep with
  | @intro file notebook cell fileHistory notebookHistory host twin stacksMatch =>
      obtain ⟨_, sameCaret, sameFocus⟩ := Editor.look_eq_iff.mp twin.alike
      have sameDepth := stacksMatch.length_eq
      simp only [Workplace.sight, Jumper.activeEditor?, Jumper.surface, History.depth,
        twin.activeCell?, Option.map_some, sameCaret, sameFocus, sameDepth]

section

variable {file : FileJumper} {notebook : NotebookJumper} {cell : Editor}
  {fileHistory notebookHistory : History} {host : Host} (twin : Twin file notebook cell)
  (stacksMatch : List.Forall₂ (SameReturn cell.id) (fileHistory.stack file.surface)
    (notebookHistory.stack notebook.surface))

include twin stacksMatch

theorem agree_jump {left right : Destination} (samePlace : right.place = left.place)
    (target : notebook.targetCell? right = some 0) :
    Agree (jump ⟨.file file, fileHistory, host⟩ left)
      (jump ⟨.notebook notebook, notebookHistory, host⟩ right) := by
  simp only [Agree, jump, Jumper.jump, NotebookJumper.jump_of_target target twin.isCell]
  exact ⟨trivial, .intro (twin.arrive samePlace) stacksMatch⟩

theorem agree_define (token : Token) (index : Option (Fin 1)) :
    Agree (act ⟨.file file, fileHistory, host⟩ (.define token index))
      (act ⟨.notebook notebook, notebookHistory, host⟩ (.define token index)) := by
  have searched := twin.definition? token index
  simp only [Agree, act, jumpToDefinition, Jumper.jumpToDefinition]
  cases found : file.definition? { token := token, cell := index.map Fin.val } with
  | none =>
      rw [found, Option.map_none] at searched
      simp only [FileJumper.jumpToDefinition_of_none found,
        NotebookJumper.jumpToDefinition_of_none searched]
      exact ⟨trivial, .intro twin stacksMatch⟩
  | some definition =>
      rw [found, Option.map_some] at searched
      obtain ⟨origin, target, _, isOrigin, isTarget, _, jumped⟩ :=
        NotebookJumper.jumpToDefinition_of_some searched notebookHistory
      rw [twin.usedCell] at isOrigin jumped
      obtain rfl : cell = origin := Option.some.inj (twin.isCell.symm.trans isOrigin)
      obtain rfl : cell = target := Option.some.inj (twin.isCell.symm.trans isTarget)
      simp only [FileJumper.jumpToDefinition_of_some found, jumped, twin.origin]
      refine ⟨trivial, .intro (twin.arrive rfl) ?_⟩
      change List.Forall₂ _ ((fileHistory.store file.surface _).stack file.surface)
        ((notebookHistory.store notebook.surface _).stack notebook.surface)
      rw [History.stack_store_self, History.stack_store_self]
      exact .cons ⟨rfl, rfl⟩ stacksMatch

theorem agree_back :
    Agree (act ⟨.file file, fileHistory, host⟩ .back)
      (act ⟨.notebook notebook, notebookHistory, host⟩ .back) := by
  simp only [Agree, act, Jumper.jumpBack]
  generalize isFileStack : fileHistory.stack file.surface = fileStack at stacksMatch
  generalize isNotebookStack : notebookHistory.stack notebook.surface = notebookStack at stacksMatch
  cases stacksMatch with
  | nil =>
      simp only [FileJumper.jumpBack_of_nil isFileStack,
        NotebookJumper.jumpBack_of_nil isNotebookStack]
      refine ⟨trivial, .intro twin ?_⟩
      rw [isFileStack, isNotebookStack]
      exact .nil
  | @cons left right _ _ same rest =>
      have target : notebook.targetCell? right = some 0 := by
        unfold NotebookJumper.targetCell? NotebookJumper.cellIndex?
        rw [same.names, twin.cells]
        simp
      simp only [FileJumper.jumpBack_of_cons isFileStack,
        NotebookJumper.jumpBack_of_cons isNotebookStack,
        NotebookJumper.jump_of_target target twin.isCell]
      refine ⟨rfl, .intro (twin.arrive same.samePlace) ?_⟩
      change List.Forall₂ _ ((fileHistory.recollect file.surface).2.stack file.surface)
        ((notebookHistory.recollect notebook.surface).2.stack notebook.surface)
      rw [History.stack_recollect_self, History.stack_recollect_self, isFileStack,
        isNotebookStack]
      exact rest

end

theorem agree_act {left right : Workplace} (inStep : InStep left right)
    (action : SurfaceAction) : Agree (left.act action) (right.act action) := by
  cases inStep with
  | @intro file notebook cell fileHistory notebookHistory host twin stacksMatch =>
      cases action with
      | setCursor position =>
          have known : decide (0 < notebook.cells.length) = true := by
            rw [twin.cells]
            rfl
          simp only [Agree, act, Jumper.setCursor, known]
          exact ⟨trivial, .intro (twin.setCursor position) stacksMatch⟩
      | jump place =>
          have target : notebook.targetCell? { place := place } = some 0 :=
            congrArg some twin.active
          exact agree_jump twin stacksMatch rfl target
      | define token index => exact agree_define twin stacksMatch token index
      | jumpTo position =>
          have target : notebook.targetCell?
              ((Destination.ofPosition position).inCell notebook.active) = some 0 :=
            congrArg some twin.active
          exact agree_jump twin stacksMatch rfl target
      | back => exact agree_back twin stacksMatch
      | leave target linked => exact ⟨rfl, .intro twin stacksMatch⟩

theorem InStep.reports {left right : Workplace} (inStep : InStep left right)
    (actions : List SurfaceAction) : left.reports actions = right.reports actions := by
  induction actions generalizing left right with
  | nil => rfl
  | cons action rest ih =>
      obtain ⟨sameAnswer, stillInStep⟩ := agree_act inStep action
      rw [Workplace.reports, Workplace.reports, sameAnswer, stillInStep.sight, ih stillInStep]

/-- A file and a notebook whose one cell has the same text, caret and focus, under the same
rules and in the same language, are not told apart by any run of actions that names no cell but
the first. With no history to begin with, they give the same answer to every action, and after
it they show the same caret and focus, the same depth of history and the same requests to the
host. -/
theorem single_cell_reports_like_file (registry : Definition.Registry) (language id : String)
    (filePath notebookPath : Path) (editor cell : Editor) (fileHistory notebookHistory : History)
    (host : Host) (actions : List SurfaceAction)
    (sameText : cell.text = editor.text) (sameCaret : cell.cursor = editor.cursor)
    (sameFocus : cell.focused = editor.focused)
    (fileUnvisited : fileHistory.stack (.file editor.id) = [])
    (notebookUnvisited : notebookHistory.stack (.notebook id) = []) :
    let file : FileJumper :=
      { editor := editor, path := filePath, language := language, registry := registry }
    let notebook : NotebookJumper :=
      { id := id, path := notebookPath, language := language, registry := registry,
        cells := [cell] }
    reports ⟨.notebook notebook, notebookHistory, host⟩ actions =
      reports ⟨.file file, fileHistory, host⟩ actions := by
  intro file notebook
  have alike : cell.look = editor.look :=
    Editor.look_eq_iff.mpr ⟨sameText, sameCaret, sameFocus⟩
  have twin : Twin file notebook cell := ⟨rfl, rfl, rfl, alike⟩
  have stacksMatch : List.Forall₂ (SameReturn cell.id) (fileHistory.stack file.surface)
      (notebookHistory.stack notebook.surface) := by
    change List.Forall₂ _ (fileHistory.stack (.file editor.id))
      (notebookHistory.stack (.notebook id))
    rw [fileUnvisited, notebookUnvisited]
    exact .nil
  exact ((InStep.intro twin stacksMatch).reports actions).symm

def exampleFile : Workplace where
  jumper := .file
    { editor := { id := "e", text := "x\r\nx x".toList, contentType := "t" }
      path := []
      language := "any"
      registry := ⟨[{ language := "any", rules := [{ name := "any" }] }]⟩ }
  history := .empty
  host := {}

def exampleNotebook : Workplace where
  jumper := .notebook
    { id := "n"
      path := []
      language := "any"
      registry := ⟨[{ language := "any", rules := [{ name := "any" }] }]⟩
      cells := [{ id := "c", text := "x\r\nx x".toList, contentType := "u" }] }
  history := .empty
  host := {}

theorem single_cell_reports_like_file_returning :
    exampleFile.reports [.setCursor ⟨1, 9⟩, .define ⟨['x'], 5⟩ (some 0), .back, .back] =
        [(true, ⟨some ⟨1, 3⟩, some false, 0, []⟩), (true, ⟨some ⟨1, 0⟩, some true, 1, []⟩),
          (true, ⟨some ⟨1, 3⟩, some true, 0, []⟩), (false, ⟨some ⟨1, 3⟩, some true, 0, []⟩)] ∧
      exampleNotebook.reports [.setCursor ⟨1, 9⟩, .define ⟨['x'], 5⟩ (some 0), .back, .back] =
        exampleFile.reports [.setCursor ⟨1, 9⟩, .define ⟨['x'], 5⟩ (some 0), .back, .back] := by
  refine ⟨by decide, ?_⟩
  exact single_cell_reports_like_file _ "any" "n" [] [] _ _ .empty .empty {} _ rfl rfl rfl rfl rfl

end Workplace

end SymbolJump
