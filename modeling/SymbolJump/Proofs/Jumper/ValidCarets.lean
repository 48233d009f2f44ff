/-
Carets stay valid, whatever moves them.

A jump may be asked for any destination: an offset of a token that the text no
longer has, a position stored before the text was changed, the answer of a
server to an older text. Each of these ends with an editor setting its own
caret, and an editor sets it to rest. So no run of actions, on a file or on a
notebook, and no history left behind by others brings a caret outside of its
text or between the characters of one line break.
-/

import SymbolJump.Proofs.Jumper.AllOrNothing
import SymbolJump.Proofs.Jumper.FileReturn
import SymbolJump.Proofs.Jumper.NotebookReturn
import SymbolJump.Server.Bridge

namespace SymbolJump

open Server Text

structure ValidCaret (text : List Char) (caret : Position) : Prop where
  stays : clamp text caret = caret
  onLine : caret.line < lineCount text
  unsplit : ¬SplitsBreak text (offsetAt text caret)
  readBack : positionAt text (offsetAt text caret) = caret

theorem ValidCaret.of_rests {text : List Char} {caret : Position} (rests : Rests text caret) :
    ValidCaret text caret where
  stays := clamp_of_rests rests
  onLine := by
    obtain ⟨line, isLine, _⟩ := rests
    exact lt_lineCount isLine
  unsplit := not_splitsBreak_of_rests rests
  readBack := clamp_of_rests rests

/-! ### What editors and jumpers are asked to do -/

inductive EditorAction where
  | setCursor (position : Position)
  | setText (text : List Char)
  | setContentType (contentType : String)
  | focus
  | blur

def Editor.act (editor : Editor) : EditorAction → Editor
  | .setCursor position => editor.setCursor position
  | .setText text => editor.setText text
  | .setContentType contentType => editor.setContentType contentType
  | .focus => editor.focus
  | .blur => editor.blur

inductive WorkplaceAction where
  /-- An action on the editor of a cell; a file has only the one editor. -/
  | edit (cell : Nat) (action : EditorAction)
  | jump (destination : Destination)
  | define (usage : Usage)
  | back
  | goTo (documentUri : String) (locations : List Location)
  /-- Others who share the history leave it in another state. -/
  | shareHistory (history : History)
  | insertCell (index : Nat) (cell : { cell : Editor // cell.Reachable })
  | pushCell (cell : { cell : Editor // cell.Reachable })
  | removeCell (index : Nat)
  | setActive (index : Nat)

namespace Jumper

def edit (jumper : Jumper) (cell : Nat) (action : EditorAction) : Jumper :=
  match jumper with
  | file jumper => file { jumper with editor := jumper.editor.act action }
  | notebook jumper => notebook (jumper.modifyCell cell (·.act action))

/-- Changes a notebook; a file has no cells to change. -/
def onNotebook (jumper : Jumper) (change : NotebookJumper → NotebookJumper) : Jumper :=
  match jumper with
  | file jumper => file jumper
  | notebook jumper => notebook (change jumper)

end Jumper

namespace Workplace

def perform (place : Workplace) : WorkplaceAction → Workplace
  | .edit cell action => { place with jumper := place.jumper.edit cell action }
  | .jump destination => { place with jumper := (place.jumper.jump destination).2 }
  | .define usage => (place.jumpToDefinition usage).2
  | .back =>
      let (_, jumper, history) := place.jumper.jumpBack place.history
      { place with jumper := jumper, history := history }
  | .goTo documentUri locations =>
      let (_, jumper, host) := handleLocations documentUri place.jumper place.host locations
      { place with jumper := jumper, host := host }
  | .shareHistory history => { place with history := history }
  | .insertCell index cell =>
      { place with jumper := place.jumper.onNotebook fun jumper => (jumper.insertCell index cell).2 }
  | .pushCell cell => { place with jumper := place.jumper.onNotebook (·.pushCell cell) }
  | .removeCell index =>
      { place with
        jumper := place.jumper.onNotebook fun jumper =>
          ((jumper.removeCell index).map Prod.snd).getD jumper }
  | .setActive index =>
      { place with
        jumper := place.jumper.onNotebook fun jumper => (jumper.setActive index).getD jumper }

def run (place : Workplace) (actions : List WorkplaceAction) : Workplace :=
  actions.foldl perform place

end Workplace

/-! ### One action -/

def AllRest (editors : List Editor) : Prop :=
  ∀ editor ∈ editors, Rests editor.text editor.cursor

theorem Editor.rests_act {editor : Editor} (rests : Rests editor.text editor.cursor)
    (action : EditorAction) : Rests (editor.act action).text (editor.act action).cursor := by
  cases action with
  | setCursor position => exact rests_clamp _ _
  | setText text => exact rests_clamp _ _
  | setContentType contentType => exact rests
  | focus => exact rests
  | blur => exact rests

theorem AllRest.single {editor : Editor} (rests : Rests editor.text editor.cursor) :
    AllRest [editor] :=
  List.forall_mem_singleton.mpr rests

theorem AllRest.append {editors others : List Editor} (rest : AllRest editors)
    (othersRest : AllRest others) : AllRest (editors ++ others) :=
  List.forall_mem_append.mpr ⟨rest, othersRest⟩

namespace Jumper

theorem allRest_edit {jumper : Jumper} (rest : AllRest jumper.editors) (cell : Nat)
    (action : EditorAction) : AllRest (jumper.edit cell action).editors := by
  cases jumper with
  | file jumper =>
      exact .single (Editor.rests_act (rest _ (List.mem_singleton_self _)) action)
  | notebook jumper =>
      change AllRest (jumper.cells.modify cell _)
      rw [List.modify_eq_set_getElem?]
      cases isCell : jumper.cells[cell]? with
      | none => exact rest
      | some editor =>
          intro other member
          rcases List.mem_or_eq_of_mem_set member with before | rfl
          · exact rest other before
          · exact Editor.rests_act (rest editor (List.mem_of_getElem? isCell)) action

theorem allRest_jump {jumper : Jumper} (rest : AllRest jumper.editors)
    (destination : Destination) : AllRest (jumper.jump destination).2.editors := by
  cases jumper with
  | file jumper => exact .single (rests_clamp _ _)
  | notebook jumper =>
      have arrived := (jumper.descends_jump destination).rests rest
      simp only [jump]
      cases jumped : jumper.jump destination with
      | none => exact rest
      | some after =>
          rw [jumped] at arrived
          exact arrived

theorem allRest_jumpToDefinition {jumper : Jumper} (rest : AllRest jumper.editors)
    (history : History) (usage : Usage) :
    AllRest (jumper.jumpToDefinition history usage).2.1.editors := by
  cases jumper with
  | file jumper =>
      let session : FileSession := ⟨jumper, history⟩
      have rests : Rests session.text session.caret := rest _ (List.mem_singleton_self _)
      exact .single (FileSession.rests_act rests (.define usage))
  | notebook jumper =>
      have descends := NotebookSession.descends_act ⟨jumper, history⟩ (.define usage)
      exact descends.rests (rest.append (List.forall_mem_nil _))

theorem allRest_jumpBack {jumper : Jumper} (rest : AllRest jumper.editors) (history : History) :
    AllRest (jumper.jumpBack history).2.1.editors := by
  cases jumper with
  | file jumper =>
      cases stacked : history.stack jumper.surface with
      | nil =>
          simp only [jumpBack, FileJumper.jumpBack_of_nil stacked]
          exact rest
      | cons latest earlier =>
          simp only [jumpBack, FileJumper.jumpBack_of_cons stacked]
          exact .single (rests_clamp _ _)
  | notebook jumper =>
      exact (NotebookSession.descends_back ⟨jumper, history⟩).rests rest

theorem allRest_onNotebook {jumper : Jumper} (rest : AllRest jumper.editors)
    {change : NotebookJumper → NotebookJumper}
    (keeps : ∀ notebook : NotebookJumper, AllRest notebook.cells → AllRest (change notebook).cells) :
    AllRest (jumper.onNotebook change).editors := by
  cases jumper with
  | file jumper => exact rest
  | notebook jumper => exact keeps jumper rest

end Jumper

theorem Server.allRest_handleLocations {jumper : Jumper} (rest : AllRest jumper.editors)
    (documentUri : String) (host : Host) (locations : List Location) :
    AllRest (handleLocations documentUri jumper host locations).2.1.editors := by
  unfold handleLocations follow
  dsimp only
  split
  · exact rest
  · exact jumper.allRest_jump rest _
  · exact rest

namespace Workplace

theorem allRest_perform {place : Workplace} (rest : AllRest place.jumper.editors)
    (action : WorkplaceAction) : AllRest (place.perform action).jumper.editors := by
  cases action with
  | edit cell action => exact Jumper.allRest_edit rest cell action
  | jump destination => exact Jumper.allRest_jump rest destination
  | define usage => exact Jumper.allRest_jumpToDefinition rest place.history usage
  | back => exact Jumper.allRest_jumpBack rest place.history
  | goTo documentUri locations =>
      exact Server.allRest_handleLocations rest documentUri place.host locations
  | shareHistory history => exact rest
  | insertCell index cell =>
      refine Jumper.allRest_onNotebook rest fun notebook cellsRest => ?_
      exact (notebook.descends_insertCell index cell).rests
        (cellsRest.append (.single cell.property.rests))
  | pushCell cell =>
      exact Jumper.allRest_onNotebook rest fun _ cellsRest =>
        cellsRest.append (.single cell.property.rests)
  | removeCell index =>
      exact Jumper.allRest_onNotebook rest fun notebook cellsRest =>
        (notebook.descends_removeCell index).rests cellsRest
  | setActive index =>
      exact Jumper.allRest_onNotebook rest fun notebook cellsRest =>
        (notebook.descends_setActive index).rests cellsRest

theorem allRest_run {place : Workplace} (rest : AllRest place.jumper.editors)
    (actions : List WorkplaceAction) : AllRest (place.run actions).jumper.editors := by
  induction actions generalizing place with
  | nil => exact rest
  | cons action actions ih => exact ih (allRest_perform rest action)

/-- The caret of an editor that changes by its own operations alone is valid. So is, after any
run of actions, the caret of every editor of a file or a notebook that was put together from
such editors, whatever history it shares with others. -/
theorem carets_stay_valid :
    (∀ editor : Editor, editor.Reachable → ValidCaret editor.text editor.cursor) ∧
      ∀ (place : Workplace) (actions : List WorkplaceAction),
        (∀ editor ∈ place.jumper.editors, editor.Reachable) →
        ∀ editor ∈ (place.run actions).jumper.editors, ValidCaret editor.text editor.cursor := by
  constructor
  · intro editor inUse
    exact .of_rests inUse.rests
  · intro place actions inUse editor member
    have rest : AllRest place.jumper.editors := fun editor member => (inUse editor member).rests
    exact .of_rests (allRest_run rest actions editor member)

/-- A file whose history leads back between the characters of a break in its later text. -/
def staleReturn : Workplace where
  jumper := .file
    { editor := { id := "e", text := "abc".toList, contentType := "t" }
      path := []
      language := "any"
      registry := ⟨[]⟩ }
  history := History.empty.store (.file "e") (.ofToken ⟨['c'], 2⟩)
  host := {}

theorem carets_stay_valid_after_stale_return :
    SplitsBreak "a\r\nb".toList 2 ∧
      (staleReturn.run [.edit 0 (.setText "a\r\nb".toList), .back]).jumper.editors.map (·.cursor) =
        [⟨0, 1⟩] ∧
      ∀ editor ∈ (staleReturn.run [.edit 0 (.setText "a\r\nb".toList), .back]).jumper.editors,
        ValidCaret editor.text editor.cursor := by
  refine ⟨⟨['a'], ['b'], by decide, rfl⟩, by decide, carets_stay_valid.2 staleReturn _ ?_⟩
  intro editor member
  rw [List.mem_singleton.mp member]
  exact .opened "e" "abc".toList "t" {}

end Workplace

end SymbolJump
