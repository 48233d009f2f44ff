/-
Jumping within one file.
-/

import SymbolJump.Definition.Language
import SymbolJump.Definition.Search
import SymbolJump.Editor
import SymbolJump.Jump.History
import SymbolJump.Path

namespace SymbolJump

/-- A file under navigation: its editor, its path, and the rules for its language. -/
structure FileJumper where
  editor : Editor
  path : Path
  language : String
  registry : Definition.Registry

namespace FileJumper

/-- Takes up an editor; its content type tells the language. -/
def ofEditor (registry : Definition.Registry) (editor : Editor) (path : Path) : FileJumper :=
  { editor := editor
    path := path
    language := Definition.languageOfType editor.contentType
    registry := registry }

def surface (jumper : FileJumper) : Surface :=
  .file jumper.editor.id

def rules (jumper : FileJumper) : Definition.RuleSet :=
  jumper.registry.rulesFor jumper.language

/-- The directory of the file. -/
def directory (jumper : FileJumper) : Path :=
  jumper.path.parent?.getD []

/-- Follows a change of the document's content type. -/
def changeType (jumper : FileJumper) (contentType : String) : FileJumper :=
  { jumper with language := Definition.languageOfType contentType }

/-- Puts the caret at a destination. -/
def jump (jumper : FileJumper) (destination : Destination) : FileJumper :=
  { jumper with
    editor := (jumper.editor.setCursor (destination.caret jumper.editor.text)).focus }

/-- Goes to the last definition before a token and stores the caret to return to. -/
def jumpToDefinition (jumper : FileJumper) (history : History) (usage : Usage) :
    Bool × FileJumper × History :=
  let found :=
    Definition.lastDefinition? jumper.rules jumper.editor.text usage.token usage.token.offset
  match found with
  | none => (false, jumper, history)
  | some token =>
      let origin := Destination.ofPosition jumper.editor.cursor
      (true, jumper.jump (.ofToken token), history.store jumper.surface origin)

/-- Returns to where the latest jump came from. -/
def jumpBack (jumper : FileJumper) (history : History) : Bool × FileJumper × History :=
  match history.recollect jumper.surface with
  | (none, history) => (false, jumper, history)
  | (some destination, history) => (true, jumper.jump destination, history)

end FileJumper

end SymbolJump
