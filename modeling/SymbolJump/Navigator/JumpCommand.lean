/-
The commands the host offers its user, with their labels and keys.
-/

namespace SymbolJump

inductive JumpCommand where
  | notebook
  | notebookBack
  | fileEditor
  | fileEditorBack
  deriving DecidableEq, Repr

namespace JumpCommand

def all : List JumpCommand := [notebook, notebookBack, fileEditor, fileEditorBack]

def id : JumpCommand → String
  | notebook => "go-to-definition:notebook"
  | notebookBack => "go-to-definition:notebook-back"
  | fileEditor => "go-to-definition:file-editor"
  | fileEditorBack => "go-to-definition:file-editor-back"

def ofId? (id : String) : Option JumpCommand :=
  all.find? (·.id == id)

/-- Whether the command returns from a jump. -/
def isBack : JumpCommand → Bool
  | notebook => false
  | notebookBack => true
  | fileEditor => false
  | fileEditorBack => true

/-- Whether the command acts on notebooks. -/
def onNotebook : JumpCommand → Bool
  | notebook => true
  | notebookBack => true
  | fileEditor => false
  | fileEditorBack => false

def label (command : JumpCommand) : String :=
  if command.isBack then "Jump back" else "Jump to definition"

def category (command : JumpCommand) : String :=
  if command.onNotebook then "Notebook Cell Operations" else "Text Editor"

/-- The part of the host's window where the key is bound, and the key. -/
def binding : JumpCommand → String × String
  | notebook => (".jp-Notebook.jp-mod-editMode", "Ctrl Alt B")
  | notebookBack => (".jp-Notebook", "Alt O")
  | fileEditor => (".jp-FileEditor", "Ctrl Alt B")
  | fileEditorBack => (".jp-FileEditor", "Alt O")

end JumpCommand

end SymbolJump
