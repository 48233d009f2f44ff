/-
Loading settings from files.

Files are laid over one another in order. One that is missing is passed over,
and the first that cannot be used ends the loading.
-/

import SymbolJump.Settings.Basic
import SymbolJump.Settings.Location
import SymbolJump.Toml.Merge
import SymbolJump.Toml.Reader

namespace SymbolJump.Settings

/-- The depth to which settings files are merged. -/
def mergeDepth : Nat := 3

/-- Lays what is found at a path over a document. -/
def layer (document : Toml.Value) (path : Path) (found : Found) :
    Except LoadError Toml.Value :=
  match found with
  | .absent => .ok document
  | found =>
      match found.text? with
      | none => .error (.unreadable path)
      | some text =>
          match Toml.parse? text with
          | none => .error (.malformed path)
          | some upper => .ok (Toml.merge mergeDepth document upper)

section

variable {m : Type → Type} [Monad m]

/-- Lays files over a document. -/
def loadOver (disk : Disk m) (document : Toml.Value) :
    List Path → m (Except LoadError Toml.Value)
  | [] => return .ok document
  | path :: rest => do
      match layer document path (← disk.look path) with
      | .ok document => loadOver disk document rest
      | .error error => return .error error

/-- The document of several files. -/
def load (disk : Disk m) (paths : List Path) : m (Except LoadError Toml.Value) :=
  loadOver disk (.table []) paths

/-- Reloads the settings that count in a directory. -/
def reloadIn (disk : Disk m) (environment : Environment) (directory : Path)
    (current : Settings) (trigger : Trigger) : m Reloaded := do
  return reload current trigger (← load disk (← files disk environment directory))

end

end SymbolJump.Settings
