/-
Where settings are kept: one file for the user, and one for the workspace.

The workspace is the nearest directory upwards that holds a marker of version
control or a directory of workspace settings.
-/

import SymbolJump.Disk

namespace SymbolJump.Settings

/-- What the environment says about directories. -/
structure Environment where
  /-- The configuration directory that was asked for. -/
  configOverride : Option Path := none
  home : Path
  /-- The base of configuration directories. -/
  configHome : Option Path := none

def fileName : Path := "settings.toml".toList

/-- The directory of workspace settings. -/
def workspaceFolder : Path := ".the-goto".toList

/-- A path with the home directory put in for a tilde in front. -/
def expandHome (home path : Path) : Path :=
  match path.below? ['~'] with
  | some rest => home.join rest
  | none => path

/-- The configuration directory of the user. A relative base does not count. -/
def Environment.configDirectory (environment : Environment) : Path :=
  match environment.configOverride with
  | some path => expandHome environment.home path
  | none =>
      let base :=
        match environment.configHome.filter Path.isAbsolute with
        | some base => base
        | none => environment.home.join ".config".toList
      base.join "the-goto".toList

/-- The settings file of the user. -/
def Environment.file (environment : Environment) : Path :=
  environment.configDirectory.join fileName

/-- The settings file of a workspace. -/
def workspaceFile (workspace : Path) : Path :=
  (workspace.join workspaceFolder).join fileName

/-- What marks a workspace. -/
def markers : List Path :=
  [".git".toList, ".svn".toList, ".jj".toList, workspaceFolder]

section

variable {m : Type → Type} [Monad m]

/-- Whether a directory holds a marker. -/
def isMarked (disk : Disk m) (directory : Path) : m Bool :=
  markers.anyM fun marker => disk.contains (directory.join marker)

/-- The first marked one of several directories. -/
def firstMarked? (disk : Disk m) : List Path → m (Option Path)
  | [] => return none
  | directory :: rest => do
      if ← isMarked disk directory then return some directory
      else firstMarked? disk rest

/-- The workspace of a directory. Without a marker it is the directory itself, and the
truth value says so. -/
def findWorkspace (disk : Disk m) (directory : Path) : m (Path × Bool) := do
  match ← firstMarked? disk directory.ancestors with
  | some workspace => return (workspace, false)
  | none => return (directory, true)

/-- The settings files that count in a directory, the weaker one first. -/
def files (disk : Disk m) (environment : Environment) (directory : Path) : m (List Path) := do
  let (workspace, _) ← findWorkspace disk directory
  return [environment.file, workspaceFile workspace]

end

end SymbolJump.Settings
