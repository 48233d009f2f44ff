/-
A tree of files in memory, seen from its root.

Paths are relative to the root and are followed step by step, so that a step up
needs the directory it starts from. Nothing is known about what lies outside.
-/

import SymbolJump.Disk
import SymbolJump.Keyed

namespace SymbolJump

/-- The names that lead to a place in a tree. -/
abbrev FileTree.Names := List (List Char)

/-- The files of a tree and the directories that were made on their own. All directories
on the way to these are there too. -/
structure FileTree where
  nodes : Keyed FileTree.Names Found

namespace FileTree

def empty : FileTree := ⟨.empty⟩

/-- What lies at a place. -/
def lookAt (tree : FileTree) (names : FileTree.Names) : Found :=
  if names.isEmpty then .directory
  else
    match tree.nodes.get? names with
    | some found => found
    | none => if tree.nodes.keys.any names.isPrefixOf then .directory else .absent

/-- Follows the parts of a path from a place. -/
def follow (tree : FileTree) : FileTree.Names → List (List Char) → Found
  | place, [] => tree.lookAt place
  | place, part :: rest =>
      match tree.lookAt place with
      | .directory =>
          if Path.isIdle part then tree.follow place rest
          else if part = ['.', '.'] then
            if place.isEmpty then .absent else tree.follow place.dropLast rest
          else tree.follow (place ++ [part]) rest
      | .absent => .absent
      | _ => .blocked

/-- What a path leads to. -/
def look (tree : FileTree) (path : Path) : Found :=
  if path.contains '\x00' then .blocked
  else if path.isEmpty || Path.isAbsolute path then .absent
  else tree.follow [] (Path.parts path)

/-- The place of a path whose directories are all there. -/
def place (path : Path) : FileTree.Names :=
  (Path.parts path).foldl Path.settle.step []

def insert (tree : FileTree) (path : Path) (found : Found) : FileTree :=
  ⟨tree.nodes.insert (place path) found⟩

/-- Whether a new file can be made at a path. -/
def isFree (tree : FileTree) (path : Path) : Bool :=
  let parts := Path.parts path
  match tree.look path, tree.follow [] parts.dropLast, parts.getLast? with
  | .absent, .directory, some name => !Path.isIdle name && name != ['.', '.']
  | _, _, _ => false

/-- Adds bytes to the end of a file, which is made if need be. -/
def append? (tree : FileTree) (path : Path) (bytes : ByteArray) : Option FileTree :=
  match tree.look path with
  | .file before => some (tree.insert path (.file (before ++ bytes)))
  | _ => if tree.isFree path then some (tree.insert path (.file bytes)) else none

/-- A tree of files as a disk. -/
def disk : Disk (StateM FileTree) where
  look path := return (← get).look path
  append path text := do
    match (← get).append? path text.toUTF8 with
    | some changed =>
        set changed
        return true
    | none => return false

theorem disk_shows : disk.Shows look where
  run_look _ _ := rfl

end FileTree

end SymbolJump
