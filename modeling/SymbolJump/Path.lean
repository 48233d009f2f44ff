/-
Paths of files, written with slashes.

A path is kept as it was written; its components leave out empty parts and dots
that change nothing. A parent is a beginning of the written path, so it shows
the same spelling.
-/

namespace SymbolJump

/-- A written path. -/
abbrev Path := List Char

namespace Path

/-- The parts between slashes, empty ones included. -/
def parts : Path → List (List Char)
  | [] => [[]]
  | '/' :: rest => [] :: parts rest
  | c :: rest =>
      match parts rest with
      | [] => [[c]]
      | part :: others => (c :: part) :: others

def ofParts (parts : List (List Char)) : Path :=
  List.intercalate ['/'] parts

def isAbsolute (path : Path) : Bool :=
  path.head? == some '/'

/-- Whether a part that is not the first leaves the place unchanged. -/
def isIdle (part : List Char) : Bool :=
  part.isEmpty || part == ['.']

/-- The components of a path. An absolute path has the root as first component, and a dot
counts only at the beginning of a relative path. -/
def components (path : Path) : List (List Char) :=
  match parts path with
  | [] => []
  | first :: rest =>
      let inner := rest.filter (!isIdle ·)
      if isAbsolute path then ['/'] :: inner
      else if first.isEmpty then inner
      else first :: inner

/-- Drops the idle parts at the end, keeping the first part. -/
def trimEnd (parts : List (List Char)) : List (List Char) :=
  match parts with
  | [] => []
  | first :: rest => first :: (rest.reverse.dropWhile isIdle).reverse

/-- The directory a path lies in: the written path without its last component. -/
def parent? (path : Path) : Option Path :=
  let written := trimEnd (parts path)
  match written.length with
  | 0 => none
  | 1 => if path.isEmpty || isAbsolute path then none else some []
  | _ =>
      let shorter := trimEnd written.dropLast
      if shorter = [[]] then some ['/'] else some (ofParts shorter)

/-- The path followed by its parents, a given number of them at most. -/
def ancestorsWithin : Nat → Path → List Path
  | 0, path => [path]
  | fuel + 1, path =>
      match parent? path with
      | none => [path]
      | some parent => path :: ancestorsWithin fuel parent

/-- The path, its parent, the parent of that, and so on. Every step drops a part, so the
length of the path bounds the steps. -/
def ancestors (path : Path) : List Path :=
  ancestorsWithin path.length path

/-- A path continued by another; an absolute continuation replaces it. -/
def join (base path : Path) : Path :=
  if isAbsolute path || base.isEmpty then path
  else if base.getLast? = some '/' then base ++ path
  else base ++ '/' :: path

/-- The name a path ends in, unless that is a dot, two dots or the root. -/
def fileName? (path : Path) : Option (List Char) :=
  match (components path).getLast? with
  | none => none
  | some name => if name = ['/'] ∨ name = ['.'] ∨ name = ['.', '.'] then none else some name

/-- What follows the last dot of the file name, where a dot in first place does not
count. -/
def extension? (path : Path) : Option (List Char) := do
  let name ← fileName? path
  let tail := (name.reverse.takeWhile (· != '.')).reverse
  if tail.length + 1 < name.length then return tail else none

/-- What follows a first component of the given name. -/
def below? (name : List Char) (path : Path) : Option Path :=
  match parts path with
  | [] => none
  | first :: rest =>
      if first = name ∧ ¬name.isEmpty then
        some (ofParts ((rest.dropWhile isIdle).reverse.dropWhile isIdle).reverse)
      else none

/-- Carries out the dots of a relative path. -/
def settle (path : Path) : Path :=
  ofParts ((parts path).foldl step [])
where
  step (done : List (List Char)) (part : List Char) : List (List Char) :=
    if isIdle part then done
    else if part = ['.', '.'] then done.dropLast
    else done ++ [part]

end Path

end SymbolJump
