/-
What the command is asked to do: a file, a caret, a language.

A target may carry a line and a column behind colons, unless the whole target
is the name of something that is there. Options count before such a suffix.
Lines and columns are counted from one on the outside and from zero inside.
-/

import SymbolJump.CommandLine.Arguments
import SymbolJump.Text.Position

namespace SymbolJump.CommandLine

/-- A target: a path, perhaps with a line, perhaps with a column too. -/
structure Target where
  path : Path
  line : Option Nat := none
  column : Option Nat := none
  deriving DecidableEq, Repr

/-- Splits at the last colon. -/
def splitColon? (text : List Char) : Option (List Char × List Char) :=
  let last := (text.reverse.takeWhile (· != ':')).reverse
  if last.length < text.length then
    some (text.take (text.length - last.length - 1), last)
  else none

namespace Target

/-- Reads a target that is not itself the name of something. -/
def ofText (text : List Char) : Target :=
  match splitColon? text with
  | none => { path := text }
  | some (front, last) =>
      match Text.numeral64? last with
      | none => { path := text }
      | some number =>
          match splitColon? front with
          | none => { path := front, line := some number }
          | some (path, middle) =>
              match Text.numeral64? middle with
              | some line => { path := path, line := some line, column := some number }
              | none => { path := front, line := some number }

/-- Reads a target; the truth value says whether it is the name of something. -/
def read (isThere : Bool) (text : List Char) : Target :=
  if isThere then { path := text } else ofText text

/-- The text of a path with a line and a column. -/
def text (path : Path) (line column : Nat) : List Char :=
  path ++ ':' :: Text.numeral line ++ ':' :: Text.numeral column

end Target

/-- The language of a file by its extension. -/
def languageOfPath (path : Path) : String :=
  match path.extension?.map String.ofList with
  | some "py" => "python"
  | some "pyi" => "python"
  | some "ipy" => "python"
  | some "r" => "R"
  | some "R" => "R"
  | some extension => String.ofList (extension.toList.map Char.toLower)
  | none => "generic"

structure Request where
  file : Path
  position : Text.Position
  language : String
  back : Bool
  verbosity : Nat
  logFile : Option Path
  deriving DecidableEq, Repr

/-- The request of some options; absent if a line or a column is zero. -/
def Request.ofOptions? (options : Options) (isThere : Bool) : Option Request :=
  let target := Target.read isThere options.target.toList
  let line := (options.line.or target.line).getD 1
  let column := (options.column.or target.column).getD 1
  if line = 0 ∨ column = 0 then none
  else
    some {
      file := target.path
      position := ⟨line - 1, column - 1⟩
      language := options.language.getD (languageOfPath target.path)
      back := options.back
      verbosity := options.verbosity
      logFile := options.logFile }

end SymbolJump.CommandLine
