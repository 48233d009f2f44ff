/-
The command that prints where the symbol at a caret is defined.
-/

import SymbolJump.CommandLine.Run

namespace SymbolJump.CommandLine

/-- What an open file holds; a directory can be opened, but holds no bytes. -/
def contents (handle : IO.FS.Handle) : IO Found := do
  try
    return .file (← handle.readBinToEnd)
  catch _ => return .directory

/-- What a path of the machine leads to. -/
def lookUp (path : Path) : IO Found := do
  try
    contents (← IO.FS.Handle.mk (String.ofList path) .read)
  catch error =>
    match error with
    | .noFileOrDirectory .. => return .absent
    | _ => return .blocked

/-- Adds text to the end of a file of the machine. -/
def appendText (path : Path) (text : String) : IO Bool := do
  try
    let handle ← IO.FS.Handle.mk (String.ofList path) .append
    handle.putStr text
    handle.flush
    return true
  catch _ => return false

/-- The disk of the machine. -/
def machineDisk : Disk IO where
  look := lookUp
  append := appendText

/-- The directories that the machine's environment names. -/
def machineEnvironment : IO Settings.Environment := do
  return {
    configOverride := (← IO.getEnv "THE_GOTO_CONFIG_DIR").map String.toList
    home := ((← IO.getEnv "HOME").getD "").toList
    configHome := (← IO.getEnv "XDG_CONFIG_HOME").map String.toList }

end SymbolJump.CommandLine

open SymbolJump.CommandLine in
def main (arguments : List String) : IO UInt32 := do
  let directory := (← IO.currentDir).toString.toList
  let outcome ← run machineDisk (← machineEnvironment) directory arguments
  for line in outcome.output do
    IO.println (String.ofList line)
  for line in outcome.log do
    IO.eprintln line.text
  for error in outcome.misuse.toList do
    IO.eprintln ("error: " ++ error.message)
  for error in outcome.error.toList do
    IO.eprintln ("Error: " ++ error.message)
  return outcome.code.toUInt32
