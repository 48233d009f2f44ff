/-
Running the command.

The arguments are read, the log is set up, the settings are loaded, and then
the file is searched. The first step that fails ends the run with its error.
-/

import SymbolJump.CommandLine.Request
import SymbolJump.Navigator.Basic
import SymbolJump.Settings.Load

namespace SymbolJump.CommandLine

/-- Why a run fails. -/
inductive RunError where
  | zeroBased
  | noLog
  | unopened (file : Path)
  | unreadable (file : Path)
  deriving DecidableEq, Repr

def RunError.message : RunError → String
  | zeroBased => "line and column are 1-based"
  | noLog => "could not initialize logging"
  | unopened file => "could not open " ++ String.ofList file
  | unreadable file => "could not read " ++ String.ofList file

/-- A line of the log. -/
inductive LogLine where
  | nothingFound
  | settingsKept (warning : Settings.Warning)
  deriving DecidableEq, Repr

namespace LogLine

def text : LogLine → String
  | nothingFound => "INFO [the_goto] no definition found"
  | settingsKept warning => "WARN [the_goto::settings] " ++ warning.message

/-- The verbosity from which on the line is written. -/
def threshold : LogLine → Nat
  | nothingFound => 1
  | settingsKept _ => 0

end LogLine

/-- How a run ended. -/
structure Outcome where
  code : Nat
  output : List (List Char) := []
  /-- What was wrong with the arguments. -/
  misuse : Option UsageError := none
  error : Option RunError := none
  /-- The lines of the log that no file took. -/
  log : List LogLine := []

/-- How the command is called. -/
def usage : String :=
  "Usage: the-goto [-v] [--log FILE] [--language ID] [--back] [-l N] [-c N] FILE[:LINE[:COLUMN]]"

/-- The id of the only editor. -/
def editorId : String := "cli"

/-- The navigator over one file, which opens no other. -/
def navigatorOf (request : Request) (text : List Char) : Navigator :=
  let editor : Editor :=
    { id := editorId
      text := text
      contentType := Definition.typeOfLanguage request.language }
  let host : Host :=
    { answer := fun _ wish => some (.rejected wish.path "only the searched file is open") }
  (Navigator.fileAdded { host := host } (editor.setCursor request.position) request.file).2

/-- The line that shows where the caret is. -/
def location (request : Request) (navigator : Navigator) : List (List Char) :=
  match navigator.files.get? editorId with
  | none => []
  | some entry =>
      let cursor := entry.jumper.editor.cursor
      [Target.text request.file (cursor.line + 1) (cursor.column + 1)]

/-- Searches the text of the file. -/
def search (request : Request) (text : List Char) : Outcome :=
  match (navigatorOf request text).execute .fileEditor with
  | (false, _) => { code := 1, log := [.nothingFound] }
  | (true, arrived) =>
      let there := location request arrived
      if request.back then
        match arrived.execute .fileEditorBack with
        | (false, _) => { code := 1, output := there }
        | (true, returned) => { code := 0, output := there ++ location request returned }
      else { code := 0, output := there }

/-- Searches what is found at the path of the file. -/
def searchFound (request : Request) (found : Found) : Outcome :=
  match found with
  | .absent => { code := 1, error := some (.unopened request.file) }
  | .blocked => { code := 1, error := some (.unopened request.file) }
  | found =>
      match found.text? with
      | none => { code := 1, error := some (.unreadable request.file) }
      | some text => search request text.toList

section

variable {m : Type → Type} [Monad m]

/-- Writes lines to the log file, if there is one; gives back those that remain. -/
def writeLog (disk : Disk m) (request : Request) (lines : List LogLine) :
    m (List LogLine) := do
  let shown := lines.filter fun line => line.threshold ≤ request.verbosity
  match request.logFile with
  | none => return shown
  | some path =>
      let text := String.join (shown.map fun line => line.text ++ "\n")
      let _ ← disk.append path text
      return []

/-- Sets up the log; false if its file cannot be written. -/
def openLog (disk : Disk m) (request : Request) : m Bool :=
  match request.logFile with
  | none => return true
  | some path => disk.append path ""

/-- Carries out a request. -/
def carryOut (disk : Disk m) (environment : Settings.Environment) (directory : Path)
    (request : Request) : m Outcome := do
  if ← openLog disk request then
    let reloaded ← Settings.reloadIn disk environment directory {} .alt
    let before ← writeLog disk request (reloaded.warning.toList.map .settingsKept)
    let outcome := searchFound request (← disk.look request.file)
    let after ← writeLog disk request outcome.log
    return { outcome with log := before ++ after }
  else return { code := 1, error := some .noLog }

/-- Runs the command in a directory. -/
def run (disk : Disk m) (environment : Settings.Environment) (directory : Path)
    (arguments : List String) : m Outcome := do
  match Options.read arguments with
  | .error .help => return { code := 0, output := [usage.toList] }
  | .error (.misuse error) => return { code := 2, misuse := some error }
  | .ok options =>
      let isThere ← disk.contains options.target.toList
      match Request.ofOptions? options isThere with
      | none => return { code := 1, error := some .zeroBased }
      | some request => carryOut disk environment directory request

end

end SymbolJump.CommandLine
