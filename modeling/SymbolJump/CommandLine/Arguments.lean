/-
The arguments of the command.

An option has a long name behind two dashes, some also a letter behind one.
Letters may be joined, and a value may follow a letter right away or behind an
equals sign. No value begins with a dash, except for a dash alone. Behind two
dashes everything is positional. Every option but the one for verbosity may
occur once.
-/

import SymbolJump.Path
import SymbolJump.Text.Numeral

namespace SymbolJump.CommandLine

/-- The options that take a value. -/
inductive Parameter where
  | line
  | column
  | language
  | log
  deriving DecidableEq, Repr

namespace Parameter

def all : List Parameter := [line, column, language, log]

def name : Parameter → String
  | line => "line"
  | column => "column"
  | language => "language"
  | log => "log"

def letter? : Parameter → Option Char
  | line => some 'l'
  | column => some 'c'
  | language => none
  | log => none

def ofName? (name : String) : Option Parameter :=
  all.find? (·.name == name)

def ofLetter? (letter : Char) : Option Parameter :=
  all.find? (·.letter? == some letter)

end Parameter

/-- The arguments in order. -/
structure Options where
  target : String
  line : Option Nat := none
  column : Option Nat := none
  language : Option String := none
  back : Bool := false
  verbosity : Nat := 0
  logFile : Option Path := none
  deriving DecidableEq, Repr

/-- Why arguments are refused. -/
inductive UsageError where
  | unknown (option : String)
  | repeated (option : String)
  | missingValue (option : String)
  | unexpectedValue (option : String)
  | badValue (option value : String)
  | missingTarget
  | extraTarget (argument : String)
  deriving DecidableEq, Repr

def UsageError.message : UsageError → String
  | unknown option => "unexpected argument " ++ option
  | repeated option => "the argument " ++ option ++ " cannot be used multiple times"
  | missingValue option => "a value is required for " ++ option
  | unexpectedValue option => "no value is allowed for " ++ option
  | badValue option value => "invalid value " ++ value ++ " for " ++ option
  | missingTarget => "a file is required"
  | extraTarget argument => "unexpected argument " ++ argument

/-- What ends the reading of arguments early. -/
inductive Stop where
  | help
  | misuse (error : UsageError)
  deriving DecidableEq, Repr

/-- The options read so far; the target may still be missing. -/
structure Draft where
  target : Option String := none
  line : Option Nat := none
  column : Option Nat := none
  language : Option String := none
  back : Bool := false
  verbosity : Nat := 0
  logFile : Option Path := none

namespace Draft

/-- Notes something that may be given once. -/
def once {α : Type} (option : String) (before : Option α) (value : α) :
    Except Stop (Option α) :=
  if before.isSome then .error (.misuse (.repeated option)) else .ok (some value)

def number (option value : String) : Except Stop Nat :=
  match Text.numeral64? value.toList with
  | some number => .ok number
  | none => .error (.misuse (.badValue option value))

/-- Gives an option its value. -/
def setParameter (draft : Draft) (parameter : Parameter) (value : String) :
    Except Stop Draft := do
  let option := parameter.name
  match parameter with
  | .line => return { draft with line := ← once option draft.line (← number option value) }
  | .column => return { draft with column := ← once option draft.column (← number option value) }
  | .language => return { draft with language := ← once option draft.language value }
  | .log =>
      if value.isEmpty then .error (.misuse (.badValue option value))
      else return { draft with logFile := ← once option draft.logFile value.toList }

def setTarget (draft : Draft) (argument : String) : Except Stop Draft :=
  if draft.target.isSome then .error (.misuse (.extraTarget argument))
  else .ok { draft with target := some argument }

def setBack (draft : Draft) : Except Stop Draft :=
  if draft.back then .error (.misuse (.repeated "back")) else .ok { draft with back := true }

/-- Reads joined letters. An option whose value does not follow right away is given
back. -/
def readLetters (draft : Draft) : List Char → Except Stop (Draft × Option Parameter)
  | [] => .ok (draft, none)
  | 'v' :: rest => { draft with verbosity := draft.verbosity + 1 }.readLetters rest
  | 'h' :: _ => .error .help
  | letter :: rest =>
      match Parameter.ofLetter? letter, rest with
      | none, _ => .error (.misuse (.unknown (String.singleton letter)))
      | some parameter, [] => .ok (draft, some parameter)
      | some parameter, '=' :: value => do
          return (← draft.setParameter parameter (String.ofList value), none)
      | some parameter, value => do
          return (← draft.setParameter parameter (String.ofList value), none)

/-- Reads a long option, given by what stands behind its dashes. -/
def readLong (draft : Draft) (argument : List Char) : Except Stop (Draft × Option Parameter) :=
  let name := argument.takeWhile (· != '=')
  let option := String.ofList name
  let value? := (argument.drop name.length).tail?.map String.ofList
  match Parameter.ofName? option, value? with
  | some parameter, none => .ok (draft, some parameter)
  | some parameter, some value => do return (← draft.setParameter parameter value, none)
  | none, some _ =>
      if option = "back" ∨ option = "help" then .error (.misuse (.unexpectedValue option))
      else .error (.misuse (.unknown option))
  | none, none =>
      if option = "back" then do return (← draft.setBack, none)
      else if option = "help" then .error .help
      else .error (.misuse (.unknown option))

/-- Whether an argument is an option. -/
def isOption (argument : String) : Bool :=
  match argument.toList with
  | '-' :: _ :: _ => true
  | _ => false

/-- Reads one option, given with its dashes. -/
def readOption (draft : Draft) (argument : String) : Except Stop (Draft × Option Parameter) :=
  match argument.toList with
  | '-' :: '-' :: rest => draft.readLong rest
  | _ :: rest => draft.readLetters rest
  | [] => .ok (draft, none)

/-- Reads arguments up to the end. -/
def read (draft : Draft) : List String → Except Stop Draft
  | [] => .ok draft
  | argument :: rest =>
      if argument = "--" then rest.foldlM setTarget draft
      else if isOption argument then
        match draft.readOption argument, rest with
        | .error stop, _ => .error stop
        | .ok (draft, none), rest => draft.read rest
        | .ok (_, some parameter), [] => .error (.misuse (.missingValue parameter.name))
        | .ok (draft, some parameter), value :: rest =>
            if isOption value then .error (.misuse (.missingValue parameter.name))
            else do
              let draft ← draft.setParameter parameter value
              draft.read rest
      else do
        let draft ← draft.setTarget argument
        draft.read rest

end Draft

/-- The options that arguments give. -/
def Options.read (arguments : List String) : Except Stop Options := do
  let draft ← Draft.read {} arguments
  match draft.target with
  | none => .error (.misuse .missingTarget)
  | some target =>
      return {
        target := target
        line := draft.line
        column := draft.column
        language := draft.language
        back := draft.back
        verbosity := draft.verbosity
        logFile := draft.logFile }

end SymbolJump.CommandLine
