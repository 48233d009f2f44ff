/-
All options can be given.

Options are spelled with their long names, each value behind an equals sign,
and the target stands behind two dashes, where nothing is taken for an option.
Reading gives back what was spelled, as long as numbers have 64 bits and the
name of the log file is not empty, which is what the reading asks for.
-/

import SymbolJump.CommandLine.Arguments

namespace SymbolJump.CommandLine

open Text

theorem Parameter.ofName?_name (parameter : Parameter) :
    ofName? parameter.name = some parameter := by
  cases parameter <;> rfl

/-- The argument that gives an option its value. -/
def assigned (parameter : Parameter) (value : List Char) : String :=
  String.ofList ('-' :: '-' :: (parameter.name.toList ++ '=' :: value))

def given {α : Type} (parameter : Parameter) (text : α → List Char) (value? : Option α) :
    List String :=
  value?.toList.map fun value => assigned parameter (text value)

/-- Arguments that ask for some options. -/
def Options.arguments (options : Options) : List String :=
  given .line numeral options.line ++ (given .column numeral options.column ++
    (given .language String.toList options.language ++ (given .log id options.logFile ++
      ((if options.back then ["--back"] else []) ++
        (List.replicate options.verbosity "-v" ++ ["--", options.target])))))

/-- Whether the values of options can be read. -/
structure Options.Readable (options : Options) : Prop where
  line : ∀ line ∈ options.line, line < limit64
  column : ∀ column ∈ options.column, column < limit64
  logFile : options.logFile ≠ some []

namespace Draft

theorem readLong_name (draft : Draft) (parameter : Parameter) (value : List Char) :
    draft.readLong (parameter.name.toList ++ '=' :: value) =
      (return (← draft.setParameter parameter (String.ofList value), none)) := by
  have isName : (parameter.name.toList ++ '=' :: value).takeWhile (· != '=') =
      parameter.name.toList := by
    cases parameter <;> rfl
  simp only [readLong, isName, List.drop_left, String.ofList_toList, Parameter.ofName?_name,
    List.tail?_cons, Option.map_some]

/-- One option and no value behind it. -/
theorem read_cons_of_readOption {draft after : Draft} {argument : String}
    (notDashes : argument ≠ "--") (isOption : isOption argument = true)
    (isRead : draft.readOption argument = .ok (after, none)) (rest : List String) :
    draft.read (argument :: rest) = after.read rest := by
  conv => lhs; unfold read
  rw [if_neg notDashes, if_pos isOption, isRead]

theorem read_assigned {draft after : Draft} {parameter : Parameter} {value : List Char}
    (isSet : draft.setParameter parameter (String.ofList value) = .ok after)
    (rest : List String) :
    draft.read (assigned parameter value :: rest) = after.read rest := by
  have isLong : (assigned parameter value).toList =
      '-' :: '-' :: (parameter.name.toList ++ '=' :: value) := String.toList_ofList
  have notDashes : assigned parameter value ≠ "--" := by
    intro same
    rw [same] at isLong
    cases parameter <;> cases isLong
  have isOption : isOption (assigned parameter value) = true := by
    simp only [Draft.isOption, isLong]
  have isRead : draft.readOption (assigned parameter value) = .ok (after, none) := by
    simp only [readOption, isLong, readLong_name, isSet]
    rfl
  exact read_cons_of_readOption notDashes isOption isRead rest

theorem number_numeral {value : Nat} (fits : value < limit64) (option : String) :
    number option (String.ofList (numeral value)) = .ok value := by
  simp only [number, String.toList_ofList, numeral64?_numeral fits]

/-- A value that may be given: without it, the draft stays as it was. -/
theorem read_given {α : Type} {draft : Draft} {parameter : Parameter} {text : α → List Char}
    (put : Option α → Draft) (unset : put none = draft) {value? : Option α}
    (isSet : ∀ value ∈ value?,
      draft.setParameter parameter (String.ofList (text value)) = .ok (put (some value)))
    (rest : List String) :
    draft.read (given parameter text value? ++ rest) = (put value?).read rest := by
  cases value? with
  | none =>
      rw [unset]
      rfl
  | some value => exact read_assigned (isSet value rfl) rest

section

variable {draft : Draft} (rest : List String)

theorem read_line (unset : draft.line = none) {line : Option Nat}
    (fits : ∀ value ∈ line, value < limit64) :
    draft.read (given .line numeral line ++ rest) = { draft with line := line }.read rest := by
  refine read_given (fun line => { draft with line := line }) (by rw [← unset]) ?_ rest
  intro value isValue
  simp only [setParameter, number_numeral (fits value isValue), once, unset]
  rfl

theorem read_column (unset : draft.column = none) {column : Option Nat}
    (fits : ∀ value ∈ column, value < limit64) :
    draft.read (given .column numeral column ++ rest) =
      { draft with column := column }.read rest := by
  refine read_given (fun column => { draft with column := column }) (by rw [← unset]) ?_ rest
  intro value isValue
  simp only [setParameter, number_numeral (fits value isValue), once, unset]
  rfl

theorem read_language (unset : draft.language = none) (language : Option String) :
    draft.read (given .language String.toList language ++ rest) =
      { draft with language := language }.read rest := by
  refine read_given (fun language => { draft with language := language }) (by rw [← unset]) ?_ rest
  intro value _
  simp only [setParameter, String.ofList_toList, once, unset]
  rfl

theorem read_logFile (unset : draft.logFile = none) {logFile : Option Path}
    (isNamed : logFile ≠ some []) :
    draft.read (given .log id logFile ++ rest) =
      { draft with logFile := logFile }.read rest := by
  refine read_given (fun logFile => { draft with logFile := logFile }) (by rw [← unset]) ?_ rest
  rintro path rfl
  have notEmpty : (String.ofList path).isEmpty = false := by
    rw [← Bool.not_eq_true, String.isEmpty_iff, ← String.toList_eq_nil_iff, String.toList_ofList]
    exact fun isEmpty => isNamed (congrArg some isEmpty)
  simp only [setParameter, id, notEmpty, String.toList_ofList, once, unset]
  rfl

theorem read_back (unset : draft.back = false) (back : Bool) :
    draft.read ((if back then ["--back"] else []) ++ rest) =
      { draft with back := back }.read rest := by
  cases back with
  | false =>
      change draft.read rest = _
      rw [← unset]
  | true =>
      refine read_cons_of_readOption (by decide) (by decide) ?_ rest
      change (return (← draft.setBack, none) : Except Stop (Draft × Option Parameter)) = _
      rw [setBack, unset]
      rfl

theorem read_verbosity (draft : Draft) (verbosity : Nat) :
    draft.read (List.replicate verbosity "-v" ++ rest) =
      { draft with verbosity := draft.verbosity + verbosity }.read rest := by
  induction verbosity generalizing draft with
  | zero => rfl
  | succ verbosity ih =>
      rw [List.replicate_succ, List.cons_append,
        read_cons_of_readOption (by decide) (by decide) rfl, ih, Nat.add_right_comm, Nat.add_assoc]

theorem read_target {draft : Draft} (unset : draft.target = none) (target : String) :
    draft.read ["--", target] = .ok { draft with target := some target } := by
  unfold read
  rw [if_pos rfl, List.foldlM_cons, setTarget, unset]
  rfl

end

end Draft

theorem Options.read_arguments {options : Options} (readable : options.Readable) :
    Options.read options.arguments = .ok options := by
  have isRead : Draft.read {} options.arguments =
      .ok { options with target := some options.target } := by
    unfold Options.arguments
    rw [Draft.read_line _ rfl readable.line, Draft.read_column _ rfl readable.column,
      Draft.read_language _ rfl, Draft.read_logFile _ rfl readable.logFile,
      Draft.read_back _ rfl, Draft.read_verbosity,
      Draft.read_target rfl, Nat.zero_add]
  rw [Options.read, isRead]
  rfl

end SymbolJump.CommandLine
