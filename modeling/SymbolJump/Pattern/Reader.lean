/-
Reading a pattern from its usual notation.

Groups, classes with nested sets and set operators, counted repetition, escapes
and inline options are read; a notation outside of that, such as a
back-reference or a look-around, is refused. The reader goes through the
characters once and keeps the groups that are still open on a stack.
-/

import SymbolJump.Pattern.Basic
import SymbolJump.Text.Numeral

namespace SymbolJump.Pattern

/-- Why a written pattern is refused. -/
inductive ReadError where
  | unclosedGroup
  | unopenedGroup
  | unknownGroup
  | repeatedGroupName
  | unknownOption
  | unclosedClass
  | reversedRange
  | rangeOfSets
  | nothingToRepeat
  | badCount
  | badEscape
  deriving DecidableEq, Repr

/-- The options that a pattern can set for the rest of a group. -/
structure Options where
  ignoreCase : Bool := false
  multiLine : Bool := false
  dotAll : Bool := false
  verbose : Bool := false
  deriving DecidableEq, Repr

/-! ### Character sets -/

/-- Adds the other case of the ASCII letters of a range, and the two signs outside ASCII
that fold to one of them. -/
def withBothCases (first last : Nat) : CharSet :=
  let covers (code : Nat) : Bool := first ≤ code && code ≤ last
  let lowered := CharSet.range (max first 0x41 + 0x20) (min last 0x5A + 0x20)
  let raised := CharSet.range (max first 0x61 - 0x20) (min last 0x7A - 0x20)
  let kelvin := if covers 0x4B || covers 0x6B then CharSet.range 0x212A 0x212A else .nothing
  let longS := if covers 0x53 || covers 0x73 then CharSet.range 0x17F 0x17F else .nothing
  let fromKelvin := if covers 0x212A then CharSet.listed "Kk" else .nothing
  let fromLongS := if covers 0x17F then CharSet.listed "Ss" else .nothing
  CharSet.anyOf [.range first last, lowered, raised, kelvin, longS, fromKelvin, fromLongS]

/-- The characters from one code point to another under the options. -/
def rangeSet (options : Options) (first last : Nat) : CharSet :=
  if options.ignoreCase then withBothCases first last else .range first last

/-- The named ASCII classes. -/
def namedClass? (name : String) : Option CharSet :=
  match name with
  | "alnum" => some (.anyOf [.range 0x30 0x39, .range 0x41 0x5A, .range 0x61 0x7A])
  | "alpha" => some (.union (.range 0x41 0x5A) (.range 0x61 0x7A))
  | "ascii" => some (.range 0x0 0x7F)
  | "blank" => some (.listed "\t ")
  | "cntrl" => some (.union (.range 0x0 0x1F) (.range 0x7F 0x7F))
  | "digit" => some (.range 0x30 0x39)
  | "graph" => some (.range 0x21 0x7E)
  | "lower" => some (.range 0x61 0x7A)
  | "print" => some (.range 0x20 0x7E)
  | "punct" =>
      some (.anyOf [.range 0x21 0x2F, .range 0x3A 0x40, .range 0x5B 0x60, .range 0x7B 0x7E])
  | "space" => some (.union (.range 0x9 0xD) (.range 0x20 0x20))
  | "upper" => some (.range 0x41 0x5A)
  | "word" =>
      some (.anyOf [.range 0x30 0x39, .range 0x41 0x5A, .range 0x5F 0x5F, .range 0x61 0x7A])
  | "xdigit" => some (.anyOf [.range 0x30 0x39, .range 0x41 0x46, .range 0x61 0x66])
  | _ => none

/-! ### Escapes -/

/-- What an escape stands for. -/
inductive Escape where
  | literal (c : Char)
  | set (set : CharSet)
  | anchor (anchor : Anchor)

def hexDigit? (c : Char) : Option Nat :=
  if '0' ≤ c ∧ c ≤ '9' then some (c.toNat - 0x30)
  else if 'a' ≤ c ∧ c ≤ 'f' then some (c.toNat - 0x61 + 10)
  else if 'A' ≤ c ∧ c ≤ 'F' then some (c.toNat - 0x41 + 10)
  else none

/-- The number written by hexadecimal digits, if there is one. -/
def hexValue? (digits : List Char) : Option Nat :=
  if digits.isEmpty then none
  else digits.foldlM (fun value digit => (hexDigit? digit).map (16 * value + ·)) 0

/-- A code point that is a character. -/
def charOfCode? (code : Nat) : Option Char :=
  if code.isValidChar then some (Char.ofNat code) else none

/-- The rest of a hexadecimal escape: a fixed number of digits, or any number in braces. -/
def readHex (width : Nat) (rest : List Char) : Except ReadError (Escape × List Char) :=
  let (digits, after) :=
    match rest with
    | '{' :: inner =>
        let digits := inner.takeWhile (· != '}')
        (if digits.length < inner.length then digits else [], inner.drop (digits.length + 1))
    | _ => (if width ≤ rest.length then rest.take width else [], rest.drop width)
  match (hexValue? digits).bind charOfCode? with
  | some c => .ok (.literal c, after)
  | none => .error .badEscape

/-- The rest of an escaped word edge, which may name one side of the word in braces. -/
def readEdge (rest : List Char) : Except ReadError (Escape × List Char) :=
  let isNamed (c : Char) : Bool := c.isAlpha || c == '-'
  match rest with
  | '{' :: inner =>
      let name := inner.takeWhile isNamed
      if name.isEmpty then .ok (.anchor .wordBoundary, rest)
      else
        match String.ofList name, inner.drop name.length with
        | "start", '}' :: after => .ok (.anchor .wordStart, after)
        | "end", '}' :: after => .ok (.anchor .wordEnd, after)
        | "start-half", '}' :: after => .ok (.anchor .wordAfter, after)
        | "end-half", '}' :: after => .ok (.anchor .wordBefore, after)
        | _, _ => .error .badEscape
  | _ => .ok (.anchor .wordBoundary, rest)

/-- Reads what follows a backslash. -/
def readEscape : List Char → Except ReadError (Escape × List Char)
  | [] => .error .badEscape
  | c :: rest =>
      match c with
      | 'x' => readHex 2 rest
      | 'u' => readHex 4 rest
      | 'U' => readHex 8 rest
      | 'd' => .ok (.set .digit, rest)
      | 'D' => .ok (.set (.complement .digit), rest)
      | 's' => .ok (.set .blank, rest)
      | 'S' => .ok (.set (.complement .blank), rest)
      | 'w' => .ok (.set .word, rest)
      | 'W' => .ok (.set (.complement .word), rest)
      | 'a' => .ok (.literal '\x07', rest)
      | 'f' => .ok (.literal '\x0c', rest)
      | 'n' => .ok (.literal '\n', rest)
      | 'r' => .ok (.literal '\r', rest)
      | 't' => .ok (.literal '\t', rest)
      | 'v' => .ok (.literal '\x0b', rest)
      | 'A' => .ok (.anchor .textStart, rest)
      | 'z' => .ok (.anchor .textEnd, rest)
      | 'b' => readEdge rest
      | 'B' => .ok (.anchor .wordInside, rest)
      | '<' => .ok (.anchor .wordStart, rest)
      | '>' => .ok (.anchor .wordEnd, rest)
      | c =>
          if c.toNat < 0x80 && !c.isAlphanum then .ok (.literal c, rest)
          else .error .badEscape

/-! ### Classes in brackets -/

inductive SetOperator where
  | intersection
  | difference
  | symmetricDifference

def SetOperator.apply : SetOperator → CharSet → CharSet → CharSet
  | intersection => .inter
  | difference => .diff
  | symmetricDifference => .symmDiff

/-- A class that is still open: its sign, the operator waiting for its right side, and the
items read since, the latest first. -/
structure OpenClass where
  negated : Bool
  waiting : Option (SetOperator × CharSet)
  items : List CharSet

namespace OpenClass

def put (frame : OpenClass) (item : CharSet) : OpenClass :=
  { frame with items := item :: frame.items }

/-- The set read so far, leaving the sign aside. -/
def gathered (frame : OpenClass) : CharSet :=
  let items := CharSet.anyOf frame.items.reverse
  match frame.waiting with
  | none => items
  | some (operator, left) => operator.apply left items

def operate (frame : OpenClass) (operator : SetOperator) : OpenClass :=
  { frame with waiting := some (operator, frame.gathered), items := [] }

def close (frame : OpenClass) : CharSet :=
  if frame.negated then .complement frame.gathered else frame.gathered

end OpenClass

/-- Opens a class after its bracket. Leading dashes, and a closing bracket in first place,
are members. -/
def openClass (options : Options) (text : List Char) : OpenClass × List Char :=
  let negated := text.head? == some '^'
  let signed := if negated then text.drop 1 else text
  let dashes := signed.takeWhile (· == '-')
  let rest := signed.drop dashes.length
  let frame : OpenClass :=
    { negated := negated
      waiting := none
      items := dashes.map fun _ => rangeSet options 0x2D 0x2D }
  match rest with
  | ']' :: after => if dashes.isEmpty then (frame.put (.single ']'), after) else (frame, rest)
  | _ => (frame, rest)

/-- A named class such as `[:alpha:]`, read after its first bracket. -/
def readNamedClass? (text : List Char) : Option (CharSet × List Char) :=
  match text with
  | ':' :: inner =>
      let negated := inner.head? == some '^'
      let signed := if negated then inner.drop 1 else inner
      let name := signed.takeWhile (· != ':')
      match signed.drop name.length with
      | ':' :: ']' :: after =>
          (namedClass? (String.ofList name)).map fun set =>
            (if negated then .complement set else set, after)
      | _ => none
  | _ => none

/-- One member of a class: a character or an escape. -/
def readMember : List Char → Except ReadError (Escape × List Char)
  | [] => .error .unclosedClass
  | '\\' :: rest => readEscape rest
  | c :: rest => .ok (.literal c, rest)

/-- A member or a range of members. A dash before a closing bracket or another dash makes
no range. -/
def readRange (options : Options) (text : List Char) :
    Except ReadError (CharSet × List Char) := do
  let (first, rest) ← readMember text
  let alone : Except ReadError (CharSet × List Char) :=
    match first with
    | .literal c => .ok (rangeSet options c.toNat c.toNat, rest)
    | .set set => .ok (set, rest)
    | .anchor _ => .error .badEscape
  match rest with
  | '-' :: next :: after =>
      if next == ']' || next == '-' then alone
      else
        let (last, rest) ← readMember (next :: after)
        match first, last with
        | .literal low, .literal high =>
            if low.toNat ≤ high.toNat then
              .ok (rangeSet options low.toNat high.toNat, rest)
            else .error .reversedRange
        | _, _ => .error .rangeOfSets
  | _ => alone

/-- Reads the rest of a class, the innermost open class first. -/
def readClass (options : Options) :
    Nat → OpenClass → List OpenClass → List Char → Except ReadError (CharSet × List Char)
  | 0, _, _, _ => .error .unclosedClass
  | fuel + 1, frame, outer, text =>
      match text with
      | [] => .error .unclosedClass
      | ']' :: rest =>
          match outer with
          | [] => .ok (frame.close, rest)
          | parent :: others => readClass options fuel (parent.put frame.close) others rest
      | '[' :: rest =>
          match readNamedClass? rest with
          | some (set, after) => readClass options fuel (frame.put set) outer after
          | none =>
              let (inner, after) := openClass options rest
              readClass options fuel inner (frame :: outer) after
      | '&' :: '&' :: rest => readClass options fuel (frame.operate .intersection) outer rest
      | '-' :: '-' :: rest => readClass options fuel (frame.operate .difference) outer rest
      | '~' :: '~' :: rest =>
          readClass options fuel (frame.operate .symmetricDifference) outer rest
      | c :: rest =>
          if options.verbose && Text.isBlank c then readClass options fuel frame outer rest
          else do
            let (set, after) ← readRange options (c :: rest)
            readClass options fuel (frame.put set) outer after

/-! ### Counts and groups -/

/-- A decimal number between blanks, as counts are written. -/
def readCount? (text : List Char) : Option (Nat × List Char) :=
  let digits := (text.dropWhile Text.isBlank).takeWhile Char.isDigit
  let rest := (text.dropWhile Text.isBlank).drop digits.length
  if digits.isEmpty then none
  else
    let value := digits.foldl (fun value digit => 10 * value + (digit.toNat - 0x30)) 0
    if value < Text.limit32 then some (value, rest.dropWhile Text.isBlank) else none

/-- The bounds of a repetition, read after the opening brace. -/
def readBounds (text : List Char) : Except ReadError (Nat × Option Nat × List Char) :=
  match readCount? text with
  | none => .error .badCount
  | some (least, '}' :: rest) => .ok (least, some least, rest)
  | some (least, ',' :: '}' :: rest) => .ok (least, none, rest)
  | some (least, ',' :: rest) =>
      match readCount? rest with
      | some (most, '}' :: rest) =>
          if least ≤ most then .ok (least, some most, rest) else .error .badCount
      | _ => .error .badCount
  | some _ => .error .badCount

/-- Sets the options named by letters; the flag says whether they are switched on. -/
def setOptions : Options → Bool → List Char → Except ReadError Options
  | options, _, [] => .ok options
  | options, on, letter :: rest =>
      match letter with
      | 'i' => setOptions { options with ignoreCase := on } on rest
      | 'm' => setOptions { options with multiLine := on } on rest
      | 's' => setOptions { options with dotAll := on } on rest
      | 'x' => setOptions { options with verbose := on } on rest
      | 'U' => setOptions options on rest
      | 'u' => if on then setOptions options on rest else .error .unknownOption
      | _ => .error .unknownOption

/-- Options written as letters, a dash before those that are switched off. No letter stands
twice, and a dash is followed by one. -/
def readOptions (options : Options) (written : List Char) : Except ReadError Options :=
  let on := written.takeWhile (· != '-')
  let off := (written.drop on.length).drop 1
  let dash := on.length < written.length
  if written.isEmpty || (dash && off.isEmpty) || !(on ++ off).Nodup then
    .error .unknownOption
  else do
    setOptions (← setOptions options true on) false off

/-- What an opening parenthesis begins. -/
inductive Opening where
  | group (options : Options) (name : Option (List Char)) (rest : List Char)
  | directive (options : Options) (rest : List Char)

/-- The name of a group, up to its closing angle bracket. -/
def readGroupName (options : Options) (text : List Char) : Except ReadError Opening :=
  let name := text.takeWhile (· != '>')
  let starts := name.head?.any fun c => c == '_' || Text.isAlphabetic c
  let continues := name.all fun c =>
    c == '_' || c == '.' || c == '[' || c == ']' || Text.isAlphabetic c || Text.isNumeric c
  if name.length < text.length && starts && continues then
    .ok (.group options (some name) (text.drop (name.length + 1)))
  else .error .unknownGroup

/-- Reads what follows an opening parenthesis. -/
def readOpening (options : Options) : List Char → Except ReadError Opening
  | '?' :: 'P' :: '<' :: rest => readGroupName options rest
  | '?' :: '<' :: '=' :: _ => .error .unknownGroup
  | '?' :: '<' :: '!' :: _ => .error .unknownGroup
  | '?' :: '<' :: rest => readGroupName options rest
  | '?' :: ':' :: rest => .ok (.group options none rest)
  | '?' :: rest =>
      let letters := rest.takeWhile fun c => c.isAlpha || c == '-'
      match rest.drop letters.length with
      | ':' :: after => do return .group (← readOptions options letters) none after
      | ')' :: after => do return .directive (← readOptions options letters) after
      | _ => .error .unknownGroup
  | rest => .ok (.group options none rest)

/-! ### The whole pattern -/

/-- A group that is still open: its finished branches, the parts of the current branch, the
latest first, and the options outside of it. A part is absent where an option was set. -/
structure OpenGroup where
  branches : List Pattern
  parts : List (Option Pattern)
  outside : Options

namespace OpenGroup

def fresh (outside : Options) : OpenGroup :=
  { branches := [], parts := [], outside := outside }

def put (frame : OpenGroup) (part : Pattern) : OpenGroup :=
  { frame with parts := some part :: frame.parts }

/-- Ends the current branch. -/
def branch (frame : OpenGroup) : OpenGroup :=
  { frame with
    branches := sequence (frame.parts.reverse.filterMap id) :: frame.branches
    parts := [] }

def close (frame : OpenGroup) : Pattern :=
  choice frame.branch.branches.reverse

/-- Repeats the last part. -/
def repeatLast (frame : OpenGroup) (least : Nat) (most : Option Nat) :
    Except ReadError OpenGroup :=
  match frame.parts with
  | some part :: others =>
      .ok { frame with parts := some (.repeated part least most) :: others }
  | _ => .error .nothingToRepeat

end OpenGroup

/-- Drops the mark of a repetition that prefers fewer rounds: it changes which match is
found, not whether there is one. -/
def dropLazy : List Char → List Char
  | '?' :: rest => rest
  | rest => rest

/-- Reads the rest of a pattern, the innermost open group first. -/
def readAll :
    Nat → Options → List (List Char) → OpenGroup → List OpenGroup → List Char →
      Except ReadError Pattern
  | 0, _, _, _, _, _ => .error .unclosedGroup
  | fuel + 1, options, names, frame, outer, text =>
      let continueWith (part : Pattern) (rest : List Char) : Except ReadError Pattern :=
        readAll fuel options names (frame.put part) outer rest
      let continueRepeated (least : Nat) (most : Option Nat) (rest : List Char) :
          Except ReadError Pattern := do
        readAll fuel options names (← frame.repeatLast least most) outer (dropLazy rest)
      match text with
      | [] =>
          match outer with
          | [] => .ok frame.close
          | _ :: _ => .error .unclosedGroup
      | '(' :: rest => do
          match ← readOpening options rest with
          | .directive inside after =>
              readAll fuel inside names { frame with parts := none :: frame.parts } outer after
          | .group inside name after =>
              match name with
              | none => readAll fuel inside names (.fresh options) (frame :: outer) after
              | some name =>
                  if names.contains name then .error .repeatedGroupName
                  else
                    readAll fuel inside (name :: names) (.fresh options) (frame :: outer) after
      | ')' :: rest =>
          match outer with
          | [] => .error .unopenedGroup
          | parent :: others =>
              readAll fuel frame.outside names (parent.put frame.close) others rest
      | '|' :: rest => readAll fuel options names frame.branch outer rest
      | '[' :: rest => do
          let (inner, inside) := openClass options rest
          let (set, after) ← readClass options (rest.length + 1) inner [] inside
          continueWith (.chars set) after
      | '*' :: rest => continueRepeated 0 none rest
      | '+' :: rest => continueRepeated 1 none rest
      | '?' :: rest => continueRepeated 0 (some 1) rest
      | '{' :: rest => do
          let (least, most, after) ← readBounds rest
          continueRepeated least most after
      | '.' :: rest =>
          continueWith (.chars (if options.dotAll then .complement .nothing else .inLine)) rest
      | '^' :: rest =>
          continueWith (.assertion (if options.multiLine then .lineStart else .textStart)) rest
      | '$' :: rest =>
          continueWith (.assertion (if options.multiLine then .lineEnd else .textEnd)) rest
      | '\\' :: rest => do
          match ← readEscape rest with
          | (.literal c, after) => continueWith (.chars (rangeSet options c.toNat c.toNat)) after
          | (.set set, after) => continueWith (.chars set) after
          | (.anchor anchor, after) => continueWith (.assertion anchor) after
      | c :: rest =>
          if options.verbose && Text.isBlank c then
            readAll fuel options names frame outer rest
          else if options.verbose && c == '#' then
            readAll fuel options names frame outer (rest.dropWhile (· != '\n'))
          else continueWith (.chars (rangeSet options c.toNat c.toNat)) rest

/-- Reads a written pattern. -/
def read (text : String) : Except ReadError Pattern :=
  let characters := text.toList
  readAll (characters.length + 1) {} [] (.fresh {}) [] characters

end SymbolJump.Pattern
