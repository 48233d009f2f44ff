/-
Hosts of addresses.

A host is a domain name, an IPv4 number or an IPv6 address in brackets, and is
written in one canonical way: names in lower case, numbers in decimal, and the
longest run of zero pieces of an IPv6 address left out.
-/

import SymbolJump.Uri.Percent

namespace SymbolJump.Uri

/-! ### IPv4 -/

def splitAt (separator : Char) : List Char → List (List Char)
  | [] => [[]]
  | c :: rest =>
      if c = separator then [] :: splitAt separator rest
      else
        match splitAt separator rest with
        | [] => [[c]]
        | part :: others => (c :: part) :: others

/-- The number written by digits of a base. -/
def numberIn? (base : Nat) (digits : List Char) : Option Nat :=
  digits.foldlM
    (fun value digit => do
      let digit ← hexValue? digit
      if digit < base then return base * value + digit else none) 0

/-- A part of an IPv4 address: decimal, or octal after a zero, or hexadecimal after `0x`. -/
def ipv4Part? (part : List Char) : Option Nat :=
  match part with
  | [] => none
  | '0' :: 'x' :: digits => numberIn? 16 digits
  | '0' :: 'X' :: digits => numberIn? 16 digits
  | '0' :: digit :: digits => numberIn? 8 (digit :: digits)
  | digits => numberIn? 10 digits

/-- The labels of a name, without the empty one that a final dot makes. -/
def labels (name : List Char) : List (List Char) :=
  let parts := splitAt '.' name
  if 1 < parts.length && parts.getLast? == some [] then parts.dropLast else parts

/-- Whether a name ends in a number, and so has to be an IPv4 address. -/
def endsInNumber (name : List Char) : Bool :=
  match (labels name).getLast? with
  | none => false
  | some last => (!last.isEmpty && last.all Char.isDigit) || (ipv4Part? last).isSome

/-- The 32-bit number of an IPv4 address: the last part fills all bytes the others leave. -/
def ipv4Number? (name : List Char) : Option Nat := do
  let numbers ← (labels name).mapM ipv4Part?
  let last ← numbers.getLast?
  let others := numbers.dropLast
  if 3 < others.length || others.any (255 < ·) || Nat.pow 256 (4 - others.length) ≤ last then none
  else
    let weigh (total : Nat) (entry : Nat × Nat) : Nat :=
      total + entry.1 * Nat.pow 256 (3 - entry.2)
    return others.zipIdx.foldl weigh last

def decimal (value : Nat) : List Char :=
  Nat.toDigits 10 value

def writeIpv4 (number : Nat) : List Char :=
  List.intercalate ['.']
    ([number / 0x1000000, number / 0x10000 % 256, number / 0x100 % 256, number % 256].map decimal)

/-! ### IPv6 -/

/-- Sixteen-bit pieces written in hexadecimal, the last two possibly as an IPv4 address. -/
def ipv6Pieces? (text : List Char) : Option (List Nat) :=
  if text.isEmpty then some []
  else
    let parts := splitAt ':' text
    let piece? (part : List Char) : Option Nat :=
      if part.isEmpty || 4 < part.length then none else numberIn? 16 part
    let dotted? (part : List Char) : Option (List Nat) := do
      let bytes := splitAt '.' part
      let canonical (byte : List Char) : Bool :=
        !byte.isEmpty && byte.length ≤ 3 && (byte.length = 1 || byte.head? != some '0')
      if bytes.length = 4 && bytes.all canonical then
        match ← bytes.mapM (numberIn? 10) with
        | [a, b, c, d] =>
            if a < 256 && b < 256 && c < 256 && d < 256 then some [256 * a + b, 256 * c + d]
            else none
        | _ => none
      else none
    match parts.getLast? with
    | none => none
    | some last =>
        if last.contains '.' then do
          return (← parts.dropLast.mapM piece?) ++ (← dotted? last)
        else parts.mapM piece?

/-- Splits a text around its first double colon. -/
def splitDouble : List Char → Option (List Char × List Char)
  | ':' :: ':' :: rest => some ([], rest)
  | c :: rest => (splitDouble rest).map fun (left, right) => (c :: left, right)
  | [] => none

/-- The eight pieces of an IPv6 address, where a double colon stands for missing zeros. -/
def ipv6? (text : List Char) : Option (List Nat) := do
  match splitDouble text with
  | none =>
      let pieces ← ipv6Pieces? text
      if pieces.length = 8 then return pieces else none
  | some (left, right) =>
      if left.contains '.' then none
      else
        let before ← ipv6Pieces? left
        let after ← ipv6Pieces? right
        let known := before.length + after.length
        if known < 8 then return before ++ List.replicate (8 - known) 0 ++ after else none

/-- The start and length of the first longest run of zeros of at least two pieces. -/
def zeroRun (pieces : List Nat) : Option (Nat × Nat) :=
  let runs := (List.range pieces.length).map fun start =>
    (start, ((pieces.drop start).takeWhile (· == 0)).length)
  runs.foldl
    (fun best run =>
      match best with
      | none => if 1 < run.2 then some run else none
      | some (_, length) => if length < run.2 then some run else best) none

def writeIpv6 (pieces : List Nat) : List Char :=
  let written (pieces : List Nat) : List Char :=
    List.intercalate [':'] (pieces.map fun piece => Nat.toDigits 16 piece)
  match zeroRun pieces with
  | none => written pieces
  | some (start, length) =>
      written (pieces.take start) ++ [':', ':'] ++ written (pieces.drop (start + length))

/-! ### Names outside ASCII -/

/-- The digit of a variable-length number of a name outside ASCII. -/
def nameDigit (value : Nat) : Char :=
  if value < 26 then Char.ofNat (0x61 + value) else Char.ofNat (0x30 + (value - 26))

/-- Divides by 35 until the value is at most 455, counting the steps by 36. -/
def biasSteps : Nat → Nat → Nat → Nat × Nat
  | 0, delta, steps => (delta, steps)
  | fuel + 1, delta, steps =>
      if 455 < delta then biasSteps fuel (delta / 35) (steps + 36) else (delta, steps)

/-- The bias for the next number, after one that bridged `delta` places. -/
def nextBias (delta count : Nat) (first : Bool) : Nat :=
  let scaled := if first then delta / 700 else delta / 2
  let (rest, steps) := biasSteps 32 (scaled + scaled / count) 0
  steps + 36 * rest / (rest + 38)

/-- A number in digits whose thresholds depend on the bias. -/
def variableLength (bias : Nat) : Nat → Nat → Nat → List Char
  | 0, _, _ => []
  | fuel + 1, place, value =>
      let threshold :=
        if place ≤ bias then 1 else if bias + 26 ≤ place then 26 else place - bias
      if value < threshold then [nameDigit value]
      else
        nameDigit (threshold + (value - threshold) % (36 - threshold)) ::
          variableLength bias fuel (place + 36) ((value - threshold) / (36 - threshold))

/-- Where the encoding of a label stands: the next code point, the places bridged since the
last number, the bias, and how many characters are done. -/
structure LabelState where
  code : Nat
  delta : Nat
  bias : Nat
  done : Nat
  written : List Char

/-- Encodes all occurrences of one code point, in order. -/
def encodeCode (basic : Nat) (state : LabelState) (label : List Char) : LabelState :=
  label.foldl
    (fun state c =>
      if c.toNat < state.code then { state with delta := state.delta + 1 }
      else if c.toNat = state.code then
        { state with
          written := state.written ++ variableLength state.bias 32 36 state.delta
          bias := nextBias state.delta (state.done + 1) (state.done == basic)
          delta := 0
          done := state.done + 1 }
      else state)
    state

/-- Encodes the code points of a label from the smallest on. -/
def encodeCodes (basic : Nat) (label : List Char) : List Nat → LabelState → LabelState
  | [], state => state
  | code :: rest, state =>
      let bridged := state.delta + (code - state.code) * (state.done + 1)
      let finished := encodeCode basic { state with code := code, delta := bridged } label
      encodeCodes basic label rest
        { finished with code := code + 1, delta := finished.delta + 1 }

/-- A label in ASCII: its ASCII characters, and behind a dash the others as numbers. -/
def asciiLabel (label : List Char) : List Char :=
  let basic := label.filter (·.toNat < 0x80)
  if basic.length = label.length then label
  else
    let codes := ((label.filter (0x80 ≤ ·.toNat)).map Char.toNat).eraseDups.mergeSort
    let start : LabelState :=
      { code := 0x80, delta := 0, bias := 72, done := basic.length, written := [] }
    let head := if basic.isEmpty then [] else basic ++ ['-']
    "xn--".toList ++ head ++ (encodeCodes basic.length label codes start).written

/-! ### Hosts -/

/-- The characters no host may hold. -/
def isForbiddenInHost (c : Char) : Bool :=
  c.toNat = 0 || "\t\n\r #/:<>?@[\\]^|".toList.contains c

/-- The characters no domain name may hold. -/
def isForbiddenInDomain (c : Char) : Bool :=
  isForbiddenInHost c || c.toNat < 0x20 || c.toNat = 0x7F || c == '%'

/-- The address between brackets. -/
def readBracketed? (rest : List Char) : Option (List Char) := do
  if rest.getLast? = some ']' then
    let pieces ← ipv6? rest.dropLast
    return '[' :: writeIpv6 pieces ++ [']']
  else none

/-- The host of an address whose scheme resolves names. -/
def resolvedHost? (text : List Char) : Option (List Char) :=
  match text with
  | '[' :: rest => readBracketed? rest
  | _ => do
      let decoded ← decode? text
      let name := List.intercalate ['.'] ((splitAt '.' (decoded.map Char.toLower)).map asciiLabel)
      if name.isEmpty || name.any isForbiddenInDomain then none
      else if endsInNumber name then return writeIpv4 (← ipv4Number? name)
      else return name

/-- The host of any other address, kept as written. -/
def opaqueHost? (text : List Char) : Option (List Char) :=
  match text with
  | '[' :: rest => readBracketed? rest
  | _ => if text.any isForbiddenInHost then none else some (encode isControl text)

end SymbolJump.Uri
