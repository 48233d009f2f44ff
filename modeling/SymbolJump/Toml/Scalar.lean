/-
Unquoted values in settings documents: truth values, numbers, moments.

An underscore may stand between two digits. A decimal number has no zeros in
front; one with a base has no sign. Whole numbers have 64 bits, and a number
with a fraction or an exponent has to be finite.
-/

import SymbolJump.Toml.Value

namespace SymbolJump.Toml

/-- Takes out the underscores; absent if one does not stand between two digits. -/
def plainDigits? (isDigit : Char → Bool) (text : List Char) : Option (List Char) :=
  let between (c previous : Option Char) : Bool := c.any isDigit && previous.any isDigit
  let rec scan (previous : Option Char) : List Char → Option (List Char)
    | [] => some []
    | c :: rest =>
        if c = '_' then
          if between rest.head? previous then scan (some c) rest else none
        else if isDigit c then (scan (some c) rest).map (c :: ·)
        else none
  if text.isEmpty then none else scan none text

def isHexDigit (c : Char) : Bool :=
  c.isDigit || ('a' ≤ c && c ≤ 'f') || ('A' ≤ c && c ≤ 'F')

def isOctalDigit (c : Char) : Bool :=
  '0' ≤ c && c ≤ '7'

def isBinaryDigit (c : Char) : Bool :=
  c == '0' || c == '1'

/-- The value of a digit up to `f`. -/
def digitValue (c : Char) : Nat :=
  if c.isDigit then c.toNat - 48 else c.toLower.toNat - 87

def valueIn (base : Nat) (digits : List Char) : Nat :=
  digits.foldl (fun value digit => base * value + digitValue digit) 0

/-- A whole number of 64 bits. -/
def integer? (value : Int) : Option Value :=
  if -0x8000000000000000 ≤ value ∧ value < 0x8000000000000000 then some (.integer value) else none

/-- The digits of a decimal number without zeros in front. -/
def wholeDigits? (text : List Char) : Option (List Char) := do
  let digits ← plainDigits? Char.isDigit text
  if digits.head? = some '0' ∧ 1 < digits.length then none else return digits

/-- Takes off a sign; says whether it was a minus. -/
def splitSign (text : List Char) : Bool × List Char :=
  match text with
  | '-' :: rest => (true, rest)
  | '+' :: rest => (false, rest)
  | _ => (false, text)

def readBased? (base : Nat) (isDigit : Char → Bool) (text : List Char) : Option Value := do
  integer? (valueIn base (← plainDigits? isDigit text))

def readInteger? (text : List Char) : Option Value :=
  match text with
  | '0' :: 'x' :: rest => readBased? 16 isHexDigit rest
  | '0' :: 'o' :: rest => readBased? 8 isOctalDigit rest
  | '0' :: 'b' :: rest => readBased? 2 isBinaryDigit rest
  | _ => do
      let (negative, unsigned) := splitSign text
      let value : Int := valueIn 10 (← wholeDigits? unsigned)
      integer? (if negative then -value else value)

/-- The finite number `mantissa * 10 ^ exponent`. -/
def scaled? (negative : Bool) (mantissa : Nat) (exponent : Int) : Option Float :=
  let size := Float.ofScientific mantissa (exponent < 0) exponent.natAbs
  if size.isFinite then some (if negative then -size else size) else none

/-- The exponent behind its mark. -/
def readExponent? (text : List Char) : Option Int := do
  let (negative, unsigned) := splitSign text
  let value : Int := valueIn 10 (← plainDigits? Char.isDigit unsigned)
  return if negative then -value else value

/-- A number with a fraction or an exponent, or one without size. -/
def readFloat? (text : List Char) : Option Float := do
  let (negative, unsigned) := splitSign text
  if unsigned = "inf".toList then return if negative then -1.0 / 0.0 else 1.0 / 0.0
  else if unsigned = "nan".toList then return 0.0 / 0.0
  else
    let isMark (c : Char) : Bool := c == 'e' || c == 'E'
    let mantissa := unsigned.takeWhile (!isMark ·)
    let exponent ←
      match unsigned.drop mantissa.length with
      | [] => pure none
      | _ :: rest => some <$> readExponent? rest
    let whole ← wholeDigits? (mantissa.takeWhile (· != '.'))
    let fraction ←
      match mantissa.dropWhile (· != '.') with
      | [] => pure none
      | _ :: rest => some <$> plainDigits? Char.isDigit rest
    if fraction.isNone && exponent.isNone then none
    else
      let places := fraction.getD []
      scaled? negative (valueIn 10 (whole ++ places)) (exponent.getD 0 - places.length)

/-- The value that an unquoted word is. -/
def readScalar? (text : List Char) : Option Value :=
  if text = "true".toList then some (.boolean true)
  else if text = "false".toList then some (.boolean false)
  else
    (readInteger? text).or (((readFloat? text).map .float).or ((Moment.read? text).map .moment))

/-- Whether a character belongs to an unquoted word. -/
def isWordChar (c : Char) : Bool :=
  c.isAlphanum || c == '_' || c == '+' || c == '-' || c == '.' || c == ':'

/-- The unquoted word in front. A date takes a time behind one blank with it. -/
def splitWord (text : List Char) : List Char × List Char :=
  let word := text.takeWhile isWordChar
  let rest := text.drop word.length
  match readDate? word, rest with
  | some (_, []), ' ' :: next :: others =>
      if next.isDigit then
        let time := (next :: others).takeWhile isWordChar
        (word ++ ' ' :: time, (next :: others).drop time.length)
      else (word, rest)
  | _, _ => (word, rest)

end SymbolJump.Toml
