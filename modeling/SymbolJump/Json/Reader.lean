/-
Reading JSON text.

A text is one value between blanks. A number is whole when it is written
without fraction and exponent and fits into 64 bits, signed or unsigned; every
other number keeps its decimal digits.
-/

import SymbolJump.Json
import SymbolJump.Keyed
import SymbolJump.Text.Numeral

namespace SymbolJump.Json

def isBlank (c : Char) : Bool :=
  c == ' ' || c == '\t' || c == '\n' || c == '\r'

def skipBlanks (text : List Char) : List Char :=
  text.dropWhile isBlank

/-! ### Strings -/

def hexDigit? (c : Char) : Option Nat :=
  if '0' ≤ c ∧ c ≤ '9' then some (c.toNat - 48)
  else if 'a' ≤ c ∧ c ≤ 'f' then some (c.toNat - 87)
  else if 'A' ≤ c ∧ c ≤ 'F' then some (c.toNat - 55)
  else none

/-- The value of four hexadecimal digits in front, and what follows them. -/
def readUnit? (text : List Char) : Option (Nat × List Char) := do
  let digits ← (text.take 4).mapM hexDigit?
  if digits.length = 4 then
    return (digits.foldl (fun value digit => 16 * value + digit) 0, text.drop 4)
  else none

/-- The character of a `\u` escape. A character past 16 bits is written as two escapes,
and half of such a pair stands for nothing. -/
def readEscapedUnit? (text : List Char) : Option (Char × List Char) := do
  let (unit, rest) ← readUnit? text
  if 0xD800 ≤ unit ∧ unit < 0xDC00 then
    match rest with
    | '\\' :: 'u' :: rest =>
        let (low, rest) ← readUnit? rest
        if 0xDC00 ≤ low ∧ low < 0xE000 then
          return (Char.ofNat (0x10000 + (unit - 0xD800) * 0x400 + (low - 0xDC00)), rest)
        else none
    | _ => none
  else if 0xDC00 ≤ unit ∧ unit < 0xE000 then none
  else return (Char.ofNat unit, rest)

/-- The character that a letter stands for behind a backslash. -/
def escapedChar? (c : Char) : Option Char :=
  match c with
  | 'n' => some '\n'
  | 't' => some '\t'
  | 'r' => some '\r'
  | 'b' => some '\x08'
  | 'f' => some '\x0c'
  | '"' => some '"'
  | '\\' => some '\\'
  | '/' => some '/'
  | _ => none

/-- Reads the rest of a string up to its closing quote; the characters read so far come
latest first. -/
def readStringWithin : Nat → List Char → List Char → Option (String × List Char)
  | 0, _, _ => none
  | fuel + 1, done, text =>
      match text with
      | [] => none
      | '"' :: rest => some (String.ofList done.reverse, rest)
      | '\\' :: 'u' :: rest => do
          let (c, rest) ← readEscapedUnit? rest
          readStringWithin fuel (c :: done) rest
      | '\\' :: c :: rest => do
          readStringWithin fuel ((← escapedChar? c) :: done) rest
      | c :: rest => if c.toNat < 0x20 then none else readStringWithin fuel (c :: done) rest

/-- Reads a string behind its opening quote. -/
def readString? (text : List Char) : Option (String × List Char) :=
  readStringWithin text.length [] text

/-! ### Numbers -/

/-- The digits in front and what follows them; absent if there are none. -/
def readDigits? (text : List Char) : Option (List Char × List Char) :=
  let digits := text.takeWhile Char.isDigit
  if digits.isEmpty then none else some (digits, text.drop digits.length)

/-- Takes off one sign of the given kind. -/
def readSign (sign : Char) (text : List Char) : Bool × List Char :=
  if text.head? = some sign then (true, text.drop 1) else (false, text)

/-- The fraction's digits, if there is a point. -/
def readFraction? (text : List Char) : Option (Option (List Char) × List Char) :=
  match text with
  | '.' :: rest => (readDigits? rest).map fun (digits, rest) => (some digits, rest)
  | _ => some (none, text)

/-- The exponent, if there is one. -/
def readExponent? (text : List Char) : Option (Option Int × List Char) :=
  match text with
  | mark :: rest =>
      if mark = 'e' ∨ mark = 'E' then do
        let (down, unsigned) := readSign '-' rest
        let unsigned := if down then unsigned else (readSign '+' unsigned).2
        let (digits, rest) ← readDigits? unsigned
        let value : Int := Text.digitsValue digits
        return (some (if down then -value else value), rest)
      else some (none, text)
  | [] => some (none, text)

/-- Whether a whole number fits into 64 bits, signed or unsigned. -/
def fits64 (value : Int) : Bool :=
  -0x8000000000000000 ≤ value && value < Text.limit64

def readNumber? (text : List Char) : Option (Json × List Char) := do
  let (negative, rest) := readSign '-' text
  let (whole, rest) ← readDigits? rest
  let (fraction, rest) ← readFraction? rest
  let (exponent, rest) ← readExponent? rest
  let magnitude : Int := Text.digitsValue (whole ++ fraction.getD [])
  let mantissa := if negative then -magnitude else magnitude
  let isWhole := fraction.isNone && exponent.isNone && fits64 mantissa
  if isWhole && !(negative && mantissa == 0) then return (int mantissa, rest)
  else return (decimal mantissa (exponent.getD 0 - (fraction.getD []).length), rest)

/-! ### Values -/

/-- Takes off a word. -/
def readWord? (word : String) (value : Json) (text : List Char) : Option (Json × List Char) :=
  if word.toList.isPrefixOf text then some (value, text.drop word.length) else none

mutual

/-- Reads a value. -/
def readWithin : Nat → List Char → Option (Json × List Char)
  | 0, _ => none
  | fuel + 1, text =>
      match skipBlanks text with
      | [] => none
      | '"' :: rest => (readString? rest).map fun (value, rest) => (string value, rest)
      | '[' :: rest =>
          match skipBlanks rest with
          | ']' :: rest => some (array [], rest)
          | rest => readItemsWithin fuel [] rest
      | '\x7b' :: rest =>
          match skipBlanks rest with
          | '\x7d' :: rest => some (object [], rest)
          | rest => readMembersWithin fuel [] rest
      | 'n' :: rest => readWord? "ull" null rest
      | 't' :: rest => readWord? "rue" (bool true) rest
      | 'f' :: rest => readWord? "alse" (bool false) rest
      | rest => readNumber? rest

/-- Reads the items of an array up to its end; those read so far come latest first. -/
def readItemsWithin : Nat → List Json → List Char → Option (Json × List Char)
  | 0, _, _ => none
  | fuel + 1, done, text =>
      match readWithin fuel text with
      | none => none
      | some (item, rest) =>
          match skipBlanks rest with
          | ',' :: rest => readItemsWithin fuel (item :: done) rest
          | ']' :: rest => some (array (item :: done).reverse, rest)
          | _ => none

/-- Reads the members of an object up to its end. Of two with the same key the later one
counts. -/
def readMembersWithin : Nat → List (String × Json) → List Char → Option (Json × List Char)
  | 0, _, _ => none
  | fuel + 1, done, text =>
      match skipBlanks text with
      | '"' :: rest =>
          match readString? rest with
          | none => none
          | some (key, rest) =>
              match skipBlanks rest with
              | ':' :: rest =>
                  match readWithin fuel rest with
                  | none => none
                  | some (value, rest) =>
                      let members := Keyed.insertEntry key value done
                      match skipBlanks rest with
                      | ',' :: rest => readMembersWithin fuel members rest
                      | '\x7d' :: rest => some (object members, rest)
                      | _ => none
              | _ => none
      | _ => none

end

/-- The value that a text is. Each step but the one into an item takes a character, so
twice the length bounds the steps. -/
def parse? (text : List Char) : Option Json :=
  match readWithin (2 * text.length + 2) text with
  | some (value, rest) => if (skipBlanks rest).isEmpty then some value else none
  | none => none

end SymbolJump.Json
