/-
Writing JSON text.

The text is printable ASCII without blanks between values; every other
character of a string is escaped, one past 16 bits as a pair.
-/

import SymbolJump.Json
import SymbolJump.Text.Numeral

namespace SymbolJump.Json

/-- Four hexadecimal digits. -/
def unitText (unit : Nat) : String :=
  String.ofList (((Nat.toDigits 16 (0x10000 + unit)).drop 1))

def escape (c : Char) : String :=
  if c = '"' then "\\\""
  else if c = '\\' then "\\\\"
  else if 0x20 ≤ c.toNat ∧ c.toNat < 0x7F then String.singleton c
  else if c.toNat < 0x10000 then "\\u" ++ unitText c.toNat
  else
    let rest := c.toNat - 0x10000
    "\\u" ++ unitText (0xD800 + rest / 0x400) ++ "\\u" ++ unitText (0xDC00 + rest % 0x400)

def quote (text : String) : String :=
  "\"" ++ text.foldl (fun done c => done ++ escape c) "" ++ "\""

def intText (value : Int) : String :=
  (if value < 0 then "-" else "") ++ String.ofList (Text.numeral value.natAbs)

mutual

def print : Json → String
  | null => "null"
  | bool value => if value then "true" else "false"
  | int value => intText value
  | decimal mantissa exponent => intText mantissa ++ "e" ++ intText exponent
  | string value => quote value
  | array items => "[" ++ printItems items ++ "]"
  | object members => "\x7b" ++ printMembers members ++ "\x7d"

def printItems : List Json → String
  | [] => ""
  | [item] => print item
  | item :: rest => print item ++ "," ++ printItems rest

def printMembers : List (String × Json) → String
  | [] => ""
  | [(key, value)] => quote key ++ ":" ++ print value
  | (key, value) :: rest => quote key ++ ":" ++ print value ++ "," ++ printMembers rest

end

end SymbolJump.Json
