/-
Percent-encoding of text in addresses.

A character that may not stand for itself is written as the bytes of its UTF-8
form, each as a percent sign and two upper-case hexadecimal digits. Which
characters those are depends on the part of the address.
-/

namespace SymbolJump.Uri

/-- The characters past ASCII and the control characters are encoded in every part. -/
def isControl (c : Char) : Bool :=
  c.toNat < 0x20 || 0x7E < c.toNat

def inFragment (c : Char) : Bool :=
  isControl c || " \"<>`".toList.contains c

def inQuery (c : Char) : Bool :=
  isControl c || " \"#<>".toList.contains c

def inSpecialQuery (c : Char) : Bool :=
  inQuery c || c == '\''

def inPath (c : Char) : Bool :=
  inFragment c || c == '#' || c == '?' || c == '{' || c == '}'

/-- The encoded characters of one path segment, which may not look like two. -/
def inSegment (c : Char) : Bool :=
  inPath c || c == '/' || c == '%' || c == '\\'

def inUserInfo (c : Char) : Bool :=
  inPath c || "/:;=@[\\]^|".toList.contains c

def hexDigit (value : Nat) : Char :=
  if value < 10 then Char.ofNat (0x30 + value) else Char.ofNat (0x41 + (value - 10))

/-- One byte as a triplet. -/
def triplet (byte : UInt8) : List Char :=
  ['%', hexDigit (byte.toNat / 16), hexDigit (byte.toNat % 16)]

/-- One character, encoded if it belongs to the set. -/
def encodeChar (encoded : Char → Bool) (c : Char) : List Char :=
  if encoded c then (String.utf8EncodeChar c).flatMap triplet else [c]

def encode (encoded : Char → Bool) (text : List Char) : List Char :=
  text.flatMap (encodeChar encoded)

def hexValue? (c : Char) : Option Nat :=
  if '0' ≤ c ∧ c ≤ '9' then some (c.toNat - 0x30)
  else if 'a' ≤ c ∧ c ≤ 'f' then some (c.toNat - 0x61 + 10)
  else if 'A' ≤ c ∧ c ≤ 'F' then some (c.toNat - 0x41 + 10)
  else none

/-- The byte written by two hexadecimal digits. -/
def byteOf? (high low : Char) : Option UInt8 := do
  return (16 * (← hexValue? high) + (← hexValue? low)).toUInt8

/-- The bytes of a text in which triplets stand for bytes. -/
def decodeBytes : List Char → List UInt8
  | '%' :: high :: low :: rest =>
      match byteOf? high low with
      | some byte => byte :: decodeBytes rest
      | none => '%'.toNat.toUInt8 :: decodeBytes (high :: low :: rest)
  | c :: rest => String.utf8EncodeChar c ++ decodeBytes rest
  | [] => []
termination_by text => text.length

/-- The text with its triplets decoded, if that is text. -/
def decode? (text : List Char) : Option (List Char) :=
  (String.fromUTF8? ⟨(decodeBytes text).toArray⟩).map String.toList

end SymbolJump.Uri
