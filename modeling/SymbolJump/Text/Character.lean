/-
Character classes of program text.

Identifiers, blanks and line breaks follow the Unicode properties Alphabetic,
Numeric and White_Space. ASCII is decided by arithmetic on the code point and
everything past it by the property tables.
-/

import SymbolJump.Text.Alphabetic
import SymbolJump.Text.Decimal
import SymbolJump.Text.Mark
import SymbolJump.Text.Numeric

namespace SymbolJump.Text

/-- Letters and the signs that spell words with them. -/
def isAlphabetic (c : Char) : Bool :=
  if c.toNat < 0x80 then c.isAlpha else alphabeticRanges.holds c.toNat

/-- Digits and all other numbers. -/
def isNumeric (c : Char) : Bool :=
  if c.toNat < 0x80 then c.isDigit else numericRanges.holds c.toNat

/-- Decimal digits of any script. -/
def isDecimalDigit (c : Char) : Bool :=
  if c.toNat < 0x80 then c.isDigit else decimalRanges.holds c.toNat

/-- Punctuation that joins words, the underscore first of all. -/
def connectorRanges : Ranges :=
  [(0x5F, 0x5F), (0x203F, 0x2040), (0x2054, 0x2054), (0xFE33, 0xFE34), (0xFE4D, 0xFE4F),
   (0xFF3F, 0xFF3F)]

/-- The characters with the property White_Space. -/
def blankRanges : Ranges :=
  [(0x9, 0xD), (0x20, 0x20), (0x85, 0x85), (0xA0, 0xA0), (0x1680, 0x1680), (0x2000, 0x200A),
   (0x2028, 0x2029), (0x202F, 0x202F), (0x205F, 0x205F), (0x3000, 0x3000)]

/-- White space, line breaks included. -/
def isBlank (c : Char) : Bool :=
  blankRanges.holds c.toNat

/-- The characters that end a line: LF, VT, FF, CR, NEL and the two Unicode separators. -/
def isLineBreak (c : Char) : Bool :=
  (0xA ≤ c.toNat && c.toNat ≤ 0xD) || c.toNat == 0x85 || c.toNat == 0x2028 || c.toNat == 0x2029

/-- The characters an identifier is made of. -/
def isIdentifierChar (c : Char) : Bool :=
  isAlphabetic c || isNumeric c || c == '_'

/-- The characters an identifier may begin with. -/
def isIdentifierStart (c : Char) : Bool :=
  isAlphabetic c || c == '_'

/-- Word characters of search patterns: wider than identifier characters by marks, other
connectors and the two joiners, and narrower by the numbers that are neither digits nor
letters. -/
def isWordChar (c : Char) : Bool :=
  if c.toNat < 0x80 then c.isAlphanum || c == '_'
  else
    alphabeticRanges.holds c.toNat || markRanges.holds c.toNat ||
      decimalRanges.holds c.toNat || connectorRanges.holds c.toNat ||
      c.toNat == 0x200C || c.toNat == 0x200D

/-- What a character is to someone moving through text. -/
inductive Category where
  | blank
  | lineBreak
  | identifier
  | other
  deriving DecidableEq, Repr

/-- A line break counts as such although it is blank too. -/
def categorize (c : Char) : Category :=
  if isLineBreak c then .lineBreak
  else if isBlank c then .blank
  else if isIdentifierChar c then .identifier
  else .other

end SymbolJump.Text
