/-
Unsigned decimal numerals: an optional plus sign and ASCII digits.
-/

namespace SymbolJump.Text

/-- The first number past 32 bits. -/
def limit32 : Nat := 0x100000000

/-- The first number past 64 bits. -/
def limit64 : Nat := 0x10000000000000000

/-- The number that digits write. -/
def digitsValue (digits : List Char) : Nat :=
  digits.foldl (fun value digit => 10 * value + (digit.toNat - '0'.toNat)) 0

/-- The number a numeral writes, if it is one and below the limit. -/
def numeralBelow? (limit : Nat) (text : List Char) : Option Nat :=
  let digits :=
    match text with
    | '+' :: rest => rest
    | _ => text
  if digits.isEmpty || !digits.all Char.isDigit then none
  else if digitsValue digits < limit then some (digitsValue digits)
  else none

/-- A numeral of 64 bits. -/
def numeral64? (text : List Char) : Option Nat :=
  numeralBelow? limit64 text

/-- The decimal numeral of a number. -/
def numeral (value : Nat) : List Char :=
  Nat.toDigits 10 value

/-- A number is read back from its numeral. -/
theorem numeralBelow?_numeral {limit value : Nat} (below : value < limit) :
    numeralBelow? limit (numeral value) = some value := by
  have allDigits : (numeral value).all Char.isDigit = true := by
    rw [List.all_eq_true]
    intro digit member
    exact Nat.isDigit_of_mem_toDigits (by decide) (by decide) member
  have isValue : digitsValue (numeral value) = value := Nat.ofDigitChars_ten_toDigits
  cases isNumeral : numeral value with
  | nil => exact absurd isNumeral Nat.toDigits_ne_nil
  | cons digit rest =>
      have notPlus : digit ≠ '+' := by
        rintro rfl
        rw [isNumeral] at allDigits
        exact absurd allDigits (by simp)
      rw [isNumeral] at allDigits isValue
      have unsigned : numeralBelow? limit (digit :: rest) =
          if (digit :: rest).isEmpty || !(digit :: rest).all Char.isDigit then none
          else if digitsValue (digit :: rest) < limit then some (digitsValue (digit :: rest))
          else none := by
        unfold numeralBelow?
        split
        · next same => exact absurd (List.cons.inj same).1 notPlus
        · rfl
      rw [unsigned, allDigits, isValue, if_pos below]
      rfl

theorem numeral64?_numeral {value : Nat} (below : value < limit64) :
    numeral64? (numeral value) = some value :=
  numeralBelow?_numeral below

end SymbolJump.Text
