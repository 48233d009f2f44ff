/-
The shortest decimal text of a binary floating-point number.

A finite number stands for all reals that round to it. Among the decimals of
least length in that interval the one nearest to the number is written, in
positional form without an exponent, and a whole number without a point.
-/

import SymbolJump.Text.Numeral

namespace SymbolJump.Decimal

/-- The number `digits * 10 ^ scale`. -/
structure Scaled where
  digits : Nat
  scale : Int
  deriving DecidableEq, Repr

/-- The number `significand * 2 ^ exponent` with the interval that rounds to it, all as
fractions of one denominator. -/
structure Interval where
  low : Nat
  value : Nat
  high : Nat
  denominator : Nat
  /-- Whether the ends round to the number too. -/
  closed : Bool
  deriving DecidableEq, Repr

namespace Interval

/-- The interval of a positive number. Below the least significand of a binade the
neighbour is only half as far. -/
def ofBinary (significand : Nat) (exponent : Int) (narrow : Bool) : Interval :=
  let step := Nat.pow 2 exponent.toNat
  { low := (4 * significand - (if narrow then 1 else 2)) * step
    value := 4 * significand * step
    high := (4 * significand + 2) * step
    denominator := 4 * Nat.pow 2 (-exponent).toNat
    closed := significand % 2 == 0 }

/-- The decimal place of the leading digit. -/
def leadingPlace (interval : Interval) : Int :=
  if interval.denominator ≤ interval.value then
    (Nat.toDigits 10 (interval.value / interval.denominator)).length - 1
  else
    let reaches (shift : Nat) : Bool := interval.denominator ≤ interval.value * Nat.pow 10 shift
    let shift : Nat := ((List.range 400).find? reaches).getD 0
    Int.negOfNat shift

/-- Whether a multiple of a grid lies in the interval; the grid is given as a fraction of
the denominator by the two factors. -/
def holds (interval : Interval) (grid shift multiple : Nat) : Bool :=
  let low := interval.low * shift
  let high := interval.high * shift
  let point := multiple * grid
  (low < point && point < high) || (interval.closed && (low == point || point == high))

/-- The nearest point of the grid with a given number of digits, if it lies in the
interval. -/
def pointWith? (interval : Interval) (count : Nat) : Option Scaled :=
  let scale := interval.leadingPlace + 1 - count
  let grid := interval.denominator * Nat.pow 10 scale.toNat
  let shift := Nat.pow 10 (-scale).toNat
  let target := interval.value * shift
  let below := target / grid
  let nearBelow := 2 * target < (2 * below + 1) * grid ||
    (2 * target == (2 * below + 1) * grid && below % 2 == 0)
  match interval.holds grid shift below, interval.holds grid shift (below + 1) with
  | true, true => some ⟨if nearBelow then below else below + 1, scale⟩
  | true, false => some ⟨below, scale⟩
  | false, true => some ⟨below + 1, scale⟩
  | false, false => none

/-- The decimal with the fewest digits; seventeen always suffice. -/
def shortest (interval : Interval) : Scaled :=
  ((List.range 17).findSome? fun count => interval.pointWith? (count + 1)).getD ⟨0, 0⟩

end Interval

/-- Drops zeros at the end. -/
def trimZeros (digits : List Char) : List Char :=
  (digits.reverse.dropWhile (· == '0')).reverse

/-- A scaled number in positional form. -/
def positional (number : Scaled) : List Char :=
  let digits := Text.numeral number.digits
  if 0 ≤ number.scale then digits ++ List.replicate number.scale.toNat '0'
  else
    let places := (-number.scale).toNat
    let padded := List.replicate (places + 1 - digits.length) '0' ++ digits
    let fraction := trimZeros (padded.drop (padded.length - places))
    let whole := padded.take (padded.length - places)
    if fraction.isEmpty then whole else whole ++ '.' :: fraction

/-- The least significand of a number of full precision. -/
def leastSignificand : Nat := 0x10000000000000

/-- The text of a number. -/
def text (value : Float) : String :=
  let bits := value.toBits.toNat
  let sign := if bits / 0x8000000000000000 % 2 = 1 then "-" else ""
  let field : Nat := bits / leastSignificand % 2048
  let fraction := bits % leastSignificand
  if field = 2047 then if fraction = 0 then sign ++ "inf" else "NaN"
  else if field = 0 ∧ fraction = 0 then sign ++ "0"
  else
    let interval :=
      if field = 0 then Interval.ofBinary fraction (-1074) false
      else Interval.ofBinary (leastSignificand + fraction) (Int.subNatNat field 1075) (fraction = 0 ∧ 1 < field)
    sign ++ String.ofList (positional interval.shortest)

end SymbolJump.Decimal
