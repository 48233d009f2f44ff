/-
Sets of code points written as increasing lists of closed ranges.

The tables of character properties are values of this type. A lookup walks the
list and stops at the first range that ends at or after the code point.
-/

namespace SymbolJump.Text

/-- Closed ranges of code points, in increasing order and without overlap. -/
abbrev Ranges := List (Nat × Nat)

/-- Whether one of the ranges holds the code point. -/
def Ranges.holds : Ranges → Nat → Bool
  | [], _ => false
  | (first, last) :: rest, code =>
      if code ≤ last then first ≤ code else Ranges.holds rest code

end SymbolJump.Text
