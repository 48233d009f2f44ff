/-
Identifiers inside program text.

Offsets count characters. The identifier at an offset is the maximal run of
identifier characters that touches it, and a run stands whole when neither of
its neighbours could extend it.
-/

import SymbolJump.Text.Character

namespace SymbolJump.Text

/-- A start character followed by identifier characters. -/
def isIdentifier : List Char → Bool
  | [] => false
  | first :: rest => isIdentifierStart first && rest.all isIdentifierChar

/-- A half-open stretch of text. -/
structure Span where
  start : Nat
  stop : Nat
  deriving DecidableEq, Repr

/-- Whether the character at an offset exists and belongs to identifiers. -/
def identifierAt (text : List Char) (offset : Nat) : Bool :=
  (text[offset]?).any isIdentifierChar

/-- The offset from which a run is grown: the character at the offset if it belongs to
identifiers, otherwise the one before it. -/
def seedAt (text : List Char) (offset : Nat) : Option Nat :=
  if identifierAt text offset then some offset
  else if 0 < offset && identifierAt text (offset - 1) then some (offset - 1)
  else none

/-- The run of identifier characters that touches an offset; an offset past the end counts
as the end. -/
def identifierSpan? (text : List Char) (offset : Nat) : Option Span :=
  (seedAt text (min offset text.length)).map fun seed =>
    let before := (text.take seed).reverse.takeWhile isIdentifierChar
    let after := (text.drop seed).takeWhile isIdentifierChar
    { start := seed - before.length, stop := seed + after.length }

/-- Whether the stretch has no identifier character at either side. The character before it
has to exist: a start further than one past the end has none to look at, and the answer is
absent. -/
def standsWhole? (text : List Char) (span : Span) : Option Bool :=
  let right := !identifierAt text span.stop
  if span.start = 0 then some right
  else (text[span.start - 1]?).map fun left => !isIdentifierChar left && right

/-- The form of `standsWhole?` for stretches known to lie inside the text. -/
def standsWhole (text : List Char) (span : Span) : Bool :=
  (span.start == 0 || !identifierAt text (span.start - 1)) && !identifierAt text span.stop

end SymbolJump.Text
