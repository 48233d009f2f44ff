/-
Tokens: an identifier together with the offset it starts at.

Where no identifier touches a place, the token there is empty.
-/

import SymbolJump.Text.Identifier
import SymbolJump.Text.Position

namespace SymbolJump.Text

structure Token where
  value : List Char
  offset : Nat
  deriving DecidableEq, Repr

namespace Token

def isEmpty (token : Token) : Bool :=
  token.value.isEmpty

def length (token : Token) : Nat :=
  token.value.length

/-- The offset behind the last character. -/
def stop (token : Token) : Nat :=
  token.offset + token.length

end Token

/-- The identifier that touches an offset, or an empty token there. -/
def tokenAt (text : List Char) (offset : Nat) : Token :=
  match identifierSpan? text offset with
  | some span => ⟨(text.drop span.start).take (span.stop - span.start), span.start⟩
  | none => ⟨[], min offset text.length⟩

/-- The token at a position. -/
def tokenAtPosition (text : List Char) (position : Position) : Token :=
  tokenAt text (offsetAt text position)

end SymbolJump.Text
