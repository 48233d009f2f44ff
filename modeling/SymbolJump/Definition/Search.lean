/-
The closest preceding definition of a name.

The search looks at lines from the one it starts in back to the first, and at
the occurrences within a line from right to left, so it reports the definition
nearest to the place of use. Rules see a line up to its first CR or LF.
-/

import SymbolJump.Definition.Rule
import SymbolJump.Text.Token

namespace SymbolJump.Definition

open Text

/-- Whether the name stands whole at a column of a line and a rule makes that a
definition. -/
def definesAt (set : RuleSet) (name line : List Char) (column : Nat) : Bool :=
  let stop := column + name.length
  name.isPrefixOf (line.drop column) && standsWhole line ⟨column, stop⟩ &&
    (set.definitionRule? (line.take column) (line.drop stop)).isSome

/-- The last column below a limit where the line defines the name. -/
def lastColumn? (set : RuleSet) (name line : List Char) (limit : Nat) : Option Nat :=
  (List.range (min limit line.length)).reverse.find? (definesAt set name line)

/-- The last offset below a limit where one of the lines defines the name. Offsets and limit
count from the first of the lines. -/
def lastOffset? (set : RuleSet) (name : List Char) : List (List Char) → Nat → Option Nat
  | [], _ => none
  | line :: rest, limit =>
      match lastOffset? set name rest (limit - line.length) with
      | some offset => some (line.length + offset)
      | none => lastColumn? set name (cutLine line) limit

/-- The last definition of a token's name that begins before an offset. Only identifiers
have definitions. -/
def lastDefinition? (set : RuleSet) (text : List Char) (token : Token) (start : Nat) :
    Option Token :=
  if isIdentifier token.value then
    (lastOffset? set token.value (lines text) (min start text.length)).map fun offset =>
      ⟨token.value, offset⟩
  else none

end SymbolJump.Definition
