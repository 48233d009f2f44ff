/-
Where most languages bind a name: declarations by keyword and assignments at
the beginning of a line. This set serves every language without its own rules.
-/

import SymbolJump.Definition.Rule

namespace SymbolJump.Definition.Generic

open Pattern

def keywords : List String :=
  ["def", "class", "function", "fn", "let", "const", "var", "val", "struct", "enum", "trait",
   "type", "interface", "module", "mod"]

def declarationRule : Rule :=
  { name := "declaration"
    before := some (sequence
      [edge, choice (keywords.map literal), gap, optional (sequence [literal "mut", gap]), stop]) }

def assignmentRule : Rule :=
  { name := "assignment"
    before := some (sequence [start, blanks, stop])
    after := some (sequence
      [start, blanks, optional (sequence [char ':', many (noneOf "=")]), char '=',
       alt (noneOf "=>") stop]) }

def ruleSet : RuleSet :=
  { language := "generic", rules := [declarationRule, assignmentRule] }

end SymbolJump.Definition.Generic
