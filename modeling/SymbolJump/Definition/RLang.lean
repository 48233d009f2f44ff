/-
Where R binds a name: assignments in both directions, loop variables,
parameters and attached packages.
-/

import SymbolJump.Definition.Rule

namespace SymbolJump.Definition.RLang

open Pattern

def assignmentRule : Rule :=
  { name := "assignment"
    before := some (sequence [start, blanks, stop])
    after := some (sequence
      [start, blanks,
       alt (sequence [char '<', optional (char '<'), char '-'])
         (sequence [char '=', alt (noneOf "=") stop])]) }

def rightAssignmentRule : Rule :=
  { name := "right-assignment"
    before := some (sequence [literal "->", optional (char '>'), blanks, stop])
    after := some (sequence [start, blanks, alt (oneOf ";#") stop]) }

def forRule : Rule :=
  { name := "for"
    before := some (sequence [edge, literal "for", blanks, char '(', blanks, stop])
    after := some (sequence [start, gap, literal "in", edge]) }

def parameterRule : Rule :=
  { name := "parameter"
    before := some (sequence
      [edge, literal "function", blanks, char '(',
       optional (sequence [many (noneOf ")"), char ',']), blanks, stop])
    after := some (sequence [start, blanks, alt (oneOf "=,)") stop]) }

def libraryRule : Rule :=
  { name := "library"
    before := some (sequence
      [edge, choice [literal "library", literal "require", literal "requireNamespace"], blanks,
       char '(', blanks, optional (oneOf "\"'"), stop])
    after := some (sequence [start, optional (oneOf "\"'"), blanks, oneOf ",)"]) }

def ruleSet : RuleSet :=
  { language := "r"
    lineComment := some ['#']
    rules := [assignmentRule, rightAssignmentRule, forRule, parameterRule, libraryRule] }

end SymbolJump.Definition.RLang
