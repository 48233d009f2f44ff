/-
Where Python binds a name: function and class statements, parameters,
assignment and loop targets, aliases, imports and assignment expressions.
-/

import SymbolJump.Definition.Rule

namespace SymbolJump.Definition.Python

open Pattern

/-- One character of a dotted name. -/
def dotted : Pattern :=
  chars (.union .word (.single '.'))

/-- Dotted names, a comma behind each. -/
def namesBefore : Pattern :=
  many (sequence [several dotted, blanks, char ',', blanks])

/-- Dotted names, a comma ahead of each. -/
def namesAfter : Pattern :=
  many (sequence [char ',', blanks, several dotted, blanks])

/-- An opening parenthesis that may stand before a target. -/
def maybeOpen : Pattern :=
  optional (sequence [char '(', blanks])

/-- The keyword of a function statement up to the name of the function. -/
def functionHead : Pattern :=
  sequence
    [start, blanks, optional (sequence [literal "async", gap]), literal "def", gap]

/-- An imported name may be given another one. -/
def maybeAlias : Pattern :=
  optional (sequence [gap, literal "as", gap, several (chars .word)])

/-- The end of the text or one of the listed characters. -/
def stopOr (characters : String) : Pattern :=
  alt (oneOf characters) stop

def functionRule : Rule :=
  { name := "def", before := some (sequence [functionHead, stop]) }

def classRule : Rule :=
  { name := "class", before := some (sequence [start, blanks, literal "class", gap, stop]) }

def parameterRule : Rule :=
  { name := "parameter"
    before := some (sequence
      [functionHead, several (chars .word), blanks, char '(',
       optional (sequence [many (noneOf ")"), char ',']), blanks,
       repeated (char '*') 0 (some 2), stop])
    after := some (sequence [start, blanks, stopOr ":=,)"]) }

def assignmentRule : Rule :=
  { name := "assignment"
    before := some (sequence
      [start, optional (sequence [many (chars .inLine), char ';']), blanks, namesBefore,
       maybeOpen, stop])
    after := some (sequence
      [start, blanks, namesAfter, optional (char ')'), blanks,
       optional (sequence [char ':', many (noneOf "=")]), char '=', alt (noneOf "=") stop]) }

def forRule : Rule :=
  { name := "for"
    before := some (sequence [edge, literal "for", gap, namesBefore, maybeOpen, stop])
    after := some (sequence
      [start, blanks, namesAfter, optional (char ')'), gap, literal "in", edge]) }

def aliasRule : Rule :=
  { name := "as", before := some (sequence [edge, literal "as", gap, stop]) }

def importRule : Rule :=
  { name := "import"
    before := some (sequence
      [start, blanks, literal "import", gap,
       many (sequence [several dotted, maybeAlias, blanks, char ',', blanks]), stop])
    after := some (sequence
      [start, optional (sequence [char '.', many dotted]), blanks, stopOr ",;#"]) }

def fromImportRule : Rule :=
  { name := "from-import"
    before := some (sequence
      [start, blanks, literal "from", gap, several dotted, gap, literal "import", gap,
       optional (char '('), blanks,
       many (sequence [several (chars .word), maybeAlias, blanks, char ',', blanks]), stop])
    after := some (sequence [start, blanks, stopOr ",);#"]) }

def walrusRule : Rule :=
  { name := "walrus", after := some (sequence [start, blanks, literal ":="]) }

def ruleSet : RuleSet :=
  { language := "python"
    lineComment := some ['#']
    rules :=
      [functionRule, classRule, parameterRule, assignmentRule, forRule, aliasRule, importRule,
       fromImportRule, walrusRule] }

end SymbolJump.Definition.Python
