/-
Rules that recognise where a name is defined.

A rule looks at the text before and after one occurrence of a name on its line
and decides whether the occurrence binds the name. Nothing is parsed. A rule
set is what one language has: its rules, tried in order, and the token that
begins a comment, behind which nothing defines.
-/

import SymbolJump.Pattern.Search

namespace SymbolJump.Definition

/-- One way of binding a name. A side without pattern accepts every text. -/
structure Rule where
  name : String
  before : Option Pattern := none
  after : Option Pattern := none
  deriving DecidableEq, Repr

def Rule.accepts (rule : Rule) (before after : List Char) : Bool :=
  rule.before.all (·.isMatch before) && rule.after.all (·.isMatch after)

/-- How far into a quoted string a reader is. -/
inductive Quoting where
  | outside
  | inside (mark : Char)
  | escaped (mark : Char)
  deriving DecidableEq, Repr

/-- Reads one character. Either quotation mark opens a string that the same mark closes, and
a backslash takes the meaning from the next character of a string. -/
def Quoting.read : Quoting → Char → Quoting
  | outside, c => if c = '"' ∨ c = '\'' then inside c else outside
  | inside mark, c => if c = '\\' then escaped mark else if c = mark then outside else inside mark
  | escaped mark, _ => inside mark

/-- Whether a comment token begins at some character of the text that is read outside of
strings. -/
def commentIn (token : List Char) : Quoting → List Char → Bool
  | _, [] => false
  | quoting, c :: rest =>
      (quoting = .outside && token.isPrefixOf (c :: rest)) ||
        commentIn token (quoting.read c) rest

/-- The rules of a language. -/
structure RuleSet where
  language : String
  lineComment : Option (List Char) := none
  rules : List Rule := []
  deriving DecidableEq, Repr

namespace RuleSet

/-- Whether the text before an occurrence puts it into a comment. -/
def isCommented (set : RuleSet) (before : List Char) : Bool :=
  set.lineComment.any fun token => commentIn token .outside before

/-- The rules that accept an occurrence, comments aside. -/
def accepting (set : RuleSet) (before after : List Char) : List Rule :=
  set.rules.filter (·.accepts before after)

/-- The first rule that makes the occurrence a definition. -/
def definitionRule? (set : RuleSet) (before after : List Char) : Option Rule :=
  if set.isCommented before then none
  else set.rules.find? (·.accepts before after)

end RuleSet

end SymbolJump.Definition
