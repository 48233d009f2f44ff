/-
Languages and the rules chosen for them.

A language id comes from the content type of a document. Ids are compared
without regard to the case of ASCII letters, and a language nobody registered
rules for gets the generic ones.
-/

import SymbolJump.Definition.Generic
import SymbolJump.Definition.Python
import SymbolJump.Definition.RLang

namespace SymbolJump.Definition

/-- What content types of source code begin with. -/
def sourceTypePrefix : String := "text/x-"

/-- The part of a text behind a beginning it may have. -/
def withoutPrefix? (head text : List Char) : Option (List Char) :=
  if head.isPrefixOf text then some (text.drop head.length) else none

/-- The language of a content type: what stands behind the source prefix, where `rsrc` is
the old name of R. -/
def languageOfType (contentType : String) : String :=
  let characters := contentType.toList
  let language :=
    String.ofList ((withoutPrefix? sourceTypePrefix.toList characters).getD characters)
  if language = "rsrc" then "R" else language

/-- The content type of a language. -/
def typeOfLanguage (language : String) : String :=
  if language = "R" ∨ language = "r" then sourceTypePrefix ++ "rsrc"
  else sourceTypePrefix ++ language

/-- The form under which languages are compared. -/
def languageKey (language : String) : String :=
  String.ofList (language.toList.map Char.toLower)

/-- The registered rule sets, the latest first. -/
structure Registry where
  sets : List RuleSet
  deriving Repr

namespace Registry

/-- The languages that have rules from the start. -/
def standard : Registry :=
  { sets := [RLang.ruleSet, Python.ruleSet] }

/-- Adds a rule set, which takes the place of an earlier one for its language. -/
def register (registry : Registry) (set : RuleSet) : Registry :=
  { sets := set :: registry.sets }

def find? (registry : Registry) (language : String) : Option RuleSet :=
  registry.sets.find? fun set => languageKey set.language = languageKey language

def knows (registry : Registry) (language : String) : Bool :=
  (registry.find? language).isSome

/-- The rules for a language. -/
def rulesFor (registry : Registry) (language : String) : RuleSet :=
  (registry.find? language).getD Generic.ruleSet

end Registry

end SymbolJump.Definition
