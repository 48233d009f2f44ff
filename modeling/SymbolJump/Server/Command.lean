/-
What can be asked of a language server, and what a server says it can do.
-/

import SymbolJump.Server.Location

namespace SymbolJump.Server

open Text

/-- A question about the symbol at a position. -/
inductive Command where
  | definition
  | typeDefinition
  | references
  deriving DecidableEq, Repr

namespace Command

def all : List Command := [definition, typeDefinition, references]

def id : Command → String
  | definition => "lsp_get_definition"
  | typeDefinition => "lsp_get_type_definition"
  | references => "lsp_get_references"

def label : Command → String
  | definition => "Jump to definition"
  | typeDefinition => "Highlight type definition"
  | references => "Highlight references"

/-- The method that asks the question. -/
def method : Command → String
  | definition => "textDocument/definition"
  | typeDefinition => "textDocument/typeDefinition"
  | references => "textDocument/references"

/-- The key under which a server says that it answers the question. -/
def provider : Command → String
  | definition => "definitionProvider"
  | typeDefinition => "typeDefinitionProvider"
  | references => "referencesProvider"

def ofId? (id : String) : Option Command :=
  all.find? (·.id == id)

/-- The parameters of the question; one for references includes the declaration. -/
def params (command : Command) (uri : String) (position : ServerPosition) : Json :=
  let place := [("textDocument", .object [("uri", .string uri)]),
    ("position", encodePosition position)]
  match command with
  | references =>
      .object (place ++ [("context", .object [("includeDeclaration", .bool true)])])
  | _ => .object place

end Command

/-- What a server announced, as it was sent. -/
structure Capabilities where
  raw : Json

namespace Capabilities

/-- The capabilities in the answer to the handshake. -/
def ofHandshake (result : Option Json) : Capabilities :=
  ⟨(result.bind (·.get? "capabilities")).getD .null⟩

/-- A feature is there unless its entry is missing, null or false. -/
def supports (capabilities : Capabilities) (command : Command) : Bool :=
  match capabilities.raw.get? command.provider with
  | none => false
  | some .null => false
  | some (.bool value) => value
  | some _ => true

/-- The number of questions the server answers. -/
def count (capabilities : Capabilities) : Nat :=
  (Command.all.filter capabilities.supports).length

end Capabilities

end SymbolJump.Server
