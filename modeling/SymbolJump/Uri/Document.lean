/-
The addresses of documents.

A document is known to a language server by a `file` address made from its
path. Addresses that come back are compared by meaning, and one that leads out
of the project is turned into a path below a marker directory, where the host
finds outside files.
-/

import SymbolJump.Path
import SymbolJump.Uri.Url

namespace SymbolJump.Uri

/-- What the address of a file begins with. -/
def fileScheme : List Char := "file://".toList

/-- The directory under which files outside of the project are addressed. -/
def externalMarker : List Char := ".lsp_symlink".toList

/-- Why a path has no address: it is relative. -/
inductive AddressError where
  | relative (path : Path)
  deriving Repr

def AddressError.message : AddressError → String
  | relative path => "unable to convert path to URL: " ++ String.ofList path

/-- The address of an absolute path, each component percent-encoded. -/
def ofPath (path : Path) : Except AddressError (List Char) :=
  if path.isAbsolute then
    match path.components.drop 1 with
    | [] => .ok (fileScheme ++ ['/'])
    | names => .ok (fileScheme ++ names.flatMap fun name => '/' :: encode inSegment name)
  else .error (.relative path)

/-- The components of a path between slashes, separators left out. -/
def slashPath (path : Path) : List Char :=
  List.intercalate ['/'] (path.components.filter fun name => name ≠ ['/'] && name ≠ ['\\'])

/-- The address under which a server knows a document. A relative path is appended as it
is, and the server resolves it. -/
def documentUri (path : Path) : String :=
  match ofPath path with
  | .ok address => String.ofList address
  | .error _ => String.ofList (fileScheme ++ '/' :: slashPath path)

/-- The address without one leading file scheme. -/
def stripFileScheme (uri : String) : String :=
  let text := uri.toList
  if fileScheme.isPrefixOf text then String.ofList (text.drop fileScheme.length) else uri

/-- The path of an outside file below the marker directory. One leading slash is taken
off. -/
def externalReference (path : String) : String :=
  let text := path.toList
  let inner := if text.head? = some '/' then text.drop 1 else text
  String.ofList (externalMarker ++ '/' :: inner)

/-- Whether two addresses lead to the same document: they are spelled alike, or their
canonical texts are. -/
def sameDocument (left right : String) : Bool :=
  left == right ||
    match canonical? left, canonical? right with
    | some first, some second => first == second
    | _, _ => false

end SymbolJump.Uri
