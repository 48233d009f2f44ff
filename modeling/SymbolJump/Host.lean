/-
The host application, which opens documents on request.

How the host decides is not known here. Whether it shows a document may depend
on the whole request and on everything it was asked before, so it can open some
documents and refuse others, or the same one later. It is free in the reason
that it gives as well. Beside its answers stands the log of what it was asked.
-/

import SymbolJump.Text.Position
import SymbolJump.Uri.Document

namespace SymbolJump

/-- A wish to see a document with the caret at a position. -/
structure OpenRequest where
  path : String
  editorIndex : Nat
  position : Text.Position
  deriving DecidableEq, Repr

/-- Why a document is not shown. -/
inductive HostError where
  | notFound (path : String)
  | rejected (path reason : String)
  deriving DecidableEq, Repr

def HostError.message : HostError → String
  | .notFound path => "document not found: " ++ path
  | .rejected path reason => "host refused to open " ++ path ++ ": " ++ reason

/-- A request with its answer; there is no error if the document is shown. -/
structure Asked where
  request : OpenRequest
  error : Option HostError
  deriving DecidableEq, Repr

structure Host where
  /-- The answer to a request, after the requests before it. -/
  answer : List OpenRequest → OpenRequest → Option HostError := fun _ _ => none
  log : List Asked := []

/-- All that the host was asked for, shown or not. -/
def Host.requests (host : Host) : List OpenRequest :=
  host.log.map (·.request)

/-- Asks the host for a document; says whether it is shown. -/
def Host.present (host : Host) (request : OpenRequest) : Bool × Host :=
  let error := host.answer host.requests request
  (error.isNone, { host with log := host.log ++ [⟨request, error⟩] })

/-- A place that may lie in another document. -/
structure OutsideTarget where
  uri : String
  editorIndex : Nat := 0
  position : Text.Position
  deriving DecidableEq, Repr

/-- The request for an outside place; a linked one is addressed below the marker
directory. -/
def OutsideTarget.request (target : OutsideTarget) (linked : Bool) : OpenRequest :=
  { path := if linked then Uri.externalReference target.uri else target.uri
    editorIndex := target.editorIndex
    position := target.position }

end SymbolJump
