/-
Locations in a server's answer.

An answer is one location, a list of locations, or a list of links; the first
item of a list decides which. A link gives its range twice, and the narrower
one counts if it is there. A list is read as a whole or not at all.
-/

import SymbolJump.Json
import SymbolJump.Text.Numeral
import SymbolJump.Text.Units16

namespace SymbolJump.Server

open Text

structure Range where
  start : ServerPosition
  stop : ServerPosition
  deriving DecidableEq, Repr

/-- A stretch of a document. -/
structure Location where
  uri : String
  range : Range
  deriving DecidableEq, Repr

/-- Why an answer gives no locations. -/
inductive LocationError where
  | shape
  | undecodable
  deriving DecidableEq, Repr

def LocationError.message : LocationError → String
  | shape => "invalid lsp navigation result shape"
  | undecodable => "failed to decode lsp navigation payload"

def encodePosition (position : ServerPosition) : Json :=
  .object [("line", .nat position.line.toNat), ("character", .nat position.character.toNat)]

def decodeNumber? (json : Json) : Option UInt32 :=
  (json.natBelow? limit32).map Nat.toUInt32

def decodePosition? (json : Json) : Option ServerPosition := do
  match ← json.fields? ["line", "character"] with
  | [some line, some character] => return ⟨← decodeNumber? line, ← decodeNumber? character⟩
  | _ => none

namespace Range

def encode (range : Range) : Json :=
  .object [("start", encodePosition range.start), ("end", encodePosition range.stop)]

def decode? (json : Json) : Option Range := do
  match ← json.fields? ["start", "end"] with
  | [some start, some stop] => return ⟨← decodePosition? start, ← decodePosition? stop⟩
  | _ => none

end Range

namespace Location

def encode (location : Location) : Json :=
  .object [("uri", .string location.uri), ("range", location.range.encode)]

def decode? (json : Json) : Option Location := do
  match ← json.fields? ["uri", "range"] with
  | [some uri, some range] => return ⟨← uri.string?, ← Range.decode? range⟩
  | _ => none

/-- Reads a link. Both ranges have to be sound when they are there. -/
def decodeLink? (json : Json) : Option Location := do
  match ← json.fields? ["targetUri", "targetSelectionRange", "targetRange"] with
  | [some uri, selection, some target] =>
      let uri ← uri.string?
      let target ← Range.decode? target
      match Json.optional selection with
      | none => return ⟨uri, target⟩
      | some selection => return ⟨uri, ← Range.decode? selection⟩
  | _ => none

/-- Whether an item is a link. -/
def isLink (item : Json) : Bool :=
  (item.get? "targetUri").isSome

/-- The locations of an answer. -/
def decodeAll : Option Json → Except LocationError (List Location)
  | none => .ok []
  | some .null => .ok []
  | some (.object members) =>
      match decode? (.object members) with
      | some location => .ok [location]
      | none => .error .undecodable
  | some (.array items) =>
      let decodeItem? := if items.head?.any isLink then decodeLink? else decode?
      match items.mapM decodeItem? with
      | some locations => .ok locations
      | none => .error .undecodable
  | some _ => .error .shape

end Location

end SymbolJump.Server
