/-
Messages between an editor and a language server.

A message is a request, a notification or a response. Reading tries these in
that order: what has an id and a method is a request, what has only a method is
a notification, and what has only an id is a response. Records are read from
objects or from arrays of all their fields, and unknown keys are ignored.
-/

import SymbolJump.Json
import SymbolJump.Text.Numeral

namespace SymbolJump.Server

/-- What ties a response to its request. -/
inductive MessageId where
  | null
  | number (value : UInt64)
  | name (value : String)
  deriving DecidableEq, Repr

namespace MessageId

/-- The number of an id; a name counts when it is a numeral. -/
def number? : MessageId → Option Nat
  | null => none
  | number value => some value.toNat
  | name value => Text.numeral64? value.toList

def decode? : Json → Option MessageId
  | .null => some null
  | .string value => some (name value)
  | json => (json.natBelow? Text.limit64).map fun value => number value.toUInt64

def encode : MessageId → Json
  | null => .null
  | number value => .nat value.toNat
  | name value => .string value

end MessageId

/-- The error of a response. -/
structure ResponseError where
  code : Int64
  message : String
  deriving DecidableEq, Repr

namespace ResponseError

def decode? (json : Json) : Option ResponseError := do
  match ← json.fields? ["code", "message"] with
  | [some code, some message] => return ⟨← code.int64?, ← message.string?⟩
  | _ => none

def encode (error : ResponseError) : Json :=
  .object [("code", .int error.code.toInt), ("message", .string error.message)]

end ResponseError

inductive Message where
  | request (id : MessageId) (method : String) (params : Option Json)
  | notification (method : String) (params : Option Json)
  | response (id : MessageId) (result : Option Json) (error : Option ResponseError)

namespace Message

def method? : Message → Option String
  | request _ method _ => some method
  | notification method _ => some method
  | response .. => none

/-- The version every message carries. -/
def version : String := "2.0"

/-- A version may be left out, and may be written as the only key of an object with null
under it. -/
def isVersion : Option Json → Bool
  | none => true
  | some (.string value) => value == version
  | some (.object [(key, .null)]) => key == version
  | some _ => false

def decodeRequest? (json : Json) : Option Message := do
  match ← json.fields? ["jsonrpc", "id", "method", "params"] with
  | [declared, some id, some method, params] =>
      if isVersion declared then
        return request (← MessageId.decode? id) (← method.string?) (Json.optional params)
      else none
  | _ => none

def decodeNotification? (json : Json) : Option Message := do
  match ← json.fields? ["jsonrpc", "method", "params"] with
  | [declared, some method, params] =>
      if isVersion declared then
        return notification (← method.string?) (Json.optional params)
      else none
  | _ => none

def decodeResponse? (json : Json) : Option Message := do
  match ← json.fields? ["jsonrpc", "id", "result", "error"] with
  | [declared, some id, result, error] =>
      if isVersion declared then
        let id ← MessageId.decode? id
        match Json.optional error with
        | none => return response id (Json.optional result) none
        | some error =>
            return response id (Json.optional result) (some (← ResponseError.decode? error))
      else none
  | _ => none

/-- Reads a message: as a request if it can be one, then as a notification, then as a
response. -/
def decode? (json : Json) : Option Message :=
  (decodeRequest? json).or ((decodeNotification? json).or (decodeResponse? json))

/-- A member that is left out when it is absent. -/
def member (key : String) : Option Json → List (String × Json)
  | none => []
  | some value => [(key, value)]

def encode : Message → Json
  | request id method params =>
      .object
        ([("jsonrpc", .string version), ("id", id.encode), ("method", .string method)] ++
          member "params" params)
  | notification method params =>
      .object
        ([("jsonrpc", .string version), ("method", .string method)] ++ member "params" params)
  | response id result error =>
      .object
        ([("jsonrpc", .string version), ("id", id.encode)] ++ member "result" result ++
          member "error" (error.map ResponseError.encode))

end Message

end SymbolJump.Server
