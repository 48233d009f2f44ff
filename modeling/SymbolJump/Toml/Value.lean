/-
The values of settings documents.
-/

import SymbolJump.Toml.Moment

namespace SymbolJump.Toml

inductive Value where
  | string (value : String)
  | integer (value : Int)
  | float (value : Float)
  | boolean (value : Bool)
  | moment (value : Moment)
  | array (items : List Value)
  | table (entries : List (String × Value))

namespace Value

instance : Inhabited Value := ⟨table []⟩

/-- The value under a key of a table. -/
def get? (value : Value) (key : String) : Option Value :=
  match value with
  | table entries => entries.lookup key
  | _ => none

def string? : Value → Option String
  | string value => some value
  | _ => none

/-- The name of an item: the string under the key `name`. -/
def name? (value : Value) : Option String :=
  (value.get? "name").bind string?

end Value

end SymbolJump.Toml
