/-
Laying one document over another.

Down to a given depth tables are merged key by key, and the items of arrays by
their names: an item takes the place of its first namesake, which moves to the
end, and an item without one is added. Below that depth, and wherever the
shapes differ, the value on top counts.
-/

import SymbolJump.Keyed
import SymbolJump.Toml.Value

namespace SymbolJump.Toml

/-- Takes the first item of a name out of a list. -/
def takeNamed? (name : String) : List Value → Option (Value × List Value)
  | [] => none
  | item :: rest =>
      if item.name? = some name then some (item, rest)
      else (takeNamed? name rest).map fun (found, others) => (found, item :: others)

/-- Lays an item over a list of items. -/
def mergeItem (combine : Value → Value → Value) (items : List Value) (item : Value) :
    List Value :=
  match item.name?.bind fun name => takeNamed? name items with
  | some (found, others) => others ++ [combine found item]
  | none => items ++ [item]

/-- Lays an entry over the entries of a table. -/
def mergeEntry (combine : Value → Value → Value) (entries : List (String × Value))
    (entry : String × Value) : List (String × Value) :=
  match entries.lookup entry.1 with
  | some found => Keyed.insertEntry entry.1 (combine found entry.2) entries
  | none => Keyed.insertEntry entry.1 entry.2 entries

/-- Lays the second value over the first. -/
def merge : Nat → Value → Value → Value
  | depth + 1, .array lower, .array upper => .array (upper.foldl (mergeItem (merge depth)) lower)
  | depth + 1, .table lower, .table upper => .table (upper.foldl (mergeEntry (merge depth)) lower)
  | _, _, upper => upper

end SymbolJump.Toml
