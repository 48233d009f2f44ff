/-
Documents under construction.

A table remembers how it came about, because that decides what may be added to
it later: a table is headed once; one that only lies on the way to a headed
table may still be headed itself; one made by dotted keys takes dotted keys
only; a value that is written out is complete.
-/

import SymbolJump.Keyed
import SymbolJump.Toml.Value

namespace SymbolJump.Toml

/-- How a table came about. -/
inductive Origin where
  | headed
  | implied
  | dotted
  deriving DecidableEq, Repr

inductive Tree where
  | leaf (value : Value)
  | table (origin : Origin) (entries : List (String × Tree))
  /-- The tables under repeated headers. -/
  | tables (items : List (List (String × Tree)))

/-- A table under construction. -/
structure Branch where
  origin : Origin
  entries : List (String × Tree)

namespace Branch

def get? (branch : Branch) (key : String) : Option Tree :=
  branch.entries.lookup key

def insert (branch : Branch) (key : String) (tree : Tree) : Branch :=
  { branch with entries := Keyed.insertEntry key tree branch.entries }

/-- Changes the table at the end of a path, making those on the way that are missing. Of
repeated tables the last is meant. A dotted path does not pass a headed table. -/
def alter (dotted : Bool) (change : Branch → Option Branch) :
    List String → Branch → Option Branch
  | [], branch => change branch
  | key :: path, branch =>
      match branch.get? key with
      | none => do
          let fresh : Branch := ⟨if dotted then .dotted else .implied, []⟩
          let inner ← alter dotted change path fresh
          return branch.insert key (.table inner.origin inner.entries)
      | some (.table origin entries) =>
          if dotted && origin == .headed then none
          else do
            let inner ← alter dotted change path ⟨origin, entries⟩
            return branch.insert key (.table inner.origin inner.entries)
      | some (.tables items) =>
          match items.getLast? with
          | none => none
          | some entries => do
              let inner ← alter dotted change path ⟨.headed, entries⟩
              return branch.insert key (.tables (items.dropLast ++ [inner.entries]))
      | some (.leaf _) => none

/-- Puts a value under a dotted key. The table that takes it must have come about by such
keys exactly when the key is dotted. -/
def assign (path : List String) (key : String) (value : Value) : Branch → Option Branch :=
  alter true
    (fun branch =>
      if (branch.origin == .dotted) == path.isEmpty then none
      else if (branch.get? key).isSome then none
      else some (branch.insert key (.leaf value)))
    path

/-- Heads a table. -/
def head (path : List String) (key : String) : Branch → Option Branch :=
  alter false
    (fun branch =>
      match branch.get? key with
      | none => some (branch.insert key (.table .headed []))
      | some (.table .implied entries) => some (branch.insert key (.table .headed entries))
      | some _ => none)
    path

/-- Heads one more of repeated tables. -/
def headAgain (path : List String) (key : String) : Branch → Option Branch :=
  alter false
    (fun branch =>
      match branch.get? key with
      | none => some (branch.insert key (.tables [[]]))
      | some (.tables items) => some (branch.insert key (.tables (items ++ [[]])))
      | some _ => none)
    path

end Branch

mutual

/-- The value of a finished tree. -/
def Tree.toValue : Tree → Value
  | .leaf value => value
  | .table _ entries => .table (Tree.toEntries entries)
  | .tables items => .array (Tree.toItems items)

def Tree.toEntries : List (String × Tree) → List (String × Value)
  | [] => []
  | (key, tree) :: rest => (key, tree.toValue) :: Tree.toEntries rest

def Tree.toItems : List (List (String × Tree)) → List Value
  | [] => []
  | entries :: rest => .table (Tree.toEntries entries) :: Tree.toItems rest

end

/-- The value of a finished table. -/
def Branch.toValue (branch : Branch) : Value :=
  .table (Tree.toEntries branch.entries)

end SymbolJump.Toml
