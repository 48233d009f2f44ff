/-
Where a jump leads.

A search by name finds a token, while a caret that was saved and an answer of a
language server are positions; a destination keeps the form it came in and is
turned into a caret only in the text it is applied to. In a notebook it also
says which cell it means.
-/

import SymbolJump.Text.Token

namespace SymbolJump

open Text

/-- How a destination gives its place in the text. -/
inductive Place where
  | token (token : Token)
  | position (position : Position)
  deriving DecidableEq, Repr

/-- A place to go to. The editor's id counts before the number of the cell, so that a
destination follows its cell when others come or go. -/
structure Destination where
  place : Place
  cell : Option Nat := none
  editor : Option String := none
  deriving DecidableEq, Repr

namespace Destination

def ofToken (token : Token) : Destination :=
  { place := .token token }

def ofPosition (position : Position) : Destination :=
  { place := .position position }

def inCell (destination : Destination) (cell : Nat) : Destination :=
  { destination with cell := some cell }

def inEditor (destination : Destination) (editor : String) : Destination :=
  { destination with editor := some editor }

/-- The caret of a destination in a text. -/
def caret (destination : Destination) (text : List Char) : Position :=
  match destination.place with
  | .token token => positionAt text token.offset
  | .position position => clamp text position

end Destination

/-- A token whose definition is wanted, and the cell it stands in; without a cell, the
active one is meant. -/
structure Usage where
  token : Token
  cell : Option Nat := none
  deriving DecidableEq, Repr

end SymbolJump
