/-
Search patterns: what a pattern is made of.

A pattern describes stretches of text: characters of a set, sequences, choices,
repetitions, and anchors that hold at a place between two characters. This
module has the syntax tree and names for the patterns that rules are built
from; what a pattern matches is the matter of the search module.
-/

import SymbolJump.Text.Character

namespace SymbolJump

/-- A set of characters. -/
inductive CharSet where
  | range (first last : Nat)
  | word
  | blank
  | digit
  | union (left right : CharSet)
  | inter (left right : CharSet)
  | complement (set : CharSet)
  deriving DecidableEq, Repr

namespace CharSet

def holds : CharSet → Char → Bool
  | range first last, c => first ≤ c.toNat && c.toNat ≤ last
  | word, c => Text.isWordChar c
  | blank, c => Text.isBlank c
  | digit, c => Text.isDecimalDigit c
  | union left right, c => left.holds c || right.holds c
  | inter left right, c => left.holds c && right.holds c
  | complement set, c => !set.holds c

def single (c : Char) : CharSet :=
  range c.toNat c.toNat

/-- The set without characters. -/
def nothing : CharSet :=
  range 1 0

def anyOf (sets : List CharSet) : CharSet :=
  match sets with
  | [] => nothing
  | first :: rest => rest.foldl union first

/-- The listed characters. -/
def listed (characters : String) : CharSet :=
  anyOf (characters.toList.map single)

def diff (left right : CharSet) : CharSet :=
  inter left (complement right)

/-- The characters in exactly one of two sets. -/
def symmDiff (left right : CharSet) : CharSet :=
  union (diff left right) (diff right left)

/-- Every character but the line feed. -/
def inLine : CharSet :=
  complement (single '\n')

end CharSet

/-- A condition on the place between two neighbouring characters. -/
inductive Anchor where
  | textStart
  | textEnd
  | lineStart
  | lineEnd
  | wordBoundary
  | wordInside
  | wordStart
  | wordEnd
  | wordAfter
  | wordBefore
  deriving DecidableEq, Repr

/-- A search pattern. -/
inductive Pattern where
  | empty
  | chars (set : CharSet)
  | assertion (anchor : Anchor)
  | seq (left right : Pattern)
  | alt (left right : Pattern)
  | repeated (body : Pattern) (least : Nat) (most : Option Nat)
  deriving DecidableEq, Repr

namespace Pattern

def sequence (parts : List Pattern) : Pattern :=
  match parts with
  | [] => empty
  | first :: rest => rest.foldl seq first

def choice (branches : List Pattern) : Pattern :=
  match branches with
  | [] => chars CharSet.nothing
  | first :: rest => rest.foldl alt first

/-- Any number of times. -/
def many (body : Pattern) : Pattern :=
  repeated body 0 none

/-- At least once. -/
def several (body : Pattern) : Pattern :=
  repeated body 1 none

/-- At most once. -/
def optional (body : Pattern) : Pattern :=
  repeated body 0 (some 1)

/-- One character. -/
def char (c : Char) : Pattern :=
  chars (CharSet.single c)

/-- One of the listed characters. -/
def oneOf (characters : String) : Pattern :=
  chars (CharSet.listed characters)

/-- One character that is not listed. -/
def noneOf (characters : String) : Pattern :=
  chars (CharSet.complement (CharSet.listed characters))

/-- The characters of a word, one after the other. -/
def literal (text : String) : Pattern :=
  sequence (text.toList.map char)

/-- White space, possibly none. -/
def blanks : Pattern :=
  many (chars CharSet.blank)

/-- White space, at least one character. -/
def gap : Pattern :=
  several (chars CharSet.blank)

/-- The beginning of the text. -/
def start : Pattern :=
  assertion .textStart

/-- The end of the text. -/
def stop : Pattern :=
  assertion .textEnd

/-- An edge of a word. -/
def edge : Pattern :=
  assertion .wordBoundary

end Pattern

end SymbolJump
