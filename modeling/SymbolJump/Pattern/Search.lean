/-
What a pattern matches.

The search keeps the set of places a match can have reached, as a decreasing
list of offsets. Each part of a pattern sends the places where it may begin to
the places where it may end, so no part is ever tried twice from one place and
the work stays polynomial whatever the pattern.
-/

import SymbolJump.Pattern.Basic

namespace SymbolJump

/-- Whether the anchor holds between the character before a place and the one after it. -/
def Anchor.holdsBetween (before after : Option Char) : Anchor → Bool
  | textStart => before.isNone
  | textEnd => after.isNone
  | lineStart => before.isNone || before == some '\n'
  | lineEnd => after.isNone || after == some '\n'
  | wordBoundary => before.any Text.isWordChar != after.any Text.isWordChar
  | wordInside => before.any Text.isWordChar == after.any Text.isWordChar
  | wordStart => !before.any Text.isWordChar && after.any Text.isWordChar
  | wordEnd => before.any Text.isWordChar && !after.any Text.isWordChar
  | wordAfter => !before.any Text.isWordChar
  | wordBefore => !after.any Text.isWordChar

namespace Pattern

/-- The places of two decreasing lists, each once. -/
def mergePlaces : List Nat → List Nat → List Nat
  | [], right => right
  | left, [] => left
  | first :: left, second :: right =>
      if second < first then first :: mergePlaces left (second :: right)
      else if first < second then second :: mergePlaces (first :: left) right
      else first :: mergePlaces left right
termination_by left right => left.length + right.length

/-- The places of the first decreasing list that the second lacks. -/
def newPlaces : List Nat → List Nat → List Nat
  | [], _ => []
  | places, [] => places
  | first :: places, second :: known =>
      if second < first then first :: newPlaces places (second :: known)
      else if first < second then newPlaces (first :: places) known
      else newPlaces places (second :: known)
termination_by places known => places.length + known.length

/-- All places within a number of steps of the known ones, given those not yet stepped
from. -/
def spread (step : List Nat → List Nat) : Nat → List Nat → List Nat → List Nat
  | 0, _, known => known
  | fuel + 1, recent, known =>
      match newPlaces (step recent) known with
      | [] => known
      | fresh => spread step fuel fresh (mergePlaces fresh known)

/-- The places after an exact number of steps. -/
def advance (step : List Nat → List Nat) : Nat → List Nat → List Nat
  | 0, places => places
  | count + 1, places => if places.isEmpty then [] else advance step count (step places)

/-- The character before a place. -/
def charBefore (text : Array Char) (place : Nat) : Option Char :=
  if place = 0 then none else text[place - 1]?

/-- The places where the pattern can end when it begins at one of the given places. A
repetition without upper limit needs no more rounds than the text has characters, since a
round that consumes nothing reaches no new place. -/
def ends (text : Array Char) : Pattern → List Nat → List Nat
  | empty, places => places
  | chars set, places =>
      places.filterMap fun place =>
        if (text[place]?).any set.holds then some (place + 1) else none
  | assertion anchor, places =>
      places.filter fun place => anchor.holdsBetween (charBefore text place) text[place]?
  | seq left right, places => ends text right (ends text left places)
  | alt left right, places => mergePlaces (ends text left places) (ends text right places)
  | repeated body least most, places =>
      let reached := advance (ends text body) least places
      let rounds :=
        match most with
        | none => text.size
        | some limit => limit - least
      spread (ends text body) rounds reached reached

/-- Whether the pattern matches somewhere in the text. -/
def isMatch (pattern : Pattern) (text : List Char) : Bool :=
  let characters := text.toArray
  let places := (List.range (characters.size + 1)).reverse
  !(pattern.ends characters places).isEmpty

end Pattern

end SymbolJump
