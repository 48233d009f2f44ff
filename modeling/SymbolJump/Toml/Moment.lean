/-
Dates and times as settings write them.

A moment is a date, a time, or both, and only with both it may have an offset
from universal time. Seconds may be left out. Its text is canonical: a `T`
stands between date and time, and a fraction has no zeros at its end.
-/

import SymbolJump.Text.Numeral

namespace SymbolJump.Toml

structure Date where
  year : Nat
  month : Nat
  day : Nat
  deriving DecidableEq, Repr

structure Time where
  hour : Nat
  minute : Nat
  second : Nat := 0
  nanosecond : Nat := 0
  deriving DecidableEq, Repr

/-- The distance from universal time. -/
inductive Offset where
  | zulu
  | minutes (value : Int)
  deriving DecidableEq, Repr

inductive Moment where
  | day (date : Date)
  | clock (time : Time)
  | instant (date : Date) (time : Time) (offset : Option Offset)
  deriving DecidableEq, Repr

/-! ### Text -/

/-- A numeral filled up with zeros to a width. -/
def padded (width value : Nat) : List Char :=
  let digits := Text.numeral value
  List.replicate (width - digits.length) '0' ++ digits

def Date.text (date : Date) : List Char :=
  padded 4 date.year ++ '-' :: padded 2 date.month ++ '-' :: padded 2 date.day

def Time.text (time : Time) : List Char :=
  let fraction :=
    if time.nanosecond = 0 then []
    else '.' :: ((padded 9 time.nanosecond).reverse.dropWhile (· == '0')).reverse
  padded 2 time.hour ++ ':' :: padded 2 time.minute ++ ':' :: padded 2 time.second ++ fraction

def Offset.text : Offset → List Char
  | zulu => ['Z']
  | minutes value =>
      (if value < 0 then '-' else '+') :: padded 2 (value.natAbs / 60) ++
        ':' :: padded 2 (value.natAbs % 60)

def Moment.text : Moment → List Char
  | day date => date.text
  | clock time => time.text
  | instant date time offset =>
      date.text ++ 'T' :: time.text ++ ((offset.map Offset.text).getD [])

/-! ### Reading -/

/-- The number of exactly so many digits, and what follows. -/
def readCount? (count : Nat) (text : List Char) : Option (Nat × List Char) :=
  let digits := text.take count
  if digits.length = count ∧ digits.all Char.isDigit then
    some (Text.digitsValue digits, text.drop count)
  else none

/-- Takes off one character. -/
def readMark? (mark : Char) (text : List Char) : Option (List Char) :=
  if text.head? = some mark then some (text.drop 1) else none

def isLeapYear (year : Nat) : Bool :=
  year % 4 == 0 && (year % 100 != 0 || year % 400 == 0)

def daysOfMonth (year month : Nat) : Nat :=
  if month = 2 then if isLeapYear year then 29 else 28
  else if month = 4 ∨ month = 6 ∨ month = 9 ∨ month = 11 then 30
  else 31

def readDate? (text : List Char) : Option (Date × List Char) := do
  let (year, rest) ← readCount? 4 text
  let (month, rest) ← readCount? 2 (← readMark? '-' rest)
  let (day, rest) ← readCount? 2 (← readMark? '-' rest)
  if 1 ≤ month ∧ month ≤ 12 ∧ 1 ≤ day ∧ day ≤ daysOfMonth year month then
    return (⟨year, month, day⟩, rest)
  else none

/-- The nanoseconds of a fraction, if there is one. Digits past the ninth are dropped. -/
def readNanoseconds? (text : List Char) : Option (Nat × List Char) :=
  match readMark? '.' text with
  | none => some (0, text)
  | some rest =>
      let digits := rest.takeWhile Char.isDigit
      let kept := digits.take 9
      if digits.isEmpty then none
      else some (Text.digitsValue kept * Nat.pow 10 (9 - kept.length), rest.drop digits.length)

/-- The seconds with their fraction, if they are there. A leap second counts. -/
def readSeconds? (text : List Char) : Option ((Nat × Nat) × List Char) :=
  match readMark? ':' text with
  | none => some ((0, 0), text)
  | some rest => do
      let (second, rest) ← readCount? 2 rest
      let (nanosecond, rest) ← readNanoseconds? rest
      if second ≤ 60 then return ((second, nanosecond), rest) else none

def readTime? (text : List Char) : Option (Time × List Char) := do
  let (hour, rest) ← readCount? 2 text
  let (minute, rest) ← readCount? 2 (← readMark? ':' rest)
  let ((second, nanosecond), rest) ← readSeconds? rest
  if hour ≤ 23 ∧ minute ≤ 59 then return (⟨hour, minute, second, nanosecond⟩, rest) else none

def readOffset? (text : List Char) : Option (Option Offset × List Char) :=
  match text with
  | [] => some (none, [])
  | sign :: rest =>
      if sign = 'Z' ∨ sign = 'z' then some (some .zulu, rest)
      else if sign = '+' ∨ sign = '-' then do
        let (hour, rest) ← readCount? 2 rest
        let (minute, rest) ← readCount? 2 (← readMark? ':' rest)
        let total : Int := 60 * hour + minute
        if hour ≤ 23 ∧ minute ≤ 59 then
          return (some (.minutes (if sign = '-' then -total else total)), rest)
        else none
      else none

/-- Reads the time behind a date. -/
def readTimed? (date : Date) (text : List Char) : Option Moment := do
  let (time, rest) ← readTime? text
  let (offset, rest) ← readOffset? rest
  if rest.isEmpty then return .instant date time offset else none

/-- The moment that a text is. Date and time are parted by a `T` or by one blank. -/
def Moment.read? (text : List Char) : Option Moment :=
  match readDate? text with
  | some (date, []) => some (.day date)
  | some (date, mark :: rest) =>
      if mark = 'T' ∨ mark = 't' ∨ mark = ' ' then readTimed? date rest else none
  | none =>
      match readTime? text with
      | some (time, []) => some (.clock time)
      | _ => none

end SymbolJump.Toml
