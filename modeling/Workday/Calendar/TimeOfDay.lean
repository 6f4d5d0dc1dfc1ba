import Workday.Calendar.Date

/-!
This module contains times of day, down to the second and with a leap second, and their notation
`10:00:00`. A number may be read with one digit and after white space, but nothing may follow it.
-/

namespace Workday

open Text

/--
A time of day. The second 60 is a leap second, which may be inserted into any minute.
-/
structure TimeOfDay where
  hour : Nat
  minute : Nat
  second : Nat
  hour_lt : hour < 24
  minute_lt : minute < 60
  second_le : second ≤ 60
  deriving DecidableEq

namespace TimeOfDay

def of? (hour minute second : Nat) : Option TimeOfDay :=
  if h : hour < 24 ∧ minute < 60 ∧ second ≤ 60 then
    some ⟨hour, minute, second, h.1, h.2.1, h.2.2⟩
  else
    none

def readPart? (cs : List Char) : Option (Nat × List Char) :=
  let number := ((trimStart cs).take 2).takeWhile Char.isDigit
  if number.isEmpty then none else some (numberValue number, (trimStart cs).drop number.length)

def parseChars? (cs : List Char) : Option TimeOfDay := do
  let (hour, cs) ← readPart? cs
  let ':' :: cs := cs | none
  let (minute, cs) ← readPart? cs
  let ':' :: cs := cs | none
  let (second, cs) ← readPart? cs
  if cs.isEmpty then of? hour minute second else none

def parse? (text : String) : Option TimeOfDay :=
  parseChars? text.toList

def text (time : TimeOfDay) : String :=
  String.ofList
    (twoDigits time.hour ++ ':' :: twoDigits time.minute ++ ':' :: twoDigits time.second)

end TimeOfDay

structure Moment where
  date : Date
  time : TimeOfDay
  deriving DecidableEq

namespace Moment

def text (moment : Moment) : String :=
  moment.date.numeric ++ " " ++ moment.time.text

end Moment

end Workday
