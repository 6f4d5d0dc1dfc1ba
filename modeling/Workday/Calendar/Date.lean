import Workday.Text.Blank
import Workday.Text.Decimal

/-!
This module contains the days of the Gregorian calendar, extended to all years that are covered,
and the two ways in which a day is written: `2025-05-05` and `May 5, 2025`. A day is read from its
first form, with white space allowed around each number.
-/

namespace Workday

open Text

def isLeapYear (year : Int) : Bool :=
  year % 4 == 0 && (year % 100 != 0 || year % 400 == 0)

def daysInMonth (year : Int) (month : Nat) : Nat :=
  match month with
  | 1 | 3 | 5 | 7 | 8 | 10 | 12 => 31
  | 4 | 6 | 9 | 11 => 30
  | 2 => if isLeapYear year then 29 else 28
  | _ => 0

structure Date where
  year : Int
  month : Nat
  day : Nat
  year_ge : -262143 ≤ year
  year_le : year ≤ 262142
  day_pos : 0 < day
  day_le : day ≤ daysInMonth year month
  deriving DecidableEq

namespace Date

def of? (year : Int) (month day : Nat) : Option Date :=
  if h : (-262143 ≤ year ∧ year ≤ 262142) ∧ 0 < day ∧ day ≤ daysInMonth year month then
    some ⟨year, month, day, h.1.1, h.1.2, h.2.1, h.2.2⟩
  else
    none

inductive Malformed where
  | invalid
  | outOfRange
  | tooShort
  | tooLong
  deriving Repr, BEq, DecidableEq, Inhabited

namespace Malformed

def message : Malformed → String
  | invalid => "input contains invalid characters"
  | outOfRange => "input is out of range"
  | tooShort => "premature end of input"
  | tooLong => "trailing input"

end Malformed

/--
Read a number at the start of a text, of as many digits as there are or `width` at most. Numbers
that do not fit in 64 bits are out of range wherever they stand.
-/
def readNumber (width : Option Nat) (cs : List Char) : Except Malformed (Nat × List Char) :=
  match cs with
  | [] => .error .tooShort
  | c :: _ =>
    if c.isDigit then
      let number := ((width.elim cs cs.take)).takeWhile Char.isDigit
      if numberValue number < 9223372036854775808 then
        .ok (numberValue number, cs.drop number.length)
      else
        .error .outOfRange
    else
      .error .invalid

/--
Read a year after white space. With a sign it may have any number of digits, without one it has
four at most.
-/
def readYear (cs : List Char) : Except Malformed (Int × List Char) :=
  match trimStart cs with
  | '-' :: rest => (readNumber none rest).map fun (n, rest) => (-(n : Int), rest)
  | '+' :: rest => (readNumber none rest).map fun (n, rest) => ((n : Int), rest)
  | rest => (readNumber (some 4) rest).map fun (n, rest) => ((n : Int), rest)

/--
Read a number of one or two digits after white space. It lies between one and `last`.
-/
def readPart (last : Nat) (cs : List Char) : Except Malformed (Nat × List Char) := do
  let (n, rest) ← readNumber (some 2) (trimStart cs)
  if 1 ≤ n ∧ n ≤ last then .ok (n, rest) else .error .outOfRange

def readMark (cs : List Char) : Except Malformed (List Char) :=
  match trimStart cs with
  | [] => .error .tooShort
  | c :: rest => if c = '-' then .ok rest else .error .invalid

def parseChars (cs : List Char) : Except Malformed Date := do
  let (year, cs) ← readYear cs
  if year < -2147483648 ∨ 2147483648 ≤ year then
    .error .outOfRange
  let (month, cs) ← readPart 12 (← readMark cs)
  let (day, cs) ← readPart 31 (← readMark cs)
  if (trimStart cs).isEmpty then
    match of? year month day with
    | some date => .ok date
    | none => .error .outOfRange
  else
    .error .tooLong

def parse (text : String) : Except Malformed Date :=
  parseChars text.toList

/--
A year with four digits at least, and with a sign if it is negative or has more than four.
-/
def yearText (year : Int) : List Char :=
  let number := padStart '0' 4 (digits year.natAbs)
  if year < 0 then '-' :: number else if 9999 < year then '+' :: number else number

/--
The form `2025-05-05` of a day.
-/
def numeric (date : Date) : String :=
  String.ofList
    (yearText date.year ++ '-' :: twoDigits date.month ++ '-' :: twoDigits date.day)

def monthName : Nat → String
  | 1 => "January"
  | 2 => "February"
  | 3 => "March"
  | 4 => "April"
  | 5 => "May"
  | 6 => "June"
  | 7 => "July"
  | 8 => "August"
  | 9 => "September"
  | 10 => "October"
  | 11 => "November"
  | _ => "December"

/--
The form `May 5, 2025` of a day.
-/
def long (date : Date) : String :=
  monthName date.month ++ " " ++ String.ofList (digits date.day) ++ ", " ++
    String.ofList (yearText date.year)

end Date

end Workday
