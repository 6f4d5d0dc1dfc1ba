import Workday.Text.Decimal

/-!
This module contains the notation of durations, `3h30m`, `3h` or `30m`: reading a token as a
number of minutes and writing a number of minutes as a token. Minutes are counted in 32 bits, and
so is everything on the way to them: a duration that is too large for that does not exist.
-/

namespace Workday.Duration

open Workday.Text

def ofNat? (n : Nat) : Option UInt32 :=
  if n < UInt32.size then some (UInt32.ofNat n) else none

def pushDigit? (count : UInt32) (digit : Char) : Option UInt32 := do
  let tens ← ofNat? (10 * count.toNat)
  ofNat? (tens.toNat + (digit.toNat - '0'.toNat))

/--
Count what digits stand for, up to the first digit that makes the count too large.
-/
def ofDigits? (ds : List Char) : Option UInt32 :=
  ds.foldlM pushDigit? 0

def ofHours? (hours : UInt32) : Option UInt32 :=
  ofNat? (60 * hours.toNat)

/--
Read the characters of a duration: a number with `m`, a number with `h`, or a number with `h`
followed by a number with `m`.
-/
def parseChars? (cs : List Char) : Option UInt32 :=
  let first := cs.takeWhile Char.isDigit
  if first.isEmpty then
    none
  else
    match cs.dropWhile Char.isDigit with
    | ['m'] => ofDigits? first
    | ['h'] => ofDigits? first >>= ofHours?
    | 'h' :: rest =>
      let second := rest.takeWhile Char.isDigit
      if second.isEmpty then
        none
      else if rest.dropWhile Char.isDigit = ['m'] then do
        let hours ← ofDigits? first
        let minutes ← ofDigits? second
        let whole ← ofHours? hours
        ofNat? (whole.toNat + minutes.toNat)
      else
        none
    | _ => none

def parse? (token : String) : Option UInt32 :=
  parseChars? token.toList

/--
The characters of the duration of `hours` hours and `minutes` minutes, a part that is zero left out
unless both are.
-/
def renderChars (hours minutes : Nat) : List Char :=
  if hours = 0 then
    digits minutes ++ ['m']
  else if minutes = 0 then
    digits hours ++ ['h']
  else
    digits hours ++ 'h' :: (digits minutes ++ ['m'])

/--
Write a number of minutes as a duration. The minutes beside hours are less than sixty.
-/
def render (minutes : UInt32) : String :=
  String.ofList (renderChars (minutes.toNat / 60) (minutes.toNat % 60))

end Workday.Duration
