import Workday.Text.Decimal

/-!
This module contains the notation `HH:MM` of amounts of time, hours and minutes with at least two
digits each. Totals are counted in minutes. A time span may also be negative and finer than a
minute, what it has below a minute is dropped and a negative span shows as no time at all.
-/

namespace Workday

open Text

def clock (minutes : Nat) : String :=
  String.ofList (twoDigits (minutes / 60) ++ ':' :: twoDigits (minutes % 60))

/--
A signed amount of time. The milliseconds of it and of its opposite fit in 64 bits.
-/
structure TimeSpan where
  nanoseconds : Int
  natAbs_le : nanoseconds.natAbs ≤ 9223372036854775807000000

namespace TimeSpan

inductive Scale where
  | hours
  | minutes
  | seconds
  | milliseconds
  deriving Repr, BEq, DecidableEq, Inhabited

def Scale.factor : Scale → Int
  | hours => 3600000000000
  | minutes => 60000000000
  | seconds => 1000000000
  | milliseconds => 1000000

def of? (scale : Scale) (n : Int) : Option TimeSpan :=
  if h : (n * scale.factor).natAbs ≤ 9223372036854775807000000 then
    some ⟨n * scale.factor, h⟩
  else
    none

def ofMinutes (minutes : UInt32) : TimeSpan where
  nanoseconds := minutes.toNat * 60000000000
  natAbs_le := by
    have := minutes.toNat_lt
    omega

/--
The whole hours of a time span, rounded toward zero.
-/
def wholeHours (span : TimeSpan) : Int :=
  span.nanoseconds.tdiv 3600000000000

/--
The whole minutes of a time span, rounded toward zero.
-/
def wholeMinutes (span : TimeSpan) : Int :=
  span.nanoseconds.tdiv 60000000000

/--
The hours of a time span and the minutes beside them, each no less than zero.
-/
def clock (span : TimeSpan) : String :=
  String.ofList
    (twoDigits span.wholeHours.toNat ++ ':' :: twoDigits (span.wholeMinutes.tmod 60).toNat)

end TimeSpan

end Workday
