import Workday.Clock
import Workday.Proofs.Decimal

/-!
This module contains the correctness of the notation `HH:MM`: the minutes that an amount of time was
written for can be read back, so amounts of different minutes look different.
-/

namespace Workday

open Text

/--
The minutes that a text stands for, if it is hours followed by two digits for less than sixty minutes.
-/
def clockMinutes? (text : String) : Option Nat :=
  let hours := text.toList.takeWhile Char.isDigit
  match text.toList.dropWhile Char.isDigit with
  | ':' :: minutes =>
    if isNumber hours && isNumber minutes && minutes.length == 2 && numberValue minutes < 60 then
      some (60 * numberValue hours + numberValue minutes)
    else
      none
  | _ => none

theorem clockMinutes?_clock (n : Nat) : clockMinutes? (clock n) = some n := by
  have hhours := fun c => isDigit_of_mem_twoDigits (n := n / 60) (c := c)
  have hbound : n % 60 < 60 := Nat.mod_lt n (by decide)
  have hlength : (twoDigits (n % 60)).length = 2 := length_twoDigits (Nat.lt_trans hbound (by decide))
  unfold clockMinutes? clock
  rw [String.toList_ofList]
  rw [takeWhile_isDigit_append hhours (by decide), dropWhile_isDigit_append hhours (by decide)]
  simp [isNumber_twoDigits, hlength, hbound, Nat.div_add_mod]

theorem clock_eq_clock_iff {m n : Nat} : clock m = clock n ↔ m = n := by
  constructor
  . intro h
    have hread := clockMinutes?_clock m
    rw [h, clockMinutes?_clock] at hread
    exact (Option.some.inj hread).symm
  . intro h
    rw [h]

namespace TimeSpan

theorem toNat_tdiv (a : Int) (n : Nat) : (a.tdiv n).toNat = a.toNat / n := by
  cases a with
  | ofNat k => rfl
  | negSucc k =>
    rw [Int.toNat_negSucc, Nat.zero_div]
    exact Int.toNat_neg_natCast _

theorem toNat_tmod (a : Int) (n : Nat) : (a.tmod n).toNat = a.toNat % n := by
  cases a with
  | ofNat k => rfl
  | negSucc k =>
    rw [Int.toNat_negSucc, Nat.zero_mod]
    exact Int.toNat_neg_natCast _

/--
A time span shows as its whole minutes, and as no time at all if it is negative.
-/
theorem clock_eq (span : TimeSpan) :
    span.clock = Workday.clock (span.nanoseconds.toNat / 60000000000) := by
  have hhours : span.wholeHours.toNat = span.nanoseconds.toNat / 60000000000 / 60 := by
    rw [Nat.div_div_eq_div_mul]
    exact toNat_tdiv _ _
  have hminutes : (span.wholeMinutes.tmod 60).toNat = span.nanoseconds.toNat / 60000000000 % 60 :=
    (toNat_tmod _ _).trans (congrArg (· % 60) (toNat_tdiv _ _))
  unfold clock Workday.clock
  rw [hhours, hminutes]

theorem clock_ofMinutes (minutes : UInt32) :
    (ofMinutes minutes).clock = Workday.clock minutes.toNat := by
  rw [clock_eq, ofMinutes]
  dsimp only
  congr 1
  omega

end TimeSpan

end Workday
