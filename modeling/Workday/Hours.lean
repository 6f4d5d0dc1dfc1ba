import Workday.Number.Binary64
import Workday.Text.Decimal

/-!
This module contains minutes written as decimal hours, such as `7.25`: a whole number of hours as
it is, anything else with the two places that the quotient by sixty has as a double, trailing zeros
left out.
-/

namespace Workday

open Text

/--
Drop the zeros at the end of a text and then a point.
-/
def trimZeros (cs : List Char) : List Char :=
  match cs.reverse.dropWhile (· == '0') with
  | '.' :: rest => rest.reverse
  | rest => rest.reverse

def hundredths (n : Nat) : List Char :=
  digits (n / 100) ++ '.' :: twoDigits (n % 100)

def hoursText (minutes : Nat) : String :=
  if minutes % 60 = 0 then
    String.ofList (digits (minutes / 60))
  else
    let hours := (Binary64.ofNat minutes).div (Binary64.ofNat 60)
    String.ofList (trimZeros (hundredths (hours.roundMultiple 100)))

end Workday
