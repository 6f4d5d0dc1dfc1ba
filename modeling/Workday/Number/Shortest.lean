import Workday.Number.Binary64
import Workday.Text.Decimal

/-!
This module contains the decimal notation of double precision numbers with as few digits as tell a
number from its neighbours. Of two decimals with that many digits the nearer one is taken.
-/

namespace Workday.Binary64

open Text

/--
Digits with the power of ten that the first of them has.
-/
structure Decimal where
  digits : List Char
  exponent : Int
  deriving Repr, BEq, DecidableEq, Inhabited

def decimalExponent (n d : Nat) : Int :=
  if d ≤ n then
    (digits (n / d)).length - 1
  else
    let length := (digits (d / n)).length
    if d ≤ n * Nat.pow 10 (length - 1) then 1 - (length : Int) else -(length : Int)

/--
The numerator and denominator of `n / d` divided by `10 ^ e`.
-/
def scaleTen (n d : Nat) (e : Int) : Nat × Nat :=
  if 0 ≤ e then (n, d * Nat.pow 10 e.toNat) else (n * Nat.pow 10 (-e).toNat, d)

/--
The numbers that round to a double: four times its mantissa, the ends of their interval on the same
scale, and the exponent of that scale.
-/
def bounds (x : Binary64) : Nat × Nat × Nat × Int :=
  let below :=
    4 * x.mantissa - (if x.mantissa = Nat.pow 2 52 ∧ minExponent < x.exponent then 1 else 2)
  (below, 4 * x.mantissa, 4 * x.mantissa + 2, x.exponent - 2)

/--
The decimal of `count` digits nearest to a double among those that round to it. Its digits are the
value on a grid, they may be one more than asked for if rounding carries.
-/
def candidate? (x : Binary64) (count : Nat) : Option Decimal :=
  let (low, middle, high, e) := bounds x
  let (n, d) := if 0 ≤ e then (Nat.pow 2 e.toNat, 1) else (1, Nat.pow 2 (-e).toNat)
  let exponent := decimalExponent (middle * n) d - count + 1
  let (n, d) := scaleTen n d exponent
  let within (c : Nat) : Bool :=
    if x.mantissa % 2 = 0 then low * n ≤ c * d && c * d ≤ high * n
    else low * n < c * d && c * d < high * n
  let c := middle * n / d
  let nearest := roundQuotient (middle * n) d
  let other := if nearest = c then c + 1 else c
  let found :=
    if within nearest then some nearest else if within other then some other else none
  found.map fun c => ⟨digits c, exponent + (digits c).length - 1⟩

def shortest (x : Binary64) : Decimal :=
  ((List.range 17).findSome? fun count => candidate? x (count + 1)).getD ⟨['0'], 0⟩

/--
The digits of a decimal without zeros at the end, the first one always kept.
-/
def Decimal.significant (x : Decimal) : List Char :=
  match (x.digits.reverse.dropWhile (· == '0')).reverse with
  | [] => ['0']
  | ds => ds

/--
The notation of a decimal: positional from `0.00001` to below `10^16`, else with an exponent, whose
sign is always written.
-/
def Decimal.text (x : Decimal) : List Char :=
  let ds := x.significant
  if -5 ≤ x.exponent ∧ x.exponent ≤ 15 then
    if x.exponent < 0 then
      '0' :: '.' :: (List.replicate (-x.exponent - 1).toNat '0' ++ ds)
    else
      let whole := x.exponent.toNat + 1
      let places := ds.drop whole
      ds.take whole ++ List.replicate (whole - ds.length) '0' ++
        '.' :: (if places.isEmpty then ['0'] else places)
  else
    let places := ds.drop 1
    ds.take 1 ++ (if places.isEmpty then [] else '.' :: places) ++
      'e' :: (if x.exponent < 0 then '-' else '+') :: Text.digits x.exponent.natAbs

def text (x : Binary64) : List Char :=
  if x.mantissa = 0 then ['0', '.', '0'] else x.shortest.text

end Workday.Binary64
