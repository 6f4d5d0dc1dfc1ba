/-!
This module contains double precision numbers as exact fractions: rounding a quotient of natural
numbers to the nearest double, and the quotient that a double is. All arithmetic on doubles is done
by forming the exact quotient and rounding it once.
-/

namespace Workday

/--
The natural number nearest to `n / d`, the even one of two that are equally near.
-/
def roundQuotient (n d : Nat) : Nat :=
  let q := n / d
  let r := n % d
  if 2 * r < d then q else if d < 2 * r then q + 1 else q + q % 2

/--
The number `mantissa * 2 ^ exponent`. The exponent is not bounded above, a number that is too large
for a double is told by `isFinite`.
-/
structure Binary64 where
  mantissa : Nat
  exponent : Int
  deriving Repr, BEq, DecidableEq, Inhabited

namespace Binary64

def minExponent : Int := -1074

def isFinite (x : Binary64) : Bool :=
  x.exponent ≤ 971

def fraction (x : Binary64) : Nat × Nat :=
  if 0 ≤ x.exponent then
    (x.mantissa * Nat.pow 2 x.exponent.toNat, 1)
  else
    (x.mantissa, Nat.pow 2 (-x.exponent).toNat)

def scale (n d : Nat) (e : Int) : Nat × Nat :=
  if 0 ≤ e then (n, d * Nat.pow 2 e.toNat) else (n * Nat.pow 2 (-e).toNat, d)

/--
The exponent with which `n / d` has a mantissa of 53 bits, or the smallest exponent if that is
larger.
-/
def exponentOf (n d : Nat) : Int :=
  let e := max ((n.log2 : Int) - d.log2 - 53) minExponent
  let (a, b) := scale n d e
  if a / b < Nat.pow 2 53 then e else e + 1

/--
The double nearest to `n / d`, the one with an even mantissa of two that are equally near.
-/
def nearest (n d : Nat) : Binary64 :=
  let e := exponentOf n d
  let (a, b) := scale n d e
  let m := roundQuotient a b
  if m < Nat.pow 2 53 then ⟨m, e⟩ else ⟨Nat.pow 2 52, e + 1⟩

def ofNat (n : Nat) : Binary64 :=
  nearest n 1

def div (x y : Binary64) : Binary64 :=
  let (a, b) := x.fraction
  let (c, d) := y.fraction
  nearest (a * d) (b * c)

def mul (x y : Binary64) : Binary64 :=
  let (a, b) := x.fraction
  let (c, d) := y.fraction
  nearest (a * c) (b * d)

def roundMultiple (factor : Nat) (x : Binary64) : Nat :=
  let (a, b) := x.fraction
  roundQuotient (factor * a) b

end Binary64

end Workday
