import Mathlib.Algebra.Order.Field.Power
import Mathlib.Algebra.Order.Field.Rat
import Mathlib.Tactic.FieldSimp
import Mathlib.Tactic.Linarith
import Mathlib.Tactic.Positivity
import Mathlib.Tactic.Ring
import Workday.Number.Binary64

/-!
This module contains how far rounding may go wrong. A quotient that is rounded to a natural number is
at most half away. A quotient that is rounded to a double has 53 bits, so that it is away by at most
one part in `2 ^ 53`, and a natural number that fits in so many bits is a double itself.
-/

namespace Workday

section Quotient

variable {n d : Nat}

theorem roundQuotient_bounds (hd : 0 < d) :
    2 * (d * roundQuotient n d) ≤ 2 * n + d ∧ 2 * n ≤ 2 * (d * roundQuotient n d) + d := by
  have hn := Nat.div_add_mod n d
  have hlt := Nat.mod_lt n hd
  have hsucc : d * (n / d + 1) = d * (n / d) + d := Nat.mul_succ d (n / d)
  unfold roundQuotient
  dsimp only
  split
  . omega
  . split
    . omega
    . -- Both neighbours are equally near.
      cases Nat.mod_two_eq_zero_or_one (n / d) with
      | inl heven => rw [heven, Nat.add_zero]; omega
      | inr hodd => rw [hodd]; omega

theorem abs_roundQuotient_sub_le (hd : 0 < d) : |(roundQuotient n d : ℚ) - n / d| ≤ 1 / 2 := by
  have hpos : (0 : ℚ) < d := by exact_mod_cast hd
  obtain ⟨habove, hbelow⟩ := roundQuotient_bounds (n := n) hd
  have habove : 2 * ((d : ℚ) * roundQuotient n d) ≤ 2 * n + d := by exact_mod_cast habove
  have hbelow : 2 * (n : ℚ) ≤ 2 * (d * roundQuotient n d) + d := by exact_mod_cast hbelow
  have hn : (n : ℚ) = d * (n / d) := by field_simp
  generalize (n : ℚ) / d = q at hn ⊢
  rw [hn] at habove hbelow
  rw [abs_le]
  constructor
  . have : (d : ℚ) * (q - roundQuotient n d) ≤ d * (1 / 2) := by linarith
    linarith [le_of_mul_le_mul_left this hpos]
  . have : (d : ℚ) * (roundQuotient n d - q) ≤ d * (1 / 2) := by linarith
    exact le_of_mul_le_mul_left this hpos

theorem roundQuotient_one (n : Nat) : roundQuotient n 1 = n := by
  have := roundQuotient_bounds (n := n) (d := 1) (by decide)
  omega

-- Two natural numbers that are both less than half away are less than one apart.
theorem roundQuotient_eq {k : Nat} (hd : 0 < d) (h : |(n : ℚ) / d - k| < 1 / 2) :
    roundQuotient n d = k := by
  have hapart : |(roundQuotient n d : ℚ) - k| < 1 := by
    linarith [abs_sub_le (roundQuotient n d : ℚ) (n / d) k, abs_roundQuotient_sub_le (n := n) hd]
  have hapart : |(roundQuotient n d : ℤ) - k| < 1 := by exact_mod_cast hapart
  rw [Int.abs_lt_one_iff] at hapart
  omega

end Quotient

namespace Binary64

def value (x : Binary64) : ℚ := x.mantissa * 2 ^ x.exponent

theorem two_zpow_toNat {e : Int} (h : 0 ≤ e) : ((Nat.pow 2 e.toNat : Nat) : ℚ) = 2 ^ e := by
  change ((2 ^ e.toNat : Nat) : ℚ) = 2 ^ e
  rw [Nat.cast_pow, Nat.cast_two, ← zpow_natCast, Int.toNat_of_nonneg h]

theorem two_zpow_neg_toNat {e : Int} (h : ¬0 ≤ e) : ((Nat.pow 2 (-e).toNat : Nat) : ℚ) = (2 ^ e)⁻¹ := by
  rw [two_zpow_toNat (by omega), zpow_neg]

theorem fraction_pos (x : Binary64) : 0 < x.fraction.2 := by
  unfold fraction
  split
  . exact Nat.one_pos
  . exact Nat.pow_pos Nat.two_pos

theorem value_eq_fraction (x : Binary64) : x.value = x.fraction.1 / x.fraction.2 := by
  unfold value fraction
  split
  . next h => rw [Nat.cast_mul, two_zpow_toNat h, Nat.cast_one, div_one]
  . next h => rw [two_zpow_neg_toNat h, div_inv_eq_mul]

section Scaling

variable {n d : Nat} {e : Int}

theorem scale_pos (hd : 0 < d) : 0 < (scale n d e).2 := by
  unfold scale
  split
  . exact Nat.mul_pos hd (Nat.pow_pos Nat.two_pos)
  . exact hd

theorem scale_eq (n d : Nat) (e : Int) :
    ((scale n d e).1 : ℚ) / (scale n d e).2 = n / d / 2 ^ e := by
  unfold scale
  split
  . next h => rw [Nat.cast_mul, two_zpow_toNat h, div_div]
  . next h => rw [Nat.cast_mul, two_zpow_neg_toNat h, mul_div_right_comm, ← div_eq_mul_inv]

theorem div_scale_lt_iff (hd : 0 < d) :
    (scale n d e).1 / (scale n d e).2 < Nat.pow 2 53 ↔ (n : ℚ) / d < 2 ^ (e + 53) := by
  have hpos : (0 : ℚ) < (scale n d e).2 := by exact_mod_cast scale_pos hd
  have htwo : (0 : ℚ) < 2 ^ e := zpow_pos two_pos e
  rw [Nat.div_lt_iff_lt_mul (scale_pos hd), add_comm e, zpow_add₀ two_ne_zero, ← div_lt_iff₀ htwo,
    ← scale_eq, div_lt_iff₀ hpos]
  norm_cast

end Scaling

section Exponent

variable {n d : Nat}

theorem quotient_lt_two_zpow (hd : 0 < d) : (n : ℚ) / d < 2 ^ ((n.log2 : ℤ) - d.log2 + 1) := by
  have hpos : (0 : ℚ) < d := by exact_mod_cast hd
  have hn : (n : ℚ) < 2 ^ (n.log2 + 1) := by exact_mod_cast Nat.lt_log2_self
  have hle : (2 : ℚ) ^ d.log2 ≤ d := by exact_mod_cast Nat.log2_self_le (Nat.ne_of_gt hd)
  rw [div_lt_iff₀ hpos]
  calc (n : ℚ) < 2 ^ (n.log2 + 1) := hn
    _ = 2 ^ ((n.log2 : ℤ) - d.log2 + 1) * 2 ^ d.log2 := by
      rw [← zpow_natCast, ← zpow_natCast, ← zpow_add₀ two_ne_zero]
      congr 1
      omega
    _ ≤ 2 ^ ((n.log2 : ℤ) - d.log2 + 1) * d := by gcongr

theorem two_zpow_le_quotient (hn : 0 < n) (hd : 0 < d) :
    2 ^ ((n.log2 : ℤ) - d.log2 - 1) ≤ (n : ℚ) / d := by
  have hpos : (0 : ℚ) < d := by exact_mod_cast hd
  have hle : (2 : ℚ) ^ n.log2 ≤ n := by exact_mod_cast Nat.log2_self_le (Nat.ne_of_gt hn)
  have hlt : (d : ℚ) ≤ 2 ^ (d.log2 + 1) := by exact_mod_cast Nat.le_of_lt Nat.lt_log2_self
  rw [le_div_iff₀ hpos]
  calc 2 ^ ((n.log2 : ℤ) - d.log2 - 1) * (d : ℚ)
      ≤ 2 ^ ((n.log2 : ℤ) - d.log2 - 1) * 2 ^ (d.log2 + 1) := by gcongr
    _ = 2 ^ n.log2 := by
      rw [← zpow_natCast, ← zpow_natCast, ← zpow_add₀ two_ne_zero]
      congr 1
      omega
    _ ≤ n := hle

theorem two_zpow_mono {e f : ℤ} (h : e ≤ f) : (2 : ℚ) ^ e ≤ 2 ^ f :=
  zpow_le_zpow_right₀ one_le_two h

/--
The exponent that is tried first. The right one is this one or the next.
-/
def firstExponent (n d : Nat) : Int :=
  max ((n.log2 : Int) - d.log2 - 53) minExponent

theorem exponentOf_eq (hd : 0 < d) :
    exponentOf n d =
      if (n : ℚ) / d < 2 ^ (firstExponent n d + 53) then firstExponent n d
      else firstExponent n d + 1 := by
  simp only [← div_scale_lt_iff hd]
  rfl

theorem quotient_lt (hd : 0 < d) : (n : ℚ) / d < 2 ^ (exponentOf n d + 53) := by
  rw [exponentOf_eq hd]
  split
  . assumption
  . refine lt_of_lt_of_le (quotient_lt_two_zpow hd) (two_zpow_mono ?_)
    unfold firstExponent
    omega

/--
A quotient that is not below the smallest double of full precision is given 53 bits.
-/
theorem le_quotient (hn : 0 < n) (hd : 0 < d) (h : 2 ^ (-1022 : ℤ) ≤ (n : ℚ) / d) :
    2 ^ (exponentOf n d + 52) ≤ (n : ℚ) / d := by
  rw [exponentOf_eq hd]
  split
  . unfold firstExponent
    cases max_choice ((n.log2 : Int) - d.log2 - 53) minExponent with
    | inl hmax =>
      rw [hmax]
      refine le_trans (two_zpow_mono ?_) (two_zpow_le_quotient hn hd)
      omega
    | inr hmax =>
      rw [hmax]
      exact h
  . next hle =>
    rw [not_lt] at hle
    rwa [add_assoc]

end Exponent

section Nearest

variable {n d : Nat}

/--
The mantissa of the double that is nearest to a quotient, unless it takes one bit too many.
-/
def nearestMantissa (n d : Nat) : Nat :=
  roundQuotient (scale n d (exponentOf n d)).1 (scale n d (exponentOf n d)).2

theorem abs_nearestMantissa_sub_le (hd : 0 < d) :
    |(nearestMantissa n d : ℚ) - n / d / 2 ^ exponentOf n d| ≤ 1 / 2 := by
  rw [← scale_eq]
  exact abs_roundQuotient_sub_le (scale_pos hd)

theorem nearestMantissa_le (hd : 0 < d) : nearestMantissa n d ≤ 2 ^ 53 := by
  have hquotient : (n : ℚ) / d / 2 ^ exponentOf n d < 2 ^ 53 := by
    rw [div_lt_iff₀ (zpow_pos two_pos _), ← zpow_natCast, ← zpow_add₀ two_ne_zero, add_comm]
    exact quotient_lt hd
  have hround := (abs_le.1 (abs_nearestMantissa_sub_le (n := n) hd)).2
  have hlt : (nearestMantissa n d : ℚ) < (2 ^ 53 + 1 : Nat) := by
    push_cast
    linarith
  exact Nat.le_of_lt_succ (by exact_mod_cast hlt)

theorem value_nearest (hd : 0 < d) :
    (nearest n d).value = nearestMantissa n d * 2 ^ exponentOf n d := by
  have hle := nearestMantissa_le (n := n) hd
  change (if nearestMantissa n d < Nat.pow 2 53 then (⟨nearestMantissa n d, exponentOf n d⟩ : Binary64)
    else ⟨Nat.pow 2 52, exponentOf n d + 1⟩).value = _
  split
  . rfl
  . next h =>
    -- Half the mantissa with the next exponent is the same number.
    have heq : nearestMantissa n d = 2 * Nat.pow 2 52 := Nat.le_antisymm hle (Nat.le_of_not_lt h)
    unfold value
    rw [heq, zpow_add_one₀ two_ne_zero]
    push_cast
    ring

/--
A quotient of full precision is at most one part in `2 ^ 53` away from the double nearest to it.
-/
theorem abs_value_nearest_sub_le (hn : 0 < n) (hd : 0 < d)
    (h : 2 ^ (-1022 : ℤ) ≤ (n : ℚ) / d) :
    |(nearest n d).value - n / d| ≤ n / d / 2 ^ 53 := by
  have hpos : (0 : ℚ) < 2 ^ exponentOf n d := zpow_pos two_pos _
  have hround := abs_nearestMantissa_sub_le (n := n) hd
  have hprecise := le_quotient hn hd h
  calc |(nearest n d).value - n / d|
      = |(nearestMantissa n d : ℚ) - n / d / 2 ^ exponentOf n d| * 2 ^ exponentOf n d := by
        rw [← abs_of_pos hpos, ← abs_mul, abs_of_pos hpos, sub_mul, div_mul_cancel₀ _ hpos.ne',
          value_nearest hd]
    _ ≤ 1 / 2 * 2 ^ exponentOf n d := by gcongr
    _ = 2 ^ (exponentOf n d + 52) / 2 ^ 53 := by
        rw [zpow_add₀ two_ne_zero]
        norm_num
        ring
    _ ≤ n / d / 2 ^ 53 := by gcongr

theorem exponentOf_one_le (h : n < 2 ^ 53) : exponentOf n 1 ≤ 0 := by
  have hlog : n.log2 < 53 := by
    by_cases hzero : n = 0
    . rw [hzero, Nat.log2_zero]
      decide
    . exact (Nat.log2_lt hzero).2 h
  have hfirst : firstExponent n 1 < 0 := by
    have hone : Nat.log2 1 = 0 := by decide
    unfold firstExponent minExponent
    omega
  rw [exponentOf_eq Nat.one_pos]
  split <;> omega

/--
A natural number of at most 53 bits is a double.
-/
theorem value_ofNat (h : n < 2 ^ 53) : (ofNat n).value = n := by
  have hone : (scale n 1 (exponentOf n 1)).2 = 1 := by
    unfold scale
    split
    . next hnonneg => rw [Int.le_antisymm (exponentOf_one_le h) hnonneg]; rfl
    . rfl
  have hscale := scale_eq n 1 (exponentOf n 1)
  rw [hone, Nat.cast_one, div_one, div_one] at hscale
  unfold ofNat
  rw [value_nearest Nat.one_pos, nearestMantissa, hone, roundQuotient_one, hscale,
    div_mul_cancel₀ _ (zpow_pos two_pos _).ne']

/--
A quotient of doubles that has full precision is computed up to one part in `2 ^ 53`.
-/
theorem abs_value_div_sub_le {x y : Binary64} (h : 2 ^ (-1022 : ℤ) ≤ x.value / y.value) :
    |(x.div y).value - x.value / y.value| ≤ x.value / y.value / 2 ^ 53 := by
  have hquotient : x.value / y.value =
      ((x.fraction.1 * y.fraction.2 : Nat) : ℚ) / (x.fraction.2 * y.fraction.1 : Nat) := by
    rw [value_eq_fraction, value_eq_fraction, div_div_div_eq, Nat.cast_mul, Nat.cast_mul]
  have hpos : 0 < x.value / y.value := lt_of_lt_of_le (zpow_pos two_pos _) h
  have hne : x.fraction.1 * y.fraction.2 ≠ 0 ∧ x.fraction.2 * y.fraction.1 ≠ 0 := by
    constructor
    . intro hzero
      rw [hquotient, hzero, Nat.cast_zero, zero_div] at hpos
      exact lt_irrefl _ hpos
    . intro hzero
      rw [hquotient, hzero, Nat.cast_zero, div_zero] at hpos
      exact lt_irrefl _ hpos
  change |(nearest (x.fraction.1 * y.fraction.2) (x.fraction.2 * y.fraction.1)).value - _| ≤ _
  rw [hquotient] at h ⊢
  exact abs_value_nearest_sub_le (Nat.pos_of_ne_zero hne.1) (Nat.pos_of_ne_zero hne.2) h

theorem roundMultiple_eq {factor k : Nat} {x : Binary64} (h : |factor * x.value - k| < 1 / 2) :
    x.roundMultiple factor = k := by
  change roundQuotient (factor * x.fraction.1) x.fraction.2 = k
  apply roundQuotient_eq x.fraction_pos
  rwa [Nat.cast_mul, mul_div_assoc, ← value_eq_fraction]

end Nearest

end Binary64

end Workday
