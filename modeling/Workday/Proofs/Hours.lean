import Mathlib.Algebra.Order.Round
import Mathlib.Data.Rat.Floor
import Workday.Hours
import Workday.Proofs.Decimal.Places
import Workday.Proofs.Number.Binary64

/-!
This module contains the correctness of decimal hours. As long as minutes have few enough bits, the
error of the quotient by sixty is too small to reach the middle between two hundredths, so that the
exact quotient is what is rounded. Less than a minute is lost by rounding, and so minutes can be told
from the text.
-/

namespace Workday

open Text

section Trimming

theorem trimZeros_concat_zero (cs : List Char) : trimZeros (cs ++ ['0']) = trimZeros cs := by
  unfold trimZeros
  rw [List.reverse_concat, List.dropWhile_cons_of_pos rfl]

theorem trimZeros_concat_point (cs : List Char) : trimZeros (cs ++ ['.']) = cs := by
  unfold trimZeros
  rw [List.reverse_concat, List.dropWhile_cons_of_neg (by decide)]
  exact List.reverse_reverse cs

theorem trimZeros_concat_of_isDigit {c : Char} (hdigit : c.isDigit = true) (hzero : c ≠ '0')
    (cs : List Char) : trimZeros (cs ++ [c]) = cs ++ [c] := by
  have hpoint : c ≠ '.' := by
    rintro rfl
    contradiction
  unfold trimZeros
  rw [List.reverse_concat, List.dropWhile_cons_of_neg (by simpa using hzero)]
  split
  . next heq => exact absurd (List.cons.inj heq).1 hpoint
  . rw [List.reverse_cons, List.reverse_reverse]

/--
What is left of a text with a point when its zeros are trimmed is the notation of the same number.
-/
theorem isDecimal_trimZeros (whole : Nat) {places : List Char}
    (h : ∀ c ∈ places, c.isDigit = true) :
    IsDecimal (trimZeros (digits whole ++ '.' :: places))
      (whole + numberValue places / 10 ^ places.length) := by
  induction places using List.reverseRecOn with
  | nil =>
    rw [trimZeros_concat_point]
    exact ⟨whole, [], ⟨by simp, by simp⟩, (List.append_nil _).symm, rfl⟩
  | append_singleton places c ih =>
    rw [List.forall_mem_append, List.forall_mem_singleton] at h
    rw [← List.cons_append, ← List.append_assoc]
    by_cases hzero : c = '0'
    . have hvalue : (numberValue (places ++ [c]) : ℚ) / 10 ^ (places ++ [c]).length =
          numberValue places / 10 ^ places.length := by
        rw [hzero, numberValue_concat, List.length_append, List.length_singleton, pow_succ]
        push_cast
        field_simp
        ring
      rw [hvalue, hzero, trimZeros_concat_zero]
      exact ih h.1
    . rw [trimZeros_concat_of_isDigit h.2 hzero, List.append_assoc]
      refine ⟨whole, places ++ [c], ⟨?_, ?_⟩, ?_, rfl⟩
      . rw [List.forall_mem_append, List.forall_mem_singleton]
        exact h
      . rw [List.getLast?_concat]
        simpa using hzero
      . simp [behindPoint]

theorem isDecimal_hundredths (n : Nat) : IsDecimal (trimZeros (hundredths n)) (n / 100) := by
  have hlt : n % 100 < 100 := Nat.mod_lt n (by decide)
  have hvalue : (n : ℚ) / 100 =
      (n / 100 : Nat) + numberValue (twoDigits (n % 100)) / 10 ^ (twoDigits (n % 100)).length := by
    have hn : (n : ℚ) = 100 * (n / 100 : Nat) + (n % 100 : Nat) := by
      exact_mod_cast (Nat.div_add_mod n 100).symm
    rw [numberValue_twoDigits, length_twoDigits hlt]
    linarith
  rw [hvalue]
  exact isDecimal_trimZeros _ fun _ => isDigit_of_mem_twoDigits

end Trimming

section Rounding

def roundedHundredths (minutes : Nat) : ℤ :=
  round (100 * (minutes / 60 : ℚ))

variable {minutes fewer : Nat}

-- Five thirds of a natural number are at least a sixth away from the middle between two others.
theorem abs_roundedHundredths_sub_le (minutes : Nat) :
    |3 * roundedHundredths minutes - 5 * minutes| ≤ 1 := by
  have hround := abs_le.1 (abs_sub_round (100 * (minutes / 60 : ℚ)))
  change -(1 / 2) ≤ 100 * (minutes / 60 : ℚ) - roundedHundredths minutes ∧
    100 * (minutes / 60 : ℚ) - roundedHundredths minutes ≤ 1 / 2 at hround
  have habove : 2 * (3 * (roundedHundredths minutes : ℚ) - 5 * minutes) ≤ 3 := by linarith
  have hbelow : -3 ≤ 2 * (3 * (roundedHundredths minutes : ℚ) - 5 * minutes) := by linarith
  have habove : 2 * (3 * roundedHundredths minutes - 5 * minutes) ≤ 3 := by exact_mod_cast habove
  have hbelow : -3 ≤ 2 * (3 * roundedHundredths minutes - 5 * minutes) := by exact_mod_cast hbelow
  rw [abs_le]
  omega

theorem abs_roundedHundredths_div_sub_le (minutes : Nat) :
    |60 * ((roundedHundredths minutes : ℚ) / 100) - minutes| ≤ 1 / 5 := by
  have h : |3 * (roundedHundredths minutes : ℚ) - 5 * minutes| ≤ 1 := by
    exact_mod_cast abs_roundedHundredths_sub_le minutes
  rw [abs_le] at h ⊢
  constructor <;> linarith

theorem roundedHundredths_lt (h : fewer < minutes) :
    roundedHundredths fewer < roundedHundredths minutes := by
  have hminutes := abs_le.1 (abs_roundedHundredths_sub_le minutes)
  have hfewer := abs_le.1 (abs_roundedHundredths_sub_le fewer)
  omega

theorem exists_roundedHundredths_eq (minutes : Nat) :
    ∃ n : Nat, roundedHundredths minutes = n := by
  have h := abs_le.1 (abs_roundedHundredths_sub_le minutes)
  exact Int.eq_ofNat_of_zero_le (by omega)

theorem roundedHundredths_of_mod_eq_zero (h : minutes % 60 = 0) :
    roundedHundredths minutes = (100 * (minutes / 60) : Nat) := by
  have := abs_le.1 (abs_roundedHundredths_sub_le minutes)
  omega

end Rounding

section Quotient

variable {minutes : Nat}

theorem abs_value_div_sixty_sub_le (hpos : 0 < minutes) (h : minutes < 2 ^ 49) :
    |((Binary64.ofNat minutes).div (Binary64.ofNat 60)).value - minutes / 60| ≤
      minutes / 60 / 2 ^ 53 := by
  have hminutes : (Binary64.ofNat minutes).value = minutes := by
    apply Binary64.value_ofNat
    omega
  have hsixty : (Binary64.ofNat 60).value = 60 := Binary64.value_ofNat (by decide)
  have hprecise : (2 : ℚ) ^ (-1022 : ℤ) ≤ (Binary64.ofNat minutes).value / (Binary64.ofNat 60).value := by
    have hone : (1 : ℚ) ≤ minutes := by exact_mod_cast hpos
    have hsmall : (2 : ℚ) ^ (-1022 : ℤ) ≤ 2 ^ (-6 : ℤ) := Binary64.two_zpow_mono (by decide)
    have hsixth : (2 : ℚ) ^ (-6 : ℤ) ≤ minutes / 60 := by
      norm_num
      linarith
    rw [hminutes, hsixty]
    exact le_trans hsmall hsixth
  have herror := Binary64.abs_value_div_sub_le hprecise
  rwa [hminutes, hsixty] at herror

theorem roundMultiple_div_sixty (hpos : 0 < minutes) (h : minutes < 2 ^ 49) {n : Nat}
    (hn : roundedHundredths minutes = n) :
    ((Binary64.ofNat minutes).div (Binary64.ofNat 60)).roundMultiple 100 = n := by
  apply Binary64.roundMultiple_eq
  have hbound : (minutes : ℚ) < 2 ^ 49 := by exact_mod_cast h
  have herror := abs_le.1 (abs_value_div_sixty_sub_le hpos h)
  have hround : |3 * (n : ℚ) - 5 * minutes| ≤ 1 := by
    exact_mod_cast hn ▸ abs_roundedHundredths_sub_le minutes
  rw [abs_le] at hround
  push_cast
  rw [abs_lt]
  constructor <;> linarith

theorem isDecimal_hoursText (h : minutes < 2 ^ 49) :
    IsDecimal (hoursText minutes).toList ((roundedHundredths minutes : ℚ) / 100) := by
  unfold hoursText
  split
  . next hwhole =>
    rw [String.toList_ofList, roundedHundredths_of_mod_eq_zero hwhole]
    refine ⟨minutes / 60, [], ⟨by simp, by simp⟩, (List.append_nil _).symm, ?_⟩
    have hvalue : numberValue [] = 0 := rfl
    rw [hvalue, Nat.cast_zero, zero_div, add_zero, Int.cast_natCast, Nat.cast_mul, Nat.cast_ofNat,
      mul_div_cancel_left₀ _ (by norm_num)]
  . next hpart =>
    obtain ⟨n, hn⟩ := exists_roundedHundredths_eq minutes
    rw [String.toList_ofList, roundMultiple_div_sixty (by omega) h hn, hn]
    exact isDecimal_hundredths n

end Quotient

/--
Minutes that are below `2 ^ 49` are written as the hundredth of an hour nearest to them, in decimal
notation. The minutes are the whole number nearest to sixty times what is written, and more of them
are written as a larger number.
-/
theorem hoursText_nearest (minutes : Nat) (h : minutes < 2 ^ 49) :
    (∀ text : String,
      IsDecimal text.toList (round (100 * (minutes / 60 : ℚ)) / 100) ↔ text = hoursText minutes) ∧
    ∀ hours, IsDecimal (hoursText minutes).toList hours →
      (∀ other : ℤ, other ≠ minutes → |60 * hours - minutes| < |60 * hours - other|) ∧
      ∀ fewer < minutes, hoursText fewer ≠ hoursText minutes ∧
        ∀ hours', IsDecimal (hoursText fewer).toList hours' → hours' < hours := by
  have hdecimal := isDecimal_hoursText h
  refine ⟨?_, ?_⟩
  . intro text
    constructor
    . intro htext
      exact String.toList_inj.1 (htext.text_eq hdecimal)
    . rintro rfl
      exact hdecimal
  . intro hours hhours
    obtain rfl := hhours.value_eq hdecimal
    refine ⟨?_, ?_⟩
    . intro other hother
      have hnear := abs_roundedHundredths_div_sub_le minutes
      have hapart : (1 : ℚ) ≤ |(minutes : ℚ) - other| := by
        exact_mod_cast Int.one_le_abs (sub_ne_zero.2 hother.symm)
      have htriangle := abs_sub_le (minutes : ℚ) (60 * (roundedHundredths minutes / 100)) other
      rw [abs_sub_comm (minutes : ℚ) (60 * _)] at htriangle
      linarith
    . intro fewer hfewer
      have hless (hours' : ℚ) (hhours' : IsDecimal (hoursText fewer).toList hours') :
          hours' < roundedHundredths minutes / 100 := by
        rw [hhours'.value_eq (isDecimal_hoursText (hfewer.trans h))]
        have : (roundedHundredths fewer : ℚ) < roundedHundredths minutes := by
          exact_mod_cast roundedHundredths_lt hfewer
        linarith
      refine ⟨?_, hless⟩
      intro heq
      exact lt_irrefl _ (hless _ (heq ▸ hdecimal))

theorem hoursText_nearest_last :
    562949953421311 < 2 ^ 49 ∧
      IsDecimal "9382499223688.52".toList (round (100 * ((562949953421311 : Nat) / 60 : ℚ)) / 100) ∧
      hoursText 562949953421310 ≠ "9382499223688.52" := by
  have htext : hoursText 562949953421311 = "9382499223688.52" := by decide +kernel
  obtain ⟨hwritten, hread⟩ := hoursText_nearest 562949953421311 (by decide)
  have hdecimal := (hwritten _).2 htext.symm
  obtain ⟨_, hfewer⟩ := hread _ (htext ▸ hdecimal)
  exact ⟨by decide, hdecimal, htext ▸ (hfewer 562949953421310 (by decide)).1⟩

end Workday
