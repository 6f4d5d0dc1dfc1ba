import Mathlib.Algebra.Order.Field.Rat
import Mathlib.Data.List.Induction
import Mathlib.Tactic.FieldSimp
import Mathlib.Tactic.Linarith
import Mathlib.Tactic.Ring
import Workday.Proofs.Decimal

/-!
This module contains the decimal notation of numbers that need not be whole, with a point and further
digits behind the whole part. Without zeros at its end it is the only notation of a number, and it is
the notation of no other number.
-/

namespace Workday.Text

section Value

variable {ds es : List Char} {c : Char}

theorem numberValue_concat (ds : List Char) (c : Char) :
    numberValue (ds ++ [c]) = 10 * numberValue ds + (c.toNat - '0'.toNat) := by
  unfold numberValue
  rw [Nat.ofDigitChars_append, Nat.ofDigitChars_cons, Nat.ofDigitChars_nil]

theorem numberValue_lt (hds : ∀ c ∈ ds, c.isDigit = true) : numberValue ds < 10 ^ ds.length := by
  induction ds using List.reverseRecOn with
  | nil => exact Nat.one_pos
  | append_singleton ds c ih =>
    rw [List.forall_mem_append, List.forall_mem_singleton] at hds
    have hvalue := ih hds.1
    have hdigit := digitValue_lt hds.2
    rw [numberValue_concat, List.length_append, List.length_singleton, pow_succ]
    omega

-- A one in front makes every sequence of digits the shortest of its value.
theorem eq_of_numberValue_eq (hds : ∀ c ∈ ds, c.isDigit = true) (hes : ∀ c ∈ es, c.isDigit = true)
    (hlength : ds.length = es.length) (h : numberValue ds = numberValue es) : ds = es := by
  have hvalue : Nat.ofDigitChars 10 ds 1 = Nat.ofDigitChars 10 es 1 := by
    rw [Nat.ofDigitChars_eq_ofDigitChars_zero, Nat.ofDigitChars_eq_ofDigitChars_zero (l := es), hlength]
    exact congrArg _ h
  have happend : digits 1 ++ ds = digits 1 ++ es := by
    rw [digits_append Nat.one_pos hds, digits_append Nat.one_pos hes, hvalue]
  exact List.append_cancel_left happend

theorem numberValue_mod_ten_ne_zero (hds : ∀ c ∈ ds, c.isDigit = true) (hne : ds ≠ [])
    (hlast : ds.getLast? ≠ some '0') : numberValue ds % 10 ≠ 0 := by
  obtain ⟨ds, c, rfl⟩ := (List.eq_nil_or_concat ds).resolve_left hne
  rw [List.concat_eq_append] at hds hlast ⊢
  rw [List.forall_mem_append, List.forall_mem_singleton] at hds
  rw [List.getLast?_concat, ne_eq, Option.some.injEq, ← Char.toNat_inj] at hlast
  have hge := (Char.isDigit_iff_toNat.1 hds.2).1
  have hlt := digitValue_lt hds.2
  rw [numberValue_concat]
  omega

end Value

/--
The digits behind a point, the last of which is not zero.
-/
structure IsPlaces (places : List Char) : Prop where
  isDigit : ∀ c ∈ places, c.isDigit = true
  getLast?_ne : places.getLast? ≠ some '0'

/--
The places with the point in front of them, which is left out if there are none.
-/
def behindPoint (places : List Char) : List Char :=
  if places.isEmpty then [] else '.' :: places

/--
A text is the decimal notation of a number if it is the shortest text of the digits before the point,
and the places behind it.
-/
def IsDecimal (text : List Char) (value : ℚ) : Prop :=
  ∃ whole places, IsPlaces places ∧ text = digits whole ++ behindPoint places ∧
    value = whole + numberValue places / 10 ^ places.length

section Reading

variable {text places others : List Char} {value other : ℚ}

theorem takeWhile_isDigit_behindPoint (whole : Nat) (places : List Char) :
    (digits whole ++ behindPoint places).takeWhile Char.isDigit = digits whole := by
  have hdigits := fun c => isDigit_of_mem_digits (n := whole) (c := c)
  unfold behindPoint
  split
  . rw [List.takeWhile_append_of_pos hdigits, List.takeWhile_nil, List.append_nil]
  . exact takeWhile_isDigit_append hdigits (by decide) places

theorem behindPoint_inj (h : behindPoint places = behindPoint others) : places = others := by
  cases places <;> cases others <;> simp_all [behindPoint]

theorem IsDecimal.value_eq (h : IsDecimal text value) (hother : IsDecimal text other) :
    value = other := by
  obtain ⟨whole, places, _, htext, rfl⟩ := h
  obtain ⟨whole', places', _, hsame, rfl⟩ := hother
  rw [htext] at hsame
  have hwhole : digits whole = digits whole' := by
    rw [← takeWhile_isDigit_behindPoint whole places, hsame, takeWhile_isDigit_behindPoint]
  rw [hwhole] at hsame
  rw [behindPoint_inj (List.append_cancel_left hsame), ← numberValue_digits whole, hwhole,
    numberValue_digits]

end Reading

section Writing

variable {text other : List Char} {value : ℚ} {places others : List Char} {whole whole' : Nat}

-- With more places than the other one, a notation would end in a zero.
theorem IsPlaces.length_le (hothers : IsPlaces others)
    (h : (10 ^ places.length * whole + numberValue places) * 10 ^ others.length =
      (10 ^ others.length * whole' + numberValue others) * 10 ^ places.length) :
    others.length ≤ places.length := by
  by_contra hlt
  obtain ⟨more, hmore⟩ := Nat.exists_eq_add_of_lt (Nat.lt_of_not_le hlt)
  have hne : others ≠ [] := by
    rintro rfl
    simp at hlt
  have hcancel : 10 * ((10 ^ places.length * whole + numberValue places) * 10 ^ more) =
      10 * (10 ^ (places.length + more) * whole') + numberValue others := by
    apply Nat.eq_of_mul_eq_mul_right (Nat.pow_pos (n := places.length) (by decide : 0 < 10))
    rw [hmore] at h
    calc _ = (10 ^ places.length * whole + numberValue places) * 10 ^ (places.length + more + 1) := by ring
      _ = _ := by rw [h]; ring
  have := numberValue_mod_ten_ne_zero hothers.isDigit hne hothers.getLast?_ne
  omega

theorem IsDecimal.text_eq (h : IsDecimal text value) (hother : IsDecimal other value) :
    text = other := by
  obtain ⟨whole, places, hplaces, rfl, hvalue⟩ := h
  obtain ⟨whole', others, hothers, rfl, rfl⟩ := hother
  have hcross : (10 ^ places.length * whole + numberValue places) * 10 ^ others.length =
      (10 ^ others.length * whole' + numberValue others) * 10 ^ places.length := by
    field_simp at hvalue
    have hcross : (((10 ^ places.length * whole + numberValue places) * 10 ^ others.length : Nat) : ℚ) =
        ((10 ^ others.length * whole' + numberValue others) * 10 ^ places.length : Nat) := by
      push_cast
      linarith
    exact_mod_cast hcross
  have hlength := Nat.le_antisymm (hplaces.length_le hcross.symm) (hothers.length_le hcross)
  rw [hlength] at hcross
  have hsum := Nat.eq_of_mul_eq_mul_right (Nat.pow_pos (by decide)) hcross
  have hlt := numberValue_lt hplaces.isDigit
  have hlt' := numberValue_lt hothers.isDigit
  rw [hlength] at hlt
  have hwhole : whole = whole' := by
    have := congrArg (· / 10 ^ others.length) hsum
    simpa [Nat.mul_add_div, Nat.div_eq_of_lt hlt, Nat.div_eq_of_lt hlt'] using this
  rw [hwhole, eq_of_numberValue_eq hplaces.isDigit hothers.isDigit hlength]
  rw [hwhole] at hsum
  omega

end Writing

end Workday.Text
