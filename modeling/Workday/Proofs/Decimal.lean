import Workday.Text.Decimal

/-!
This module contains how numbers are found again in the text that they were written in. All
characters of a written number are digits, so it ends where anything else begins. Without a zero in
front it is the only text of its value.
-/

namespace Workday.Text

theorem isDigit_of_mem_digits {n : Nat} {c : Char} (h : c ∈ digits n) : c.isDigit = true :=
  Nat.isDigit_of_mem_toDigits (by decide) (by decide) h

theorem isDigit_of_mem_padStart {width : Nat} {c : Char} {cs : List Char}
    (hcs : ∀ c ∈ cs, c.isDigit = true) (h : c ∈ padStart '0' width cs) : c.isDigit = true := by
  unfold padStart at h
  rw [List.mem_append] at h
  cases h with
  | inl h =>
    rw [List.eq_of_mem_replicate h]
    rfl
  | inr h => exact hcs c h

theorem isDigit_of_mem_twoDigits {n : Nat} {c : Char} (h : c ∈ twoDigits n) : c.isDigit = true :=
  isDigit_of_mem_padStart (fun _ => isDigit_of_mem_digits) h

theorem isNumber_of_forall_isDigit {cs : List Char} (hne : cs ≠ [])
    (h : ∀ c ∈ cs, c.isDigit = true) : isNumber cs = true := by
  unfold isNumber
  rw [Bool.and_eq_true, Bool.not_eq_true', List.all_eq_true, List.isEmpty_eq_false_iff]
  exact ⟨hne, h⟩

theorem isDigit_of_isNumber {cs : List Char} (h : isNumber cs = true) :
    ∀ c ∈ cs, c.isDigit = true := by
  unfold isNumber at h
  rw [Bool.and_eq_true, List.all_eq_true] at h
  exact h.2

theorem ne_nil_of_isNumber {cs : List Char} (h : isNumber cs = true) : cs ≠ [] := by
  rintro rfl
  contradiction

theorem isNumber_takeWhile {cs : List Char} (h : ¬(cs.takeWhile Char.isDigit).isEmpty = true) :
    isNumber (cs.takeWhile Char.isDigit) = true := by
  unfold isNumber
  rw [List.all_takeWhile, Bool.and_true, Bool.not_eq_true', ← Bool.not_eq_true]
  exact h

theorem isNumber_digits (n : Nat) : isNumber (digits n) = true :=
  isNumber_of_forall_isDigit (digits_ne_nil n) fun _ => isDigit_of_mem_digits

-- The digits after the first ten are those of the quotient with one more behind them.
theorem head?_digits_ne_zero {n : Nat} (h : 0 < n) : (digits n).head? ≠ some '0' := by
  unfold digits
  induction n using Nat.strongRecOn with
  | ind n ih =>
    rw [Nat.toDigits_eq_if (by decide)]
    split
    . simp [Nat.ne_of_gt h]
    . next hten =>
      have hdiv : 0 < n / 10 := by omega
      rw [List.head?_append, List.head?_eq_some_head Nat.toDigits_ne_nil, Option.some_or,
        ← List.head?_eq_some_head]
      exact ih (n / 10) (by omega) hdiv

/--
A number that is not zero, without a zero in front.
-/
structure IsPositive (cs : List Char) : Prop where
  isNumber_eq : isNumber cs = true
  head?_ne : cs.head? ≠ some '0'
  one_le : 1 ≤ numberValue cs

theorem isPositive_digits {n : Nat} (h : 0 < n) : IsPositive (digits n) where
  isNumber_eq := isNumber_digits n
  head?_ne := head?_digits_ne_zero h
  one_le := by rwa [numberValue_digits]

theorem digitValue_lt {c : Char} (h : c.isDigit = true) : c.toNat - '0'.toNat < 10 := by
  rw [Char.isDigit_iff_toNat] at h
  have hzero : '0'.toNat = 48 := rfl
  have hnine : '9'.toNat = 57 := rfl
  omega

theorem digits_digitValue {c : Char} (h : c.isDigit = true) :
    digits (c.toNat - '0'.toNat) = [c] := by
  have hlt := digitValue_lt h
  have hge := (Char.isDigit_iff_toNat.1 h).1
  have hzero : '0'.toNat = 48 := rfl
  unfold digits
  rw [Nat.toDigits_of_lt_base hlt, List.singleton_inj, ← Char.toNat_inj,
    Nat.toNat_digitChar_of_lt_ten hlt]
  omega

-- A digit behind a number that is not zero makes the number ten times as large and adds to it.
theorem digits_append {n : Nat} (hn : 0 < n) {ds : List Char} (hds : ∀ c ∈ ds, c.isDigit = true) :
    digits n ++ ds = digits (Nat.ofDigitChars 10 ds n) := by
  induction ds generalizing n with
  | nil => rw [List.append_nil, Nat.ofDigitChars_nil]
  | cons c ds ih =>
    rw [List.forall_mem_cons] at hds
    have hdigit : digits n ++ [c] = digits (10 * n + (c.toNat - '0'.toNat)) := by
      rw [← digits_digitValue hds.1]
      exact Nat.toDigits_append_toDigits (by decide) hn (digitValue_lt hds.1)
    rw [Nat.ofDigitChars_cons, ← ih (by omega) hds.2, ← hdigit, List.append_assoc,
      List.singleton_append]

/--
A number without a zero in front is the only such text with its value.
-/
theorem IsPositive.digits_numberValue {ds : List Char} (h : IsPositive ds) :
    digits (numberValue ds) = ds := by
  have hdigits := isDigit_of_isNumber h.isNumber_eq
  have hhead := h.head?_ne
  cases ds with
  | nil => exact absurd rfl (ne_nil_of_isNumber h.isNumber_eq)
  | cons c ds =>
    rw [List.forall_mem_cons] at hdigits
    rw [List.head?_cons, ne_eq, Option.some.injEq, ← Char.toNat_inj] at hhead
    have hge := (Char.isDigit_iff_toNat.1 hdigits.1).1
    have hpos : 0 < c.toNat - '0'.toNat := by omega
    unfold numberValue
    rw [Nat.ofDigitChars_cons, Nat.mul_zero, Nat.zero_add, ← digits_append hpos hdigits.2,
      digits_digitValue hdigits.1, List.singleton_append]

theorem numberValue_cons_zero (cs : List Char) : numberValue ('0' :: cs) = numberValue cs := by
  unfold numberValue
  rw [Nat.ofDigitChars_cons]
  rfl

theorem numberValue_padStart (width : Nat) (cs : List Char) :
    numberValue (padStart '0' width cs) = numberValue cs := by
  unfold padStart
  induction width - cs.length with
  | zero => rfl
  | succ count ih => rw [List.replicate_succ, List.cons_append, numberValue_cons_zero, ih]

@[simp]
theorem numberValue_twoDigits (n : Nat) : numberValue (twoDigits n) = n := by
  unfold twoDigits
  rw [numberValue_padStart, numberValue_digits]

theorem twoDigits_ne_nil (n : Nat) : twoDigits n ≠ [] := by
  unfold twoDigits padStart
  intro h
  exact digits_ne_nil n (List.append_eq_nil_iff.1 h).2

theorem isNumber_twoDigits (n : Nat) : isNumber (twoDigits n) = true :=
  isNumber_of_forall_isDigit (twoDigits_ne_nil n) fun _ => isDigit_of_mem_twoDigits

theorem length_twoDigits {n : Nat} (h : n < 100) : (twoDigits n).length = 2 := by
  have hle : (digits n).length ≤ 2 := (Nat.length_toDigits_le_iff (by decide) (by decide)).2 h
  unfold twoDigits padStart
  rw [List.length_append, List.length_replicate]
  omega

section Number

variable {ds : List Char} (hds : ∀ c ∈ ds, c.isDigit = true) {c : Char} (hc : c.isDigit = false)

include hds hc

theorem takeWhile_isDigit_append (rest : List Char) :
    (ds ++ c :: rest).takeWhile Char.isDigit = ds := by
  rw [List.takeWhile_append_of_pos hds, List.takeWhile_cons, hc]
  simp

theorem dropWhile_isDigit_append (rest : List Char) :
    (ds ++ c :: rest).dropWhile Char.isDigit = c :: rest := by
  rw [List.dropWhile_append_of_pos hds, List.dropWhile_cons, hc]
  simp

end Number

end Workday.Text
