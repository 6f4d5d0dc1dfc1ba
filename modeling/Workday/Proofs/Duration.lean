import Workday.Duration
import Workday.Proofs.Decimal

/-!
This module contains the correctness of the notation of durations. Counting in 32 bits, with a check
after every digit, product and sum, finds what the numbers of a duration come to, unless that is too
large. What is written for a number of minutes is read as that number.
-/

namespace Workday.Duration

open Text

section Counting

variable {n : Nat} {count : UInt32}

theorem ofNat?_eq_some_iff : ofNat? n = some count ↔ count.toNat = n := by
  unfold ofNat?
  split
  . next h =>
    rw [Option.some.injEq, ← UInt32.toNat_inj, UInt32.toNat_ofNat_of_lt' h]
    exact eq_comm
  . next h =>
    have hcount := count.toNat_lt_size
    constructor
    . intro h
      contradiction
    . omega

theorem ofNat?_toNat (count : UInt32) : ofNat? count.toNat = some count :=
  ofNat?_eq_some_iff.2 rfl

theorem ofNat?_eq_none_iff : ofNat? n = none ↔ UInt32.size ≤ n := by
  unfold ofNat?
  split
  . next h => simp [h]
  . next h => simp [Nat.le_of_not_lt h]

-- What is too large once stays too large, so that one check at the end finds the same.
theorem ofNat?_bind {step : UInt32 → Option UInt32} (f : Nat → Nat)
    (hstep : ∀ count, step count = ofNat? (f count.toNat)) (hle : n ≤ f n) :
    (ofNat? n >>= step) = ofNat? (f n) := by
  cases h : ofNat? n with
  | none =>
    rw [ofNat?_eq_none_iff] at h
    exact (ofNat?_eq_none_iff.2 (Nat.le_trans h hle)).symm
  | some count =>
    rw [ofNat?_eq_some_iff] at h
    rw [Option.bind_eq_bind, Option.bind_some, hstep, h]

theorem pushDigit?_eq (count : UInt32) (digit : Char) :
    pushDigit? count digit = ofNat? (10 * count.toNat + (digit.toNat - '0'.toNat)) := by
  apply ofNat?_bind fun tens => tens + (digit.toNat - '0'.toNat)
  . intro tens
    rfl
  . apply Nat.le_add_right

theorem le_ofDigitChars (ds : List Char) (n : Nat) : n ≤ Nat.ofDigitChars 10 ds n := by
  induction ds generalizing n with
  | nil => exact Nat.le_refl n
  | cons d ds ih =>
    rw [Nat.ofDigitChars_cons]
    apply Nat.le_trans _ (ih _)
    omega

theorem foldlM_pushDigit? (ds : List Char) (count : UInt32) :
    ds.foldlM pushDigit? count = ofNat? (Nat.ofDigitChars 10 ds count.toNat) := by
  induction ds generalizing count with
  | nil => exact (ofNat?_toNat count).symm
  | cons d ds ih =>
    rw [List.foldlM_cons, pushDigit?_eq, Nat.ofDigitChars_cons]
    apply ofNat?_bind (Nat.ofDigitChars 10 ds)
    . apply ih
    . apply le_ofDigitChars

/--
Counting digits in 32 bits gives their value, unless that is too large.
-/
theorem ofDigits?_eq (ds : List Char) : ofDigits? ds = ofNat? (numberValue ds) := by
  unfold ofDigits?
  rw [foldlM_pushDigit?]
  rfl

theorem ofHours?_add (hours minutes : UInt32) :
    (ofHours? hours >>= fun whole => ofNat? (whole.toNat + minutes.toNat)) =
      ofNat? (60 * hours.toNat + minutes.toNat) := by
  apply ofNat?_bind fun whole => whole + minutes.toNat
  . intro whole
    rfl
  . apply Nat.le_add_right

end Counting

section Reading

variable {hours minutes : List Char}

theorem parseChars?_minutes (h : isNumber minutes = true) :
    parseChars? (minutes ++ ['m']) = ofNat? (numberValue minutes) := by
  have hdigits := isDigit_of_isNumber h
  unfold parseChars?
  rw [takeWhile_isDigit_append hdigits (by decide), dropWhile_isDigit_append hdigits (by decide)]
  simp [ne_nil_of_isNumber h, ofDigits?_eq]

theorem parseChars?_hours (h : isNumber hours = true) :
    parseChars? (hours ++ ['h']) = ofNat? (60 * numberValue hours) := by
  have hdigits := isDigit_of_isNumber h
  unfold parseChars?
  rw [takeWhile_isDigit_append hdigits (by decide), dropWhile_isDigit_append hdigits (by decide)]
  rw [if_neg (by simp [ne_nil_of_isNumber h])]
  dsimp only
  rw [ofDigits?_eq]
  apply ofNat?_bind (60 * ·)
  . intro hours
    rfl
  . omega

theorem parseChars?_hours_minutes (h : isNumber hours = true) (m : isNumber minutes = true) :
    parseChars? (hours ++ 'h' :: (minutes ++ ['m'])) =
      ofNat? (60 * numberValue hours + numberValue minutes) := by
  have hhours := isDigit_of_isNumber h
  have hminutes := isDigit_of_isNumber m
  unfold parseChars?
  rw [takeWhile_isDigit_append hhours (by decide), dropWhile_isDigit_append hhours (by decide)]
  rw [if_neg (by simp [ne_nil_of_isNumber h])]
  -- Digits stand between the two letters, so only the case of hours and minutes applies.
  split
  . next heq => simp at heq
  . next heq => simp [ne_nil_of_isNumber m] at heq
  . next rest _ heq =>
    rw [← List.tail_eq_of_cons_eq heq]
    rw [takeWhile_isDigit_append hminutes (by decide), dropWhile_isDigit_append hminutes (by decide)]
    rw [if_neg (by simp [ne_nil_of_isNumber m]), if_pos rfl, ofDigits?_eq, ofDigits?_eq]
    apply ofNat?_bind fun count => 60 * count + numberValue minutes
    . intro count
      apply ofNat?_bind fun added => 60 * count.toNat + added
      . apply ofHours?_add
      . omega
    . omega
  . next heq => exact absurd rfl (heq _)

theorem parseChars?_renderChars (hours minutes : Nat) :
    parseChars? (renderChars hours minutes) = ofNat? (60 * hours + minutes) := by
  unfold renderChars
  split
  . next h =>
    rw [parseChars?_minutes (isNumber_digits minutes), numberValue_digits, h, Nat.mul_zero,
      Nat.zero_add]
  . split
    . next h => rw [parseChars?_hours (isNumber_digits hours), numberValue_digits, h, Nat.add_zero]
    . rw [parseChars?_hours_minutes (isNumber_digits hours) (isNumber_digits minutes),
        numberValue_digits, numberValue_digits]

end Reading

theorem parse?_render (minutes : UInt32) : parse? (render minutes) = some minutes := by
  unfold parse? render
  rw [String.toList_ofList, parseChars?_renderChars, ofNat?_eq_some_iff]
  omega

/--
The notation of a duration that is not zero, with no part that is zero and less than sixty minutes
beside the hours.
-/
inductive IsCanonical : List Char → Prop where
  | hours {hours : List Char} (h : IsPositive hours) : IsCanonical (hours ++ ['h'])
  | minutes {minutes : List Char} (m : IsPositive minutes) (hle : numberValue minutes ≤ 59) :
    IsCanonical (minutes ++ ['m'])
  | both {hours minutes : List Char} (h : IsPositive hours) (m : IsPositive minutes)
    (hle : numberValue minutes ≤ 59) : IsCanonical (hours ++ 'h' :: (minutes ++ ['m']))

theorem IsCanonical.exists_isNumber {cs : List Char} (h : IsCanonical cs) :
    ∃ number rest, cs = number ++ rest ∧ isNumber number = true := by
  cases h with
  | hours h => exact ⟨_, _, rfl, h.isNumber_eq⟩
  | minutes m _ => exact ⟨_, _, rfl, m.isNumber_eq⟩
  | both h _ _ => exact ⟨_, _, rfl, h.isNumber_eq⟩

theorem isCanonical_renderChars {hours minutes : Nat} (hle : minutes ≤ 59)
    (hpos : 0 < hours ∨ 0 < minutes) : IsCanonical (renderChars hours minutes) := by
  have hvalue : numberValue (digits minutes) ≤ 59 := by rwa [numberValue_digits]
  unfold renderChars
  split
  . exact .minutes (isPositive_digits (by omega)) hvalue
  . next hhours =>
    split
    . exact .hours (isPositive_digits (Nat.pos_of_ne_zero hhours))
    . next hminutes =>
      exact .both (isPositive_digits (Nat.pos_of_ne_zero hhours))
        (isPositive_digits (Nat.pos_of_ne_zero hminutes)) hvalue

theorem isCanonical_render {minutes : UInt32} (h : 0 < minutes.toNat) :
    IsCanonical (render minutes).toList := by
  unfold render
  rw [String.toList_ofList]
  apply isCanonical_renderChars
  . omega
  . omega

end Workday.Duration
