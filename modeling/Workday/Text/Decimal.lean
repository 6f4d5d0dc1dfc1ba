/-!
This module contains the decimal notation of natural numbers: which texts are numbers, the value
of one, and the text of a value. Only the ten ASCII digits count as digits.
-/

namespace Workday.Text

/--
Whether a text is a number: at least one character, and every one of them a digit.
-/
def isNumber (cs : List Char) : Bool :=
  !cs.isEmpty && cs.all Char.isDigit

def numberValue (cs : List Char) : Nat :=
  Nat.ofDigitChars 10 cs 0

/--
The shortest sequence of digits that has the given value.
-/
def digits (n : Nat) : List Char :=
  Nat.toDigits 10 n

def padStart (c : Char) (width : Nat) (cs : List Char) : List Char :=
  List.replicate (width - cs.length) c ++ cs

def twoDigits (n : Nat) : List Char :=
  padStart '0' 2 (digits n)

@[simp]
theorem numberValue_digits (n : Nat) : numberValue (digits n) = n :=
  Nat.ofDigitChars_toDigits (by decide) (by decide)

@[simp]
theorem isNumber_nil : isNumber [] = false := rfl

theorem digits_ne_nil (n : Nat) : digits n ≠ [] := by
  have := Nat.length_toDigits_pos (b := 10) (n := n)
  intro h
  simp [digits] at h

end Workday.Text
