import Workday.Json.Fault
import Workday.Number.Shortest

/-!
This module contains JSON numbers: reading one as it is written, and the value of one, which is an
integer if it is written as one and fits in 64 bits, else a double. The value is needed only to name
a number that stands where something else was expected.
-/

namespace Workday.Json

open Text

structure Numeral where
  whole : List Char
  fraction : List Char
  /-- Whether the exponent is negative, and its digits. -/
  exponent : Option (Bool × List Char)
  deriving Repr, BEq, DecidableEq, Inhabited

/--
Read the digits before the point. Only a zero that stands alone may come first.
-/
def readWhole (atEnd : Cause) : Reader (List Char)
  | [] => .error (.here atEnd [])
  | c :: rest =>
    if c = '0' then
      if (rest.takeWhile Char.isDigit).isEmpty then
        .ok (['0'], rest)
      else
        .error (.next .invalidNumber rest)
    else if c.isDigit then
      .ok (c :: rest.takeWhile Char.isDigit, rest.dropWhile Char.isDigit)
    else
      .error (.next .invalidNumber (c :: rest))

def readDigits (atEnd : Cause) (cs : List Char) : Except Fault (List Char × List Char) :=
  if (cs.takeWhile Char.isDigit).isEmpty then
    .error (if cs.isEmpty then .here atEnd [] else .next .invalidNumber cs)
  else
    .ok (cs.takeWhile Char.isDigit, cs.dropWhile Char.isDigit)

def readFraction (atEnd : Cause) : Reader (List Char)
  | '.' :: rest => readDigits atEnd rest
  | cs => .ok ([], cs)

/--
Whether a sign is a minus, and the characters after the sign, which may be missing.
-/
def readSign : List Char → Bool × List Char
  | '-' :: rest => (true, rest)
  | '+' :: rest => (false, rest)
  | rest => (false, rest)

def readExponent (atEnd : Cause) : Reader (Option (Bool × List Char))
  | [] => .ok (none, [])
  | c :: rest =>
    if c = 'e' ∨ c = 'E' then
      (readDigits atEnd (readSign rest).2).map fun (ds, after) =>
        (some ((readSign rest).1, ds), after)
    else
      .ok (none, c :: rest)

/--
Read a number without its sign. `atEnd` is what is wrong if the text ends where a digit has to be.
-/
def readNumeral (atEnd : Cause) : Reader Numeral := fun cs => do
  let (whole, cs) ← readWhole atEnd cs
  let (fraction, cs) ← readFraction atEnd cs
  let (exponent, cs) ← readExponent atEnd cs
  .ok (⟨whole, fraction, exponent⟩, cs)

theorem length_lt_of_readWhole {atEnd : Cause} {cs rest ds : List Char}
    (h : readWhole atEnd cs = .ok (ds, rest)) : rest.length < cs.length := by
  unfold readWhole at h
  split at h
  . simp at h
  . rename_i c r
    have := (List.dropWhile_sublist Char.isDigit (l := r)).length_le
    split at h
    . split at h
      . simp only [Except.ok.injEq, Prod.mk.injEq] at h
        simp [← h.2]
      . simp at h
    . split at h
      . simp only [Except.ok.injEq, Prod.mk.injEq] at h
        simp only [← h.2, List.length_cons]
        omega
      . simp at h

theorem length_le_of_readDigits {atEnd : Cause} {cs rest ds : List Char}
    (h : readDigits atEnd cs = .ok (ds, rest)) : rest.length ≤ cs.length := by
  unfold readDigits at h
  split at h
  . simp at h
  . simp only [Except.ok.injEq, Prod.mk.injEq] at h
    simpa only [← h.2] using (List.dropWhile_sublist Char.isDigit (l := cs)).length_le

theorem length_le_of_readFraction {atEnd : Cause} {cs rest ds : List Char}
    (h : readFraction atEnd cs = .ok (ds, rest)) : rest.length ≤ cs.length := by
  unfold readFraction at h
  split at h
  . have := length_le_of_readDigits h
    simp only [List.length_cons]
    omega
  . simp only [Except.ok.injEq, Prod.mk.injEq] at h
    simp [← h.2]

theorem length_readSign_le (cs : List Char) : (readSign cs).2.length ≤ cs.length := by
  unfold readSign
  split <;> simp

theorem length_le_of_readExponent {atEnd : Cause} {cs rest : List Char}
    {e : Option (Bool × List Char)} (h : readExponent atEnd cs = .ok (e, rest)) :
    rest.length ≤ cs.length := by
  unfold readExponent at h
  split at h
  . simp only [Except.ok.injEq, Prod.mk.injEq] at h
    simp [← h.2]
  . rename_i c r
    split at h
    . obtain ⟨⟨ds, after⟩, hr, h⟩ := map_eq_ok_iff.1 h
      have := length_readSign_le r
      have := length_le_of_readDigits hr
      simp only [← (Prod.mk.inj h).2, List.length_cons]
      omega
    . simp only [Except.ok.injEq, Prod.mk.injEq] at h
      simp [← h.2]

theorem length_lt_of_readNumeral {atEnd : Cause} {cs rest : List Char} {n : Numeral}
    (h : readNumeral atEnd cs = .ok (n, rest)) : rest.length < cs.length := by
  unfold readNumeral at h
  obtain ⟨⟨whole, r₁⟩, hw, h⟩ := bind_eq_ok_iff.1 h
  obtain ⟨⟨fraction, r₂⟩, hf, h⟩ := bind_eq_ok_iff.1 h
  obtain ⟨⟨exponent, r₃⟩, he, h⟩ := bind_eq_ok_iff.1 h
  have := length_lt_of_readWhole hw
  have := length_le_of_readFraction hf
  have := length_le_of_readExponent he
  simp only [Except.ok.injEq, Prod.mk.injEq] at h
  rw [← h.2]
  omega

def skipNumber (cs : List Char) : Except Fault (List Char) :=
  (readNumeral .invalidNumber cs).map Prod.snd

/--
Take digits into a 64 bit number for as long as they fit. The other digits are given back.
-/
def accumulate (n : Nat) : List Char → Nat × List Char
  | [] => (n, [])
  | c :: cs =>
    let m := n * 10 + (c.toNat - '0'.toNat)
    if m < UInt64.size then accumulate m cs else (n, c :: cs)

/--
How many digits of an exponent it takes until it does not fit in 31 bits.
-/
def exponentLimit? (n count : Nat) : List Char → Option Nat
  | [] => none
  | c :: cs =>
    let m := n * 10 + (c.toNat - '0'.toNat)
    if m < 2147483648 then exponentLimit? m (count + 1) cs else some (count + 1)

/--
The double for `n * 10 ^ e`, formed from the doubles of `n` and of a power of ten. It is `none` if
it is too large.
-/
def timesTen (n : Nat) (e : Int) : Option Binary64 :=
  let f := Binary64.ofNat n
  let power (k : Nat) : Binary64 := Binary64.ofNat (Nat.pow 10 k)
  if 308 < e then
    if n = 0 then some f else none
  else if 0 ≤ e then
    let product := f.mul (power e.toNat)
    if product.isFinite then some product else none
  else if -308 ≤ e then
    some (f.div (power (-e).toNat))
  else if -616 ≤ e then
    some ((f.div (power 308)).div (power (-e - 308).toNat))
  else
    some (Binary64.ofNat 0)

/--
Name a number that is written as the given numeral. `rest` is what follows it.
-/
def describeNumber (negative : Bool) (numeral : Numeral) (rest : List Char) :
    Except Fault String :=
  let sign := if negative then "-" else ""
  let double (value : Option Binary64) : Except Fault String :=
    match value with
    | some x => .ok ("floating point `" ++ sign ++ String.ofList x.text ++ "`")
    | none => .error (.here .numberOutOfRange rest)
  let (n, surplus) := accumulate 0 numeral.whole
  match numeral.fraction, numeral.exponent with
  | [], none =>
    if surplus.isEmpty ∧ (if negative then 0 < n ∧ n ≤ 9223372036854775808 else True) then
      .ok ("integer `" ++ sign ++ toString n ++ "`")
    else
      double (timesTen n surplus.length)
  | fraction, exponent =>
    let (n, dropped) := accumulate n fraction
    let places : Int := (surplus.length : Int) - (fraction.length - dropped.length : Nat)
    match exponent with
    | none => double (timesTen n places)
    | some (below, ds) =>
      match exponentLimit? 0 0 ds with
      | none =>
        let e : Int := numberValue ds
        double (timesTen n (if below then places - e else places + e))
      | some count =>
        if n = 0 ∨ below then
          double (some (Binary64.ofNat 0))
        else
          .error (.here .numberOutOfRange (ds.drop count ++ rest))

end Workday.Json
