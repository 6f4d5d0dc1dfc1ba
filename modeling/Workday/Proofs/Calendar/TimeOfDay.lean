import Workday.Calendar.TimeOfDay
import Workday.Proofs.Blank
import Workday.Proofs.Decimal

/-!
This module contains the language of times of day: which texts are times, and for which hour,
minute and second each of them stands. A time has many texts, with one digit or with white space in
front of its numbers. All of them are read as that time, and so is the one that is written for it.
-/

namespace Workday

open Text

theorem Text.isBlank_of_isDigit {c : Char} (h : c.isDigit = true) : isBlank c = false := by
  have hall : ∀ n < 10, (digits n).all (!isBlank ·) = true := by decide
  have hc := hall _ (digitValue_lt h)
  rw [digits_digitValue h] at hc
  simpa using hc

namespace TimeOfDay

/--
The text is one of the numbers of a time. It has one or two digits, after any white space.
-/
inductive IsPart : List Char → Nat → Prop where
  | number {blanks digits : List Char} (b : ∀ c ∈ blanks, isBlank c = true)
      (d : isNumber digits = true) (l : digits.length ≤ 2) :
      IsPart (blanks ++ digits) (numberValue digits)

/--
The text consists of an hour, a minute and a second, however large they are.
-/
inductive Denotes : List Char → Nat → Nat → Nat → Prop where
  | parts {hours minutes seconds : List Char} {hour minute second : Nat} (h : IsPart hours hour)
      (m : IsPart minutes minute) (s : IsPart seconds second) :
      Denotes (hours ++ ':' :: (minutes ++ ':' :: seconds)) hour minute second

section Part

variable {cs part rest : List Char} {n : Nat}

theorem isDigit_of_head?_colon (rest : List Char) :
    ∀ c, (':' :: rest).head? = some c → c.isDigit = false := by
  intro c hc
  cases hc
  rfl

-- A number of full width ends by its length, and a shorter one by what follows it.
theorem takeWhile_take_append {digits : List Char} {width : Nat}
    (hdigits : ∀ c ∈ digits, c.isDigit = true) (hlength : digits.length ≤ width)
    (hrest : ∀ c, rest.head? = some c → c.isDigit = false) :
    ((digits ++ rest).take width).takeWhile Char.isDigit = digits := by
  rw [List.take_append, List.take_of_length_le hlength, List.takeWhile_append_of_pos hdigits]
  cases rest with
  | nil => simp
  | cons c rest =>
    cases width - digits.length with
    | zero => simp
    | succ k => simp [hrest c rfl]

theorem IsPart.readPart?_append (h : IsPart part n)
    (hrest : ∀ c, rest.head? = some c → c.isDigit = false) :
    readPart? (part ++ rest) = some (n, rest) := by
  obtain @⟨blanks, digits, b, d, l⟩ := h
  have hdigits := isDigit_of_isNumber d
  have htrim : trimStart (blanks ++ digits ++ rest) = digits ++ rest := by
    rw [List.append_assoc, trimStart_append b, trimStart_eq_self]
    intro c hc
    rw [List.head?_append, List.head?_eq_some_head (ne_nil_of_isNumber d), Option.some_or,
      Option.some.injEq] at hc
    rw [← hc]
    exact isBlank_of_isDigit (hdigits _ (List.head_mem _))
  unfold readPart?
  rw [htrim, takeWhile_take_append hdigits l hrest]
  dsimp only
  rw [if_neg, List.drop_left]
  rw [List.isEmpty_iff]
  exact ne_nil_of_isNumber d

theorem exists_isPart_of_readPart? (h : readPart? cs = some (n, rest)) :
    ∃ part, cs = part ++ rest ∧ IsPart part n := by
  unfold readPart? at h
  dsimp only at h
  split at h
  . contradiction
  . next hne =>
    cases h
    obtain ⟨blanks, hcs, b⟩ := exists_append_trimStart cs
    have hprefix : ((trimStart cs).take 2).takeWhile Char.isDigit <+: trimStart cs :=
      (List.takeWhile_prefix _).trans (List.take_prefix _ _)
    have hlength : (((trimStart cs).take 2).takeWhile Char.isDigit).length ≤ 2 :=
      Nat.le_trans (List.takeWhile_prefix _).length_le (List.length_take_le _ _)
    refine ⟨blanks ++ _, ?_, .number b (isNumber_takeWhile hne) hlength⟩
    rw [List.append_assoc, List.prefix_iff_eq_append.1 hprefix, ← hcs]

end Part

variable {cs : List Char} {hour minute second : Nat} {time : TimeOfDay}

theorem of?_eq_some_iff :
    of? hour minute second = some time ↔
      time.hour = hour ∧ time.minute = minute ∧ time.second = second := by
  constructor
  . intro h
    unfold of? at h
    split at h
    . cases h
      exact ⟨rfl, rfl, rfl⟩
    . contradiction
  . rintro ⟨rfl, rfl, rfl⟩
    exact dif_pos ⟨time.hour_lt, time.minute_lt, time.second_le⟩

theorem parseChars?_of_denotes (h : Denotes cs hour minute second) :
    parseChars? cs = of? hour minute second := by
  obtain @⟨_, _, seconds, _, _, second, h, m, s⟩ := h
  have hsecond : readPart? (seconds ++ []) = some (second, []) := s.readPart?_append (by simp)
  rw [List.append_nil] at hsecond
  unfold parseChars?
  simp only [h.readPart?_append (isDigit_of_head?_colon _),
    m.readPart?_append (isDigit_of_head?_colon _), hsecond, Option.bind_eq_bind, Option.bind_some,
    List.isEmpty_nil, ↓reduceIte]

-- Every number that was read is a part of the text, and only the last one may stand at its end.
theorem denotes_of_parseChars? (h : parseChars? cs = some time) :
    Denotes cs time.hour time.minute time.second := by
  unfold parseChars? at h
  simp only [Option.bind_eq_bind, Option.bind_eq_some_iff] at h
  obtain ⟨⟨hour, _⟩, hhour, h⟩ := h
  obtain ⟨hours, rfl, hpart⟩ := exists_isPart_of_readPart? hhour
  split at h
  . next _ _ hcolon =>
    cases hcolon
    obtain ⟨⟨minute, _⟩, hminute, h⟩ := Option.bind_eq_some_iff.1 h
    obtain ⟨minutes, rfl, mpart⟩ := exists_isPart_of_readPart? hminute
    split at h
    . next _ _ hcolon =>
      cases hcolon
      obtain ⟨⟨second, _⟩, hsecond, h⟩ := Option.bind_eq_some_iff.1 h
      obtain ⟨seconds, rfl, spart⟩ := exists_isPart_of_readPart? hsecond
      split at h
      . next hend =>
        cases List.isEmpty_iff.1 hend
        obtain ⟨rfl, rfl, rfl⟩ := of?_eq_some_iff.1 h
        rw [List.append_nil]
        exact .parts hpart mpart spart
      . contradiction
    . contradiction
  . contradiction

/--
A text is read as a time exactly if it denotes the numbers of that time.
-/
theorem parse?_eq_some_iff {text : String} :
    parse? text = some time ↔ Denotes text.toList time.hour time.minute time.second := by
  constructor
  . intro h
    exact denotes_of_parseChars? h
  . intro h
    unfold parse?
    rw [parseChars?_of_denotes h, of?_eq_some_iff]
    exact ⟨rfl, rfl, rfl⟩

theorem exists_parse?_eq_some_iff {text : String} :
    (∃ time, parse? text = some time) ↔
      ∃ hour ≤ 23, ∃ minute ≤ 59, ∃ second ≤ 60, Denotes text.toList hour minute second := by
  simp only [parse?_eq_some_iff]
  constructor
  . intro ⟨time, h⟩
    exact ⟨time.hour, Nat.le_of_lt_succ time.hour_lt, time.minute,
      Nat.le_of_lt_succ time.minute_lt, time.second, time.second_le, h⟩
  . intro ⟨hour, hhour, minute, hminute, second, hsecond, h⟩
    exact ⟨⟨hour, minute, second, Nat.lt_succ_of_le hhour, Nat.lt_succ_of_le hminute, hsecond⟩, h⟩

/--
The notation of a time: hours, minutes and seconds with two digits each.
-/
def IsNotation (cs : List Char) : Prop :=
  ∃ hour minute second, cs = hour ++ ':' :: minute ++ ':' :: second ∧
    ∀ part ∈ [hour, minute, second], isNumber part = true ∧ part.length = 2

theorem toList_text (time : TimeOfDay) :
    time.text.toList =
      twoDigits time.hour ++ ':' :: (twoDigits time.minute ++ ':' :: twoDigits time.second) := by
  unfold text
  rw [String.toList_ofList, List.append_assoc, List.cons_append]

theorem lt_hundred (time : TimeOfDay) :
    time.hour < 100 ∧ time.minute < 100 ∧ time.second < 100 := by
  have hhour := time.hour_lt
  have hminute := time.minute_lt
  have hsecond := time.second_le
  omega

theorem isNotation_text (time : TimeOfDay) : IsNotation time.text.toList := by
  obtain ⟨hhour, hminute, hsecond⟩ := time.lt_hundred
  refine ⟨twoDigits time.hour, twoDigits time.minute, twoDigits time.second, ?_, ?_⟩
  . rw [toList_text, List.append_assoc, List.cons_append]
  . simp only [List.forall_mem_cons, isNumber_twoDigits, true_and]
    exact ⟨length_twoDigits hhour, length_twoDigits hminute, length_twoDigits hsecond, by simp⟩

theorem isPart_twoDigits {n : Nat} (h : n < 100) : IsPart (twoDigits n) n := by
  have hpart : IsPart ([] ++ twoDigits n) (numberValue (twoDigits n)) :=
    .number (by simp) (isNumber_twoDigits n) (Nat.le_of_eq (length_twoDigits h))
  rwa [List.nil_append, numberValue_twoDigits] at hpart

theorem denotes_text (time : TimeOfDay) :
    Denotes time.text.toList time.hour time.minute time.second := by
  obtain ⟨hhour, hminute, hsecond⟩ := time.lt_hundred
  rw [toList_text]
  exact .parts (isPart_twoDigits hhour) (isPart_twoDigits hminute) (isPart_twoDigits hsecond)

theorem parse?_text (time : TimeOfDay) : parse? time.text = some time :=
  parse?_eq_some_iff.2 time.denotes_text

example : (parse? " 7:\u00a05:60").map text = some "07:05:60" := by decide +kernel

example : parse? "07:05:60 " = none := by decide +kernel

theorem text_inj {time other : TimeOfDay} : time.text = other.text ↔ time = other := by
  constructor
  . intro h
    have hread := time.parse?_text
    rw [h, other.parse?_text] at hread
    exact (Option.some.inj hread).symm
  . intro h
    rw [h]

end TimeOfDay

end Workday
