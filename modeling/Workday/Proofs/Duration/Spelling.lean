import Workday.Proofs.Duration

/-!
This module contains the spellings of durations. Of all tokens that stand for the same minutes, the
one that is written for them is the only one with no zero that could be left out and with less than
sixty minutes. Were more minutes allowed without hours, some durations would have two such tokens.
-/

namespace Workday.Duration

open Text

/--
The notation of a duration with no zero in front of a number, no part that is zero and less than
sixty minutes. No time at all is `0m`.
-/
def IsReduced (cs : List Char) : Prop :=
  cs = ['0', 'm'] ∨ IsCanonical cs

variable {cs : List Char}

theorem IsCanonical.exists_renderChars (h : IsCanonical cs) :
    ∃ hours minutes, minutes ≤ 59 ∧ renderChars hours minutes = cs := by
  unfold renderChars
  cases h with
  | @hours hours h =>
    refine ⟨numberValue hours, 0, by decide, ?_⟩
    rw [if_neg (Nat.ne_of_gt h.one_le), if_pos rfl, h.digits_numberValue]
  | @minutes minutes m hle =>
    refine ⟨0, numberValue minutes, hle, ?_⟩
    rw [if_pos rfl, m.digits_numberValue]
  | @both hours minutes h m hle =>
    refine ⟨numberValue hours, numberValue minutes, hle, ?_⟩
    rw [if_neg (Nat.ne_of_gt h.one_le), if_neg (Nat.ne_of_gt m.one_le), h.digits_numberValue,
      m.digits_numberValue]

theorem IsReduced.exists_renderChars (h : IsReduced cs) :
    ∃ hours minutes, minutes ≤ 59 ∧ renderChars hours minutes = cs := by
  cases h with
  | inl h => exact ⟨0, 0, by decide, h ▸ rfl⟩
  | inr h => exact h.exists_renderChars

theorem isReduced_render (count : UInt32) : IsReduced (render count).toList := by
  by_cases h : count.toNat = 0
  . left
    rw [← UInt32.toNat_zero, UInt32.toNat_inj] at h
    rw [h]
    rfl
  . right
    exact isCanonical_render (Nat.pos_of_ne_zero h)

-- The parts of a reduced spelling are the quotient and the remainder that are written.
theorem IsReduced.eq_render {token : String} {count : UInt32} (h : IsReduced token.toList)
    (hparse : parse? token = some count) : token = render count := by
  obtain ⟨hours, minutes, hle, htoken⟩ := h.exists_renderChars
  unfold parse? at hparse
  rw [← htoken, parseChars?_renderChars, ofNat?_eq_some_iff] at hparse
  have hhours : count.toNat / 60 = hours := by omega
  have hminutes : count.toNat % 60 = minutes := by omega
  unfold render
  rw [hhours, hminutes, htoken, String.ofList_toList]

/--
A reduced token that is read as the same minutes as the given one.
-/
def IsSpellingOf (spelling token : String) : Prop :=
  IsReduced spelling.toList ∧ parse? spelling = parse? token

theorem isSpellingOf_iff {spelling token : String} {count : UInt32}
    (h : parse? token = some count) : IsSpellingOf spelling token ↔ spelling = render count := by
  unfold IsSpellingOf
  rw [h]
  constructor
  . intro ⟨hreduced, hparse⟩
    exact hreduced.eq_render hparse
  . rintro rfl
    exact ⟨isReduced_render count, parse?_render count⟩

/--
What is written for a number of minutes is read as that number. For every duration it is the only
reduced token that is read the same, so two tokens are the same duration exactly if one reduced
token stands for both.
-/
theorem render_only_spelling :
    (∀ count : UInt32, parse? (render count) = some count) ∧
    (∀ (token : String) (count : UInt32), parse? token = some count →
      ∀ spelling, IsSpellingOf spelling token ↔ spelling = render count) ∧
    ∀ (token other : String) (m n : UInt32), parse? token = some m → parse? other = some n →
      (m = n ↔ ∃ spelling, IsSpellingOf spelling token ∧ IsSpellingOf spelling other) := by
  refine ⟨parse?_render, ?_, ?_⟩
  . intro token count h spelling
    exact isSpellingOf_iff h
  . intro token other m n hm hn
    constructor
    . rintro rfl
      exact ⟨render m, (isSpellingOf_iff hm).2 rfl, (isSpellingOf_iff hn).2 rfl⟩
    . intro ⟨spelling, htoken, hother⟩
      have heq : parse? token = parse? other := htoken.2.symm.trans hother.2
      rw [hm, hn] at heq
      exact Option.some.inj heq

theorem render_only_spelling_of_ninety_minutes :
    (parse? "0090m" = some 90 ∧ parse? "001h30m" = some 90) ∧
      parse? (render 90) = some 90 ∧
      (∀ spelling, IsSpellingOf spelling "0090m" ↔ spelling = render 90) ∧
      ∃ spelling, IsSpellingOf spelling "0090m" ∧ IsSpellingOf spelling "001h30m" := by
  have hminutes : parse? "0090m" = some 90 := by decide +kernel
  have hboth : parse? "001h30m" = some 90 := by decide +kernel
  obtain ⟨hread, honly, hsame⟩ := render_only_spelling
  refine ⟨⟨hminutes, hboth⟩, hread 90, honly "0090m" 90 hminutes, ?_⟩
  exact (hsame "0090m" "001h30m" 90 90 hminutes hboth).1 rfl

/--
The notation of a duration that is reduced, but for a bound on the minutes beside hours only: minutes
that stand alone may be more than fifty-nine.
-/
def IsTrimmed (cs : List Char) : Prop :=
  IsReduced cs ∨ ∃ minutes, IsPositive minutes ∧ cs = minutes ++ ['m']

/--
One hour and a half has two trimmed tokens, of which one only is written.
-/
theorem isTrimmed_not_unique :
    IsTrimmed "90m".toList ∧ parse? "90m" = some 90 ∧ render 90 = "1h30m" ∧
      ¬∀ (token : String) (count : UInt32), parse? token = some count →
        ∀ other : String, IsTrimmed other.toList → parse? other = some count →
          other = render count := by
  have htrimmed : IsTrimmed "90m".toList :=
    .inr ⟨['9', '0'], ⟨by decide, by decide, by decide⟩, by decide⟩
  have hparse : parse? "90m" = some 90 := by decide +kernel
  have hrender : render 90 = "1h30m" := by decide +kernel
  refine ⟨htrimmed, hparse, hrender, ?_⟩
  intro h
  have heq := h "90m" 90 hparse "90m" htrimmed hparse
  rw [hrender] at heq
  contradiction

end Workday.Duration
