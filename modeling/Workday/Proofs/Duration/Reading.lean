import Workday.Proofs.Duration

/-!
This module contains the language of durations: which texts are durations, and how many minutes
each of them stands for, with no bound on their number. A token is read as exactly these minutes,
and it is refused if it is no duration or if they are too many for 32 bits.
-/

namespace Workday.Duration

open Text

/--
The text is a duration of so many minutes. Its numbers may have any length and any zeros in front.
-/
inductive Denotes : List Char → Nat → Prop where
  | minutes {minutes : List Char} (m : isNumber minutes = true) :
    Denotes (minutes ++ ['m']) (numberValue minutes)
  | hours {hours : List Char} (h : isNumber hours = true) :
    Denotes (hours ++ ['h']) (60 * numberValue hours)
  | both {hours minutes : List Char} (h : isNumber hours = true) (m : isNumber minutes = true) :
    Denotes (hours ++ 'h' :: (minutes ++ ['m'])) (60 * numberValue hours + numberValue minutes)

variable {cs : List Char} {count : UInt32}

theorem parseChars?_of_denotes {n : Nat} (h : Denotes cs n) : parseChars? cs = ofNat? n := by
  cases h with
  | minutes m => exact parseChars?_minutes m
  | hours h => exact parseChars?_hours h
  | both h m => exact parseChars?_hours_minutes h m

-- What follows the first digits tells which of the three forms a text has.
theorem exists_denotes_of_parseChars? (h : parseChars? cs = some count) : ∃ n, Denotes cs n := by
  have hcs := List.takeWhile_append_dropWhile (p := Char.isDigit) (l := cs)
  unfold parseChars? at h
  dsimp only at h
  split at h
  . contradiction
  . next hfirst =>
    have hfirst := isNumber_takeWhile hfirst
    split at h
    . next hrest =>
      rw [← hcs, hrest]
      exact ⟨_, .minutes hfirst⟩
    . next hrest =>
      rw [← hcs, hrest]
      exact ⟨_, .hours hfirst⟩
    . next rest _ hrest =>
      split at h
      . contradiction
      . next hsecond =>
        split at h
        . next hend =>
          have hrests := List.takeWhile_append_dropWhile (p := Char.isDigit) (l := rest)
          rw [← hcs, hrest, ← hrests, hend]
          exact ⟨_, .both hfirst (isNumber_takeWhile hsecond)⟩
        . contradiction
    . contradiction

theorem parseChars?_eq_some_iff : parseChars? cs = some count ↔ Denotes cs count.toNat := by
  constructor
  . intro h
    obtain ⟨n, hdenotes⟩ := exists_denotes_of_parseChars? h
    rw [parseChars?_of_denotes hdenotes, ofNat?_eq_some_iff] at h
    rwa [h]
  . intro h
    rw [parseChars?_of_denotes h, ofNat?_toNat]

/--
A token is read as a number of minutes exactly if it is a duration of so many minutes and 32 bits
hold them. Every other token is refused, wherever the count becomes too large on the way.
-/
theorem parse?_iff_denotes (token : String) :
    (∀ n : Nat, (parse? token).map UInt32.toNat = some n ↔
      n < UInt32.size ∧ Denotes token.toList n) ∧
    (parse? token = none ↔ ¬∃ n < UInt32.size, Denotes token.toList n) := by
  have hread (n : Nat) : (parse? token).map UInt32.toNat = some n ↔
      n < UInt32.size ∧ Denotes token.toList n := by
    unfold parse?
    rw [Option.map_eq_some_iff]
    constructor
    . rintro ⟨count, hcount, rfl⟩
      exact ⟨count.toNat_lt_size, parseChars?_eq_some_iff.1 hcount⟩
    . intro ⟨hlt, hdenotes⟩
      refine ⟨UInt32.ofNat n, ?_, UInt32.toNat_ofNat_of_lt' hlt⟩
      rw [parseChars?_of_denotes hdenotes, ofNat?_eq_some_iff, UInt32.toNat_ofNat_of_lt' hlt]
  refine ⟨hread, ?_⟩
  simp only [← hread]
  cases parse? token with
  | none => simp
  | some count => simp

example : parse? "071582788h15m" = some 4294967295 := by decide +kernel

example : parse? "71582788h16m" = none := by decide +kernel

end Workday.Duration
