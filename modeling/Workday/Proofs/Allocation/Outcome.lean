import Workday.Proofs.Allocation

/-!
This module contains how the allocation of a day comes out. Which of its outcomes it is depends on
nothing but the sum of the given minutes and whether there are gaps. What is told to be left is exact
as long as the sum is a signed 64 bit number. From there on, which takes more than 2^31 tasks, it is
what that largest number leaves.
-/

namespace Workday

section Outcomes

variable {tasks : List Task} (hcount : gapCount tasks < 2 ^ 32) (hfit : sumGiven tasks < 2 ^ 64)

include hcount hfit

theorem fillGaps_cases :
    (480 < sumGiven tasks ∧
      fillGaps tasks = .error (.unbalanced (.overtime (480 - assignedMinutes tasks)))) ∨
    (sumGiven tasks < 480 ∧ gapCount tasks = 0 ∧
      fillGaps tasks = .error (.unbalanced (.undertime (480 - (sumGiven tasks : Int))))) ∨
    (sumGiven tasks = 480 ∧ gapCount tasks = 0 ∧ fillGaps tasks = .ok tasks) ∨
    (sumGiven tasks ≤ 480 ∧ gapCount tasks ≠ 0 ∧ fillGaps tasks = .ok (filled tasks)) := by
  by_cases hover : 480 < sumGiven tasks
  . exact .inl ⟨hover, fillGaps_of_over hfit hover⟩
  . have hleft : sumGiven tasks ≤ 480 := Nat.not_lt.1 hover
    by_cases hgaps : gapCount tasks = 0
    . rw [fillGaps_of_full hgaps hleft]
      split
      . next hfull => exact .inr (.inr (.inl ⟨hfull, hgaps, rfl⟩))
      . next hfull => exact .inr (.inl ⟨Nat.lt_of_le_of_ne hleft hfull, hgaps, rfl⟩)
    . exact .inr (.inr (.inr ⟨hleft, hgaps, fillGaps_of_gaps hcount hgaps hleft⟩))

theorem fillGaps_eq_overtime_iff {left : Int} :
    fillGaps tasks = .error (.unbalanced (.overtime left)) ↔
      480 < sumGiven tasks ∧ left = 480 - assignedMinutes tasks := by
  obtain ⟨hover, heq⟩ | ⟨hunder, _, heq⟩ | ⟨hfull, _, heq⟩ | ⟨hleft, _, heq⟩ :=
    fillGaps_cases hcount hfit
  . simp [heq, hover, eq_comm]
  . simp [heq, Nat.not_lt.2 (Nat.le_of_lt hunder)]
  . simp [heq, hfull]
  . simp [heq, Nat.not_lt.2 hleft]

theorem fillGaps_eq_undertime_iff {left : Int} :
    fillGaps tasks = .error (.unbalanced (.undertime left)) ↔
      sumGiven tasks < 480 ∧ gapCount tasks = 0 ∧ left = 480 - (sumGiven tasks : Int) := by
  obtain ⟨hover, heq⟩ | ⟨hunder, hgaps, heq⟩ | ⟨hfull, _, heq⟩ | ⟨_, hgaps, heq⟩ :=
    fillGaps_cases hcount hfit
  . simp [heq, Nat.not_lt.2 (Nat.le_of_lt hover)]
  . simp [heq, hunder, hgaps, eq_comm]
  . simp [heq, hfull]
  . simp [heq, hgaps]

theorem exists_fillGaps_eq_ok_iff :
    (∃ result, fillGaps tasks = .ok result) ↔
      ¬480 < sumGiven tasks ∧ ¬(sumGiven tasks < 480 ∧ gapCount tasks = 0) := by
  obtain ⟨hover, heq⟩ | ⟨hunder, hgaps, heq⟩ | ⟨hfull, _, heq⟩ | ⟨hleft, hgaps, heq⟩ :=
    fillGaps_cases hcount hfit
  . simp [heq, hover]
  . simp [heq, hunder, hgaps]
  . simp [heq, hfull]
  . simp [heq, hgaps, Nat.not_lt.2 hleft]

end Outcomes

/--
A split is exact if it has what is left of the day and the number of the gaps as they are, and the
shares that it makes leave nothing of the day.
-/
structure Split.IsExact (tasks : List Task) (split : Split) : Prop where
  left_eq : (split.left.toNat : Int) = 480 - (sumGiven tasks : Int)
  count_eq : split.count.toNat = gapCount tasks
  count_ne_zero : split.count.toNat ≠ 0
  toNat_first : (split.part + split.remainder).toNat = split.part.toNat + split.remainder.toNat
  assignedMinutes_eq :
    assignedMinutes (fillFirst (split.part + split.remainder) split.part tasks) = dayBudget

section Splitting

variable {tasks : List Task} {split : Split}

theorem isExact_of_split? (hcount : gapCount tasks < 2 ^ 32) (hfit : sumGiven tasks < 2 ^ 64)
    (h : split? tasks = some split) : split.IsExact tasks := by
  obtain ⟨hnonneg, hgaps⟩ := of_split?_eq_some h
  have hleft : sumGiven tasks ≤ 480 := by
    have hover := dayBudget_lt_assignedMinutes_iff hfit
    omega
  have hfill := fillFirst_of_split hcount hgaps hleft h
  have hfull := sumGiven_filled hgaps hleft
  rw [split?_of_gaps (ofNat_gapCount_ne_zero hcount hgaps) hleft] at h
  obtain rfl := Option.some.inj h
  have hnat : (UInt32.ofNat (480 - sumGiven tasks)).toNat = 480 - sumGiven tasks :=
    UInt32.toNat_ofNat_of_lt' (by rw [UInt32.size]; omega)
  have hcount : (UInt32.ofNat (gapCount tasks)).toNat = gapCount tasks :=
    UInt32.toNat_ofNat_of_lt' hcount
  constructor
  . rw [hnat]
    omega
  . exact hcount
  . rw [hcount]
    exact hgaps
  . have hpart : (480 - sumGiven tasks) / gapCount tasks ≤ 480 - sumGiven tasks :=
      Nat.div_le_self ..
    have hremainder : (480 - sumGiven tasks) % gapCount tasks ≤ 480 - sumGiven tasks :=
      Nat.mod_le ..
    rw [UInt32.toNat_add, Split.part, Split.remainder, UInt32.toNat_div, UInt32.toNat_mod, hnat, hcount]
    apply Nat.mod_eq_of_lt
    omega
  . rw [hfill, assignedMinutes_of_le (by omega), hfull]
    rfl

end Splitting

/--
Filling gaps tells an excess exactly if the given minutes exceed the day, and a shortage exactly if
they fall short of it without a gap. What it tells is what is left, except that an excess is counted
up to the largest signed 64 bit number only, which no 2^31 tasks reach. All else that the allocation
computes is exact, and its last check never refuses.
-/
theorem fillGaps_outcomes (tasks : List Task) (hfew : tasks.length < 2 ^ 32) :
    (∀ left, fillGaps tasks = .error (.unbalanced (.overtime left)) ↔
      480 < sumGiven tasks ∧ left = 480 - ((min (sumGiven tasks) (2 ^ 63 - 1) : Nat) : Int)) ∧
    (∀ left, fillGaps tasks = .error (.unbalanced (.undertime left)) ↔
      sumGiven tasks < 480 ∧ gapCount tasks = 0 ∧ left = 480 - (sumGiven tasks : Int)) ∧
    ((∃ result, fillGaps tasks = .ok result) ↔
      ¬480 < sumGiven tasks ∧ ¬(sumGiven tasks < 480 ∧ gapCount tasks = 0)) ∧
    ((totalMinutes tasks).toNat = sumGiven tasks ∧ sumGiven tasks < 2 ^ 64) ∧
    (tasks.length ≤ 2 ^ 31 → sumGiven tasks < 2 ^ 63) ∧
    ∀ split, split? tasks = some split → split.IsExact tasks := by
  have hcount : gapCount tasks < 2 ^ 32 := Nat.lt_of_le_of_lt (gapCount_le_length tasks) hfew
  have hfit : sumGiven tasks < 2 ^ 64 := sumGiven_lt (Nat.le_of_lt hfew)
  refine ⟨?_, ?_, exists_fillGaps_eq_ok_iff hcount hfit, ⟨toNat_totalMinutes_of_lt hfit, hfit⟩, ?_, ?_⟩
  . intro left
    rw [fillGaps_eq_overtime_iff hcount hfit, assignedMinutes_eq_min hfit]
  . intro left
    rw [fillGaps_eq_undertime_iff hcount hfit]
  . intro hhalf
    have hle := sumGiven_le tasks
    omega
  . intro split hsplit
    exact isExact_of_split? hcount hfit hsplit

theorem fillGaps_three_gaps :
    let tasks : List Task := [⟨"LP-1", none⟩, ⟨"LP-2", some 379⟩, ⟨"LP-3", none⟩, ⟨"LP-4", none⟩]
    tasks.length < 2 ^ 32 ∧ (∃ result, fillGaps tasks = .ok result) ∧
      split? tasks = some ⟨101, 3, by decide⟩ ∧ Split.IsExact tasks ⟨101, 3, by decide⟩ := by
  intro tasks
  have hfew : tasks.length < 2 ^ 32 := by decide
  have hsplit : split? tasks = some ⟨101, 3, by decide⟩ := by decide
  obtain ⟨_, _, hok, _, _, hexact⟩ := fillGaps_outcomes tasks hfew
  exact ⟨hfew, hok.2 (by decide), hsplit, hexact _ hsplit⟩

/--
With one task more than 2^31 the excess that is told can be less than the one there is.
-/
theorem fillGaps_counts_to_largest :
    let tasks : List Task := List.replicate (2 ^ 31 + 1) ⟨"LP-1", some 4294967295⟩
    tasks.length < 2 ^ 32 ∧ 480 < sumGiven tasks ∧
      fillGaps tasks = .error (.unbalanced (.overtime (480 - 9223372036854775807))) ∧
      fillGaps tasks ≠ .error (.unbalanced (.overtime (480 - (sumGiven tasks : Int)))) := by
  intro tasks
  have hsum : sumGiven tasks = (2 ^ 31 + 1) * 4294967295 := sumGiven_replicate _ _
  have hover : 480 < sumGiven tasks := by
    rw [hsum]
    decide
  have hfit : sumGiven tasks < 2 ^ 64 := by
    rw [hsum]
    decide
  have htold := fillGaps_of_over hfit hover
  rw [assignedMinutes_eq_min hfit, hsum] at htold
  refine ⟨?_, ?_, htold, ?_⟩
  . rw [List.length_replicate]
    decide
  . rw [hsum]
    decide
  . rw [htold, hsum]
    decide

end Workday
