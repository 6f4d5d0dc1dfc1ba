import Mathlib.Algebra.Order.Ring.Nat
import Workday.Allocation

/-!
This module contains the laws of the allocation. Filling gaps keeps the tasks and their order, leaves
no gap, and brings a list with gaps that does not exceed the budget to exactly the budget. It fails
for the two ways in which a list misses the budget and for nothing else, as long as the gaps can be
counted in 32 bits and the minutes in 64.
-/

namespace Workday

@[simp]
theorem gapCount_nil : gapCount [] = 0 := rfl

@[simp]
theorem gapCount_cons_none (id : String) (tasks : List Task) :
    gapCount (⟨id, none⟩ :: tasks) = gapCount tasks + 1 :=
  List.countP_cons_of_pos rfl

@[simp]
theorem gapCount_cons_some (id : String) (minutes : UInt32) (tasks : List Task) :
    gapCount (⟨id, some minutes⟩ :: tasks) = gapCount tasks :=
  List.countP_cons_of_neg (by simp)

theorem any_isGap_eq (tasks : List Task) : tasks.any Task.isGap = decide (gapCount tasks ≠ 0) := by
  induction tasks with
  | nil => rfl
  | cons task tasks ih =>
    obtain ⟨id, given⟩ := task
    cases given <;> simp [ih]

theorem gapCount_le_length (tasks : List Task) : gapCount tasks ≤ tasks.length :=
  List.countP_le_length

section Sum

/--
The sum of the minutes that are given in a list of tasks.
-/
def sumGiven (tasks : List Task) : Nat :=
  ((tasks.filterMap Task.minutes).map UInt32.toNat).sum

@[simp]
theorem sumGiven_nil : sumGiven [] = 0 := rfl

@[simp]
theorem sumGiven_cons (task : Task) (tasks : List Task) :
    sumGiven (task :: tasks) = task.spent + sumGiven tasks := by
  obtain ⟨id, given⟩ := task
  unfold sumGiven
  cases given with
  | none =>
    have hnone : Task.minutes ⟨id, none⟩ = none := rfl
    rw [List.filterMap_cons_none hnone, Task.spent_mk_none, Nat.zero_add]
  | some minutes =>
    have hsome : Task.minutes ⟨id, some minutes⟩ = some minutes := rfl
    rw [List.filterMap_cons_some hsome, List.map_cons, List.sum_cons, Task.spent_mk_some]

theorem sumGiven_eq_sum (tasks : List Task) :
    sumGiven tasks = (tasks.map Task.spent).sum := by
  induction tasks with
  | nil => rfl
  | cons task tasks ih => rw [sumGiven_cons, List.map_cons, List.sum_cons, ih]

theorem sumGiven_append (tasks others : List Task) :
    sumGiven (tasks ++ others) = sumGiven tasks + sumGiven others := by
  rw [sumGiven_eq_sum, sumGiven_eq_sum, sumGiven_eq_sum, List.map_append, List.sum_append]

theorem sumGiven_replicate (count : Nat) (task : Task) :
    sumGiven (List.replicate count task) = count * task.spent := by
  rw [sumGiven_eq_sum, List.map_replicate, List.sum_replicate_nat]

theorem sumGiven_add_le (tasks : List Task) :
    sumGiven tasks + (2 ^ 32 - 1) * gapCount tasks ≤ (2 ^ 32 - 1) * tasks.length := by
  induction tasks with
  | nil => simp
  | cons task tasks ih =>
    obtain ⟨id, given⟩ := task
    cases given with
    | none =>
      simp only [sumGiven_cons, Task.spent_mk_none, gapCount_cons_none, List.length_cons]
      omega
    | some minutes =>
      have := minutes.toNat_lt
      simp only [sumGiven_cons, Task.spent_mk_some, gapCount_cons_some, List.length_cons]
      omega

theorem sumGiven_le (tasks : List Task) : sumGiven tasks ≤ (2 ^ 32 - 1) * tasks.length := by
  have := sumGiven_add_le tasks
  omega

variable {tasks : List Task}

theorem sumGiven_lt (h : tasks.length ≤ 2 ^ 32) : sumGiven tasks < 2 ^ 64 := by
  have := sumGiven_le tasks
  omega

theorem toNat_totalMinutes (tasks : List Task) :
    (totalMinutes tasks).toNat = sumGiven tasks % 2 ^ 64 := by
  induction tasks with
  | nil => rfl
  | cons task tasks ih =>
    rw [totalMinutes_cons, UInt64.toNat_add, UInt32.toNat_toUInt64, ih, Nat.add_mod_mod,
      sumGiven_cons, Task.spent]

theorem toNat_totalMinutes_of_lt (h : sumGiven tasks < 2 ^ 64) :
    (totalMinutes tasks).toNat = sumGiven tasks := by
  rw [toNat_totalMinutes, Nat.mod_eq_of_lt h]

/--
More tasks than their minutes can be counted in 64 bits. The last one makes a count of 100 of them.
-/
def overflowing : List Task :=
  List.replicate (2 ^ 32 + 1) ⟨"LP-1", some 4294967295⟩ ++ [⟨"LP-2", some 101⟩]

theorem sumGiven_overflowing : sumGiven overflowing = 2 ^ 64 + 100 := by
  unfold overflowing
  rw [sumGiven_append, sumGiven_replicate, sumGiven_cons, sumGiven_nil]
  decide

theorem gapCount_overflowing : gapCount overflowing = 0 := by
  unfold overflowing gapCount
  rw [List.countP_append, List.countP_replicate, if_neg (by simp)]
  rfl

end Sum

section Filling

variable (first others minutes : UInt32)

@[simp]
theorem fillWith_nil : fillWith minutes [] = [] := rfl

@[simp]
theorem fillWith_cons_none (id : String) (tasks : List Task) :
    fillWith minutes (⟨id, none⟩ :: tasks) = ⟨id, some minutes⟩ :: fillWith minutes tasks := rfl

@[simp]
theorem fillWith_cons_some (id : String) (given : UInt32) (tasks : List Task) :
    fillWith minutes (⟨id, some given⟩ :: tasks) = ⟨id, some given⟩ :: fillWith minutes tasks := rfl

@[simp]
theorem fillFirst_cons_none (id : String) (tasks : List Task) :
    fillFirst first others (⟨id, none⟩ :: tasks) = ⟨id, some first⟩ :: fillWith others tasks := rfl

@[simp]
theorem fillFirst_cons_some (id : String) (given : UInt32) (tasks : List Task) :
    fillFirst first others (⟨id, some given⟩ :: tasks) =
      ⟨id, some given⟩ :: fillFirst first others tasks := rfl

theorem map_id_fillWith (tasks : List Task) :
    (fillWith minutes tasks).map Task.id = tasks.map Task.id := by
  induction tasks with
  | nil => rfl
  | cons task tasks ih =>
    obtain ⟨id, given⟩ := task
    cases given <;> simp [ih]

theorem map_minutes_fillWith (tasks : List Task) :
    (fillWith minutes tasks).map Task.minutes =
      (tasks.map Task.minutes).map fun given => some (given.getD minutes) := by
  unfold fillWith
  rw [List.map_map, List.map_map]
  apply List.map_congr_left
  intro task _
  obtain ⟨id, given⟩ := task
  cases given <;> rfl

theorem gapCount_fillWith (tasks : List Task) : gapCount (fillWith minutes tasks) = 0 := by
  induction tasks with
  | nil => rfl
  | cons task tasks ih =>
    obtain ⟨id, given⟩ := task
    cases given <;> simp [ih]

theorem sumGiven_fillWith (tasks : List Task) :
    sumGiven (fillWith minutes tasks) =
      sumGiven tasks + gapCount tasks * minutes.toNat := by
  induction tasks with
  | nil => simp
  | cons task tasks ih =>
    obtain ⟨id, given⟩ := task
    cases given with
    | none =>
      simp only [fillWith_cons_none, sumGiven_cons, gapCount_cons_none, Task.spent_mk_some,
        Task.spent_mk_none]
      rw [ih, Nat.add_mul]
      omega
    | some given =>
      simp only [fillWith_cons_some, sumGiven_cons, gapCount_cons_some]
      rw [ih]
      omega

theorem map_id_fillFirst (tasks : List Task) :
    (fillFirst first others tasks).map Task.id = tasks.map Task.id := by
  induction tasks with
  | nil => rfl
  | cons task tasks ih =>
    obtain ⟨id, given⟩ := task
    cases given with
    | none => simp [map_id_fillWith]
    | some given => simp [ih]

theorem gapCount_fillFirst (tasks : List Task) : gapCount (fillFirst first others tasks) = 0 := by
  induction tasks with
  | nil => rfl
  | cons task tasks ih =>
    obtain ⟨id, given⟩ := task
    cases given with
    | none => simp [gapCount_fillWith]
    | some given => simp [ih]

theorem sumGiven_fillFirst {tasks : List Task} (h : gapCount tasks ≠ 0) :
    sumGiven (fillFirst first others tasks) + others.toNat =
      sumGiven tasks + first.toNat + gapCount tasks * others.toNat := by
  induction tasks with
  | nil => simp at h
  | cons task tasks ih =>
    obtain ⟨id, given⟩ := task
    cases given with
    | none =>
      simp only [fillFirst_cons_none, sumGiven_cons, gapCount_cons_none, Task.spent_mk_some,
        Task.spent_mk_none]
      rw [sumGiven_fillWith, Nat.add_mul]
      omega
    | some given =>
      simp only [gapCount_cons_some] at h
      simp only [fillFirst_cons_some, sumGiven_cons, gapCount_cons_some]
      have := ih h
      omega

end Filling

/--
The tasks with their gaps filled: every gap takes an even share of what is left of the day, and the
first one the remainder on top of it.
-/
def filled (tasks : List Task) : List Task :=
  let left := 480 - sumGiven tasks
  let count := gapCount tasks
  fillFirst (UInt32.ofNat (left / count + left % count)) (UInt32.ofNat (left / count)) tasks

theorem map_id_filled (tasks : List Task) : (filled tasks).map Task.id = tasks.map Task.id := by
  apply map_id_fillFirst

theorem gapCount_filled (tasks : List Task) : gapCount (filled tasks) = 0 := by
  apply gapCount_fillFirst

-- The shares of at most 480 minutes are far from the largest 32 bit number.
theorem toNat_shares {left : Nat} (h : left ≤ 480) (count : Nat) :
    (UInt32.ofNat (left / count + left % count)).toNat = left / count + left % count ∧
      (UInt32.ofNat (left / count)).toNat = left / count := by
  have hpart : left / count ≤ left := Nat.div_le_self ..
  have hremainder : left % count ≤ left := Nat.mod_le ..
  constructor
  . apply UInt32.toNat_ofNat_of_lt'
    rw [UInt32.size]
    omega
  . apply UInt32.toNat_ofNat_of_lt'
    rw [UInt32.size]
    omega

-- The shares lose no minute since the remainder of their division goes to the first gap.
theorem sumGiven_filled {tasks : List Task} (hgaps : gapCount tasks ≠ 0)
    (htotal : sumGiven tasks ≤ 480) : sumGiven (filled tasks) = 480 := by
  unfold filled
  generalize hleft : 480 - sumGiven tasks = left
  have hsum := Nat.div_add_mod left (gapCount tasks)
  obtain ⟨hfirst, hothers⟩ := toNat_shares (show left ≤ 480 by omega) (gapCount tasks)
  have hfill := sumGiven_fillFirst
    (UInt32.ofNat (left / gapCount tasks + left % gapCount tasks))
    (UInt32.ofNat (left / gapCount tasks)) hgaps
  rw [hfirst, hothers] at hfill
  dsimp only
  omega

theorem Split.of?_eq_some {gaps : Nat} (h : UInt32.ofNat gaps ≠ 0) (left : Nat) :
    Split.of? left gaps = some ⟨UInt32.ofNat left, UInt32.ofNat gaps, h⟩ := by
  unfold Split.of?
  dsimp only
  rw [dif_neg (by simpa using h), Int.toNat_natCast]

section FillingGaps

variable {tasks : List Task}

theorem assignedMinutes_eq_mod (h : sumGiven tasks % 2 ^ 64 < 2 ^ 63) :
    assignedMinutes tasks = (sumGiven tasks % 2 ^ 64 : Nat) := by
  unfold assignedMinutes
  rw [toNat_totalMinutes]
  omega

theorem assignedMinutes_eq_min (h : sumGiven tasks < 2 ^ 64) :
    assignedMinutes tasks = (min (sumGiven tasks) (2 ^ 63 - 1) : Nat) := by
  unfold assignedMinutes
  rw [toNat_totalMinutes_of_lt h]
  omega

theorem assignedMinutes_eq (h : sumGiven tasks < 2 ^ 63) :
    assignedMinutes tasks = sumGiven tasks := by
  rw [assignedMinutes_eq_min (by omega)]
  omega

theorem assignedMinutes_of_le (h : sumGiven tasks ≤ 480) :
    assignedMinutes tasks = sumGiven tasks := by
  apply assignedMinutes_eq
  omega

theorem dayBudget_lt_assignedMinutes_iff (h : sumGiven tasks < 2 ^ 64) :
    dayBudget < assignedMinutes tasks ↔ 480 < sumGiven tasks := by
  rw [assignedMinutes_eq_min h, dayBudget]
  omega

theorem fillGaps_of_over (hfit : sumGiven tasks < 2 ^ 64) (h : 480 < sumGiven tasks) :
    fillGaps tasks = .error (.unbalanced (.overtime (dayBudget - assignedMinutes tasks))) := by
  have hover := (dayBudget_lt_assignedMinutes_iff hfit).2 h
  unfold fillGaps
  dsimp only
  rw [if_pos (by omega)]

theorem fillGaps_of_full (hgaps : gapCount tasks = 0) (h : sumGiven tasks ≤ 480) :
    fillGaps tasks =
      if sumGiven tasks = 480 then .ok tasks
      else .error (.unbalanced (.undertime (480 - (sumGiven tasks : Int)))) := by
  unfold fillGaps
  rw [assignedMinutes_of_le h, dayBudget]
  dsimp only
  rw [if_neg (by omega), if_pos hgaps]
  split <;> split <;> first | rfl | omega

theorem ofNat_gapCount_ne_zero (hcount : gapCount tasks < 2 ^ 32) (hgaps : gapCount tasks ≠ 0) :
    UInt32.ofNat (gapCount tasks) ≠ 0 := by
  rw [Ne, ← UInt32.toNat_inj, UInt32.toNat_ofNat_of_lt' hcount]
  exact hgaps

theorem split?_of_gaps (hcount : UInt32.ofNat (gapCount tasks) ≠ 0) (h : sumGiven tasks ≤ 480) :
    split? tasks =
      some ⟨UInt32.ofNat (480 - sumGiven tasks), UInt32.ofNat (gapCount tasks), hcount⟩ := by
  have hleft : dayBudget - assignedMinutes tasks = (480 - sumGiven tasks : Nat) := by
    rw [assignedMinutes_of_le h, dayBudget]
    omega
  unfold split?
  rw [hleft, Split.of?_eq_some hcount]

theorem of_split?_eq_some {split : Split} (h : split? tasks = some split) :
    0 ≤ dayBudget - assignedMinutes tasks ∧ gapCount tasks ≠ 0 := by
  unfold split? Split.of? at h
  dsimp only at h
  split at h
  . contradiction
  . next hno =>
    rw [not_or, Int.not_lt] at hno
    refine ⟨hno.1, ?_⟩
    intro hzero
    rw [hzero] at hno
    exact hno.2 rfl

theorem fillGaps_of_split {split : Split} (h : split? tasks = some split) :
    let filled := fillFirst (split.part + split.remainder) split.part tasks
    fillGaps tasks =
      if assignedMinutes filled < dayBudget then
        .error (.unbalanced (.undertime (dayBudget - assignedMinutes filled)))
      else
        .ok filled := by
  intro filled
  obtain ⟨hleft, hgaps⟩ := of_split?_eq_some h
  unfold fillGaps
  dsimp only
  rw [h, if_neg (Int.not_lt.2 hleft), if_neg hgaps]

theorem fillFirst_of_split (hcount : gapCount tasks < 2 ^ 32) (hgaps : gapCount tasks ≠ 0)
    (h : sumGiven tasks ≤ 480) {split : Split} (hsplit : split? tasks = some split) :
    fillFirst (split.part + split.remainder) split.part tasks = filled tasks := by
  rw [split?_of_gaps (ofNat_gapCount_ne_zero hcount hgaps) h] at hsplit
  cases hsplit
  unfold filled Split.part Split.remainder
  dsimp only
  rw [UInt32.ofNat_add, UInt32.ofNat_div (by omega) hcount, UInt32.ofNat_mod (by omega) hcount]

-- Filling the gaps leaves nothing of the day, so the check after it never refuses.
theorem fillGaps_of_gaps (hcount : gapCount tasks < 2 ^ 32) (hgaps : gapCount tasks ≠ 0)
    (h : sumGiven tasks ≤ 480) : fillGaps tasks = .ok (filled tasks) := by
  have hsplit := split?_of_gaps (ofNat_gapCount_ne_zero hcount hgaps) h
  have hfull := sumGiven_filled hgaps h
  rw [fillGaps_of_split hsplit, fillFirst_of_split hcount hgaps h hsplit,
    assignedMinutes_of_le (by omega), hfull, if_neg (by decide)]

-- A number of gaps that is zero in 32 bits is not zero, so the program gets to the division.
theorem fillGaps_of_ofNat_gapCount_eq_zero (hgaps : gapCount tasks ≠ 0)
    (hcount : UInt32.ofNat (gapCount tasks) = 0) (h : sumGiven tasks ≤ 480) :
    fillGaps tasks = .error .aborted := by
  have hsplit : split? tasks = none := by
    unfold split? Split.of?
    dsimp only
    rw [dif_pos (.inr hcount)]
  unfold fillGaps
  rw [assignedMinutes_of_le h, hsplit, dayBudget]
  dsimp only
  rw [if_neg (by omega), if_neg hgaps]

def imbalanceOf (tasks : List Task) : Imbalance :=
  if 480 < sumGiven tasks then
    .overtime (480 - sumGiven tasks)
  else
    .undertime (480 - sumGiven tasks)

theorem fillGaps_eq (hcount : gapCount tasks < 2 ^ 32) (htotal : sumGiven tasks < 2 ^ 63) :
    fillGaps tasks =
      if gapCount tasks = 0 then
        if sumGiven tasks = 480 then .ok tasks else .error (.unbalanced (imbalanceOf tasks))
      else if 480 < sumGiven tasks then
        .error (.unbalanced (imbalanceOf tasks))
      else
        .ok (filled tasks) := by
  unfold imbalanceOf
  by_cases hover : 480 < sumGiven tasks
  . have hne : sumGiven tasks ≠ 480 := by omega
    rw [fillGaps_of_over (by omega) hover, assignedMinutes_eq htotal, if_pos hover, if_pos hover,
      if_neg hne, ite_self]
    rfl
  . rw [if_neg hover, if_neg hover]
    split
    . next hgaps => rw [fillGaps_of_full hgaps (by omega)]
    . next hgaps => rw [fillGaps_of_gaps hcount hgaps (by omega)]

end FillingGaps

end Workday
