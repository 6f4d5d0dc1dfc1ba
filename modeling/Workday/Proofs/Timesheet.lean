import Workday.Proofs.Token
import Workday.Timesheet

/-!
This module contains when tokens make a timesheet and what a timesheet is. Every timesheet has the
tasks of its tokens without a gap. It is balanced, or it was accepted in sloppy mode with the minutes
as they were given.
-/

namespace Workday.Timesheet

variable {project : String} {sloppy : Bool} {tokens : List String} {tasks : List Task}
variable {sheet : Timesheet}

theorem prepare_of_error {rejections : List Rejection}
    (h : parseTasks project tokens = .error rejections) :
    prepare project sloppy tokens = .error (.rejected rejections) := by
  unfold prepare
  rw [h]

theorem prepare_of_ok (h : parseTasks project tokens = .ok tasks) :
    prepare project sloppy tokens = ofTasks sloppy tasks := by
  unfold prepare
  rw [h]

theorem ofTasks_ne_rejected (rejections : List Rejection) :
    ofTasks sloppy tasks ≠ .error (.rejected rejections) := by
  unfold ofTasks
  split
  . simp
  . split <;> simp
  . simp

theorem prepare_eq_rejected_iff {rejections : List Rejection} :
    prepare project sloppy tokens = .error (.rejected rejections) ↔
      parseTasks project tokens = .error rejections := by
  cases h : parseTasks project tokens with
  | error => simp [prepare_of_error h]
  | ok tasks => simp [prepare_of_ok h, ofTasks_ne_rejected]

theorem prepare_sloppy_of_ok (h : prepare project false tokens = .ok sheet) :
    prepare project true tokens = .ok sheet := by
  unfold prepare ofTasks at h ⊢
  cases hparse : parseTasks project tokens with
  | error rejections =>
    rw [hparse] at h
    contradiction
  | ok tasks =>
    rw [hparse] at h
    dsimp only at h ⊢
    cases hfill : fillGaps tasks with
    | error unfilled =>
      rw [hfill] at h
      cases unfilled <;> contradiction
    | ok filled =>
      rw [hfill] at h
      exact h

-- A gap leaves sloppy mode nothing to accept.
theorem prepare_sloppy_of_gaps (h : parseTasks project tokens = .ok tasks)
    (hgaps : gapCount tasks ≠ 0) :
    prepare project true tokens = prepare project false tokens := by
  unfold prepare ofTasks
  rw [h]
  dsimp only
  rw [any_isGap_eq, decide_eq_true hgaps]
  rfl

theorem ofTasks_eq (hcount : gapCount tasks < 2 ^ 32) (htotal : sumGiven tasks < 2 ^ 63) :
    ofTasks sloppy tasks =
      if gapCount tasks = 0 then
        if sumGiven tasks = 480 then
          .ok ⟨tasks, none⟩
        else if sloppy then
          .ok ⟨tasks, some (imbalanceOf tasks)⟩
        else
          .error (.unbalanced (imbalanceOf tasks))
      else if 480 < sumGiven tasks then
        .error (.unbalanced (imbalanceOf tasks))
      else
        .ok ⟨filled tasks, none⟩ := by
  unfold ofTasks
  rw [fillGaps_eq hcount htotal, any_isGap_eq]
  by_cases hgaps : gapCount tasks = 0
  . rw [if_pos hgaps, if_pos hgaps]
    by_cases hfull : sumGiven tasks = 480
    . rw [if_pos hfull, if_pos hfull]
    . rw [if_neg hfull, if_neg hfull]
      simp [hgaps]
  . rw [if_neg hgaps, if_neg hgaps]
    by_cases hover : 480 < sumGiven tasks
    . rw [if_pos hover, if_pos hover]
      simp [hgaps]
    . rw [if_neg hover, if_neg hover]

/--
The ways in which preparing comes out for tokens that make tasks.
-/
theorem prepare_cases (sloppy : Bool) (hfew : tokens.length < 2 ^ 32)
    (h : parseTasks project tokens = .ok tasks) :
    (gapCount tasks = 0 ∧ sumGiven tasks = 480 ∧
      prepare project sloppy tokens = .ok ⟨tasks, none⟩) ∨
    (gapCount tasks = 0 ∧ sumGiven tasks ≠ 480 ∧ sloppy = true ∧
      prepare project sloppy tokens = .ok ⟨tasks, some (imbalanceOf tasks)⟩) ∨
    (gapCount tasks = 0 ∧ sumGiven tasks ≠ 480 ∧ sloppy = false ∧
      prepare project sloppy tokens = .error (.unbalanced (imbalanceOf tasks))) ∨
    (gapCount tasks ≠ 0 ∧ 480 < sumGiven tasks ∧
      prepare project sloppy tokens = .error (.unbalanced (imbalanceOf tasks))) ∨
    (gapCount tasks ≠ 0 ∧ sumGiven tasks ≤ 480 ∧
      prepare project sloppy tokens = .ok ⟨filled tasks, none⟩) := by
  rw [prepare_of_ok h, ofTasks_eq (gapCount_parseTasks_lt h hfew) (sumGiven_parseTasks_lt h hfew)]
  by_cases hgaps : gapCount tasks = 0
  . by_cases hfull : sumGiven tasks = 480
    . simp [hgaps, hfull]
    . cases sloppy <;> simp [hgaps, hfull]
  . by_cases hover : 480 < sumGiven tasks
    . simp [hgaps, hover]
    . simp [hgaps, hover, Nat.not_lt.1 hover]

theorem imbalanceOf_eq_overtime_iff {left : Int} :
    imbalanceOf tasks = .overtime left ↔
      480 < sumGiven tasks ∧ left = 480 - (sumGiven tasks : Int) := by
  unfold imbalanceOf
  split
  . next h => simp [h, eq_comm]
  . next h => simp [h]

theorem imbalanceOf_eq_undertime_iff {left : Int} :
    imbalanceOf tasks = .undertime left ↔
      sumGiven tasks ≤ 480 ∧ left = 480 - (sumGiven tasks : Int) := by
  unfold imbalanceOf
  split
  . next h =>
    simp only [reduceCtorEq, false_iff, not_and]
    omega
  . next h => simp [Nat.not_lt.1 h, eq_comm]

/--
A timesheet represents the tasks that were read if it has them all in their order and without a gap,
and if it tells by how much they miss the budget, where they were left as they are.
-/
structure Represents (tasks : List Task) (sheet : Timesheet) : Prop where
  map_id : sheet.tasks.map Task.id = tasks.map Task.id
  gapCount_eq_zero : gapCount sheet.tasks = 0
  imbalance_eq_none_iff : sheet.imbalance = none ↔ sumGiven sheet.tasks = 480
  eq_of_imbalance : ∀ imbalance, sheet.imbalance = some imbalance →
    sheet.tasks = tasks ∧ gapCount tasks = 0 ∧
      (480 < sumGiven tasks ∧ imbalance = .overtime (480 - sumGiven tasks) ∨
        sumGiven tasks < 480 ∧ imbalance = .undertime (480 - sumGiven tasks))

theorem represents_filled (hgaps : gapCount tasks ≠ 0) (hleft : sumGiven tasks ≤ 480) :
    Represents tasks ⟨filled tasks, none⟩ where
  map_id := map_id_filled tasks
  gapCount_eq_zero := gapCount_filled tasks
  imbalance_eq_none_iff := by simp [sumGiven_filled hgaps hleft]
  eq_of_imbalance := by simp

section Prepared

variable (hfew : tokens.length < 2 ^ 32) (h : parseTasks project tokens = .ok tasks)

include hfew h

theorem prepare_eq_overtime_iff {left : Int} :
    prepare project sloppy tokens = .error (.unbalanced (.overtime left)) ↔
      480 < sumGiven tasks ∧ (0 < gapCount tasks ∨ sloppy = false) ∧
        left = 480 - (sumGiven tasks : Int) := by
  obtain ⟨hgaps, hfull, heq⟩ | ⟨hgaps, hfull, rfl, heq⟩ | ⟨hgaps, hfull, rfl, heq⟩ |
    ⟨hgaps, hover, heq⟩ | ⟨hgaps, hleft, heq⟩ := prepare_cases sloppy hfew h
  . simp [heq, hfull]
  . simp [heq, hgaps]
  . simp [heq, imbalanceOf_eq_overtime_iff]
  . simp [heq, Nat.pos_of_ne_zero hgaps, imbalanceOf_eq_overtime_iff]
  . simp [heq, Nat.not_lt.2 hleft]

theorem prepare_eq_undertime_iff {left : Int} :
    prepare project sloppy tokens = .error (.unbalanced (.undertime left)) ↔
      sumGiven tasks < 480 ∧ gapCount tasks = 0 ∧ sloppy = false ∧
        left = 480 - (sumGiven tasks : Int) := by
  obtain ⟨hgaps, hfull, heq⟩ | ⟨hgaps, hfull, rfl, heq⟩ | ⟨hgaps, hfull, rfl, heq⟩ |
    ⟨hgaps, hover, heq⟩ | ⟨hgaps, hleft, heq⟩ := prepare_cases sloppy hfew h
  . simp [heq, hfull]
  . simp [heq]
  . simp [heq, hgaps, imbalanceOf_eq_undertime_iff, Nat.lt_iff_le_and_ne, hfull]
  . simp [heq, hgaps, imbalanceOf_eq_undertime_iff, Nat.not_le.2 hover]
  . simp [heq, hgaps]

theorem exists_prepare_eq_ok_iff :
    (∃ sheet, prepare project sloppy tokens = .ok sheet) ↔
      ¬(480 < sumGiven tasks ∧ (0 < gapCount tasks ∨ sloppy = false)) ∧
      ¬(sumGiven tasks < 480 ∧ gapCount tasks = 0 ∧ sloppy = false) := by
  obtain ⟨hgaps, hfull, heq⟩ | ⟨hgaps, hfull, rfl, heq⟩ | ⟨hgaps, hfull, rfl, heq⟩ |
    ⟨hgaps, hover, heq⟩ | ⟨hgaps, hleft, heq⟩ := prepare_cases sloppy hfew h
  . simp [heq, hfull]
  . simp [heq, hgaps]
  . simp [heq, hgaps]
    omega
  . simp [heq, hover, Nat.pos_of_ne_zero hgaps]
  . simp [heq, hgaps, Nat.not_lt.2 hleft]

/--
The timesheets there are. Only one with the minutes as given may miss the budget.
-/
theorem eq_of_prepare (hsheet : prepare project sloppy tokens = .ok sheet) :
    (gapCount tasks = 0 ∧ sumGiven tasks = 480 ∧ sheet = ⟨tasks, none⟩) ∨
    (gapCount tasks = 0 ∧ sumGiven tasks ≠ 480 ∧ sloppy = true ∧
      sheet = ⟨tasks, some (imbalanceOf tasks)⟩) ∨
    (gapCount tasks ≠ 0 ∧ sumGiven tasks ≤ 480 ∧ sheet = ⟨filled tasks, none⟩) := by
  obtain ⟨hgaps, hfull, heq⟩ | ⟨hgaps, hfull, hsloppy, heq⟩ | ⟨_, _, _, heq⟩ | ⟨_, _, heq⟩ |
    ⟨hgaps, hleft, heq⟩ := prepare_cases sloppy hfew h
  . rw [heq] at hsheet
    exact .inl ⟨hgaps, hfull, (Except.ok.inj hsheet).symm⟩
  . rw [heq] at hsheet
    exact .inr (.inl ⟨hgaps, hfull, hsloppy, (Except.ok.inj hsheet).symm⟩)
  . rw [heq] at hsheet
    contradiction
  . rw [heq] at hsheet
    contradiction
  . rw [heq] at hsheet
    exact .inr (.inr ⟨hgaps, hleft, (Except.ok.inj hsheet).symm⟩)

theorem represents_of_prepare (hsheet : prepare project sloppy tokens = .ok sheet) :
    Represents tasks sheet := by
  obtain ⟨hgaps, hfull, rfl⟩ | ⟨hgaps, hfull, _, rfl⟩ | ⟨hgaps, hleft, rfl⟩ :=
    eq_of_prepare hfew h hsheet
  . exact ⟨rfl, hgaps, by simp [hfull], by simp⟩
  . refine ⟨rfl, hgaps, by simp [hfull], ?_⟩
    intro imbalance himbalance
    refine ⟨rfl, hgaps, ?_⟩
    rw [← Option.some.inj himbalance]
    unfold imbalanceOf
    split
    . next hover => exact .inl ⟨hover, rfl⟩
    . next hunder => exact .inr ⟨by omega, rfl⟩
  . exact represents_filled hgaps hleft

end Prepared

theorem exists_parseTasks_of_prepare (h : prepare project sloppy tokens = .ok sheet) :
    ∃ tasks, parseTasks project tokens = .ok tasks := by
  cases hparse : parseTasks project tokens with
  | error rejections =>
    rw [prepare_of_error hparse] at h
    contradiction
  | ok tasks => exact ⟨tasks, rfl⟩

theorem sumGiven_of_prepare (hfew : tokens.length < 2 ^ 32)
    (h : prepare project sloppy tokens = .ok sheet) :
    sumGiven sheet.tasks = if sheet.imbalance = none then 480 else givenMinutes tokens := by
  obtain ⟨tasks, hparse⟩ := exists_parseTasks_of_prepare h
  have hrepresents := represents_of_prepare hfew hparse h
  split
  . next hnone => exact hrepresents.imbalance_eq_none_iff.1 hnone
  . next hsome =>
    obtain ⟨imbalance, himbalance⟩ := Option.ne_none_iff_exists'.1 hsome
    rw [(hrepresents.eq_of_imbalance imbalance himbalance).1, sumGiven_parseTasks hparse]

/--
Preparing is refused for rejected tokens whatever their durations add up to, and otherwise just for
a day that is exceeded, or fallen short of where nothing takes up the rest. Sloppy mode excuses
either if there is no gap, and changes nothing else.
-/
theorem prepare_outcomes (project : String) (sloppy : Bool) (tokens : List String)
    (hfew : tokens.length < 2 ^ 32) :
    (∀ rejections, prepare project sloppy tokens = .error (.rejected rejections) ↔
      parseTasks project tokens = .error rejections) ∧
    ∀ tasks, parseTasks project tokens = .ok tasks →
      (∀ left, prepare project sloppy tokens = .error (.unbalanced (.overtime left)) ↔
        480 < sumGiven tasks ∧ (0 < gapCount tasks ∨ sloppy = false) ∧
          left = 480 - (sumGiven tasks : Int)) ∧
      (∀ left, prepare project sloppy tokens = .error (.unbalanced (.undertime left)) ↔
        sumGiven tasks < 480 ∧ gapCount tasks = 0 ∧ sloppy = false ∧
          left = 480 - (sumGiven tasks : Int)) ∧
      ((∃ sheet, prepare project sloppy tokens = .ok sheet) ↔
        ¬(480 < sumGiven tasks ∧ (0 < gapCount tasks ∨ sloppy = false)) ∧
        ¬(sumGiven tasks < 480 ∧ gapCount tasks = 0 ∧ sloppy = false)) ∧
      (∀ sheet, prepare project sloppy tokens = .ok sheet → Represents tasks sheet) ∧
      (∀ sheet, prepare project false tokens = .ok sheet →
        prepare project true tokens = .ok sheet) ∧
      (gapCount tasks ≠ 0 → prepare project true tokens = prepare project false tokens) := by
  refine ⟨fun rejections => prepare_eq_rejected_iff, ?_⟩
  intro tasks h
  refine ⟨?_, ?_, ?_, ?_, ?_, ?_⟩
  . intro left
    exact prepare_eq_overtime_iff hfew h
  . intro left
    exact prepare_eq_undertime_iff hfew h
  . exact exists_prepare_eq_ok_iff hfew h
  . intro sheet hsheet
    exact represents_of_prepare hfew h hsheet
  . intro sheet hsheet
    exact prepare_sloppy_of_ok hsheet
  . intro hgaps
    exact prepare_sloppy_of_gaps h hgaps

theorem prepare_exceeded_with_gap :
    ["622", "9h", "623"].length < 2 ^ 32 ∧
      parseTasks "LP" ["622", "9h", "623"] = .ok [⟨"LP-622", some 540⟩, ⟨"LP-623", none⟩] ∧
      prepare "LP" true ["622", "9h", "623"] = .error (.unbalanced (.overtime (-60))) := by
  have hfew : ["622", "9h", "623"].length < 2 ^ 32 := by decide
  have hparse : parseTasks "LP" ["622", "9h", "623"] =
      .ok [⟨"LP-622", some 540⟩, ⟨"LP-623", none⟩] := by decide +kernel
  have houtcomes := (prepare_outcomes "LP" true ["622", "9h", "623"] hfew).2 _ hparse
  refine ⟨hfew, hparse, (houtcomes.1 (-60)).2 ?_⟩
  decide

end Workday.Timesheet
