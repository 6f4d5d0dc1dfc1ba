import Mathlib.Data.List.TakeWhile
import Workday.Proofs.Allocation
import Workday.Token

/-!
This module contains what becomes of the tokens of a command. No token is a task and a duration at
once. Every token is accounted for: it begins a task, closes a gap, or is rejected, so that a command
without rejected tokens keeps all the minutes that its durations give.
-/

namespace Workday

open Text

theorem isDigit_eq_false_of_isUpper {c : Char} (h : c.isUpper = true) : c.isDigit = false := by
  unfold Char.isUpper at h
  simp only [decide_eq_true_eq, ge_iff_le, UInt32.le_iff_toNat_le] at h
  simp only [Char.isDigit, Bool.and_eq_false_iff, decide_eq_false_iff_not, ge_iff_le,
    UInt32.le_iff_toNat_le]
  have : 'A'.val.toNat = 65 := rfl
  have : '9'.val.toNat = 57 := rfl
  omega

theorem Duration.parseChars?_of_isNumber {cs : List Char} (h : isNumber cs = true) :
    Duration.parseChars? cs = none := by
  unfold isNumber at h
  rw [Bool.and_eq_true, List.all_eq_true] at h
  unfold Duration.parseChars?
  dsimp only
  split
  . rfl
  . rw [List.dropWhile_eq_nil_iff.2 h.2]

theorem Duration.parseChars?_cons_of_not_isDigit {c : Char} (h : c.isDigit = false)
    (cs : List Char) : Duration.parseChars? (c :: cs) = none := by
  unfold Duration.parseChars?
  rw [List.takeWhile_cons, h]
  rfl

theorem Duration.parseChars?_of_taskId {project cs key : List Char}
    (h : TaskId.parseChars? project cs = some key) : Duration.parseChars? cs = none := by
  unfold TaskId.parseChars? at h
  split at h
  . next hnumber => exact parseChars?_of_isNumber hnumber
  . dsimp only at h
    split at h
    . split at h
      . next hkey =>
        cases cs with
        | nil => rfl
        | cons c cs =>
          apply parseChars?_cons_of_not_isDigit
          apply isDigit_eq_false_of_isUpper
          rw [Bool.and_eq_true, TaskId.isProjectKey, List.takeWhile_cons] at hkey
          cases hupper : c.isUpper with
          | true => rfl
          | false => simp [hupper] at hkey
      . contradiction
    . contradiction

theorem Duration.parse?_of_taskId {project text id : String}
    (h : TaskId.parse? project text = some id) : Duration.parse? text = none := by
  unfold TaskId.parse? at h
  rw [Option.map_eq_some_iff] at h
  obtain ⟨key, hkey, _⟩ := h
  exact parseChars?_of_taskId hkey

/--
The minutes that the durations among tokens give, however they are used.
-/
def givenMinutes (tokens : List String) : Nat :=
  ((tokens.filterMap Duration.parse?).map UInt32.toNat).sum

theorem givenMinutes_cons (text : String) (tokens : List String) :
    givenMinutes (text :: tokens) = givenMinutes [text] + givenMinutes tokens := by
  unfold givenMinutes
  cases h : Duration.parse? text <;> simp [h]

namespace Draft

/--
Every token that was read has begun a task, closed a gap, or was rejected.
-/
def Accounts (draft : Draft) (count : Nat) : Prop :=
  2 * draft.tasks.length + draft.rejections.length = count + gapCount draft.tasks

variable {draft : Draft} {count : Nat} (project text : String)

theorem accounts_reject (h : draft.Accounts count) (reason : Reason) :
    (draft.reject text reason).Accounts (count + 1) := by
  simp only [Accounts, reject, List.length_cons] at h ⊢
  omega

theorem accounts_attach (h : draft.Accounts count) (minutes : UInt32) :
    (draft.attach text minutes).Accounts (count + 1) := by
  unfold attach
  split
  . exact accounts_reject text h _
  . exact accounts_reject text h _
  . next id earlier heq =>
    simp only [Accounts, heq, List.length_cons, gapCount_cons_none] at h
    simp only [Accounts, List.length_cons, gapCount_cons_some]
    omega

theorem accounts_read (h : draft.Accounts count) :
    (draft.read project text).Accounts (count + 1) := by
  unfold read
  split
  . simp only [Accounts, start, List.length_cons, gapCount_cons_none] at h ⊢
    omega
  . exact accounts_attach text h _
  . exact accounts_reject text h _

theorem accounts_foldl (h : draft.Accounts count) (tokens : List String) :
    (tokens.foldl (read project) draft).Accounts (count + tokens.length) := by
  induction tokens generalizing draft count with
  | nil => exact h
  | cons text tokens ih =>
    rw [List.foldl_cons, List.length_cons, Nat.add_comm tokens.length, ← Nat.add_assoc]
    exact ih (accounts_read project text h)

theorem rejections_read (draft : Draft) :
    draft.rejections <:+ (draft.read project text).rejections := by
  unfold read attach
  split
  . exact List.suffix_refl _
  . split
    . exact List.suffix_cons _ _
    . exact List.suffix_cons _ _
    . exact List.suffix_refl _
  . exact List.suffix_cons _ _

theorem rejections_foldl (draft : Draft) (tokens : List String) :
    draft.rejections <:+ (tokens.foldl (read project) draft).rejections := by
  induction tokens generalizing draft with
  | nil => exact List.suffix_refl _
  | cons text tokens ih => exact (rejections_read project text draft).trans (ih _)

-- Only a rejected token can give minutes that no task gets.
theorem sumGiven_read (h : (draft.read project text).rejections = []) :
    sumGiven (draft.read project text).tasks =
      sumGiven draft.tasks + givenMinutes [text] := by
  unfold read Token.classify at h ⊢
  cases htask : TaskId.parse? project text with
  | some id =>
    have hgiven : givenMinutes [text] = 0 := by
      simp [givenMinutes, Duration.parse?_of_taskId htask]
    simp [start, hgiven]
  | none =>
    rw [htask] at h
    dsimp only at h ⊢
    cases hduration : Duration.parse? text with
    | none => simp [hduration, reject] at h
    | some minutes =>
      have hgiven : givenMinutes [text] = minutes.toNat := by simp [givenMinutes, hduration]
      rw [hduration] at h
      dsimp only [attach] at h ⊢
      split at h
      . simp [reject] at h
      . simp [reject] at h
      . next id earlier heq =>
        rw [heq, hgiven]
        simp only [sumGiven_cons, Task.spent_mk_some, Task.spent_mk_none]
        omega

theorem sumGiven_foldl {tokens : List String}
    (h : (tokens.foldl (read project) draft).rejections = []) :
    sumGiven (tokens.foldl (read project) draft).tasks =
      sumGiven draft.tasks + givenMinutes tokens := by
  induction tokens generalizing draft with
  | nil => rfl
  | cons text tokens ih =>
    rw [List.foldl_cons] at h ⊢
    have hread : (draft.read project text).rejections = [] := by
      apply List.eq_nil_of_suffix_nil
      rw [← h]
      apply rejections_foldl
    rw [ih h, sumGiven_read project text hread, givenMinutes_cons text tokens, Nat.add_assoc]

end Draft

variable {project : String} {tokens : List String} {tasks : List Task}

theorem parseTasks_eq_ok_iff :
    parseTasks project tokens = .ok tasks ↔
      (tokens.foldl (Draft.read project) Draft.empty).rejections = [] ∧
      (tokens.foldl (Draft.read project) Draft.empty).tasks.reverse = tasks :=
  Draft.finish_eq_ok_iff

theorem gapCount_reverse (tasks : List Task) : gapCount tasks.reverse = gapCount tasks := by
  unfold gapCount
  rw [List.countP_reverse]

theorem sumGiven_reverse (tasks : List Task) :
    sumGiven tasks.reverse = sumGiven tasks := by
  rw [sumGiven_eq_sum, sumGiven_eq_sum, List.map_reverse, List.sum_reverse]

theorem length_parseTasks (h : parseTasks project tokens = .ok tasks) :
    2 * tasks.length = tokens.length + gapCount tasks := by
  rw [parseTasks_eq_ok_iff] at h
  obtain ⟨hnone, rfl⟩ := h
  have haccounts := Draft.accounts_foldl project (show Draft.empty.Accounts 0 from rfl) tokens
  unfold Draft.Accounts at haccounts
  rw [hnone, List.length_nil] at haccounts
  rw [List.length_reverse, gapCount_reverse]
  omega

theorem gapCount_parseTasks_lt (h : parseTasks project tokens = .ok tasks)
    (hfew : tokens.length < 2 ^ 32) : gapCount tasks < 2 ^ 32 := by
  have hlength := length_parseTasks h
  have hgaps := gapCount_le_length tasks
  omega

-- A task with minutes takes two tokens, which keeps the sum within 63 bits.
theorem sumGiven_parseTasks_lt (h : parseTasks project tokens = .ok tasks)
    (hfew : tokens.length < 2 ^ 32) : sumGiven tasks < 2 ^ 63 := by
  have hlength := length_parseTasks h
  have htotal := sumGiven_add_le tasks
  omega

theorem sumGiven_parseTasks (h : parseTasks project tokens = .ok tasks) :
    sumGiven tasks = givenMinutes tokens := by
  rw [parseTasks_eq_ok_iff] at h
  obtain ⟨hnone, rfl⟩ := h
  rw [sumGiven_reverse, Draft.sumGiven_foldl project hnone]
  simp [Draft.empty]

end Workday
