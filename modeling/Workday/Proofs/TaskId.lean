import Workday.TaskId

/-!
This module contains the full keys of tasks. A full key is what every token that names a task comes
to in a project with a proper key, and it names itself in every project.
-/

namespace Workday.TaskId

open Text

/--
A full key has a project key, a hyphen and a number.
-/
def IsFull (id : String) : Prop :=
  ∃ key number, id.toList = key ++ '-' :: number ∧ isProjectKey key = true ∧ isNumber number = true

variable {project id text : String}

theorem ne_nil_of_isProjectKey {key : List Char} (h : isProjectKey key = true) : key ≠ [] := by
  rintro rfl
  contradiction

theorem isUpper_of_isProjectKey {key : List Char} (h : isProjectKey key = true) :
    ∀ c ∈ key, c.isUpper = true := by
  unfold isProjectKey at h
  rw [Bool.and_eq_true, List.all_eq_true] at h
  exact h.2

theorem not_isNumber_of_hyphen (key number : List Char) :
    isNumber (key ++ '-' :: number) = false := by
  simp [isNumber, show '-'.isDigit = false from rfl]

theorem IsFull.notMem {c : Char} (h : IsFull id) (hupper : c.isUpper = false)
    (hdigit : c.isDigit = false) (hhyphen : c ≠ '-') : c ∉ id.toList := by
  obtain ⟨key, number, hid, hkey, hnumber⟩ := h
  rw [hid, List.mem_append, List.mem_cons]
  rintro (hmem | rfl | hmem)
  . rw [isUpper_of_isProjectKey hkey c hmem] at hupper
    contradiction
  . contradiction
  . unfold isNumber at hnumber
    rw [Bool.and_eq_true, List.all_eq_true] at hnumber
    rw [hnumber.2 c hmem] at hdigit
    contradiction

-- A full key names itself, whatever the project of the others.
theorem IsFull.parse?_eq (h : IsFull id) (project : String) : parse? project id = some id := by
  obtain ⟨key, number, hid, hkey, hnumber⟩ := h
  have hupper := isUpper_of_isProjectKey hkey
  unfold parse? parseChars?
  rw [hid, not_isNumber_of_hyphen, List.takeWhile_append_of_pos hupper,
    List.dropWhile_append_of_pos hupper]
  simp [show '-'.isUpper = false from rfl, hkey, hnumber, ← hid]

theorem parse?_of_isNumber (h : isNumber text.toList = true) (project : String) :
    parse? project text = some (project ++ "-" ++ text) := by
  unfold parse? parseChars?
  rw [if_pos h, Option.map_some, Option.some.injEq, ← String.toList_inj]
  simp

-- A token that is no number keeps its text, since it has to bring its own project.
theorem isFull_of_parse?_eq_some (hnumber : isNumber text.toList = false)
    (h : parse? project text = some id) : IsFull text ∧ id = text := by
  unfold parse? parseChars? at h
  rw [if_neg (by simp [hnumber])] at h
  dsimp only at h
  split at h
  . next number hrest =>
    split at h
    . next hparts =>
      rw [Bool.and_eq_true] at hparts
      refine ⟨⟨_, number, ?_, hparts⟩, ?_⟩
      . rw [← hrest, List.takeWhile_append_dropWhile]
      . rw [← Option.some.inj h, String.ofList_toList]
    . contradiction
  . contradiction

/--
A token names a key in a project if it is that key, or the number of a key with that project.
-/
def NamesIn (project token id : String) : Prop :=
  IsFull token ∧ id = token ∨ isNumber token.toList = true ∧ id = project ++ "-" ++ token

theorem parse?_eq_some_iff : parse? project text = some id ↔ NamesIn project text id := by
  constructor
  . intro h
    cases hnumber : isNumber text.toList with
    | true =>
      rw [parse?_of_isNumber hnumber] at h
      exact .inr ⟨hnumber, (Option.some.inj h).symm⟩
    | false => exact .inl (isFull_of_parse?_eq_some hnumber h)
  . rintro (⟨hfull, rfl⟩ | ⟨hnumber, rfl⟩)
    . exact hfull.parse?_eq project
    . exact parse?_of_isNumber hnumber project

theorem isFull_of_namesIn (hproject : isProjectKey project.toList = true)
    (h : NamesIn project text id) : IsFull id := by
  obtain ⟨hfull, rfl⟩ | ⟨hnumber, rfl⟩ := h
  . exact hfull
  . exact ⟨project.toList, text.toList, by simp, hproject, hnumber⟩

theorem isFull_of_parse? (hproject : isProjectKey project.toList = true)
    (h : parse? project text = some id) : IsFull id :=
  isFull_of_namesIn hproject (parse?_eq_some_iff.1 h)

end Workday.TaskId
