import Workday.Proofs.TaskId
import Workday.Proofs.Token

/-!
This module contains which tokens name tasks and which of them name the same one. A task has one
name in full, and a task of the default project a second one, its number. No duration is among them.
-/

namespace Workday.TaskId

open Text

/--
The first token is the number of the task that the second one names in full, in the given project.
-/
def IsShortFor (project token full : String) : Prop :=
  isNumber token.toList = true ∧ full = project ++ "-" ++ token

section Naming

variable {project token id : String}

theorem isNumber_full (project token : String) :
    isNumber (project ++ "-" ++ token).toList = false := by
  simpa using not_isNumber_of_hyphen project.toList token.toList

theorem IsFull.isNumber_eq (h : IsFull token) : isNumber token.toList = false := by
  obtain ⟨key, number, htoken, _⟩ := h
  rw [htoken]
  apply not_isNumber_of_hyphen

theorem NamesIn.eq_of_isNumber (h : NamesIn project token id)
    (hnumber : isNumber token.toList = true) : id = project ++ "-" ++ token := by
  obtain ⟨hfull, _⟩ | ⟨_, rfl⟩ := h
  . rw [hfull.isNumber_eq] at hnumber
    contradiction
  . rfl

theorem NamesIn.eq_of_not_isNumber (h : NamesIn project token id)
    (hnumber : isNumber token.toList = false) : id = token := by
  obtain ⟨_, rfl⟩ | ⟨htoken, _⟩ := h
  . rfl
  . rw [hnumber] at htoken
    contradiction

end Naming

section Collision

variable {project token other id otherId : String}

theorem NamesIn.eq_of_isShortFor (h : NamesIn project token id)
    (hother : NamesIn project other otherId) (hshort : IsShortFor project token other) :
    id = otherId := by
  obtain ⟨hnumber, rfl⟩ := hshort
  rw [h.eq_of_isNumber hnumber, hother.eq_of_not_isNumber (isNumber_full project token)]

-- One case for each way in which the two tokens name their tasks, in full or by number.
theorem NamesIn.eq_iff (h : NamesIn project token id) (hother : NamesIn project other otherId) :
    id = otherId ↔
      token = other ∨ IsShortFor project token other ∨ IsShortFor project other token := by
  constructor
  . intro heq
    obtain ⟨_, rfl⟩ | ⟨hnumber, rfl⟩ := h
    . obtain ⟨_, rfl⟩ | ⟨hnumber, rfl⟩ := hother
      . exact .inl heq
      . exact .inr (.inr ⟨hnumber, heq⟩)
    . obtain ⟨_, rfl⟩ | ⟨_, rfl⟩ := hother
      . exact .inr (.inl ⟨hnumber, heq.symm⟩)
      . exact .inl ((String.append_right_inj _).1 heq)
  . rintro (rfl | hshort | hshort)
    . rw [← parse?_eq_some_iff] at h hother
      rw [h] at hother
      exact Option.some.inj hother
    . exact h.eq_of_isShortFor hother hshort
    . exact (hother.eq_of_isShortFor h hshort).symm

end Collision

/--
The tokens that name tasks are the full keys and the numbers, and no duration is one of them. In a
project with a proper key every token comes to a key that names itself in all projects. Two tokens
come to one key only if they are equal or one is the short form of the other.
-/
theorem parse?_forms (project : String) :
    (∀ token id, parse? project token = some id ↔ NamesIn project token id) ∧
    (∀ token, parse? project token = none ∨ Duration.parse? token = none) ∧
    (isProjectKey project.toList = true → ∀ token id, parse? project token = some id →
      ∀ other, parse? other id = some id) ∧
    ∀ token other id otherId,
      parse? project token = some id → parse? project other = some otherId →
        (id = otherId ↔
          token = other ∨ IsShortFor project token other ∨ IsShortFor project other token) := by
  refine ⟨fun token id => parse?_eq_some_iff, ?_, ?_, ?_⟩
  . intro token
    cases h : parse? project token with
    | none => exact .inl rfl
    | some id => exact .inr (Duration.parse?_of_taskId h)
  . intro hproject token id h other
    exact (isFull_of_parse? hproject h).parse?_eq other
  . intro token other id otherId h hother
    rw [parse?_eq_some_iff] at h hother
    exact h.eq_iff hother

theorem parse?_forms_of_number_and_key :
    isProjectKey "LP".toList = true ∧ parse? "LP" "622" = some "LP-622" ∧
      parse? "LP" "LP-622" = some "LP-622" ∧ parse? "x" "LP-622" = some "LP-622" ∧
      ("622" = "LP-622" ∨ IsShortFor "LP" "622" "LP-622" ∨ IsShortFor "LP" "LP-622" "622") := by
  have hproject : isProjectKey "LP".toList = true := by decide
  have hnumber : parse? "LP" "622" = some "LP-622" := by decide +kernel
  have hkey : parse? "LP" "LP-622" = some "LP-622" := by decide +kernel
  obtain ⟨_, _, hnames, hsame⟩ := parse?_forms "LP"
  refine ⟨hproject, hnumber, hkey, hnames hproject "622" "LP-622" hnumber "x", ?_⟩
  exact (hsame "622" "LP-622" _ _ hnumber hkey).1 rfl

end Workday.TaskId
