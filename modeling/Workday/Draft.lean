import Workday.Task

/-!
This module contains the workday as it grows while its tokens are read: the tasks begun so far
beside the tokens that had to be rejected. Nothing stops at a rejected token, so that every one of
them can be told at once.
-/

namespace Workday

inductive Reason where
  /-- A duration that no task precedes. -/
  | timeAsFirstArgument
  /-- A duration after a task that has one already. -/
  | timeWithoutTask
  /-- Neither a task nor a duration. -/
  | unparseable
  deriving Repr, BEq, DecidableEq, Inhabited

namespace Reason

def text : Reason → String
  | timeAsFirstArgument => "time as a first argument"
  | timeWithoutTask => "time without a task"
  | unparseable => "couldn't parse"

end Reason

structure Rejection where
  token : String
  reason : Reason
  deriving Repr, BEq, DecidableEq, Inhabited

namespace Rejection

def message (rejection : Rejection) : String :=
  rejection.reason.text ++ " (token: " ++ rejection.token ++ ")"

end Rejection

/--
A workday in the making. Both lists have the latest entry first.
-/
structure Draft where
  tasks : List Task
  rejections : List Rejection
  deriving Repr, BEq, DecidableEq, Inhabited

namespace Draft

def empty : Draft := ⟨[], []⟩

def start (draft : Draft) (id : String) : Draft :=
  { draft with tasks := ⟨id, none⟩ :: draft.tasks }

def reject (draft : Draft) (token : String) (reason : Reason) : Draft :=
  { draft with rejections := ⟨token, reason⟩ :: draft.rejections }

/--
Give the latest task its minutes. Without a task, or if that task has its minutes already, the
token that brought them is rejected.
-/
def attach (draft : Draft) (token : String) (minutes : UInt32) : Draft :=
  match draft.tasks with
  | [] => draft.reject token .timeAsFirstArgument
  | ⟨_, some _⟩ :: _ => draft.reject token .timeWithoutTask
  | ⟨id, none⟩ :: earlier => { draft with tasks := ⟨id, some minutes⟩ :: earlier }

/--
The tasks in the order in which they were begun, or every rejected token if there is one.
-/
def finish (draft : Draft) : Except (List Rejection) (List Task) :=
  if draft.rejections.isEmpty then
    .ok draft.tasks.reverse
  else
    .error draft.rejections.reverse

@[simp]
theorem finish_empty : empty.finish = .ok [] := rfl

theorem finish_eq_ok_iff {draft : Draft} {tasks : List Task} :
    draft.finish = .ok tasks ↔ draft.rejections = [] ∧ draft.tasks.reverse = tasks := by
  unfold finish
  split
  . next hnone => simp [List.isEmpty_iff.1 hnone]
  . next hsome =>
    rw [List.isEmpty_iff] at hsome
    simp [hsome]

theorem finish_eq_error_iff {draft : Draft} {rejections : List Rejection} :
    draft.finish = .error rejections ↔
      draft.rejections ≠ [] ∧ draft.rejections.reverse = rejections := by
  unfold finish
  split
  . next hnone => simp [List.isEmpty_iff.1 hnone]
  . next hsome =>
    rw [List.isEmpty_iff] at hsome
    simp [hsome]

end Draft

end Workday
