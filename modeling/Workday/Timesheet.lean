import Workday.Token
import Workday.Allocation

/-!
This module contains the timesheet of a day: the tasks of a command with all their minutes
assigned. In sloppy mode a day that does not add up is accepted with the minutes as given, as long
as it has no gap, since the share of a gap would have no meaning.
-/

namespace Workday

/--
The tasks of a day, every one with its minutes, and by how much they miss the budget where that was
accepted.
-/
structure Timesheet where
  tasks : List Task
  imbalance : Option Imbalance
  deriving Repr, BEq, DecidableEq, Inhabited

inductive Refusal where
  | rejected (rejections : List Rejection)
  | unbalanced (imbalance : Imbalance)
  /-- The program ends before it comes to a timesheet. -/
  | aborted
  deriving Repr, BEq, DecidableEq, Inhabited

namespace Refusal

def message : Refusal → String
  | rejected rejections => toString rejections.length ++ " token(s) couldn't be parsed"
  | unbalanced imbalance => imbalance.message
  | aborted => "attempt to divide by zero"

end Refusal

namespace Timesheet

/--
The timesheet of tasks that were read. Without a gap, sloppy mode keeps the tasks as they are where
filling the gaps fails.
-/
def ofTasks (sloppy : Bool) (tasks : List Task) : Except Refusal Timesheet :=
  match fillGaps tasks with
  | .ok filled => .ok ⟨filled, none⟩
  | .error (.unbalanced imbalance) =>
    if sloppy && !tasks.any Task.isGap then
      .ok ⟨tasks, some imbalance⟩
    else
      .error (.unbalanced imbalance)
  | .error .aborted => .error .aborted

def prepare (project : String) (sloppy : Bool) (tokens : List String) : Except Refusal Timesheet :=
  match parseTasks project tokens with
  | .error rejections => .error (.rejected rejections)
  | .ok tasks => ofTasks sloppy tasks

end Timesheet

end Workday
