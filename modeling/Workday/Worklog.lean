import Workday.Message
import Workday.Spreadsheet
import Workday.Tracker.Client

/-!
This module contains the two passes over a timesheet that talk to the issue tracker. The first
looks up the name of every task and changes nothing, the second logs the work. Each stops at the
first failure.
-/

namespace Workday

structure TaskFailure where
  id : String
  cause : TrackerError
  deriving Repr, BEq, DecidableEq, Inhabited

namespace TaskFailure

def message (failure : TaskFailure) : String :=
  "task " ++ failure.id ++ ": " ++ failure.cause.message

end TaskFailure

namespace IssueDesk

variable {m : Type → Type} [Monad m]

def failWith {α : Type} (id : String) (answer : m (Except TrackerError α)) :
    ExceptT TaskFailure m α :=
  ExceptT.mk do return (← answer).mapError (TaskFailure.mk id)

/--
Look up the names of all tasks whose name is not known yet. A task that occurs twice is looked up
once.
-/
def lookupNames (desk : IssueDesk m) (known : Names) : List Task → ExceptT TaskFailure m Names
  | [] => return known
  | task :: tasks => do
    if (known.lookup task.id).isSome then
      desk.lookupNames known tasks
    else
      desk.tell (Message.lookingUpTask task.id).text
      let name ← failWith task.id (desk.taskName task.id)
      desk.lookupNames ((task.id, name) :: known) tasks

/--
Log the minutes of every task and count the entries made. The tracker refuses entries without time,
so tasks of zero minutes are passed over.
-/
def write (desk : IssueDesk m) (started : Moment) : List Task → ExceptT TaskFailure m Nat
  | [] => return 0
  | task :: tasks => do
    let minutes := task.minutes.getD 0
    if minutes = 0 then
      desk.write started tasks
    else
      desk.tell (Message.writingWorklog task.id (Duration.render minutes)).text
      failWith task.id (desk.addWorklog task.id minutes started)
      return 1 + (← desk.write started tasks)

end IssueDesk

namespace Worklog

variable (settings : JiraSettings) (tracker : Tracker)

def lookupNames (known : Names) (tasks : List Task) : Run TaskFailure Names :=
  (Client.desk settings tracker).lookupNames known tasks

def write (started : Moment) (tasks : List Task) : Run TaskFailure Nat :=
  (Client.desk settings tracker).write started tasks

theorem lookupNames_nil (known : Names) :
    lookupNames settings tracker known [] = pure known := rfl

theorem lookupNames_cons (known : Names) (task : Task) (tasks : List Task) :
    lookupNames settings tracker known (task :: tasks) =
      if (known.lookup task.id).isSome then
        lookupNames settings tracker known tasks
      else (do
        Run.say .timesheet .debug (Message.lookingUpTask task.id).text
        let name ←
          Run.mapError (TaskFailure.mk task.id) (Client.taskName settings tracker task.id)
        lookupNames settings tracker ((task.id, name) :: known) tasks) := rfl

theorem write_nil (started : Moment) : write settings tracker started [] = pure 0 := rfl

theorem write_cons (started : Moment) (task : Task) (tasks : List Task) :
    write settings tracker started (task :: tasks) =
      if task.minutes.getD 0 = 0 then
        write settings tracker started tasks
      else (do
        Run.say .timesheet .debug
          (Message.writingWorklog task.id (Duration.render (task.minutes.getD 0))).text
        Run.mapError (TaskFailure.mk task.id)
          (Client.addWorklog settings tracker task.id (task.minutes.getD 0) started)
        return 1 + (← write settings tracker started tasks)) := rfl

end Worklog

end Workday
