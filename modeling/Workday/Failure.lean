import Workday.Message
import Workday.Settings.Storage
import Workday.Setup.Question
import Workday.Timesheet
import Workday.Worklog

/-!
This module contains everything that can end a run of the program, with the text that its user is
shown for it. Texts of the program's own stand behind a mark, those of files and of the notation of
settings do not.
-/

namespace Workday

inductive Failure where
  | noTasks
  | settings (cause : Unusable)
  | refused (refusal : Refusal)
  | unnamed (failure : TaskFailure)
  | invalid (cause : JiraSettings.Invalid)
  | unwritten (failure : TaskFailure)
  | file (error : FileError)
  | noTerminal
  | unanswered (cause : Unanswered)
  deriving Repr, BEq, DecidableEq, Inhabited

def JiraSettings.Invalid.report : JiraSettings.Invalid → Message
  | .project value => .invalidProjectKey value
  | .startedAt value => .invalidStartTime value

def Refusal.report : Refusal → String
  | .rejected rejections =>
    rejections.foldl
      (fun text rejection => text ++ "\n" ++ (Message.parseErrorItem rejection.message).text)
      Message.parseFailed.text
  | .unbalanced imbalance => (Message.allocationFailed imbalance.message).text
  | .aborted => Refusal.aborted.message

/--
A text of the program's own about something that failed.
-/
def marked (text : String) : String :=
  Kind.error.mark ++ text

def Unusable.message : Unusable → String
  | .file error => error.message
  | .malformed text fault => fault.message text
  | .invalid cause => marked cause.report.text

namespace Failure

def message : Failure → String
  | noTasks => marked Message.noTasksGiven.text
  | settings cause => cause.message
  | refused refusal => marked refusal.report
  | unnamed failure => marked (Message.taskNameNotFound failure.id failure.cause.message).text
  | invalid cause => marked cause.report.text
  | unwritten failure => marked (Message.worklogWriteFailed failure.id failure.cause.message).text
  | file error => error.message
  | noTerminal => "IO error: not a terminal"
  | unanswered .interrupted => "IO error: read interrupted"
  | unanswered .ended => "IO error: Reached end of file"

/--
The texts of what lies behind a failure, which only the log shows.
-/
def causes : Failure → List String
  | noTerminal => ["not a terminal"]
  | unanswered .interrupted => ["read interrupted"]
  | unanswered .ended => ["Reached end of file"]
  | _ => []

/--
How the run ends for its user. One who interrupts it is told nothing, and an aborted run tells nothing
itself: what the system says about one is no part of its output.
-/
def event? : Failure → Option Event
  | unanswered .interrupted => none
  | refused .aborted => none
  | failure => some (.failure failure.message failure.causes)

end Failure

end Workday
