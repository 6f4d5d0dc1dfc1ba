import Workday.CommandLine
import Workday.Failure
import Workday.Overview

/-!
This module contains the logging of a day. Its stages are reading the tokens, assigning the day,
looking up every name, showing the timesheet, and, if asked for, writing the work. A stage starts
only after the one before it has come to its end, so nothing is written unless every name was found.
-/

namespace Workday.Logging

def remarkTokens (project : String) : List String → Run Failure Unit
  | [] => pure ()
  | token :: tokens => do
    match Token.remark? project token with
    | some remark => Run.say .tokens .debug remark
    | none => pure ()
    remarkTokens project tokens

def remarkSplit (project : String) (tokens : List String) : Run Failure Unit :=
  match (parseTasks project tokens).toOption.bind split? with
  | some split => Run.say .gaps .debug split.remark
  | none => pure ()

/--
Read tokens and assign the day, and tell what was accepted although it does not add up.
-/
def prepare (project : String) (sloppy : Bool) (tokens : List String) : Run Failure Timesheet := do
  remarkTokens project tokens
  remarkSplit project tokens
  let sheet ← Run.liftExcept ((Timesheet.prepare project sloppy tokens).mapError .refused)
  match sheet.imbalance with
  | some imbalance =>
    Run.say .logging .warning (Message.sloppyAllocation imbalance.message).text
  | none => pure ()
  return sheet

def present (names : Names) (date : Date) (tasks : List Task) : Run Failure Unit := do
  Run.sayFramed .logging .plain (Message.timesheetHeader date.long).text
  Run.emit (.table (Overview.table names tasks))
  Run.sayFramed .logging .plain Message.spreadsheetRowHeader.text
  Run.say .logging .plain (Spreadsheet.row names tasks)

def write (settings : JiraSettings) (tracker : Tracker) (date : Date) (tasks : List Task) :
    Run Failure Unit := do
  let time ← Run.liftExcept (settings.startTime.mapError .invalid)
  let count ← Run.mapError .unwritten (Worklog.write settings tracker ⟨date, time⟩ tasks)
  Run.sayFramed .logging .success (Message.allWorklogsWritten count date.numeric).text

/--
Log a day. Without being asked to write, tell that nothing was written.
-/
def run (stored : Except Unusable Settings) (tracker : Tracker) (today : Date)
    (request : LogRequest) : Run Failure Unit := do
  if request.tokens.isEmpty then
    throw .noTasks
  let settings := (← Run.liftExcept (stored.mapError .settings)).effective
  let date := request.date.getD today
  let sheet ← prepare settings.project request.sloppy request.tokens
  let names ← Run.mapError .unnamed (Worklog.lookupNames settings tracker [] sheet.tasks)
  present names date sheet.tasks
  if request.write then
    write settings tracker date sheet.tasks
  else
    Run.sayFramed .logging .info Message.dryRun.text

end Workday.Logging
