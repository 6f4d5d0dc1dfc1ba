/-!
This module contains the wording of everything that the program says in words of its own.
-/

namespace Workday

inductive Message where
  | noTasksGiven
  | parseFailed
  | parseErrorItem (error : String)
  | allocationFailed (error : String)
  | sloppyAllocation (error : String)
  | timesheetHeader (date : String)
  | lookingUpTask (id : String)
  | taskNameNotFound (id reason : String)
  | writingWorklog (id time : String)
  | worklogWriteFailed (id reason : String)
  | allWorklogsWritten (count : Nat) (date : String)
  | dryRun
  | spreadsheetRowHeader
  | configSaved
  | configDeleted
  | configModuleJira
  | invalidStartTime (value : String)
  | invalidProjectKey (value : String)
  | promptSelectModules
  | promptJiraBinary
  | promptJiraProject
  | promptJiraStartedAt
  deriving Repr, BEq, DecidableEq, Inhabited

namespace Message

def text : Message → String
  | noTasksGiven => "No tasks given. Run with --help to see examples."
  | parseFailed => "Things went wrong:"
  | parseErrorItem error => "- " ++ error
  | allocationFailed error => "Couldn't fill in the gaps. Reason: " ++ error ++ "."
  | sloppyAllocation error =>
    "The day doesn't add up to 8h (" ++ error ++ "), logging the time as is."
  | timesheetHeader date => "Timesheet for " ++ date
  | lookingUpTask id => "Looking up " ++ id ++ " in Jira"
  | taskNameNotFound id reason =>
    "Couldn't retrieve the task " ++ id ++ " from Jira. Reason: " ++ reason
  | writingWorklog id time => "Writing " ++ time ++ " to " ++ id
  | worklogWriteFailed id reason => "Couldn't log time to " ++ id ++ ". Reason: " ++ reason
  | allWorklogsWritten count date =>
    toString count ++ " worklog(s) written for " ++ date
  | dryRun => "Nothing was written to Jira. Run again with --write to log the time."
  | spreadsheetRowHeader => "Spreadsheet row:"
  | configSaved => "Configuration saved successfully"
  | configDeleted => "Configuration deleted"
  | configModuleJira => "Jira settings"
  | invalidStartTime value =>
    "Invalid worklog start time '" ++ value ++ "', expected HH:MM:SS"
  | invalidProjectKey value =>
    "Invalid project key '" ++ value ++ "', expected uppercase letters like LP"
  | promptSelectModules => "Select nodes to configure"
  | promptJiraBinary => "Enter the Jira CLI executable"
  | promptJiraProject => "Enter the default project key"
  | promptJiraStartedAt => "Enter the worklog start time (HH:MM:SS)"

end Message

end Workday
