import Workday.Calendar.TimeOfDay
import Workday.TaskId
import Workday.Token

/-!
This module contains the settings of the program and the rules that they have to meet. Settings are
kept as they were given, also where they break a rule: the project is checked when settings are
read, the start time only when it is used.
-/

namespace Workday

structure JiraSettings where
  /-- The program that is the tracker's client. -/
  binary : String
  /-- The project of task numbers that stand alone. -/
  project : String
  startedAt : String
  deriving Repr, BEq, DecidableEq, Inhabited

/--
All settings. Without settings for the tracker its defaults are used.
-/
structure Settings where
  jira : Option JiraSettings
  deriving Repr, BEq, DecidableEq, Inhabited

namespace JiraSettings

def default : JiraSettings where
  binary := "jira"
  project := defaultProject
  startedAt := "10:00:00"

inductive Invalid where
  | project (value : String)
  | startedAt (value : String)
  deriving Repr, BEq, DecidableEq, Inhabited

def startTime (settings : JiraSettings) : Except Invalid TimeOfDay :=
  match TimeOfDay.parse? settings.startedAt with
  | some time => .ok time
  | none => .error (.startedAt settings.startedAt)

def checkProject (settings : JiraSettings) : Except Invalid Unit :=
  if TaskId.isProjectKey settings.project.toList then
    .ok ()
  else
    .error (.project settings.project)

def check (settings : JiraSettings) : Except Invalid Unit := do
  settings.checkProject
  discard settings.startTime

end JiraSettings

namespace Settings

def default : Settings := ⟨none⟩

def effective (settings : Settings) : JiraSettings :=
  settings.jira.getD JiraSettings.default

def check (settings : Settings) : Except JiraSettings.Invalid Unit :=
  match settings.jira with
  | some jira => jira.checkProject
  | none => .ok ()

end Settings

end Workday
