import Workday.Duration
import Workday.Run
import Workday.Settings
import Workday.Tracker.Title

/-!
This module contains what the issue tracker is used for, looking up the title of an issue and
logging work on it, and how both are done by way of the tracker's command line client.
-/

namespace Workday

inductive TrackerError where
  | nameNotFound (id : String)
  | commandFailed (status : Int) (stderr : String)
  | unstartable (program reason : String)
  deriving Repr, BEq, DecidableEq, Inhabited

namespace TrackerError

def message : TrackerError → String
  | nameNotFound id => "no name found for " ++ id
  | commandFailed status stderr =>
    "command exited with status " ++ toString status ++ ": " ++ stderr
  | unstartable program reason => "failed to run " ++ program ++ ": " ++ reason

end TrackerError

/--
What a timesheet needs of an issue tracker: the title of an issue, and work logged on it. Before it
is asked for something the desk can be told so. What happens meanwhile happens in `m`.
-/
structure IssueDesk (m : Type → Type) where
  tell : String → m Unit
  taskName : String → m (Except TrackerError String)
  addWorklog : String → UInt32 → Moment → m (Except TrackerError Unit)

namespace Client

def viewCommand (settings : JiraSettings) (id : String) : Command where
  program := settings.binary
  arguments := ["issue", "view", id]

def addCommand (settings : JiraSettings) (id : String) (minutes : UInt32) (started : Moment) :
    Command where
  program := settings.binary
  arguments :=
    ["issue", "worklog", "add", id, Duration.render minutes, "--started", started.text,
      "--no-input"]

/--
What a response has printed, if the command succeeded.
-/
def printed (program : String) : Response → Except TrackerError String
  | .unstartable reason => .error (.unstartable program reason)
  | .exited status stdout stderr =>
    if status = 0 then
      .ok stdout
    else
      .error (.commandFailed status (String.ofList (Text.trim stderr.toList)))

def titleIn (id text : String) : Except TrackerError String :=
  match Title.find? text with
  | some title => .ok title
  | none => .error (.nameNotFound id)

def run (tracker : Tracker) (command : Command) : Run TrackerError String := do
  Run.say .tracker .debug
    ("Running " ++ command.program ++ " " ++ " ".intercalate command.arguments)
  let response ← Run.execute tracker command
  Run.liftExcept (printed command.program response)

def taskName (settings : JiraSettings) (tracker : Tracker) (id : String) :
    Run TrackerError String := do
  let text ← run tracker (viewCommand settings id)
  Run.liftExcept (titleIn id text)

def addWorklog (settings : JiraSettings) (tracker : Tracker) (id : String) (minutes : UInt32)
    (started : Moment) : Run TrackerError Unit := do
  discard (run tracker (addCommand settings id minutes started))

def desk (settings : JiraSettings) (tracker : Tracker) : IssueDesk (StateM Trace) where
  tell text := modify fun trace => trace.record (.notice ⟨.timesheet, .debug, false, text⟩)
  taskName id := (taskName settings tracker id).run
  addWorklog id minutes started := (addWorklog settings tracker id minutes started).run

end Client

end Workday
