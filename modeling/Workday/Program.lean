import Workday.Display
import Workday.Environment
import Workday.Logging
import Workday.Setup

/-!
This module contains a whole run of the program, as a function from its command line and all that
surrounds it to what it prints, what it executes and what it leaves behind.
-/

namespace Workday

structure Surroundings where
  today : Date
  environment : Environment
  tree : FileTree
  /-- The characters typed on the terminal, if there is one. -/
  terminal : Option String
  tracker : Tracker

structure Outcome where
  ending : Ending
  failure : Option Failure
  output : Output
  commands : List Command
  tree : FileTree
  deriving Inhabited

namespace Program

/--
Whether notices go to the log, and which of them. They do as soon as one of two variables is set, to
whatever value.
-/
def display (environment : Environment) : Display :=
  if (environment.lookup "WORKLOG_DEBUG").isSome || (environment.lookup "RUST_LOG").isSome then
    .log (Log.Filter.ofSetting (environment.lookup "RUST_LOG"))
  else
    .plain

def answer (surroundings : Surroundings) (environment : Environment) : Request → Outcome
  | .help topic => ⟨.exited 0, none, ⟨topic.text, ""⟩, [], surroundings.tree⟩
  | .version => ⟨.exited 0, none, ⟨versionText, ""⟩, [], surroundings.tree⟩
  | .setUp true => conclude (Setup.forget tree home)
  | .setUp false =>
    conclude (Setup.run tree home (surroundings.terminal.map fun typed => Key.decode typed.toList))
  | .log request =>
    conclude (Conclusion.ofRun tree
      (Logging.run (Settings.read tree home) surroundings.tracker surroundings.today request))
where
  tree : FileTree := surroundings.tree
  home : Option String := environment.lookup "HOME"
  conclude (conclusion : Conclusion) : Outcome :=
    ⟨conclusion.ending, conclusion.failure, (display environment).renderAll conclusion.events,
      conclusion.trace.commands.reverse, conclusion.tree⟩

def run (surroundings : Surroundings) (arguments : List String) : Outcome :=
  match Request.parse arguments with
  | .error error => ⟨.exited 2, none, ⟨"", error.text⟩, [], surroundings.tree⟩
  | .ok request =>
    answer surroundings (Environment.complete surroundings.environment surroundings.tree) request

end Program

end Workday
