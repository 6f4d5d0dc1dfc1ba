import Workday.Conclusion

/-!
This module contains the setup of the program: its user chooses what to set up and is asked for each
setting, with the current one as default. The answers are checked before anything is saved.
-/

namespace Workday.Setup

def ask {α : Type} (question : List Key → Except Unanswered (α × List Key)) (keys : List Key) :
    Run Failure (α × List Key) :=
  match question keys with
  | .ok answer => pure answer
  | .error cause => throw (.unanswered cause)

def askTracker (current : JiraSettings) (keys : List Key) : Run Failure JiraSettings := do
  let (binary, keys) ← ask (EditedLine.empty.answer current.binary) keys
  let (project, keys) ← ask (EditedLine.empty.answer current.project) keys
  let (startedAt, _) ← ask (EditedLine.empty.answer current.startedAt) keys
  let settings : JiraSettings := ⟨binary, project, startedAt⟩
  match settings.check with
  | .ok () => return settings
  | .error cause => throw (.invalid cause)

/--
Ask what to set up and for its settings. What is not chosen stays as it is.
-/
def askAll (current : Settings) (keys : List Key) : Run Failure Settings := do
  let (chosen, keys) ← ask (Choice.answer false) keys
  if chosen then
    Run.say .settings .plain Message.configModuleJira.text
    return ⟨some (← askTracker current.effective keys)⟩
  else
    return current

/--
Ask on a terminal. Settings that cannot be used are forgotten, so that the questions start from the
defaults.
-/
def answers (stored : Except Unusable Settings) (terminal : Option (List Key)) :
    Run Failure Settings :=
  match terminal with
  | none => throw .noTerminal
  | some keys => askAll (stored.toOption.getD Settings.default) keys

/--
Ask for settings and save them. Directories that were made stay even if saving fails.
-/
def run (tree : FileTree) (home : Option String) (terminal : Option (List Key)) : Conclusion :=
  match (answers (Settings.read tree home) terminal).start with
  | (.error failure, trace) => ⟨some failure, tree, trace⟩
  | (.ok settings, trace) =>
    match settings.save tree home with
    | (.ok (), tree) => ⟨none, tree, trace.record (done Message.configSaved)⟩
    | (.error error, tree) => ⟨some (.file error), tree, trace⟩
where
  done (message : Message) : Event := .notice ⟨.setup, .success, false, message.text⟩

def forget (tree : FileTree) (home : Option String) : Conclusion :=
  match Settings.delete tree home with
  | .ok tree => ⟨none, tree, Trace.empty.record (run.done Message.configDeleted)⟩
  | .error error => ⟨some (.file error), tree, Trace.empty⟩

end Workday.Setup
