import Std.Time.Zoned
import Workday.Program
import Workday.Tracker.Exchange

/-!
This module contains the command itself. It collects what surrounds a run, runs the program as a
function of it, and puts the outcome into effect. Commands for the tracker's client are printed, one
on a line, and what came of each is read from the line of input that answers it.
-/

namespace Workday.Main

def pathOf (place : Place) : String :=
  "/" ++ "/".intercalate place.reverse

def attempt {α : Type} (action : IO α) : IO (Option α) := do
  try
    return some (← action)
  catch _ =>
    return none

/--
What is at a place. What exists and cannot be read is a directory.
-/
def lookAt (place : Place) : IO (Option Node) := do
  match ← attempt (IO.FS.readBinFile (pathOf place)) with
  | some data => return some (.file data)
  | none => return (← attempt (IO.FS.realPath (pathOf place))).map fun _ => .directory

def around (place : Place) : List Place :=
  (List.range (place.length + 1)).map place.drop

def treeOf (here : Place) (places : List Place) : IO FileTree := do
  let nodes ← places.eraseDups.filterMapM fun place => do
    return (← lookAt place).map fun node => (place, node)
  return ⟨here, nodes⟩

/--
The files and directories that a run can come across: files with variables around the working
directory, and those on the way to the settings. A file with variables may say where these are.
-/
def survey (here : Place) (environment : Environment) : IO FileTree := do
  let nearby := around here ++ (around here).map (Environment.fileName :: ·)
  let home := (Environment.complete environment (← treeOf here nearby)).lookup "HOME"
  let settings := (DataDirectory.ofHome home).filePath Settings.fileName
  let start := if FilePath.isAbsolute settings then [] else here
  treeOf here (nearby ++ around ((FilePath.names settings).reverse ++ start))

def putIntoEffect (earlier later : FileTree) : IO Unit := do
  for (place, node) in later.nodes.reverse do
    match node, earlier.node? place with
    | .directory, none => IO.FS.createDirAll (pathOf place)
    | .file data, some (.file old) =>
      if data != old then
        IO.FS.writeBinFile (pathOf place) data
    | .file data, _ => IO.FS.writeBinFile (pathOf place) data
    | .directory, some _ => pure ()
  for (place, _) in earlier.nodes do
    if (later.node? place).isNone then
      IO.FS.removeFile (pathOf place)

/--
Run with the responses and the typed characters that are known, and again with more of them for as
long as some are missing.
-/
partial def converse (surroundings : Surroundings) (arguments : List String)
    (responses : List Response) : IO Outcome := do
  let stdin ← IO.getStdin
  let outcome :=
    Program.run { surroundings with tracker := Tracker.replaying responses } arguments
  match outcome.commands[responses.length]?, outcome.failure with
  | some command, _ =>
    IO.println command.line
    (← IO.getStdout).flush
    let reply ← stdin.getLine
    converse surroundings arguments (responses ++ [Response.ofLine reply])
  | none, some (.unanswered .ended) =>
    let line ← stdin.getLine
    if line.isEmpty then
      return outcome
    else
      let terminal := surroundings.terminal.map (· ++ line)
      converse { surroundings with terminal } arguments responses
  | none, _ => return outcome

/--
The variable in an entry of the environment. An entry that is no text has none.
-/
def entry? (bytes : List UInt8) : Option (String × String) := do
  let text ← String.fromUTF8? ⟨bytes.toArray⟩
  match text.toList.span (· != '=') with
  | (name, _ :: value) => return (String.ofList name, String.ofList value)
  | (_, []) => none

/--
All variables of this process. A line of a file with variables may name any of them.
-/
def environment : IO Environment := do
  let data ← IO.FS.readBinFile "/proc/self/environ"
  return (data.toList.splitOn 0).filterMap entry?

/--
The exit status for the end of a run. An interrupted run has the one that shells give it.
-/
def exitStatus : Ending → UInt32
  | .exited status => UInt32.ofNat status
  | .interrupted => 130

def today : IO Date := do
  let now ← Std.Time.PlainDate.now
  match Date.of? now.year now.month.val.toNat now.day.val.toNat with
  | some date => return date
  | none => throw (IO.userError "the clock is out of range")

end Workday.Main

open Workday in
def main (arguments : List String) : IO UInt32 := do
  let environment ← Main.environment
  let here := (FilePath.names (toString (← IO.currentDir))).reverse
  let tree ← Main.survey here environment
  let terminal := if ← (← IO.getStdin).isTty then some "" else none
  let surroundings : Surroundings :=
    ⟨← Main.today, environment, tree, terminal, Tracker.replaying []⟩
  let outcome ← Main.converse surroundings arguments []
  Main.putIntoEffect tree outcome.tree
  IO.print outcome.output.out
  IO.eprint outcome.output.err
  return Main.exitStatus outcome.ending
