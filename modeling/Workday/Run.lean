import Workday.Notice
import Workday.Text.Lossy

/-!
This module contains the runs of the program as pure functions. A run executes commands of the
issue tracker's client and tells its user what happens. Its trace keeps both, also where the run
fails.
-/

namespace Workday

/--
A command of another program, to be executed without a shell.
-/
structure Command where
  program : String
  arguments : List String
  deriving Repr, BEq, DecidableEq, Inhabited

inductive Response where
  /-- The program ended. The status of a program that a signal ended is -1. -/
  | exited (status : Int) (stdout stderr : String)
  | unstartable (reason : String)
  deriving Repr, BEq, DecidableEq, Inhabited

/--
The response of a program that ended with a status, or with none if a signal ended it, and has
written the given bytes.
-/
def Response.ofBytes (status : Option Int) (stdout stderr : ByteArray) : Response :=
  .exited (status.getD (-1)) (Text.decodeLossy stdout) (Text.decodeLossy stderr)

/--
The issue tracker as its client shows it: the response to a command, which may depend on all
commands executed before it, the latest of them first.
-/
structure Tracker where
  respond : List Command → Command → Response

/--
What a run has done so far, the latest first.
-/
structure Trace where
  commands : List Command
  events : List Event
  deriving Repr, Inhabited

namespace Trace

def empty : Trace := ⟨[], []⟩

def record (trace : Trace) (event : Event) : Trace :=
  { trace with events := event :: trace.events }

end Trace

/--
A run that may fail with an `ε` and leaves its trace in any case.
-/
abbrev Run (ε : Type) := ExceptT ε (StateM Trace)

namespace Run

def emit {ε : Type} (event : Event) : Run ε Unit :=
  modify fun trace => trace.record event

def say {ε : Type} (origin : Origin) (kind : Kind) (text : String) : Run ε Unit :=
  emit (.notice ⟨origin, kind, false, text⟩)

/--
Tell the user a text with an empty line before and after it.
-/
def sayFramed {ε : Type} (origin : Origin) (kind : Kind) (text : String) : Run ε Unit :=
  emit (.notice ⟨origin, kind, true, text⟩)

def execute {ε : Type} (tracker : Tracker) (command : Command) : Run ε Response := do
  let trace ← get
  set { trace with commands := command :: trace.commands }
  return tracker.respond trace.commands command

def liftExcept {ε α : Type} (outcome : Except ε α) : Run ε α :=
  ExceptT.mk (pure outcome)

def mapError {ε δ α : Type} (f : ε → δ) (run : Run ε α) : Run δ α :=
  ExceptT.mk do return (← ExceptT.run run).mapError f

def start {ε α : Type} (run : Run ε α) : Except ε α × Trace :=
  StateT.run (ExceptT.run run) Trace.empty

end Run

end Workday
