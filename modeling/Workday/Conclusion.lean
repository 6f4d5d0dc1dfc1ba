import Workday.Failure

/-!
This module contains how a command of the user comes to its end.
-/

namespace Workday

inductive Ending where
  | exited (status : Nat)
  | interrupted
  deriving Repr, BEq, DecidableEq, Inhabited

structure Conclusion where
  failure : Option Failure
  tree : FileTree
  trace : Trace
  deriving Inhabited

namespace Conclusion

def ofRun {α : Type} (tree : FileTree) (run : Run Failure α) : Conclusion :=
  match run.start with
  | (.ok _, trace) => ⟨none, tree, trace⟩
  | (.error failure, trace) => ⟨some failure, tree, trace⟩

def events (conclusion : Conclusion) : List Event :=
  conclusion.trace.events.reverse ++ (conclusion.failure.bind Failure.event?).toList

/--
How the run ends. An aborted run has an exit status of its own.
-/
def ending (conclusion : Conclusion) : Ending :=
  match conclusion.failure with
  | none => .exited 0
  | some (.unanswered .interrupted) => .interrupted
  | some (.refused .aborted) => .exited 101
  | some _ => .exited 1

end Conclusion

end Workday
