import Workday.TaskId
import Workday.Duration
import Workday.Draft

/-!
This module contains the words of a command: every token begins a task, gives the latest task its
duration, or is neither. Reading a command turns its tokens into tasks or into the list of its
rejected tokens.
-/

namespace Workday

inductive Token where
  | task (id : String)
  | duration (minutes : UInt32)
  | unknown
  deriving Repr, BEq, DecidableEq, Inhabited

namespace Token

/--
Classify a token. No text is a task and a duration at once, so that the order of the two questions
does not matter.
-/
def classify (project text : String) : Token :=
  match TaskId.parse? project text with
  | some id => .task id
  | none =>
    match Duration.parse? text with
    | some minutes => .duration minutes
    | none => .unknown

/--
What is to be told about a token while it is read: how it was understood, or nothing at all about a
token that is not.
-/
def remark? (project text : String) : Option String :=
  match classify project text with
  | .task id => some ("Token '" ++ text ++ "' starts task " ++ id)
  | .duration minutes => some ("Token '" ++ text ++ "' is " ++ toString minutes.toNat ++ " minutes")
  | .unknown => none

end Token

namespace Draft

def read (project : String) (draft : Draft) (text : String) : Draft :=
  match Token.classify project text with
  | .task id => draft.start id
  | .duration minutes => draft.attach text minutes
  | .unknown => draft.reject text .unparseable

end Draft

/--
The project of task numbers that stand alone, unless another one is chosen.
-/
def defaultProject : String := "LP"

def parseTasks (project : String) (tokens : List String) : Except (List Rejection) (List Task) :=
  (tokens.foldl (Draft.read project) Draft.empty).finish

end Workday
