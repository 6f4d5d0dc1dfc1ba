import Workday.Text.Decimal

/-!
This module contains the keys of tasks. A token names a task by its full key, `OPS-17`, or by its
number alone, `17`, which stands for a task of the default project.
-/

namespace Workday.TaskId

open Workday.Text

/--
Whether a text is a project key: one or more ASCII capital letters.
-/
def isProjectKey (cs : List Char) : Bool :=
  !cs.isEmpty && cs.all Char.isUpper

def parseChars? (project token : List Char) : Option (List Char) :=
  if isNumber token then
    some (project ++ '-' :: token)
  else
    let key := token.takeWhile Char.isUpper
    match token.dropWhile Char.isUpper with
    | '-' :: number => if isProjectKey key && isNumber number then some token else none
    | _ => none

/--
The key of the task that a token names, if it names one: the token itself if it brings a project
of its own, else its number in `project`. No rule is set on `project` here.
-/
def parse? (project token : String) : Option String :=
  (parseChars? project.toList token.toList).map String.ofList

end Workday.TaskId
