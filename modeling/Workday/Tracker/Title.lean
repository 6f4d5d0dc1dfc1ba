import Workday.Text.Blank

/-!
This module contains the search for the title of an issue in what the tracker's client prints about
it. The title is what follows the first `# ` on its line, without white space around it.
-/

namespace Workday.Title

open Text

/--
The rest of the line after the first `# ` that is not at the end of its line.
-/
def findChars? : List Char → Option (List Char)
  | [] => none
  | '#' :: ' ' :: c :: cs =>
    if c = '\n' then findChars? (' ' :: c :: cs) else some ((c :: cs).takeWhile (· ≠ '\n'))
  | _ :: cs => findChars? cs

/--
The title in a printed issue, if there is one that is not blank. A blank title is not made up for
by a later one.
-/
def find? (text : String) : Option String :=
  match findChars? text.toList with
  | some cs => if (trim cs).isEmpty then none else some (String.ofList (trim cs))
  | none => none

end Workday.Title
