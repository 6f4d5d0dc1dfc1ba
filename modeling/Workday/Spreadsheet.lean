import Workday.Task
import Workday.Hours

/-!
This module contains the row that a day takes in a spreadsheet: one cell that lists the tasks and
one with the hours. The first cell may hold line breaks, so it is put in quotes, and a quote inside
it is written twice.
-/

namespace Workday

abbrev Names := List (String × String)

namespace Spreadsheet

def line (names : Names) (task : Task) : String :=
  match names.lookup task.id with
  | some name => "[" ++ task.id ++ "] " ++ name
  | none => "[" ++ task.id ++ "]"

def cell (names : Names) (tasks : List Task) : String :=
  "\n".intercalate (tasks.map (line names))

def doubleQuotes : List Char → List Char
  | [] => []
  | c :: cs => if c = '"' then '"' :: '"' :: doubleQuotes cs else c :: doubleQuotes cs

def row (names : Names) (tasks : List Task) : String :=
  "\"" ++ String.ofList (doubleQuotes (cell names tasks).toList) ++ "\"\t" ++
    hoursText (totalMinutes tasks).toNat

end Spreadsheet

end Workday
