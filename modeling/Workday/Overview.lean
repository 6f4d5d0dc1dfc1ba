import Workday.Clock
import Workday.Spreadsheet
import Workday.Table

/-!
This module contains the overview of a day that is shown before anything is written: a table with a
row for each task and a row for their total.
-/

namespace Workday.Overview

structure Entry where
  id : String
  name : String
  time : String
  deriving Repr, BEq, DecidableEq, Inhabited

def entry (names : Names) (task : Task) : Entry where
  id := task.id
  name := (names.lookup task.id).getD ""
  time := (TimeSpan.ofMinutes (task.minutes.getD 0)).clock

def entries (names : Names) (tasks : List Task) : List Entry :=
  tasks.map (entry names)

def cells (names : Names) (tasks : List Task) : List (List String) :=
  ["ID", "NAME", "TIME"] ::
    (entries names tasks).map (fun entry => [entry.id, entry.name, entry.time]) ++
    [["", "TOTAL", clock (totalMinutes tasks).toNat]]

def table (names : Names) (tasks : List Task) : String :=
  Table.draw (cells names tasks)

end Workday.Overview
