import Workday.Log.Directive

/-!
This module contains the filter that decides which notices the log shows. A filter is written as
directives with commas between them, of which the most specific one decides.
-/

namespace Workday.Log

abbrev Filter := List Directive

namespace Filter

/--
The directives that are written in a text, if all are well-formed. There may be none.
-/
def parse? (text : String) : Option Filter :=
  let written := (text.toList.splitOn ',').filter fun cs => !cs.isEmpty
  (written.mapM Directive.read?).map fun directives => directives.filterMap id

/--
The filter for a setting of the user. Without one, or with one that is malformed, everything of the
program is shown that is no finer than for debugging.
-/
def ofSetting (setting : Option String) : Filter :=
  (setting.bind parse?).getD [⟨some "worklog".toList, none, some .debug⟩]

def all : Filter := [⟨none, none, some .trace⟩]

/--
The directive that decides about a part of the program: of those about it the most specific one, and
of equal ones the last.
-/
def deciding? (filter : Filter) (target : String) : Option Directive :=
  (filter.filter (·.covers target)).foldl
    (fun best directive =>
      match best with
      | none => some directive
      | some other => if directive.isLessSpecific other then best else some directive)
    none

/--
Whether the log shows what a part of the program says at a level. Without a directive about that
part nothing is shown.
-/
def shows (filter : Filter) (target : String) (level : Level) : Bool :=
  match filter.deciding? target with
  | some ⟨_, _, some least⟩ => level.rank ≤ least.rank
  | _ => false

end Filter

end Workday.Log
