/-!
This module contains what a run tells its user: notices of several kinds and the drawn overview.
Where and in what form a notice appears is decided by the display, not here.
-/

namespace Workday

inductive Level where
  | error
  | warn
  | info
  | debug
  | trace
  deriving Repr, BEq, DecidableEq, Inhabited

namespace Level

def rank : Level → Nat
  | error => 1
  | warn => 2
  | info => 3
  | debug => 4
  | trace => 5

def label : Level → String
  | error => "ERROR"
  | warn => " WARN"
  | info => " INFO"
  | debug => "DEBUG"
  | trace => "TRACE"

end Level

inductive Kind where
  | plain
  | success
  | info
  | warning
  | error
  | debug
  deriving Repr, BEq, DecidableEq, Inhabited

namespace Kind

def mark : Kind → String
  | plain => ""
  | success => "✅ "
  | info => "ℹ️ "
  | warning => "⚠️ "
  | error => "❌ "
  | debug => "🔍 "

def level : Kind → Level
  | plain | success | info => .info
  | warning => .warn
  | error => .error
  | debug => .debug

end Kind

inductive Origin where
  | program
  | tokens
  | gaps
  | timesheet
  | settings
  | tracker
  | logging
  | setup
  deriving Repr, BEq, DecidableEq, Inhabited

namespace Origin

/--
The name by which a log filter selects a part of the program.
-/
def target : Origin → String
  | program => "worklog"
  | tokens => "worklog::libs::parser"
  | gaps => "worklog::libs::gaps"
  | timesheet => "worklog::libs::timesheet"
  | settings => "worklog::libs::config"
  | tracker => "worklog::api::jira"
  | logging => "worklog::commands::log"
  | setup => "worklog::commands::init"

end Origin

/--
Something told to the user. A framed notice has an empty line before and after it.
-/
structure Notice where
  origin : Origin
  kind : Kind
  framed : Bool
  text : String
  deriving Repr, BEq, DecidableEq, Inhabited

namespace Notice

def body (notice : Notice) : String :=
  let marked := notice.kind.mark ++ notice.text
  if notice.framed then "\n" ++ marked ++ "\n" else marked

end Notice

inductive Event where
  | notice (notice : Notice)
  /-- A drawn table, which looks the same however notices are displayed. -/
  | table (text : String)
  /-- The text that a failing run ends with. `causes` are the texts of what lies behind it. -/
  | failure (text : String) (causes : List String)
  deriving Repr, BEq, DecidableEq, Inhabited

end Workday
