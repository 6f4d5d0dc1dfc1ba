import Workday.Calendar.Date
import Workday.Text.ControlSequence

/-!
This module contains what the program tells about its own command line: the help texts, the version,
and what is wrong with a command line that cannot be understood.
-/

namespace Workday

inductive Topic where
  | program
  | setUp
  | help
  deriving Repr, BEq, DecidableEq, Inhabited

namespace Topic

def text : Topic → String
  | program =>
    "Log time in Jira, paste stuff to Google Sheets, get on with your day.

Usage: worklog [OPTIONS] [TASK]...
       worklog <COMMAND>

Commands:
  init  Configuration initialization
  help  Print this message or the help of the given subcommand(s)

Arguments:
  [TASK]...  Task entries: task ids (622, LP-622) each optionally followed by a duration (3h30m, 3h, 30m)

Options:
  -w, --write        Write work logs to Jira
      --date <DATE>  Day to log, YYYY-MM-DD (default: today)
      --sloppy       Don't care if the sum is not equal to 8h
  -h, --help         Print help
  -V, --version      Print version

Examples:
  worklog 622 3h30m 623 4h30m      two tasks, explicit time
  worklog 622 3h30m 623            LP-623 gets the rest of the day
  worklog 622                      the whole day on LP-622
  worklog 622 623                  split the day evenly
  worklog 622 8h --date 2025-05-05 any other day
  worklog 622 623 --write          log the time to Jira
"
  | setUp =>
    "Configuration initialization

Usage: worklog init [OPTIONS]

Options:
  -d, --delete  Remove existing configuration instead of creating new one
  -h, --help    Print help
"
  | help =>
    "Print this message or the help of the given subcommand(s)

Usage: worklog help [COMMAND]...

Arguments:
  [COMMAND]...  Print help for the subcommand(s)
"

end Topic

def versionText : String := "worklog 0.3.0\n"

inductive Switch where
  | write
  | sloppy
  | delete
  | help
  | version
  deriving Repr, BEq, DecidableEq, Inhabited

namespace Switch

def text : Switch → String
  | write => "--write"
  | sloppy => "--sloppy"
  | delete => "--delete"
  | help => "--help"
  | version => "--version"

end Switch

def dateOption : String := "--date <DATE>"

inductive UsageError where
  | empty
  | unexpectedArgument (argument : String)
  | repeated (option : String)
  | missingValue (option : String)
  | unexpectedValue (value option : String)
  | invalidDate (value : String) (reason : Date.Malformed)
  | unknownCommand (name : String)
  deriving Repr, BEq, DecidableEq, Inhabited

namespace UsageError

/--
An argument as it is shown. The user's terminal is not to be controlled by it.
-/
def shown (argument : String) : String :=
  "'" ++ Text.withoutControls argument ++ "'"

def text : UsageError → String
  | empty => Topic.program.text
  | unexpectedArgument argument => "error: unexpected argument " ++ shown argument ++ " found\n"
  | repeated option => "error: the argument '" ++ option ++ "' cannot be used multiple times\n"
  | missingValue option =>
    "error: a value is required for '" ++ option ++ "' but none was supplied\n"
  | unexpectedValue value option =>
    "error: unexpected value " ++ shown value ++ " for '" ++ option ++
      "' found; no more were expected\n"
  | invalidDate value reason =>
    "error: invalid value " ++ shown value ++ " for '" ++ dateOption ++ "': " ++
      reason.message ++ "\n"
  | unknownCommand name => "error: unrecognized subcommand " ++ shown name ++ "\n"

end UsageError

end Workday
