import Workday.CommandLine.Usage

/-!
This module contains the command line of the program. Its arguments ask to log a day, to set up the
program, or to tell something about it. The first thing that is wrong ends the reading, and so does
a question about the program, whichever comes first.
-/

namespace Workday

structure LogRequest where
  tokens : List String
  write : Bool
  sloppy : Bool
  /-- The day, or `none` for today. -/
  date : Option Date
  deriving DecidableEq

inductive Request where
  | log (request : LogRequest)
  /-- To set up the program, or to forget its settings. -/
  | setUp (delete : Bool)
  | help (topic : Topic)
  | version
  deriving DecidableEq

structure Grammar where
  topic : Topic
  switches : List Switch
  takesDate : Bool
  takesTokens : Bool

namespace Grammar

def log : Grammar := ⟨.program, [.write, .sloppy, .help, .version], true, true⟩

def setUp : Grammar := ⟨.setUp, [.delete, .help], false, false⟩

def letter? (grammar : Grammar) (c : Char) : Option Switch :=
  let found : Option Switch :=
    match c with
    | 'w' => some .write
    | 'd' => some .delete
    | 'h' => some .help
    | 'V' => some .version
    | _ => none
  found.filter fun switch => grammar.switches.contains switch

def named? (grammar : Grammar) (name : String) : Option Switch :=
  grammar.switches.find? fun switch => switch.text == "--" ++ name

end Grammar

/--
The arguments that have been read so far. The latest tokens and switches come first.
-/
structure Arguments where
  tokens : List String
  switches : List Switch
  date : Option Date
  /-- An option for the day whose value, if it has come, has not been looked at. -/
  waiting : Option (Option String)

namespace Arguments

def empty : Arguments := ⟨[], [], none, none⟩

inductive Stop where
  | wrong (error : UsageError)
  | help
  | version
  deriving Repr, BEq, DecidableEq, Inhabited

/--
Take the day to be logged. There may be only one.
-/
def takeDate (arguments : Arguments) (value : String) : Except Stop Arguments :=
  if arguments.date.isSome then
    .error (.wrong (.repeated dateOption))
  else
    match Date.parse value with
    | .ok date => .ok { arguments with date := some date }
    | .error reason => .error (.wrong (.invalidDate value reason))

def settle (arguments : Arguments) : Except Stop Arguments :=
  match arguments.waiting with
  | none => .ok arguments
  | some none => .error (.wrong (.missingValue dateOption))
  | some (some value) => { arguments with waiting := none }.takeDate value

def turnOn (arguments : Arguments) (switch : Switch) : Except Stop Arguments := do
  let arguments ← arguments.settle
  match switch with
  | .help => .error .help
  | .version => .error .version
  | switch =>
    if arguments.switches.contains switch then
      .error (.wrong (.repeated switch.text))
    else
      .ok { arguments with switches := switch :: arguments.switches }

def takeToken (grammar : Grammar) (arguments : Arguments) (argument : String) :
    Except Stop Arguments :=
  if grammar.takesTokens then do
    let arguments ← arguments.settle
    .ok { arguments with tokens := argument :: arguments.tokens }
  else
    .error (.wrong (.unexpectedArgument argument))

def takeLetter (grammar : Grammar) (arguments : Arguments) (c : Char) : Except Stop Arguments :=
  match grammar.letter? c with
  | some switch => arguments.turnOn switch
  | none => .error (.wrong (.unexpectedArgument (String.ofList ['-', c])))

def takeOption (grammar : Grammar) (arguments : Arguments) (name : String) (value : Option String) :
    Except Stop Arguments :=
  if grammar.takesDate ∧ name = "date" then do
    let arguments ← arguments.settle
    match value with
    | some value => arguments.takeDate value
    | none => .ok { arguments with waiting := some none }
  else
    match grammar.named? name, value with
    | none, _ => .error (.wrong (.unexpectedArgument ("--" ++ name)))
    | some switch, some value => .error (.wrong (.unexpectedValue value switch.text))
    | some switch, none => arguments.turnOn switch

/--
Take one argument. What does not look like an option is a token, or the value that an option is
waiting for.
-/
def take (grammar : Grammar) (arguments : Arguments) (argument : String) : Except Stop Arguments :=
  match argument.toList with
  | '-' :: '-' :: cs =>
    let value :=
      match cs.dropWhile (· ≠ '=') with
      | [] => none
      | _ :: value => some (String.ofList value)
    arguments.takeOption grammar (String.ofList (cs.takeWhile (· ≠ '='))) value
  | '-' :: c :: cs => (c :: cs).foldlM (takeLetter grammar) arguments
  | _ =>
    if arguments.waiting = some none then
      .ok { arguments with waiting := some (some argument) }
    else
      arguments.takeToken grammar argument

/--
Take all arguments. After two dashes all of them are tokens.
-/
def takeAll (grammar : Grammar) (arguments : Arguments) : List String → Except Stop Arguments
  | [] => arguments.settle
  | argument :: others =>
    if argument = "--" then do
      (← others.foldlM (takeToken grammar) arguments).settle
    else do
      (← arguments.take grammar argument).takeAll grammar others

def isEmpty (arguments : Arguments) : Bool :=
  arguments.tokens.isEmpty && arguments.switches.isEmpty && arguments.date.isNone

def logRequest (arguments : Arguments) : LogRequest where
  tokens := arguments.tokens.reverse
  write := arguments.switches.contains .write
  sloppy := arguments.switches.contains .sloppy
  date := arguments.date

end Arguments

namespace Request

def ofArguments (grammar : Grammar) (arguments : List String)
    (found : Arguments → Except UsageError Request) : Except UsageError Request :=
  match Arguments.empty.takeAll grammar arguments with
  | .ok arguments => found arguments
  | .error (.wrong error) => .error error
  | .error .help => .ok (.help grammar.topic)
  | .error .version => .ok .version

def helpAbout : List String → Except UsageError Request
  | [] => .ok (.help .program)
  | ["init"] => .ok (.help .setUp)
  | ["help"] => .ok (.help .help)
  | name :: others =>
    if name = "init" ∨ name = "help" then
      .error (.unknownCommand (others.headD name))
    else
      .error (.unknownCommand name)

/--
Read a command line. Only its first argument can name a command.
-/
def parse : List String → Except UsageError Request
  | "help" :: arguments => helpAbout arguments
  | "init" :: arguments =>
    ofArguments .setUp arguments fun arguments =>
      .ok (.setUp (arguments.switches.contains .delete))
  | arguments =>
    ofArguments .log arguments fun arguments =>
      if arguments.isEmpty then .error .empty else .ok (.log arguments.logRequest)

end Request

end Workday
