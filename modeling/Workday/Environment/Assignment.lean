import Workday.Text.Alphanumeric
import Workday.Text.Blank

/-!
This module contains the lines of a file that assigns environment variables: `name=value`, possibly
after the word `export`. A value may be quoted, have characters behind a backslash, name other
variables behind a dollar sign, and be followed by a comment.
-/

namespace Workday

/--
Variables with their values. The first entry of a name counts.
-/
abbrev Environment := List (String × String)

namespace Environment.Assignment

open Text

inductive Mode where
  /-- As it is, or as the start of something else. -/
  | plain
  /-- Behind a backslash. -/
  | escaped
  /-- Between single quotes, where nothing but the closing quote is special. -/
  | verbatim
  /-- In the name of a variable, of which the latest character comes first. -/
  | name (braced : Bool) (name : List Char)
  /-- Behind the value, where only a comment may follow. -/
  | ended
  | comment
  deriving Repr, BEq, DecidableEq, Inhabited

/--
A value that has been read so far, the latest character first.
-/
structure Value where
  mode : Mode
  /-- Whether double quotes are open. -/
  quoted : Bool
  text : List Char
  deriving Repr, BEq, DecidableEq, Inhabited

/--
The value of a variable, which is empty if there is none. A variable of the environment counts more
than one that earlier lines have assigned.
-/
def valueOf (environment earlier : Environment) (name : String) : String :=
  ((environment.lookup name).orElse fun () => earlier.lookup name).getD ""

namespace Value

def substitute (environment earlier : Environment) (name : List Char) (value : Value) : Value :=
  let found := valueOf environment earlier (String.ofList name.reverse)
  { value with mode := .plain, text := found.toList.reverse ++ value.text }

def push (c : Char) (value : Value) : Value :=
  { value with mode := .plain, text := c :: value.text }

def readPlain (value : Value) (c : Char) : Value :=
  if c = '$' then { value with mode := .name false [] }
  else if c = '\\' then { value with mode := .escaped }
  else if c = '"' then { value with quoted := !value.quoted }
  else if value.quoted then value.push c
  else if c = '\'' then { value with mode := .verbatim }
  else if c = ' ' ∨ c = '\t' then { value with mode := .ended }
  else value.push c

def read (environment earlier : Environment) (value : Value) (c : Char) : Option Value :=
  match value.mode with
  | .plain => some (value.readPlain c)
  | .escaped =>
    if c = '\\' ∨ c = '\'' ∨ c = '"' ∨ c = '$' ∨ c = ' ' then some (value.push c)
    else if c = 'n' then some (value.push '\n')
    else none
  | .verbatim =>
    if c = '\'' then some { value with mode := .plain }
    else some { value with text := c :: value.text }
  | .name true name =>
    if c = '}' then some (value.substitute environment earlier name)
    else some { value with mode := .name true (c :: name) }
  | .name false name =>
    if isAlphanumeric c then some { value with mode := .name false (c :: name) }
    else if c = '{' ∧ name.isEmpty then some { value with mode := .name true [] }
    else
      let value := value.substitute environment earlier name
      if c = '$' then some { value with mode := .name false [] } else some (value.push c)
  | .ended =>
    if c = ' ' ∨ c = '\t' then some value
    else if c = '#' then some { value with mode := .comment }
    else none
  | .comment => some value

/--
The text of a value that has been read to its end. Quotes and braces have to be closed by then.
-/
def finish (environment earlier : Environment) (value : Value) : Option String :=
  if value.quoted then none
  else
    match value.mode with
    | .verbatim | .name true _ => none
    | .name false name =>
      some (String.ofList (value.substitute environment earlier name).text.reverse)
    | _ => some (String.ofList value.text.reverse)

end Value

def value? (environment earlier : Environment) (cs : List Char) : Option String := do
  let value ← cs.foldlM (Value.read environment earlier) ⟨.plain, false, []⟩
  value.finish environment earlier

def startsName (c : Char) : Bool :=
  c.isAlpha || c == '_'

def continuesName (c : Char) : Bool :=
  c.isAlphanum || c == '_' || c == '.'

def name? (cs : List Char) : Option (List Char × List Char) :=
  match cs with
  | c :: _ =>
    if startsName c then
      some (cs.takeWhile continuesName, trimStart (cs.dropWhile continuesName))
    else
      none
  | [] => none

/--
Read a name and the sign after it. The word `export` may come before a name, and is one itself if
the sign follows it.
-/
def target? (cs : List Char) : Option (List Char × List Char) := do
  let (name, rest) ← name? cs
  match rest with
  | '=' :: rest => some (name, rest)
  | rest =>
    if name = "export".toList then
      match ← name? rest with
      | (name, '=' :: rest) => some (name, rest)
      | _ => none
    else
      none

/--
What a line assigns: `some none` is a line that is empty or a comment, `none` a malformed one.
-/
def ofLine? (environment earlier : Environment) (line : List Char) :
    Option (Option (String × String)) :=
  let line := trim line
  if line.isEmpty || line.head? == some '#' then
    some none
  else do
    let (name, rest) ← target? line
    let rest := trimStart rest
    if rest.isEmpty || rest.head? == some '#' then
      some (some (String.ofList name, ""))
    else
      let value ← value? environment earlier rest
      some (some (String.ofList name, value))

end Environment.Assignment

end Workday
