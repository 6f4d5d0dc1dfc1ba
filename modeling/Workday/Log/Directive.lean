import Workday.Log.Pattern
import Workday.Notice
import Workday.Text.Decimal

/-!
This module contains the directives of which the filter of the log consists, and how they are
written. A directive gives the least important level that is shown. It can be limited to the parts
of the program whose name starts as it says, to notices with a field, and to spans of time or to
values of fields, of which this program has none.
-/

namespace Workday.Log

open Text

/--
A directive about notices. A level of `none` shows nothing. A directive without a target is about
every part of the program, one without a field about every notice.
-/
structure Directive where
  target : Option (List Char)
  field : Option (List Char)
  level : Option Level
  deriving Repr, BEq, DecidableEq, Inhabited

/--
The level that a word or a number up to five names, zero being no level at all.
-/
def level? (cs : List Char) : Option (Option Level) :=
  let number := match cs with
    | '+' :: rest => rest
    | cs => cs
  if isNumber number then
    match numberValue number with
    | 0 => some none
    | 1 => some (some .error)
    | 2 => some (some .warn)
    | 3 => some (some .info)
    | 4 => some (some .debug)
    | 5 => some (some .trace)
    | _ => none
  else
    match String.ofList (cs.map Char.toLower) with
    | "off" => some none
    | "error" => some (some .error)
    | "warn" => some (some .warn)
    | "info" => some (some .info)
    | "debug" => some (some .debug)
    | "trace" => some (some .trace)
    | _ => none

def isSignedNumber (cs : List Char) : Bool :=
  let number := unsigned cs
  let whole := number.takeWhile Char.isDigit
  match number.drop whole.length with
  | '.' :: rest =>
    let fraction := rest.takeWhile Char.isDigit
    !(whole.isEmpty && fraction.isEmpty) && isExponent (rest.drop fraction.length)
  | rest =>
    if whole.isEmpty then
      ["inf", "infinity", "nan"].contains (String.ofList (rest.map Char.toLower))
    else
      isExponent rest
where
  unsigned : List Char → List Char
    | '+' :: cs => cs
    | '-' :: cs => cs
    | cs => cs
  isExponent : List Char → Bool
    | [] => true
    | c :: cs => (c = 'e' || c = 'E') && isNumber (unsigned cs)

/--
Whether a text can be the value of a field: a number or a pattern.
-/
def isFieldValue (cs : List Char) : Bool :=
  isSignedNumber cs || Pattern.isWellFormed cs

namespace Directive

def size (cs : List Char) : Nat :=
  cs.foldr (fun c bytes => c.utf8Size + bytes) 0

/--
A text from a number of bytes on. There is none if that is inside a character.
-/
def dropBytes? : Nat → List Char → Option (List Char)
  | 0, cs => some cs
  | _ + 1, [] => none
  | count, c :: cs => if c.utf8Size ≤ count then dropBytes? (count - c.utf8Size) cs else none

/--
A number of bytes of a text. There are none if they end inside a character.
-/
def takeBytes? : Nat → List Char → Option (List Char)
  | 0, _ => some []
  | _ + 1, [] => none
  | count, c :: cs =>
    if c.utf8Size ≤ count then (takeBytes? (count - c.utf8Size) cs).map (c :: ·) else none

/--
The level that is written from a number of bytes on. Nothing written is every level.
-/
def levelAt? (text : List Char) (start : Nat) : Option (Option Level) := do
  match ← dropBytes? start text with
  | [] => some (some .trace)
  | cs => level? cs

/--
The level at the end of a directive, if there is one, from the equals sign before it on. Without a
level everything is meant.
-/
def ending? (text : List Char) (start : Nat) : List Char → Option (Option Level)
  | [] => some (some .trace)
  | '=' :: _ => levelAt? text (start + 1)
  | _ => none

/--
The name of a field, or nothing if the field must have a value too.
-/
def field? (cs : List Char) : Option (Option (List Char)) :=
  match cs.dropWhile (· ≠ '=') with
  | [] => some (some cs)
  | _ :: rest => if isFieldValue (rest.takeWhile (· ≠ '=')) then some none else none

/--
What is said about a span, from behind its opening bracket on: nothing about notices, unless there
is nothing but the name of a field in braces.
-/
def span? (text : List Char) (target : Option (List Char)) (start : Nat) (cs : List Char) :
    Option (Option Directive) :=
  let label := cs.takeWhile fun c => c ≠ ']' && c ≠ '\x7b'
  let start := start + size label
  match cs.drop label.length with
  | ']' :: rest => do
    let _ ← ending? text (start + 1) rest
    some none
  | _ :: rest => do
    let written := rest.takeWhile (· ≠ '\x7d')
    match rest.drop written.length with
    | _ :: ']' :: after =>
      if written.isEmpty then none
      else
        let field ← field? (← takeBytes? (size written) (← dropBytes? (start + 1) text))
        let level ← ending? text (start + size written + 3) after
        if label.isEmpty then some (field.map fun name => ⟨target, some name, level⟩)
        else some none
    | _ => none
  | [] => none

/--
What a directive says about notices, if anything. White space around it is left out when its parts
are looked for, but their places are counted from the start of the text with it, so that hardly
anything of use can be said after white space. `none` is a text that is no directive.
-/
def read? (text : List Char) : Option (Option Directive) :=
  let start := trim text
  let name := start.takeWhile fun c => c ≠ '=' && c ≠ '['
  match start.drop name.length with
  | [] =>
    if begins start then
      match level? text with
      | some level => some (some ⟨none, none, level⟩)
      | none => some (some ⟨some text, none, some .trace⟩)
    else none
  | '[' :: rest =>
    if name.isEmpty then span? text none 1 rest
    else if begins start then do
      span? text (some (← takeBytes? (size name) text)) (size name + 1) rest
    else none
  | rest =>
    if begins start then do
      let target ← takeBytes? (size name) text
      let level ← ending? text (size name) rest
      some (some ⟨some target, none, level⟩)
    else none
where
  begins : List Char → Bool
    | [] => false
    | c :: _ => c = '-' || c = ':' || c = '_' || isAlphanumeric c

/--
Whether a directive is about the notices of a part of the program. A notice has no field but its
message.
-/
def covers (directive : Directive) (target : String) : Bool :=
  (directive.target.all fun start => start.isPrefixOf target.toList) &&
    directive.field.all fun name => name = "message".toList

/--
Whether a directive is less specific than another: it fixes less of the name of a part, or as much
of it and no field while the other does.
-/
def isLessSpecific (directive other : Directive) : Bool :=
  let fixed (directive : Directive) := (directive.target.map fun start => size start + 1).getD 0
  fixed directive < fixed other ||
    (fixed directive = fixed other && directive.field.isNone && other.field.isSome)

end Directive

end Workday.Log
