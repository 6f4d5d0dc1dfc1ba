import Workday.Text.Alphanumeric
import Workday.Text.Blank

/-!
This module contains which texts are patterns, as the value of a field may be given by one. A
pattern is a regular expression. Patterns are written between braces, so that none has a closing
brace, and everything that needs one, such as a counted repetition, is never complete.
-/

namespace Workday.Log

open Text

namespace Pattern

structure Mode where
  /-- Whether white space and comments are left out. -/
  verbose : Bool
  /-- Whether characters are matched, and not bytes. Bytes may only make up ASCII characters. -/
  unicode : Bool
  deriving Repr, BEq, DecidableEq, Inhabited

def Mode.initial : Mode := ⟨false, true⟩

/--
Leave out white space and comments, inside a comment or outside. A comment ends with its line.
-/
def leaveOut : Bool → List Char → List Char
  | _, [] => []
  | true, c :: cs => leaveOut (c ≠ '\n') cs
  | false, c :: cs =>
    if isBlank c then leaveOut false cs
    else if c = '#' then leaveOut true cs
    else c :: cs

def Mode.skip (mode : Mode) (cs : List Char) : List Char :=
  if mode.verbose then leaveOut false cs else cs

inductive Item where
  /-- A character, which is a byte outside ASCII if it cannot be in a pattern of bytes. -/
  | literal (c : Char) (byte : Bool)
  /-- Any character of some set. -/
  | set
  /-- A place between characters. -/
  | place
  deriving Repr, BEq, DecidableEq, Inhabited

def Item.fits (mode : Mode) : Item → Bool
  | literal c byte => mode.unicode || !byte || c.toNat < 0x80
  | _ => true

def hexDigit? (c : Char) : Option Nat :=
  if c.isDigit then some (c.toNat - '0'.toNat)
  else if 'a' ≤ c ∧ c ≤ 'f' then some (c.toNat - 'a'.toNat + 10)
  else if 'A' ≤ c ∧ c ≤ 'F' then some (c.toNat - 'A'.toNat + 10)
  else none

def hexadecimal? (mode : Mode) : Nat → Nat → List Char → Option (Char × List Char)
  | 0, value, cs => if value.isValidChar then some (Char.ofNat value, cs) else none
  | count + 1, value, cs =>
    match mode.skip cs with
    | c :: cs => do hexadecimal? mode count (value * 16 + (← hexDigit? c)) cs
    | [] => none

/--
Characters that mean something in patterns. All of them can be escaped.
-/
def isMeta (c : Char) : Bool :=
  "\\.+*?()|[]\x7b\x7d^$#&-~".toList.contains c

/--
Whether a character stands for itself after a backslash.
-/
def isEscapable (c : Char) : Bool :=
  isMeta c || (c.toNat < 0x80 && !c.isAlphanum && c != '<' && c != '>')

def control? : Char → Option Char
  | 'a' => some '\x07'
  | 'f' => some '\x0c'
  | 't' => some '\t'
  | 'n' => some '\n'
  | 'r' => some '\r'
  | 'v' => some '\x0b'
  | _ => none

/--
What an escape stands for, from the character after its backslash on. Borders of words are known
for ASCII only.
-/
def escape? (mode : Mode) : List Char → Option (Item × List Char)
  | [] => none
  | c :: cs =>
    if c = 'x' then hex true 2 cs
    else if c = 'u' then hex false 4 cs
    else if c = 'U' then hex false 8 cs
    else if c = 'p' ∨ c = 'P' then
      match mode.skip cs with
      | c :: cs => if mode.unicode && isCategory c then some (.set, cs) else none
      | [] => none
    else if c = 'd' ∨ c = 's' ∨ c = 'w' then some (.set, cs)
    else if c = 'D' ∨ c = 'S' ∨ c = 'W' then if mode.unicode then some (.set, cs) else none
    else if isEscapable c then some (.literal c false, cs)
    else if c = 'A' ∨ c = 'z' then some (.place, cs)
    else if c = 'b' ∨ c = 'B' ∨ c = '<' ∨ c = '>' then
      if mode.unicode then none else some (.place, cs)
    else (control? c).map fun c => (.literal c false, cs)
where
  hex (byte : Bool) (count : Nat) (cs : List Char) : Option (Item × List Char) :=
    (hexadecimal? mode count 0 cs).map fun (c, cs) => (.literal c byte, cs)
  isCategory (c : Char) : Bool :=
    "CLMNPSZ".toList.contains c.toUpper

def namedSets : List String :=
  ["alnum", "alpha", "ascii", "blank", "cntrl", "digit", "graph", "lower", "print", "punct",
   "space", "upper", "word", "xdigit"]

/--
What follows a set that is given by its name, and whether all but its characters are meant. The
set is read from behind its bracket on.
-/
def namedSet? : List Char → Option (Bool × List Char)
  | ':' :: '^' :: cs => (named? cs).map fun rest => (true, rest)
  | ':' :: cs => (named? cs).map fun rest => (false, rest)
  | _ => none
where
  named? (cs : List Char) : Option (List Char) :=
    match cs.dropWhile (· ≠ ':') with
    | ':' :: ']' :: rest =>
      if namedSets.contains (String.ofList (cs.takeWhile (· ≠ ':'))) then some rest else none
    | _ => none

def setItem? (mode : Mode) : List Char → Option (Item × List Char)
  | [] => none
  | '\\' :: cs => escape? mode cs
  | c :: cs => some (.literal c false, cs)

def Item.fitsSet (mode : Mode) (inRange : Bool) : Item → Bool
  | literal c _ => mode.unicode || c.toNat < 0x80
  | set => !inRange
  | place => false

def setRange? (mode : Mode) (cs : List Char) : Option (List Char) := do
  let (first, cs) ← setItem? mode cs
  match mode.skip cs with
  | [] => none
  | '-' :: after =>
    let next := (mode.skip after).head?
    if next = some ']' ∨ next = some '-' then
      if first.fitsSet mode false then some ('-' :: after) else none
    else do
      let (last, cs) ← setItem? mode (mode.skip after)
      if first.fitsSet mode true && last.fitsSet mode true && ascending first last then some cs
      else none
  | cs => if first.fitsSet mode false then some cs else none
where
  ascending : Item → Item → Bool
    | .literal first _, .literal last _ => first ≤ last
    | _, _ => false

def leaveOutHyphens (mode : Mode) : Nat → List Char → List Char
  | 0, cs => cs
  | count + 1, cs =>
    match mode.skip cs with
    | '-' :: cs => leaveOutHyphens mode count cs
    | cs => cs

/--
What follows the start of a set: the sign that all but its characters are meant, and hyphens, or a
bracket that stands for itself because no other character comes before it.
-/
def openSet? (mode : Mode) (cs : List Char) : Option (List Char) :=
  match mode.skip cs with
  | '^' :: cs => if mode.unicode then some (literals (mode.skip cs)) else none
  | cs => some (literals cs)
where
  literals : List Char → List Char
    | '-' :: cs => leaveOutHyphens mode cs.length cs
    | ']' :: cs => cs
    | cs => cs

/--
What follows a set, whose brackets that are still open are counted.
-/
def set? (mode : Mode) : Nat → Nat → List Char → Option (List Char)
  | 0, _, _ => none
  | fuel + 1, depth, cs =>
    match mode.skip cs with
    | [] => none
    | '[' :: cs =>
      match namedSet? cs with
      | some (negated, rest) => if negated && !mode.unicode then none else set? mode fuel depth rest
      | none => do set? mode fuel (depth + 1) (← openSet? mode cs)
    | ']' :: cs =>
      match depth with
      | 0 => some cs
      | depth + 1 => set? mode fuel depth cs
    | '&' :: '&' :: cs => set? mode fuel depth cs
    | '-' :: '-' :: cs => set? mode fuel depth cs
    | '~' :: '~' :: cs => set? mode fuel depth cs
    | cs => do set? mode fuel depth (← setRange? mode cs)

def isNameChar (first : Bool) (c : Char) : Bool :=
  if first then c = '_' || isAlphabetic c
  else c = '_' || c = '.' || c = '[' || c = ']' || isAlphanumeric c

def groupName? (cs : List Char) : Option (List Char × List Char) :=
  match cs.takeWhile (· ≠ '>'), cs.dropWhile (· ≠ '>') with
  | c :: name, '>' :: rest =>
    if isNameChar true c && name.all (isNameChar false) then some (c :: name, rest) else none
  | _, _ => none

/--
The modes that letters turn on, or off after a hyphen, whether they are for a group, and what
follows them. No letter and no hyphen may be given twice, and a hyphen may not be the last.
-/
def modes? (mode : Mode) (seen : List Char) : List Char → Option (Mode × Bool × List Char)
  | [] => none
  | c :: cs =>
    if c = ':' ∨ c = ')' then
      if seen.head? = some '-' ∨ (c = ')' ∧ seen.isEmpty) then none
      else some (mode, c = ':', cs)
    else if seen.contains c || !"-imsUuRx".toList.contains c then none
    else
      let on := !seen.contains '-'
      let mode :=
        if c = 'x' then { mode with verbose := on }
        else if c = 'u' then { mode with unicode := on }
        else mode
      modes? mode (c :: seen) cs

/--
How far a pattern has been read: the modes to go back to at the end of each open group, the names of
groups, and whether a repetition may follow.
-/
structure Progress where
  mode : Mode
  groups : List Mode
  names : List (List Char)
  repeatable : Bool
  deriving Repr, BEq, DecidableEq, Inhabited

namespace Progress

def initial : Progress := ⟨.initial, [], [], false⟩

/--
Go on behind something that can be repeated.
-/
def behind (progress : Progress) : Progress := { progress with repeatable := true }

/--
Go on where something is missing that can be repeated.
-/
def before (progress : Progress) : Progress := { progress with repeatable := false }

def enter (progress : Progress) (mode : Mode) : Progress :=
  ⟨mode, progress.mode :: progress.groups, progress.names, false⟩

def leave? (progress : Progress) : Option Progress :=
  match progress.groups with
  | [] => none
  | mode :: groups => some ⟨mode, groups, progress.names, true⟩

def open? (progress : Progress) (cs : List Char) : Option (Progress × List Char) :=
  match progress.mode.skip cs with
  | '?' :: 'P' :: '<' :: cs => named? cs
  | '?' :: '<' :: cs => named? cs
  | '?' :: cs =>
    (modes? progress.mode [] cs).map fun (mode, grouped, cs) =>
      (if grouped then progress.enter mode else { progress with mode, repeatable := false }, cs)
  | cs => some (progress.enter progress.mode, cs)
where
  named? (cs : List Char) : Option (Progress × List Char) := do
    let (name, cs) ← groupName? cs
    if progress.names.contains name then none
    else some ({ progress with names := name :: progress.names }.enter progress.mode, cs)

def read? (progress : Progress) (c : Char) (cs : List Char) : Option (Progress × List Char) :=
  if c = '(' then progress.open? cs
  else if c = ')' then progress.leave?.map fun progress => (progress, cs)
  else if c = '|' then some (progress.before, cs)
  else if c = '[' then do
    some (progress.behind, ← set? progress.mode (cs.length + 1) 0 (← openSet? progress.mode cs))
  else if c = '?' ∨ c = '*' ∨ c = '+' then
    if progress.repeatable then some (progress, if cs.head? = some '?' then cs.drop 1 else cs)
    else none
  else if c = '\x7b' then none
  else if c = '.' then if progress.mode.unicode then some (progress.behind, cs) else none
  else if c = '\\' then do
    let (item, cs) ← escape? progress.mode cs
    if item.fits progress.mode then some (progress.behind, cs) else none
  else some (progress.behind, cs)

/--
Whether the rest of a pattern is well-formed. Every part takes at least one character.
-/
def finishes : Nat → Progress → List Char → Bool
  | 0, _, _ => false
  | fuel + 1, progress, cs =>
    match progress.mode.skip cs with
    | [] => progress.groups.isEmpty
    | c :: cs =>
      match progress.read? c cs with
      | some (progress, cs) => finishes fuel progress cs
      | none => false

end Progress

def isWellFormed (cs : List Char) : Bool :=
  Progress.initial.finishes (cs.length + 1) cs

end Pattern

end Workday.Log
