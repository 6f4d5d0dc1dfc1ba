import Workday.Setup.Key
import Workday.Text.Blank

/-!
This module contains the questions that are answered with the keys of a terminal: which of one
thing to choose, and a line of text with a default.
-/

namespace Workday

open Text

inductive Unanswered where
  | interrupted
  | ended
  deriving Repr, BEq, DecidableEq, Inhabited

namespace Choice

/--
Whether the only thing on offer is chosen when the keys accept the choice. Each time that one of two
keys is pressed it becomes chosen or is no longer so.
-/
def answer (chosen : Bool) : List Key → Except Unanswered (Bool × List Key)
  | [] => .error .ended
  | .enter :: keys => .ok (chosen, keys)
  | .interrupt :: _ => .error .interrupted
  | .char c :: keys => answer (if c = ' ' ∨ c = 'a' then !chosen else chosen) keys
  | _ :: keys => answer chosen keys

end Choice

/--
A line of text that is being edited. The characters before the cursor are in reverse order.
-/
structure EditedLine where
  before : List Char
  after : List Char
  deriving Repr, BEq, DecidableEq, Inhabited

namespace EditedLine

def empty : EditedLine := ⟨[], []⟩

def text (line : EditedLine) : List Char :=
  line.before.reverse ++ line.after

def back (line : EditedLine) (count : Nat) : EditedLine :=
  ⟨line.before.drop count, (line.before.take count).reverse ++ line.after⟩

def forward (line : EditedLine) (count : Nat) : EditedLine :=
  ⟨(line.after.take count).reverse ++ line.before, line.after.drop count⟩

def toWordLeft (line : EditedLine) : Nat :=
  let blanks := line.before.takeWhile isBlank
  blanks.length + ((line.before.drop blanks.length).takeWhile fun c => !isBlank c).length

/--
How far it is to the start of the next word, or to the end of the line if there is none.
-/
def toWordRight (line : EditedLine) : Nat :=
  let word := line.after.takeWhile fun c => !isBlank c
  word.length + ((line.after.drop word.length).takeWhile isBlank).length

/--
Press a key. ASCII control characters are not taken into the line.
-/
def press (line : EditedLine) : Key → EditedLine
  | .backspace => { line with before := line.before.drop 1 }
  | .left => line.back 1
  | .right => line.forward 1
  | .wordLeft => line.back line.toWordLeft
  | .wordRight => line.forward line.toWordRight
  | .char c => if c < ' ' then line else { line with before := c :: line.before }
  | _ => line

/--
The text of the line when the keys accept it. An empty line stands for the default.
-/
def answer (default : String) (line : EditedLine) : List Key → Except Unanswered (String × List Key)
  | [] => .error .ended
  | .enter :: keys =>
    .ok (if line.text.isEmpty then default else String.ofList line.text, keys)
  | .interrupt :: _ => .error .interrupted
  | key :: keys => answer default (line.press key) keys

end EditedLine

end Workday
