/-!
This module contains what is left of a text without the sequences of characters that control a
terminal, and without control characters other than white space. White space inside a sequence is
left too, and then all that follows it, up to a control character, with which the sequence goes on.
-/

namespace Workday.Text

namespace ControlSequence

inductive State where
  | outside
  /-- After the escape character. -/
  | escape
  /-- In an escape sequence of more than one character. -/
  | intermediate
  /-- In a sequence that sets something, such as a colour, and ends with a letter. -/
  | setting
  /-- At the start of a sequence for the device. -/
  | device
  /-- In the parameters of a sequence for the device. -/
  | deviceParameters
  /-- After the parameters of a sequence for the device. -/
  | deviceIntermediate
  /-- In a text for the device, which the character with a certain byte ends. -/
  | string
  /-- In a command for the terminal's window, which the bell ends. -/
  | command
  deriving Repr, BEq, DecidableEq, Inhabited

def isSpacing (c : Char) : Bool :=
  c == '\t' || c == '\n' || c == '\x0c' || c == '\r'

def isPlain (c : Char) : Bool :=
  ' ' ≤ c && c != '\x7f' || isSpacing c

/--
Whether the byte that ends a text for the device is part of a character's UTF-8 form.
-/
def hasTerminator (c : Char) : Bool :=
  (String.singleton c).toUTF8.toList.contains 0x9c

namespace State

/--
Whether a control character that is white space is left of the sequence.
-/
def leavesSpacing : State → Bool
  | outside => true
  | escape => true
  | intermediate => true
  | setting => true
  | _ => false

def wide (state : State) (c : Char) : State :=
  if state == string && hasTerminator c then outside else state

def take (state : State) (c : Char) : State :=
  match state with
  | outside => outside
  | escape =>
    if c < '0' then intermediate
    else if c == '[' then setting
    else if c == ']' then command
    else if c == 'P' then device
    else if c == 'X' || c == '^' || c == '_' then string
    else outside
  | intermediate => if c < '0' then intermediate else outside
  | setting => if c < '@' then setting else outside
  | device =>
    if c < '0' then deviceIntermediate
    else if c < '@' then deviceParameters
    else string
  | deviceParameters =>
    if c < '0' then deviceIntermediate
    else if c < '<' then deviceParameters
    else string
  | deviceIntermediate => if c < '0' then deviceIntermediate else string
  | string => string
  | command => command

/--
The state after a control character. The escape character starts a sequence in every state.
-/
def control (state : State) (c : Char) : State :=
  if c == '\x1b' then escape
  else if c == '\x18' || c == '\x1a' then outside
  else if c == '\x07' && state == command then outside
  else state

end State

/--
What is left of a text, if a sequence has been read so far and white space may have put it off.
-/
def strip (state : State) (putOff : Bool) : List Char → List Char
  | [] => []
  | c :: cs =>
    if '\x80' ≤ c then
      if putOff || state == .outside then c :: strip .outside false cs
      else strip (state.wide c) false cs
    else if putOff && isPlain c then c :: strip state true cs
    else if isSpacing c then
      if state.leavesSpacing then c :: strip state true cs else strip state false cs
    else if c < ' ' || c == '\x7f' then strip (state.control c) false cs
    else if state == .outside then c :: strip .outside false cs
    else strip (state.take c) false cs

end ControlSequence

def withoutControls (text : String) : String :=
  String.ofList (ControlSequence.strip .outside false text.toList)

end Workday.Text
