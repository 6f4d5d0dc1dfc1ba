/-!
This module contains the reasons why a text is not the JSON that was expected, and the place in the
text that each of them is reported for. Places are counted in bytes, so that a reason may point into
the middle of a character.
-/

namespace Workday.Json

inductive Cause where
  | endOfValue
  | endOfObject
  | endOfList
  | endOfText
  | expectedValue
  | expectedColon
  | expectedCommaOrBrace
  | expectedCommaOrBracket
  | expectedLiteral
  | trailingComma
  | trailingCharacters
  | keyNotText
  | invalidNumber
  | numberOutOfRange
  | invalidEscape
  | cutEscape
  | loneSurrogate
  | controlCharacter
  | invalidType (found expected : String)
  /-- A list that ends before the element `found`. -/
  | invalidLength (found : Nat) (expected : String)
  | duplicateField (name : String)
  deriving Repr, BEq, DecidableEq, Inhabited

namespace Cause

def message : Cause → String
  | endOfValue => "EOF while parsing a value"
  | endOfObject => "EOF while parsing an object"
  | endOfList => "EOF while parsing a list"
  | endOfText => "EOF while parsing a string"
  | expectedValue => "expected value"
  | expectedColon => "expected `:`"
  | expectedCommaOrBrace => "expected `,` or `\x7d`"
  | expectedCommaOrBracket => "expected `,` or `]`"
  | expectedLiteral => "expected ident"
  | trailingComma => "trailing comma"
  | trailingCharacters => "trailing characters"
  | keyNotText => "key must be a string"
  | invalidNumber => "invalid number"
  | numberOutOfRange => "number out of range"
  | invalidEscape => "invalid escape"
  | cutEscape => "unexpected end of hex escape"
  | loneSurrogate => "lone leading surrogate in hex escape"
  | controlCharacter => "control character (\\u0000-\\u001F) found while parsing a string"
  | invalidType found expected => "invalid type: " ++ found ++ ", expected " ++ expected
  | invalidLength found expected =>
    "invalid length " ++ toString found ++ ", expected " ++ expected
  | duplicateField name => "duplicate field `" ++ name ++ "`"

end Cause

/--
A cause together with the characters that were still to be read, and the number of bytes of these
that the reported place lies behind them.
-/
structure Fault where
  cause : Cause
  rest : List Char
  past : Nat
  deriving Repr, BEq, DecidableEq, Inhabited

/--
A line of a text, counted from one, and the bytes of this line before a place.
-/
structure Position where
  line : Nat
  column : Nat
  deriving Repr, BEq, DecidableEq, Inhabited

namespace Position

def advance (position : Position) (byte : UInt8) : Position :=
  if byte = 10 then ⟨position.line + 1, 0⟩ else { position with column := position.column + 1 }

def after (text : String) (offset : Nat) : Position :=
  (text.toUTF8.toList.take offset).foldl advance ⟨1, 0⟩

end Position

def byteLength (cs : List Char) : Nat :=
  cs.foldr (fun c bytes => c.utf8Size + bytes) 0

namespace Fault

def here (cause : Cause) (rest : List Char) : Fault := ⟨cause, rest, 0⟩

def next (cause : Cause) (rest : List Char) : Fault := ⟨cause, rest, 1⟩

/--
The place that a fault is reported for. It is never behind the end of the text.
-/
def position (text : String) (fault : Fault) : Position :=
  Position.after text (text.utf8ByteSize - byteLength fault.rest + fault.past)

def message (text : String) (fault : Fault) : String :=
  let position := fault.position text
  fault.cause.message ++ " at line " ++ toString position.line ++ " column " ++
    toString position.column

end Fault

abbrev Reader (α : Type) := List Char → Except Fault (α × List Char)

theorem map_eq_ok_iff {ε α β : Type} {outcome : Except ε α} {f : α → β} {b : β} :
    outcome.map f = .ok b ↔ ∃ a, outcome = .ok a ∧ f a = b := by
  cases outcome <;> simp [Except.map]

theorem bind_eq_ok_iff {ε α β : Type} {outcome : Except ε α} {f : α → Except ε β} {b : β} :
    (outcome >>= f) = .ok b ↔ ∃ a, outcome = .ok a ∧ f a = .ok b := by
  cases outcome <;> simp [bind, Except.bind]

def isSpace (c : Char) : Bool :=
  c == ' ' || c == '\n' || c == '\t' || c == '\r'

def skipSpace (cs : List Char) : List Char :=
  cs.dropWhile isSpace

theorem length_skipSpace_le (cs : List Char) : (skipSpace cs).length ≤ cs.length :=
  (List.dropWhile_sublist isSpace).length_le

end Workday.Json
