import Workday.Log.Filter

/-!
This module contains how events appear to the user: plainly, errors apart from all else, or as lines
of a log for debugging.
-/

namespace Workday

structure Output where
  out : String
  err : String
  deriving Repr, BEq, DecidableEq, Inhabited

namespace Output

def empty : Output := ⟨"", ""⟩

def append (a b : Output) : Output := ⟨a.out ++ b.out, a.err ++ b.err⟩

instance : Append Output := ⟨append⟩

end Output

inductive Display where
  | plain
  | log (filter : Log.Filter)
  deriving Repr, BEq, DecidableEq, Inhabited

namespace Log

/--
How a character appears in the log. Those that could control a terminal are spelled out.
-/
def spellChar (c : Char) : List Char :=
  if c = '\x1b' then "\\x1b".toList
  else if c = '\x07' then "\\x07".toList
  else if c = '\x08' then "\\x08".toList
  else if c = '\x0c' then "\\x0c".toList
  else if c = '\x7f' then "\\x7f".toList
  else if 0x80 ≤ c.toNat ∧ c.toNat ≤ 0x9f then
    '\\' :: 'u' :: '{' :: (Nat.toDigits 16 c.toNat ++ ['}'])
  else [c]

def line (level : Level) (text : String) : String :=
  level.label ++ " " ++ String.ofList (text.toList.flatMap spellChar) ++ "\n"

end Log

namespace Display

def render : Display → Event → Output
  | plain, .notice notice =>
    match notice.kind with
    | .debug => .empty
    | .error => ⟨"", notice.body ++ "\n"⟩
    | _ => ⟨notice.body ++ "\n", ""⟩
  | log filter, .notice notice =>
    if filter.shows notice.origin.target notice.kind.level then
      ⟨Log.line notice.kind.level notice.body, ""⟩
    else
      .empty
  | _, .table text => ⟨text, ""⟩
  | plain, .failure text _ => ⟨"", text ++ "\n"⟩
  | log filter, .failure text causes =>
    if filter.shows Origin.program.target .error then
      ⟨Log.line .error (": ".intercalate (text :: causes)), ""⟩
    else
      .empty

def renderAll (display : Display) (events : List Event) : Output :=
  (events.map display.render).foldr Output.append Output.empty

end Display

end Workday
