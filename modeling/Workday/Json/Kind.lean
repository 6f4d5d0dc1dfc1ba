import Workday.Json.Value
import Workday.Text.Quoted

/-!
This module names the kind of a JSON value that stands where another kind was expected.
-/

namespace Workday.Json

/--
Name the value at the start of the given characters. A scalar is read to its end, a list or an
object is left where it begins.
-/
def nameKind : Reader String
  | [] => .error (.here .endOfValue [])
  | '[' :: rest => .ok ("sequence", '[' :: rest)
  | '{' :: rest => .ok ("map", '{' :: rest)
  | '"' :: rest => do
    let (text, rest) ← readText rest
    .ok ("string " ++ String.ofList (Text.quote text), rest)
  | '-' :: rest => do
    let (numeral, rest) ← readNumeral .endOfValue rest
    .ok (← describeNumber true numeral rest, rest)
  | 'n' :: rest => (skipLetters ['u', 'l', 'l'] rest).map ("null", ·)
  | 't' :: rest => (skipLetters ['r', 'u', 'e'] rest).map ("boolean `true`", ·)
  | 'f' :: rest => (skipLetters ['a', 'l', 's', 'e'] rest).map ("boolean `false`", ·)
  | c :: rest =>
    if c.isDigit then do
      let (numeral, rest) ← readNumeral .endOfValue (c :: rest)
      .ok (← describeNumber false numeral rest, rest)
    else
      .error (.next .expectedValue (c :: rest))

def wrongKind (expected : String) (cs : List Char) : Fault :=
  match nameKind cs with
  | .ok (found, rest) => .here (.invalidType found expected) rest
  | .error fault => fault

def readString (cs : List Char) : Except Fault (String × List Char) :=
  match skipSpace cs with
  | [] => .error (.here .endOfValue [])
  | c :: rest =>
    if c = '"' then
      match readText rest with
      | .error fault => .error fault
      | .ok (text, rest) => .ok (String.ofList text, rest)
    else
      .error (wrongKind "a string" (c :: rest))

theorem length_lt_of_readText {cs text rest : List Char} (h : readText cs = .ok (text, rest)) :
    rest.length < cs.length := by
  fun_induction readText cs generalizing text with
  | case1 cs fault hp => simp at h
  | case2 cs r hp =>
    simp only [Except.ok.injEq, Prod.mk.injEq] at h
    rw [← h.2]
    exact length_lt_of_readPiece hp
  | case3 cs c r hp _ fault hr ih => simp at h
  | case4 cs c r hp _ text r' hr ih =>
    simp only [Except.ok.injEq, Prod.mk.injEq] at h
    have := length_lt_of_readPiece hp
    have := ih (h.2 ▸ hr)
    omega

theorem length_lt_of_readString {cs rest : List Char} {text : String}
    (h : readString cs = .ok (text, rest)) : rest.length < cs.length := by
  have := length_skipSpace_le cs
  unfold readString at h
  split at h
  . simp at h
  . rename_i c r heq
    rw [heq, List.length_cons] at this
    split at h
    . split at h
      . simp at h
      . rename_i t r' ht
        have := length_lt_of_readText ht
        simp only [Except.ok.injEq, Prod.mk.injEq] at h
        rw [← h.2]
        omega
    . simp at h

end Workday.Json
