import Workday.Json.Number
import Workday.Json.Text

/-!
This module passes over JSON values of any kind without keeping them. Values may be nested to any
depth, so the brackets that are open are kept in a list.
-/

namespace Workday.Json

inductive Frame where
  | list
  | object
  deriving Repr, BEq, DecidableEq, Inhabited

namespace Frame

def closing : Frame → Char
  | list => ']'
  | object => '}'

def atEnd : Frame → Cause
  | list => .endOfList
  | object => .endOfObject

/--
What is wrong if something else than a comma or the closing bracket follows an element.
-/
def expectedComma : Frame → Cause
  | list => .expectedCommaOrBracket
  | object => .expectedCommaOrBrace

end Frame

/--
Read the given letters. What is reported is the first character that differs.
-/
def skipLetters : List Char → List Char → Except Fault (List Char)
  | [], cs => .ok cs
  | _ :: _, [] => .error (.here .endOfValue [])
  | l :: ls, c :: cs =>
    if c = l then skipLetters ls cs else .error (.next .expectedLiteral (c :: cs))

/--
Pass over a value that holds no others, or over an opening bracket, which is told.
-/
def skipLead : Reader (Option Frame)
  | [] => .error (.here .endOfValue [])
  | '[' :: rest => .ok (some .list, rest)
  | '{' :: rest => .ok (some .object, rest)
  | '"' :: rest => (skipText rest).map (none, ·)
  | '-' :: rest => (skipNumber rest).map (none, ·)
  | 'n' :: rest => (skipLetters ['u', 'l', 'l'] rest).map (none, ·)
  | 't' :: rest => (skipLetters ['r', 'u', 'e'] rest).map (none, ·)
  | 'f' :: rest => (skipLetters ['a', 'l', 's', 'e'] rest).map (none, ·)
  | c :: rest =>
    if c.isDigit then (skipNumber (c :: rest)).map (none, ·)
    else .error (.next .expectedValue (c :: rest))

def skipColon (cs : List Char) : Except Fault (List Char) :=
  match skipSpace cs with
  | [] => .error (.here .endOfObject [])
  | c :: rest => if c = ':' then .ok rest else .error (.next .expectedColon (c :: rest))

/--
Pass over what stands before an element of the given bracket: nothing, or a key and its colon.
-/
def skipKey : Frame → List Char → Except Fault (List Char)
  | .list, cs => .ok cs
  | .object, cs =>
    match skipSpace cs with
    | [] => .error (.here .endOfObject [])
    | c :: rest =>
      if c = '"' then
        match skipText rest with
        | .error fault => .error fault
        | .ok rest => skipColon rest
      else
        .error (.next .keyNotText (c :: rest))

/--
Close brackets for as long as nothing but closing brackets follows, and then pass over a comma. The
brackets that are still open are told. `filled` is whether an element of the innermost one has just
ended, only then a comma may follow.
-/
def skipClosing (filled : Bool) : List Frame → Reader (List Frame)
  | [], cs => .ok ([], cs)
  | frame :: frames, cs =>
    match skipSpace cs with
    | [] => .error (.here frame.atEnd [])
    | c :: rest =>
      if c = ',' ∧ filled then
        .ok (frame :: frames, rest)
      else if c = frame.closing then
        skipClosing true frames rest
      else if filled then
        .error (.next frame.expectedComma (c :: rest))
      else
        .ok (frame :: frames, c :: rest)

theorem length_lt_of_skipText {cs rest : List Char} (h : skipText cs = .ok rest) :
    rest.length < cs.length := by
  fun_induction skipText cs with
  | case1 cs fault hp => simp at h
  | case2 cs r hp =>
    simp only [Except.ok.injEq] at h
    rw [← h]
    exact length_lt_of_skipPiece hp
  | case3 cs r hp _ ih =>
    have := length_lt_of_skipPiece hp
    have := ih h
    omega

theorem length_lt_of_skipNumber {cs rest : List Char} (h : skipNumber cs = .ok rest) :
    rest.length < cs.length := by
  unfold skipNumber at h
  obtain ⟨⟨n, r⟩, hr, h⟩ := map_eq_ok_iff.1 h
  rw [← h]
  exact length_lt_of_readNumeral hr

theorem length_le_of_skipLetters {ls cs rest : List Char} (h : skipLetters ls cs = .ok rest) :
    rest.length ≤ cs.length := by
  fun_induction skipLetters ls cs with
  | case1 cs =>
    simp only [Except.ok.injEq] at h
    simp [h]
  | case2 => simp at h
  | case3 l ls cs ih =>
    have := ih h
    simp only [List.length_cons]
    omega
  | case4 => simp at h

theorem length_lt_of_skipLead {cs rest : List Char} {frame : Option Frame}
    (h : skipLead cs = .ok (frame, rest)) : rest.length < cs.length := by
  have key : ∀ {r : List Char} {e : Except Fault (List Char)},
      e.map (Prod.mk none) = .ok (frame, r) → e = .ok r := by
    intro r e he
    obtain ⟨v, hv, he⟩ := map_eq_ok_iff.1 he
    rw [hv, (Prod.mk.inj he).2]
  unfold skipLead at h
  split at h
  . simp at h
  . simp only [Except.ok.injEq, Prod.mk.injEq] at h
    simp [← h.2]
  . simp only [Except.ok.injEq, Prod.mk.injEq] at h
    simp [← h.2]
  . have := length_lt_of_skipText (key h)
    simp only [List.length_cons]
    omega
  . have := length_lt_of_skipNumber (key h)
    simp only [List.length_cons]
    omega
  . have := length_le_of_skipLetters (key h)
    simp only [List.length_cons]
    omega
  . have := length_le_of_skipLetters (key h)
    simp only [List.length_cons]
    omega
  . have := length_le_of_skipLetters (key h)
    simp only [List.length_cons]
    omega
  . split at h
    . exact length_lt_of_skipNumber (key h)
    . simp at h

theorem length_lt_of_skipColon {cs rest : List Char} (h : skipColon cs = .ok rest) :
    rest.length < cs.length := by
  have := length_skipSpace_le cs
  unfold skipColon at h
  split at h
  . simp at h
  . rename_i heq
    split at h
    . simp only [Except.ok.injEq] at h
      rw [heq, List.length_cons] at this
      rw [← h]
      omega
    . simp at h

theorem length_le_of_skipKey {frame : Frame} {cs rest : List Char}
    (h : skipKey frame cs = .ok rest) : rest.length ≤ cs.length := by
  have := length_skipSpace_le cs
  unfold skipKey at h
  split at h
  . simp only [Except.ok.injEq] at h
    simp [h]
  . split at h
    . simp at h
    . rename_i heq
      rw [heq, List.length_cons] at this
      split at h
      . split at h
        . simp at h
        . rename_i ht
          have := length_lt_of_skipText ht
          have := length_lt_of_skipColon h
          omega
      . simp at h

theorem length_le_of_skipClosing {filled : Bool} {frames open_ : List Frame} {cs rest : List Char}
    (h : skipClosing filled frames cs = .ok (open_, rest)) : rest.length ≤ cs.length := by
  induction frames generalizing filled cs with
  | nil =>
    simp only [skipClosing, Except.ok.injEq, Prod.mk.injEq] at h
    simp [h.2]
  | cons frame frames ih =>
    have := length_skipSpace_le cs
    unfold skipClosing at h
    split at h
    . simp at h
    . rename_i c r heq
      rw [heq, List.length_cons] at this
      split at h
      . simp only [Except.ok.injEq, Prod.mk.injEq] at h
        rw [← h.2]
        omega
      . split at h
        . have := ih h
          omega
        . split at h
          . simp at h
          . simp only [Except.ok.injEq, Prod.mk.injEq] at h
            rw [← h.2, List.length_cons]
            omega

/--
Pass over an element within the given open brackets, and over all that follows up to the end of the
outermost one.
-/
def skipNested (frames : List Frame) (cs : List Char) : Except Fault (List Char) :=
  match hl : skipLead (skipSpace cs) with
  | .error fault => .error fault
  | .ok (opened, rest) =>
    match hc : skipClosing opened.isNone (opened.toList ++ frames) rest with
    | .error fault => .error fault
    | .ok ([], rest) => .ok rest
    | .ok (frame :: frames, rest) =>
      match hk : skipKey frame rest with
      | .error fault => .error fault
      | .ok rest =>
        have : rest.length < cs.length := by
          have := length_skipSpace_le cs
          have := length_lt_of_skipLead hl
          have := length_le_of_skipClosing hc
          have := length_le_of_skipKey hk
          omega
        skipNested (frame :: frames) rest
termination_by cs.length

def skipValue (cs : List Char) : Except Fault (List Char) :=
  skipNested [] cs

end Workday.Json
