import Workday.Json.Fault

/-!
This module contains JSON strings: reading one after its opening quote, passing over one without
looking at what it denotes, and writing one. A string that is read denotes a text, so surrogates
have to come in pairs. A string that is passed over has to be well-formed only.
-/

namespace Workday.Json

def hexDigit? (c : Char) : Option Nat :=
  if '0' ≤ c ∧ c ≤ '9' then some (c.toNat - '0'.toNat)
  else if 'a' ≤ c ∧ c ≤ 'f' then some (c.toNat - 'a'.toNat + 10)
  else if 'A' ≤ c ∧ c ≤ 'F' then some (c.toNat - 'A'.toNat + 10)
  else none

def hexValue? (a b c d : Char) : Option Nat :=
  match hexDigit? a, hexDigit? b, hexDigit? c, hexDigit? d with
  | some a, some b, some c, some d => some (((a * 16 + b) * 16 + c) * 16 + d)
  | _, _, _, _ => none

/--
What is wrong with characters that are no four hexadecimal digits: that the text ends before them,
or the four bytes themselves.
-/
def hexFault (cs : List Char) : Fault :=
  if byteLength cs < 4 then .here .endOfText [] else ⟨.invalidEscape, cs, 4⟩

def readHex : Reader Nat
  | a :: b :: c :: d :: rest =>
    match hexValue? a b c d with
    | some n => .ok (n, rest)
    | none => .error (hexFault (a :: b :: c :: d :: rest))
  | cs => .error (hexFault cs)

def escaped? : Char → Option Char
  | '"' => some '"'
  | '\\' => some '\\'
  | '/' => some '/'
  | 'b' => some '\x08'
  | 'f' => some '\x0c'
  | 'n' => some '\n'
  | 'r' => some '\r'
  | 't' => some '\t'
  | _ => none

/--
Read the second half of a surrogate pair, whose first half was `high`.
-/
def readLow (high : Nat) : Reader Char
  | [] => .error (.here .endOfText [])
  | '\\' :: rest =>
    match rest with
    | [] => .error (.here .endOfText [])
    | 'u' :: rest => do
      let (low, rest) ← readHex rest
      if 0xdc00 ≤ low ∧ low ≤ 0xdfff then
        .ok (Char.ofNat ((high - 0xd800) * 0x400 + (low - 0xdc00) + 0x10000), rest)
      else
        .error (.here .loneSurrogate rest)
    | rest => .error (.next .cutEscape rest)
  | rest => .error (.next .cutEscape rest)

def readUnicode : Reader Char := fun cs => do
  let (n, rest) ← readHex cs
  if 0xdc00 ≤ n ∧ n ≤ 0xdfff then
    .error (.here .loneSurrogate rest)
  else if 0xd800 ≤ n ∧ n ≤ 0xdbff then
    readLow n rest
  else
    .ok (Char.ofNat n, rest)

/--
Read one character of a string, or `none` for its closing quote.
-/
def readPiece : Reader (Option Char)
  | [] => .error (.here .endOfText [])
  | '"' :: rest => .ok (none, rest)
  | '\\' :: rest =>
    match rest with
    | [] => .error (.here .endOfText [])
    | 'u' :: rest => (readUnicode rest).map fun (c, rest) => (some c, rest)
    | c :: rest =>
      match escaped? c with
      | some c => .ok (some c, rest)
      | none => .error (.next .invalidEscape (c :: rest))
  | c :: rest =>
    if c < ' ' then .error (.next .controlCharacter (c :: rest)) else .ok (some c, rest)

/--
Pass over one character of a string, or over its closing quote, and tell which of the two it was.
-/
def skipPiece : Reader Bool
  | [] => .error (.here .endOfText [])
  | '"' :: rest => .ok (true, rest)
  | '\\' :: rest =>
    match rest with
    | [] => .error (.here .endOfText [])
    | 'u' :: rest => (readHex rest).map fun (_, rest) => (false, rest)
    | c :: rest =>
      match escaped? c with
      | some _ => .ok (false, rest)
      | none => .error (.next .invalidEscape (c :: rest))
  | c :: rest =>
    if c < ' ' then .error (.here .controlCharacter (c :: rest)) else .ok (false, rest)

theorem length_lt_of_readHex {cs rest : List Char} {n : Nat} (h : readHex cs = .ok (n, rest)) :
    rest.length < cs.length := by
  unfold readHex at h
  split at h
  . split at h
    . simp only [Except.ok.injEq, Prod.mk.injEq] at h
      simp only [← h.2, List.length_cons]
      omega
    . simp at h
  . simp at h

theorem length_lt_of_readLow {high : Nat} {cs rest : List Char} {c : Char}
    (h : readLow high cs = .ok (c, rest)) : rest.length < cs.length := by
  unfold readLow at h
  split at h
  . simp at h
  . split at h
    . simp at h
    . obtain ⟨⟨low, r⟩, hr, h⟩ := bind_eq_ok_iff.1 h
      have := length_lt_of_readHex hr
      dsimp only at h
      split at h
      . simp only [Except.ok.injEq, Prod.mk.injEq] at h
        simp only [← h.2, List.length_cons]
        omega
      . simp at h
    . simp at h
  . simp at h

theorem length_lt_of_readUnicode {cs rest : List Char} {c : Char}
    (h : readUnicode cs = .ok (c, rest)) : rest.length < cs.length := by
  unfold readUnicode at h
  obtain ⟨⟨n, r⟩, hr, h⟩ := bind_eq_ok_iff.1 h
  have hv := length_lt_of_readHex hr
  dsimp only at h
  split at h
  . simp at h
  . split at h
    . have := length_lt_of_readLow h
      omega
    . simp only [Except.ok.injEq, Prod.mk.injEq] at h
      simpa only [← h.2] using hv

theorem length_lt_of_readPiece {cs rest : List Char} {c : Option Char}
    (h : readPiece cs = .ok (c, rest)) : rest.length < cs.length := by
  unfold readPiece at h
  split at h
  . simp at h
  . simp only [Except.ok.injEq, Prod.mk.injEq] at h
    simp [← h.2]
  . split at h
    . simp at h
    . obtain ⟨⟨c, r⟩, hr, h⟩ := map_eq_ok_iff.1 h
      have := length_lt_of_readUnicode hr
      simp only [← (Prod.mk.inj h).2, List.length_cons]
      omega
    . split at h
      . simp only [Except.ok.injEq, Prod.mk.injEq] at h
        simp only [← h.2, List.length_cons]
        omega
      . simp at h
  . split at h
    . simp at h
    . simp only [Except.ok.injEq, Prod.mk.injEq] at h
      simp [← h.2]

theorem length_lt_of_skipPiece {cs rest : List Char} {closed : Bool}
    (h : skipPiece cs = .ok (closed, rest)) : rest.length < cs.length := by
  unfold skipPiece at h
  split at h
  . simp at h
  . simp only [Except.ok.injEq, Prod.mk.injEq] at h
    simp [← h.2]
  . split at h
    . simp at h
    . obtain ⟨⟨n, r⟩, hr, h⟩ := map_eq_ok_iff.1 h
      have := length_lt_of_readHex hr
      simp only [← (Prod.mk.inj h).2, List.length_cons]
      omega
    . split at h
      . simp only [Except.ok.injEq, Prod.mk.injEq] at h
        simp only [← h.2, List.length_cons]
        omega
      . simp at h
  . split at h
    . simp at h
    . simp only [Except.ok.injEq, Prod.mk.injEq] at h
      simp [← h.2]

/--
Read the characters of a string up to and with its closing quote.
-/
def readText (cs : List Char) : Except Fault (List Char × List Char) :=
  match h : readPiece cs with
  | .error fault => .error fault
  | .ok (none, rest) => .ok ([], rest)
  | .ok (some c, rest) =>
    have := length_lt_of_readPiece h
    match readText rest with
    | .error fault => .error fault
    | .ok (text, rest) => .ok (c :: text, rest)
termination_by cs.length

def skipText (cs : List Char) : Except Fault (List Char) :=
  match h : skipPiece cs with
  | .error fault => .error fault
  | .ok (true, rest) => .ok rest
  | .ok (false, rest) =>
    have := length_lt_of_skipPiece h
    skipText rest
termination_by cs.length

/--
How a character is written in a string. Only quotes, backslashes and control characters are escaped,
those without a letter of their own by two hexadecimal digits.
-/
def encodeChar (c : Char) : List Char :=
  if c = '"' then ['\\', '"']
  else if c = '\\' then ['\\', '\\']
  else if c = '\x08' then ['\\', 'b']
  else if c = '\x0c' then ['\\', 'f']
  else if c = '\n' then ['\\', 'n']
  else if c = '\r' then ['\\', 'r']
  else if c = '\t' then ['\\', 't']
  else if c < ' ' then
    ['\\', 'u', '0', '0', Nat.digitChar (c.toNat / 16), Nat.digitChar (c.toNat % 16)]
  else [c]

def encode (text : List Char) : List Char :=
  '"' :: (text.flatMap encodeChar ++ ['"'])

end Workday.Json
