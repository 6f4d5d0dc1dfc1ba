import Mathlib.Data.List.DropRight
import Workday.Proofs.Decimal
import Workday.Proofs.Json.Grammar
import Workday.Proofs.Json.Text

/-!
This module contains the reading of what JSON values are made of, at the start of any text: white
space, strings and numbers. A string ends at its quote, but a number ends only where the text goes
on with something that is no part of one.
-/

namespace Workday.Json

open Text

section Classes

variable {p : Char → Prop}

theorem forall_blank :
    (∀ c ∈ [' ', '\n', '\t', '\r'], p c) ↔ p ' ' ∧ p '\n' ∧ p '\t' ∧ p '\r' := by
  simp

theorem forall_mark : (∀ c ∈ ['e', 'E'], p c) ↔ p 'e' ∧ p 'E' := by
  simp

theorem forall_ending : (∀ c ∈ [',', ']', '}'], p c) ↔ p ',' ∧ p ']' ∧ p '}' := by
  simp

end Classes

section Blanks

variable {c : Char} {cs rest : List Char}

theorem isSpace_iff : isSpace c = true ↔ c ∈ [' ', '\n', '\t', '\r'] := by
  simp [isSpace, or_assoc]

theorem skipSpace_append (h : IsBlank cs) (rest : List Char) :
    skipSpace (cs ++ rest) = skipSpace rest :=
  List.dropWhile_append_of_pos fun c hc => isSpace_iff.2 (h c hc)

theorem skipSpace_cons (h : isSpace c = false) (rest : List Char) :
    skipSpace (c :: rest) = c :: rest :=
  List.dropWhile_cons_of_neg (by simp [h])

theorem skipSpace_append_cons (hcs : IsBlank cs) (hc : isSpace c = false) (rest : List Char) :
    skipSpace (cs ++ c :: rest) = c :: rest := by
  rw [skipSpace_append hcs, skipSpace_cons hc]

theorem skipSpace_eq_nil (h : IsBlank cs) : skipSpace cs = [] := by
  have := skipSpace_append h []
  rwa [List.append_nil] at this

theorem skipSpace_skipSpace (cs : List Char) : skipSpace (skipSpace cs) = skipSpace cs :=
  List.dropWhile_idempotent isSpace cs

end Blanks

section Strings

variable {c : Char} {n : Nat} {cs ds body text rest : List Char}

theorem hexDigit?_of_isHexDigit (h : IsHexDigit c n) : hexDigit? c = some n := by
  have upper : ∀ n < 16, hexDigit? (Nat.digitChar n).toUpper = some n := by decide
  obtain ⟨hn, rfl | rfl⟩ := h
  . exact hexDigit?_digitChar n hn
  . exact upper n hn

theorem readHex_append (h : IsHexWord ds n) (rest : List Char) :
    readHex (ds ++ rest) = .ok (n, rest) := by
  obtain ⟨hx, hy, hz, hw⟩ := h
  unfold readHex
  dsimp only [List.cons_append, List.nil_append]
  unfold hexValue?
  rw [hexDigit?_of_isHexDigit hx, hexDigit?_of_isHexDigit hy, hexDigit?_of_isHexDigit hz,
    hexDigit?_of_isHexDigit hw]

theorem IsPlain.not_lt (h : IsPlain c) : ¬c < ' ' :=
  Nat.not_lt.2 h.le_toNat

section Skipping

theorem skipPiece_plain (h : IsPlain c) (rest : List Char) :
    skipPiece (c :: rest) = .ok (false, rest) := by
  unfold skipPiece
  split
  . contradiction
  . next heq => exact absurd (List.cons.inj heq).1 h.ne_quote
  . next heq => exact absurd (List.cons.inj heq).1 h.ne_backslash
  . next heq =>
    cases heq
    rw [if_neg h.not_lt]

theorem skipPiece_letter {letter : Char × Char} (h : letter ∈ escapeLetters) (rest : List Char) :
    skipPiece ('\\' :: letter.1 :: rest) = .ok (false, rest) := by
  revert letter
  simp only [escapeLetters, List.forall_mem_cons]
  exact ⟨rfl, rfl, rfl, rfl, rfl, rfl, rfl, rfl, by simp⟩

theorem skipPiece_of_readHex (h : readHex cs = .ok (n, rest)) :
    skipPiece ('\\' :: 'u' :: cs) = .ok (false, rest) := by
  change (readHex cs).map _ = _
  rw [h]
  rfl

theorem skipText_of_end (h : skipPiece cs = .ok (true, rest)) : skipText cs = .ok rest := by
  rw [skipText]
  split
  . next heq => cases h.symm.trans heq
  . next heq => cases h.symm.trans heq; rfl
  . next heq => cases h.symm.trans heq

theorem skipText_of_piece (h : skipPiece cs = .ok (false, rest)) : skipText cs = skipText rest := by
  rw [skipText]
  split
  . next heq => cases h.symm.trans heq
  . next heq => cases h.symm.trans heq
  . next heq => cases h.symm.trans heq; rfl

theorem skipText_append (h : IsBody body) (rest : List Char) :
    skipText (body ++ '"' :: rest) = .ok rest := by
  induction h with
  | nil => exact skipText_of_end rfl
  | plain hc _ ih => exact (skipText_of_piece (skipPiece_plain hc _)).trans ih
  | letter hc _ ih => exact (skipText_of_piece (skipPiece_letter hc _)).trans ih
  | word hword _ ih =>
    rw [List.cons_append, List.cons_append, List.append_assoc]
    exact (skipText_of_piece (skipPiece_of_readHex (readHex_append hword _))).trans ih

end Skipping

section Reading

theorem readPiece_letter {letter : Char × Char} (h : letter ∈ escapeLetters) (rest : List Char) :
    readPiece ('\\' :: letter.1 :: rest) = .ok (some letter.2, rest) := by
  revert letter
  simp only [escapeLetters, List.forall_mem_cons]
  exact ⟨rfl, rfl, rfl, rfl, rfl, rfl, rfl, rfl, by simp⟩

theorem readPiece_word (h : IsHexWord ds n) (hn : n < 0xd800 ∨ 0xdfff < n) (rest : List Char) :
    readPiece ('\\' :: 'u' :: (ds ++ rest)) = .ok (some (Char.ofNat n), rest) := by
  rw [readPiece_unicode, readUnicode_of_readHex (readHex_append h rest) hn]
  rfl

theorem readLow_word {high low : Nat} (h : IsHexWord ds low) (hlow : 0xdc00 ≤ low ∧ low ≤ 0xdfff)
    (rest : List Char) :
    readLow high ('\\' :: 'u' :: (ds ++ rest)) =
      .ok (Char.ofNat (0x10000 + ((high - 0xd800) * 0x400 + (low - 0xdc00))), rest) := by
  change (readHex (ds ++ rest) >>= _) = _
  rw [readHex_append h]
  dsimp only [bind, Except.bind]
  rw [if_pos hlow, Nat.add_comm 0x10000]

theorem readPiece_pair {es : List Char} {high low : Nat} (hds : IsHexWord ds high)
    (hhigh : 0xd800 ≤ high ∧ high ≤ 0xdbff) (hes : IsHexWord es low)
    (hlow : 0xdc00 ≤ low ∧ low ≤ 0xdfff) (rest : List Char) :
    readPiece ('\\' :: 'u' :: (ds ++ '\\' :: 'u' :: (es ++ rest))) =
      .ok (some (Char.ofNat (0x10000 + ((high - 0xd800) * 0x400 + (low - 0xdc00)))), rest) := by
  rw [readPiece_unicode]
  unfold readUnicode
  rw [readHex_append hds]
  dsimp only [bind, Except.bind]
  rw [if_neg (by omega), if_pos hhigh, readLow_word hes hlow]
  simp only [Except.map]

theorem readText_append (h : Spells body text) (rest : List Char) :
    readText (body ++ '"' :: rest) = .ok (text, rest) := by
  induction h with
  | nil => exact readText_of_end rfl
  | plain hc _ ih =>
    exact readText_of_piece (readPiece_plain hc.ne_quote hc.ne_backslash hc.not_lt _) ih
  | letter hc _ ih => exact readText_of_piece (readPiece_letter hc _) ih
  | word hword hn _ ih =>
    rw [List.cons_append, List.cons_append, List.append_assoc]
    exact readText_of_piece (readPiece_word hword hn _) ih
  | pair hds hhigh hes hlow _ ih =>
    simp only [List.cons_append, List.append_assoc]
    exact readText_of_piece (readPiece_pair hds hhigh hes hlow _) ih

theorem readString_append {before value : List Char} {text : String} (hbefore : IsBlank before)
    (h : IsText value text) (rest : List Char) :
    readString (before ++ (value ++ rest)) = .ok (text, rest) := by
  obtain ⟨body, hbody, rfl⟩ := h
  rw [List.cons_append, List.append_assoc, List.singleton_append]
  rw [readString_of_readText (skipSpace_append_cons hbefore rfl _) (readText_append hbody rest),
    String.ofList_toList]

end Reading

end Strings

section Numbers

variable {cs ds rest : List Char}

/--
Whether a text goes on with none of the characters that `p` holds for.
-/
def Stops (p : Char → Bool) (cs : List Char) : Prop :=
  ∀ c ∈ cs.head?, p c = false

def isNumeric (c : Char) : Bool :=
  c.isDigit || c == '.' || c == 'e' || c == 'E'

theorem Stops.takeWhile_append {p : Char → Bool} (h : Stops p rest) (hcs : ∀ c ∈ cs, p c = true) :
    (cs ++ rest).takeWhile p = cs := by
  rw [List.takeWhile_append_of_pos hcs]
  cases rest with
  | nil => simp
  | cons c rest => rw [List.takeWhile_cons_of_neg (by simp [h c rfl]), List.append_nil]

theorem Stops.dropWhile_append {p : Char → Bool} (h : Stops p rest) (hcs : ∀ c ∈ cs, p c = true) :
    (cs ++ rest).dropWhile p = rest := by
  rw [List.dropWhile_append_of_pos hcs]
  cases rest with
  | nil => rfl
  | cons c rest => rw [List.dropWhile_cons_of_neg (by simp [h c rfl])]

theorem readWhole_append (atEnd : Cause) (h : IsWhole cs) (hrest : Stops Char.isDigit rest) :
    readWhole atEnd (cs ++ rest) = .ok (cs, rest) := by
  obtain rfl | ⟨hdigits, hhead⟩ := h
  . have : rest.takeWhile Char.isDigit = [] := hrest.takeWhile_append (List.forall_mem_nil _)
    unfold readWhole
    dsimp only [List.cons_append, List.nil_append]
    rw [if_pos rfl, this]
    rfl
  . cases cs with
    | nil => cases hdigits
    | cons c cs =>
      have hcs := isDigit_of_isNumber hdigits
      rw [List.forall_mem_cons] at hcs
      unfold readWhole
      dsimp only [List.cons_append]
      rw [if_neg (by simpa using hhead), if_pos hcs.1, hrest.takeWhile_append hcs.2,
        hrest.dropWhile_append hcs.2]

theorem readDigits_append (atEnd : Cause) (h : isNumber ds = true)
    (hrest : Stops Char.isDigit rest) : readDigits atEnd (ds ++ rest) = .ok (ds, rest) := by
  unfold readDigits
  rw [hrest.takeWhile_append (isDigit_of_isNumber h),
    hrest.dropWhile_append (isDigit_of_isNumber h), if_neg (by simpa using ne_nil_of_isNumber h)]

theorem Stops.fraction (h : IsFraction cs) (hrest : Stops Char.isDigit rest) :
    Stops Char.isDigit (cs ++ rest) := by
  obtain rfl | ⟨ds, _, rfl⟩ := h
  . exact hrest
  . intro c hc
    cases hc
    rfl

theorem Stops.exponent {p : Char → Bool} (h : IsExponent cs) (hrest : Stops p rest)
    (hp : ∀ e ∈ ['e', 'E'], p e = false) : Stops p (cs ++ rest) := by
  obtain rfl | ⟨e, sign, ds, he, _, _, rfl⟩ := h
  . exact hrest
  . intro c hc
    cases hc
    exact hp e he

theorem readFraction_append (atEnd : Cause) (h : IsFraction cs) (hdigit : Stops Char.isDigit rest)
    (hpoint : Stops (· == '.') rest) : ∃ ds, readFraction atEnd (cs ++ rest) = .ok (ds, rest) := by
  obtain rfl | ⟨ds, hds, rfl⟩ := h
  . refine ⟨[], ?_⟩
    unfold readFraction
    split
    . next heq =>
      rw [List.nil_append] at heq
      subst heq
      cases hpoint '.' rfl
    . rfl
  . exact ⟨ds, readDigits_append atEnd hds hdigit⟩

theorem readSign_append {sign : List Char} (hsign : sign ∈ [[], ['+'], ['-']])
    (hds : isNumber ds = true) (rest : List Char) :
    (readSign (sign ++ (ds ++ rest))).2 = ds ++ rest := by
  simp only [List.mem_cons, List.not_mem_nil, or_false] at hsign
  obtain rfl | rfl | rfl := hsign
  . cases ds with
    | nil => cases hds
    | cons d ds =>
      have hd := isDigit_of_isNumber hds d List.mem_cons_self
      unfold readSign
      split
      . next heq => rw [(List.cons.inj heq).1] at hd; cases hd
      . next heq => rw [(List.cons.inj heq).1] at hd; cases hd
      . rfl
  . rfl
  . rfl

theorem readExponent_append (atEnd : Cause) (h : IsExponent cs) (hdigit : Stops Char.isDigit rest)
    (hletter : ∀ e ∈ ['e', 'E'], Stops (· == e) rest) :
    ∃ exponent, readExponent atEnd (cs ++ rest) = .ok (exponent, rest) := by
  obtain rfl | ⟨e, sign, ds, he, hsign, hds, rfl⟩ := h
  . refine ⟨none, ?_⟩
    cases rest with
    | nil => rfl
    | cons c rest =>
      have hc : ¬(c = 'e' ∨ c = 'E') := by
        rintro (rfl | rfl)
        . cases hletter 'e' (by simp) 'e' rfl
        . cases hletter 'E' (by simp) 'E' rfl
      rw [List.nil_append, readExponent, if_neg hc]
  . refine ⟨some ((readSign (sign ++ (ds ++ rest))).1, ds), ?_⟩
    rw [List.cons_append, List.append_assoc, readExponent, if_pos (by simpa using he),
      readSign_append hsign hds, readDigits_append atEnd hds hdigit]
    rfl

theorem skipNumber_append (h : IsNumeral cs) (hrest : Stops isNumeric rest) :
    skipNumber (cs ++ rest) = .ok rest := by
  obtain ⟨whole, fraction, exponent, hwhole, hfraction, hexponent, rfl⟩ := h
  have stops {p : Char → Bool} (hp : ∀ c, p c = true → isNumeric c = true) : Stops p rest := by
    intro c hc
    by_contra hpc
    have := hrest c hc
    rw [hp c (by simpa using hpc)] at this
    cases this
  have hdigit : Stops Char.isDigit rest := stops fun c hc => by simp [isNumeric, hc]
  have hnumeric : ∀ e ∈ ['e', 'E'], isNumeric e = true := forall_mark.2 ⟨rfl, rfl⟩
  have hletter : ∀ e ∈ ['e', 'E'], Stops (· == e) rest :=
    fun e he => stops fun c hc => by rw [eq_of_beq hc, hnumeric e he]
  have hpoint : Stops (· == '.') rest := stops fun c hc => by simp [isNumeric, eq_of_beq hc]
  have hbehind : Stops Char.isDigit (exponent ++ rest) :=
    hdigit.exponent hexponent (forall_mark.2 ⟨rfl, rfl⟩)
  obtain ⟨ds, hread⟩ := readFraction_append .invalidNumber hfraction hbehind
    (hpoint.exponent hexponent (forall_mark.2 ⟨rfl, rfl⟩))
  obtain ⟨e, hlast⟩ := readExponent_append .invalidNumber hexponent hdigit hletter
  unfold skipNumber readNumeral
  rw [List.append_assoc, List.append_assoc,
    readWhole_append .invalidNumber hwhole (hbehind.fraction hfraction)]
  dsimp only [bind, Except.bind]
  rw [hread]
  dsimp only
  rw [hlast]
  rfl

end Numbers

end Workday.Json
