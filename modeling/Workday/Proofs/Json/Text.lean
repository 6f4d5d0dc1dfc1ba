import Workday.Json.Kind

/-!
This module contains the correctness of the notation of strings: reading what was written for a text
gives the text and leaves what follows its closing quote.
-/

namespace Workday.Json

theorem hexDigit?_digitChar : ∀ n < 16, hexDigit? (Nat.digitChar n) = some n := by
  decide

theorem readHex_control {c : Char} (h : c < ' ') (rest : List Char) :
    readHex ('0' :: '0' :: Nat.digitChar (c.toNat / 16) :: Nat.digitChar (c.toNat % 16) :: rest) =
      .ok (c.toNat, rest) := by
  have hlt : c.toNat < 32 := h
  have hzero : hexDigit? '0' = some 0 := rfl
  have hhigh := hexDigit?_digitChar (c.toNat / 16) (by omega)
  have hlow := hexDigit?_digitChar (c.toNat % 16) (by omega)
  have hvalue : hexValue? '0' '0' (Nat.digitChar (c.toNat / 16)) (Nat.digitChar (c.toNat % 16)) =
      some c.toNat := by
    unfold hexValue?
    rw [hzero, hhigh, hlow]
    simp only [Option.some.injEq]
    omega
  unfold readHex
  dsimp only
  rw [hvalue]

theorem readUnicode_of_readHex {n : Nat} {cs rest : List Char} (h : readHex cs = .ok (n, rest))
    (hn : n < 0xd800 ∨ 0xdfff < n) : readUnicode cs = .ok (Char.ofNat n, rest) := by
  unfold readUnicode
  rw [h]
  dsimp only [bind, Except.bind]
  rw [if_neg (by omega), if_neg (by omega)]

theorem readPiece_unicode (cs : List Char) :
    readPiece ('\\' :: 'u' :: cs) = (readUnicode cs).map fun (c, rest) => (some c, rest) := rfl

theorem readPiece_control {c : Char} (h : c < ' ') (rest : List Char) :
    readPiece ('\\' :: 'u' :: '0' :: '0' :: Nat.digitChar (c.toNat / 16) ::
      Nat.digitChar (c.toNat % 16) :: rest) = .ok (some c, rest) := by
  have hlt : c.toNat < 32 := h
  have hread := readUnicode_of_readHex (readHex_control h rest) (.inl (by omega))
  rw [readPiece_unicode, hread, Char.ofNat_toNat]
  rfl

theorem readPiece_plain {c : Char} (hquote : c ≠ '"') (hslash : c ≠ '\\') (h : ¬c < ' ')
    (rest : List Char) : readPiece (c :: rest) = .ok (some c, rest) := by
  unfold readPiece
  split
  . contradiction
  . next heq => exact absurd (List.cons.inj heq).1 hquote
  . next heq => exact absurd (List.cons.inj heq).1 hslash
  . next heq =>
    cases heq
    rw [if_neg h]

theorem readPiece_encodeChar (c : Char) (rest : List Char) :
    readPiece (encodeChar c ++ rest) = .ok (some c, rest) := by
  unfold encodeChar
  split
  . next h => rw [h]; rfl
  . next hquote =>
    split
    . next h => rw [h]; rfl
    . next hslash =>
      -- Every letter after a backslash is read as the character that it was written for.
      iterate 5
        split
        . next h => rw [h]; rfl
      split
      . next h => exact readPiece_control h rest
      . next h => exact readPiece_plain hquote hslash h rest

section ReadText

variable {c : Char} {cs rest text after : List Char}

theorem readText_of_end (h : readPiece cs = .ok (none, rest)) : readText cs = .ok ([], rest) := by
  rw [readText]
  split
  . next heq => cases h.symm.trans heq
  . next heq => cases h.symm.trans heq; rfl
  . next heq => cases h.symm.trans heq

theorem readText_of_piece (h : readPiece cs = .ok (some c, rest))
    (hrest : readText rest = .ok (text, after)) : readText cs = .ok (c :: text, after) := by
  rw [readText]
  split
  . next heq => cases h.symm.trans heq
  . next heq => cases h.symm.trans heq
  . next heq =>
    cases h.symm.trans heq
    rw [hrest]

theorem readText_flatMap_encodeChar (text rest : List Char) :
    readText (text.flatMap encodeChar ++ '"' :: rest) = .ok (text, rest) := by
  induction text with
  | nil => exact readText_of_end rfl
  | cons c text ih =>
    rw [List.flatMap_cons, List.append_assoc]
    exact readText_of_piece (readPiece_encodeChar c _) ih

theorem encode_append (text rest : List Char) :
    encode text ++ rest = '"' :: (text.flatMap encodeChar ++ '"' :: rest) := by
  rw [encode, List.cons_append, List.append_assoc]
  rfl

theorem readString_of_readText (h : skipSpace cs = '"' :: rest)
    (htext : readText rest = .ok (text, after)) :
    readString cs = .ok (String.ofList text, after) := by
  unfold readString
  rw [h]
  dsimp only
  rw [if_pos rfl, htext]

theorem readString_encode (value : String) (h : skipSpace cs = encode value.toList ++ rest) :
    readString cs = .ok (value, rest) := by
  rw [encode_append] at h
  rw [readString_of_readText h (readText_flatMap_encodeChar _ _), String.ofList_toList]

end ReadText

end Workday.Json
