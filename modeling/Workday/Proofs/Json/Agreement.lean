import Workday.Proofs.Json.Record
import Workday.Proofs.Json.Skipping

/-!
This module relates the two ways through a value: what is read is read to the place where passing
over it ends, whatever the text. This holds of strings, and of a record if it holds of its fields.
-/

namespace Workday.Json

variable {cs rest : List Char}

section Strings

variable {c : Char} {text : List Char}

theorem skipPiece_of_readPiece (h : readPiece cs = .ok (none, rest)) :
    skipPiece cs = .ok (true, rest) := by
  unfold readPiece at h
  split at h
  . cases h
  . cases h; rfl
  . split at h
    . cases h
    . obtain ⟨_, _, h⟩ := map_eq_ok_iff.1 h
      cases h
    . split at h <;> cases h
  . split at h <;> cases h

theorem skipText_of_readLow {high : Nat} (h : readLow high cs = .ok (c, rest)) :
    skipText cs = skipText rest := by
  unfold readLow at h
  split at h
  . cases h
  . split at h
    . cases h
    . obtain ⟨⟨low, after⟩, hread, h⟩ := bind_eq_ok_iff.1 h
      dsimp only at h
      split at h
      . simp only [Except.ok.injEq, Prod.mk.injEq] at h
        rw [← h.2]
        exact skipText_of_piece (skipPiece_of_readHex hread)
      . cases h
    . cases h
  . cases h

theorem skipText_of_readUnicode (h : readUnicode cs = .ok (c, rest)) :
    skipText ('\\' :: 'u' :: cs) = skipText rest := by
  unfold readUnicode at h
  obtain ⟨⟨n, after⟩, hread, h⟩ := bind_eq_ok_iff.1 h
  rw [skipText_of_piece (skipPiece_of_readHex hread)]
  dsimp only at h
  split at h
  . cases h
  . split at h
    . exact skipText_of_readLow h
    . cases h
      rfl

theorem mem_escapeLetters {d : Char} (h : escaped? c = some d) : (c, d) ∈ escapeLetters := by
  unfold escaped? at h
  split at h <;> cases h <;> decide

theorem skipText_of_readPiece (h : readPiece cs = .ok (some c, rest)) :
    skipText cs = skipText rest := by
  unfold readPiece at h
  split at h
  . cases h
  . cases h
  . split at h
    . cases h
    . obtain ⟨⟨d, after⟩, hread, h⟩ := map_eq_ok_iff.1 h
      cases h
      exact skipText_of_readUnicode hread
    . split at h
      . next hescaped =>
        cases h
        exact skipText_of_piece (skipPiece_letter (mem_escapeLetters hescaped) _)
      . cases h
  . next hquote hslash =>
    split at h
    . cases h
    . next hc =>
      cases h
      exact skipText_of_piece (skipPiece_plain ⟨hquote, hslash, Nat.not_lt.1 hc⟩ _)

theorem skipText_of_readText (h : readText cs = .ok (text, rest)) : skipText cs = .ok rest := by
  fun_induction readText cs generalizing text with
  | case1 => cases h
  | case2 cs r hpiece =>
    cases h
    exact skipText_of_end (skipPiece_of_readPiece hpiece)
  | case3 => cases h
  | case4 cs c r hpiece _ text' r' hread ih =>
    cases h
    rw [skipText_of_readPiece hpiece, ih hread]

end Strings

section Nesting

variable {filled : Bool} {inner frames : List Frame} {frame : Frame}

theorem proceed_of_skipClosing_nil (h : skipClosing filled inner cs = .ok ([], rest))
    (hfilled : inner = [] → filled = true) (frames : List Frame) :
    proceed filled (inner ++ frames) cs = proceed true frames rest := by
  induction inner generalizing filled cs with
  | nil =>
    cases h
    rw [hfilled rfl, List.nil_append]
  | cons frame inner ih =>
    unfold skipClosing at h
    split at h
    . cases h
    . next heq =>
      split at h
      . cases h
      . split at h
        . next hclosing =>
          rw [hclosing] at heq
          rw [List.cons_append, proceed_of_closing heq]
          exact ih h fun _ => rfl
        . split at h <;> cases h

theorem skipClosing_append {outer : List Frame}
    (h : skipClosing filled inner cs = .ok (frame :: outer, rest)) (frames : List Frame) :
    skipClosing filled (inner ++ frames) cs = .ok (frame :: (outer ++ frames), rest) := by
  induction inner generalizing filled cs with
  | nil => cases h
  | cons first inner ih =>
    rw [List.cons_append]
    unfold skipClosing at h ⊢
    split at h
    . cases h
    . split at h
      . next hcomma =>
        cases h
        rw [if_pos hcomma]
      . next hcomma =>
        rw [if_neg hcomma]
        split at h
        . next hclosing =>
          rw [if_pos hclosing]
          exact ih h
        . next hclosing =>
          rw [if_neg hclosing]
          split at h
          . cases h
          . next hfilled =>
            cases h
            rw [if_neg hfilled]

/--
The brackets that are open around a value do not change where passing over it ends.
-/
theorem skipNested_within (h : skipNested inner cs = .ok rest) (frames : List Frame) :
    skipNested (inner ++ frames) cs = proceed true frames rest := by
  fun_induction skipNested inner cs with
  | case1 => cases h
  | case2 => cases h
  | case3 inner cs opened r hlead r' hclosing =>
    cases h
    rw [skipNested_of_skipLead hlead, ← List.append_assoc]
    apply proceed_of_skipClosing_nil hclosing
    intro hnil
    simpa using (List.append_eq_nil_iff.1 hnil).1
  | case4 => cases h
  | case5 inner cs opened r hlead frame outer r' hclosing r'' hkey _ ih =>
    rw [skipNested_of_skipLead hlead, ← List.append_assoc,
      proceed_of_skipClosing (skipClosing_append hclosing frames), goOn, hkey]
    exact ih h

end Nesting

theorem skipValue_of_readString {text : String} (h : readString cs = .ok (text, rest)) :
    skipValue cs = .ok rest := by
  unfold readString at h
  split at h
  . cases h
  . next c more heq =>
    split at h
    . next hquote =>
      split at h
      . cases h
      . next hread =>
        cases h
        have hlead : skipLead (skipSpace cs) = .ok (none, rest) := by
          rw [heq, hquote]
          change (skipText more).map _ = _
          rw [skipText_of_readText hread]
          rfl
        exact skipNested_of_skipLead hlead
    . cases h

section Members

variable {first : Bool} {frames : List Frame} {key : String}

theorem goOn_of_readKey (h : readKey (skipSpace cs) = .ok (key, rest)) :
    goOn (.object :: frames, cs) = (skipColon rest).bind (skipNested (.object :: frames)) := by
  unfold readKey at h
  split at h
  . cases h
  . next heq =>
    split at h
    . next hquote =>
      obtain ⟨⟨text, after⟩, hread, h⟩ := map_eq_ok_iff.1 h
      cases h
      unfold goOn skipKey
      dsimp only
      rw [heq]
      dsimp only
      rw [if_pos hquote, skipText_of_readText hread]
    . cases h

theorem proceed_of_nextKey (h : nextKey first cs = .ok (some key, rest)) :
    proceed (!first) (.object :: frames) cs =
      (skipColon rest).bind (skipNested (.object :: frames)) := by
  unfold nextKey at h
  split at h
  . cases h
  . next c more heq =>
    split at h
    . cases h
    . next hbrace =>
      have hopen : c ≠ Frame.object.closing := hbrace
      split at h
      . next hfirst =>
        obtain ⟨⟨name, after⟩, hread, h⟩ := map_eq_ok_iff.1 h
        cases h
        rw [hfirst, Bool.not_true, proceed_of_open heq hopen]
        exact goOn_of_readKey (by rw [heq, hread])
      . next hfirst =>
        split at h
        . next hcomma =>
          rw [hcomma] at heq
          rw [eq_false_of_ne_true hfirst, Bool.not_false, proceed_of_comma heq]
          split at h
          . cases h
          . obtain ⟨⟨name, after⟩, hread, h⟩ := map_eq_ok_iff.1 h
            cases h
            exact goOn_of_readKey hread
        . cases h

theorem proceed_of_nextKey_none (h : nextKey first cs = .ok (none, rest)) (filled : Bool) :
    proceed filled (.object :: frames) cs = proceed true frames rest := by
  unfold nextKey at h
  split at h
  . cases h
  . next heq =>
    split at h
    . next hbrace =>
      cases h
      exact proceed_of_closing (heq.trans (by rw [hbrace]; rfl))
    . split at h
      . obtain ⟨found, _, h⟩ := map_eq_ok_iff.1 h
        cases h
      . split at h
        . split at h
          . cases h
          . obtain ⟨found, _, h⟩ := map_eq_ok_iff.1 h
            cases h
        . cases h

end Members

section Elements

variable {first : Bool} {frames : List Frame}

theorem proceed_of_nextElement (h : nextElement first cs = .ok (true, rest)) :
    proceed (!first) (.list :: frames) cs = skipNested (.list :: frames) rest := by
  unfold nextElement at h
  split at h
  . cases h
  . next c more heq =>
    split at h
    . cases h
    . next hbracket =>
      have hopen : c ≠ Frame.list.closing := hbracket
      split at h
      . next hfirst =>
        cases h
        rw [hfirst, Bool.not_true, proceed_of_open heq hopen, goOn_list, ← skipNested_skipSpace,
          heq]
      . next hfirst =>
        split at h
        . next hcomma =>
          rw [hcomma] at heq
          rw [eq_false_of_ne_true hfirst, Bool.not_false, proceed_of_comma heq, goOn_list]
          split at h
          . cases h
          . cases h
          . cases h
            rw [skipNested_skipSpace]
        . cases h

theorem proceed_of_nextElement_false (h : nextElement first cs = .ok (false, rest))
    (filled : Bool) : proceed filled (.list :: frames) cs = proceed true frames rest := by
  unfold nextElement at h
  split at h
  . cases h
  . next heq =>
    split at h
    . next hbracket =>
      cases h
      exact proceed_of_closing (heq.trans (by rw [hbracket]; rfl))
    . split at h
      . cases h
      . split at h
        . split at h <;> cases h
        . cases h

theorem proceed_of_endList (h : endList cs = .ok rest) (filled : Bool) :
    proceed filled (.list :: frames) cs = proceed true frames rest := by
  unfold endList at h
  split at h
  . cases h
  . next heq =>
    split at h
    . next hbracket =>
      cases h
      exact proceed_of_closing (heq.trans (by rw [hbracket]; rfl))
    . split at h
      . split at h <;> cases h
      . cases h

end Elements

namespace Schema

variable {α : Type} {schema : Schema α} {a b : α}

/--
Whether every field is read to the end of its value.
-/
def IsExact (schema : Schema α) : Prop :=
  ∀ ⦃field : String⦄ ⦃a b : α⦄ ⦃cs rest : List Char⦄,
    schema.readField field a cs = .ok (b, rest) → skipValue cs = .ok rest

theorem proceed_of_readMembers (hexact : schema.IsExact) {first : Bool} {seen : List String}
    (h : schema.readMembers first seen a cs = .ok (b, rest)) :
    proceed (!first) [.object] cs = .ok rest := by
  fun_induction readMembers schema first seen a cs with
  | case1 => cases h
  | case2 first seen a cs r hkey =>
    cases h
    exact proceed_of_nextKey_none hkey _
  | case3 => cases h
  | case4 => cases h
  | case5 => cases h
  | case6 first seen a cs key r hkey _ _ r' hcolon b' r'' hvalue _ ih =>
    rw [proceed_of_nextKey hkey, hcolon]
    exact (skipNested_within (hexact hvalue) [.object]).trans (ih h)
  | case7 => cases h
  | case8 => cases h
  | case9 first seen a cs key r hkey _ r' hcolon r'' hvalue _ ih =>
    rw [proceed_of_nextKey hkey, hcolon]
    exact (skipNested_within hvalue [.object]).trans (ih h)

theorem proceed_of_readElements (hexact : schema.IsExact) {count : Nat} {fields : List String}
    (h : schema.readElements count a fields cs = .ok (b, rest)) :
    proceed (!(count == 0)) [.list] cs = .ok rest := by
  induction fields generalizing count a cs with
  | nil =>
    obtain ⟨r, hend, h⟩ := map_eq_ok_iff.1 h
    cases h
    exact proceed_of_endList hend _
  | cons field fields ih =>
    unfold readElements at h
    split at h
    . cases h
    . next hnext =>
      split at h
      . cases h
      . cases h
        exact proceed_of_nextElement_false hnext _
    . next hnext =>
      split at h
      . cases h
      . next hfield =>
        rw [proceed_of_nextElement hnext]
        exact (skipNested_within (hexact hfield) [.list]).trans (ih h)

theorem skipValue_of_read (hexact : schema.IsExact) (h : schema.read cs = .ok (a, rest)) :
    skipValue cs = .ok rest := by
  unfold skipValue
  rw [← skipNested_skipSpace]
  unfold read at h
  split at h
  . next heq =>
    rw [heq, skipNested_object]
    exact proceed_of_readMembers hexact h
  . next heq =>
    rw [heq, skipNested_list]
    exact proceed_of_readElements hexact h
  . cases h

end Schema

end Workday.Json
