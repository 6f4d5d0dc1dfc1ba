import Workday.Json.Record
import Workday.Proofs.Json.Text

/-!
This module contains the steps in which an object is read: a key behind what separates it from the
member before, the value of a field, and the brace at the end.
-/

namespace Workday.Json

section Keys

variable {cs rest more text after : List Char}

theorem readKey_of_readText (htext : readText rest = .ok (text, after)) :
    readKey ('"' :: rest) = .ok (String.ofList text, after) := by
  unfold readKey
  dsimp only
  rw [if_pos rfl, htext]
  rfl

theorem nextKey_of_brace {first : Bool} (h : skipSpace cs = '}' :: rest) :
    nextKey first cs = .ok (none, rest) := by
  unfold nextKey
  rw [h]
  rfl

theorem nextKey_of_first (h : skipSpace cs = '"' :: rest) (htext : readText rest = .ok (text, after)) :
    nextKey true cs = .ok (some (String.ofList text), after) := by
  unfold nextKey
  rw [h]
  dsimp only
  rw [if_neg (by decide), if_pos rfl, readKey_of_readText htext]
  rfl

theorem nextKey_of_comma (h : skipSpace cs = ',' :: more) (hmore : skipSpace more = '"' :: rest)
    (htext : readText rest = .ok (text, after)) :
    nextKey false cs = .ok (some (String.ofList text), after) := by
  unfold nextKey
  rw [h]
  dsimp only
  rw [if_neg (by decide), if_neg (by decide), if_pos rfl, hmore]
  change (readKey ('"' :: rest)).map _ = _
  rw [readKey_of_readText htext]
  rfl

theorem skipColon_of_colon (h : skipSpace cs = ':' :: rest) : skipColon cs = .ok rest := by
  unfold skipColon
  rw [h]
  rfl

end Keys

namespace Schema

variable {α : Type} {schema : Schema α} {first : Bool} {seen : List String} {a b : α}
variable {cs rest value after : List Char} {key : String}

theorem readMembers_of_end (h : nextKey first cs = .ok (none, rest)) :
    schema.readMembers first seen a cs = .ok (a, rest) := by
  rw [readMembers]
  split
  . next heq => cases h.symm.trans heq
  . next heq => cases h.symm.trans heq; rfl
  . next heq => cases h.symm.trans heq

theorem readMembers_field (h : nextKey first cs = .ok (some key, rest)) (hkey : key ∈ schema.fields)
    (hcolon : skipColon rest = .ok value) :
    schema.readMembers first seen a cs =
      if key ∈ seen then .error (duplicateKey key rest)
      else (schema.readField key a value).bind fun found =>
        schema.readMembers false (key :: seen) found.1 found.2 := by
  rw [readMembers]
  split
  . next heq => cases h.symm.trans heq
  . next heq => cases h.symm.trans heq
  . next heq =>
    cases h.symm.trans heq
    rw [if_pos hkey]
    split
    . rfl
    . split
      . next heq => cases hcolon.symm.trans heq
      . next heq =>
        cases hcolon.symm.trans heq
        split
        . next heq => rw [heq]; rfl
        . next heq => dsimp only; rw [heq]; rfl

theorem readMembers_of_field (h : nextKey first cs = .ok (some key, rest)) (hkey : key ∈ schema.fields)
    (hseen : key ∉ seen) (hcolon : skipColon rest = .ok value)
    (hvalue : schema.readField key a value = .ok (b, after)) :
    schema.readMembers first seen a cs = schema.readMembers false (key :: seen) b after := by
  rw [readMembers_field h hkey hcolon, if_neg hseen, hvalue]
  rfl

theorem readMembers_of_unknown (h : nextKey first cs = .ok (some key, rest))
    (hkey : key ∉ schema.fields) (hcolon : skipColon rest = .ok value)
    (hvalue : skipValue value = .ok after) :
    schema.readMembers first seen a cs = schema.readMembers false seen a after := by
  rw [readMembers]
  split
  . next heq => cases h.symm.trans heq
  . next heq => cases h.symm.trans heq
  . next heq =>
    cases h.symm.trans heq
    rw [if_neg hkey]
    split
    . next heq => cases hcolon.symm.trans heq
    . next heq =>
      cases hcolon.symm.trans heq
      split
      . next heq => cases hvalue.symm.trans heq
      . next heq => cases hvalue.symm.trans heq; rfl

end Schema

end Workday.Json
