import Workday.Json.Kind

/-!
This module contains the reading of records. A record is written as an object, whose members may
come in any order and beside others that are passed over, or as a list of its fields in order.
-/

namespace Workday.Json

/--
A kind of record: the names of its fields, how many of them a list has to have, the record that has
nothing set, and the reading of the value of a field.
-/
structure Schema (α : Type) where
  name : String
  fields : List String
  required : Nat
  blank : α
  readField : String → α → Reader α
  length_lt {field : String} {a b : α} {cs rest : List Char} :
    readField field a cs = .ok (b, rest) → rest.length < cs.length

def readKey : Reader String
  | [] => .error (.here .endOfValue [])
  | c :: rest =>
    if c = '"' then (readText rest).map fun (key, rest) => (String.ofList key, rest)
    else .error (.next .keyNotText (c :: rest))

/--
Read the key of the next member, or the brace that ends the object. `first` is whether no member
has been read yet.
-/
def nextKey (first : Bool) (cs : List Char) : Except Fault (Option String × List Char) :=
  match skipSpace cs with
  | [] => .error (.here .endOfObject [])
  | c :: rest =>
    if c = '}' then .ok (none, rest)
    else if first then (readKey (c :: rest)).map fun (key, rest) => (some key, rest)
    else if c = ',' then
      match skipSpace rest with
      | '}' :: rest => .error (.next .trailingComma ('}' :: rest))
      | cs => (readKey cs).map fun (key, rest) => (some key, rest)
    else .error (.next .expectedCommaOrBrace (c :: rest))

/--
Go to the next element of a list, or behind the bracket that ends it.
-/
def nextElement (first : Bool) (cs : List Char) : Except Fault (Bool × List Char) :=
  match skipSpace cs with
  | [] => .error (.here .endOfList [])
  | c :: rest =>
    if c = ']' then .ok (false, rest)
    else if first then .ok (true, c :: rest)
    else if c = ',' then
      match skipSpace rest with
      | [] => .error (.here .endOfValue [])
      | ']' :: rest => .error (.next .trailingComma (']' :: rest))
      | cs => .ok (true, cs)
    else .error (.next .expectedCommaOrBracket (c :: rest))

def endList (cs : List Char) : Except Fault (List Char) :=
  match skipSpace cs with
  | [] => .error (.here .endOfList [])
  | c :: rest =>
    if c = ']' then .ok rest
    else if c = ',' then
      match skipSpace rest with
      | ']' :: rest => .error (.next .trailingComma (']' :: rest))
      | cs => .error (.next .trailingCharacters cs)
    else .error (.next .trailingCharacters (c :: rest))

/--
What is wrong with a key that occurs again. It is reported behind the white space after the key, and
behind the brace that ends the object if it follows.
-/
def duplicateKey (key : String) (cs : List Char) : Fault :=
  match skipSpace cs with
  | '}' :: rest => .here (.duplicateField key) rest
  | cs => .here (.duplicateField key) cs

theorem length_lt_of_readKey {cs rest : List Char} {key : String}
    (h : readKey cs = .ok (key, rest)) : rest.length < cs.length := by
  unfold readKey at h
  split at h
  . simp at h
  . rename_i c r
    split at h
    . obtain ⟨⟨key, r⟩, hr, h⟩ := map_eq_ok_iff.1 h
      have := length_lt_of_readText hr
      simp only [← (Prod.mk.inj h).2, List.length_cons]
      omega
    . simp at h

theorem length_lt_of_nextKey {first : Bool} {cs rest : List Char} {key : Option String}
    (h : nextKey first cs = .ok (key, rest)) : rest.length < cs.length := by
  have lt : ∀ {ds : List Char},
      (readKey ds).map (fun (key, rest) => (some key, rest)) = .ok (key, rest) →
        rest.length < ds.length := by
    intro ds hd
    obtain ⟨⟨key, r⟩, hr, hd⟩ := map_eq_ok_iff.1 hd
    rw [← (Prod.mk.inj hd).2]
    exact length_lt_of_readKey hr
  have := length_skipSpace_le cs
  unfold nextKey at h
  split at h
  . simp at h
  . rename_i c r heq
    rw [heq, List.length_cons] at this
    have := length_skipSpace_le r
    split at h
    . simp only [Except.ok.injEq, Prod.mk.injEq] at h
      rw [← h.2]
      omega
    . split at h
      . have := lt h
        rw [List.length_cons] at this
        omega
      . split at h
        . split at h
          . simp at h
          . have := lt h
            omega
        . simp at h

theorem length_le_of_nextElement {first more : Bool} {cs rest : List Char}
    (h : nextElement first cs = .ok (more, rest)) : rest.length ≤ cs.length := by
  have := length_skipSpace_le cs
  unfold nextElement at h
  split at h
  . simp at h
  . rename_i c r heq
    rw [heq, List.length_cons] at this
    have := length_skipSpace_le r
    split at h
    . simp only [Except.ok.injEq, Prod.mk.injEq] at h
      rw [← h.2]
      omega
    . split at h
      . simp only [Except.ok.injEq, Prod.mk.injEq] at h
        rw [← h.2, List.length_cons]
        omega
      . split at h
        . split at h
          . simp at h
          . simp at h
          . simp only [Except.ok.injEq, Prod.mk.injEq] at h
            rw [← h.2]
            omega
        . simp at h

theorem length_le_of_endList {cs rest : List Char} (h : endList cs = .ok rest) :
    rest.length ≤ cs.length := by
  have := length_skipSpace_le cs
  unfold endList at h
  split at h
  . simp at h
  . rename_i c r heq
    rw [heq, List.length_cons] at this
    split at h
    . simp only [Except.ok.injEq] at h
      rw [← h]
      omega
    . split at h
      . split at h
        . simp at h
        . simp at h
      . simp at h

theorem length_lt_of_skipNested {frames : List Frame} {cs rest : List Char}
    (h : skipNested frames cs = .ok rest) : rest.length < cs.length := by
  fun_induction skipNested frames cs with
  | case1 => simp at h
  | case2 => simp at h
  | case3 frames cs opened r hl r' hc =>
    have := length_skipSpace_le cs
    have := length_lt_of_skipLead hl
    have := length_le_of_skipClosing hc
    simp only [Except.ok.injEq] at h
    rw [← h]
    omega
  | case4 => simp at h
  | case5 frames cs opened r hl frame frames' r' hc r'' hk hlt ih =>
    have := ih h
    omega

namespace Schema

variable {α : Type}

/--
Read the members of an object up to and with its closing brace. `seen` are the fields read so far.
-/
def readMembers (schema : Schema α) (first : Bool) (seen : List String) (a : α) (cs : List Char) :
    Except Fault (α × List Char) :=
  match hk : nextKey first cs with
  | .error fault => .error fault
  | .ok (none, rest) => .ok (a, rest)
  | .ok (some key, rest) =>
    if key ∈ schema.fields then
      if key ∈ seen then
        .error (duplicateKey key rest)
      else
        match hc : skipColon rest with
        | .error fault => .error fault
        | .ok rest' =>
          match hv : schema.readField key a rest' with
          | .error fault => .error fault
          | .ok (b, rest'') =>
            have : rest''.length < cs.length := by
              have := length_lt_of_nextKey hk
              have := length_lt_of_skipColon hc
              have := schema.length_lt hv
              omega
            readMembers schema false (key :: seen) b rest''
    else
      match hc : skipColon rest with
      | .error fault => .error fault
      | .ok rest' =>
        match hv : skipValue rest' with
        | .error fault => .error fault
        | .ok rest'' =>
          have : rest''.length < cs.length := by
            have := length_lt_of_nextKey hk
            have := length_lt_of_skipColon hc
            have := length_lt_of_skipNested hv
            omega
          readMembers schema false seen a rest''
termination_by cs.length

def expectedLength (schema : Schema α) : String :=
  schema.name ++ " with " ++ toString schema.required ++
    (if schema.required = 1 then " element" else " elements")

/--
Read the elements of a list up to and with its closing bracket, the first of them for the first of
the given fields. `count` is the number of fields read so far.
-/
def readElements (schema : Schema α) (count : Nat) (a : α) :
    List String → List Char → Except Fault (α × List Char)
  | [], cs => (endList cs).map (a, ·)
  | field :: fields, cs =>
    match nextElement (count == 0) cs with
    | .error fault => .error fault
    | .ok (false, rest) =>
      if count < schema.required then
        .error (.here (.invalidLength count schema.expectedLength) rest)
      else
        .ok (a, rest)
    | .ok (true, rest) =>
      match schema.readField field a rest with
      | .error fault => .error fault
      | .ok (b, rest) => readElements schema (count + 1) b fields rest
def read (schema : Schema α) (cs : List Char) : Except Fault (α × List Char) :=
  match skipSpace cs with
  | '{' :: rest => schema.readMembers true [] schema.blank rest
  | '[' :: rest => schema.readElements 0 schema.blank schema.fields rest
  | cs => .error (wrongKind schema.name cs)

theorem length_lt_of_readMembers {schema : Schema α} {first : Bool} {seen : List String} {a b : α}
    {cs rest : List Char} (h : schema.readMembers first seen a cs = .ok (b, rest)) :
    rest.length < cs.length := by
  fun_induction readMembers schema first seen a cs with
  | case1 => simp at h
  | case2 first seen a cs r hk =>
    simp only [Except.ok.injEq, Prod.mk.injEq] at h
    rw [← h.2]
    exact length_lt_of_nextKey hk
  | case3 => simp at h
  | case4 => simp at h
  | case5 => simp at h
  | case6 _ _ _ _ _ _ _ _ _ _ _ _ _ _ _ ih =>
    have := ih h
    omega
  | case7 => simp at h
  | case8 => simp at h
  | case9 _ _ _ _ _ _ _ _ _ _ _ _ _ ih =>
    have := ih h
    omega

theorem length_le_of_readElements {schema : Schema α} {count : Nat} {a b : α}
    {fields : List String} {cs rest : List Char}
    (h : schema.readElements count a fields cs = .ok (b, rest)) : rest.length ≤ cs.length := by
  induction fields generalizing count a cs with
  | nil =>
    unfold readElements at h
    obtain ⟨r, hr, h⟩ := map_eq_ok_iff.1 h
    rw [← (Prod.mk.inj h).2]
    exact length_le_of_endList hr
  | cons field fields ih =>
    unfold readElements at h
    split at h
    . simp at h
    . rename_i hn
      have := length_le_of_nextElement hn
      split at h
      . simp at h
      . simp only [Except.ok.injEq, Prod.mk.injEq] at h
        rw [← h.2]
        omega
    . rename_i hn
      have := length_le_of_nextElement hn
      split at h
      . simp at h
      . rename_i hr
        have := schema.length_lt hr
        have := ih h
        omega

theorem length_lt_of_read {schema : Schema α} {a : α} {cs rest : List Char}
    (h : schema.read cs = .ok (a, rest)) : rest.length < cs.length := by
  have := length_skipSpace_le cs
  unfold read at h
  split at h
  . rename_i heq
    rw [heq, List.length_cons] at this
    have := length_lt_of_readMembers h
    omega
  . rename_i heq
    rw [heq, List.length_cons] at this
    have := length_le_of_readElements h
    omega
  . simp at h

end Schema

end Workday.Json
