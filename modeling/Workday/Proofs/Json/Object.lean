import Mathlib.Data.List.Nodup
import Workday.Proofs.Json.Agreement

/-!
This module contains the reading of objects as records. The members may come in any order and with
any white space, and beside members that are no fields of the record; no field may come twice.
-/

namespace Workday.Json

variable {first : Bool} {name : String} {member : Member} {members : List Member}
variable {gap key before after cs rest value : List Char}

section Values

theorem mem_values : value ∈ values name members ↔ (name, value) ∈ members := by
  simp [values]

theorem length_values (name : String) (members : List Member) :
    (values name members).length = (members.map Prod.fst).count name := by
  rw [values, List.length_map, List.count, List.countP_map, List.countP_eq_length_filter]
  rfl

end Values

section Fields

variable {default text : String} {others : List Member}

/--
What the members of an object say of a field that holds a text: the text of the only member with its
name, or the default if there is none.
-/
def GivesText (members : List Member) (name default text : String) : Prop :=
  values name members = [] ∧ text = default ∨
    ∃ value, values name members = [value] ∧ IsText value text

def known (names : List String) (members : List Member) : List Member :=
  members.filter (·.1 ∈ names)

theorem values_known {names : List String} (h : name ∈ names) (members : List Member) :
    values name (known names members) = values name members := by
  unfold values known
  rw [List.filter_filter]
  congr 2
  ext member
  simp only [Bool.and_eq_left_iff_imp, beq_iff_eq, decide_eq_true_eq]
  rintro rfl
  exact h

theorem values_perm {names : List String} (h : (known names members).Perm (known names others))
    (hname : name ∈ names) : (values name members).Perm (values name others) := by
  rw [← values_known hname members, ← values_known hname others]
  exact (h.filter _).map _

theorem GivesText.perm (hgives : GivesText members name default text)
    (h : (values name members).Perm (values name others)) : GivesText others name default text := by
  obtain ⟨hnone, htext⟩ | ⟨value, hone, htext⟩ := hgives
  . rw [hnone, List.nil_perm] at h
    exact .inl ⟨h, htext⟩
  . rw [hone, List.singleton_perm] at h
    exact .inr ⟨value, h.symm, htext⟩

theorem GivesText.length_le (h : GivesText members name default text) :
    (values name members).length ≤ 1 := by
  obtain ⟨hnone, _⟩ | ⟨value, hone, _⟩ := h
  . rw [hnone]
    exact Nat.zero_le 1
  . rw [hone]
    exact Nat.le_refl 1

theorem GivesText.isText {value : List Char} (h : GivesText members name default text)
    (hmem : (name, value) ∈ members) : IsText value text := by
  rw [← mem_values] at hmem
  obtain ⟨hnone, _⟩ | ⟨only, hone, htext⟩ := h
  . rw [hnone] at hmem
    cases hmem
  . rw [hone, List.mem_singleton] at hmem
    rwa [hmem]

end Fields

/--
What stands between two keys: nothing before the first, and a comma behind the value before each
other one.
-/
inductive IsGap : Bool → List Char → Prop where
  | start : IsGap true []
  | comma {after : List Char} (h : IsBlank after) : IsGap false (after ++ [','])

theorem nextKey_of_isKey (hgap : IsGap first gap) (hkey : IsKey (Spells · name.toList) key)
    (rest : List Char) :
    ∃ colon, nextKey first (gap ++ (key ++ rest)) = .ok (some name, colon) ∧
      skipColon colon = .ok rest := by
  obtain ⟨hbefore, hbody, hbetween⟩ := hkey
  refine ⟨_, ?_, skipColon_append hbetween rest⟩
  simp only [List.append_assoc, List.cons_append, List.nil_append]
  have hstart := skipSpace_append_cons hbefore (rfl : isSpace '"' = false)
  have hread := readText_append hbody
  cases hgap with
  | start => rw [List.nil_append, nextKey_of_first (hstart _) (hread _), String.ofList_toList]
  | comma h =>
    rw [List.append_assoc, List.singleton_append]
    rw [nextKey_of_comma (skipSpace_append_cons h rfl _) (hstart _) (hread _), String.ofList_toList]

section Unambiguous

variable {members' : List Member} {cs' : List Char}

theorem not_isSpace_of_mem {c : Char} (h : c ∈ [',', ']', '}']) : isSpace c = false := by
  have hending : ∀ d ∈ [',', ']', '}'], isSpace d = false := forall_ending.2 ⟨rfl, rfl, rfl⟩
  exact hending c h

/--
A text that starts with a member, as the functions that read it take it apart.
-/
def StartsWith (member : Member) (cs ending : List Char) : Prop :=
  ∃ colon inner tail, nextKey true cs = .ok (some member.1, colon) ∧ skipColon colon = .ok inner ∧
    skipSpace inner = member.2 ++ tail ∧ skipValue inner = .ok tail ∧ skipSpace tail = ending

theorem startsWith_append {c : Char} (hkey : IsKey (Spells · name.toList) key)
    (hbefore : IsBlank before) (hvalue : IsValue value) (hafter : IsBlank after)
    (hc : c ∈ [',', ']', '}']) (rest : List Char) :
    StartsWith (name, value) (key ++ (before ++ (value ++ (after ++ c :: rest)))) (c :: rest) := by
  obtain ⟨colon, hnext, hcolon⟩ := nextKey_of_isKey .start hkey
    (before ++ (value ++ (after ++ c :: rest)))
  refine ⟨colon, _, after ++ c :: rest, hnext, hcolon, ?_,
    skipValue_append hbefore hvalue hafter hc rest,
    skipSpace_append_cons hafter (not_isSpace_of_mem hc) rest⟩
  obtain ⟨d, ds, rfl, hspace, _⟩ := head_of_isValue hvalue
  exact skipSpace_append_cons hbefore hspace _

theorem StartsWith.unique {member member' : Member} {ending ending' : List Char}
    (h : StartsWith member cs ending) (h' : StartsWith member' cs ending') :
    member = member' ∧ ending = ending' := by
  obtain ⟨name, value⟩ := member
  obtain ⟨name', value'⟩ := member'
  obtain ⟨colon, inner, tail, hnext, hcolon, hspace, hskip, hending⟩ := h
  obtain ⟨colon', inner', tail', hnext', hcolon', hspace', hskip', hending'⟩ := h'
  cases hnext.symm.trans hnext'
  cases hcolon.symm.trans hcolon'
  cases hskip.symm.trans hskip'
  have hvalue : value = value' := List.append_cancel_right (hspace.symm.trans hspace')
  exact ⟨by rw [hvalue], hending.symm.trans hending'⟩

theorem IsMembers.startsWith (h : IsMembers members cs) (rest : List Char) :
    ∃ member others ending, members = member :: others ∧
      StartsWith member (cs ++ '}' :: rest) ending ∧
      (others = [] ∧ ending = '}' :: rest ∨
        ∃ more, IsMembers others more ∧ ending = ',' :: (more ++ '}' :: rest)) := by
  cases h with
  | last hkey hbefore hvalue hafter =>
    simp only [List.append_assoc]
    exact ⟨_, _, _, rfl, startsWith_append hkey hbefore hvalue hafter (by simp) _, .inl ⟨rfl, rfl⟩⟩
  | cons hkey hbefore hvalue hafter hmore =>
    simp only [List.append_assoc, List.cons_append]
    exact ⟨_, _, _, rfl, startsWith_append hkey hbefore hvalue hafter (by simp) _,
      .inr ⟨_, hmore, rfl⟩⟩

/--
The members of an object are determined by its text.
-/
theorem IsMembers.unique {rest rest' : List Char} (h : IsMembers members cs)
    (h' : IsMembers members' cs') (heq : cs ++ '}' :: rest = cs' ++ '}' :: rest') :
    members = members' := by
  induction members generalizing cs members' cs' with
  | nil => cases h
  | cons first members ih =>
    obtain ⟨member, others, ending, hmembers, hstart, hrest⟩ := h.startsWith rest
    obtain ⟨member', others', ending', hmembers', hstart', hrest'⟩ := h'.startsWith rest'
    cases hmembers
    rw [heq] at hstart
    obtain ⟨rfl, hending⟩ := hstart.unique hstart'
    rw [hmembers']
    congr 1
    obtain ⟨rfl, rfl⟩ | ⟨more, hmore, rfl⟩ := hrest <;>
      obtain ⟨rfl, rfl⟩ | ⟨more', hmore', rfl⟩ := hrest'
    . rfl
    . cases hending
    . cases hending
    . exact ih hmore hmore' (List.cons.inj hending).2

theorem IsObject.unique (h : IsObject members cs) (h' : IsObject members' cs) :
    members = members' := by
  cases h with
  | empty h =>
    generalize heq : '{' :: (_ ++ ['}']) = object at h'
    cases h' with
    | empty => rfl
    | filled h' =>
      obtain ⟨ds, hstart⟩ := skipSpace_members h'.isPart ['}']
      rw [← (List.cons.inj heq).2, skipSpace_append_cons h rfl] at hstart
      cases hstart
  | filled h =>
    generalize heq : '{' :: (_ ++ ['}']) = object at h'
    cases h' with
    | empty h' =>
      obtain ⟨ds, hstart⟩ := skipSpace_members h.isPart ['}']
      rw [(List.cons.inj heq).2, skipSpace_append_cons h' rfl] at hstart
      cases hstart
    | filled h' => exact h.unique h' (List.cons.inj heq).2

end Unambiguous

namespace Schema

variable {α : Type} {schema : Schema α} {seen : List String} {a b : α}

def keys (schema : Schema α) (members : List Member) : List String :=
  (members.map Prod.fst).filter (· ∈ schema.fields)

theorem mem_keys : name ∈ schema.keys members ↔
    name ∈ schema.fields ∧ ∃ value, value ∈ values name members := by
  simp [keys, mem_values, and_comm]

theorem keys_cons (member : Member) (members : List Member) :
    schema.keys (member :: members) = schema.keys [member] ++ schema.keys members := by
  rw [keys, List.map_cons, ← List.singleton_append, List.filter_append]
  rfl

theorem keys_known (h : name ∈ schema.fields) (value : List Char) (members : List Member) :
    schema.keys ((name, value) :: members) = name :: schema.keys members := by
  rw [keys, List.map_cons, List.filter_cons_of_pos (by simpa using h)]
  rfl

theorem keys_unknown (h : name ∉ schema.fields) (value : List Char) (members : List Member) :
    schema.keys ((name, value) :: members) = schema.keys members := by
  rw [keys, List.map_cons, List.filter_cons_of_neg (by simpa using h)]
  rfl

theorem nodup_keys_cons (hnodup : (schema.keys members).Nodup)
    (hkeys : ∀ key ∈ schema.keys members, key ∉ schema.keys [(name, value)] ++ seen)
    (hname : name ∈ schema.fields → name ∉ seen) :
    (schema.keys ((name, value) :: members)).Nodup ∧
      ∀ key ∈ schema.keys ((name, value) :: members), key ∉ seen := by
  have hseen : ∀ key ∈ schema.keys members, key ∉ seen :=
    fun key hkey h => hkeys key hkey (List.mem_append_right _ h)
  by_cases hfield : name ∈ schema.fields
  . rw [keys_known hfield, List.nodup_cons, List.forall_mem_cons]
    refine ⟨⟨fun h => hkeys name h ?_, hnodup⟩, hname hfield, hseen⟩
    rw [keys_known hfield]
    exact List.mem_cons_self
  . rw [keys_unknown hfield]
    exact ⟨hnodup, hseen⟩

theorem nodup_keys : (schema.keys members).Nodup ↔
    ∀ field ∈ schema.fields, (values field members).length ≤ 1 := by
  rw [List.nodup_iff_count_le_one, keys]
  simp only [length_values]
  constructor
  . intro h field hfield
    have := h field
    rwa [List.count_filter (by simpa using hfield)] at this
  . intro h field
    by_cases hfield : field ∈ schema.fields
    . rw [List.count_filter (by simpa using hfield)]
      exact h field hfield
    . rw [List.count_eq_zero_of_not_mem (by simp [hfield])]
      exact Nat.zero_le 1

section Steps

variable (hgap : IsGap first gap) (hkey : IsKey (Spells · name.toList) key)

include hgap hkey

theorem readMembers_known (hname : name ∈ schema.fields) (cs : List Char) :
    ∃ colon, schema.readMembers first seen a (gap ++ (key ++ cs)) =
      if name ∈ seen then .error (duplicateKey name colon)
      else (schema.readField name a cs).bind fun found =>
        schema.readMembers false (name :: seen) found.1 found.2 := by
  obtain ⟨colon, hnext, hcolon⟩ := nextKey_of_isKey hgap hkey cs
  exact ⟨colon, readMembers_field hnext hname hcolon⟩

theorem readMembers_unknown (hname : name ∉ schema.fields) (hvalue : skipValue cs = .ok rest) :
    schema.readMembers first seen a (gap ++ (key ++ cs)) =
      schema.readMembers false seen a rest := by
  obtain ⟨colon, hnext, hcolon⟩ := nextKey_of_isKey hgap hkey cs
  exact readMembers_of_unknown hnext hname hcolon hvalue

end Steps

theorem readMembers_brace (h : IsBlank after) (first : Bool) (seen : List String) (a : α)
    (rest : List Char) :
    schema.readMembers first seen a (after ++ '}' :: rest) = .ok (a, rest) :=
  readMembers_of_end (nextKey_of_brace (skipSpace_append_cons h rfl rest))

/--
The value of a field is read, and the record is changed by `set`, whatever follows.
-/
def Sets (schema : Schema α) (set : String → α → α) (member : Member) : Prop :=
  ∀ (a : α) (before rest : List Char), IsBlank before →
    schema.readField member.1 a (before ++ (member.2 ++ rest)) = .ok (set member.1 a, rest)

/--
The value of a field is read in some place.
-/
def Accepts (schema : Schema α) (member : Member) : Prop :=
  ∃ (a b : α) (before rest after : List Char), IsBlank before ∧
    schema.readField member.1 a (before ++ (member.2 ++ rest)) = .ok (b, after)

section Members

variable {set : String → α → α} {c : Char}

section Step

variable (hgap : IsGap first gap) (hkey : IsKey (Spells · name.toList) key)
variable (hbefore : IsBlank before) (hvalue : IsValue value) (hafter : IsBlank after)
variable (hc : c ∈ [',', ']', '}'])

include hgap hkey hbefore hvalue hafter hc

theorem readMembers_step (hseen : name ∈ schema.fields → name ∉ seen)
    (hset : name ∈ schema.fields → schema.Sets set (name, value)) (rest : List Char) :
    schema.readMembers first seen a
        (gap ++ (key ++ (before ++ (value ++ (after ++ c :: rest))))) =
      schema.readMembers false (schema.keys [(name, value)] ++ seen)
        ((schema.keys [(name, value)]).foldl (fun a key => set key a) a) (after ++ c :: rest) := by
  by_cases hname : name ∈ schema.fields
  . obtain ⟨colon, hread⟩ := readMembers_known hgap hkey hname _
    rw [hread, if_neg (hseen hname), hset hname a before _ hbefore, keys_known hname]
    rfl
  . rw [readMembers_unknown hgap hkey hname (skipValue_append hbefore hvalue hafter hc rest),
      keys_unknown hname]
    rfl

theorem readMembers_step_inv (hexact : schema.IsExact) {outcome : α × List Char}
    (h : schema.readMembers first seen a
      (gap ++ (key ++ (before ++ (value ++ (after ++ c :: rest))))) = .ok outcome) :
    (name ∈ schema.fields → name ∉ seen ∧ schema.Accepts (name, value)) ∧
      ∃ next, schema.readMembers false (schema.keys [(name, value)] ++ seen) next
        (after ++ c :: rest) = .ok outcome := by
  have hskip := skipValue_append hbefore hvalue hafter hc rest
  by_cases hname : name ∈ schema.fields
  . obtain ⟨colon, hread⟩ := readMembers_known hgap hkey hname _
    rw [hread] at h
    rw [keys_known hname]
    split at h
    . cases h
    . next hseen =>
      obtain ⟨⟨b, r⟩, hfield, h⟩ := bind_eq_ok_iff.1 h
      -- The field is read to the end of its value, so that the next member is read from there.
      cases (hexact hfield).symm.trans hskip
      exact ⟨fun _ => ⟨hseen, a, b, before, _, _, hbefore, hfield⟩, b, h⟩
  . rw [readMembers_unknown hgap hkey hname hskip] at h
    rw [keys_unknown hname]
    exact ⟨fun h => absurd h hname, a, h⟩

end Step

theorem readMembers_of_isMembers (h : IsMembers members cs) (hgap : IsGap first gap)
    (hnodup : (schema.keys members).Nodup) (hseen : ∀ key ∈ schema.keys members, key ∉ seen)
    (hset : ∀ member ∈ members, member.1 ∈ schema.fields → schema.Sets set member)
    (rest : List Char) :
    schema.readMembers first seen a (gap ++ (cs ++ '}' :: rest)) =
      .ok ((schema.keys members).foldl (fun a key => set key a) a, rest) := by
  induction h generalizing first gap seen a with
  | last hkey hbefore hvalue hafter =>
    simp only [List.append_assoc]
    rw [readMembers_step hgap hkey hbefore hvalue hafter (by simp) _ (hset _ List.mem_cons_self)]
    . exact readMembers_brace hafter _ _ _ _
    . exact fun hname => hseen _ (by rw [keys_known hname]; exact List.mem_cons_self)
  | cons hkey hbefore hvalue hafter _ ih =>
    rw [keys_cons] at hnodup hseen ⊢
    rw [List.nodup_append] at hnodup
    simp only [List.append_assoc, List.cons_append]
    rw [readMembers_step hgap hkey hbefore hvalue hafter (by simp) _ (hset _ List.mem_cons_self)]
    . rw [List.foldl_append, List.append_cons]
      apply ih (.comma hafter) hnodup.2.1
      . intro key hmem
        rw [List.mem_append, not_or]
        exact ⟨fun h => hnodup.2.2 _ h _ hmem rfl, hseen key (List.mem_append_right _ hmem)⟩
      . exact fun member hmem => hset member (List.mem_cons_of_mem _ hmem)
    . intro hname
      apply hseen
      rw [keys_known hname]
      exact List.mem_cons_self

theorem of_readMembers (h : IsMembers members cs) (hexact : schema.IsExact)
    (hgap : IsGap first gap) {outcome : α × List Char}
    (hread : schema.readMembers first seen a (gap ++ (cs ++ '}' :: rest)) = .ok outcome) :
    (schema.keys members).Nodup ∧ (∀ key ∈ schema.keys members, key ∉ seen) ∧
      ∀ member ∈ members, member.1 ∈ schema.fields → schema.Accepts member := by
  induction h generalizing first gap seen a with
  | last hkey hbefore hvalue hafter =>
    simp only [List.append_assoc] at hread
    obtain ⟨hmember, _⟩ :=
      readMembers_step_inv hgap hkey hbefore hvalue hafter (by simp) hexact hread
    rw [← and_assoc]
    constructor
    . exact nodup_keys_cons List.nodup_nil (List.forall_mem_nil _) fun h => (hmember h).1
    . rw [List.forall_mem_singleton]
      exact fun h => (hmember h).2
  | cons hkey hbefore hvalue hafter _ ih =>
    simp only [List.append_assoc, List.cons_append] at hread
    obtain ⟨hmember, next, hread⟩ :=
      readMembers_step_inv hgap hkey hbefore hvalue hafter (by simp) hexact hread
    rw [List.append_cons] at hread
    obtain ⟨hnodup, hkeys, haccepts⟩ := ih (.comma hafter) hread
    rw [← and_assoc]
    constructor
    . exact nodup_keys_cons hnodup hkeys fun h => (hmember h).1
    . rw [List.forall_mem_cons]
      exact ⟨fun h => (hmember h).2, haccepts⟩

section Objects

variable {object : List Char}

theorem read_of_isObject (h : IsObject members object)
    (hsingle : ∀ field ∈ schema.fields, (values field members).length ≤ 1)
    (hset : ∀ member ∈ members, member.1 ∈ schema.fields → schema.Sets set member)
    (hbefore : IsBlank before) (rest : List Char) :
    schema.read (before ++ (object ++ rest)) =
      .ok ((schema.keys members).foldl (fun a key => set key a) schema.blank, rest) := by
  cases h with
  | empty h =>
    unfold read
    rw [List.cons_append, skipSpace_append_cons hbefore rfl, List.append_assoc]
    exact readMembers_brace h _ _ _ _
  | filled h =>
    unfold read
    rw [List.cons_append, skipSpace_append_cons hbefore rfl, List.append_assoc]
    apply readMembers_of_isMembers h .start (nodup_keys.2 hsingle) _ hset
    exact fun _ _ => List.not_mem_nil

/--
Reading an object fails unless every field comes once at most and has a value that is read.
-/
theorem of_read (h : IsObject members object) (hexact : schema.IsExact) (hbefore : IsBlank before)
    {outcome : α × List Char} (hread : schema.read (before ++ (object ++ rest)) = .ok outcome) :
    (∀ field ∈ schema.fields, (values field members).length ≤ 1) ∧
      ∀ field ∈ schema.fields, ∀ value ∈ values field members, schema.Accepts (field, value) := by
  cases h with
  | empty h => exact ⟨fun _ _ => Nat.zero_le 1, fun _ _ => List.forall_mem_nil _⟩
  | filled h =>
    unfold read at hread
    rw [List.cons_append, skipSpace_append_cons hbefore rfl, List.append_assoc] at hread
    obtain ⟨hnodup, _, haccepts⟩ := of_readMembers h hexact .start hread
    exact ⟨nodup_keys.1 hnodup,
      fun field hfield value hvalue => haccepts _ (mem_values.1 hvalue) hfield⟩

end Objects

end Members

end Schema

end Workday.Json
