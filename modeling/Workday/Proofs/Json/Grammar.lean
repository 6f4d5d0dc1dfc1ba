import Workday.Json.Value

/-!
This module contains the grammar of JSON texts, as predicates on characters: white space, strings
and the texts that they denote, numbers, values, which may hold other values, and objects with the
members that they have.
-/

namespace Workday.Json

open Text

def IsBlank (cs : List Char) : Prop :=
  ∀ c ∈ cs, c ∈ [' ', '\n', '\t', '\r']

section Strings

/--
A character that stands for itself in a string.
-/
structure IsPlain (c : Char) : Prop where
  ne_quote : c ≠ '"'
  ne_backslash : c ≠ '\\'
  le_toNat : 0x20 ≤ c.toNat

instance (c : Char) : Decidable (IsPlain c) :=
  decidable_of_iff (c ≠ '"' ∧ c ≠ '\\' ∧ 0x20 ≤ c.toNat)
    ⟨fun h => ⟨h.1, h.2.1, h.2.2⟩, fun h => ⟨h.ne_quote, h.ne_backslash, h.le_toNat⟩⟩

def escapeLetters : List (Char × Char) :=
  [('"', '"'), ('\\', '\\'), ('/', '/'), ('b', '\x08'), ('f', '\x0c'), ('n', '\n'), ('r', '\r'),
    ('t', '\t')]

def IsHexDigit (c : Char) (n : Nat) : Prop :=
  n < 16 ∧ (c = Nat.digitChar n ∨ c = (Nat.digitChar n).toUpper)

inductive IsHexWord : List Char → Nat → Prop where
  | intro {x y z w : Char} {a b c d : Nat} (hx : IsHexDigit x a) (hy : IsHexDigit y b)
    (hz : IsHexDigit z c) (hw : IsHexDigit w d) :
    IsHexWord [x, y, z, w] (((a * 16 + b) * 16 + c) * 16 + d)

/--
The characters between the quotes of a string, whether they denote a text or not: four digits may be
one half of a surrogate pair without the other.
-/
inductive IsBody : List Char → Prop where
  | nil : IsBody []
  | plain {c : Char} {cs : List Char} (hc : IsPlain c) (hrest : IsBody cs) : IsBody (c :: cs)
  | letter {c d : Char} {cs : List Char} (hc : (c, d) ∈ escapeLetters) (hrest : IsBody cs) :
    IsBody ('\\' :: c :: cs)
  | word {ds cs : List Char} {n : Nat} (hword : IsHexWord ds n) (hrest : IsBody cs) :
    IsBody ('\\' :: 'u' :: (ds ++ cs))

/--
The characters between the quotes of a string that denotes a text.
-/
inductive Spells : List Char → List Char → Prop where
  | nil : Spells [] []
  | plain {c : Char} {cs text : List Char} (hc : IsPlain c) (hrest : Spells cs text) :
    Spells (c :: cs) (c :: text)
  | letter {c d : Char} {cs text : List Char} (hc : (c, d) ∈ escapeLetters)
    (hrest : Spells cs text) : Spells ('\\' :: c :: cs) (d :: text)
  | word {ds cs text : List Char} {n : Nat} (hword : IsHexWord ds n)
    (hn : n < 0xd800 ∨ 0xdfff < n) (hrest : Spells cs text) :
    Spells ('\\' :: 'u' :: (ds ++ cs)) (Char.ofNat n :: text)
  | pair {ds es cs text : List Char} {high low : Nat} (hds : IsHexWord ds high)
    (hhigh : 0xd800 ≤ high ∧ high ≤ 0xdbff) (hes : IsHexWord es low)
    (hlow : 0xdc00 ≤ low ∧ low ≤ 0xdfff) (hrest : Spells cs text) :
    Spells ('\\' :: 'u' :: (ds ++ '\\' :: 'u' :: (es ++ cs)))
      (Char.ofNat (0x10000 + ((high - 0xd800) * 0x400 + (low - 0xdc00))) :: text)

theorem Spells.isBody {cs text : List Char} (h : Spells cs text) : IsBody cs := by
  induction h with
  | nil => exact .nil
  | plain hc _ ih => exact .plain hc ih
  | letter hc _ ih => exact .letter hc ih
  | word hword _ _ ih => exact .word hword ih
  | pair hds _ hes _ _ ih => exact .word hds (.word hes ih)

theorem spells_of_isPlain {cs : List Char} (h : cs.all (IsPlain ·) = true) : Spells cs cs := by
  induction cs with
  | nil => exact .nil
  | cons c cs ih =>
    rw [List.all_cons, Bool.and_eq_true, decide_eq_true_eq] at h
    exact .plain h.1 (ih h.2)

end Strings

section Numbers

/--
The digits before the point. Only a zero that stands alone may come first.
-/
def IsWhole (cs : List Char) : Prop :=
  cs = ['0'] ∨ isNumber cs = true ∧ cs.head? ≠ some '0'

def IsFraction (cs : List Char) : Prop :=
  cs = [] ∨ ∃ ds, isNumber ds = true ∧ cs = '.' :: ds

def IsExponent (cs : List Char) : Prop :=
  cs = [] ∨ ∃ e sign ds, e ∈ ['e', 'E'] ∧ sign ∈ [[], ['+'], ['-']] ∧ isNumber ds = true ∧
    cs = e :: (sign ++ ds)

def IsNumeral (cs : List Char) : Prop :=
  ∃ whole fraction exponent, IsWhole whole ∧ IsFraction fraction ∧ IsExponent exponent ∧
    cs = whole ++ (fraction ++ exponent)

end Numbers

/--
A kind of text within JSON: a value, the elements between the brackets of a list, or the members
between the braces of an object, at least one of them each.
-/
inductive Part where
  | value
  | elements
  | members
  deriving Repr, BEq, DecidableEq, Inhabited

/--
The key of a member, with the white space around it and the colon. `Holds` is what the characters
between its quotes have to meet.
-/
inductive IsKey (Holds : List Char → Prop) : List Char → Prop where
  | intro {before body between : List Char} (hbefore : IsBlank before) (hbody : Holds body)
    (hbetween : IsBlank between) :
    IsKey Holds (before ++ '"' :: (body ++ '"' :: (between ++ [':'])))

/--
The texts of each kind. Values may be nested to any depth.
-/
inductive IsPart : Part → List Char → Prop where
  | null : IsPart .value ['n', 'u', 'l', 'l']
  | true : IsPart .value ['t', 'r', 'u', 'e']
  | false : IsPart .value ['f', 'a', 'l', 's', 'e']
  | number {cs : List Char} (h : IsNumeral cs) : IsPart .value cs
  | negative {cs : List Char} (h : IsNumeral cs) : IsPart .value ('-' :: cs)
  | string {cs : List Char} (h : IsBody cs) : IsPart .value ('"' :: (cs ++ ['"']))
  | emptyList {cs : List Char} (h : IsBlank cs) : IsPart .value ('[' :: (cs ++ [']']))
  | list {cs : List Char} (h : IsPart .elements cs) : IsPart .value ('[' :: (cs ++ [']']))
  | emptyObject {cs : List Char} (h : IsBlank cs) : IsPart .value ('{' :: (cs ++ ['}']))
  | object {cs : List Char} (h : IsPart .members cs) : IsPart .value ('{' :: (cs ++ ['}']))
  | lastElement {before value after : List Char} (hbefore : IsBlank before)
    (hvalue : IsPart .value value) (hafter : IsBlank after) :
    IsPart .elements (before ++ (value ++ after))
  | element {before value after more : List Char} (hbefore : IsBlank before)
    (hvalue : IsPart .value value) (hafter : IsBlank after) (hmore : IsPart .elements more) :
    IsPart .elements (before ++ (value ++ (after ++ ',' :: more)))
  | lastMember {key before value after : List Char} (hkey : IsKey IsBody key)
    (hbefore : IsBlank before) (hvalue : IsPart .value value) (hafter : IsBlank after) :
    IsPart .members (key ++ (before ++ (value ++ after)))
  | member {key before value after more : List Char} (hkey : IsKey IsBody key)
    (hbefore : IsBlank before) (hvalue : IsPart .value value) (hafter : IsBlank after)
    (hmore : IsPart .members more) :
    IsPart .members (key ++ (before ++ (value ++ (after ++ ',' :: more))))

abbrev IsValue (cs : List Char) : Prop := IsPart .value cs

section Objects

abbrev Member := String × List Char

/--
The characters between the braces of an object with the given members, at least one. Every key has
to denote a text.
-/
inductive IsMembers : List Member → List Char → Prop where
  | last {name : String} {key before value after : List Char}
    (hkey : IsKey (Spells · name.toList) key) (hbefore : IsBlank before) (hvalue : IsValue value)
    (hafter : IsBlank after) : IsMembers [(name, value)] (key ++ (before ++ (value ++ after)))
  | cons {name : String} {key before value after more : List Char} {members : List Member}
    (hkey : IsKey (Spells · name.toList) key) (hbefore : IsBlank before) (hvalue : IsValue value)
    (hafter : IsBlank after) (hmore : IsMembers members more) :
    IsMembers ((name, value) :: members) (key ++ (before ++ (value ++ (after ++ ',' :: more))))

inductive IsObject : List Member → List Char → Prop where
  | empty {cs : List Char} (h : IsBlank cs) : IsObject [] ('{' :: (cs ++ ['}']))
  | filled {members : List Member} {cs : List Char} (h : IsMembers members cs) :
    IsObject members ('{' :: (cs ++ ['}']))

def IsDocument (members : List Member) (cs : List Char) : Prop :=
  ∃ before object after, IsBlank before ∧ IsObject members object ∧ IsBlank after ∧
    cs = before ++ (object ++ after)

def values (name : String) (members : List Member) : List (List Char) :=
  (members.filter (·.1 == name)).map Prod.snd

def IsText (value : List Char) (text : String) : Prop :=
  ∃ body, Spells body text.toList ∧ value = '"' :: (body ++ ['"'])

variable {members : List Member} {cs : List Char}

theorem isText_of_isPlain {text : String} (h : text.toList.all (IsPlain ·) = true) :
    IsText ('"' :: (text.toList ++ ['"'])) text :=
  ⟨text.toList, spells_of_isPlain h, rfl⟩

theorem isKey_of_isPlain {name : String} (h : name.toList.all (IsPlain ·) = true) :
    IsKey (Spells · name.toList) ('"' :: (name.toList ++ ['"', ':'])) :=
  @IsKey.intro (Spells · name.toList) [] _ [] (List.forall_mem_nil _) (spells_of_isPlain h)
    (List.forall_mem_nil _)

theorem IsText.isValue {text : String} (h : IsText cs text) : IsValue cs := by
  obtain ⟨body, hbody, rfl⟩ := h
  exact .string hbody.isBody

theorem IsMembers.isPart (h : IsMembers members cs) : IsPart .members cs := by
  have weaken {name : String} {key : List Char} (hkey : IsKey (Spells · name.toList) key) :
      IsKey IsBody key := by
    obtain ⟨hbefore, hbody, hbetween⟩ := hkey
    exact .intro hbefore hbody.isBody hbetween
  induction h with
  | last hkey hbefore hvalue hafter => exact .lastMember (weaken hkey) hbefore hvalue hafter
  | cons hkey hbefore hvalue hafter _ ih => exact .member (weaken hkey) hbefore hvalue hafter ih

theorem IsObject.isValue (h : IsObject members cs) : IsValue cs := by
  cases h with
  | empty h => exact .emptyObject h
  | filled h => exact .object h.isPart

end Objects

end Workday.Json
