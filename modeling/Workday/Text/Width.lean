import Workday.Text.Width.Ranges

/-!
This module contains the number of columns that a text takes on a terminal. The columns of a
character depend on what follows it: several emoji can make one picture, several letters one
ligature, and a selector tells whether the character before it is a picture or text. Terminal colour
sequences are counted by their escape character alone.
-/

namespace Workday.Text

namespace Width

/--
The last letter of a ligature, or what has been read of it from its end.
-/
inductive Ligature where
  /-- The Hebrew letter lamed. -/
  | lamed
  /-- The Buginese letter ya. -/
  | ya
  /-- The Buginese vowel before that letter. -/
  | yaVowel
  /-- A Tifinagh consonant. -/
  | tifinagh
  /-- The joiner of two Tifinagh consonants. -/
  | tifinaghJoiner
  /-- A second tone letter of Lisu. -/
  | lisuTone
  /-- The Old Turkic letter orkhon i. -/
  | orkhonI
  /-- A Khmer letter that can be written below another one. -/
  | subscript
  deriving Repr, BEq, DecidableEq, Inhabited

inductive Next where
  /-- Nothing that changes its width. -/
  | plain
  /-- A skin colour. -/
  | modifier
  /-- A picture. -/
  | picture
  /-- A joiner with a picture after it. -/
  | joinedPicture
  /-- A keycap with a joined picture after it. -/
  | joinedKeycap
  /-- One letter of a flag, or more of them. -/
  | flagLetters (several : Bool)
  /-- A letter of a flag with a joined picture after it. -/
  | joinedLetter
  /-- Flags with a joined picture after them, and whether a letter stands before the flags. -/
  | joinedFlags (letter : Bool)
  /-- The last tags of a flag with a joined picture after them: some letters and the end. -/
  | tagLetters (count : Nat)
  /-- The last tags of a flag with a joined picture after them, some digits being the first. -/
  | tagDigits (count : Nat)
  /-- The Arabic letter alef. -/
  | alef
  /-- A part of another ligature, and whether a joiner stands before it. -/
  | ligature (part : Ligature) (joined : Bool)
  deriving Repr, BEq, DecidableEq, Inhabited

inductive Selector where
  | picture
  | text
  deriving Repr, BEq, DecidableEq, Inhabited

/--
The characters after a character: a selector, if they start with one, and what follows then.
-/
structure Follow where
  selector : Option Selector
  next : Next
  deriving Repr, BEq, DecidableEq, Inhabited

namespace Next

/--
Whether the characters are part of a ligature, which selectors do not break.
-/
def isLigature : Next → Bool
  | alef => true
  | ligature _ _ => true
  | _ => false

def isJoined : Next → Bool
  | joinedPicture => true
  | joinedKeycap => true
  | _ => false

def follow (next : Next) : Follow := ⟨none, next⟩

/--
The characters with a selector before them. It separates all but ligatures, and pictures that
another picture is joined to.
-/
def select (next : Next) (selector : Selector) : Follow :=
  let kept := next.isLigature || (selector == .picture && next.isJoined)
  ⟨some selector, if kept then next else plain⟩

end Next

def isModifier (c : Char) : Bool :=
  0x1f3fb ≤ c.toNat && c.toNat ≤ 0x1f3ff

def isFlagLetter (c : Char) : Bool :=
  0x1f1e6 ≤ c.toNat && c.toNat ≤ 0x1f1ff

def isTagLetter (c : Char) : Bool :=
  0xe0061 ≤ c.toNat && c.toNat ≤ 0xe007a

def isTagDigit (c : Char) : Bool :=
  0xe0030 ≤ c.toNat && c.toNat ≤ 0xe0039

/--
Whether a selector can make a picture of the character.
-/
def isSelectable (c : Char) : Bool :=
  textEmojiRanges.has c || changeableRanges.has c

/--
Whether a selector makes the character narrow. Enclosed ideographs are wide also as text.
-/
def isNarrowable (c : Char) : Bool :=
  changeableRanges.has c && !(0x1f200 ≤ c.toNat && c.toNat ≤ 0x1f2ff)

/--
The columns of a character on its own, and what it is for the character before it.
-/
def alone (c : Char) : Int × Next :=
  if c ≤ '\u00a0' then (1, .plain)
  else if zeroRanges.has c then (0, .plain)
  else if c == '\u17d8' then (3, .plain)
  else if isFlagLetter c then (1, .flagLetters false)
  else if isModifier c then (2, .modifier)
  else if pictureRanges.has c then (2, .picture)
  else if wideRanges.has c then (2, .plain)
  else (1, last c)
where
  last (c : Char) : Next :=
    if alefRanges.has c then .alef
    else if c == '\u05dc' then .ligature .lamed false
    else if c == '\u1a10' then .ligature .ya false
    else if tifinaghRanges.has c then .ligature .tifinagh false
    else if c == '\ua4fc' || c == '\ua4fd' then .ligature .lisuTone true
    else if c.toNat == 0x10c03 then .ligature .orkhonI false
    else if subscriptRanges.has c then .ligature .subscript true
    else .plain

def Ligature.extend? (part : Ligature) (joined : Bool) (c : Char) : Option (Int × Next) :=
  match part with
  | lamed => if joined && c == '\u05d0' then some (0, .plain) else none
  | ya => if joined && c == '\u1a17' then some (0, .ligature .yaVowel true) else none
  | yaVowel => if c == '\u1a15' then some (0, .plain) else none
  | tifinagh =>
    if c == '\u2d7f' then some (1, .ligature .tifinaghJoiner true)
    else if joined && tifinaghRanges.has c then some (0, .plain)
    else none
  | tifinaghJoiner => if tifinaghRanges.has c then some (-1, .plain) else none
  | lisuTone => if '\ua4f8' ≤ c && c ≤ '\ua4fb' then some (0, .plain) else none
  | orkhonI => if joined && c.toNat == 0x10c32 then some (0, .plain) else none
  | subscript => if c == '\u17d2' then some (-1, .plain) else none

/--
The columns by which a character changes the width of what follows it, if the two belong together.
-/
def Next.extend? (next : Next) (c : Char) : Option (Int × Next) :=
  match next with
  | plain => none
  | modifier =>
    if modifiableRanges.has c then some (0, .picture)
    else if c == '\u200d' then some (0, .joinedPicture)
    else none
  | picture => if c == '\u200d' then some (0, .joinedPicture) else none
  | joinedPicture =>
    if c == '\u20e3' then some (0, .joinedKeycap)
    else if isFlagLetter c then some (1, .joinedLetter)
    else if isModifier c then some (0, .modifier)
    else if c.toNat == 0xe007f then some (0, .tagLetters 0)
    else if pictureRanges.has c then some (0, .picture)
    else none
  | joinedKeycap => none
  | flagLetters several =>
    if isFlagLetter c then some (1, .flagLetters true)
    else if several && c == '\u200d' then some (0, .joinedPicture)
    else none
  | joinedLetter => if isFlagLetter c then some (-1, .joinedFlags false) else none
  | joinedFlags letter =>
    if isFlagLetter c then some (if letter then -1 else 3, .joinedFlags (!letter))
    else if c == '\u200d' then some (0, .joinedPicture)
    else none
  | tagLetters count =>
    if isTagLetter c && count < 6 then some (0, .tagLetters (count + 1))
    else if isTagDigit c && count < 5 then some (0, .tagDigits 1)
    else if c.toNat == 0x1f3f4 && 3 ≤ count then some (0, .picture)
    else none
  | tagDigits count =>
    if isTagDigit c && count < 3 then some (0, .tagDigits (count + 1))
    else if c.toNat == 0x1f3f4 && count == 3 then some (0, .picture)
    else none
  | alef =>
    if lamRanges.has c then some (0, .plain)
    else if zeroRanges.has c && !opaqueRanges.has c then some (0, .alef)
    else none
  | ligature part joined =>
    if c == '\u200d' then some (0, .ligature part true)
    else if fillerRanges.has c then some (0, .ligature part joined)
    else part.extend? joined c

/--
The columns by which a character changes the width of a text in front of which it is put, and what
the two are for the character before them.
-/
def step (c : Char) : Follow → Int × Follow
  | ⟨some .picture, next⟩ =>
    if isSelectable c then (if next.isJoined then 0 else 2, Next.picture.follow)
    else beyond c (if next.isLigature then next else .plain)
  | ⟨some .text, next⟩ =>
    if isNarrowable c then (1, Next.plain.follow) else beyond c next
  | ⟨none, next⟩ => beyond c next
where
  beyond (c : Char) (next : Next) : Int × Follow :=
    if c ≤ '\u00a0' then (1, Next.plain.follow)
    else if c == '\ufe0f' then (0, next.select .picture)
    else if c == '\ufe0e' then (0, next.select .text)
    else
      let (width, next) := (next.extend? c).getD (alone c)
      (width, next.follow)

def measure : List Char → Int × Follow
  | [] => (0, Next.plain.follow)
  | c :: cs =>
    let (width, follow) := measure cs
    let (own, follow) := step c follow
    (own + width, follow)

/--
Whether a character takes columns on its own. Control characters do not, although each is counted as
one column of a text.
-/
def isVisible (c : Char) : Bool :=
  ' ' ≤ c && !('\x7f' ≤ c && c < '\u00a0') && 0 < (alone c).1

inductive Escape where
  | outside
  /-- After the escape character. -/
  | opened
  /-- After the bracket that follows it. -/
  | inside
  deriving Repr, BEq, DecidableEq, Inhabited

/--
The visible characters of a text that belong to colour sequences. A sequence ends with the letter
`m`.
-/
def hidden : Escape → List Char → Nat
  | _, [] => 0
  | .outside, c :: cs => hidden (if c == '\x1b' then .opened else .outside) cs
  | .opened, c :: cs => if c == '[' then 1 + hidden .inside cs else hidden .outside cs
  | .inside, c :: cs =>
    if c == 'm' then 1 + hidden .outside cs
    else (if isVisible c then 1 else 0) + hidden .inside cs

end Width

def displayWidth (cs : List Char) : Nat :=
  (Width.measure cs).1.toNat - Width.hidden .outside cs

end Workday.Text
