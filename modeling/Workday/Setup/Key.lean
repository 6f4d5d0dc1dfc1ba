/-!
This module contains the keys of a terminal and the characters that it sends for them.
-/

namespace Workday

inductive Key where
  | enter
  | backspace
  | left
  | right
  | wordLeft
  | wordRight
  | char (c : Char)
  | interrupt
  /-- Any key that questions pay no attention to. -/
  | other
  deriving Repr, BEq, DecidableEq, Inhabited

namespace Key

def ofChar (c : Char) : Key :=
  if c = '\r' ∨ c = '\n' then enter
  else if c = '\x7f' ∨ c = '\x08' then backspace
  else if c = '\x03' then interrupt
  else if c = '\t' ∨ c = '\x01' ∨ c = '\x05' then other
  else char c

/--
The keys for the bytes of a character after its first ones. Each stands for the character with its
number.
-/
def ofBytes (c : Char) (read : Nat) : List Key :=
  ((String.singleton c).toUTF8.toList.drop read).map fun byte => char (Char.ofNat byte.toNat)

/--
The keys that characters are sent for. An escape character starts a key of several bytes. It is no
key if the interrupt key comes in between, and it takes no more bytes of a character than it needs.
-/
def decode : List Char → List Key
  | [] => []
  | '\x1b' :: '[' :: 'C' :: cs => right :: decode cs
  | '\x1b' :: '[' :: 'D' :: cs => left :: decode cs
  | '\x1b' :: '[' :: c :: cs =>
    if c = '\x03' then interrupt :: decode cs
    else if '\x80' ≤ c then other :: (ofBytes c 2 ++ decode cs)
    else if c = 'A' ∨ c = 'B' ∨ c = 'H' ∨ c = 'F' ∨ c = 'Z' then other :: decode cs
    else
      match cs with
      | [] => [other]
      | c :: cs =>
        if c = '\x03' then interrupt :: decode cs else other :: (ofBytes c 1 ++ decode cs)
  | '\x1b' :: 'b' :: cs => wordLeft :: decode cs
  | '\x1b' :: 'f' :: cs => wordRight :: decode cs
  | '\x1b' :: '\x03' :: cs => interrupt :: decode cs
  | '\x1b' :: c :: cs => other :: (ofBytes c 1 ++ decode cs)
  | ['\x1b'] => [other]
  | c :: cs => ofChar c :: decode cs

end Key

end Workday
