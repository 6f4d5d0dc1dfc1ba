/-!
This module contains the reading of bytes as UTF-8 text where some of them may be wrong. Every
longest sequence of bytes that starts a character but does not end it, and every byte that starts
none, is read as the replacement character.
-/

namespace Workday.Text

/--
A character of several bytes that has begun: its bits so far, how many bytes are missing, and the
range in which the next one has to lie.
-/
structure Begun where
  bits : Nat
  missing : Nat
  first : UInt8
  last : UInt8
  deriving Repr, BEq, DecidableEq, Inhabited

def replacement : Char := '\ufffd'

/--
What a byte begins: a character of its own, a longer one, or none. The second byte of a longer one
is limited so that no character has two forms, and none is a surrogate or too large.
-/
def begin? (byte : UInt8) : Option (Char ⊕ Begun) :=
  let n := byte.toNat
  if n < 0x80 then some (.inl (Char.ofNat n))
  else if n < 0xc2 then none
  else if n < 0xe0 then some (.inr ⟨n - 0xc0, 1, 0x80, 0xbf⟩)
  else if n < 0xf0 then
    some (.inr ⟨n - 0xe0, 2, if n = 0xe0 then 0xa0 else 0x80, if n = 0xed then 0x9f else 0xbf⟩)
  else if n < 0xf5 then
    some (.inr ⟨n - 0xf0, 3, if n = 0xf0 then 0x90 else 0x80, if n = 0xf4 then 0x8f else 0xbf⟩)
  else none

/--
Read a byte that begins something. The characters read are added in front of the given ones, the
latest first.
-/
def readFirst (cs : List Char) (byte : UInt8) : List Char × Option Begun :=
  match begin? byte with
  | none => (replacement :: cs, none)
  | some (.inl c) => (c :: cs, none)
  | some (.inr begun) => (cs, some begun)

def readByte : List Char × Option Begun → UInt8 → List Char × Option Begun
  | (cs, none), byte => readFirst cs byte
  | (cs, some begun), byte =>
    if begun.first ≤ byte ∧ byte ≤ begun.last then
      let bits := begun.bits * 64 + (byte.toNat - 0x80)
      if begun.missing = 1 then (Char.ofNat bits :: cs, none)
      else (cs, some ⟨bits, begun.missing - 1, 0x80, 0xbf⟩)
    else
      readFirst (replacement :: cs) byte

def decodeLossy (bytes : ByteArray) : String :=
  let (cs, begun) := bytes.toList.foldl readByte ([], none)
  String.ofList (if begun.isSome then replacement :: cs else cs).reverse

end Workday.Text
