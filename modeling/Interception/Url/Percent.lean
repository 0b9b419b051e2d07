import Interception.Text.Utf8

/-!
# Percent-encoding

The parts of a URL each have a set of characters that must not stand in them.
`encode` writes the UTF-8 bytes of those, and of every character beyond ASCII,
as `%` and two digits.
-/

namespace Interception.Url

abbrev EncodeSet := Nat → Bool

def controlSet : EncodeSet := fun n => n < 0x20 || n == 0x7F

def withChars (set : EncodeSet) (cs : List Char) : EncodeSet := fun n =>
  set n || cs.any (·.toNat == n)

def fragmentSet : EncodeSet := withChars controlSet [' ', '"', '<', '>', '\x60']

def pathSet : EncodeSet := withChars fragmentSet ['#', '?', '\x7b', '\x7d']

def userinfoSet : EncodeSet :=
  withChars pathSet ['/', ':', ';', '=', '@', '[', '\\', ']', '^', '|']

def querySet : EncodeSet := withChars controlSet [' ', '"', '#', '<', '>']

def specialQuerySet : EncodeSet := withChars querySet ['\'']

def upperHex (n : Nat) : Char := ((Nat.toDigits 16 (n % 16)).headD '0').toUpper

def encodeByte (b : UInt8) : List Char :=
  ['%', upperHex (b.toNat / 16), upperHex b.toNat]

def encodeChar (set : EncodeSet) (c : Char) : List Char :=
  if c.toNat < 0x80 && !set c.toNat then [c]
  else (Text.utf8 (String.singleton c)).flatMap encodeByte

def encode (set : EncodeSet) (cs : List Char) : List Char :=
  cs.flatMap (encodeChar set)

def hexValue? (b : UInt8) : Option Nat :=
  let n := b.toNat
  if 48 ≤ n && n ≤ 57 then some (n - 48)
  else if 65 ≤ n && n ≤ 70 then some (n - 55)
  else if 97 ≤ n && n ≤ 102 then some (n - 87)
  else none

/-- Undoes the escapes; a `%` that starts none stays. -/
def decode : List UInt8 → List UInt8
  | 37 :: a :: b :: rest =>
    match hexValue? a, hexValue? b with
    | some x, some y => UInt8.ofNat (x * 16 + y) :: decode rest
    | _, _ => 37 :: decode (a :: b :: rest)
  | b :: rest => b :: decode rest
  | [] => []

end Interception.Url
