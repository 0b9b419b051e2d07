import Interception.Text.Utf8

/-!
# Base64

The standard alphabet with padding. Decoding accepts only what encoding
produces: the padding has to be complete and the unused bits of the last symbol
have to be zero. `fault?` names the first thing that is wrong with a text, with
its byte offset.
-/

namespace Interception.Base64

def alphabet : List Char :=
  "ABCDEFGHIJKLMNOPQRSTUVWXYZabcdefghijklmnopqrstuvwxyz0123456789+/".toList

def sextet? (b : UInt8) : Option Nat :=
  let n := b.toNat
  if 65 ≤ n && n ≤ 90 then some (n - 65)
  else if 97 ≤ n && n ≤ 122 then some (n - 71)
  else if 48 ≤ n && n ≤ 57 then some (n + 4)
  else if n = 43 then some 62
  else if n = 47 then some 63
  else none

def pad : UInt8 := 61

def symbol (n : Nat) : Char := alphabet.getD n 'A'

def encodeChars : List UInt8 → List Char
  | [] => []
  | [a] =>
    let n := a.toNat * 16
    [symbol (n / 64), symbol (n % 64), '=', '=']
  | [a, b] =>
    let n := (a.toNat * 256 + b.toNat) * 4
    [symbol (n / 4096), symbol (n / 64 % 64), symbol (n % 64), '=']
  | a :: b :: c :: rest =>
    let n := (a.toNat * 256 + b.toNat) * 256 + c.toNat
    symbol (n / 262144) :: symbol (n / 4096 % 64) :: symbol (n / 64 % 64) ::
    symbol (n % 64) ::
      encodeChars rest

def encode (bytes : List UInt8) : String := String.ofList (encodeChars bytes)

inductive Fault where
  | invalidByte (byte : UInt8) (offset : Nat)
  | invalidLength
  | invalidPadding
  | invalidLastSymbol (byte : UInt8) (offset : Nat)
deriving DecidableEq, Repr

def Fault.message : Fault → String
  | .invalidByte b offset => s!"Invalid byte {b.toNat}, offset {offset}."
  | .invalidLength => "Encoded text cannot have a 6-bit remainder."
  | .invalidPadding => "Invalid padding"
  | .invalidLastSymbol b offset =>
    s!"Invalid last symbol {b.toNat}, offset {offset}."

def firstInvalid (offset : Nat) : List UInt8 → Option Fault
  | [] => none
  | b :: bs =>
    if (sextet? b).isNone then some (.invalidByte b offset)
    else firstInvalid (offset + 1) bs

/-- Padding is looked for only in the last group of at most eight bytes. There a
pad is out of place where a group of four would hold fewer than two symbols
before it, or when a symbol follows it; the first pad is the one reported. -/
def tailFault (start i : Nat) (firstPad : Option Nat) :
    List UInt8 → Option Fault
  | [] => none
  | b :: bs =>
    if b = pad then
      if i % 4 < 2 then some (.invalidByte pad (start + firstPad.getD i))
      else tailFault start (i + 1) (some (firstPad.getD i)) bs
    else
      match firstPad with
      | some p => some (.invalidByte pad (start + p))
      | none =>
        if (sextet? b).isNone then some (.invalidByte b (start + i))
        else tailFault start (i + 1) none bs

/-- Whether the last symbol has bits that belong to no byte. -/
def hasLooseBits (count : Nat) (last : UInt8) : Bool :=
  match count % 4 with
  | 2 => (sextet? last).getD 0 % 16 != 0
  | 3 => (sextet? last).getD 0 % 4 != 0
  | _ => false

def looseBitsFault (symbols : List UInt8) : Option Fault :=
  match symbols.getLast? with
  | none => none
  | some last =>
    if hasLooseBits symbols.length last then
      some (.invalidLastSymbol last (symbols.length - 1))
    else none

def lengthFault (text : List UInt8) : Option Fault :=
  if text.length % 4 = 1 then
    match text.getLast? with
    | some b =>
      if b != pad && (sextet? b).isNone then
        some (.invalidByte b (text.length - 1))
      else some .invalidLength
    | none => none
  else none

def tailStart (length : Nat) : Nat := (length - 1) / 8 * 8

def fault? (text : List UInt8) : Option Fault :=
  let start := tailStart text.length
  lengthFault text
    <|> firstInvalid 0 (text.take start)
    <|> tailFault start 0 none (text.drop start)
    <|> (if text.length % 4 = 0 then none else some .invalidPadding)
    <|> looseBitsFault (text.filter (· != pad))

def bytesOfSextets : List Nat → List UInt8
  | a :: b :: c :: d :: rest =>
    let n := ((a * 64 + b) * 64 + c) * 64 + d
    UInt8.ofNat (n / 65536) :: UInt8.ofNat (n / 256 % 256) ::
    UInt8.ofNat (n % 256) ::
      bytesOfSextets rest
  | [a, b, c] =>
    let n := (a * 64 + b) * 64 + c
    [UInt8.ofNat (n / 1024), UInt8.ofNat (n / 4 % 256)]
  | [a, b] => [UInt8.ofNat ((a * 64 + b) / 16)]
  | _ => []

def decodeBytes (text : List UInt8) : Except Fault (List UInt8) :=
  match fault? text with
  | some f => .error f
  | none => .ok (bytesOfSextets (text.filterMap sextet?))

def decode (text : String) : Except Fault (List UInt8) :=
  decodeBytes (Text.utf8 text)

end Interception.Base64
