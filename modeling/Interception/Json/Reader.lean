import Interception.Json.Basic

/-!
# Reading JSON

`parse?` reads a whole text. A number without point and exponent is an integer
if it fits a signed or an unsigned 64-bit word; every other number, and a
negative zero, is a double. Fields are kept in the order of the text, repeated
ones included.
-/

namespace Interception.Json

def isGap (c : Char) : Bool := c == ' ' || c == '\n' || c == '\t' || c == '\r'

def skipGap (cs : List Char) : List Char := cs.dropWhile isGap

/-! ## Strings -/

def hexValue? (c : Char) : Option Nat :=
  if '0' ≤ c && c ≤ '9' then some (c.toNat - 48)
  else if 'a' ≤ c && c ≤ 'f' then some (c.toNat - 87)
  else if 'A' ≤ c && c ≤ 'F' then some (c.toNat - 55)
  else none

def hex4? (a b c d : Char) : Option Nat := do
  return (((← hexValue? a) * 16 + (← hexValue? b)) * 16 + (← hexValue? c)) *
    16 + (← hexValue? d)

def shortEscape? (c : Char) : Option Char :=
  match c with
  | '"' => some '"'
  | '\\' => some '\\'
  | '/' => some '/'
  | 'b' => some (Char.ofNat 8)
  | 'f' => some (Char.ofNat 12)
  | 'n' => some '\n'
  | 'r' => some '\r'
  | 't' => some '\t'
  | _ => none

def isHighSurrogate (n : Nat) : Bool := 0xD800 ≤ n && n < 0xDC00

def isLowSurrogate (n : Nat) : Bool := 0xDC00 ≤ n && n < 0xE000

/-- Reads up to the closing quote. Surrogates have to come in pairs. -/
def stringBody : List Char → Option (List Char × List Char)
  | '"' :: rest => some ([], rest)
  | '\\' :: 'u' :: a :: b :: c :: d :: '\\' :: 'u' :: e :: f ::
      g :: h :: rest => do
    let n ← hex4? a b c d
    if isHighSurrogate n then
      let m ← hex4? e f g h
      guard (isLowSurrogate m)
      let (body, left) ← stringBody rest
      return (Char.ofNat (0x10000 + (n - 0xD800) * 0x400 + (m - 0xDC00)) ::
        body, left)
    else
      guard (!isLowSurrogate n)
      let (body, left) ← stringBody ('\\' :: 'u' :: e :: f :: g :: h :: rest)
      return (Char.ofNat n :: body, left)
  | '\\' :: 'u' :: a :: b :: c :: d :: rest => do
    let n ← hex4? a b c d
    guard (!isHighSurrogate n && !isLowSurrogate n)
    let (body, left) ← stringBody rest
    return (Char.ofNat n :: body, left)
  | '\\' :: c :: rest => do
    let e ← shortEscape? c
    let (body, left) ← stringBody rest
    return (e :: body, left)
  | c :: rest => do
    guard (0x20 ≤ c.toNat && c != '\\')
    let (body, left) ← stringBody rest
    return (c :: body, left)
  | [] => none

/-! ## Numbers -/

def digitValue (c : Char) : Nat := c.toNat - 48

/-- Takes digits into the significand as long as it stays below `2^64`. -/
def absorb (significand : Nat) : List Char → Nat × List Char
  | [] => (significand, [])
  | c :: cs =>
    let next := significand * 10 + digitValue c
    if next < Nat.pow 2 64 then absorb next cs else (significand, c :: cs)

/-- `significand · 10^exponent` as a double, scaled by one correctly rounded
power of ten at a time; `none` if it overflows. -/
def scaleTen (x : Float) (exponent : Int) : Nat → Option Float
  | 0 => some x
  | steps + 1 =>
    if exponent.natAbs ≤ 308 then
      let power := Float.ofScientific 1 false exponent.natAbs
      if 0 ≤ exponent then
        let y := x * power
        if y.isFinite then some y else none
      else some (x / power)
    else if x == 0 then some x
    else if 0 ≤ exponent then none
    else scaleTen (x / Float.ofScientific 1 false 308) (exponent + 308) steps

def digits1 (cs : List Char) : Option (List Char × List Char) :=
  let ds := cs.takeWhile Char.isDigit
  if ds.isEmpty then none else some (ds, cs.dropWhile Char.isDigit)

def wholePart (cs : List Char) : Option (List Char × List Char) := do
  let (ds, rest) ← digits1 cs
  guard (ds == ['0'] || ds.head? != some '0')
  return (ds, rest)

def fractionPart (cs : List Char) : Option (Option (List Char) × List Char) :=
  match cs with
  | '.' :: rest => (digits1 rest).map fun (ds, left) => (some ds, left)
  | _ => some (none, cs)

def exponentSign (cs : List Char) : Bool × List Char :=
  match cs with
  | '-' :: rest => (true, rest)
  | '+' :: rest => (false, rest)
  | _ => (false, cs)

def exponentPart (cs : List Char) : Option (Option Int × List Char) :=
  let read (rest : List Char) : Option (Option Int × List Char) := do
    let (negative, rest) := exponentSign rest
    let (ds, left) ← digits1 rest
    let n : Int := ds.foldl (fun n c => n * 10 + digitValue c) 0
    return (some (if negative then -n else n), left)
  match cs with
  | 'e' :: rest => read rest
  | 'E' :: rest => read rest
  | _ => some (none, cs)

def numberOf (negative : Bool) (whole : List Char)
    (fraction : Option (List Char)) (exponent : Option Int) : Option Json :=
  let (significand, beyond) := absorb 0 whole
  if fraction.isNone && exponent.isNone && beyond.isEmpty &&
      (!negative || (0 < significand && significand ≤ Nat.pow 2 63)) then
    some (.int (if negative then -(significand : Int) else significand))
  else do
    let digits := fraction.getD []
    let (significand, ignored) := absorb significand digits
    let place : Int :=
      beyond.length - ((digits.length - ignored.length : Nat) : Int)
    let x ← scaleTen (Float.ofNat significand) (place + exponent.getD 0) 5
    return .float (if negative then -x else x)

def number (cs : List Char) : Option (Json × List Char) := do
  let (negative, cs) := match cs with
    | '-' :: rest => (true, rest)
    | _ => (false, cs)
  let (whole, cs) ← wholePart cs
  let (fraction, cs) ← fractionPart cs
  let (exponent, cs) ← exponentPart cs
  return (← numberOf negative whole fraction exponent, cs)

/-! ## Values -/

mutual

/-- Each call spends one unit of fuel; `parse?` gives enough for any text. -/
def value : Nat → List Char → Option (Json × List Char)
  | 0, _ => none
  | fuel + 1, cs =>
    match skipGap cs with
    | 'n' :: 'u' :: 'l' :: 'l' :: rest => some (.null, rest)
    | 't' :: 'r' :: 'u' :: 'e' :: rest => some (.bool true, rest)
    | 'f' :: 'a' :: 'l' :: 's' :: 'e' :: rest => some (.bool false, rest)
    | '"' :: rest =>
      (stringBody rest).map fun (s, left) => (.str (String.ofList s), left)
    | '[' :: rest =>
      match skipGap rest with
      | ']' :: left => some (.arr [], left)
      | _ => (items fuel rest).map fun (vs, left) => (.arr vs, left)
    | '\x7b' :: rest =>
      match skipGap rest with
      | '\x7d' :: left => some (.obj [], left)
      | _ => (fields fuel rest).map fun (fs, left) => (.obj fs, left)
    | other => number other

def items : Nat → List Char → Option (List Json × List Char)
  | 0, _ => none
  | fuel + 1, cs => do
    let (v, rest) ← value fuel cs
    match skipGap rest with
    | ',' :: rest =>
      let (vs, left) ← items fuel rest
      return (v :: vs, left)
    | ']' :: left => return ([v], left)
    | _ => none

def fields : Nat → List Char → Option (List (String × Json) × List Char)
  | 0, _ => none
  | fuel + 1, cs =>
    match skipGap cs with
    | '"' :: rest => do
      let (name, rest) ← stringBody rest
      match skipGap rest with
      | ':' :: rest =>
        let (v, rest) ← value fuel rest
        match skipGap rest with
        | ',' :: rest =>
          let (fs, left) ← fields fuel rest
          return ((String.ofList name, v) :: fs, left)
        | '\x7d' :: left => return ([(String.ofList name, v)], left)
        | _ => none
      | _ => none
    | _ => none

end

def parse? (text : String) : Option Json :=
  let cs := text.toList
  match value (2 * cs.length + 2) cs with
  | some (v, rest) => if (skipGap rest).isEmpty then some v else none
  | none => none

end Interception.Json
