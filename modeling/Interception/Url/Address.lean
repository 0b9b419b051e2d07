import Interception.Text.Split
import Interception.Url.Fault

/-!
# Internet addresses

Reading IPv4 addresses with their decimal, octal and hexadecimal parts, reading
IPv6 addresses, and the texts they are written as.
-/

namespace Interception.Url

def isHexDigit (c : Char) : Bool :=
  c.isDigit || ('a' ≤ c && c ≤ 'f') || ('A' ≤ c && c ≤ 'F')

def digitOf (c : Char) : Nat :=
  if c.isDigit then c.toNat - 48
  else if 'a' ≤ c && c ≤ 'f' then c.toNat - 87
  else c.toNat - 55

def readNumber (radix : Nat) (cs : List Char) : Nat :=
  cs.foldl (fun n c => n * radix + digitOf c) 0

/-! ## IPv4 -/

/-- A part of an address: hexadecimal after `0x`, octal after `0`, else
decimal. -/
def ipv4Number? (cs : List Char) : Option Nat :=
  match cs with
  | [] => none
  | ['0'] => some 0
  | '0' :: x :: rest =>
    if x = 'x' || x = 'X' then
      if rest.all isHexDigit then some (readNumber 16 rest) else none
    else if (x :: rest).all fun c => '0' ≤ c && c ≤ '7' then
      some (readNumber 8 (x :: rest))
    else none
  | cs => if cs.all Char.isDigit then some (readNumber 10 cs) else none

def dottedParts (cs : List Char) : List (List Char) :=
  let parts := Text.pieces '.' cs
  if parts.length > 1 && parts.getLast? == some [] then parts.dropLast
  else parts

def endsInNumber (domain : List Char) : Bool :=
  match (dottedParts domain).getLast? with
  | none => false
  | some last =>
    (!last.isEmpty && last.all Char.isDigit) || (ipv4Number? last).isSome

/-- All parts but the last are single bytes; the last fills the bytes that are
left. -/
def combineIpv4 (numbers : List Nat) : Option Nat := do
  let last ← numbers.getLast?
  let front := numbers.dropLast
  guard (front.length ≤ 3)
  guard (front.all (· ≤ 255))
  guard (last < Nat.pow 256 (4 - front.length))
  let (sum, _) :=
    front.foldl (fun (s, i) n => (s + n * Nat.pow 256 (3 - i), i + 1)) (0, 0)
  return sum + last

def parseIpv4 (domain : List Char) : Except Fault Nat :=
  let parts := dottedParts domain
  match parts.mapM ipv4Number? with
  | none => .error .invalidIpv4
  | some numbers =>
    match combineIpv4 numbers with
    | none => .error .invalidIpv4
    | some n => .ok n

def ipv4Text (n : Nat) : String :=
  toString (n / 16777216 % 256) ++ "." ++ toString (n / 65536 % 256) ++ "." ++
    toString (n / 256 % 256) ++ "." ++ toString (n % 256)

/-! ## IPv6 -/

def decimalByte? (cs : List Char) : Option Nat := do
  guard (!cs.isEmpty && cs.length ≤ 3 && cs.all Char.isDigit)
  guard (cs.length = 1 || cs.head? != some '0')
  let n := readNumber 10 cs
  guard (n ≤ 255)
  return n

def embeddedIpv4? (cs : List Char) : Option (List Nat) := do
  match ← (Text.pieces '.' cs).mapM decimalByte? with
  | [a, b, c, d] => return [a * 256 + b, c * 256 + d]
  | _ => none

def piece? (cs : List Char) : Option Nat := do
  guard (!cs.isEmpty && cs.length ≤ 4 && cs.all isHexDigit)
  return readNumber 16 cs

def pieceList? (mayEmbed : Bool) : List (List Char) → Option (List Nat)
  | [] => some []
  | [last] =>
    if mayEmbed && last.contains '.' then embeddedIpv4? last
    else (piece? last).map ([·])
  | p :: ps => do
    let n ← piece? p
    let ns ← pieceList? mayEmbed ps
    return n :: ns

def side? (mayEmbed : Bool) (cs : List Char) : Option (List Nat) :=
  if cs.isEmpty then some [] else pieceList? mayEmbed (Text.pieces ':' cs)

def splitGap : List Char → Option (List Char × List Char)
  | ':' :: ':' :: rest => some ([], rest)
  | c :: rest => (splitGap rest).map fun (a, b) => (c :: a, b)
  | [] => none

/-- Eight pieces, or fewer around one `::` that stands for at least one zero
piece. -/
def ipv6Pieces? (cs : List Char) : Option (List Nat) :=
  match splitGap cs with
  | none => do
    let pieces ← side? true cs
    guard (pieces.length = 8)
    return pieces
  | some (before, after) => do
    let front ← side? false before
    let back ← side? true after
    guard (front.length + back.length ≤ 7)
    return front ++ List.replicate (8 - front.length - back.length) 0 ++ back

def parseIpv6 (cs : List Char) : Except Fault (List Nat) :=
  match ipv6Pieces? cs with
  | some pieces => .ok pieces
  | none => .error .invalidIpv6

/-- Start and length of the first longest run of zeros, `start` being the place
of the first piece of the list and `run` the zeros directly before it. -/
def longestZeros (start run : Nat) (best : Nat × Nat) : List Nat → Nat × Nat
  | [] => best
  | p :: ps =>
    if p = 0 then
      let run := run + 1
      let best := if best.2 < run then (start + 1 - run, run) else best
      longestZeros (start + 1) run best ps
    else longestZeros (start + 1) 0 best ps

def hexPieces (pieces : List Nat) : List Char :=
  Text.join [':'] (pieces.map (Nat.toDigits 16))

/-- The first longest run of at least two zero pieces is written `::`. -/
def ipv6Text (pieces : List Nat) : String :=
  let (start, run) := longestZeros 0 0 (0, 0) pieces
  let body :=
    if run < 2 then hexPieces pieces
    else hexPieces (pieces.take start) ++ [':', ':'] ++
      hexPieces (pieces.drop (start + run))
  String.ofList ('[' :: body ++ [']'])

end Interception.Url
