import Interception.Text.Split
import Interception.Url.Domain.MappingTable

/-!
# How the characters of a domain name are mapped
-/

namespace Interception.Url.Domain

def inRanges (ranges : List (Nat × Nat)) (n : Nat) : Bool :=
  ranges.any fun (lo, hi) => lo ≤ n && n ≤ hi

def hexNumber (cs : List Char) : Nat :=
  cs.foldl
    (fun n c => n * 16 + (if c.isDigit then c.toNat - 48 else c.toNat - 55)) 0

/-- The entry for `n` in a table of runs, each a first code point with the
images of it and of those after it. -/
def listed? (table : List (Nat × String)) (n : Nat) : Option (List Char) := do
  let (first, images) ← (table.filter (·.1 ≤ n)).getLast?
  let word ← (Text.pieces ' ' images.toList)[n - first]?
  return (Text.pieces '.' word).map fun digits => Char.ofNat (hexNumber digits)

inductive Image where
  | kept
  | ignored
  | forbidden
  | mapped (cs : List Char)
deriving DecidableEq, Repr

def shifted? (n : Nat) : Option Char := do
  let (_, _, _, shift) ← shiftedRuns.find? fun (lo, hi, step, _) =>
    lo ≤ n && n ≤ hi && (n - lo) % step == 0
  return Char.ofNat ((n : Int) + shift).toNat

/-- Among ASCII only the upper case letters are mapped. -/
def image (c : Char) : Image :=
  if c.toNat < 0x80 then
    if c.isUpper then .mapped [c.toLower] else .kept
  else if inRanges forbiddenRanges c.toNat then .forbidden
  else if inRanges ignoredRanges c.toNat then .ignored
  else
    match shifted? c.toNat with
    | some d => .mapped [d]
    | none =>
      match listed? listedRuns c.toNat with
      | some cs => .mapped cs
      | none => .kept

def mapChars : List Char → Option (List Char)
  | [] => some []
  | c :: cs =>
    match image c with
    | .kept => (mapChars cs).map (c :: ·)
    | .ignored => mapChars cs
    | .forbidden => none
    | .mapped ds => (mapChars cs).map (ds ++ ·)

end Interception.Url.Domain
