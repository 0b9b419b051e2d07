import Interception.Url.Domain.Mapping
import Interception.Url.Domain.NormalTable

/-!
# The composed form of a text

A text is decomposed, its combining characters are put in the order of their
classes, and then every character is composed with the last starter before it
that it is not cut off from. Texts with the same appearance get the same form.
-/

namespace Interception.Url.Domain

def combiningClass (c : Char) : Nat :=
  let n := c.toNat
  if n < 0x300 then 0
  else
    match combiningClasses.find? fun (lo, hi, _) => lo ≤ n && n ≤ hi with
    | some (_, _, k) => k
    | none => 0

/-- Hangul syllables are a leading consonant, a vowel and perhaps a trailing
consonant. -/
def decompose (c : Char) : List Char :=
  let n := c.toNat
  if n < 0xC0 then [c]
  else if 0xAC00 ≤ n && n ≤ 0xD7A3 then
    let s := n - 0xAC00
    let pair :=
      [Char.ofNat (0x1100 + s / 588), Char.ofNat (0x1161 + s % 588 / 28)]
    if s % 28 = 0 then pair else pair ++ [Char.ofNat (0x11A7 + s % 28)]
  else (listed? decompositions n).getD [c]

/-- Puts a character before a text in order, behind the characters of smaller
nonzero class. -/
def place (c : Char) : List Char → List Char
  | [] => [c]
  | d :: ds =>
    if combiningClass d ≠ 0 && combiningClass d < combiningClass c then
      d :: place c ds
    else c :: d :: ds

def reorder (cs : List Char) : List Char := cs.foldr place []

def composites : List (Nat × List Char) :=
  decompositions.flatMap fun (first, images) =>
    (Text.pieces ' ' images.toList).zipIdx.map fun (word, i) =>
      (first + i, (Text.pieces '.' word).map fun digits =>
        Char.ofNat (hexNumber digits))

def composite? (a b : Char) : Option Char :=
  let x := a.toNat
  let y := b.toNat
  if 0x1100 ≤ x && x < 0x1113 && 0x1161 ≤ y && y < 0x1176 then
    some (Char.ofNat (0xAC00 + ((x - 0x1100) * 21 + (y - 0x1161)) * 28))
  else if 0xAC00 ≤ x && x ≤ 0xD7A3 && (x - 0xAC00) % 28 = 0 &&
    0x11A7 < y && y < 0x11C3 then
    some (Char.ofNat (x + (y - 0x11A7)))
  else if y < 0x300 then none
  else
    let whole := decompose a ++ [b]
    (composites.find? (·.2 == whole)).map fun (n, _) => Char.ofNat n

/-- The last starter, the characters after it that did not compose, and what
stands before. -/
structure Composing where
  before : List Char
  starter : Option Char
  after : List Char
  lastClass : Nat

def Composing.text (s : Composing) : List Char :=
  s.before ++ s.starter.toList ++ s.after

def Composing.add (s : Composing) (c : Char) : Composing :=
  let k := combiningClass c
  let reachable := s.after.isEmpty || s.lastClass < k
  match if reachable then s.starter.bind (composite? · c) else none with
  | some d => { s with starter := some d }
  | none =>
    if k = 0 then
      { before := s.text, starter := some c, after := [], lastClass := 0 }
    else { s with after := s.after ++ [c], lastClass := k }

def compose (cs : List Char) : List Char :=
  if cs.all (·.toNat < 0x300) then cs
  else ((reorder (cs.flatMap decompose)).foldl Composing.add
    ⟨[], none, [], 0⟩).text

end Interception.Url.Domain
