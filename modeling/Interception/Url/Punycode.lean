/-!
# Punycode

Labels beyond ASCII as ASCII: the ASCII characters come first, then, in
ascending order, the other code points, each as the distance from the one
before, written in base 36 with digits whose weights adapt to the distances seen
so far.
-/

namespace Interception.Url.Punycode

def digitChar (d : Nat) : Char :=
  if d < 26 then Char.ofNat (97 + d) else Char.ofNat (22 + d)

def digitValue? (c : Char) : Option Nat :=
  if 'a' ≤ c && c ≤ 'z' then some (c.toNat - 97)
  else if 'A' ≤ c && c ≤ 'Z' then some (c.toNat - 65)
  else if c.isDigit then some (c.toNat - 22)
  else none

/-- The threshold of the digit at place `k`: it grows with the distance from the
bias, within the digits from 1 to 26. -/
def threshold (k bias : Nat) : Nat := min 26 (max 1 (k - bias))

theorem threshold_mem (k bias : Nat) :
    1 ≤ threshold k bias ∧ threshold k bias ≤ 26 := by
  unfold threshold
  omega

def shrink (delta k : Nat) : Nat × Nat :=
  if 455 < delta then shrink (delta / 35) (k + 36) else (delta, k)
termination_by delta
decreasing_by exact Nat.div_lt_self (by omega) (by omega)

def adapt (delta count : Nat) (first : Bool) : Nat :=
  let scaled := if first then delta / 700 else delta / 2
  let (d, k) := shrink (scaled + scaled / count) 0
  k + 36 * d / (d + 38)

def encodeNumber (bias k q : Nat) : List Char :=
  let t := threshold k bias
  if q < t then [digitChar q]
  else digitChar (t + (q - t) % (36 - t)) ::
    encodeNumber bias (k + 36) ((q - t) / (36 - t))
termination_by q
decreasing_by
  have := threshold_mem k bias
  have := Nat.div_le_self (q - threshold k bias) (36 - threshold k bias)
  omega

/-- What is carried along the input: the text so far, the distance since the
last code point written, the bias, and how many code points are written. -/
structure Progress where
  out : List Char
  delta : Nat
  bias : Nat
  written : Nat

/-- One code point of the input, while those equal to `m` are being written. -/
def Progress.visit (m basic : Nat) (p : Progress) (c : Char) : Progress :=
  if c.toNat < m then { p with delta := p.delta + 1 }
  else if c.toNat = m then
    { out := p.out ++ encodeNumber p.bias 36 p.delta
      delta := 0
      bias := adapt p.delta (p.written + 1) (p.written = basic)
      written := p.written + 1 }
  else p

/-- Writes the code points of the ascending list `ms`, `n` being the least one
not yet dealt with. -/
def encodeFrom (input : List Char) (basic n : Nat) :
    List Nat → Progress → Progress
  | [], p => p
  | m :: ms, p =>
    let p := { p with delta := p.delta + (m - n) * (p.written + 1) }
    let p := input.foldl (Progress.visit m basic) p
    encodeFrom input basic (m + 1) ms { p with delta := p.delta + 1 }

def encode (input : List Char) : List Char :=
  let basic := input.filter (·.toNat < 128)
  let others := ((input.map Char.toNat).filter (128 ≤ ·)).mergeSort.eraseDups
  let start := if basic.isEmpty then [] else basic ++ ['-']
  (encodeFrom input basic.length 128 others ⟨start, 0, 72, basic.length⟩).out

def decodeNumber (bias k weight value : Nat) :
    List Char → Option (Nat × List Char)
  | [] => none
  | c :: cs => do
    let d ← digitValue? c
    let value := value + d * weight
    let t := threshold k bias
    if d < t then return (value, cs)
    else decodeNumber bias (k + 36) (weight * (36 - t)) value cs

/-- Inserts code points as long as there are distances; each takes at least one
unit of fuel. -/
def decodeFrom (n i bias : Nat) (out : List Char) :
    Nat → List Char → Option (List Char)
  | _, [] => some out
  | 0, _ => none
  | fuel + 1, cs => do
    let (delta, rest) ← decodeNumber bias 36 1 0 cs
    let count := out.length + 1
    let place := i + delta
    let n := n + place / count
    let at_ := place % count
    guard (n < 0xD800 || (0xE000 ≤ n && n < 0x110000))
    decodeFrom n (at_ + 1) (adapt delta count (i = 0))
      (out.take at_ ++ Char.ofNat n :: out.drop at_)
      fuel rest

/-- The part before the last hyphen, and the part after it. A hyphen in front
separates nothing. -/
def splitLastHyphen (cs : List Char) : List Char × List Char :=
  let tail := (cs.reverse.takeWhile (· != '-')).reverse
  if cs.length ≤ tail.length + 1 then ([], cs)
  else (cs.take (cs.length - tail.length - 1), tail)

def decode (cs : List Char) : Option (List Char) :=
  let (basic, rest) := splitLastHyphen cs
  if basic.all (·.toNat < 128) then decodeFrom 128 0 72 basic rest.length rest
  else none

end Interception.Url.Punycode
