/-!
# The shortest decimal of a binary number

A finite double is `m · 2^e`; the reals that round to it form an interval around
it, whose ends belong to it when `m` is even. Among the decimals in that
interval `shortest` takes one with the fewest digits, and of two such the nearer
one. All arithmetic is exact, on naturals.
-/

namespace Interception

/-- The positive number `digits · 10^exponent`. -/
structure Decimal where
  digits : Nat
  exponent : Int
deriving DecidableEq, Repr

namespace Decimal

/-- The positive number `mantissa · 2^exponent`. `narrow` says that the gap to
the next smaller double is half the gap to the next larger one. -/
structure Binary where
  mantissa : Nat
  exponent : Int
  narrow : Bool
deriving DecidableEq, Repr

def Binary.ofBits (bits : UInt64) : Binary :=
  let fraction := bits.toNat % Nat.pow 2 52
  let biased : Nat := bits.toNat / Nat.pow 2 52 % Nat.pow 2 11
  if biased = 0 then ⟨fraction, -1074, false⟩
  else ⟨fraction + Nat.pow 2 52, (biased : Int) - 1075,
    fraction == 0 && biased > 1⟩

structure Ratio where
  num : Nat
  den : Nat

def Ratio.scale (r : Ratio) (base : Nat) (exponent : Int) : Ratio :=
  match exponent with
  | .ofNat n => ⟨r.num * base.pow n, r.den⟩
  | .negSucc n => ⟨r.num, r.den * base.pow (n + 1)⟩

def Ratio.lt (a b : Ratio) : Bool := a.num * b.den < b.num * a.den

def Ratio.le (a b : Ratio) : Bool := a.num * b.den ≤ b.num * a.den

def Ratio.dist (a b : Ratio) : Ratio :=
  let x := a.num * b.den
  let y := b.num * a.den
  ⟨if x ≤ y then y - x else x - y, a.den * b.den⟩

namespace Binary

def value (b : Binary) : Ratio := Ratio.scale ⟨4 * b.mantissa, 4⟩ 2 b.exponent

def lower (b : Binary) : Ratio :=
  Ratio.scale ⟨4 * b.mantissa - (if b.narrow then 1 else 2), 4⟩ 2 b.exponent

def upper (b : Binary) : Ratio :=
  Ratio.scale ⟨4 * b.mantissa + 2, 4⟩ 2 b.exponent

/-- Whether a quotient rounds to the number. -/
def contains (b : Binary) (r : Ratio) : Bool :=
  if b.mantissa % 2 = 0 then b.lower.le r && r.le b.upper else b.lower.lt r &&
    r.lt b.upper

/-- The place of the leading digit: the `k` with `10^k ≤ value < 10^(k+1)`. -/
def magnitude (b : Binary) : Int :=
  let v := b.value
  if v.den ≤ v.num then ((Nat.toDigits 10 (v.num / v.den)).length : Int) - 1
  else
    -- `n` digits before the point of the inverse put the value between 10^(-n)
    -- and 10^(1-n)
    let n := (Nat.toDigits 10 (v.den / v.num)).length
    if v.num * Nat.pow 10 (n - 1) = v.den then 1 - (n : Int) else -(n : Int)

def nearestAt (b : Binary) (exponent : Int) : Option Decimal :=
  let v := b.value
  let scaled := v.scale 10 (-exponent)
  let below := scaled.num / scaled.den
  let decimal (d : Nat) : Ratio := Ratio.scale ⟨d, 1⟩ 10 exponent
  let fits (d : Nat) : Bool := d != 0 && b.contains (decimal d)
  match fits below, fits (below + 1) with
  | true, true =>
    let down := (decimal below).dist v
    let up := (decimal (below + 1)).dist v
    let d :=
      if down.lt up || (down.le up && below % 2 = 0) then below else below + 1
    some ⟨d, exponent⟩
  | true, false => some ⟨below, exponent⟩
  | false, true => some ⟨below + 1, exponent⟩
  | false, false => none

def search (b : Binary) (exponent : Int) : Nat → Decimal
  | 0 => ⟨0, 0⟩
  | places + 1 =>
    match b.nearestAt exponent with
    | some d => d
    | none => b.search (exponent - 1) places

end Binary

def stripZeros : Nat → Decimal → Decimal
  | 0, d => d
  | fuel + 1, d =>
    if d.digits % 10 = 0 && d.digits != 0 then
      stripZeros fuel ⟨d.digits / 10, d.exponent + 1⟩
    else d

/-- Seventeen digits always suffice. -/
def shortest (b : Binary) : Decimal :=
  stripZeros 20 (b.search b.magnitude 18)

end Decimal

end Interception
