import Interception.Wire.Failure
import Interception.Uuid

/-!
# Decoding plain values

A decoder turns a JSON value into a value of some type or says why it cannot.
Values that had to be set aside before their owner was known, such as the fields
of a tagged union, are read as `buffered`: there a variant may be named by its
index, an empty object stands for nothing, and a list that is too long is
measured against the items that were used.
-/

namespace Interception.Wire

inductive Reading where
  | direct
  | buffered
deriving DecidableEq, Repr

abbrev Decoder (α : Type) := Reading → Json → Except Failure α

def string : Decoder String := fun _ v =>
  match v with
  | .str s => .ok s
  | v => .error (.wrongType v "a string")

def boolean : Decoder Bool := fun _ v =>
  match v with
  | .bool b => .ok b
  | v => .error (.wrongType v "a boolean")

/-- Integers from `lo` on and below `hi`; `name` is what diagnostics call the
range. -/
def integer (name : String) (lo hi : Int) : Decoder Int := fun _ v =>
  match v with
  | .int n => if lo ≤ n && n < hi then .ok n else .error (.wrongValue v name)
  | v => .error (.wrongType v name)

def natural (width : Nat) : Decoder Nat := fun r v =>
  (integer ("u" ++ toString width) 0 (Nat.pow 2 width) r v).map Int.toNat

def word16 : Decoder Nat := natural 16

def word32 : Decoder Nat := natural 32

def word64 : Decoder Nat := natural 64

def signed64 : Decoder Int := integer "i64" (-Nat.pow 2 63) (Nat.pow 2 63)

/-- An integer also stands for the double nearest to it. -/
def double : Decoder Float := fun _ v =>
  match v with
  | .float x => .ok x
  | .int n => .ok (Float.ofInt n)
  | v => .error (.wrongType v "f64")

def uuid : Decoder Uuid := fun _ v =>
  match v with
  | .str s =>
    match Uuid.ofText? s with
    | some u => .ok u
    | none => .error .malformedUuid
  | v => .error (.wrongType v "a formatted UUID string")

def nullable {α : Type} (decode : Decoder α) : Decoder (Option α) := fun r v =>
  match v with
  | .null => .ok none
  | v => (decode r v).map some

def items {α : Type} (decode : Decoder α) (r : Reading) :
    List Json → Except Failure (List α)
  | [] => .ok []
  | v :: vs => do
    let a ← decode r v
    let as ← items decode r vs
    return a :: as

def sequence {α : Type} (decode : Decoder α) : Decoder (List α) := fun r v =>
  match v with
  | .arr vs => items decode r vs
  | v => .error (.wrongType v "a sequence")

/-! ## Named variants -/

/-- A value for each wire name, in the order in which diagnostics list them. -/
abbrev Variants (α : Type) := List (String × α)

def Variants.named {α : Type} (variants : Variants α) (name : String) :
    Except Failure α :=
  match variants.find? (·.1 == name) with
  | some (_, a) => .ok a
  | none => .error (.unknownVariant name (variants.map (·.1)))

def unit : Decoder Unit := fun r v =>
  match r, v with
  | _, .null => .ok ()
  | .buffered, .obj [] => .ok ()
  | _, v => .error (.wrongType v "unit")

/-- A variant by its name alone, or as an object whose one field is the name
with null. -/
def variant {α : Type} (variants : Variants α) : Decoder α := fun r v =>
  match v with
  | .str s => variants.named s
  | .obj [(name, value)] => do
    let a ← variants.named name
    unit r value
    return a
  | .obj _ => .error (.wrongValue v "map with a single key")
  | v => .error (.wrongType v "string or map")

/-- The name of a variant; in buffered values its index will do. -/
def identifier {α : Type} (variants : Variants α) : Decoder α := fun r v =>
  match r, v with
  | _, .str s => variants.named s
  | .buffered, .int (.ofNat n) =>
    match variants[n]? with
    | some (_, a) => .ok a
    | none =>
      .error
        (.wrongValue v
          ("variant index 0 <= i < " ++ toString (List.length variants)))
  | _, v => .error (.wrongType v "variant identifier")

end Interception.Wire
