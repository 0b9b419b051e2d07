import Interception.Wire.Decoder

/-!
# Decoding records

A record has named fields in a fixed order. It is read from an object, whose
unknown fields are ignored, or from an array of the field values in order. From
an object the first field in the object's own order that does not decode is
reported, and only then the first one that is missing, in the record's order.
-/

namespace Interception.Wire

def counted (n : Nat) (noun : String) : String :=
  toString n ++ " " ++ noun ++ (if n = 1 then "" else "s")

/-- What a list of `length` items with `used` of them read gives when items are
left. -/
def surplus (r : Reading) (length used : Nat) : Failure :=
  match r with
  | .direct => .wrongLength length "fewer elements in array"
  | .buffered => .wrongLength length (counted used "element" ++ " in sequence")

/-- A reader of some of the fields of a record.

`checks` gives the names with the test that each value has to pass. `ofItems`
reads from a list of values, given what the whole record is called and how many
fields stand before; it returns how many stand before what follows, and the
values left. -/
structure Record (α : Type) where
  checks : List (String × (Reading → Json → Except Failure Unit))
  ofFields : Reading → List (String × Json) → Except Failure α
  ofItems : Reading → String → Nat → List Json →
    Except Failure (α × Nat × List Json)

namespace Record

variable {α β : Type}

def done (a : α) : Record α where
  checks := []
  ofFields _ _ := .ok a
  ofItems _ _ n items := .ok (a, n, items)

def apply (f : Record (α → β)) (x : Record α) : Record β where
  checks := f.checks ++ x.checks
  ofFields r fields := do
    let g ← f.ofFields r fields
    let a ← x.ofFields r fields
    return g a
  ofItems r expected n items := do
    let (g, n, items) ← f.ofItems r expected n items
    let (a, n, items) ← x.ofItems r expected n items
    return (g a, n, items)

instance : Applicative Record where
  pure := done
  seq f x := apply f (x ())

def check (decode : Decoder α) (r : Reading) (v : Json) : Except Failure Unit :=
  (decode r v).map fun _ => ()

/-- A field with what stands for it when it is left out of an object or off the
end of an array. -/
def field (name : String) (decode : Decoder α) (inObject inArray : Option α) :
    Record α where
  checks := [(name, check decode)]
  ofFields r fields :=
    match Json.field? name fields, inObject with
    | some v, _ => decode r v
    | none, some a => .ok a
    | none, none => .error (.missingField name)
  ofItems r expected n items :=
    match items, inArray with
    | v :: rest, _ => do
      let a ← decode r v
      return (a, n + 1, rest)
    | [], some a => .ok (a, n + 1, [])
    | [], none => .error (.wrongLength n expected)

def required (name : String) (decode : Decoder α) : Record α :=
  field name decode none none

def optional (name : String) (decode : Decoder α) : Record (Option α) :=
  field name (nullable decode) (some none) (some none)

/-- A field that may be null or left out of an object, but has its place in an
array. -/
def present (name : String) (decode : Decoder α) : Record (Option α) :=
  field name (nullable decode) (some none) none

def runChecks (checks : List (String × (Reading → Json → Except Failure Unit)))
    (r : Reading) : List (String × Json) → Except Failure Unit
  | [] => .ok ()
  | (name, v) :: rest => do
    match checks.find? (·.1 == name) with
    | some (_, test) => test r v
    | none => pure ()
    runChecks checks r rest

def readFields (rec : Record α) (r : Reading) (fields : List (String × Json)) :
    Except Failure α := do
  runChecks rec.checks r fields
  rec.ofFields r fields

def readItems (rec : Record α) (name : String) (r : Reading)
    (items : List Json) : Except Failure α := do
  let expected := name ++ " with " ++ counted rec.checks.length "element"
  let (a, n, rest) ← rec.ofItems r expected 0 items
  if rest.isEmpty then return a else throw (surplus r items.length n)

def decode (name : String) (rec : Record α) : Decoder α := fun r v =>
  match v with
  | .obj fields => rec.readFields r fields
  | .arr items => rec.readItems name r items
  | v => .error (.wrongType v name)

/-- A record whose fields stand beside those of another part in one object. Its
own fields come first; the other part is then read, as buffered, from the fields
that are left. -/
def beside (name : String) (own : Record α)
    (part : List (String × Json) → Except Failure β) :
    Decoder (α × β) := fun r v =>
  match v with
  | .obj fields => do
    let a ← own.readFields r fields
    let b ← part (fields.filter fun f => !own.checks.any (·.1 == f.1))
    return (a, b)
  | v => .error (.wrongType v name)

end Record

end Interception.Wire
