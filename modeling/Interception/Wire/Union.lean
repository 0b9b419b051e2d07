import Interception.Wire.Record

/-!
# Decoding tagged unions

Two layouts. In an *adjacent* union the tag and the content are two fields of an
object, or the two items of an array. In an *internal* union the tag is one
field among those of the variant, or the first item of an array that goes on
with the variant's fields.
-/

namespace Interception.Wire

variable {α : Type}

def adjacent (name tag content : String) (variants : Variants (Decoder α)) :
    Decoder α := fun r v =>
  match v with
  | .obj fields =>
    match Json.field? tag fields with
    | none => .error (.missingField tag)
    | some t => do
      let decode ← variant variants r t
      match Json.field? content fields with
      | none => throw (.missingField content)
      | some c => decode r c
  | .arr [] => .error (.wrongLength 0 ("adjacently tagged enum " ++ name))
  | .arr (t :: rest) => do
    let decode ← identifier variants r t
    match rest with
    | [] => throw (.wrongLength 1 ("adjacently tagged enum " ++ name))
    | c :: extra =>
      let a ← decode r c
      if extra.isEmpty then return a else throw (surplus r (2 + extra.length) 2)
  | v => .error (.wrongType v ("adjacently tagged enum " ++ name))

/-- How the variant of an internal union is read: from the fields beside the
tag, or from the items after it. -/
structure Body (α : Type) where
  ofFields : List (String × Json) → Except Failure α
  ofItems : List Json → Except Failure α

def Body.record (name : String) (rec : Record α) : Body α where
  ofFields := rec.readFields .buffered
  ofItems := rec.readItems name .buffered

/-- A variant without fields; those of other variants are ignored. -/
def Body.constant (a : α) : Body α where
  ofFields _ := .ok a
  ofItems items :=
    if items.isEmpty then .ok a else .error (surplus .buffered items.length 0)

def internal (name tag : String) (variants : Variants (Body α)) :
    Decoder α := fun r v =>
  match v with
  | .obj fields =>
    match Json.field? tag fields with
    | none => .error (.missingField tag)
    | some t => do
      let body ← identifier variants r t
      body.ofFields (fields.filter (·.1 != tag))
  | .arr [] => .error (.missingField tag)
  | .arr (t :: rest) => do
    let body ← identifier variants r t
    body.ofItems rest
  | v => .error (.wrongType v ("internally tagged enum " ++ name))

end Interception.Wire
