import Interception.Text.Sorted

/-!
# JSON values

Numbers are integers or doubles, and the two are kept apart: a value read from
`1.0` is not one read from `1`. The fields of an object are kept in order;
`canonical` sorts them and lets the last of several fields of one name win,
which is the form that decoding works on.
-/

namespace Interception

inductive Json where
  | null
  | bool (b : Bool)
  | int (n : Int)
  | float (x : Float)
  | str (s : String)
  | arr (items : List Json)
  | obj (fields : List (String × Json))
deriving Inhabited, Repr

namespace Json

/-- Puts a field in its place among sorted fields, replacing one of the same
name. -/
def insertField (name : String) (value : Json) :
    List (String × Json) → List (String × Json)
  | [] => [(name, value)]
  | (n, v) :: rest =>
    if name = n then (name, value) :: rest
    else if Text.precedes name n then (name, value) :: (n, v) :: rest
    else (n, v) :: insertField name value rest

mutual

def canonical : Json → Json
  | .arr items => .arr (canonicalItems items)
  | .obj fields => .obj (canonicalFields fields [])
  | v => v

def canonicalItems : List Json → List Json
  | [] => []
  | v :: vs => canonical v :: canonicalItems vs

def canonicalFields :
    List (String × Json) → List (String × Json) → List (String × Json)
  | [], acc => acc
  | (n, v) :: rest, acc =>
    canonicalFields rest (insertField n (canonical v) acc)

end

def field? (name : String) (fields : List (String × Json)) : Option Json :=
  (fields.find? (·.1 == name)).map (·.2)

def optField (name : String) (value : Option Json) : List (String × Json) :=
  match value with
  | some v => [(name, v)]
  | none => []

def orNull : Option Json → Json
  | some v => v
  | none => .null

/-- A finite double; JSON has no others, and null stands for them. -/
def ofFloat (x : Float) : Json := if x.isFinite then .float x else .null

def strs (ss : List String) : Json := .arr (ss.map .str)

end Json

end Interception
