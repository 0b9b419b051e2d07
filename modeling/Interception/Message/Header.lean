import Interception.Message.Token
import Interception.Message.WireBytes

/-!
# Headers

A header line is a name with a text; on the wire its value travels as bytes.
Names are compared without regard to the case of ASCII letters.
-/

namespace Interception.Message

structure Line where
  name : String
  value : String
deriving DecidableEq, Repr

structure Header where
  name : String
  value : WireBytes
deriving DecidableEq, Repr

namespace Header

def ofText (name value : String) : Header := ⟨name, .text value⟩

def ofLine (line : Line) : Header := ofText line.name line.value

/-- Checks the name first, then the value. -/
def toLine (h : Header) : Except Error Line := do
  unless isToken h.name do throw (.invalidArgument (.headerName h.name))
  let value ← h.value.decodeText
  unless isFieldValue value do
    throw (.invalidArgument (.headerValue h.name value))
  return ⟨h.name, value⟩

/-- The bytes of the line, with the colon, the blank and the line break; a value
that does not decode counts as empty. -/
def wireSize (h : Header) : Nat :=
  let value := match h.value.size with
    | .ok n => n
    | .error _ => 0
  h.name.utf8ByteSize + 2 + value + 2

def record : Wire.Record Header :=
  Header.mk <$> .required "name" Wire.string
    <*> .required "value" WireBytes.decoder

def decoder : Wire.Decoder Header := record.decode "struct Header"

def toJson (h : Header) : Json :=
  .obj [("name", .str h.name), ("value", h.value.toJson)]

end Header

/-- All lines, or the first failure. -/
def linesOf : List Header → Except Error (List Line)
  | [] => .ok []
  | h :: hs => do
    let line ← h.toLine
    let lines ← linesOf hs
    return line :: lines

def headersOf (lines : List Line) : List Header := lines.map Header.ofLine

def lineValue? (lines : List Line) (name : String) : Option String :=
  (lines.find? (sameName ·.name name)).map (·.value)

/-! ## Changing a list of lines -/

def eraseName (lines : List Line) (name : String) : List Line :=
  lines.filter fun l => !sameName l.name name

def appendTo? (name value : String) : List Line → Option (List Line)
  | [] => none
  | l :: ls =>
    if sameName l.name name then
      some ({ l with value := l.value ++ ", " ++ value } :: ls)
    else (appendTo? name value ls).map (l :: ·)

/-- Sets a header, in place of all lines of its name or, merging, added to the
first of them. Lines that set cookies are never joined, since commas may stand
in them. -/
def setLine (lines : List Line) (name value : String) (merge : Bool) :
    List Line :=
  if merge then
    if sameName name "set-cookie" then lines ++ [⟨name, value⟩]
    else (appendTo? name value lines).getD (lines ++ [⟨name, value⟩])
  else eraseName lines name ++ [⟨name, value⟩]

/-- Lines with whether an earlier one, or one of the names `seen`, has the same
name. -/
def withRepeats (seen : List String) : List Line → List (Line × Bool)
  | [] => []
  | l :: ls =>
    let name := lowerName l.name
    (l, seen.contains name) :: withRepeats (name :: seen) ls

/-! ## Settled headers -/

/-- Headers that are settled once the head of a response was read. -/
def settledNames : List String :=
  ["content-encoding", "content-length", "content-type", "trailer",
    "transfer-encoding"]

def isSettled (name : String) : Bool := settledNames.contains (lowerName name)

end Interception.Message
