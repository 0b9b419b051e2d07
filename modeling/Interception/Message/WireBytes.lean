import Interception.Error
import Interception.Wire.Union

/-!
# Bytes on the wire

JSON has no bytes, so a value travels as text where it is valid UTF-8, and in
Base64 otherwise.
-/

namespace Interception.Message

inductive WireBytes where
  | text (s : String)
  | base64 (s : String)
deriving DecidableEq, Repr

namespace WireBytes

def empty : WireBytes := .text ""

def ofBytes (bytes : List UInt8) : WireBytes :=
  match Text.ofUtf8? bytes with
  | some s => .text s
  | none => .base64 (Base64.encode bytes)

def decode : WireBytes → Except Error (List UInt8)
  | .text s => .ok (Text.utf8 s)
  | .base64 s =>
    match Base64.decode s with
    | .ok bytes => .ok bytes
    | .error cause => .error (.invalidArgument (.base64 cause))

/-- The value as text. Bytes that are no UTF-8 become one character each. -/
def decodeText : WireBytes → Except Error String
  | .text s => .ok s
  | .base64 s => do
    let bytes ← decode (.base64 s)
    return (Text.ofUtf8? bytes).getD (Text.latin1 bytes)

def size (v : WireBytes) : Except Error Nat := do
  return (← v.decode).length

def variants : Wire.Variants (Wire.Decoder WireBytes) :=
  [("string", fun r v => (Wire.string r v).map .text),
    ("base64", fun r v => (Wire.string r v).map .base64)]

def decoder : Wire.Decoder WireBytes :=
  Wire.adjacent "BytesValue" "type" "value" variants

def toJson : WireBytes → Json
  | .text s => .obj [("type", .str "string"), ("value", .str s)]
  | .base64 s => .obj [("type", .str "base64"), ("value", .str s)]

end WireBytes

end Interception.Message
