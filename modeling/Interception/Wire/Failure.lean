import Interception.Json.Printer
import Interception.Text.Quoted

/-!
# Why a JSON value does not decode
-/

namespace Interception.Wire

/-- `expected` is the noun phrase that completes "expected …". -/
inductive Failure where
  | wrongType (found : Json) (expected : String)
  | wrongValue (found : Json) (expected : String)
  | wrongLength (length : Nat) (expected : String)
  | missingField (name : String)
  | unknownVariant (name : String) (variants : List String)
  | malformedUuid
deriving Repr

def found : Json → String
  | .null => "null"
  | .bool b => "boolean `" ++ (if b then "true" else "false") ++ "`"
  | .int n => "integer `" ++ toString n ++ "`"
  | .float x => "floating point `" ++ Json.floatText x ++ "`"
  | .str s => "string " ++ Text.quoted s
  | .arr _ => "sequence"
  | .obj _ => "map"

def marked (name : String) : String := "`" ++ name ++ "`"

def oneOf : List String → String
  | [] => "there are no variants"
  | [a] => "expected " ++ marked a
  | [a, b] => "expected " ++ marked a ++ " or " ++ marked b
  | many => "expected one of " ++ ", ".intercalate (many.map marked)

def Failure.message : Failure → String
  | .wrongType v expected =>
    "invalid type: " ++ found v ++ ", expected " ++ expected
  | .wrongValue v expected =>
    "invalid value: " ++ found v ++ ", expected " ++ expected
  | .wrongLength n expected =>
    "invalid length " ++ toString n ++ ", expected " ++ expected
  | .missingField name => "missing field " ++ marked name
  | .unknownVariant name variants =>
    "unknown variant " ++ marked name ++ ", " ++ oneOf variants
  | .malformedUuid => "UUID parsing failed"

end Interception.Wire
