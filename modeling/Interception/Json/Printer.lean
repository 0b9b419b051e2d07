import Interception.Json.Basic
import Interception.Decimal.Shortest

/-!
# Writing JSON

`compact` writes a value without blanks, `pretty` with one field or item a line
and two blanks per level. Doubles are written with the fewest digits that read
back, always with a point or an exponent.
-/

namespace Interception.Json

/-! ## Numbers -/

/-- Numbers from `10^-5` up to below `10^16` are written with a point, the
others with one digit before the point and a signed exponent. -/
def decimalChars (d : Decimal) : List Char :=
  let digits := Nat.toDigits 10 d.digits
  let point : Int := digits.length + d.exponent
  if 0 ≤ d.exponent && point ≤ 16 then
    digits ++ List.replicate d.exponent.toNat '0' ++ ['.', '0']
  else if 0 < point && point ≤ 16 then
    digits.take point.toNat ++ '.' :: digits.drop point.toNat
  else if -5 < point && point ≤ 0 then
    '0' :: '.' :: List.replicate (-point).toNat '0' ++ digits
  else
    let exponent := point - 1
    let sign := if 0 ≤ exponent then '+' else '-'
    let lead := match digits with
      | [] => []
      | [c] => [c]
      | c :: cs => c :: '.' :: cs
    lead ++ 'e' :: sign :: Nat.toDigits 10 exponent.natAbs

def floatText (x : Float) : String :=
  let bits := x.toBits
  let sign := if Nat.pow 2 63 ≤ bits.toNat then ['-'] else []
  if x == 0 then String.ofList (sign ++ ['0', '.', '0'])
  else String.ofList
    (sign ++ decimalChars (Decimal.shortest (Decimal.Binary.ofBits bits)))

/-! ## Strings -/

def hexDigit (n : Nat) : Char := (Nat.toDigits 16 (n % 16)).headD '0'

def escapeChar (c : Char) : List Char :=
  if c = '"' then ['\\', '"']
  else if c = '\\' then ['\\', '\\']
  else if c = '\n' then ['\\', 'n']
  else if c = '\r' then ['\\', 'r']
  else if c = '\t' then ['\\', 't']
  else if c.toNat = 8 then ['\\', 'b']
  else if c.toNat = 12 then ['\\', 'f']
  else if c.toNat < 0x20 then
    ['\\', 'u', '0', '0', hexDigit (c.toNat / 16), hexDigit c.toNat]
  else [c]

def stringText (s : String) : String :=
  String.ofList ('"' :: s.toList.flatMap escapeChar ++ ['"'])

def scalarText : Json → String
  | .null => "null"
  | .bool b => if b then "true" else "false"
  | .int n => toString n
  | .float x => if x.isFinite then floatText x else "null"
  | .str s => stringText s
  | .arr _ => "[]"
  | .obj _ => "\x7b\x7d"

/-! ## Layouts -/

mutual

def compact : Json → String
  | .arr items => "[" ++ compactItems items ++ "]"
  | .obj fields => "\x7b" ++ compactFields fields ++ "\x7d"
  | v => scalarText v

def compactItems : List Json → String
  | [] => ""
  | [v] => compact v
  | v :: vs => compact v ++ "," ++ compactItems vs

def compactFields : List (String × Json) → String
  | [] => ""
  | [(n, v)] => stringText n ++ ":" ++ compact v
  | (n, v) :: rest =>
    stringText n ++ ":" ++ compact v ++ "," ++ compactFields rest

end

def indent (level : Nat) : String :=
  String.ofList (List.replicate (2 * level) ' ')

mutual

def prettyAt (level : Nat) : Json → String
  | .arr (v :: vs) =>
    "[\n" ++ prettyItems (level + 1) (v :: vs) ++ "\n" ++ indent level ++ "]"
  | .obj (f :: fs) =>
    "\x7b\n" ++ prettyFields (level + 1) (f :: fs) ++ "\n" ++
      indent level ++ "\x7d"
  | v => scalarText v

def prettyItems (level : Nat) : List Json → String
  | [] => ""
  | [v] => indent level ++ prettyAt level v
  | v :: vs => indent level ++ prettyAt level v ++ ",\n" ++ prettyItems level vs

def prettyFields (level : Nat) : List (String × Json) → String
  | [] => ""
  | [(n, v)] => indent level ++ stringText n ++ ": " ++ prettyAt level v
  | (n, v) :: rest =>
    indent level ++ stringText n ++ ": " ++ prettyAt level v ++ ",\n" ++
      prettyFields level rest

end

def pretty (v : Json) : String := prettyAt 0 v

end Interception.Json
