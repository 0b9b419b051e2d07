import Interception.Json.Reader

/-!
# Reading some fields of an object

A reader that knows which fields it wants passes over the others without
decoding them. What is passed over has to be well formed, but not to have a
value: a number may be out of range, and surrogates need no partner.
-/

namespace Interception.Json

def skipString : List Char → Option (List Char)
  | '"' :: rest => some rest
  | '\\' :: 'u' :: a :: b :: c :: d :: rest =>
    if (hex4? a b c d).isSome then skipString rest else none
  | '\\' :: c :: rest =>
    if (shortEscape? c).isSome then skipString rest else none
  | c :: rest => if 0x20 ≤ c.toNat && c != '\\' then skipString rest else none
  | [] => none

def skipNumber (cs : List Char) : Option (List Char) := do
  let cs := match cs with
    | '-' :: rest => rest
    | _ => cs
  let (_, cs) ← wholePart cs
  let (_, cs) ← fractionPart cs
  let (_, cs) ← exponentPart cs
  return cs

mutual

/-- Each call spends one unit of fuel; `parseKnown?` gives enough for any
text. -/
def skipValue : Nat → List Char → Option (List Char)
  | 0, _ => none
  | fuel + 1, cs =>
    match skipGap cs with
    | 'n' :: 'u' :: 'l' :: 'l' :: rest => some rest
    | 't' :: 'r' :: 'u' :: 'e' :: rest => some rest
    | 'f' :: 'a' :: 'l' :: 's' :: 'e' :: rest => some rest
    | '"' :: rest => skipString rest
    | '[' :: rest =>
      match skipGap rest with
      | ']' :: left => some left
      | _ => skipItems fuel rest
    | '\x7b' :: rest =>
      match skipGap rest with
      | '\x7d' :: left => some left
      | _ => skipFields fuel rest
    | other => skipNumber other

def skipItems : Nat → List Char → Option (List Char)
  | 0, _ => none
  | fuel + 1, cs => do
    let rest ← skipValue fuel cs
    match skipGap rest with
    | ',' :: rest => skipItems fuel rest
    | ']' :: left => return left
    | _ => none

def skipFields : Nat → List Char → Option (List Char)
  | 0, _ => none
  | fuel + 1, cs =>
    match skipGap cs with
    | '"' :: rest => do
      let rest ← skipString rest
      match skipGap rest with
      | ':' :: rest =>
        let rest ← skipValue fuel rest
        match skipGap rest with
        | ',' :: rest => skipFields fuel rest
        | '\x7d' :: left => return left
        | _ => none
      | _ => none
    | _ => none

end

def knownFields (names : List String) :
    Nat → List Char → Option (List (String × Json) × List Char)
  | 0, _ => none
  | fuel + 1, cs =>
    match skipGap cs with
    | '"' :: rest => do
      let (name, rest) ← stringBody rest
      let name := String.ofList name
      match skipGap rest with
      | ':' :: rest =>
        let (field, rest) ←
          if names.contains name then
            (value fuel rest).map fun (v, left) => ([(name, v)], left)
          else (skipValue fuel rest).map fun left => ([], left)
        match skipGap rest with
        | ',' :: rest =>
          let (fs, left) ← knownFields names fuel rest
          return (field ++ fs, left)
        | '\x7d' :: left => return (field, left)
        | _ => none
      | _ => none
    | _ => none

/-- Reads a whole text; of an object only the fields of those names. -/
def parseKnown? (names : List String) (text : String) : Option Json :=
  match skipGap text.toList with
  | '\x7b' :: rest =>
    match skipGap rest with
    | '\x7d' :: _ => parse? text
    | _ =>
      match knownFields names (2 * rest.length + 2) rest with
      | some (fs, left) =>
        if (skipGap left).isEmpty then some (.obj fs) else none
      | none => none
  | _ => parse? text

end Interception.Json
