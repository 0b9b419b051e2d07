import Interception.Message.Header
import Interception.Text.Blank
import Interception.Text.Split

/-!
# Authentication challenges

A header value lists challenges, each a scheme with parameters, and everything
is separated by commas. Commas between quotes separate nothing; inside quotes a
backslash takes the next character as it is. Of the parameters only the realm is
kept.
-/

namespace Interception.Message

structure Challenge where
  scheme : String
  realm : String
deriving DecidableEq, Repr

namespace Challenge

def record : Wire.Record Challenge :=
  Challenge.mk <$> .required "scheme" Wire.string
    <*> .required "realm" Wire.string

def decoder : Wire.Decoder Challenge := record.decode "struct AuthChallenge"

def toJson (c : Challenge) : Json :=
  .obj [("scheme", .str c.scheme), ("realm", .str c.realm)]

end Challenge

inductive Quoting where
  | outside
  | inside
  | escaped
deriving DecidableEq, Repr

def Quoting.after (q : Quoting) (c : Char) : Quoting :=
  match q with
  | .outside => if c = '"' then .inside else .outside
  | .inside =>
    if c = '\\' then .escaped else if c = '"' then .outside else .inside
  | .escaped => .inside

def splitUnquotedFrom (sep : Char) (q : Quoting) : List Char → List (List Char)
  | [] => [[]]
  | c :: cs =>
    if q = .outside && c = sep then [] :: splitUnquotedFrom sep .outside cs
    else
      match splitUnquotedFrom sep (q.after c) cs with
      | [] => [[c]]
      | p :: ps => (c :: p) :: ps

def splitUnquoted (sep : Char) (cs : List Char) : List (List Char) :=
  splitUnquotedFrom sep .outside cs

/-- Takes each character after a backslash as it is; a backslash at the end is
dropped. -/
def unescapeQuoted : List Char → List Char
  | '\\' :: c :: rest => c :: unescapeQuoted rest
  | ['\\'] => []
  | c :: rest => c :: unescapeQuoted rest
  | [] => []

def stripQuotes (cs : List Char) : List Char :=
  match cs with
  | '"' :: rest => if rest.getLast? == some '"' then rest.dropLast else cs
  | _ => cs

def unquote (cs : List Char) : List Char := unescapeQuoted (stripQuotes cs)

/-- What one element of the list says: which scheme it starts, if any, and its
parameter. -/
structure Element where
  scheme : Option (List Char)
  param : Option (List Char)
deriving DecidableEq, Repr

/-- An element starts a scheme unless its first word holds an equals sign or is
followed by one. -/
def Element.ofPart (part : List Char) : Element :=
  let (first, rest) := match Text.cutAt Text.isBlank part with
    | some (first, rest) => (first, Text.trim rest)
    | none => (part, [])
  if first.contains '=' || rest.head? == some '=' then ⟨none, some part⟩
  else ⟨some first, if rest.isEmpty then none else some rest⟩

def realmOf? (param : List Char) : Option String := do
  let (key, value) ← Text.cutOnce '=' param
  if sameName (String.ofList (Text.trim key)) "realm" then
    some (String.ofList (unquote (Text.trim value)))
  else none

def setLastRealm (realm : String) : List Challenge → List Challenge
  | [] => []
  | [c] => [{ c with realm }]
  | c :: cs => c :: setLastRealm realm cs

def addElement (challenges : List Challenge) (e : Element) : List Challenge :=
  let challenges := match e.scheme with
    | some scheme => challenges ++ [⟨String.ofList scheme, ""⟩]
    | none => challenges
  match e.param.bind realmOf? with
  | some realm => setLastRealm realm challenges
  | none => challenges

def challengeElements (header : String) : List Element :=
  (((splitUnquoted ',' header.toList).map Text.trim).filter (!·.isEmpty)).map
    Element.ofPart

def parseChallenges (header : String) : List Challenge :=
  (challengeElements header).foldl addElement []

def challengeHeader? (status : Nat) : Option String :=
  if status = 401 then some "www-authenticate"
  else if status = 407 then some "proxy-authenticate"
  else none

def challengesOf (status : Nat) (lines : List Line) :
    Option (List Challenge) := do
  let name ← challengeHeader? status
  return (lines.filter (sameName ·.name name)).flatMap fun line =>
    parseChallenges line.value

end Interception.Message
