import Interception.Message.Token
import Interception.Pattern.Basic
import Interception.Pattern.Escape
import Interception.Pattern.Glob
import Interception.Text.Blank
import Interception.Url.Parser

/-!
# Compiled patterns

Compiling validates a pattern and brings its parts into the form that URLs are
kept in. A port that is the default of the pattern's own protocol becomes "no
port", as in a URL.
-/

namespace Interception

namespace Pattern

/-- Normal forms of the parts, absent ones matching anything. The port is `some
none` where no port may be spelled out. -/
structure Slots where
  protocol : Option String := none
  hostname : Option String := none
  port : Option (Option Nat) := none
  pathname : Option String := none
  search : Option String := none
deriving DecidableEq, Repr

inductive Compiled where
  | slots (slots : Slots)
  | glob (source : String) (tokens : List Token)
deriving DecidableEq, Repr

/-! ## Compiling one part -/

def isSchemeChar (c : Char) : Bool :=
  c.isLower || c.isDigit || c = '+' || c = '.' || c = '-'

def isScheme : List Char → Bool
  | [] => false
  | c :: cs => c.isLower && cs.all isSchemeChar

def dropColon (cs : List Char) : List Char :=
  if cs.getLast? == some ':' then cs.dropLast else cs

def compileProtocol (text : String) : Except Fault String := do
  let value := (dropColon (← unescape .protocol text)).map Char.toLower
  unless isScheme value do throw (.invalid .protocol text)
  return String.ofList value

/-- Colons stand in a host only between brackets. -/
def isHostname (cs : List Char) : Bool :=
  let bracketed := cs.head? == some '[' && cs.getLast? == some ']'
  !cs.isEmpty && !cs.any fun c =>
    ['/', '?', '#', '@'].contains c || Text.isBlank c || (c = ':' && !bracketed)

def compileHostname (text : String) : Except Fault String := do
  let value := (← unescape .hostname text).map Char.toLower
  unless isHostname value do throw (.invalid .hostname text)
  return String.ofList value

def decimalValue (cs : List Char) : Nat :=
  cs.foldl (fun n c => n * 10 + (c.toNat - '0'.toNat)) 0

/-- The port that goes without saying next to a protocol. -/
def defaultPort? : String → Option Nat
  | "http" | "ws" => some 80
  | "https" | "wss" => some 443
  | "ftp" => some 21
  | _ => none

def compilePort (protocol : Option String) (text : String) :
    Except Fault (Option Nat) := do
  let value ← unescape .port text
  if value.isEmpty then return none
  unless value.all Char.isDigit && decimalValue value < 65536 do
    throw (.invalid .port text)
  let port := decimalValue value
  return if protocol.bind defaultPort? = some port then none else some port

def compilePathname (text : String) : Except Fault String := do
  let value ← unescape .pathname text
  if value.contains '?' || value.contains '#' then
    throw (.invalid .pathname text)
  return String.ofList (if value.head? == some '/' then value else '/' :: value)

def dropMark : List Char → List Char
  | '?' :: cs => cs
  | cs => cs

def compileSearch (text : String) : Except Fault String := do
  let value := dropMark (← unescape .search text)
  if value.contains '#' then throw (.invalid .search text)
  return String.ofList value

/-! ## Compiling a pattern -/

def compilePart {α : Type} (compile : String → Except Fault α) :
    Option String → Except Fault (Option α)
  | none => .ok none
  | some text => (compile text).map some

def Parts.compile (p : Parts) : Except Fault Slots := do
  let protocol ← compilePart compileProtocol p.protocol
  let hostname ← compilePart compileHostname p.hostname
  let port ← compilePart (compilePort protocol) p.port
  let pathname ← compilePart compilePathname p.pathname
  let search ← compilePart compileSearch p.search
  return { protocol, hostname, port, pathname, search }

/-- All parts of a URL but its credentials and its fragment. -/
def Slots.ofUrl (u : Url) : Slots where
  protocol := some u.scheme
  hostname := some (Message.lowerName u.hostText)
  port := some u.port?
  pathname := some u.path
  search := some (u.query.getD "")

def compileGlob (text : String) : Except Fault Compiled :=
  match tokens? text.toList with
  | none => .error (.globTrailingBackslash text)
  | some tokens =>
    if globSize tokens ≤ maxGlobSize then .ok (.glob text tokens)
    else .error (.globTooLarge maxGlobSize text)

def compileText (text : String) : Except Fault Compiled :=
  if hasWildcard text.toList then compileGlob text
  else do
    let plain ← unescape .literal text
    match Url.parse (String.ofList plain) with
    | .ok u => return .slots (.ofUrl u)
    | .error cause => throw (.invalidUrl text cause)

end Pattern

def UrlPattern.compile : UrlPattern → Except Pattern.Fault Pattern.Compiled
  | .parts p => p.compile.map .slots
  | .text s => Pattern.compileText s

/-! ## Matching -/

namespace Pattern

def admits {α : Type} (part : Option α) (test : α → Bool) : Bool :=
  match part with
  | none => true
  | some a => test a

def portAdmits (u : Url) (port : Option Nat) : Bool :=
  match port with
  | none => u.port?.isNone
  | some n => u.effectivePort? == some n

def Slots.matchesUrl (s : Slots) (u : Url) : Bool :=
  admits s.protocol (u.scheme == ·) &&
    admits s.hostname (Message.lowerName u.hostText == ·) &&
    admits s.port (portAdmits u) && admits s.pathname (u.path == ·) &&
    admits s.search (u.query.getD "" == ·)

def Compiled.matchesUrl (c : Compiled) (u : Url) : Bool :=
  match c with
  | .slots s => s.matchesUrl u
  | .glob _ tokens => fits tokens u.text.toList

def Compiled.matchesText (c : Compiled) (url : String) : Bool :=
  match Url.parse url with
  | .ok u => c.matchesUrl u
  | .error _ => false

end Pattern

end Interception
