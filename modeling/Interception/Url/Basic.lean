import Interception.Url.Address

/-!
# URLs

A parsed URL and its text. The parts are held as they are written,
percent-encoded. A URL without an authority either has a rooted path or an
opaque one.
-/

namespace Interception

namespace Url

inductive Host where
  | domain (name : String)
  | ipv4 (address : Nat)
  | ipv6 (pieces : List Nat)
deriving DecidableEq, Repr

def Host.text : Host → String
  | .domain name => name
  | .ipv4 n => ipv4Text n
  | .ipv6 pieces => ipv6Text pieces

def Host.isEmpty : Host → Bool
  | .domain name => name.isEmpty
  | _ => false

/-- What stands after the two slashes. A port that is the scheme's own is never
stored. -/
structure Authority where
  username : String
  password : String
  host : Host
  port : Option Nat
deriving DecidableEq, Repr

def Authority.userinfo (a : Authority) : String :=
  if a.username.isEmpty && a.password.isEmpty then ""
  else if a.password.isEmpty then a.username ++ "@"
  else a.username ++ ":" ++ a.password ++ "@"

def portText (port : Option Nat) : String :=
  match port with
  | some n => ":" ++ toString n
  | none => ""

def Authority.text (a : Authority) : String :=
  "//" ++ a.userinfo ++ a.host.text ++ portText a.port

end Url

structure Url where
  scheme : String
  authority : Option Url.Authority
  path : String
  query : Option String
  fragment : Option String
deriving DecidableEq, Repr

namespace Url

def defaultPort? (scheme : String) : Option Nat :=
  if scheme = "http" || scheme = "ws" then some 80
  else if scheme = "https" || scheme = "wss" then some 443
  else if scheme = "ftp" then some 21
  else none

def isSpecial (scheme : String) : Bool :=
  (defaultPort? scheme).isSome || scheme = "file"

def marked (mark : String) (part : Option String) : String :=
  match part with
  | some s => mark ++ s
  | none => ""

/-- Without an authority, a path that starts with two slashes is set off by
`/.`, so that it is not read as an authority. -/
def prefixText (u : Url) : String :=
  match u.authority with
  | some a => a.text
  | none => if u.path.startsWith "//" then "/." else ""

def text (u : Url) : String :=
  u.scheme ++ ":" ++ u.prefixText ++ u.path ++ marked "?" u.query ++
    marked "#" u.fragment

def hostText (u : Url) : String :=
  match u.authority with
  | some a => a.host.text
  | none => ""

def host? (u : Url) : Option String :=
  match u.authority with
  | some a => if a.host.isEmpty then none else some a.host.text
  | none => none

def port? (u : Url) : Option Nat := u.authority.bind (·.port)

def effectivePort? (u : Url) : Option Nat := u.port? <|> defaultPort? u.scheme

end Url

end Interception
