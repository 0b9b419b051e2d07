import Interception.Url.Basic
import Interception.Url.Domain
import Interception.Url.Path

/-!
# Reading URLs

Absolute URLs by the rules that browsers share: control characters and blanks at
the ends and tabs and line breaks anywhere are dropped, the scheme decides how
the rest is read, and every part is percent-encoded where it has to be.
-/

namespace Interception.Url

/-! ## Hosts -/

def isForbiddenInHost (c : Char) : Bool :=
  ['\x00', '\t', '\n', '\r', ' ', '#', '/', ':', '<', '>', '?', '@',
    '[', '\\', ']', '^', '|'].contains c

def bracketed? (cs : List Char) : Option (Except Fault Host) :=
  match cs with
  | '[' :: rest =>
    if cs.getLast? == some ']' then some ((parseIpv6 rest.dropLast).map .ipv6)
    else some (.error .invalidIpv6)
  | _ => none

def parseDomainHost (cs : List Char) : Except Fault Host :=
  match bracketed? cs with
  | some r => r
  | none =>
    match Domain.toAscii? (decode (Text.utf8 (String.ofList cs))) with
    | none => .error .invalidDomain
    | some domain =>
      if domain.isEmpty then .error .emptyHost
      else if endsInNumber domain then (parseIpv4 domain).map .ipv4
      else .ok (.domain (String.ofList domain))

def parseOpaqueHost (cs : List Char) : Except Fault Host :=
  match bracketed? cs with
  | some r => r
  | none =>
    if cs.any isForbiddenInHost then .error .invalidHostCharacter
    else .ok (.domain (String.ofList (encode controlSet cs)))

/-! ## Authorities -/

def endsAuthority (special : Bool) (c : Char) : Bool :=
  c = '/' || c = '?' || c = '#' || (special && c = '\\')

/-- Cuts at the last `@` of the authority. -/
def cutUserinfo (special : Bool) (cs : List Char) :
    Option (List Char × List Char) :=
  let authority := cs.takeWhile (!endsAuthority special ·)
  if authority.contains '@' then
    let host := (authority.reverse.takeWhile (· != '@')).reverse
    some (authority.take (authority.length - host.length - 1),
      host ++ cs.dropWhile (!endsAuthority special ·))
  else none

def readUserinfo (cs : List Char) : String × String :=
  let (name, password) := (Text.cutOnce ':' cs).getD (cs, [])
  (String.ofList (encode userinfoSet name),
    String.ofList (encode userinfoSet password))

/-- The characters of the host: up to the end of the authority or a colon
outside brackets. -/
def cutHost (special bracket : Bool) : List Char → List Char × List Char
  | [] => ([], [])
  | c :: cs =>
    if (c = ':' && !bracket) || endsAuthority special c then ([], c :: cs)
    else
      let bracket :=
        if c = '[' then true else if c = ']' then false else bracket
      let (host, rest) := cutHost special bracket cs
      (c :: host, rest)

def readPort (scheme : String) (cs : List Char) :
    Except Fault (Option Nat × List Char) :=
  let digits := cs.takeWhile Char.isDigit
  let rest := cs.dropWhile Char.isDigit
  let n := readNumber 10 digits
  if n > 65535 then .error .invalidPort
  else
    match rest.head? with
    | some c =>
      if c = '/' || c = '\\' || c = '?' || c = '#' then
        .ok (if digits.isEmpty || defaultPort? scheme = some n then none
          else some n, rest)
      else .error .invalidPort
    | none =>
      .ok (if digits.isEmpty || defaultPort? scheme = some n then none
        else some n, rest)

def takePort (scheme : String) :
    List Char → Except Fault (Option Nat × List Char)
  | ':' :: rest => readPort scheme rest
  | rest => .ok (none, rest)

def readHost (special : Bool) (cs : List Char) : Except Fault Host :=
  if special then
    if cs.isEmpty then .error .emptyHost else parseDomainHost cs
  else parseOpaqueHost cs

/-- What stands before the last `@`, and what follows it. Where that is nothing,
a host has to follow. -/
def takeUserinfo (special : Bool) (cs : List Char) :
    Except Fault (List Char × List Char) :=
  match cutUserinfo special cs with
  | none => .ok ([], cs)
  | some ([], rest) =>
    if rest.head?.any (endsAuthority special) then .error .emptyHost
    else .ok ([], rest)
  | some cut => .ok cut

def readAuthority (scheme : String) (cs : List Char) :
    Except Fault (Authority × List Char) := do
  let special := isSpecial scheme
  let (userinfo, cs) ← takeUserinfo special cs
  let (username, password) := readUserinfo userinfo
  let (hostChars, rest) := cutHost special false cs
  let host ← readHost special hostChars
  if host.isEmpty &&
    (rest.head? == some ':' || !(username.isEmpty && password.isEmpty)) then
    throw Fault.emptyHost
  let (port, rest) ← takePort scheme rest
  return (⟨username, password, host, port⟩, rest)

/-! ## What follows the authority -/

def endsPath (c : Char) : Bool := c = '?' || c = '#'

def readSuffix (special : Bool) (cs : List Char) :
    Option String × Option String :=
  let fragment (cs : List Char) : String :=
    String.ofList (encode fragmentSet cs)
  match cs with
  | '?' :: rest =>
    let set := if special then specialQuerySet else querySet
    let query := String.ofList (encode set (rest.takeWhile (· != '#')))
    match rest.dropWhile (· != '#') with
    | _ :: tail => (some query, some (fragment tail))
    | [] => (some query, none)
  | '#' :: rest => (none, some (fragment rest))
  | _ => (none, none)

/-- A special URL always has a path; its first slash is the end of the
authority. -/
def pathAfterAuthority (special : Bool) (cs : List Char) : List Char :=
  let body := cs.takeWhile (!endsPath ·)
  if special then (readPath true false ['/'] (body.drop 1)).path
  else
    match body with
    | [] => []
    | c :: _ => (readPath false false (if c = '/' then [] else ['/']) body).path

def assemble (scheme : String) (authority : Option Authority)
    (path rest : List Char) : Url :=
  let (query, fragment) :=
    readSuffix (isSpecial scheme) (rest.dropWhile (!endsPath ·))
  { scheme, authority, path := String.ofList path, query, fragment }

def parseWithAuthority (scheme : String) (cs : List Char) :
    Except Fault Url := do
  let (authority, rest) ← readAuthority scheme cs
  return assemble scheme (some authority)
    (pathAfterAuthority (isSpecial scheme) rest) rest

def parseWithoutAuthority (scheme : String) (cs : List Char) : Url :=
  let body := cs.takeWhile (!endsPath ·)
  let path := match body with
    | '/' :: rest => (readPath false false ['/'] rest).path
    | body => encode controlSet body
  assemble scheme none path cs

/-! ## Files -/

def isSlash (c : Char) : Bool := c = '/' || c = '\\'

def fileAuthority (host : Host) : Authority := ⟨"", "", host, none⟩

def noHost : Host := .domain ""

def readFileHost (cs : List Char) : Except Fault Host := do
  if cs.isEmpty then return noHost
  match ← parseDomainHost cs with
  | .domain "localhost" => return noHost
  | host => return host

def fileBelowRoot (cs : List Char) : Url :=
  assemble "file" (some (fileAuthority noHost))
    (readPath true true ['/'] (cs.takeWhile (!endsPath ·))).path
      (withoutBreaks cs)

/-- A file URL after its two slashes: a drive letter there is no host but starts
the path, and one at the start of the path voids the host. Without a host the
slash that ends the authority counts as an empty segment, behind which no drive
letter is looked for. -/
def parseHostedFile (cs : List Char) : Except Fault Url := do
  let hostChars := withoutBreaks (cs.takeWhile (!endsAuthority true ·))
  if isDrive hostChars then return fileBelowRoot cs
  let host ← readFileHost hostChars
  let rest := cs.dropWhile (!endsAuthority true ·)
  if host.isEmpty then return fileBelowRoot rest
  let s := readPath true true ['/'] ((rest.takeWhile (!endsPath ·)).drop 1)
  return assemble "file"
    (some (fileAuthority (if s.dropsHost then noHost else host))) s.path
    (withoutBreaks rest)

def parseFile (cs : List Char) : Except Fault Url :=
  match cs.dropWhile isBreak with
  | a :: rest =>
    if isSlash a then
      match rest.dropWhile isBreak with
      | b :: below =>
        if isSlash b then parseHostedFile below else .ok (fileBelowRoot rest)
      | [] => .ok (fileBelowRoot rest)
    else .ok (fileBelowRoot cs)
  | [] => .ok (fileBelowRoot cs)

/-! ## The whole -/

def isSchemeChar (c : Char) : Bool :=
  c.isAlphanum || c = '+' || c = '-' || c = '.'

def cutScheme (cs : List Char) : Option (String × List Char) := do
  let (before, rest) ← Text.cutOnce ':' cs
  let name := withoutBreaks before
  guard (name.head?.any Char.isAlpha && name.all isSchemeChar)
  return (String.ofList (name.map Char.toLower), rest)

def isEdgeJunk (c : Char) : Bool := c.toNat ≤ 0x20

def trimJunk (cs : List Char) : List Char :=
  ((cs.dropWhile isEdgeJunk).reverse.dropWhile isEdgeJunk).reverse

/-- Everything but a file is read without its tabs and line breaks. -/
def parseAfterScheme (scheme : String) (cs : List Char) : Except Fault Url :=
  if scheme = "file" then parseFile cs
  else if isSpecial scheme then
    parseWithAuthority scheme ((withoutBreaks cs).dropWhile isSlash)
  else
    match withoutBreaks cs with
    | '/' :: '/' :: rest => parseWithAuthority scheme rest
    | rest => .ok (parseWithoutAuthority scheme rest)

def parseChars (cs : List Char) : Except Fault Url :=
  match cutScheme (trimJunk cs) with
  | none => .error .relativeWithoutBase
  | some (scheme, rest) => parseAfterScheme scheme rest

def parse (s : String) : Except Fault Url := parseChars s.toList

end Interception.Url
