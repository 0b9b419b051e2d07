import Interception.Command.Parameters
import Interception.Exchange.Request
import Interception.Exchange.Response
import Interception.Text.Sorted

/-!
# Changes to held exchanges

What a command asks for, once it was checked. Checking comes first and fails as
a whole; making the changes cannot fail.
-/

namespace Interception

open Message

def checkOptional {α β : Type} (check : α → Except Error β) :
    Option α → Except Error (Option β)
  | none => .ok none
  | some a => (check a).map some

def checkMethod (method : String) : Except Error String :=
  if isToken method then .ok method
  else .error (.invalidArgument (.method method))

def checkUrl (text : String) : Except Error Url :=
  match Url.parse text with
  | .ok u => .ok u
  | .error cause => .error (.invalidArgument (.url text cause))

def checkReason (text : String) : Except Error String :=
  if isFieldValue text then .ok text
  else .error (.invalidArgument (.reasonPhrase text))

/-! ## Requests -/

structure RequestChange where
  method : Option String
  url : Option Url
  headers : Option (List Line)
  cookie : Option String
  body : Option (List UInt8)
deriving DecidableEq, Repr

def ContinueRequest.check (p : ContinueRequest) :
    Except Error RequestChange := do
  let method ← checkOptional checkMethod p.method
  let url ← checkOptional checkUrl p.url
  let headers ← checkOptional linesOf p.headers
  let cookie ← checkOptional encodeCookies p.cookies
  let body ← checkOptional WireBytes.decode p.body
  return { method, url, headers, cookie, body }

/-- Sets headers one after the other; a name that comes again is merged. -/
def setLines {β : Type} (set : String → String → Bool → β) (lines : List Line) :
    List β :=
  (withRepeats [] lines).map fun l => set l.1.name l.1.value l.2

/-- What is asked of the request, apart from sending it elsewhere. The new
cookies take the place of all earlier ones. -/
def RequestChange.edits (c : RequestChange) : List RequestCall :=
  c.method.toList.map .setMethod ++
    (c.headers.toList.flatMap fun lines =>
      .clearHeaders :: setLines .setHeader lines) ++
    (c.cookie.toList.map fun cookie => .setHeader "cookie" cookie false) ++
    c.body.toList.map .setBody

/-! ## Responses -/

structure ResponseChange where
  headers : Option (List Line)
  setCookies : Option (List String)
  reason : Option String
  status : Option Nat
deriving DecidableEq, Repr

def ContinueResponse.check (p : ContinueResponse) :
    Except Error ResponseChange := do
  let headers ← checkOptional linesOf p.headers
  let setCookies ← checkOptional encodeSetCookies p.cookies
  let reason ← checkOptional checkReason p.reasonPhrase
  return { headers, setCookies, reason, status := p.statusCode }

def Response.names (r : Response) : List String :=
  Text.sortedSet (r.headers.map fun l => lowerName l.name)

/-- Headers that are settled stay as they are: neither are they cleared, nor are
new ones set. -/
def Response.replacing (r : Response) (lines : List Line) : List ResponseCall :=
  (r.names.filter (!isSettled ·)).map .clearHeader ++
    setLines .setHeader (lines.filter (!isSettled ·.name))

def Response.skippedNames (r : Response) (lines : List Line) : List String :=
  (r.names.filter isSettled ++
    (lines.filter (isSettled ·.name)).map fun l => lowerName l.name).eraseDups

/-- What is asked of the response. Of status and reason, one that is left out
stays. -/
def ResponseChange.edits (c : ResponseChange) (r : Response) :
    List ResponseCall :=
  c.headers.toList.flatMap r.replacing ++
    ((c.setCookies.getD []).map fun value =>
      .setHeader "set-cookie" value true) ++
    if c.status.isSome || c.reason.isSome then
      [.setStatus (c.status.getD r.status) (c.reason.getD r.statusText)]
    else []

def ResponseChange.skipped (c : ResponseChange) (r : Response) : List String :=
  match c.headers with
  | some lines => r.skippedNames lines
  | none => []

/-! ## Substitutes -/

def ProvideResponse.check (p : ProvideResponse) : Except Error Substitute := do
  let headers ← checkOptional linesOf p.headers
  let setCookies ← checkOptional encodeSetCookies p.cookies
  let body ← checkOptional WireBytes.decode p.body
  let reason ← checkOptional checkReason p.reasonPhrase
  let status := p.statusCode.getD 200
  return {
    status
    reasonPhrase := reason.getD (if status = 200 then "OK" else "")
    headers :=
      headers.getD [] ++
        (setCookies.getD []).map fun value => ⟨"set-cookie", value⟩
    body := body.getD [] }

def ProvideResponse.firstField? (p : ProvideResponse) : Option String :=
  if p.body.isSome then some "body"
  else if p.cookies.isSome then some "cookies"
  else if p.headers.isSome then some "headers"
  else if p.reasonPhrase.isSome then some "reasonPhrase"
  else if p.statusCode.isSome then some "statusCode"
  else none

end Interception
