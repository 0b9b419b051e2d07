import Interception.Event.Report
import Interception.Url.Parser

/-!
# Requests

An outgoing request, with a record of what was done to it.
-/

namespace Interception

open Message

inductive Operation where
  | suspend
  | resume
  | abort
  | redirectTo (url : String)
  | setMethod (method : String)
  | clearHeaders
  | setHeader (name value : String) (merge : Bool)
  | setBody (length : Nat)
  | substitute (status : Nat)
deriving DecidableEq, Repr

structure Substitute where
  status : Nat
  reasonPhrase : String
  headers : List Line
  body : List UInt8
deriving DecidableEq, Repr

structure Request where
  id : RequestId
  url : String
  method : String := "GET"
  context : Option ContextId := none
  navigation : Option String := none
  initiator : Initiator := {}
  /-- Whether the transport can pause the exchange. -/
  interceptable : Bool := true
  headers : List Line := []
  body : Option (List UInt8) := none
  redirectCount : Nat := 0
  suspended : Bool := false
  aborted : Bool := false
  substitute : Option Substitute := none
  operations : List Operation := []
deriving DecidableEq, Repr

namespace Request

def record (r : Request) (op : Operation) : Request :=
  { r with operations := r.operations ++ [op] }

/-- Does nothing to a request that is suspended already. -/
def suspend (r : Request) : Request :=
  if r.suspended then r else { r with suspended := true }.record .suspend

/-- Suspended by the platform, which leaves no record. -/
def suspendNow (r : Request) : Request := { r with suspended := true }

def resume (r : Request) : Request :=
  { r with suspended := false }.record .resume

def abort (r : Request) : Request := { r with aborted := true }.record .abort

def redirectTo (r : Request) (url : Url) : Request :=
  { r with url := url.text, redirectCount := r.redirectCount + 1 }.record
    (.redirectTo url.text)

def setMethod (r : Request) (method : String) : Request :=
  { r with method }.record (.setMethod method)

def clearHeaders (r : Request) : Request :=
  { r with headers := [] }.record .clearHeaders

def setHeader (r : Request) (name value : String) (merge : Bool) : Request :=
  { r with headers := setLine r.headers name value merge }.record
    (.setHeader name value merge)

def setBody (r : Request) (body : List UInt8) : Request :=
  { r with body := some body }.record (.setBody body.length)

def provide (r : Request) (response : Substitute) : Request :=
  { r with substitute := some response }.record (.substitute response.status)

end Request

inductive RequestCall where
  | suspend
  | resume
  | abort
  | redirectTo (url : Url)
  | setMethod (method : String)
  | clearHeaders
  | setHeader (name value : String) (merge : Bool)
  | setBody (body : List UInt8)
  | provide (response : Substitute)
deriving DecidableEq, Repr

namespace Request

def receive (r : Request) : RequestCall → Request
  | .suspend => r.suspend
  | .resume => r.resume
  | .abort => r.abort
  | .redirectTo url => r.redirectTo url
  | .setMethod method => r.setMethod method
  | .clearHeaders => r.clearHeaders
  | .setHeader name value merge => r.setHeader name value merge
  | .setBody body => r.setBody body
  | .provide response => r.provide response

/-! ## Reports -/

def host (r : Request) : String :=
  match Url.parse r.url with
  | .ok u => u.hostText
  | .error _ => ""

def cookies (r : Request) : List Cookie :=
  match lineValue? r.headers "cookie" with
  | some value => parseCookies value r.host
  | none => []

def headersSize (r : Request) : Nat :=
  r.headers.foldl
    (fun n l => n + l.name.utf8ByteSize + l.value.utf8ByteSize + 4) 0

def report (r : Request) : RequestReport where
  request := r.id
  url := r.url
  method := r.method
  headers := headersOf r.headers
  cookies := r.cookies
  headersSize := r.headersSize
  bodySize := r.body.map List.length
  destination := ""
  initiatorType := none
  timings := {}

end Request

end Interception
