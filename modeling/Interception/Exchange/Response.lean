import Interception.Event.Report

/-!
# Responses

A response whose head was received.
-/

namespace Interception

open Message

def reasonOf : Nat → String
  | 200 => "OK"
  | 201 => "Created"
  | 204 => "No Content"
  | 301 => "Moved Permanently"
  | 302 => "Found"
  | 304 => "Not Modified"
  | 400 => "Bad Request"
  | 401 => "Unauthorized"
  | 403 => "Forbidden"
  | 404 => "Not Found"
  | 407 => "Proxy Authentication Required"
  | 500 => "Internal Server Error"
  | _ => ""

structure Response where
  url : String
  status : Nat
  statusText : String := reasonOf status
  protocol : String := "http/1.1"
  fromCache : Bool := false
  headers : List Line := []
deriving DecidableEq, Repr

namespace Response

def setStatus (r : Response) (status : Nat) (reason : String) : Response :=
  { r with status, statusText := reason }

def setHeader (r : Response) (name value : String) (merge : Bool) : Response :=
  { r with headers := setLine r.headers name value merge }

def clearHeader (r : Response) (name : String) : Response :=
  { r with headers := eraseName r.headers name }

end Response

inductive ResponseCall where
  | setStatus (status : Nat) (reason : String)
  | setHeader (name value : String) (merge : Bool)
  | clearHeader (name : String)
deriving DecidableEq, Repr

namespace Response

def receive (r : Response) : ResponseCall → Response
  | .setStatus status reason => r.setStatus status reason
  | .setHeader name value merge => r.setHeader name value merge
  | .clearHeader name => r.clearHeader name

def mimeType (r : Response) : String :=
  (lineValue? r.headers "content-type").getD ""

def report (r : Response) : ResponseReport where
  url := r.url
  protocol := r.protocol
  status := r.status
  statusText := r.statusText
  fromCache := r.fromCache
  headers := headersOf r.headers
  mimeType := r.mimeType
  bytesReceived := 0
  headersSize := none
  bodySize := none
  contentSize := none
  authChallenges := challengesOf r.status r.headers

end Response

end Interception
