import Interception.Event.Timings
import Interception.Message.Challenge
import Interception.Message.Cookie

/-!
# Reports of requests and responses

What an event tells about the two sides of an exchange, taken anew for every
event.
-/

namespace Interception

open Message

/-! ## Initiators -/

inductive InitiatorType where
  | parser
  | script
  | preflight
  | other
deriving DecidableEq, Repr

namespace InitiatorType

def text : InitiatorType → String
  | .parser => "parser"
  | .script => "script"
  | .preflight => "preflight"
  | .other => "other"

def variants : Wire.Variants InitiatorType :=
  [.parser, .script, .preflight, .other].map fun t => (t.text, t)

def decoder : Wire.Decoder InitiatorType := Wire.variant variants

def toJson (t : InitiatorType) : Json := .str t.text

end InitiatorType

structure Initiator where
  type : InitiatorType := .other
  request : Option RequestId := none
deriving DecidableEq, Repr

namespace Initiator

def record : Wire.Record Initiator :=
  Initiator.mk <$> .required "type" InitiatorType.decoder
    <*> .optional "request" Wire.string

def decoder : Wire.Decoder Initiator := record.decode "struct Initiator"

def toJson (i : Initiator) : Json :=
  .obj (("type", i.type.toJson) :: Json.optField "request" (i.request.map .str))

end Initiator

def optNat (n : Option Nat) : Json := Json.orNull (n.map fun n : Nat => .int n)

/-! ## Requests -/

structure RequestReport where
  request : RequestId
  url : String
  method : String
  headers : List Header
  cookies : List Cookie
  headersSize : Nat
  bodySize : Option Nat
  destination : String
  initiatorType : Option InitiatorType
  timings : Timings
deriving Repr

namespace RequestReport

def record : Wire.Record RequestReport :=
  RequestReport.mk <$> .required "request" Wire.string
    <*> .required "url" Wire.string
    <*> .required "method" Wire.string
    <*> .required "headers" (Wire.sequence Header.decoder)
    <*> .required "cookies" (Wire.sequence Cookie.decoder)
    <*> .required "headersSize" Wire.word64 <*> .present "bodySize" Wire.word64
    <*> .required "destination" Wire.string
    <*> .present "initiatorType" InitiatorType.decoder
    <*> .required "timings" Timings.decoder

def decoder : Wire.Decoder RequestReport := record.decode "struct RequestData"

def toJson (r : RequestReport) : Json :=
  .obj [("request", .str r.request), ("url", .str r.url),
    ("method", .str r.method), ("headers", .arr (r.headers.map Header.toJson)),
    ("cookies", .arr (r.cookies.map Cookie.toJson)),
    ("headersSize", .int r.headersSize),
    ("bodySize", optNat r.bodySize), ("destination", .str r.destination),
    ("initiatorType", Json.orNull (r.initiatorType.map InitiatorType.toJson)),
    ("timings", r.timings.toJson)]

end RequestReport

/-! ## Responses -/

structure ResponseReport where
  url : String
  protocol : String
  status : Nat
  statusText : String
  fromCache : Bool
  headers : List Header
  mimeType : String
  bytesReceived : Nat
  headersSize : Option Nat
  bodySize : Option Nat
  contentSize : Option Nat
  authChallenges : Option (List Challenge)
deriving Repr

namespace ResponseReport

def contentDecoder : Wire.Decoder (Option Nat) :=
  (Wire.Record.present "size" Wire.word64).decode "struct ResponseContent"

def record : Wire.Record ResponseReport :=
  ResponseReport.mk <$> .required "url" Wire.string
    <*> .required "protocol" Wire.string
    <*> .required "status" Wire.word16 <*> .required "statusText" Wire.string
    <*> .required "fromCache" Wire.boolean
    <*> .required "headers" (Wire.sequence Header.decoder)
    <*> .required "mimeType" Wire.string
    <*> .required "bytesReceived" Wire.word64
    <*> .present "headersSize" Wire.word64 <*> .present "bodySize" Wire.word64
    <*> .required "content" contentDecoder
    <*> .optional "authChallenges" (Wire.sequence Challenge.decoder)

def decoder : Wire.Decoder ResponseReport := record.decode "struct ResponseData"

def toJson (r : ResponseReport) : Json :=
  .obj ([("url", .str r.url), ("protocol", .str r.protocol),
    ("status", .int r.status), ("statusText", .str r.statusText),
    ("fromCache", .bool r.fromCache),
    ("headers", .arr (r.headers.map Header.toJson)),
    ("mimeType", .str r.mimeType),
    ("bytesReceived", .int r.bytesReceived),
    ("headersSize", optNat r.headersSize),
    ("bodySize", optNat r.bodySize),
    ("content", .obj [("size", optNat r.contentSize)])] ++
    Json.optField "authChallenges"
      (r.authChallenges.map fun cs => .arr (cs.map Challenge.toJson)))

def isSuccess (r : ResponseReport) : Bool := 200 ≤ r.status && r.status < 300

def isRedirect (r : ResponseReport) : Bool := 300 ≤ r.status && r.status < 400

end ResponseReport

end Interception
