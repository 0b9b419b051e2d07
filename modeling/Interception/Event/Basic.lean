import Interception.Event.Report

/-!
# Events

Every event tells about the request; what else it tells depends on its kind.
-/

namespace Interception

namespace Event

structure Base where
  context : Option ContextId
  isBlocked : Bool
  navigation : Option String
  redirectCount : Nat
  request : RequestReport
  /-- Milliseconds since the epoch. -/
  timestamp : Int
  intercepts : Option (List InterceptId)
deriving Repr

inductive Detail where
  | beforeRequestSent (initiator : Initiator)
  | responseStarted (response : ResponseReport)
  | responseCompleted (response : ResponseReport)
  | fetchError (text : String)
  | authRequired (response : ResponseReport)
deriving Repr

end Event

structure Event where
  base : Event.Base
  detail : Event.Detail
deriving Repr

namespace Event

def Detail.kind : Detail → EventKind
  | .beforeRequestSent _ => .beforeRequestSent
  | .responseStarted _ => .responseStarted
  | .responseCompleted _ => .responseCompleted
  | .fetchError _ => .fetchError
  | .authRequired _ => .authRequired

def Detail.response? : Detail → Option ResponseReport
  | .responseStarted r => some r
  | .responseCompleted r => some r
  | .authRequired r => some r
  | .beforeRequestSent _ => none
  | .fetchError _ => none

def kind (e : Event) : EventKind := e.detail.kind

def method (e : Event) : String := e.kind.method

def requestId (e : Event) : RequestId := e.base.request.request

def isBlocked (e : Event) : Bool := e.base.isBlocked

def response? (e : Event) : Option ResponseReport := e.detail.response?

def isSuccess (e : Event) : Bool := e.response?.any ResponseReport.isSuccess

/-! ## On the wire -/

def Base.record : Wire.Record Base :=
  Base.mk <$> .present "context" Wire.string
    <*> .required "isBlocked" Wire.boolean
    <*> .present "navigation" Wire.string
    <*> .required "redirectCount" Wire.word32
    <*> .required "request" RequestReport.decoder
    <*> .required "timestamp" Wire.signed64
    <*> .optional "intercepts" (Wire.sequence Wire.uuid)

def Base.fields (b : Base) : List (String × Json) :=
  [("context", Json.orNull (b.context.map .str)),
    ("isBlocked", .bool b.isBlocked),
    ("navigation", Json.orNull (b.navigation.map .str)),
    ("redirectCount", .int b.redirectCount),
    ("request", b.request.toJson), ("timestamp", .int b.timestamp)] ++
    Json.optField "intercepts"
      (b.intercepts.map fun ids => Json.strs (ids.map Uuid.text))

def paramsDecoder (name : String) (detail : Wire.Record Detail) :
    Wire.Decoder Event := fun r v =>
  (Wire.Record.beside name detail (Base.record.readFields .buffered) r v).map
    fun (detail, base) => { base, detail }

def responseDecoder (detail : ResponseReport → Detail) : Wire.Decoder Event :=
  paramsDecoder "struct ResponseParameters"
    (detail <$> .required "response" ResponseReport.decoder)

def detailDecoder : EventKind → Wire.Decoder Event
  | .beforeRequestSent =>
    paramsDecoder "struct BeforeRequestSentParameters"
      (.beforeRequestSent <$> .required "initiator" Initiator.decoder)
  | .responseStarted => responseDecoder .responseStarted
  | .responseCompleted => responseDecoder .responseCompleted
  | .fetchError =>
    paramsDecoder "struct FetchErrorParameters"
      (.fetchError <$> .required "errorText" Wire.string)
  | .authRequired => responseDecoder .authRequired

def decoder : Wire.Decoder Event :=
  Wire.adjacent "NetworkEvent" "method" "params"
    (EventKind.listing.map fun k => (k.method, detailDecoder k))

def Detail.field : Detail → String × Json
  | .beforeRequestSent i => ("initiator", i.toJson)
  | .responseStarted r => ("response", r.toJson)
  | .responseCompleted r => ("response", r.toJson)
  | .fetchError text => ("errorText", .str text)
  | .authRequired r => ("response", r.toJson)

def toJson (e : Event) : Json :=
  .obj [("method", .str e.method),
    ("params", .obj (e.base.fields ++ [e.detail.field]))]

end Event

end Interception
