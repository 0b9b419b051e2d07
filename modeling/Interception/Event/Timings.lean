import Interception.Wire.Record

/-!
# Timings of a request

In milliseconds relative to the origin.
-/

namespace Interception

structure Timings where
  timeOrigin : Float := 0
  requestTime : Float := 0
  redirectStart : Float := 0
  redirectEnd : Float := 0
  fetchStart : Float := 0
  dnsStart : Float := 0
  dnsEnd : Float := 0
  connectStart : Float := 0
  connectEnd : Float := 0
  tlsStart : Float := 0
  requestStart : Float := 0
  responseStart : Float := 0
  responseEnd : Float := 0
deriving Repr

namespace Timings

def record : Wire.Record Timings :=
  Timings.mk <$> .required "timeOrigin" Wire.double
    <*> .required "requestTime" Wire.double
    <*> .required "redirectStart" Wire.double
    <*> .required "redirectEnd" Wire.double
    <*> .required "fetchStart" Wire.double <*> .required "dnsStart" Wire.double
    <*> .required "dnsEnd" Wire.double <*> .required "connectStart" Wire.double
    <*> .required "connectEnd" Wire.double <*> .required "tlsStart" Wire.double
    <*> .required "requestStart" Wire.double
    <*> .required "responseStart" Wire.double
    <*> .required "responseEnd" Wire.double

def decoder : Wire.Decoder Timings := record.decode "struct FetchTimingInfo"

def toJson (t : Timings) : Json :=
  .obj [("timeOrigin", .ofFloat t.timeOrigin),
    ("requestTime", .ofFloat t.requestTime),
    ("redirectStart", .ofFloat t.redirectStart),
    ("redirectEnd", .ofFloat t.redirectEnd),
    ("fetchStart", .ofFloat t.fetchStart), ("dnsStart", .ofFloat t.dnsStart),
    ("dnsEnd", .ofFloat t.dnsEnd), ("connectStart", .ofFloat t.connectStart),
    ("connectEnd", .ofFloat t.connectEnd), ("tlsStart", .ofFloat t.tlsStart),
    ("requestStart", .ofFloat t.requestStart),
    ("responseStart", .ofFloat t.responseStart),
    ("responseEnd", .ofFloat t.responseEnd)]

end Timings

end Interception
