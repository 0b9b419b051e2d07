import Interception.Event.Basic
import Interception.Proofs.Wire.Values

/-!
# Written events

An event is written with the fields that all events have beside the one that its
kind adds, and both are read from one object.  Doubles have a written form only
if they are finite.
-/

namespace Interception

open Wire Message
open Wire.Record (Covers)

/-! ## Reports -/

namespace Timings

def numbers (t : Timings) : List Float :=
  [t.timeOrigin, t.requestTime, t.redirectStart, t.redirectEnd, t.fetchStart,
    t.dnsStart, t.dnsEnd, t.connectStart, t.connectEnd, t.tlsStart,
    t.requestStart, t.responseStart, t.responseEnd]

theorem written {t : Timings} (finite : ∀ x ∈ t.numbers, x.isFinite) :
    Written decoder record.names t.toJson t := by
  have reads (x : Float) (mem : x ∈ t.numbers := by simp [numbers]) :
      Reads double (.ofFloat x) x :=
    reads_double (finite x mem)
  have covers := Covers.done Timings.mk
    |>.required "timeOrigin" (reads t.timeOrigin)
    |>.required "requestTime" (reads t.requestTime)
    |>.required "redirectStart" (reads t.redirectStart)
    |>.required "redirectEnd" (reads t.redirectEnd)
    |>.required "fetchStart" (reads t.fetchStart)
    |>.required "dnsStart" (reads t.dnsStart)
    |>.required "dnsEnd" (reads t.dnsEnd)
    |>.required "connectStart" (reads t.connectStart)
    |>.required "connectEnd" (reads t.connectEnd)
    |>.required "tlsStart" (reads t.tlsStart)
    |>.required "requestStart" (reads t.requestStart)
    |>.required "responseStart" (reads t.responseStart)
    |>.required "responseEnd" (reads t.responseEnd)
  exact covers.written _

end Timings

theorem InitiatorType.reads (t : InitiatorType) : Reads decoder t.toJson t := by
  cases t <;> exact reads_variant rfl

theorem Initiator.written (i : Initiator) :
    Written decoder record.names i.toJson i := by
  have covers := Covers.done Initiator.mk
    |>.required "type" i.type.reads
    |>.optional "request" i.request (fun id _ => reads_string id)
  exact covers.written _

structure RequestReport.Fits (r : RequestReport) : Prop where
  cookies : ∀ c ∈ r.cookies, c.Fits
  headersSize : r.headersSize < Nat.pow 2 64
  bodySize : ∀ n ∈ r.bodySize, n < Nat.pow 2 64
  timings : ∀ x ∈ r.timings.numbers, x.isFinite

theorem RequestReport.written {r : RequestReport} (fits : r.Fits) :
    Written decoder record.names r.toJson r := by
  have covers := Covers.done RequestReport.mk
    |>.required "request" (reads_string r.request)
    |>.required "url" (reads_string r.url)
    |>.required "method" (reads_string r.method)
    |>.required "headers"
      (reads_sequence fun h (_ : h ∈ r.headers) => h.written.reads)
    |>.required "cookies"
      (reads_sequence fun c mem => (Cookie.written (fits.cookies c mem)).reads)
    |>.required "headersSize" (reads_natural fits.headersSize)
    |>.present "bodySize" r.bodySize
      (fun n given => reads_natural (fits.bodySize n given))
    |>.required "destination" (reads_string r.destination)
    |>.present "initiatorType" r.initiatorType (fun t _ => t.reads)
    |>.required "timings" (Timings.written fits.timings).reads
  exact covers.written _

structure ResponseReport.Fits (r : ResponseReport) : Prop where
  status : r.status < Nat.pow 2 16
  bytesReceived : r.bytesReceived < Nat.pow 2 64
  headersSize : ∀ n ∈ r.headersSize, n < Nat.pow 2 64
  bodySize : ∀ n ∈ r.bodySize, n < Nat.pow 2 64
  contentSize : ∀ n ∈ r.contentSize, n < Nat.pow 2 64

theorem ResponseReport.written {r : ResponseReport} (fits : r.Fits) :
    Written decoder record.names r.toJson r := by
  have content : Reads contentDecoder (.obj [("size", optNat r.contentSize)])
      r.contentSize :=
    (Covers.of_null "size" (fun _ => ⟨_, rfl⟩) r.contentSize
      (fun n given => reads_natural (fits.contentSize n given)) none).recovers _
        |>.reads
  have covers := Covers.done ResponseReport.mk
    |>.required "url" (reads_string r.url)
    |>.required "protocol" (reads_string r.protocol)
    |>.required "status" (reads_natural fits.status)
    |>.required "statusText" (reads_string r.statusText)
    |>.required "fromCache" (reads_boolean r.fromCache)
    |>.required "headers"
      (reads_sequence fun h (_ : h ∈ r.headers) => h.written.reads)
    |>.required "mimeType" (reads_string r.mimeType)
    |>.required "bytesReceived" (reads_natural fits.bytesReceived)
    |>.present "headersSize" r.headersSize
      (fun n given => reads_natural (fits.headersSize n given))
    |>.present "bodySize" r.bodySize
      (fun n given => reads_natural (fits.bodySize n given))
    |>.required "content" content
    |>.optional "authChallenges" r.authChallenges
      (fun cs _ => reads_sequence fun c _ => c.written.reads)
  exact covers.written _

/-! ## Events -/

namespace Event

structure Base.Fits (b : Base) : Prop where
  redirectCount : b.redirectCount < Nat.pow 2 32
  request : b.request.Fits
  timestamp : Signed64 b.timestamp

private theorem reads_intercepts (ids : List InterceptId) :
    Reads (sequence uuid) (Json.strs (ids.map Uuid.text)) ids := by
  rw [Json.strs, List.map_map]
  exact reads_sequence fun id _ => reads_uuid id

theorem Base.covers {b : Base} (fits : b.Fits) : record.Covers b.fields b := by
  have covers := Covers.done Base.mk
    |>.present "context" b.context (fun id _ => reads_string id)
    |>.required "isBlocked" (reads_boolean b.isBlocked)
    |>.present "navigation" b.navigation (fun id _ => reads_string id)
    |>.required "redirectCount" (reads_natural fits.redirectCount)
    |>.required "request" (RequestReport.written fits.request).reads
    |>.required "timestamp" (reads_signed64 fits.timestamp)
    |>.optional "intercepts" b.intercepts (fun ids _ => reads_intercepts ids)
  exact covers

private theorem params_recovers {b : Base} (fits : b.Fits) {own : Record Detail}
    {field : String × Json} {detail : Detail}
    (covers : own.Covers [field] detail) (name : String)
    (apart : ∀ name ∈ Base.record.names, name ∉ own.names) :
    Recovers (paramsDecoder name own) (Base.record.names ++ own.names)
      (b.fields ++ [field])
      ⟨b, detail⟩ where
  listed := by
    rw [List.map_append]
    exact (Base.covers fits).listed.append covers.listed
  distinct := by
    rw [List.nodup_append]
    refine ⟨(Base.covers fits).distinct, covers.distinct, ?_⟩
    rintro name first _ second rfl
    exact apart name first second
  takes object carries r := by
    have base := Base.covers fits
    have both := Record.beside_ok name covers
      (fun rest carried => (base.accepts rest carried).readFields .buffered)
        base.listed apart
      (fun f => by rw [List.mem_append, or_comm])
      (fun name known => carries name (List.mem_append.2 known.symm)) r
    exact congrArg (Except.map _) both

structure Fits (e : Event) : Prop where
  base : e.base.Fits
  response : ∀ r ∈ e.response?, r.Fits

theorem params_reads {e : Event} (fits : e.Fits) :
    Reads (detailDecoder e.kind) (.obj (e.base.fields ++ [e.detail.field]))
      e := by
  obtain ⟨base, detail⟩ := e
  have response (r : ResponseReport) (make : ResponseReport → Detail)
      (fits : r.Fits) :
      (make <$> Record.required "response" ResponseReport.decoder).Covers
        [("response", r.toJson)] (make r) :=
    (Covers.done make).required "response" (ResponseReport.written fits).reads
      List.not_mem_nil
  cases detail with
  | beforeRequestSent i =>
      have covers :=
        Covers.done Detail.beforeRequestSent |>.required
          "initiator" i.written.reads
      exact (params_recovers fits.base covers _ (by decide)).reads
  | responseStarted r =>
      exact (params_recovers fits.base (response r _ (fits.response r rfl)) _
        (by decide)).reads
  | responseCompleted r =>
      exact (params_recovers fits.base (response r _ (fits.response r rfl)) _
        (by decide)).reads
  | fetchError text =>
      have covers := Covers.done Detail.fetchError |>.required "errorText"
        (reads_string text)
      exact (params_recovers fits.base covers _ (by decide)).reads
  | authRequired r =>
      exact (params_recovers fits.base (response r _ (fits.response r rfl)) _
        (by decide)).reads

theorem written {e : Event} (fits : e.Fits) :
    Written decoder ["method", "params"] e.toJson e := by
  let variants : Variants (Decoder Event) :=
    EventKind.listing.map fun k => (k.method, detailDecoder k)
  have named : variants.named e.method = .ok (detailDecoder e.kind) := by
    rw [method]
    cases e.kind <;> rfl
  exact ⟨_, rfl, adjacent_recovers (by decide) named (params_reads fits)⟩

end Event

end Interception
