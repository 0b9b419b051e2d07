import Interception.Command.Parameters
import Interception.Message.Challenge
import Interception.Proofs.UuidText
import Interception.Proofs.Wire.Reads

/-!
# Written messages and parameters

For each record the fields are gone through in the order in which both sides
have them.  Numbers are read back if they fit the width that they have on the
wire.
-/

namespace Interception

open Wire Message
open Wire.Record (Covers)

theorem reads_uuid (u : Uuid) : Reads uuid (.str u.text) u := by
  intro r
  simp only [Json.canonical, uuid, Uuid.ofText?_text]

theorem Phase.reads (p : Phase) : Reads decoder p.toJson p := by
  cases p <;> exact reads_variant rfl

theorem CacheBehavior.reads (b : CacheBehavior) : Reads decoder b.toJson b := by
  cases b <;> exact reads_variant rfl

def Signed64 (n : Int) : Prop := -Nat.pow 2 63 ≤ n ∧ n < Nat.pow 2 63

instance (n : Int) : Decidable (Signed64 n) :=
  inferInstanceAs (Decidable (-Nat.pow 2 63 ≤ n ∧ n < Nat.pow 2 63))

theorem reads_signed64 {n : Int} (fits : Signed64 n) :
    Reads signed64 (.int n) n :=
  reads_integer fits

theorem ErrorResponse.written (e : ErrorResponse) :
    Written decoder record.names e.toJson e := by
  have covers := Covers.done ErrorResponse.mk
    |>.required "error" (reads_string e.error)
    |>.required "message" (reads_string e.message)
  exact covers.written _

/-! ## Messages -/

namespace Message

theorem SameSite.reads (s : SameSite) : Reads decoder s.toJson s := by
  cases s <;> exact reads_variant rfl

theorem WireBytes.written (b : WireBytes) :
    Written decoder ["type", "value"] b.toJson b := by
  cases b with
  | text s => exact ⟨_, rfl, adjacent_recovers (by decide) rfl fun _ => rfl⟩
  | base64 s => exact ⟨_, rfl, adjacent_recovers (by decide) rfl fun _ => rfl⟩

theorem Header.written (h : Header) :
    Written decoder record.names h.toJson h := by
  have covers := Covers.done Header.mk
    |>.required "name" (reads_string h.name)
    |>.required "value" h.value.written.reads
  exact covers.written _

theorem CookieHeader.written (c : CookieHeader) :
    Written decoder record.names c.toJson c := by
  have covers := Covers.done CookieHeader.mk
    |>.required "name" (reads_string c.name)
    |>.required "value" c.value.written.reads
  exact covers.written _

def SetCookie.Fits (c : SetCookie) : Prop := ∀ age ∈ c.maxAge, Signed64 age

theorem SetCookie.written {c : SetCookie} (fits : c.Fits) :
    Written decoder record.names c.toJson c := by
  have covers := Covers.done SetCookie.mk
    |>.required "name" (reads_string c.name)
    |>.required "value" c.value.written.reads
    |>.optional "domain" c.domain (fun d _ => reads_string d)
    |>.optional "httpOnly" c.httpOnly (fun b _ => reads_boolean b)
    |>.optional "expiry" c.expiry (fun t _ => reads_string t)
    |>.optional "maxAge" c.maxAge (fun n given => reads_signed64 (fits n given))
    |>.optional "path" c.path (fun p _ => reads_string p)
    |>.optional "sameSite" c.sameSite (fun s _ => s.reads)
    |>.optional "secure" c.secure (fun b _ => reads_boolean b)
  exact covers.written _

structure Cookie.Fits (c : Cookie) : Prop where
  size : c.size < Nat.pow 2 64
  expiry : ∀ t ∈ c.expiry, Signed64 t

theorem Cookie.written {c : Cookie} (fits : c.Fits) :
    Written decoder record.names c.toJson c := by
  have covers := Covers.done Cookie.mk
    |>.required "name" (reads_string c.name)
    |>.required "value" c.value.written.reads
    |>.required "domain" (reads_string c.domain)
    |>.required "path" (reads_string c.path)
    |>.required "size" (reads_natural fits.size)
    |>.required "httpOnly" (reads_boolean c.httpOnly)
    |>.required "secure" (reads_boolean c.secure)
    |>.required "sameSite" c.sameSite.reads
    |>.omitted "expiry" c.expiry
      (fun t given => reads_signed64 (fits.expiry t given))
  exact covers.written _

theorem Challenge.written (c : Challenge) :
    Written decoder record.names c.toJson c := by
  have covers := Covers.done Challenge.mk
    |>.required "scheme" (reads_string c.scheme)
    |>.required "realm" (reads_string c.realm)
  exact covers.written _

end Message

/-! ## Patterns -/

theorem Pattern.Parts.covers (p : Pattern.Parts) :
    record.Covers p.fields p := by
  have covers := Covers.done Pattern.Parts.mk
    |>.optional "protocol" p.protocol (fun t _ => reads_string t)
    |>.optional "hostname" p.hostname (fun t _ => reads_string t)
    |>.optional "port" p.port (fun t _ => reads_string t)
    |>.optional "pathname" p.pathname (fun t _ => reads_string t)
    |>.optional "search" p.search (fun t _ => reads_string t)
  exact covers

def UrlPattern.names : List String :=
  ["type", "protocol", "hostname", "port", "pathname", "search", "pattern"]

theorem UrlPattern.written (p : UrlPattern) :
    Written decoder names p.toJson p := by
  cases p with
  | parts p =>
      have covers := p.covers.map UrlPattern.parts
      have within : (UrlPattern.parts <$> Pattern.Parts.record).names.Sublist
          names.tail := by
        decide
      exact ⟨_, rfl,
        internal_recovers rfl (covers.body _) covers.listed within (by decide)⟩
  | text s =>
      have covers :=
        Covers.done UrlPattern.text |>.required "pattern" (reads_string s)
      exact ⟨_, rfl,
        internal_recovers rfl (covers.body _) covers.listed
          (by decide) (by decide)⟩

/-! ## Parameters -/

theorem Credentials.written (c : Credentials) :
    Written decoder ("type" :: record.names) c.toJson c := by
  have covers := Covers.done Credentials.mk
    |>.required "username" (reads_string c.username)
    |>.required "password" (reads_string c.password)
  exact ⟨_, rfl,
    internal_recovers rfl (covers.body _) covers.listed (.refl _) (by decide)⟩

theorem AuthAction.recovers (action : AuthAction) :
    Recovers decoder ["action", "credentials"] action.fields action := by
  cases action with
  | cancel =>
      exact internal_recovers rfl (Body.constant_takes _ [])
        .slnil (by decide) (by decide)
  | default =>
      exact internal_recovers rfl (Body.constant_takes _ [])
        .slnil (by decide) (by decide)
  | provide c =>
      have covers :=
        Covers.done AuthAction.provide |>.required "credentials" c.written.reads
      exact internal_recovers rfl (covers.body _) covers.listed
        (by decide) (by decide)

theorem ContinueRequest.written (p : ContinueRequest) :
    Written decoder record.names p.toJson p := by
  have covers := Covers.done ContinueRequest.mk
    |>.required "request" (reads_string p.request)
    |>.optional "body" p.body (fun b _ => b.written.reads)
    |>.optional "cookies" p.cookies
      (fun cs _ => reads_sequence fun c _ => c.written.reads)
    |>.optional "headers" p.headers
      (fun hs _ => reads_sequence fun h _ => h.written.reads)
    |>.optional "method" p.method (fun m _ => reads_string m)
    |>.optional "url" p.url (fun u _ => reads_string u)
  exact covers.written _

structure ContinueResponse.Fits (p : ContinueResponse) : Prop where
  cookies : ∀ cs ∈ p.cookies, ∀ c ∈ cs, c.Fits
  statusCode : ∀ n ∈ p.statusCode, n < Nat.pow 2 16

theorem ContinueResponse.written {p : ContinueResponse} (fits : p.Fits) :
    Written decoder record.names p.toJson p := by
  have covers := Covers.done ContinueResponse.mk
    |>.required "request" (reads_string p.request)
    |>.optional "cookies" p.cookies (fun cs given =>
      reads_sequence fun c mem =>
        (SetCookie.written (fits.cookies cs given c mem)).reads)
    |>.optional "credentials" p.credentials (fun c _ => c.written.reads)
    |>.optional "headers" p.headers
      (fun hs _ => reads_sequence fun h _ => h.written.reads)
    |>.optional "reasonPhrase" p.reasonPhrase (fun t _ => reads_string t)
    |>.optional "statusCode" p.statusCode
      (fun n given => reads_natural (fits.statusCode n given))
  exact covers.written _

structure ProvideResponse.Fits (p : ProvideResponse) : Prop where
  cookies : ∀ cs ∈ p.cookies, ∀ c ∈ cs, c.Fits
  statusCode : ∀ n ∈ p.statusCode, n < Nat.pow 2 16

theorem ProvideResponse.written {p : ProvideResponse} (fits : p.Fits) :
    Written decoder record.names p.toJson p := by
  have covers := Covers.done ProvideResponse.mk
    |>.required "request" (reads_string p.request)
    |>.optional "body" p.body (fun b _ => b.written.reads)
    |>.optional "cookies" p.cookies (fun cs given =>
      reads_sequence fun c mem =>
        (SetCookie.written (fits.cookies cs given c mem)).reads)
    |>.optional "headers" p.headers
      (fun hs _ => reads_sequence fun h _ => h.written.reads)
    |>.optional "reasonPhrase" p.reasonPhrase (fun t _ => reads_string t)
    |>.optional "statusCode" p.statusCode
      (fun n given => reads_natural (fits.statusCode n given))
  exact covers.written _

theorem ContinueWithAuth.written (p : ContinueWithAuth) :
    Written decoder ["request", "action", "credentials"] p.toJson p := by
  have action := p.action.recovers
  refine ⟨_, rfl, action.listed.cons_cons _, by decide,
    fun object carries r => ?_⟩
  -- The action is read from the fields beside the request, as from an object of
  -- its own.
  let own := Record.required "request" string
  have request : own.Covers [("request", .str p.request)] p.request :=
    .of_field (reads_string p.request) none none
  have both := Record.beside_ok "struct ContinueWithAuthParameters" request
    (fun rest carried => action.takes rest carried .buffered) action.listed
      (by decide)
    (fun f => by rw [List.mem_singleton, List.mem_cons])
    (fun name known => carries name (List.mem_append.2 known)) r
  exact congrArg (Except.map _) both

theorem FailRequest.written (p : FailRequest) :
    Written decoder record.names p.toJson p := by
  have covers :=
    Covers.done FailRequest.mk |>.required "request" (reads_string p.request)
  exact covers.written _

theorem AddIntercept.written (p : AddIntercept) :
    Written decoder record.names p.toJson p := by
  have covers := Covers.done AddIntercept.mk
    |>.optional "contexts" p.contexts
      (fun ids _ => reads_sequence fun id _ => reads_string id)
    |>.required "phases"
      (reads_sequence fun phase (_ : phase ∈ p.phases) => phase.reads)
    |>.optional "urlPatterns" p.urlPatterns
      (fun ps _ => reads_sequence fun pattern _ => pattern.written.reads)
  exact covers.written _

/-- What adding an intercept returns reads as what removing one takes, and the
other way round. -/
theorem InterceptRef.written (p : InterceptRef) (name : String) :
    Written (record.decode name) record.names p.toJson p := by
  have covers :=
    Covers.done InterceptRef.mk |>.required "intercept" (reads_uuid p.intercept)
  exact covers.written _

theorem SetCacheBehavior.written (p : SetCacheBehavior) :
    Written decoder record.names p.toJson p := by
  have covers := Covers.done SetCacheBehavior.mk
    |>.required "cacheBehavior" p.cacheBehavior.reads
    |>.optional "contexts" p.contexts
      (fun ids _ => reads_sequence fun id _ => reads_string id)
  exact covers.written _

end Interception
