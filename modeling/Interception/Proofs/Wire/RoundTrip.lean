import Interception.Proofs.Wire.Events

/-!
# Round trips

Everything that travels as an object of its own is read back from what was
written for it, and fields of other names that stand in the object make no
difference.
-/

namespace Interception.Wire

open Message

/-- The types that travel as objects of their own. -/
inductive Schema where
  | addIntercept
  | removeIntercept
  | addInterceptResult
  | setCacheBehavior
  | continueRequest
  | continueResponse
  | continueWithAuth
  | failRequest
  | provideResponse
  | urlPattern
  | bytes
  | header
  | cookieHeader
  | setCookie
  | cookie
  | challenge
  | initiator
  | errorResponse
  | event
deriving DecidableEq, Repr

structure Form where
  Value : Type
  decoder : Decoder Value
  toJson : Value → Json
  names : List String
  /-- That integers are of the widths that they have on the wire, and timings
  are finite. -/
  Fits : Value → Prop := fun _ => True

namespace Schema

def form : Schema → Form
  | .addIntercept => {
      Value := AddIntercept, decoder := AddIntercept.decoder,
      toJson := AddIntercept.toJson
      names := ["contexts", "phases", "urlPatterns"] }
  | .removeIntercept => {
      Value := InterceptRef, decoder := InterceptRef.decoder,
      toJson := InterceptRef.toJson
      names := ["intercept"] }
  | .addInterceptResult => {
      Value := InterceptRef, decoder := InterceptRef.resultDecoder,
      toJson := InterceptRef.toJson
      names := ["intercept"] }
  | .setCacheBehavior => {
      Value := SetCacheBehavior, decoder := SetCacheBehavior.decoder
      toJson := SetCacheBehavior.toJson,
      names := ["cacheBehavior", "contexts"] }
  | .continueRequest => {
      Value := ContinueRequest, decoder := ContinueRequest.decoder
      toJson := ContinueRequest.toJson
      names := ["request", "body", "cookies", "headers", "method", "url"] }
  | .continueResponse => {
      Value := ContinueResponse, decoder := ContinueResponse.decoder
      toJson := ContinueResponse.toJson, Fits := ContinueResponse.Fits
      names :=
        ["request", "cookies", "credentials", "headers",
          "reasonPhrase", "statusCode"] }
  | .continueWithAuth => {
      Value := ContinueWithAuth, decoder := ContinueWithAuth.decoder
      toJson := ContinueWithAuth.toJson,
      names := ["request", "action", "credentials"] }
  | .failRequest => {
      Value := FailRequest, decoder := FailRequest.decoder,
      toJson := FailRequest.toJson
      names := ["request"] }
  | .provideResponse => {
      Value := ProvideResponse, decoder := ProvideResponse.decoder
      toJson := ProvideResponse.toJson, Fits := ProvideResponse.Fits
      names :=
        ["request", "body", "cookies", "headers",
          "reasonPhrase", "statusCode"] }
  | .urlPattern => {
      Value := UrlPattern, decoder := UrlPattern.decoder,
      toJson := UrlPattern.toJson
      names := UrlPattern.names }
  | .bytes => {
      Value := WireBytes, decoder := WireBytes.decoder,
      toJson := WireBytes.toJson
      names := ["type", "value"] }
  | .header => {
      Value := Header, decoder := Header.decoder, toJson := Header.toJson
      names := ["name", "value"] }
  | .cookieHeader => {
      Value := CookieHeader, decoder := CookieHeader.decoder,
      toJson := CookieHeader.toJson
      names := ["name", "value"] }
  | .setCookie => {
      Value := SetCookie, decoder := SetCookie.decoder,
      toJson := SetCookie.toJson
      Fits := SetCookie.Fits
      names :=
        ["name", "value", "domain", "httpOnly", "expiry", "maxAge", "path",
          "sameSite", "secure"] }
  | .cookie => {
      Value := Cookie, decoder := Cookie.decoder, toJson := Cookie.toJson,
      Fits := Cookie.Fits
      names :=
        ["name", "value", "domain", "path", "size", "httpOnly", "secure",
          "sameSite", "expiry"] }
  | .challenge => {
      Value := Challenge, decoder := Challenge.decoder,
      toJson := Challenge.toJson
      names := ["scheme", "realm"] }
  | .initiator => {
      Value := Initiator, decoder := Initiator.decoder,
      toJson := Initiator.toJson
      names := ["type", "request"] }
  | .errorResponse => {
      Value := ErrorResponse, decoder := ErrorResponse.decoder,
      toJson := ErrorResponse.toJson
      names := ["error", "message"] }
  | .event => {
      Value := Event, decoder := Event.decoder, toJson := Event.toJson,
      Fits := Event.Fits
      names := ["method", "params"] }

theorem written :
    (schema : Schema) → (x : schema.form.Value) → schema.form.Fits x →
    Written schema.form.decoder schema.form.names (schema.form.toJson x) x
  | .addIntercept, (p : AddIntercept), _ => p.written
  | .removeIntercept, (p : InterceptRef), _ => p.written _
  | .addInterceptResult, (p : InterceptRef), _ => p.written _
  | .setCacheBehavior, (p : SetCacheBehavior), _ => p.written
  | .continueRequest, (p : ContinueRequest), _ => p.written
  | .continueResponse, (_ : ContinueResponse), fits =>
    ContinueResponse.written fits
  | .continueWithAuth, (p : ContinueWithAuth), _ => p.written
  | .failRequest, (p : FailRequest), _ => p.written
  | .provideResponse, (_ : ProvideResponse), fits =>
    ProvideResponse.written fits
  | .urlPattern, (p : UrlPattern), _ => p.written
  | .bytes, (b : WireBytes), _ => b.written
  | .header, (h : Header), _ => h.written
  | .cookieHeader, (c : CookieHeader), _ => c.written
  | .setCookie, (_ : SetCookie), fits => SetCookie.written fits
  | .cookie, (_ : Cookie), fits => Cookie.written fits
  | .challenge, (c : Challenge), _ => c.written
  | .initiator, (i : Initiator), _ => i.written
  | .errorResponse, (e : ErrorResponse), _ => e.written
  | .event, (_ : Event), fits => Event.written fits

end Schema

theorem Reads.decodeParams {α : Type} {decode : Decoder α}
    {fields : List (String × Json)} {a : α} (h : Reads decode (.obj fields) a) :
    decodeParams decode (Json.obj fields).canonical = .ok a := by
  have decoded := h .direct
  rw [Json.canonical] at decoded ⊢
  simp only [Interception.decodeParams, decoded]

/--
What was written for a value is read back as that value, and so it is when
fields are added to the object whose names its type does not have.  An event is
tagged with the method of its kind.
-/
theorem decodeParams_written :
    (∀ (schema : Schema) (x : schema.form.Value), schema.form.Fits x →
      decodeParams schema.form.decoder (schema.form.toJson x).canonical =
        .ok x ∧
      ∃ fields, schema.form.toJson x = .obj fields ∧
        ∀ extra : List (String × Json), (∀ f ∈ extra, f.1 ∉ schema.form.names) →
          decodeParams schema.form.decoder
            (Json.obj (fields ++ extra)).canonical = .ok x) ∧
    ∀ e : Event, ∃ params,
      e.toJson.canonical =
        .obj [("method", .str e.kind.method), ("params", params)] := by
  refine ⟨fun schema x fits => ?_, fun e => ⟨_, rfl⟩⟩
  obtain ⟨fields, written, recovers⟩ := schema.written x fits
  refine ⟨?_, fields, written,
    fun extra apart => (recovers.reads_among apart).decodeParams⟩
  rw [written]
  exact recovers.reads.decodeParams

def heldEvent : Event where
  base := {
    context := some "tab", isBlocked := true, navigation := none,
    redirectCount := 4294967295
    request := {
      request := "r", url := "https://a/", method := "GET",
      headers := [.ofText "Accept" "*/*"]
      cookies := [{
        name := "id", value := .base64 "6Q==", domain := "a", path := "/"
        size := 18446744073709551615, httpOnly := true, secure := false,
        sameSite := .lax
        expiry := some (-9223372036854775808) }]
      headersSize := 3, bodySize := some 0, destination := "",
      initiatorType := some .script
      timings := { timeOrigin := 1.5, requestTime := -0.0 } }
    timestamp := 9223372036854775807, intercepts := some [.ofNat 255] }
  detail := .authRequired {
    url := "https://a/", protocol := "h2", status := 65535, statusText := "",
    fromCache := false
    headers := [], mimeType := "", bytesReceived := 0, headersSize := none,
    bodySize := none
    contentSize := some 7, authChallenges := some [⟨"Basic", "a"⟩] }

theorem decodeParams_written_heldEvent :
    heldEvent.Fits ∧ ∃ fields, heldEvent.toJson = .obj fields ∧
      decodeParams Event.decoder
        (Json.obj
          (fields ++
            [("id", .int 1), ("error", .null), ("id", .int 2)])).canonical =
        .ok heldEvent := by
  have fits : heldEvent.Fits := {
    base := {
      redirectCount := by decide
      request := {
        cookies := by
          intro c mem
          cases List.mem_singleton.1 mem
          exact ⟨by decide, fun t given => Option.some.inj given ▸ by decide⟩
        headersSize := by decide
        bodySize := by decide
        timings := by decide }
      timestamp := by decide }
    response := by
      rintro r ⟨⟩
      exact ⟨by decide, by decide, by decide, by decide, by decide⟩ }
  obtain ⟨-, fields, written, among⟩ :=
    decodeParams_written.1 .event heldEvent fits
  exact ⟨fits, fields, written, among _ (by decide)⟩

end Interception.Wire
