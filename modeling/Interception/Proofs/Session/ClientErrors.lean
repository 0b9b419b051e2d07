import Interception.Proofs.Intercepts.Standing
import Interception.Proofs.Message.Checks
import Interception.Proofs.Session.Release

/-!
# Errors of commands

Whatever a command fails with, it is something in what the client sent:
parameters that cannot be read or do not pass their checks, something named that
does not exist, or something asked for that is not provided.  Errors of the
engine itself do not arise, since each suspension has at hand what its phase
calls for.
-/

namespace Interception

open Message

def FailsOnly {α : Type} (blame : Error → Bool) (m : Except Error α) : Prop :=
  ∀ e, m = .error e → blame e

namespace FailsOnly

variable {α β : Type} {blame : Error → Bool}

theorem ok (a : α) : FailsOnly blame (.ok a) := by
  intro e failed
  cases failed

theorem error {e : Error} (blamed : blame e) :
    FailsOnly blame (.error e : Except Error α) := by
  intro e failed
  cases failed
  exact blamed

theorem bind {m : Except Error α} {f : α → Except Error β}
    (first : FailsOnly blame m) (rest : ∀ a, FailsOnly blame (f a)) :
    FailsOnly blame (m.bind f) := by
  intro e failed
  cases result : m with
  | error e' =>
      rw [result] at failed
      cases failed
      exact first e result
  | ok a =>
      rw [result] at failed
      exact rest a e failed

theorem map {m : Except Error α} (h : FailsOnly blame m) (f : α → β) :
    FailsOnly blame (m.map f) := by
  intro e failed
  cases result : m with
  | error e' =>
      rw [result] at failed
      cases failed
      exact h e result
  | ok a =>
      rw [result] at failed
      cases failed

theorem ite {c : Prop} [Decidable c] {m n : Except Error α}
    (whenTrue : FailsOnly blame m) (whenFalse : FailsOnly blame n) :
    FailsOnly blame (if c then m else n) := by
  split
  · exact whenTrue
  · exact whenFalse

theorem mono {wider : Error → Bool} {m : Except Error α} (h : FailsOnly blame m)
    (wide : ∀ e, blame e → wider e) : FailsOnly wider m :=
  fun e failed => wide e (h e failed)

theorem optional {check : α → Except Error β}
    (h : ∀ a, FailsOnly blame (check a)) (given : Option α) :
    FailsOnly blame (checkOptional check given) := by
  cases given with
  | none => exact ok none
  | some a => exact (h a).map some

theorem each {one : α → Except Error β} {all : List α → Except Error (List β)}
    (goes : Each one all) (h : ∀ a, FailsOnly blame (one a)) (as : List α) :
    FailsOnly blame (all as) := by
  induction as with
  | nil =>
      rw [goes.nil]
      exact ok []
  | cons a as ih =>
      rw [goes.cons]
      exact (h a).bind fun b => ih.bind fun bs => ok (b :: bs)

end FailsOnly

/-! ## Checks of parameters -/

theorem Error.isClientError_of_isInvalidArgument (e : Error)
    (h : e.isInvalidArgument) :
    e.isClientError := by
  cases e with
  | invalidArgument cause => rfl
  | _ => cases h

abbrev Rejects {α : Type} (m : Except Error α) : Prop :=
  FailsOnly Error.isInvalidArgument m

namespace Message

theorem WireBytes.decode_rejects (v : WireBytes) : Rejects v.decode := by
  cases v with
  | text s => exact .ok _
  | base64 s =>
      simp only [WireBytes.decode]
      split
      · exact .ok _
      · exact .error rfl

theorem WireBytes.decodeText_rejects (v : WireBytes) :
    Rejects v.decodeText := by
  cases v with
  | text s => exact .ok s
  | base64 s => exact (decode_rejects (.base64 s)).bind fun bytes => .ok _

theorem Header.toLine_rejects (h : Header) : Rejects h.toLine :=
  .ite (.bind h.value.decodeText_rejects fun _ => .ite (.ok _) (.error rfl))
    (.error rfl)

theorem linesOf_rejects (headers : List Header) : Rejects (linesOf headers) :=
  .each each_linesOf Header.toLine_rejects headers

private theorem checkCookiePart_rejects (part : CookiePart) (text : String) :
    Rejects (checkCookiePart part text) :=
  .ite (.error rfl) (.ok ())

theorem cookiePair_rejects (name : String) (value : WireBytes) :
    Rejects (cookiePair name value) :=
  .ite
    (.bind value.decodeText_rejects fun text =>
      .bind (checkCookiePart_rejects .value text) fun _ => .ok _)
    (.error rfl)

theorem encodeCookies_rejects (cookies : List CookieHeader) :
    Rejects (encodeCookies cookies) := by
  have pairs : Rejects (encodePairs cookies) :=
    .each each_encodePairs (fun c => cookiePair_rejects c.name c.value) cookies
  exact .bind pairs fun _ => .ok _

theorem SetCookie.encode_rejects (c : SetCookie) : Rejects c.encode := by
  have part : ∀ kind text, Rejects (SetCookie.checkOptional kind text) := by
    intro kind text
    cases text with
    | none => exact .ok ()
    | some text => exact checkCookiePart_rejects kind text
  refine .bind (cookiePair_rejects c.name c.value) fun pair => ?_
  exact .bind (part .expiry c.expiry) fun _ =>
    .bind (part .domain c.domain) fun _ =>
    .bind (part .path c.path) fun _ => .ok _

theorem encodeSetCookies_rejects (cookies : List SetCookie) :
    Rejects (encodeSetCookies cookies) :=
  .each each_encodeSetCookies SetCookie.encode_rejects cookies

end Message

private theorem checkMethod_rejects (method : String) :
    Rejects (checkMethod method) :=
  .ite (.ok _) (.error rfl)

private theorem checkUrl_rejects (text : String) : Rejects (checkUrl text) := by
  unfold checkUrl
  split
  · exact .ok _
  · exact .error rfl

private theorem checkReason_rejects (text : String) :
    Rejects (checkReason text) :=
  .ite (.ok _) (.error rfl)

theorem ContinueRequest.check_rejects (p : ContinueRequest) : Rejects p.check :=
  .bind (.optional checkMethod_rejects p.method) fun _ =>
    .bind (.optional checkUrl_rejects p.url) fun _ =>
      .bind (.optional linesOf_rejects p.headers) fun _ =>
        .bind (.optional encodeCookies_rejects p.cookies) fun _ =>
          .bind (.optional WireBytes.decode_rejects p.body) fun _ => .ok _

theorem ContinueResponse.check_rejects (p : ContinueResponse) :
    Rejects p.check :=
  .bind (.optional linesOf_rejects p.headers) fun _ =>
    .bind (.optional encodeSetCookies_rejects p.cookies) fun _ =>
      .bind (.optional checkReason_rejects p.reasonPhrase) fun _ => .ok _

theorem ProvideResponse.check_rejects (p : ProvideResponse) : Rejects p.check :=
  .bind (.optional linesOf_rejects p.headers) fun _ =>
    .bind (.optional encodeSetCookies_rejects p.cookies) fun _ =>
      .bind (.optional WireBytes.decode_rejects p.body) fun _ =>
        .bind (.optional checkReason_rejects p.reasonPhrase) fun _ => .ok _

theorem Suspension.expect_rejects (held : Suspension) (allowed : List Phase) :
    Rejects (held.expect allowed) :=
  .ite (.ok ()) (.error rfl)

theorem compilePatterns_rejects (ps : List UrlPattern) :
    Rejects (compilePatterns ps) := by
  induction ps with
  | nil => exact .ok []
  | cons p ps ih =>
      unfold compilePatterns
      split
      · exact .error rfl
      · exact ih.map _

theorem decodeParams_rejects {α : Type} (decode : Wire.Decoder α)
    (params : Json) :
    Rejects (decodeParams decode params) := by
  unfold decodeParams
  dsimp only
  split
  · exact .ok _
  · exact .error rfl

/-! ## Contexts and intercepts -/

abbrev Blames {α : Type} (m : Except Error α) : Prop :=
  FailsOnly Error.isClientError m

theorem FailsOnly.blames {α : Type} {m : Except Error α} (h : Rejects m) :
    Blames m :=
  h.mono Error.isClientError_of_isInvalidArgument

theorem Contexts.requireTopLevel_blames (c : Contexts) (id : ContextId) :
    Blames (c.requireTopLevel id) := by
  have found : Blames (c.require id) := by
    unfold require
    split
    · exact .ok _
    · exact .error rfl
  exact .bind found fun info => .ite (.ok ()) (.error rfl)

theorem Contexts.requireTopLevels_blames (c : Contexts) (ids : List ContextId) :
    Blames (c.requireTopLevels ids) := by
  have each : Blames (c.requireEachTopLevel ids) := by
    induction ids with
    | nil => exact .ok ()
    | cons id ids ih => exact .bind (c.requireTopLevel_blames id) fun _ => ih
  exact .ite (.error rfl) each

theorem Intercepts.add_blames (s : Intercepts) (contexts : Contexts)
    (p : AddIntercept) (id : InterceptId) : Blames (s.add contexts p id) := by
  have scope : Blames (checkScope contexts p.contexts) := by
    cases p.contexts with
    | none => exact .ok ()
    | some ids => exact contexts.requireTopLevels_blames ids
  have valid : Blames (validate contexts p id) := by
    rw [validate_eq]
    exact .ite (.error rfl)
      (.bind scope fun _ => (compilePatterns_rejects _).blames.map _)
  exact .bind valid fun i => .ok _

theorem Intercepts.remove_blames (s : Intercepts) (id : InterceptId) :
    Blames (s.remove id) :=
  .ite (.ok _) (.error rfl)

/-! ## Commands -/

theorem Command.parse_blames (method : String) (params : Json) :
    Blames (Command.parse method params) := by
  unfold Command.parse
  split
  -- A method that there is not.
  case h_9 => exact .error rfl
  all_goals exact (decodeParams_rejects _ _).blames.map _

theorem Continuation.plan_blames (c : Continuation) (t : Transport)
    (held : Suspension) :
    Blames (c.plan t held) := by
  cases c with
  | request p =>
      exact .bind (held.expect_rejects _).blames fun _ =>
        p.check_rejects.blames.map _
  | response p =>
      exact .bind (held.expect_rejects _).blames fun _ =>
        p.check_rejects.blames.map _
  | auth p =>
      simp only [Continuation.plan, ContinueWithAuth.plan]
      split
      · exact .ok _
      · exact .error rfl
  | failure p => exact .ite (.error rfl) (.ok _)
  | substitute p =>
      refine .ite (p.check_rejects.blames.map _) ?_
      split
      · exact .error rfl
      · exact .ok _

namespace Engine

variable {s s' : Session} {e : Error}

private theorem addIntercept_error {p : AddIntercept}
    (failed : (addIntercept p).run s = .error e s') :
    e.isClientError := by
  rw [run_addIntercept] at failed
  cases added : s.intercepts.add s.contexts p s.ids.next.1 with
  | ok intercepts =>
      rw [added] at failed
      cases failed
  | error e' =>
      rw [added] at failed
      cases failed
      exact s.intercepts.add_blames _ _ _ _ added

private theorem isClientError_of_check {α β : Type} {m : Except Error α}
    {rest : α → Engine β} (blames : Blames m)
    (succeeds : ∀ a, ∃ b after, (rest a).run s = .ok b after)
    (failed : (check m >>= rest).run s = .error e s') : e.isClientError := by
  cases checked : m with
  | error e' =>
      rw [checked, EStateM.run_bind, run_check_error] at failed
      cases failed
      exact blames _ checked
  | ok a =>
      obtain ⟨b, after, done⟩ := succeeds a
      rw [checked, EStateM.run_bind, run_check_ok] at failed
      dsimp only at failed
      rw [done] at failed
      cases failed

private theorem removeIntercept_error {p : InterceptRef}
    (failed : (removeIntercept p).run s = .error e s') : e.isClientError := by
  rw [removeIntercept, EStateM.run_bind, EStateM.run_get] at failed
  refine isClientError_of_check (s.intercepts.remove_blames p.intercept)
    (fun _ => ?_) failed
  exact ⟨_, _, rfl⟩

private theorem setCacheBehavior_error {p : SetCacheBehavior}
    (failed : (setCacheBehavior p).run s = .error e s') : e.isClientError := by
  cases limited : p.contexts with
  | none =>
      rw [setCacheBehavior, limited] at failed
      cases failed
  | some ids =>
      obtain ⟨after, done, -⟩ := overrideAll_run p.cacheBehavior ids s
      rw [setCacheBehavior, limited, EStateM.run_bind,
        EStateM.run_get] at failed
      exact isClientError_of_check (s.contexts.requireTopLevels_blames ids)
        (fun _ => ⟨_, after, done⟩) failed

private theorem continuation_error {registered : List Suspension}
    (account : s.suspensions.Account registered) {now : Nat} (c : Continuation)
    (failed : (execute now c.command).run s = .error e s') :
    e.isClientError := by
  -- What a command that releases an exchange fails with comes from its plan,
  -- and there the phase of a suspension says what is at hand.
  rw [execute_continuation account] at failed
  cases live : s.suspensions.live.get? c.target with
  | none =>
      rw [live] at failed
      cases failed
      rfl
  | some held =>
      cases planned : c.plan s.transport held with
      | ok plan =>
          simp only [live, planned, followed] at failed
          cases failed
      | error e' =>
          simp only [live, planned, followed] at failed
          cases failed
          exact c.plan_blames _ _ _ planned

private theorem error_of_map {α : Type} {m : Engine α} {f : α → Reply}
    (failed : (f <$> m).run s = .error e s') : m.run s = .error e s' := by
  rw [run_map] at failed
  cases result : m.run s with
  | ok a after =>
      rw [result] at failed
      cases failed
  | error e' after =>
      rw [result] at failed
      cases failed
      rfl

theorem execute_error {registered : List Suspension}
    (account : s.suspensions.Account registered) {now : Nat} {c : Command}
    (failed : (execute now c).run s = .error e s') : e.isClientError := by
  cases c with
  | addIntercept p =>
      exact addIntercept_error (error_of_map (f := .added) failed)
  | removeIntercept p =>
      exact removeIntercept_error (error_of_map (f := fun _ => .done) failed)
  | setCacheBehavior p =>
      exact setCacheBehavior_error (error_of_map (f := fun _ => .done) failed)
  | continueRequest p => exact continuation_error account (.request p) failed
  | continueResponse p => exact continuation_error account (.response p) failed
  | continueWithAuth p => exact continuation_error account (.auth p) failed
  | failRequest p => exact continuation_error account (.failure p) failed
  | provideResponse p => exact continuation_error account (.substitute p) failed

end Engine

namespace Error

def clientCodes : List String :=
  ["invalid argument", "no such request", "no such intercept", "no such frame",
    "unsupported operation", "unknown command"]

private theorem code_mem_of_isClientError {e : Error} (h : e.isClientError) :
    e.code ∈ clientCodes := by
  cases e with
  | serialization cause => cases h
  | other text => cases h
  | _ => simp [code, clientCodes]

end Error

namespace Session

/--
Whatever happened to a session before and whatever is sent to it as a command,
an error that it answers blames the client and has one of the codes for that.
So the engine never finds a suspended prompt without the means to answer it.
-/
theorem handle_error_blames_client {s : Session} (reachable : s.Reachable)
    (now : Nat) (method : String) (params : Json) {error : Error}
    (failed : (s.handle now method params).1 = .error error) :
    error.isClientError ∧ error.code ∈ Error.clientCodes ∧
      error.code ≠ "unknown error" ∧
      error ≠ .other "authRequired exchange without auth callbacks" := by
  have blamed : error.isClientError := by
    obtain ⟨registered, account⟩ := reachable.sound.account
    rw [handle_eq] at failed
    cases parsed : Command.parse method params with
    | error e =>
        rw [parsed] at failed
        cases failed
        exact Command.parse_blames method params _ parsed
    | ok c =>
        cases result : (Engine.execute now c).run s with
        | ok reply s' => simp [parsed, Engine.outcome, result] at failed
        | error e s' =>
            simp only [parsed, Engine.outcome, result,
              Except.error.injEq] at failed
            exact failed ▸ Engine.execute_error account result
  have listed := Error.code_mem_of_isClientError blamed
  refine ⟨blamed, listed, ?_, ?_⟩
  · intro unknown
    rw [unknown] at listed
    simp [Error.clientCodes] at listed
  · rintro rfl
    cases blamed

theorem handle_error_blames_client_wrong_phase :
    ∃ error,
      (holdingOne.handle 1 "network.continueWithAuth"
        (.obj [("request", .str "r"), ("action", .str "cancel")])).1 =
          .error error ∧
      error.isClientError ∧ error.code ∈ Error.clientCodes ∧
      error.code ≠ "unknown error" ∧
      error ≠ .other "authRequired exchange without auth callbacks" := by
  have failed : (holdingOne.handle 1 "network.continueWithAuth"
      (.obj [("request", .str "r"), ("action", .str "cancel")])).1 =
      .error
        (.invalidArgument
          (.wrongPhase "r" [.authRequired] .beforeRequestSent)) := by
    rfl
  have reachable : holdingOne.Reachable := ⟨_, _, _, rfl⟩
  exact ⟨_, failed, handle_error_blames_client reachable 1 _ _ failed⟩

end Session

end Interception
