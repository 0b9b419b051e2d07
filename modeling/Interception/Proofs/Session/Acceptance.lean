import Interception.Proofs.Message.Checks
import Interception.Proofs.Message.WireForms
import Interception.Proofs.Session.ClientErrors

/-!
# Which commands are accepted

A command that releases an exchange is answered by the phase that the exchange
is held in and by the parameters, and by nothing else: neither the transport nor
the rest of the session can refuse it.  First what makes each parameter valid,
then the phases that each command is for.
-/

namespace Interception

open Message

/-! ## Checks that succeed -/

def Succeeds {α : Type} (m : Except Error α) : Prop := ∃ a, m = .ok a

section Succeeds

variable {α β : Type}

theorem succeeds_ok (a : α) : Succeeds (.ok a) := ⟨a, rfl⟩

theorem not_succeeds_error (e : Error) :
    ¬ Succeeds (.error e : Except Error α) := by
  rintro ⟨a, ok⟩
  cases ok

theorem succeeds_ite_iff {c : Prop} [Decidable c] {a : α} {e : Error} :
    Succeeds (if c then .ok a else .error e) ↔ c := by
  split
  case isTrue holds => exact iff_of_true (succeeds_ok a) holds
  case isFalse fails => exact iff_of_false (not_succeeds_error e) fails

theorem succeeds_bind_iff {m : Except Error α} {f : α → Except Error β}
    {P : Prop} (rest : ∀ a, Succeeds (f a) ↔ P) :
    Succeeds (m.bind f) ↔ Succeeds m ∧ P := by
  cases m with
  | error e =>
      exact iff_of_false (not_succeeds_error e) fun both =>
        not_succeeds_error e both.1
  | ok a => exact (rest a).trans (and_iff_right (succeeds_ok a)).symm

theorem succeeds_map_iff {m : Except Error α} (f : α → β) :
    Succeeds (m.map f) ↔ Succeeds m := by
  cases m with
  | error e => exact iff_of_false (not_succeeds_error e) (not_succeeds_error e)
  | ok a => exact iff_of_true (succeeds_ok (f a)) (succeeds_ok a)

theorem succeeds_optional_iff {check : α → Except Error β} {P : α → Prop}
    (each : ∀ a, Succeeds (check a) ↔ P a) (given : Option α) :
    Succeeds (checkOptional check given) ↔ ∀ a ∈ given, P a := by
  cases given with
  | none => exact iff_of_true (succeeds_ok none) (by simp)
  | some a =>
      rw [checkOptional, succeeds_map_iff, each]
      simp

theorem succeeds_each_iff {one : α → Except Error β}
    {all : List α → Except Error (List β)} (goes : Each one all) {P : α → Prop}
    (each : ∀ a, Succeeds (one a) ↔ P a) (as : List α) :
    Succeeds (all as) ↔ ∀ a ∈ as, P a := by
  induction as with
  | nil =>
      rw [goes.nil]
      exact iff_of_true (succeeds_ok []) (List.forall_mem_nil P)
  | cons a as ih =>
      have rest : ∀ b, Succeeds ((all as).bind fun bs => .ok (b :: bs)) ↔
          ∀ a ∈ as, P a :=
        fun b => (succeeds_bind_iff fun bs =>
          iff_true_intro (succeeds_ok (b :: bs))).trans (by rw [ih, and_true])
      rw [goes.cons, succeeds_bind_iff rest, each, List.forall_mem_cons]

end Succeeds

/-! ## Valid parameters -/

namespace Message

def WireBytes.Readable : WireBytes → Prop
  | .text _ => True
  | .base64 s => ∃ bytes, Base64.Canonical bytes s

structure Header.Valid (h : Header) : Prop where
  name : isToken h.name
  value : ∃ text, h.value.ReadAs text ∧ isFieldValue text

structure CookieHeader.Valid (c : CookieHeader) : Prop where
  name : isToken c.name
  value : ∃ text, c.value.ReadAs text ∧ Contained text

def SetCookie.Valid (c : SetCookie) : Prop := ∃ value, c.Admissible value

theorem WireBytes.succeeds_decode_iff (v : WireBytes) :
    Succeeds v.decode ↔ v.Readable := by
  cases v with
  | text s => exact iff_true_intro (succeeds_ok (Text.utf8 s))
  | base64 s => exact exists_congr fun bytes => decode_base64_ok_iff

private theorem Header.succeeds_toLine_iff (h : Header) :
    Succeeds h.toLine ↔ h.Valid := by
  constructor
  · rintro ⟨line, read⟩
    obtain ⟨-, name, decoded, valid⟩ := toLine_ok_iff.1 read
    exact ⟨name, line.value, decoded, valid⟩
  · rintro ⟨name, text, decoded, valid⟩
    exact ⟨⟨h.name, text⟩, toLine_ok_iff.2 ⟨rfl, name, decoded, valid⟩⟩

private theorem CookieHeader.succeeds_encode_iff (c : CookieHeader) :
    Succeeds c.encode ↔ c.Valid := by
  constructor
  · rintro ⟨pair, paired⟩
    obtain ⟨name, text, decoded, contained, -⟩ := cookiePair_ok_iff.1 paired
    exact ⟨name, text, decoded, contained⟩
  · rintro ⟨name, text, decoded, contained⟩
    exact ⟨_, cookiePair_ok_iff.2 ⟨name, text, decoded, contained, rfl⟩⟩

private theorem SetCookie.succeeds_encode_iff (c : SetCookie) :
    Succeeds c.encode ↔ c.Valid := by
  constructor
  · rintro ⟨line, encoded⟩
    obtain ⟨value, admitted, -⟩ := encode_ok_iff.1 encoded
    exact ⟨value, admitted⟩
  · rintro ⟨value, admitted⟩
    exact ⟨_, encode_ok_iff.2 ⟨value, admitted, rfl⟩⟩

theorem succeeds_linesOf_iff (headers : List Header) :
    Succeeds (linesOf headers) ↔ ∀ h ∈ headers, h.Valid :=
  succeeds_each_iff each_linesOf Header.succeeds_toLine_iff headers

theorem succeeds_encodeCookies_iff (cookies : List CookieHeader) :
    Succeeds (encodeCookies cookies) ↔ ∀ c ∈ cookies, c.Valid := by
  have pairs : Succeeds (encodePairs cookies) ↔ ∀ c ∈ cookies, c.Valid :=
    succeeds_each_iff each_encodePairs CookieHeader.succeeds_encode_iff cookies
  have joined : Succeeds (encodeCookies cookies) ↔
      Succeeds (encodePairs cookies) ∧ True :=
    succeeds_bind_iff fun _ => iff_true_intro (succeeds_ok _)
  rw [joined, pairs, and_true]

theorem succeeds_encodeSetCookies_iff (cookies : List SetCookie) :
    Succeeds (encodeSetCookies cookies) ↔ ∀ c ∈ cookies, c.Valid :=
  succeeds_each_iff each_encodeSetCookies SetCookie.succeeds_encode_iff cookies

end Message

private theorem succeeds_checkMethod_iff (method : String) :
    Succeeds (checkMethod method) ↔ isToken method :=
  succeeds_ite_iff

private theorem succeeds_checkUrl_iff (text : String) :
    Succeeds (checkUrl text) ↔ ∃ url, Url.parse text = .ok url := by
  unfold checkUrl
  cases Url.parse text with
  | error cause => exact iff_of_false (not_succeeds_error _) (by simp)
  | ok url => exact iff_of_true (succeeds_ok url) ⟨url, rfl⟩

private theorem succeeds_checkReason_iff (text : String) :
    Succeeds (checkReason text) ↔ isFieldValue text :=
  succeeds_ite_iff

structure ContinueRequest.Valid (p : ContinueRequest) : Prop where
  method : ∀ m ∈ p.method, isToken m
  url : ∀ u ∈ p.url, ∃ url, Url.parse u = .ok url
  headers : ∀ hs ∈ p.headers, ∀ h ∈ hs, h.Valid
  cookies : ∀ cs ∈ p.cookies, ∀ c ∈ cs, c.Valid
  body : ∀ b ∈ p.body, b.Readable

/-- Neither the status nor the credentials can be invalid. -/
structure ContinueResponse.Valid (p : ContinueResponse) : Prop where
  headers : ∀ hs ∈ p.headers, ∀ h ∈ hs, h.Valid
  cookies : ∀ cs ∈ p.cookies, ∀ c ∈ cs, c.Valid
  reason : ∀ r ∈ p.reasonPhrase, isFieldValue r

structure ProvideResponse.Valid (p : ProvideResponse) : Prop where
  headers : ∀ hs ∈ p.headers, ∀ h ∈ hs, h.Valid
  cookies : ∀ cs ∈ p.cookies, ∀ c ∈ cs, c.Valid
  body : ∀ b ∈ p.body, b.Readable
  reason : ∀ r ∈ p.reasonPhrase, isFieldValue r

theorem ContinueRequest.succeeds_check_iff (p : ContinueRequest) :
    Succeeds p.check ↔ p.Valid := by
  have steps : Succeeds p.check ↔
      Succeeds (checkOptional checkMethod p.method) ∧
      Succeeds (checkOptional checkUrl p.url) ∧
        Succeeds (checkOptional linesOf p.headers) ∧
        Succeeds (checkOptional encodeCookies p.cookies) ∧
        Succeeds (checkOptional WireBytes.decode p.body) ∧ True :=
    succeeds_bind_iff fun _ => succeeds_bind_iff fun _ =>
      succeeds_bind_iff fun _ => succeeds_bind_iff fun _ =>
        succeeds_bind_iff fun _ => iff_true_intro (succeeds_ok _)
  rw [steps, succeeds_optional_iff succeeds_checkMethod_iff,
    succeeds_optional_iff succeeds_checkUrl_iff,
    succeeds_optional_iff succeeds_linesOf_iff,
    succeeds_optional_iff succeeds_encodeCookies_iff,
    succeeds_optional_iff WireBytes.succeeds_decode_iff]
  constructor
  · rintro ⟨method, url, headers, cookies, body, -⟩
    exact ⟨method, url, headers, cookies, body⟩
  · rintro ⟨method, url, headers, cookies, body⟩
    exact ⟨method, url, headers, cookies, body, trivial⟩

theorem ContinueResponse.succeeds_check_iff (p : ContinueResponse) :
    Succeeds p.check ↔ p.Valid := by
  have steps : Succeeds p.check ↔
      Succeeds (checkOptional linesOf p.headers) ∧
        Succeeds (checkOptional encodeSetCookies p.cookies) ∧
        Succeeds (checkOptional checkReason p.reasonPhrase) ∧ True :=
    succeeds_bind_iff fun _ => succeeds_bind_iff fun _ =>
      succeeds_bind_iff fun _ => iff_true_intro (succeeds_ok _)
  rw [steps, succeeds_optional_iff succeeds_linesOf_iff,
    succeeds_optional_iff succeeds_encodeSetCookies_iff,
    succeeds_optional_iff succeeds_checkReason_iff]
  constructor
  · rintro ⟨headers, cookies, reason, -⟩
    exact ⟨headers, cookies, reason⟩
  · rintro ⟨headers, cookies, reason⟩
    exact ⟨headers, cookies, reason, trivial⟩

theorem ProvideResponse.succeeds_check_iff (p : ProvideResponse) :
    Succeeds p.check ↔ p.Valid := by
  have steps : Succeeds p.check ↔
      Succeeds (checkOptional linesOf p.headers) ∧
        Succeeds (checkOptional encodeSetCookies p.cookies) ∧
        Succeeds (checkOptional WireBytes.decode p.body) ∧
        Succeeds (checkOptional checkReason p.reasonPhrase) ∧ True :=
    succeeds_bind_iff fun _ => succeeds_bind_iff fun _ =>
      succeeds_bind_iff fun _ => succeeds_bind_iff fun _ =>
        iff_true_intro (succeeds_ok _)
  rw [steps, succeeds_optional_iff succeeds_linesOf_iff,
    succeeds_optional_iff succeeds_encodeSetCookies_iff,
    succeeds_optional_iff WireBytes.succeeds_decode_iff,
    succeeds_optional_iff succeeds_checkReason_iff]
  constructor
  · rintro ⟨headers, cookies, body, reason, -⟩
    exact ⟨headers, cookies, body, reason⟩
  · rintro ⟨headers, cookies, body, reason⟩
    exact ⟨headers, cookies, body, reason, trivial⟩

/-! ## Answers -/

/-- That a result is a success, a rejected argument or something unsupported,
and when it is which. -/
structure Answers {α : Type} (invalid unsupported : Prop) (m : Except Error α) :
    Prop where
  accepted : Succeeds m ↔ ¬ invalid ∧ ¬ unsupported
  invalid : (∃ fault, m = .error (.invalidArgument fault)) ↔ invalid
  unsupported : (∃ cause, m = .error (.unsupportedOperation cause)) ↔
    unsupported

namespace Answers

variable {α : Type} {invalid unsupported : Prop} {m : Except Error α}

theorem of_ok (a : α) (valid : ¬ invalid) (supported : ¬ unsupported) :
    Answers invalid unsupported (.ok a) where
  accepted := iff_of_true (succeeds_ok a) ⟨valid, supported⟩
  invalid := iff_of_false (by simp) valid
  unsupported := iff_of_false (by simp) supported

theorem of_invalid (fault : Fault) (holds : invalid)
    (supported : ¬ unsupported) :
    Answers invalid unsupported
      (.error (.invalidArgument fault) : Except Error α) where
  accepted := iff_of_false (not_succeeds_error _) fun both => both.1 holds
  invalid := iff_of_true ⟨fault, rfl⟩ holds
  unsupported := iff_of_false (by simp) supported

theorem of_unsupported (cause : Unsupported) (valid : ¬ invalid)
    (holds : unsupported) :
    Answers invalid unsupported
      (.error (.unsupportedOperation cause) : Except Error α) where
  accepted := iff_of_false (not_succeeds_error _) fun both => both.2 holds
  invalid := iff_of_false (by simp) valid
  unsupported := iff_of_true ⟨cause, rfl⟩ holds

theorem of_rejects (rejects : Rejects m) (succeeds : Succeeds m ↔ ¬ invalid) :
    Answers invalid False m := by
  cases m with
  | ok a => exact of_ok a (succeeds.1 (succeeds_ok a)) not_false
  | error e =>
      have holds : invalid := by
        by_contra valid
        exact not_succeeds_error e (succeeds.2 valid)
      cases e with
      | invalidArgument fault => exact of_invalid fault holds not_false
      | _ => exact absurd (rejects _ rfl) (by simp [Error.isInvalidArgument])

theorem map {β : Type} (h : Answers invalid unsupported m) (f : α → β) :
    Answers invalid unsupported (m.map f) where
  accepted := (succeeds_map_iff f).trans h.accepted
  invalid := by
    rw [← h.invalid]
    cases m <;> simp [Except.map]
  unsupported := by
    rw [← h.unsupported]
    cases m <;> simp [Except.map]

theorem ne_noSuchRequest (h : Answers invalid unsupported m) (id : String) :
    m ≠ .error (.noSuchRequest id) := by
  rintro rfl
  have valid : ¬ invalid := fun holds => by simpa using h.invalid.2 holds
  have supported : ¬ unsupported :=
    fun holds => by simpa using h.unsupported.2 holds
  exact not_succeeds_error _ (h.accepted.2 ⟨valid, supported⟩)

end Answers

/-! ## Phases -/

private theorem Suspension.succeeds_expect_iff (held : Suspension)
    (allowed : List Phase) :
    Succeeds (held.expect allowed) ↔ held.phase ∈ allowed := by
  rw [Suspension.expect, succeeds_ite_iff, List.contains_iff_mem]

def ProvideResponse.HasField (p : ProvideResponse) : Prop :=
  p.body.isSome ∨ p.cookies.isSome ∨ p.headers.isSome ∨ p.reasonPhrase.isSome ∨
    p.statusCode.isSome

private theorem ProvideResponse.firstField?_eq_none_iff (p : ProvideResponse) :
    p.firstField? = none ↔ ¬ p.HasField := by
  unfold firstField? HasField
  cases p.body <;> cases p.cookies <;> cases p.headers <;>
    cases p.reasonPhrase <;>
    cases p.statusCode <;> simp

namespace Continuation

def Invalid (held : Suspension) : Continuation → Prop
  | .request p => held.phase ≠ .beforeRequestSent ∨ ¬ p.Valid
  | .response p => held.phase = .beforeRequestSent ∨ ¬ p.Valid
  | .auth _ => held.phase ≠ .authRequired
  | .failure _ => held.phase = .authRequired
  | .substitute p => held.phase = .beforeRequestSent ∧ ¬ p.Valid

/-- Once the request was sent, nothing can be said about the response. -/
def Unsupported (held : Suspension) : Continuation → Prop
  | .substitute p => held.phase ≠ .beforeRequestSent ∧ p.HasField
  | _ => False

theorem plan_answers (c : Continuation) (t : Transport) (held : Suspension) :
    Answers (c.Invalid held) (c.Unsupported held) (c.plan t held) := by
  cases c with
  | request p =>
      refine .of_rejects (.bind (held.expect_rejects _) fun _ =>
        p.check_rejects.map _) ?_
      have steps : Succeeds (p.plan held) ↔
          Succeeds (held.expect [.beforeRequestSent]) ∧ p.Valid :=
        succeeds_bind_iff fun _ =>
          (succeeds_map_iff _).trans p.succeeds_check_iff
      simp only [Continuation.plan, steps, held.succeeds_expect_iff,
        List.mem_singleton, Invalid, not_or, not_not]
  | response p =>
      refine .of_rejects (.bind (held.expect_rejects _) fun _ =>
        p.check_rejects.map _) ?_
      have steps : Succeeds (p.plan t held) ↔
          Succeeds (held.expect [.responseStarted, .authRequired]) ∧ p.Valid :=
        succeeds_bind_iff fun _ =>
          (succeeds_map_iff _).trans p.succeeds_check_iff
      have later : held.phase ∈ [Phase.responseStarted, .authRequired] ↔
          held.phase ≠ .beforeRequestSent := by
        cases held.phase <;> decide
      simp only [Continuation.plan, steps, held.succeeds_expect_iff, later,
        Invalid, not_or, not_not]
  | auth p =>
      simp only [Continuation.plan, ContinueWithAuth.plan]
      cases stage : held.stage with
      | auth response prompt =>
          exact .of_ok _
            (by simp [Invalid, Suspension.phase, Stage.phase, stage]) not_false
      | _ =>
          exact .of_invalid _
            (by simp [Invalid, Suspension.phase, Stage.phase, stage]) not_false
  | failure p =>
      simp only [Continuation.plan, FailRequest.plan]
      by_cases phase : held.phase = .authRequired
      · rw [if_pos phase]
        exact .of_invalid _ phase not_false
      · rw [if_neg phase]
        exact .of_ok _ phase not_false
  | substitute p =>
      simp only [Continuation.plan, ProvideResponse.plan]
      -- Before the request is sent the fields are checked; later only their
      -- presence counts.
      by_cases phase : held.phase = .beforeRequestSent
      · rw [if_pos phase]
        have unsupported : (Continuation.substitute p).Unsupported held ↔
            False :=
          iff_false_intro fun both => both.1 phase
        rw [unsupported]
        refine .of_rejects (p.check_rejects.map _) ?_
        rw [succeeds_map_iff, p.succeeds_check_iff]
        simp only [Invalid, phase, true_and, not_not]
      · rw [if_neg phase]
        have valid : ¬ (Continuation.substitute p).Invalid held :=
          fun both => phase both.1
        cases field : p.firstField? with
        | none =>
            exact .of_ok _ valid fun both =>
              p.firstField?_eq_none_iff.1 field both.2
        | some name =>
            have given : p.HasField := by
              by_contra absent
              rw [p.firstField?_eq_none_iff.2 absent] at field
              cases field
            exact .of_unsupported _ valid ⟨phase, given⟩

end Continuation

namespace Session

/--
Whatever was done with the table of suspensions, a command that releases an
exchange does not find it if and only if it is not held.  If it is held, its
phase and the parameters say whether the command is invalid or unsupported, and
one that is neither succeeds.
-/
theorem continuation_answer_iff {s : Session} {limit : Nat}
    {actions : List Suspensions.Action}
    (table : s.suspensions = ({ limit } : Suspensions).run actions) (now : Nat)
    (c : Continuation) :
    let answer := ((Engine.execute now c.command).outcome s).1
    ((∃ id, answer = .error (.noSuchRequest id)) ↔
      s.suspensions.live.get? c.target = none) ∧
      ∀ held, s.suspensions.live.get? c.target = some held →
        ((∃ fault, answer = .error (.invalidArgument fault)) ↔ c.Invalid held) ∧
        ((∃ cause, answer = .error (.unsupportedOperation cause)) ↔
          c.Unsupported held) ∧
        (answer = .ok .done ↔ ¬ c.Invalid held ∧ ¬ c.Unsupported held) := by
  intro answer
  have account : s.suspensions.Account (Suspensions.registered actions) := by
    rw [table]
    exact Suspensions.account_run limit actions
  have run := Engine.execute_continuation account now c
  cases live : s.suspensions.live.get? c.target with
  | none =>
      have answered : answer = .error (.noSuchRequest c.target) := by
        simp only [answer, Engine.outcome, run, live]
      exact ⟨iff_of_true ⟨_, answered⟩ rfl, fun held found => by cases found⟩
  | some held =>
      have answered : answer = (c.plan s.transport held).map fun _ =>
          .done := by
        simp only [answer, Engine.outcome, run, live]
        cases c.plan s.transport held <;> rfl
      have answers := (c.plan_answers s.transport held).map fun _ => Reply.done
      rw [← answered] at answers
      have done : answer = .ok .done ↔ Succeeds answer := by
        rw [answered]
        cases c.plan s.transport held <;> simp [Succeeds, Except.map]
      refine ⟨iff_of_false ?_ (by simp), ?_⟩
      · rintro ⟨id, missing⟩
        exact answers.ne_noSuchRequest id missing
      · rintro _ ⟨rfl⟩
        exact ⟨answers.invalid, answers.unsupported,
          done.trans answers.accepted⟩

def heldResponse : Suspension where
  requestId := "r"
  request := ⟨0⟩
  context := none
  stage := .response ⟨0⟩
  intercepts := [⟨0⟩]
  topContext := none
  generation := 1

def holdingResponse : Session :=
  { start {} (.start 0) with
    suspensions := ({ limit := 1 } : Suspensions).run [.hold heldResponse] }

/-- For a response that is held, and with a header that has no valid name: each
kind of answer. -/
theorem continuation_answer_iff_response :
    let answer := fun c : Continuation =>
      ((Engine.execute 1 c.command).outcome holdingResponse).1
    let headers := some [Header.ofText "a b" "c"]
    let elsewhere :=
      Continuation.response ⟨"q", none, none, headers, none, none⟩
    let edit := Continuation.response ⟨"r", none, none, headers, none, none⟩
    let replace :=
      Continuation.substitute ⟨"r", none, none, headers, none, none⟩
    let fail := Continuation.failure ⟨"r"⟩
    (∃ id, answer elsewhere = .error (.noSuchRequest id)) ∧
      (∃ fault, answer edit = .error (.invalidArgument fault)) ∧
      (∃ cause, answer replace = .error (.unsupportedOperation cause)) ∧
      answer fail = .ok .done := by
  intro answer headers elsewhere edit replace fail
  have all := continuation_answer_iff (s := holdingResponse) rfl 1
  have phase : heldResponse.phase = .responseStarted := rfl
  have invalid : edit.Invalid heldResponse := by
    refine .inr fun valid => ?_
    have name := (valid.headers _ rfl _ (List.mem_singleton_self _)).name
    exact absurd name (by decide)
  have unsupported : replace.Unsupported heldResponse :=
    ⟨by simp [phase], .inr (.inr (.inl rfl))⟩
  have accepted : ¬ fail.Invalid heldResponse := by
    simp [fail, Continuation.Invalid, phase]
  exact ⟨(all elsewhere).1.2 rfl, ((all edit).2 _ rfl).1.2 invalid,
    ((all replace).2 _ rfl).2.1.2 unsupported,
    ((all fail).2 _ rfl).2.2.2 ⟨accepted, not_false⟩⟩

end Session

end Interception
