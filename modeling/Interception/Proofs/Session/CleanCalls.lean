import Interception.Proofs.Message.Unbroken
import Interception.Proofs.Session.Release

/-!
# Calls that keep to the message

Texts of the client reach the platform as methods, header lines and reason
phrases.  Every call that carries one was checked on its way, so that no text is
taken for another line of the message or for its end.
-/

namespace Interception

open Message

def Continuation.reason? : Continuation → Option String
  | .response p => p.reasonPhrase
  | .substitute p => p.reasonPhrase
  | _ => none

def RequestCall.Clean : RequestCall → Prop
  | .setMethod method => isToken method
  | .setHeader name value _ => Line.Clean ⟨name, value⟩
  | .provide response =>
    (∀ line ∈ response.headers, line.Clean) ∧ Unbroken response.reasonPhrase
  | _ => True

/-- A status is set with the phrase of the client or else with the one that the
response has. -/
def ResponseCall.Clean (given : Option String) (current : Option Response) :
    ResponseCall → Prop
  | .setHeader name value _ => Line.Clean ⟨name, value⟩
  | .setStatus _ reason =>
    match given with
    | some text => reason = text ∧ Unbroken text
    | none => current.map (·.statusText) = some reason
  | .clearHeader _ => True

def Call.Clean (c : Continuation) (t : Transport) : Call → Prop
  | .request _ call => call.Clean
  | .response ref call => call.Clean c.reason? (t.response? ref)
  | .prompt _ _ => True

/-! ## Checked fields -/

private theorem of_checkOptional {α β : Type} {check : α → Except Error β}
    {given : Option α} {checked : Option β}
    (h : checkOptional check given = .ok checked) {b : β}
    (found : checked = some b) : ∃ a, given = some a ∧ check a = .ok b := by
  subst found
  cases given with
  | none => cases h
  | some a =>
      obtain ⟨other, ok, same⟩ := ok_of_map h
      cases same
      exact ⟨a, rfl, ok⟩

private theorem mem_getD_of_checkOptional {α β : Type}
    {check : α → Except Error (List β)} {given : Option α}
    {checked : Option (List β)} (h : checkOptional check given = .ok checked)
    {b : β} (mem : b ∈ checked.getD []) :
    ∃ a bs, check a = .ok bs ∧ b ∈ bs := by
  cases found : checked with
  | none => simp [found] at mem
  | some bs =>
      obtain ⟨a, -, ok⟩ := of_checkOptional h found
      rw [found, Option.getD_some] at mem
      exact ⟨a, bs, ok, mem⟩

private theorem isToken_of_checkMethod {method checked : String}
    (h : checkMethod method = .ok checked) :
    isToken checked := by
  unfold checkMethod at h
  split at h
  case isTrue token =>
    cases h
    exact token
  case isFalse => cases h

private theorem of_checkReason {reason checked : String}
    (h : checkReason reason = .ok checked) :
    checked = reason ∧ Unbroken reason := by
  unfold checkReason at h
  split at h
  case isTrue valid =>
    cases h
    exact ⟨rfl, .of_isFieldValue valid⟩
  case isFalse => cases h

private theorem mem_of_mem_withRepeats {seen : List String} {lines : List Line}
    {l : Line × Bool} (mem : l ∈ withRepeats seen lines) : l.1 ∈ lines := by
  induction lines generalizing seen with
  | nil => cases mem
  | cons line lines ih =>
      rcases List.mem_cons.1 mem with rfl | mem
      · exact List.mem_cons_self
      · exact List.mem_cons_of_mem _ (ih mem)

private theorem mem_setLines {β : Type} {set : String → String → Bool → β}
    {lines : List Line} {call : β} (mem : call ∈ setLines set lines) :
    ∃ line ∈ lines, ∃ merge, call = set line.name line.value merge := by
  obtain ⟨⟨line, merge⟩, repeated, rfl⟩ := List.mem_map.1 mem
  exact ⟨line, mem_of_mem_withRepeats repeated, merge, rfl⟩

private theorem isToken_cookie : isToken "cookie" := by decide

private theorem isToken_setCookie : isToken "set-cookie" := by decide

/-! ## Checked changes -/

theorem ContinueRequest.edits_clean {p : ContinueRequest}
    {change : RequestChange} (checked : p.check = .ok change) :
    ∀ call ∈ change.edits, call.Clean := by
  obtain ⟨method, methodChecked, checked⟩ := ok_of_bind checked
  obtain ⟨url, -, checked⟩ := ok_of_bind checked
  obtain ⟨headers, headersChecked, checked⟩ := ok_of_bind checked
  obtain ⟨cookie, cookieChecked, checked⟩ := ok_of_bind checked
  obtain ⟨body, -, checked⟩ := ok_of_bind checked
  cases checked
  intro call mem
  simp only [RequestChange.edits, List.mem_append, List.mem_map,
    List.mem_flatMap, List.mem_cons, Option.mem_toList] at mem
  obtain ((⟨token, given, rfl⟩ | ⟨lines, given, rfl | mem⟩) |
    ⟨value, given, rfl⟩) |
    ⟨bytes, -, rfl⟩ := mem
  · obtain ⟨text, -, ok⟩ := of_checkOptional methodChecked given
    exact isToken_of_checkMethod ok
  · trivial
  · obtain ⟨sent, -, ok⟩ := of_checkOptional headersChecked given
    obtain ⟨line, listed, merge, rfl⟩ := mem_setLines mem
    exact linesOf_clean ok line listed
  · obtain ⟨cookies, -, ok⟩ := of_checkOptional cookieChecked given
    exact ⟨isToken_cookie, encodeCookies_unbroken ok⟩
  · trivial

theorem ContinueResponse.edits_clean {p : ContinueResponse}
    {change : ResponseChange} (checked : p.check = .ok change) (r : Response) :
    ∀ call ∈ change.edits r, call.Clean p.reasonPhrase (some r) := by
  obtain ⟨headers, headersChecked, checked⟩ := ok_of_bind checked
  obtain ⟨setCookies, cookiesChecked, checked⟩ := ok_of_bind checked
  obtain ⟨reason, reasonChecked, checked⟩ := ok_of_bind checked
  cases checked
  intro call mem
  simp only [ResponseChange.edits, List.mem_append, List.mem_map,
    List.mem_flatMap, Option.mem_toList, Response.replacing] at mem
  obtain (⟨lines, given, ⟨name, -, rfl⟩ | mem⟩ | ⟨value, listed, rfl⟩) | mem :=
    mem
  · trivial
  · obtain ⟨sent, -, ok⟩ := of_checkOptional headersChecked given
    obtain ⟨line, kept, merge, rfl⟩ := mem_setLines mem
    exact linesOf_clean ok line (List.mem_filter.1 kept).1
  · obtain ⟨cookies, values, ok, listed⟩ :=
      mem_getD_of_checkOptional cookiesChecked listed
    exact ⟨isToken_setCookie, encodeSetCookies_unbroken ok value listed⟩
  · split at mem
    case isFalse => cases mem
    case isTrue =>
      cases List.mem_singleton.1 mem
      cases given : p.reasonPhrase with
      | none =>
          rw [given] at reasonChecked
          cases reasonChecked
          rfl
      | some text =>
          rw [given] at reasonChecked
          obtain ⟨said, ok, rfl⟩ := ok_of_map reasonChecked
          exact of_checkReason ok

theorem ProvideResponse.substitute_clean {p : ProvideResponse}
    {substitute : Substitute} (checked : p.check = .ok substitute) :
    (RequestCall.provide substitute).Clean := by
  obtain ⟨headers, headersChecked, checked⟩ := ok_of_bind checked
  obtain ⟨setCookies, cookiesChecked, checked⟩ := ok_of_bind checked
  obtain ⟨body, -, checked⟩ := ok_of_bind checked
  obtain ⟨reason, reasonChecked, checked⟩ := ok_of_bind checked
  cases checked
  refine ⟨fun line mem => ?_, ?_⟩
  · rcases List.mem_append.1 mem with listed | listed
    · obtain ⟨sent, lines, ok, listed⟩ :=
        mem_getD_of_checkOptional headersChecked listed
      exact linesOf_clean ok line listed
    · obtain ⟨value, encoded, rfl⟩ := List.mem_map.1 listed
      obtain ⟨cookies, values, ok, listed⟩ :=
        mem_getD_of_checkOptional cookiesChecked encoded
      exact ⟨isToken_setCookie, encodeSetCookies_unbroken ok value listed⟩
  · cases found : reason with
    | none =>
        dsimp only [Option.getD]
        split <;> decide
    | some text =>
        obtain ⟨said, -, ok⟩ := of_checkOptional reasonChecked found
        obtain ⟨rfl, unbroken⟩ := of_checkReason ok
        exact unbroken

/-! ## The calls of a command -/

private theorem Suspension.farewell_clean (held : Suspension)
    (credentials : Option Credentials) (c : Continuation) (t : Transport) :
    (held.farewell credentials).1.Clean c t := by
  cases stage : held.stage <;>
    simp [farewell, stage, Call.Clean, RequestCall.Clean]

theorem Continuation.plan_clean {c : Continuation} {t : Transport}
    {held : Suspension} {plan : Plan} (planned : c.plan t held = .ok plan) :
    ∀ call ∈ plan.calls, call.Clean c t := by
  intro call mem
  cases c with
  | request p =>
      obtain ⟨-, -, planned⟩ := ok_of_bind planned
      obtain ⟨change, checked, rfl⟩ := ok_of_map planned
      simp only [List.mem_append, List.mem_map, List.mem_singleton] at mem
      obtain (⟨edit, mem, rfl⟩ | ⟨url, -, rfl⟩) | rfl := mem
      · exact ContinueRequest.edits_clean checked edit mem
      · trivial
      · trivial
  | response p =>
      obtain ⟨-, -, planned⟩ := ok_of_bind planned
      obtain ⟨change, checked, rfl⟩ := ok_of_map planned
      simp only [List.mem_append, List.mem_flatMap, List.mem_map,
        List.mem_singleton, Option.mem_toList] at mem
      obtain ⟨⟨ref, r⟩, found, edit, mem, rfl⟩ | rfl := mem
      · obtain ⟨other, -, found⟩ := Option.bind_eq_some_iff.1 found
        obtain ⟨r, present, same⟩ := Option.map_eq_some_iff.1 found
        cases same
        rw [Call.Clean, present]
        exact ContinueResponse.edits_clean checked r edit mem
      · exact held.farewell_clean _ _ _
  | auth p =>
      simp only [Continuation.plan, ContinueWithAuth.plan] at planned
      split at planned <;> cases planned
      cases List.mem_singleton.1 mem
      trivial
  | failure p =>
      simp only [Continuation.plan, FailRequest.plan] at planned
      split at planned <;> cases planned
      obtain ⟨asked, mem, rfl⟩ := List.mem_map.1 mem
      split at mem <;> simp at mem
      · obtain rfl | rfl := mem <;> trivial
      · cases mem
        trivial
  | substitute p =>
      simp only [Continuation.plan, ProvideResponse.plan] at planned
      split at planned
      · obtain ⟨substitute, checked, rfl⟩ := ok_of_map planned
        simp only [List.map_cons, List.map_nil, List.mem_cons, List.not_mem_nil,
          or_false] at mem
        obtain rfl | rfl := mem
        · exact ProvideResponse.substitute_clean checked
        · trivial
      · split at planned <;> cases planned
        cases List.mem_singleton.1 mem
        exact held.farewell_clean _ _ _

/--
Whatever the client asks for, each call that a command makes for it carries a
token where a method or the name of a header is expected, and neither its header
values nor the client's reason phrase hold a line break or a null character.
-/
theorem Session.continuation_calls_clean {s : Session} (reachable : s.Reachable)
    (now : Nat) (c : Continuation) :
    ∃ calls,
      (s.after (.command now c.command)).transport =
        s.transport.performAll calls ∧
      (s.after (.command now c.command)).transport.calls =
        s.transport.calls ++ calls ∧
      ∀ call ∈ calls, call.Clean c s.transport := by
  obtain ⟨registered, account⟩ := reachable.sound.account
  obtain ⟨e, failed⟩ | ⟨held, plan, -, planned, done⟩ :=
    Engine.execute_continuation_cases account now c
  · refine ⟨[], ?_⟩
    simp [after, Engine.outcome, failed]
  · refine ⟨plan.calls, ?_⟩
    simp only [after, Engine.outcome, done]
    exact ⟨rfl, Transport.calls_performAll _ _, Continuation.plan_clean planned⟩

theorem Session.continuation_calls_clean_latin :
    let c := Continuation.request
      { request := "r", method := some "PUT", body := none, url := none
        cookies := some [⟨"id", .base64 "6Q=="⟩, .ofText "lang" "en"]
        headers := some [.ofText "Accept" "a", .ofText "accept" "b"] }
    let calls : List Call :=
      [.setMethod "PUT", .clearHeaders, .setHeader "Accept" "a" false,
        .setHeader "accept" "b" true, .setHeader "cookie" "id=é; lang=en" false,
        .resume].map
        (.request ⟨0⟩)
    (holdingOne.after (.command 1 c.command)).transport.calls =
        holdingOne.transport.calls ++ calls ∧
      ∀ call ∈ calls, call.Clean c holdingOne.transport := by
  intro c calls
  have reachable : holdingOne.Reachable := ⟨_, _, _, rfl⟩
  have made : (holdingOne.after (.command 1 c.command)).transport.calls =
      holdingOne.transport.calls ++ calls := rfl
  obtain ⟨asked, -, appended, clean⟩ := continuation_calls_clean reachable 1 c
  rw [made, List.append_right_inj] at appended
  exact ⟨made, appended ▸ clean⟩

end Interception
