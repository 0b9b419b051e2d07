import Interception.Proofs.Message.CookiePairs
import Interception.Proofs.Session.RequestHeaders

/-!
# Cookies that a client gave a request

Cookies that a request goes on with are composed into one line, in place of
every other.  So what the request then reports are these cookies and no others.
-/

namespace Interception

open Message

private theorem Message.lineValue?_eq (lines : List Line) (name : String) :
    lineValue? lines name = (named name lines).head?.map (·.value) := by
  rw [lineValue?, named, List.head?_filter]

private theorem Request.cookies_of_withCookies {r : Request} {base : List Line}
    {text : String} (headers : r.headers = withCookies base (some text)) :
    r.cookies = parseCookies text r.host := by
  rw [Request.cookies, headers, lineValue?_eq, named_withCookies_self]
  rfl

private theorem ContinueRequest.check_cookie {p : ContinueRequest}
    {change : RequestChange} (checked : p.check = .ok change)
    {cookies : List CookieHeader} (given : p.cookies = some cookies) :
    ∃ text, encodeCookies cookies = .ok text ∧ change.cookie = some text := by
  obtain ⟨method, -, checked⟩ := ok_of_bind checked
  obtain ⟨url, -, checked⟩ := ok_of_bind checked
  obtain ⟨headers, -, checked⟩ := ok_of_bind checked
  obtain ⟨cookie, encoded, checked⟩ := ok_of_bind checked
  obtain ⟨body, -, checked⟩ := ok_of_bind checked
  cases checked
  rw [given] at encoded
  obtain ⟨text, composed, rfl⟩ := ok_of_map encoded
  exact ⟨text, composed, rfl⟩

theorem Session.continueRequest_ok {s s' : Session}
    {registered : List Suspension} (account : s.suspensions.Account registered)
    {now : Nat} {p : ContinueRequest} {reply : Reply}
    (done : (Engine.execute now (.continueRequest p)).run s = .ok reply s') :
    ∃ held change, s.suspensions.live.get? p.request = some held ∧
      held.phase = .beforeRequestSent ∧ p.check = .ok change := by
  obtain ⟨e, failed⟩ | ⟨held, plan, live, planned, -⟩ :=
    Engine.execute_continuation_cases account now (.request p)
  · cases done.symm.trans failed
  · obtain ⟨⟨⟩, expected, planned⟩ := ok_of_bind planned
    obtain ⟨change, checked, -⟩ := ok_of_map planned
    refine ⟨held, change, live, ?_, checked⟩
    unfold Suspension.expect at expected
    split at expected
    case isTrue allowed => simpa using allowed
    case isFalse => cases expected

/--
A header of cookies that could be composed reads as the cookies it was composed
from: as many, in their order, with their names, and with their values trimmed
of white space.  So when a request goes on with them, they are what it reports,
whatever other headers it has or was given.
-/
theorem Session.cookies_read_back {cookies : List CookieHeader} {text : String}
    (encoded : encodeCookies cookies = .ok text) :
    (∀ domain, List.Forall₂ (CookieHeader.Reported domain) cookies
      (parseCookies text domain)) ∧
      ∀ (s s' : Session) (now : Nat) (p : ContinueRequest) (reply : Reply),
      s.Reachable →
        p.cookies = some cookies →
        (Engine.execute now (.continueRequest p)).run s = .ok reply s' →
        ∃ held r, s.suspensions.live.get? p.request = some held ∧
          s'.transport.request? held.request = some r ∧
          List.Forall₂ (CookieHeader.Reported r.host) cookies r.cookies := by
  refine ⟨reported_of_encodeCookies encoded, ?_⟩
  intro s s' now p reply reachable given done
  obtain ⟨registered, account⟩ := reachable.sound.account
  obtain ⟨held, change, live, phase, checked⟩ := continueRequest_ok account done
  obtain ⟨request, sending, -⟩ := reachable.sound.keeps _ held live
  obtain ⟨after, r, ran, continued, headers⟩ :=
    continueRequest_headers account now live phase sending checked
  cases done.symm.trans ran
  obtain ⟨value, composed, cookie⟩ := ContinueRequest.check_cookie checked given
  rw [cookie] at headers
  refine ⟨held, r, live, continued, ?_⟩
  rw [Request.cookies_of_withCookies headers]
  exact reported_of_encodeCookies composed r.host

/-- Values with blanks at their ends, with an equals sign, and without any
character. -/
def unusualCookies : List CookieHeader :=
  [⟨"a", .text " 1 "⟩, ⟨"b", .base64 "eD15"⟩, ⟨"c", .text ""⟩]

def withUnusualCookies : ContinueRequest where
  request := "r"
  body := none
  cookies := some unusualCookies
  headers := some [.ofText "COOKIE" "d=4"]
  method := none
  url := none

theorem Session.cookies_read_back_unusual :
    encodeCookies unusualCookies = .ok "a= 1 ; b=x=y; c=" ∧
      List.Forall₂ (CookieHeader.Reported "h") unusualCookies
        (parseCookies "a= 1 ; b=x=y; c=" "h") ∧
      ∃ s' r,
      (Engine.execute 1 (.continueRequest withUnusualCookies)).run sendingOne =
          .ok .done s' ∧ s'.transport.request? ⟨0⟩ = some r ∧
        List.Forall₂ (CookieHeader.Reported r.host)
          unusualCookies r.cookies := by
  have reachable : sendingOne.Reachable := ⟨_, _, _, rfl⟩
  have encoded : encodeCookies unusualCookies = .ok "a= 1 ; b=x=y; c=" := by rfl
  obtain ⟨read, reported⟩ := cookies_read_back encoded
  obtain ⟨s', done⟩ : ∃ s',
      (Engine.execute 1 (.continueRequest withUnusualCookies)).run
      sendingOne = .ok .done s' := ⟨_, rfl⟩
  obtain ⟨held, r, live, continued, told⟩ :=
    reported sendingOne s' 1 withUnusualCookies .done reachable rfl done
  have first : held.request = ⟨0⟩ := by
    cases live
    rfl
  rw [first] at continued
  exact ⟨encoded, read "h", s', r, done, continued, told⟩

end Interception
