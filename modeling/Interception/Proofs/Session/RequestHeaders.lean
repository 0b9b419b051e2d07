import Interception.Proofs.Message.Checks
import Interception.Proofs.Message.Grouping
import Interception.Proofs.Session.Reachable

/-!
# Headers of a request that goes on

New headers take the place of all that a request has, grouped by name.  New
cookies come as one line in place of every other line of cookies, whether the
request had it or it came with the new headers.
-/

namespace Interception

open Message

namespace Request

/-! ## What a request makes of its calls -/

private theorem headers_set (r : Request) (lines : List (Line × Bool)) :
    ((lines.map fun l => .setHeader l.1.name l.1.value l.2).foldl
      receive r).headers =
      lines.foldl (fun acc l => setLine acc l.1.name l.1.value l.2)
        r.headers := by
  induction lines generalizing r with
  | nil => rfl
  | cons l lines ih => exact ih (r.setHeader l.1.name l.1.value l.2)

private theorem headers_replace (r : Request) (lines : List Line) :
    ((.clearHeaders :: setLines .setHeader lines).foldl receive r).headers =
      grouped lines := by
  -- Once its headers are cleared, it makes no difference which ones a request
  -- had.
  have cleared : (r.receive .clearHeaders).headers = [] := rfl
  rw [List.foldl_cons, setLines, headers_set, cleared]
  simpa using foldl_setLine [] lines fun l _ => named_nil l.name

def withCookies (base : List Line) : Option String → List Line
  | some value => base.filter (!sameName ·.name "cookie") ++ [⟨"cookie", value⟩]
  | none => base

theorem headers_edits (r : Request) (change : RequestChange) :
    (change.edits.foldl receive r).headers =
      withCookies ((change.headers.map grouped).getD r.headers)
        change.cookie := by
  have method (r : Request) (given : Option String) :
      ((given.toList.map .setMethod).foldl receive r).headers = r.headers := by
    cases given <;> rfl
  have body (r : Request) (given : Option (List UInt8)) :
      ((given.toList.map .setBody).foldl receive r).headers = r.headers := by
    cases given <;> rfl
  have cookie (r : Request) (given : Option String) :
      ((given.toList.map fun value => .setHeader "cookie" value false).foldl
        receive r).headers =
        withCookies r.headers given := by
    cases given <;> rfl
  have replace (r : Request) (given : Option (List Line)) :
      ((given.toList.flatMap fun lines =>
          .clearHeaders :: setLines .setHeader lines).foldl
        receive r).headers = (given.map grouped).getD r.headers := by
    cases given with
    | none => rfl
    | some lines =>
        rw [Option.toList_some, List.flatMap_singleton]
        exact headers_replace r lines
  rw [RequestChange.edits, List.foldl_append, List.foldl_append,
    List.foldl_append, body, cookie, replace, method]

/-! ## What becomes of the headers -/

theorem named_withCookies_self (base : List Line) (value : String) :
    named "cookie" (withCookies base (some value)) = [⟨"cookie", value⟩] := by
  have gone : named "cookie" (base.filter (!sameName ·.name "cookie")) =
      [] := by
    rw [named_eq_nil_iff]
    intro l kept
    simpa using (List.mem_filter.1 kept).2
  have same : sameName "cookie" "cookie" := by decide
  rw [withCookies, named_append, gone, named_cons_same same, named_nil,
    List.nil_append]

theorem named_withCookies_other (base : List Line) {name : String}
    {cookie : Option String}
    (apart : cookie = none ∨ sameName name "cookie" = false) :
    named name (withCookies base cookie) = named name base := by
  cases cookie with
  | none => rfl
  | some value =>
      have apart : sameName "cookie" name = false := by
        simpa [sameName_comm "cookie"] using apart
      have kept : named name (eraseName base "cookie") = named name base :=
        named_eraseName_other apart base
      rw [withCookies, named_append, named_cons_other apart, named_nil,
        List.append_nil]
      exact kept

end Request

/-! ## The command -/

theorem ContinueRequest.check_eq {p : ContinueRequest}
    (methodValid : p.method.all isToken) {url : Option Url}
    (urlRead : checkOptional checkUrl p.url = .ok url)
    {lines : Option (List Line)}
    (headersRead : checkOptional linesOf p.headers = .ok lines)
    {cookie : Option String}
    (cookiesEncoded : checkOptional encodeCookies p.cookies = .ok cookie)
    {body : Option (List UInt8)}
    (bodyRead : checkOptional WireBytes.decode p.body = .ok body) :
    p.check = .ok ⟨p.method, url, lines, cookie, body⟩ := by
  have method : checkOptional checkMethod p.method = .ok p.method := by
    cases given : p.method with
    | none => rfl
    | some text =>
        rw [given, Option.all_some] at methodValid
        rw [checkOptional, checkMethod, if_pos methodValid]
        rfl
  rw [check, method, urlRead, headersRead, cookiesEncoded, bodyRead]
  rfl

private theorem Transport.headers_continued {t : Transport} {ref : RequestRef}
    {r : Request} (sending : t.request? ref = some r) (change : RequestChange) :
    ∃ r', (t.performAll (change.edits.map (.request ref) ++
        change.url.toList.map (fun url => .request ref (.redirectTo url)) ++
        [.request ref .resume])).request? ref = some r' ∧
      r'.headers = (change.edits.foldl Request.receive r).headers := by
  have own (calls : List RequestCall) :
      (calls.map (Call.request ref)).filterMap (Call.toRequest? ref) =
        calls := by
    simp [List.filterMap_map, Function.comp_def, Call.toRequest?]
  have going :
      change.url.toList.map (fun url => .request ref (.redirectTo url)) ++
          [Call.request ref .resume] =
        (change.url.toList.map RequestCall.redirectTo ++
          [RequestCall.resume]).map (.request ref) := by
    simp
  rw [List.append_assoc, going, ← List.map_append,
    request?_performAll, sending, own, Option.map_some, List.foldl_append]
  refine ⟨_, rfl, ?_⟩
  cases change.url <;> rfl

theorem Session.continueRequest_headers {s : Session}
    {registered : List Suspension} (account : s.suspensions.Account registered)
    (now : Nat) {p : ContinueRequest} {held : Suspension}
    (live : s.suspensions.live.get? p.request = some held)
    (phase : held.phase = .beforeRequestSent) {r : Request}
    (sending : s.transport.request? held.request = some r)
    {change : RequestChange} (checked : p.check = .ok change) :
    ∃ s' r', (Engine.execute now (.continueRequest p)).run s = .ok .done s' ∧
      s'.transport.request? held.request = some r' ∧
      r'.headers =
        Request.withCookies ((change.headers.map grouped).getD r.headers)
          change.cookie := by
  have expected : held.expect [.beforeRequestSent] = .ok () := by
    simp [Suspension.expect, phase]
  obtain ⟨r', continued, headers⟩ := Transport.headers_continued sending change
  have done := Engine.execute_continuation account now (.request p)
  simp only [Continuation.target, live, Continuation.plan, ContinueRequest.plan,
    expected, checked, Except.bind, Except.map, Engine.followed] at done
  exact ⟨_, r', done, continued, headers.trans (r.headers_edits change)⟩

/--
Headers that a client sends for a held request take the place of all that it
has, grouped by name; without them it keeps what it has.  Cookies then take the
place of every line of cookies.  So of any other name the request ends up with
the values that were sent and with no others, and with cookies given it has one
line of them.
-/
theorem Session.continueRequest_replaces_headers {s : Session}
    (accounted : ∃ registered, s.suspensions.Account registered) (now : Nat)
    {p : ContinueRequest} {held : Suspension}
    (live : s.suspensions.live.get? p.request = some held)
    (phase : held.phase = .beforeRequestSent) {r : Request}
    (sending : s.transport.request? held.request = some r)
    {lines : Option (List Line)}
    (headersRead : Option.Rel (List.Forall₂ Header.ReadAs) p.headers lines)
    {cookie : Option String}
    (cookiesEncoded : checkOptional encodeCookies p.cookies = .ok cookie)
    (methodValid : p.method.all isToken)
    (urlValid : ∃ url, checkOptional checkUrl p.url = .ok url)
    (bodyValid : ∃ body, checkOptional WireBytes.decode p.body = .ok body) :
    ∃ s' r', (Engine.execute now (.continueRequest p)).run s = .ok .done s' ∧
      s'.transport.request? held.request = some r' ∧
      r'.headers =
        Request.withCookies ((lines.map grouped).getD r.headers) cookie ∧
      (∀ given, lines = some given → ∀ name,
        cookie = none ∨ sameName name "cookie" = false →
        named name r'.headers =
          if sameName name "set-cookie" then named name given
          else gathered (named name given)) ∧
      ∀ value, cookie = some value →
      named "cookie" r'.headers = [⟨"cookie", value⟩] := by
  obtain ⟨registered, account⟩ := accounted
  obtain ⟨url, urlRead⟩ := urlValid
  obtain ⟨body, bodyRead⟩ := bodyValid
  have checked := ContinueRequest.check_eq methodValid urlRead
    (checkOptional_linesOf_ok_iff.2 headersRead) cookiesEncoded bodyRead
  obtain ⟨s', r', done, continued, headers⟩ :=
    continueRequest_headers account now live phase sending checked
  refine ⟨s', r', done, continued, headers, ?_, ?_⟩
  · rintro given rfl name apart
    rw [headers, Request.named_withCookies_other _ apart]
    exact named_grouped name given
  · rintro value rfl
    rw [headers, Request.named_withCookies_self]

def sendingOne : Session :=
  (Session.start {} (.start 0)).run
    [.subscribe [.beforeRequestSent] none,
      .command 0 (.addIntercept
        { phases := [.beforeRequestSent], contexts := none,
          urlPatterns := none }),
      .requestAdded
        { id := "r", url := "http://a/",
          headers := [⟨"X-Old", "0"⟩, ⟨"Cookie", "old=1"⟩] },
      .notification 0 { kind := .beforeRequestSent, request := ⟨0⟩ }]

/-- Cookies both among the headers and by themselves. -/
def cookiesTwice : ContinueRequest where
  request := "r"
  body := none
  cookies := some [⟨"a", .text "1"⟩, ⟨"b", .text "2"⟩]
  headers :=
    some [.ofText "X-New" "1", .ofText "COOKIE" "c=3",
      .ofText "Set-Cookie" "d=4",
    .ofText "x-new" "2", .ofText "set-cookie" "e=5"]
  method := some "PUT"
  url := some "http://b/"

theorem Session.continueRequest_replaces_headers_cookies_twice :
    ∃ s' r', (Engine.execute 1 (.continueRequest cookiesTwice)).run sendingOne =
      .ok .done s' ∧
      s'.transport.request? ⟨0⟩ = some r' ∧
      r'.headers =
        [⟨"X-New", "1, 2"⟩, ⟨"Set-Cookie", "d=4"⟩, ⟨"set-cookie", "e=5"⟩,
        ⟨"cookie", "a=1; b=2"⟩] ∧
      named "cookie" r'.headers = [⟨"cookie", "a=1; b=2"⟩] := by
  have reachable : sendingOne.Reachable := ⟨_, _, _, rfl⟩
  have headersRead : checkOptional linesOf cookiesTwice.headers =
      .ok
        (some [⟨"X-New", "1"⟩, ⟨"COOKIE", "c=3"⟩,
          ⟨"Set-Cookie", "d=4"⟩, ⟨"x-new", "2"⟩,
        ⟨"set-cookie", "e=5"⟩]) := rfl
  have cookiesEncoded : checkOptional encodeCookies cookiesTwice.cookies =
      .ok (some "a=1; b=2") := rfl
  obtain ⟨s', r', done, continued, headers, -, alone⟩ :=
    continueRequest_replaces_headers reachable.sound.account 1 rfl rfl rfl
      (checkOptional_linesOf_ok_iff.1 headersRead) cookiesEncoded (by decide)
        ⟨_, rfl⟩ ⟨_, rfl⟩
  exact ⟨s', r', done, continued, headers.trans (by decide +kernel),
    alone _ rfl⟩

end Interception
