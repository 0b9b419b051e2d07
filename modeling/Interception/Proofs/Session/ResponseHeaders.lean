import Interception.Proofs.Message.Checks
import Interception.Proofs.Message.Grouping
import Interception.Proofs.Session.Reachable
import Interception.Proofs.Subscriptions.Counting
import Mathlib.Data.String.Basic

/-!
# Headers of a response that goes on

New headers take the place of those that a received response has, grouped by
name, except for the headers that are settled: these stay as they are, and what
the client sends for them is skipped.
-/

namespace Interception

open Message

/-! ## Ascending texts -/

namespace Text

private theorem charsPrecede_iff_lt (as bs : List Char) :
    charsPrecede as bs ↔ as < bs := by
  induction as generalizing bs with
  | nil => cases bs <;> simp [charsPrecede]
  | cons a as ih =>
      cases bs with
      | nil => simp [charsPrecede]
      | cons b bs =>
          have codes : a.toNat < b.toNat ↔ a < b := Iff.rfl
          simp [charsPrecede, List.cons_lt_cons_iff, ih, codes]

private theorem precedes_iff_lt (a b : String) : precedes a b ↔ a < b := by
  rw [precedes, charsPrecede_iff_lt, String.lt_iff_toList_lt]

theorem mem_sorted {ss : List String} {a : String} : a ∈ sorted ss ↔ a ∈ ss :=
  List.mem_mergeSort

theorem pairwise_sorted {ss : List String} (nodup : ss.Nodup) :
    (sorted ss).Pairwise (· < ·) := by
  have order (a b : String) : (!precedes b a) = true ↔ a ≤ b := by
    rw [Bool.not_eq_true', Bool.eq_false_iff, Ne, precedes_iff_lt, not_lt]
  have ascending := @List.pairwise_mergeSort String (fun a b => !precedes b a)
    (by simpa only [order] using fun a b c => le_trans)
    (by simpa only [Bool.or_eq_true, order] using le_total) ss
  simp only [order] at ascending
  have distinct : (sorted ss).Nodup :=
    (List.mergeSort_perm ..).nodup_iff.2 nodup
  exact ascending.imp₂ (fun a b le ne => lt_of_le_of_ne le ne) distinct

end Text

/-! ## Settled headers -/

private theorem isSettled_congr {a b : String} (same : sameName a b) :
    isSettled a = isSettled b := by
  rw [sameName_eq, beq_iff_eq] at same
  rw [isSettled, isSettled, same]

private theorem isSettled_lowerName (name : String) :
    isSettled (lowerName name) = isSettled name := by
  rw [isSettled, isSettled, lowerName_lowerName]

private theorem named_settled {name : String} (plain : isSettled name = false)
    (lines : List Line) :
    named name (lines.filter (isSettled ·.name)) = [] := by
  rw [named_eq_nil_iff]
  intro l mem
  rw [Bool.eq_false_iff]
  intro same
  simp [isSettled_congr same, plain] at mem

private theorem foldl_eraseName (names : List String) (lines : List Line) :
    names.foldl eraseName lines = lines.filter fun l =>
      !names.any (sameName l.name) := by
  induction names generalizing lines with
  | nil => simp
  | cons name names ih =>
      simp [ih, eraseName, List.filter_filter, Bool.and_comm]

private theorem Response.mem_names {r : Response} {name : String} :
    name ∈ r.names ↔ ∃ l ∈ r.headers, lowerName l.name = name := by
  simp [names, Text.sortedSet, Text.mem_sorted]

private theorem Response.clear_unsettled (r : Response) :
    (r.names.filter (!isSettled ·)).foldl eraseName r.headers =
      r.headers.filter (isSettled ·.name) := by
  rw [foldl_eraseName]
  refine List.filter_congr fun l mem => ?_
  cases settled : isSettled l.name with
  | true =>
      have kept : ∀ name ∈ r.names.filter (!isSettled ·),
          sameName l.name name = false := by
        intro name cleared
        rw [Bool.eq_false_iff]
        intro same
        simp [← isSettled_congr same, settled] at cleared
      simpa using kept
  | false =>
      have cleared : lowerName l.name ∈ r.names.filter (!isSettled ·) := by
        refine List.mem_filter.2 ⟨mem_names.2 ⟨l, mem, rfl⟩, ?_⟩
        rw [isSettled_lowerName, settled, Bool.not_false]
      have same : sameName l.name (lowerName l.name) := by
        rw [sameName_eq, lowerName_lowerName, beq_self_eq_true]
      rw [List.any_eq_true.2 ⟨_, cleared, same⟩, Bool.not_true]

namespace Response

/-! ## What a response makes of its calls -/

private theorem headers_clear (r : Response) (names : List String) :
    ((names.map .clearHeader).foldl receive r).headers =
      names.foldl eraseName r.headers := by
  induction names generalizing r with
  | nil => rfl
  | cons name names ih => exact ih (r.clearHeader name)

private theorem headers_set (r : Response) (lines : List (Line × Bool)) :
    ((lines.map fun l => .setHeader l.1.name l.1.value l.2).foldl
      receive r).headers =
      lines.foldl (fun acc l => setLine acc l.1.name l.1.value l.2)
        r.headers := by
  induction lines generalizing r with
  | nil => rfl
  | cons l lines ih => exact ih (r.setHeader l.1.name l.1.value l.2)

def cookieLines (values : List String) : List Line :=
  values.map fun value => ⟨"set-cookie", value⟩

private theorem headers_setCookies (r : Response) (values : List String) :
    ((values.map fun value => .setHeader "set-cookie" value true).foldl
      receive r).headers =
      r.headers ++ cookieLines values := by
  induction values generalizing r with
  | nil => simp [cookieLines]
  | cons value values ih =>
      have cookie : sameName "set-cookie" "set-cookie" := by decide
      have set : (r.receive (.setHeader "set-cookie" value true)).headers =
          r.headers ++ [⟨"set-cookie", value⟩] :=
            setLine_cookie cookie r.headers value
      rw [List.map_cons, List.foldl_cons, ih, set, List.append_assoc]
      rfl

theorem headers_replacing (r : Response) (lines : List Line) :
    ((r.replacing lines).foldl receive r).headers =
      r.headers.filter (isSettled ·.name) ++
        grouped (lines.filter (!isSettled ·.name)) := by
  rw [replacing, setLines, List.foldl_append, headers_set, headers_clear,
    clear_unsettled]
  refine foldl_setLine _ _ fun l sent => named_settled ?_ _
  simpa using (List.mem_filter.1 sent).2

def replaced (old : List Line) : Option (List Line) → List Line
  | some lines => old.filter (isSettled ·.name) ++
    grouped (lines.filter (!isSettled ·.name))
  | none => old

theorem headers_edits (r : Response) (change : ResponseChange) :
    ((change.edits r).foldl receive r).headers =
      replaced r.headers change.headers ++
        cookieLines (change.setCookies.getD []) := by
  have status (r : Response) (c : Bool) (code : Nat) (reason : String) :
      ((if c then [ResponseCall.setStatus code reason] else []).foldl
        receive r).headers =
        r.headers := by
    cases c <;> rfl
  rw [ResponseChange.edits, List.foldl_append, List.foldl_append, status,
    headers_setCookies]
  cases given : change.headers with
  | none => rfl
  | some lines =>
      rw [Option.toList_some, List.flatMap_singleton, headers_replacing]
      rfl

/-! ## What becomes of the headers -/

theorem filter_isSettled_replaced (old : List Line) (given : Option (List Line))
    (cookies : List String) :
    (replaced old given ++ cookieLines cookies).filter (isSettled ·.name) =
      old.filter (isSettled ·.name) := by
  have plain : isSettled "set-cookie" = false := by decide
  have fresh : (cookieLines cookies).filter (isSettled ·.name) = [] := by
    simp [cookieLines, plain]
  rw [List.filter_append, fresh, List.append_nil]
  cases given with
  | none => rfl
  | some lines =>
      have skipped : (grouped (lines.filter (!isSettled ·.name))).filter
          (isSettled ·.name) = [] := by
        refine List.filter_eq_nil_iff.2 fun g mem => ?_
        obtain ⟨l, sent, same⟩ := exists_of_mem_grouped mem
        rw [← isSettled_congr same]
        simpa using (List.mem_filter.1 sent).2
      rw [replaced, List.filter_append, skipped, List.append_nil,
        List.filter_filter]
      simp only [Bool.and_self]

theorem named_replaced (old lines : List Line) (cookies : List String)
    {name : String} (plain : isSettled name = false) :
    named name (replaced old (some lines) ++ cookieLines cookies) =
      if sameName name "set-cookie" then named name lines ++ cookieLines cookies
      else gathered (named name lines) := by
  have sent : named name (lines.filter (!isSettled ·.name)) =
      named name lines := by
    rw [named, named, List.filter_filter]
    refine List.filter_congr fun l _ => ?_
    cases same : sameName l.name name with
    | false => rfl
    | true => rw [isSettled_congr same, plain, Bool.not_false, Bool.and_self]
  have added : named name (cookieLines cookies) =
      if sameName name "set-cookie" then cookieLines cookies else [] := by
    rw [sameName_comm]
    cases same : sameName "set-cookie" name <;> simp [named, cookieLines, same]
  rw [replaced, named_append, named_append, named_settled plain,
    named_grouped, sent, added]
  split <;> simp

theorem mem_skippedNames {r : Response} {lines : List Line} {name : String} :
    name ∈ r.skippedNames lines ↔
      ∃ l ∈ r.headers ++ lines, isSettled l.name ∧ lowerName l.name = name := by
  simp only [skippedNames, List.mem_eraseDups, List.mem_append,
    List.mem_filter, List.mem_map, mem_names]
  constructor
  · rintro (⟨⟨l, mem, rfl⟩, settled⟩ | ⟨l, ⟨mem, settled⟩, rfl⟩)
    · exact ⟨l, .inl mem, isSettled_lowerName l.name ▸ settled, rfl⟩
    · exact ⟨l, .inr mem, settled, rfl⟩
  · rintro ⟨l, mem | mem, settled, rfl⟩
    · exact .inl ⟨⟨l, mem, rfl⟩, (isSettled_lowerName l.name).symm ▸ settled⟩
    · exact .inr ⟨l, ⟨mem, settled⟩, rfl⟩

end Response

/-! ## The command -/

theorem ResponseChange.mem_skipped {change : ResponseChange} {r : Response}
    {name : String} :
    name ∈ change.skipped r ↔ ∃ lines, change.headers = some lines ∧
      ∃ l ∈ r.headers ++ lines, isSettled l.name ∧ lowerName l.name = name := by
  cases given : change.headers <;>
    simp [skipped, given, Response.mem_skippedNames]

theorem ResponseChange.nodup_skipped (change : ResponseChange) (r : Response) :
    (change.skipped r).Nodup := by
  cases given : change.headers with
  | none => simp [skipped, given]
  | some lines =>
      simp only [skipped, given]
      exact nodup_eraseDups _

theorem ContinueResponse.check_eq {p : ContinueResponse}
    {lines : Option (List Line)} {cookies : Option (List String)}
    (headersRead : checkOptional linesOf p.headers = .ok lines)
    (cookiesEncoded : checkOptional encodeSetCookies p.cookies = .ok cookies)
    (reasonValid : p.reasonPhrase.all isFieldValue) :
    p.check = .ok ⟨lines, cookies, p.reasonPhrase, p.statusCode⟩ := by
  have reason : checkOptional checkReason p.reasonPhrase =
      .ok p.reasonPhrase := by
    cases given : p.reasonPhrase with
    | none => rfl
    | some text =>
        rw [given, Option.all_some] at reasonValid
        rw [checkOptional, checkReason, if_pos reasonValid]
        rfl
  rw [check, headersRead, cookiesEncoded, reason]
  rfl

theorem ContinueResponse.plan_of_received {p : ContinueResponse} {t : Transport}
    {held : Suspension} {ref : ResponseRef} {r : Response}
    {change : ResponseChange} (stage : held.stage.response? = some ref)
    (received : t.response? ref = some r) (checked : p.check = .ok change) :
    ∃ plan, p.plan t held = .ok plan ∧ plan.skipped = change.skipped r ∧
      plan.calls =
        (change.edits r).map (.response ref) ++
          [(held.farewell p.credentials).1] := by
  have expected : held.expect [.responseStarted, .authRequired] = .ok () := by
    cases reached : held.stage with
    | request => simp [reached, Stage.response?] at stage
    | _ => simp [Suspension.expect, Suspension.phase, Stage.phase, reached]
  simp [plan, Suspension.response?, stage, received, expected, checked,
    Except.bind, Except.map]

theorem Transport.response?_edited {t : Transport} {ref : ResponseRef}
    {r : Response} (received : t.response? ref = some r)
    (edits : List ResponseCall) (held : Suspension)
    (credentials : Option Credentials) :
    (t.performAll (edits.map (.response ref) ++
      [(held.farewell credentials).1])).response? ref =
        some (edits.foldl Response.receive r) := by
  have going : (held.farewell credentials).1.toResponse? ref = none := by
    cases reached : held.stage <;>
      simp [Suspension.farewell, reached, Call.toResponse?]
  have closing : [(held.farewell credentials).1].filterMap
      (Call.toResponse? ref) = [] :=
    List.filterMap_cons_none going
  have changing : (edits.map (Call.response ref)).filterMap
      (Call.toResponse? ref) = edits := by
    simp [List.filterMap_map, Function.comp_def, Call.toResponse?]
  rw [response?_performAll, received, List.filterMap_append, changing, closing,
    List.append_nil]
  rfl

theorem Session.continueResponse_received {s : Session}
    {registered : List Suspension} (account : s.suspensions.Account registered)
    {p : ContinueResponse} {held : Suspension}
    (live : s.suspensions.live.get? p.request = some held) {ref : ResponseRef}
    (stage : held.stage.response? = some ref) {r : Response}
    (received : s.transport.response? ref = some r) {change : ResponseChange}
    (checked : p.check = .ok change) :
    ∃ s', s.continueResponse p = .ok (Text.sorted (change.skipped r), s') ∧
      s'.transport.response? ref =
        some ((change.edits r).foldl Response.receive r) := by
  obtain ⟨plan, planned, skipped, calls⟩ :=
    p.plan_of_received stage received checked
  have edited :=
    Transport.response?_edited received (change.edits r) held p.credentials
  refine ⟨s.carryOut 0 held plan, ?_, ?_⟩
  · rw [continueResponse, attempt, Engine.outcome,
      Engine.continueResponse_run account 0 p live, planned,
      Engine.followed, skipped]
  · rw [carryOut, calls, edited]

/--
Headers that a client sends for a received response take the place of those that
it has, grouped by name; without them it keeps what it has.  Cookies come on top
of either.  Headers that are settled stay as they are, and those that are
skipped for it are listed in ascending order, each once.  Of any other name the
response ends up with the values that were sent and with no others.
-/
theorem Session.continueResponse_replaces_headers {s : Session}
    (accounted : ∃ registered, s.suspensions.Account registered)
    {p : ContinueResponse} {held : Suspension}
    (live : s.suspensions.live.get? p.request = some held) {ref : ResponseRef}
    (stage : held.stage.response? = some ref) {r : Response}
    (received : s.transport.response? ref = some r) {lines : Option (List Line)}
    (headersRead : Option.Rel (List.Forall₂ Header.ReadAs) p.headers lines)
    {cookies : Option (List String)}
    (cookiesEncoded : checkOptional encodeSetCookies p.cookies = .ok cookies)
    (reasonValid : p.reasonPhrase.all isFieldValue) :
    ∃ skipped s' r', s.continueResponse p = .ok (skipped, s') ∧
      s'.transport.response? ref = some r' ∧
      r'.headers =
        Response.replaced r.headers lines ++
          Response.cookieLines (cookies.getD []) ∧
      skipped.Pairwise (· < ·) ∧
      (∀ name, name ∈ skipped ↔ ∃ given, lines = some given ∧
        ∃ l ∈ r.headers ++ given, isSettled l.name ∧ lowerName l.name = name) ∧
      r'.headers.filter (isSettled ·.name) =
        r.headers.filter (isSettled ·.name) ∧
      ∀ given, lines = some given → ∀ name, isSettled name = false →
        named name r'.headers =
          if sameName name "set-cookie" then
            named name given ++ Response.cookieLines (cookies.getD [])
          else gathered (named name given) := by
  obtain ⟨registered, account⟩ := accounted
  have checked :=
    ContinueResponse.check_eq (checkOptional_linesOf_ok_iff.2 headersRead)
    cookiesEncoded reasonValid
  obtain ⟨s', done, edited⟩ :=
    continueResponse_received account live stage received checked
  have headers := r.headers_edits ⟨lines, cookies, p.reasonPhrase, p.statusCode⟩
  refine ⟨_, s', _, done, edited, headers,
    Text.pairwise_sorted (ResponseChange.nodup_skipped _ r), ?_, ?_, ?_⟩
  · intro name
    rw [Text.mem_sorted, ResponseChange.mem_skipped]
  · rw [headers, Response.filter_isSettled_replaced]
  · rintro given rfl name plain
    rw [headers]
    exact Response.named_replaced r.headers given _ plain

def receivedOne : Session :=
  (Session.start {} (.start 0)).run
    [.subscribe [.responseStarted] none,
      .command 0 (.addIntercept
        { phases := [.responseStarted], contexts := none,
          urlPatterns := none }),
      .requestAdded { id := "r", url := "http://a/" },
      .responseAdded {
        url := "http://a/", status := 200
        headers :=
          [⟨"Content-Type", "text/html"⟩, ⟨"X-Old", "0"⟩, ⟨"Set-Cookie", "a=1"⟩,
          ⟨"content-type", "text/plain"⟩] },
      .notification 0 { kind := .responseStarted, request := ⟨0⟩,
                        response := some ⟨0⟩ }]

def manySpellings : ContinueResponse where
  request := "r"
  headers :=
    some [.ofText "X-New" "1", .ofText "Set-Cookie" "b=2",
      .ofText "Content-Length" "5",
    .ofText "x-new" "2", .ofText "set-cookie" "c=3"]
  cookies := some [.ofText "d" "4"]
  credentials := none
  reasonPhrase := none
  statusCode := none

theorem Session.continueResponse_replaces_headers_spellings :
    ∃ skipped s' r', receivedOne.continueResponse manySpellings =
      .ok (skipped, s') ∧
      s'.transport.response? ⟨0⟩ = some r' ∧
      r'.headers =
        [⟨"Content-Type", "text/html"⟩, ⟨"content-type", "text/plain"⟩,
        ⟨"X-New", "1, 2"⟩, ⟨"Set-Cookie", "b=2"⟩, ⟨"set-cookie", "c=3"⟩,
        ⟨"set-cookie", "d=4"⟩] ∧
      skipped.Pairwise (· < ·) ∧ "content-length" ∈ skipped ∧
      "content-type" ∈ skipped := by
  have reachable : receivedOne.Reachable := ⟨_, _, _, rfl⟩
  have headersRead : checkOptional linesOf manySpellings.headers =
      .ok
        (some [⟨"X-New", "1"⟩, ⟨"Set-Cookie", "b=2"⟩,
          ⟨"Content-Length", "5"⟩, ⟨"x-new", "2"⟩,
        ⟨"set-cookie", "c=3"⟩]) := rfl
  have cookiesEncoded : checkOptional encodeSetCookies manySpellings.cookies =
      .ok (some ["d=4"]) := rfl
  obtain ⟨skipped, s', r', done, edited, headers, ascending, listed, -⟩ :=
    continueResponse_replaces_headers reachable.sound.account rfl rfl rfl
      (checkOptional_linesOf_ok_iff.1 headersRead) cookiesEncoded rfl
  refine ⟨skipped, s', r', done, edited, headers.trans (by decide +kernel),
    ascending, ?_, ?_⟩
  · exact (listed _).2 ⟨_, rfl, ⟨"Content-Length", "5"⟩, by simp,
      by decide, by decide⟩
  · exact (listed _).2 ⟨_, rfl, ⟨"Content-Type", "text/html"⟩, by simp,
      by decide, by decide⟩

end Interception
