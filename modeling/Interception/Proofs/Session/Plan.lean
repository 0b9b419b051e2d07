import Interception.Command.Basic
import Interception.Proofs.Suspensions.Outcome

/-!
# Plans

A command that releases a held exchange either fails, or it comes down to a
plan: the calls to make, in order, and the outcome to signal.  The plan is made
from the parameters, the suspension and the transport alone, and carrying it out
cannot fail.  So such a command changes everything that its plan says or
nothing.
-/

namespace Interception

structure Plan where
  calls : List Call
  resolution : Resolution
  redirects : Bool := false
  skipped : List String := []

namespace Suspension

/-- How an exchange goes on of which nothing else is asked. -/
def farewell (held : Suspension) (credentials : Option Credentials) :
    Call × Resolution :=
  match held.stage with
  | .auth _ prompt => (.prompt prompt (.provide credentials), .authProvided)
  | _ => (.request held.request .resume, .continued)

def response? (held : Suspension) (t : Transport) :
    Option (ResponseRef × Response) :=
  held.stage.response?.bind fun ref => (t.response? ref).map fun r => (ref, r)

end Suspension

def ContinueRequest.plan (p : ContinueRequest) (held : Suspension) :
    Except Error Plan :=
  (held.expect [.beforeRequestSent]).bind fun _ => p.check.map fun change => {
    calls := change.edits.map (.request held.request) ++
      change.url.toList.map
        (fun url => .request held.request (.redirectTo url)) ++
      [.request held.request .resume]
    resolution := if change.url.isSome then .redirected else .continued
    redirects := change.url.isSome }

def ContinueResponse.plan (p : ContinueResponse) (t : Transport)
    (held : Suspension) : Except Error Plan :=
  let response := (held.response? t).toList
  (held.expect [.responseStarted, .authRequired]).bind fun _ =>
    p.check.map fun change => {
      calls :=
        response.flatMap (fun r => (change.edits r.2).map (.response r.1)) ++
          [(held.farewell p.credentials).1]
      resolution := (held.farewell p.credentials).2
      skipped := response.flatMap fun r => change.skipped r.2 }

def AuthAction.answer : AuthAction → PromptCall × Resolution
  | .cancel => (.cancel, .authCancelled)
  | .default => (.forward, .authForwarded)
  | .provide c => (.provide (some c), .authProvided)

def ContinueWithAuth.plan (p : ContinueWithAuth) (held : Suspension) :
    Except Error Plan :=
  match held.stage with
  | .auth _ prompt =>
    .ok { calls := [.prompt prompt p.action.answer.1],
          resolution := p.action.answer.2 }
  | _ =>
    .error
      (.invalidArgument (.wrongPhase held.requestId [.authRequired] held.phase))

def FailRequest.plan (t : Transport) (held : Suspension) : Except Error Plan :=
  if held.phase = .authRequired then .error (.invalidArgument .failInAuth)
  else
    let wake :=
      if (t.request? held.request).any (·.suspended) then [RequestCall.resume]
      else []
    .ok {
      calls := (wake ++ [RequestCall.abort]).map (.request held.request)
      resolution := .failed }

def ProvideResponse.plan (p : ProvideResponse) (held : Suspension) :
    Except Error Plan :=
  if held.phase = .beforeRequestSent then
    p.check.map fun substitute =>
      { calls := [RequestCall.provide substitute, .resume].map
          (.request held.request)
        resolution := .provided }
  else
    match p.firstField? with
    | some name =>
      .error (.unsupportedOperation (.providedField name held.phase))
    | none =>
      .ok { calls := [(held.farewell none).1],
            resolution := (held.farewell none).2 }

inductive Continuation where
  | request (p : ContinueRequest)
  | response (p : ContinueResponse)
  | auth (p : ContinueWithAuth)
  | failure (p : FailRequest)
  | substitute (p : ProvideResponse)

namespace Continuation

def command : Continuation → Command
  | .request p => .continueRequest p
  | .response p => .continueResponse p
  | .auth p => .continueWithAuth p
  | .failure p => .failRequest p
  | .substitute p => .provideResponse p

def target : Continuation → RequestId
  | .request p => p.request
  | .response p => p.request
  | .auth p => p.request
  | .failure p => p.request
  | .substitute p => p.request

def plan (t : Transport) (held : Suspension) : Continuation → Except Error Plan
  | .request p => p.plan held
  | .response p => p.plan t held
  | .auth p => p.plan held
  | .failure _ => FailRequest.plan t held
  | .substitute p => p.plan held

end Continuation

def Session.carryOut (s : Session) (now : Nat) (held : Suspension)
    (plan : Plan) : Session :=
  { s with
    suspensions := { s.suspensions with
      live := s.suspensions.live.erase held.requestId
      settled := s.suspensions.settled ++ [(held.generation, plan.resolution)] }
    redirects := if plan.redirects then s.redirects.mark now held.requestId
      else s.redirects
    transport := s.transport.performAll plan.calls
    log := s.log ++ plan.skipped.map .settledHeader }

/-! ## Plans that are made -/

private theorem isSome_of_checkOptional {α β : Type}
    {check : α → Except Error β} {given : Option α} {checked : Option β}
    (h : checkOptional check given = .ok checked) :
    checked.isSome = given.isSome := by
  cases given with
  | none =>
      cases h
      rfl
  | some a =>
      obtain ⟨b, -, rfl⟩ := ok_of_map h
      rfl

private theorem ContinueRequest.check_url {p : ContinueRequest}
    {change : RequestChange} (checked : p.check = .ok change) :
    change.url.isSome = p.url.isSome := by
  obtain ⟨method, -, checked⟩ := ok_of_bind checked
  obtain ⟨url, checkedUrl, checked⟩ := ok_of_bind checked
  obtain ⟨headers, -, checked⟩ := ok_of_bind checked
  obtain ⟨cookie, -, checked⟩ := ok_of_bind checked
  obtain ⟨body, -, checked⟩ := ok_of_bind checked
  cases checked
  exact isSome_of_checkOptional checkedUrl

def Continuation.redirects : Continuation → Bool
  | .request p => p.url.isSome
  | _ => false

private theorem Suspension.farewell_ne_discarded (held : Suspension)
    (credentials : Option Credentials) :
    (held.farewell credentials).2 ≠ .discarded := by
  cases stage : held.stage <;> simp [farewell, stage]

theorem Continuation.plan_signals {c : Continuation} {t : Transport}
    {held : Suspension} {plan : Plan} (planned : c.plan t held = .ok plan) :
    plan.redirects = c.redirects ∧ plan.resolution ≠ .discarded := by
  cases c with
  | request p =>
      obtain ⟨-, -, planned⟩ := ok_of_bind planned
      obtain ⟨change, checked, rfl⟩ := ok_of_map planned
      refine ⟨ContinueRequest.check_url checked, ?_⟩
      cases redirects : change.url.isSome <;> simp
  | response p =>
      obtain ⟨-, -, planned⟩ := ok_of_bind planned
      obtain ⟨change, -, rfl⟩ := ok_of_map planned
      exact ⟨rfl, held.farewell_ne_discarded p.credentials⟩
  | auth p =>
      simp only [Continuation.plan, ContinueWithAuth.plan] at planned
      split at planned <;> cases planned
      refine ⟨rfl, ?_⟩
      cases action : p.action <;> simp [AuthAction.answer]
  | failure p =>
      simp only [Continuation.plan, FailRequest.plan] at planned
      split at planned <;> cases planned
      exact ⟨rfl, by simp⟩
  | substitute p =>
      simp only [Continuation.plan, ProvideResponse.plan] at planned
      split at planned
      · obtain ⟨substitute, -, rfl⟩ := ok_of_map planned
        exact ⟨rfl, by simp⟩
      · split at planned <;> cases planned
        exact ⟨rfl, held.farewell_ne_discarded none⟩

def Continuation.isResponse : Continuation → Bool
  | .response _ => true
  | _ => false

theorem Continuation.plan_skipped {c : Continuation} {t : Transport}
    {held : Suspension} {plan : Plan} (planned : c.plan t held = .ok plan)
    (other : c.isResponse = false) :
    plan.skipped = [] := by
  cases c with
  | request p =>
      obtain ⟨-, -, planned⟩ := ok_of_bind planned
      obtain ⟨change, -, rfl⟩ := ok_of_map planned
      rfl
  | response p => cases other
  | auth p =>
      simp only [Continuation.plan, ContinueWithAuth.plan] at planned
      split at planned <;> cases planned
      rfl
  | failure p =>
      simp only [Continuation.plan, FailRequest.plan] at planned
      split at planned <;> cases planned
      rfl
  | substitute p =>
      simp only [Continuation.plan, ProvideResponse.plan] at planned
      split at planned
      · obtain ⟨substitute, -, rfl⟩ := ok_of_map planned
        rfl
      · split at planned <;> cases planned
        rfl

/-! ## Claims between looking and settling -/

namespace Suspensions

def claiming (s : Suspensions) (held : Suspension) : Suspensions :=
  { s with
    live := s.live.erase held.requestId
    claimed := s.claimed.insert held.generation held }

namespace Account

variable {s : Suspensions} {registered : List Suspension} {id : RequestId}
  {held : Suspension}

theorem tryClaim_of_live (h : Account s registered)
    (found : s.live.get? id = some held) :
    s.tryClaim held = (.ok held, s.claiming held) := by
  have key := (h.live id held found).2
  obtain ⟨other, present, -, result⟩ | ⟨absent, -⟩ := tryClaim_cases s held
  · rw [key, found, Option.some.injEq] at present
    rw [result, ← present, claiming]
  · rw [key] at absent
    exact absurd rfl (absent held found)

theorem release_claiming (h : Account s registered)
    (found : s.live.get? id = some held) (resolution : Resolution) :
    (s.claiming held).release held.generation resolution =
      { s with
        live := s.live.erase held.requestId
        settled := s.settled ++ [(held.generation, resolution)] } := by
  have absent := h.live_not_claimed found
  have claimed : (s.claiming held).claimed.contains held.generation := by
    simp [claiming, Table.contains]
  rw [release_eq_send, Suspensions.send, if_pos claimed]
  simp only [claiming, settle, Table.erase_insert_self held absent]

theorem released (h : Account s registered) (found : s.live.get? id = some held)
    (resolution : Resolution) :
    Account
      { s with
        live := s.live.erase held.requestId
        settled := s.settled ++ [(held.generation, resolution)] }
          registered := by
  have claimed := h.tryClaim held
  rw [h.tryClaim_of_live found] at claimed
  have sent :=
    (claimed.send held.generation resolution).send held.generation .discarded
  have released : Account ((s.claiming held).release held.generation resolution)
      registered := sent
  rw [h.release_claiming found] at released
  exact released

end Account

end Suspensions

/-! ## Carrying plans out -/

namespace Engine

def followed {α : Type} (s : Session) (now : Nat) (held : Suspension)
    (answer : Plan → α) : Except Error Plan → EStateM.Result Error Session α
  | .error e => .error e s
  | .ok plan => .ok (answer plan) (s.carryOut now held plan)

variable {s : Session} {registered : List Suspension} {id : RequestId}
  {held : Suspension}

theorem continueRequest_run (account : s.suspensions.Account registered)
    (now : Nat) (p : ContinueRequest)
    (found : s.suspensions.live.get? p.request = some held) :
    (continueRequest now p).run s =
      followed s now held (fun _ => ()) (p.plan held) := by
  have key := (account.live _ _ found).2
  have claimed := run_claim (account.tryClaim_of_live found)
  have released := account.release_claiming found
  cases expected : held.expect [.beforeRequestSent] with
  | error e =>
      simp [continueRequest, EStateM.run_bind, run_peek, found, expected,
        ContinueRequest.plan, followed, Except.bind]
  | ok =>
      cases checked : p.check with
      | error e =>
          simp [continueRequest, EStateM.run_bind, run_peek, found,
            expected, checked, ContinueRequest.plan, followed,
            Except.bind, Except.map]
      | ok change =>
          cases url : change.url <;>
            simp [continueRequest, EStateM.run_bind, run_peek, found, expected,
              checked, claimed, released, key, url, ContinueRequest.plan,
              followed, Except.bind, Except.map,
              Session.carryOut]

private theorem letGo_run (account : s.suspensions.Account registered)
    (found : s.suspensions.live.get? id = some held)
    (credentials : Option Credentials) {claimed : Session}
    (taken : claimed.suspensions = s.suspensions.claiming held) :
    (letGo held credentials).run claimed =
      .ok () { claimed with
        suspensions := { s.suspensions with
          live := s.suspensions.live.erase held.requestId
          settled :=
            s.suspensions.settled ++
              [(held.generation, (held.farewell credentials).2)] }
        transport :=
          claimed.transport.perform (held.farewell credentials).1 } := by
  have released := account.release_claiming found
  cases stage : held.stage <;>
    simp [letGo, EStateM.run_bind, stage, Suspension.farewell, taken, released]

private theorem changeHeld_run (held : Suspension) (change : ResponseChange)
    (s : Session) :
    (changeHeld held change).run s =
      .ok ((held.response? s.transport).toList.flatMap
          fun r => change.skipped r.2) { s with
        transport :=
          s.transport.performAll ((held.response? s.transport).toList.flatMap
            fun r => (change.edits r.2).map (.response r.1))
        log := s.log ++ ((held.response? s.transport).toList.flatMap
          fun r => change.skipped r.2).map .settledHeader } := by
  cases stage : held.stage.response? with
  | none => simp [changeHeld, Suspension.response?, stage]
  | some ref =>
      cases response : s.transport.response? ref <;>
        simp [changeHeld, changeResponse, EStateM.run_bind,
          Suspension.response?, stage, response, Session.warn]

theorem continueResponse_run (account : s.suspensions.Account registered)
    (now : Nat) (p : ContinueResponse)
    (found : s.suspensions.live.get? p.request = some held) :
    (continueResponse p).run s =
      followed s now held (fun plan => Text.sorted plan.skipped)
        (p.plan s.transport held) := by
  have claimed := run_claim (account.tryClaim_of_live found)
  cases expected : held.expect [.responseStarted, .authRequired] with
  | error e =>
      simp [continueResponse, EStateM.run_bind, run_peek, found, expected,
        ContinueResponse.plan, followed, Except.bind]
  | ok =>
      cases checked : p.check <;>
        simp [continueResponse, EStateM.run_bind, run_peek, found, expected,
          checked, claimed, changeHeld_run, letGo_run account found,
          ContinueResponse.plan, followed, Except.bind,
          Except.map, Session.carryOut]

theorem continueWithAuth_run (account : s.suspensions.Account registered)
    (now : Nat) (p : ContinueWithAuth)
    (found : s.suspensions.live.get? p.request = some held) :
    (continueWithAuth p).run s =
      followed s now held (fun _ => ()) (p.plan held) := by
  have claimed := run_claim (account.tryClaim_of_live found)
  have released := account.release_claiming found
  cases stage : held.stage with
  | auth response prompt =>
      have expected : held.expect [.authRequired] = .ok () := by
        simp [Suspension.expect, Suspension.phase, Stage.phase, stage]
      cases action : p.action <;>
        simp [continueWithAuth, answerPrompt, EStateM.run_bind, run_peek, found,
          expected, claimed, released, stage, action, ContinueWithAuth.plan,
          AuthAction.answer, followed,
          Session.carryOut]
  | _ =>
      simp [continueWithAuth, EStateM.run_bind, run_peek, found,
        Suspension.expect, Suspension.phase, Stage.phase, stage,
        ContinueWithAuth.plan, followed]

theorem failRequest_run (account : s.suspensions.Account registered) (now : Nat)
    (p : FailRequest) (found : s.suspensions.live.get? p.request = some held) :
    (failRequest p).run s =
      followed s now held (fun _ => ())
        (FailRequest.plan s.transport held) := by
  have claimed := run_claim (account.tryClaim_of_live found)
  have released := account.release_claiming found
  by_cases phase : held.phase = .authRequired
  · simp [failRequest, EStateM.run_bind, run_peek, found, phase,
      FailRequest.plan, followed]
  · cases suspended : (s.transport.request? held.request).any (·.suspended) <;>
      simp [failRequest, EStateM.run_bind, run_peek, found, phase, claimed,
        released, suspended, FailRequest.plan, followed, Session.carryOut]

theorem provideResponse_run (account : s.suspensions.Account registered)
    (now : Nat) (p : ProvideResponse)
    (found : s.suspensions.live.get? p.request = some held) :
    (provideResponse p).run s =
      followed s now held (fun _ => ()) (p.plan held) := by
  have claimed := run_claim (account.tryClaim_of_live found)
  have released := account.release_claiming found
  by_cases phase : held.phase = .beforeRequestSent
  · cases checked : p.check <;>
      simp [provideResponse, EStateM.run_bind, run_peek, found, phase, checked,
        claimed, released, ProvideResponse.plan, followed, Except.map,
        Session.carryOut]
  · cases field : p.firstField? <;>
      simp [provideResponse, EStateM.run_bind, run_peek, found,
        phase, field, claimed, letGo_run account found, ProvideResponse.plan,
        followed, Session.carryOut]

/-- What a command does that releases an exchange; it gives the headers that
were left out. -/
def release (now : Nat) : Continuation → Engine (List String)
  | .request p => do
    continueRequest now p
    return []
  | .response p => continueResponse p
  | .auth p => do
    continueWithAuth p
    return []
  | .failure p => do
    failRequest p
    return []
  | .substitute p => do
    provideResponse p
    return []

theorem execute_command (now : Nat) (c : Continuation) :
    execute now c.command = (fun _ => Reply.done) <$> release now c := by
  cases c <;> simp [execute, Continuation.command, release]

private theorem nothing_skipped {m : Engine Unit} {now : Nat}
    {plan : Except Error Plan}
    (run : m.run s = followed s now held (fun _ => ()) plan)
    (none : ∀ made, plan = .ok made → made.skipped = []) :
    (do m; return [] : Engine (List String)).run s =
      followed s now held (fun plan => Text.sorted plan.skipped) plan := by
  rw [EStateM.run_bind, run]
  cases plan with
  | error e => rfl
  | ok made =>
      simp only [followed, none made rfl, Text.sorted, List.mergeSort_nil]
      rfl

theorem release_run (account : s.suspensions.Account registered) (now : Nat)
    (c : Continuation) :
    (release now c).run s =
      match s.suspensions.live.get? c.target with
      | none => .error (.noSuchRequest c.target) s
      | some held =>
        followed s now held (fun plan => Text.sorted plan.skipped)
          (c.plan s.transport held) := by
  cases found : s.suspensions.live.get? c.target with
  | none =>
      cases c <;>
        simp_all [Continuation.target, release, continueRequest,
          continueResponse, continueWithAuth, failRequest, provideResponse,
          EStateM.run_bind, run_peek]
  | some held =>
      cases c with
      | request p =>
          exact nothing_skipped (continueRequest_run account now p found)
            fun made planned =>
            Continuation.plan_skipped (c := .request p)
              (t := s.transport) planned rfl
      | response p => exact continueResponse_run account now p found
      | auth p =>
          exact nothing_skipped (continueWithAuth_run account now p found)
            fun made planned =>
            Continuation.plan_skipped (c := .auth p)
              (t := s.transport) planned rfl
      | failure p =>
          exact nothing_skipped (failRequest_run account now p found)
            fun made planned =>
            Continuation.plan_skipped (c := .failure p) planned rfl
      | substitute p =>
          exact nothing_skipped (provideResponse_run account now p found)
            fun made planned =>
            Continuation.plan_skipped (c := .substitute p)
              (t := s.transport) planned rfl

theorem execute_continuation (account : s.suspensions.Account registered)
    (now : Nat) (c : Continuation) :
    (execute now c.command).run s =
      match s.suspensions.live.get? c.target with
      | none => .error (.noSuchRequest c.target) s
      | some held =>
        followed s now held (fun _ => .done) (c.plan s.transport held) := by
  rw [execute_command, run_map, release_run account]
  cases s.suspensions.live.get? c.target with
  | none => rfl
  | some held =>
      cases planned : c.plan s.transport held <;> simp only [planned, followed]

theorem execute_continuation_cases (account : s.suspensions.Account registered)
    (now : Nat) (c : Continuation) :
    (∃ e, (execute now c.command).run s = .error e s) ∨
      ∃ held plan, s.suspensions.live.get? c.target = some held ∧
        c.plan s.transport held = .ok plan ∧
        (execute now c.command).run s =
          .ok .done (s.carryOut now held plan) := by
  rw [execute_continuation account]
  cases live : s.suspensions.live.get? c.target with
  | none => exact .inl ⟨_, rfl⟩
  | some held =>
      cases planned : c.plan s.transport held with
      | error e => exact .inl ⟨e, by simp only [planned, followed]⟩
      | ok plan =>
          exact .inr ⟨held, plan, rfl, planned,
            by simp only [planned, followed]⟩

end Engine

end Interception
