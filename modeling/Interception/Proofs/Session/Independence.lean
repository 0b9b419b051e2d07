import Interception.Proofs.Session.Prompts
import Interception.Proofs.Session.Release
import Interception.Proofs.Session.Replays

/-!
# Independence of held exchanges

Two commands that release different exchanges do not get in each other's way.
What a command finds is the suspension of its request and the objects that this
suspension holds, and what it changes is these objects, the entry, the outcome
and the mark of its request.  So it finds and changes the same whether another
command was there before or not.
-/

namespace Interception

/-! ## The objects of a suspension -/

def Call.Concerns (held : Suspension) : Call → Prop
  | .request ref _ => ref = held.request
  | .response ref _ => held.stage.response? = some ref
  | .prompt ref _ => held.stage.prompt? = some ref

theorem Call.Edits.concerns {held : Suspension} {call : Call}
    (edits : call.Edits held) :
    call.Concerns held := by
  cases call with
  | request ref asked => exact edits.1
  | response ref asked => exact edits
  | prompt ref asked => cases edits

namespace Continuation

variable {c : Continuation} {t : Transport} {held : Suspension} {plan : Plan}

theorem Orderly.concerns {calls : List Call} (orderly : c.Orderly held calls) :
    ∀ call ∈ calls, call.Concerns held := by
  obtain ⟨edits, closing, rfl, edit, letsGo⟩ := orderly
  intro call mem
  rcases List.mem_append.1 mem with changing | going
  · exact (edit call changing).concerns
  · cases stage : held.stage with
    | auth response prompt =>
        simp only [LetsGo, stage] at letsGo
        obtain ⟨answer, rfl⟩ := letsGo
        rw [List.mem_singleton.1 going]
        simp [Call.Concerns, stage, Stage.prompt?]
    | _ =>
        simp only [LetsGo, stage] at letsGo
        subst letsGo
        cases failing : c.isFailure <;> simp [failing] at going
        · rw [going, Call.Concerns]
        · rcases going with rfl | rfl <;> rfl

theorem plan_concerns (planned : c.plan t held = .ok plan) :
    ∀ call ∈ plan.calls, call.Concerns held := by
  cases c with
  | request p => exact (request_calls p planned).concerns
  | response p => exact (response_calls p planned).concerns
  | auth p => exact (auth_calls p planned).concerns
  | failure p =>
      simp only [Continuation.plan, FailRequest.plan] at planned
      split at planned <;> cases planned
      intro call mem
      obtain ⟨asked, -, rfl⟩ := List.mem_map.1 mem
      rfl
  | substitute p => exact (substitute_calls p planned).concerns

theorem plan_congr {t' : Transport}
    (request : t'.request? held.request = t.request? held.request)

    (response : ∀ ref, held.stage.response? = some ref →
      t'.response? ref = t.response? ref) :
    c.plan t' held = c.plan t held := by
  cases c with
  | response p =>
      have same : held.response? t' = held.response? t := by
        unfold Suspension.response?
        cases stage : held.stage.response? with
        | none => rfl
        | some ref => simp [response ref stage]
      simp only [Continuation.plan, ContinueResponse.plan, same]
  | failure p => simp only [Continuation.plan, FailRequest.plan, request]
  | _ => rfl

end Continuation

structure Suspension.Apart (first second : Suspension) : Prop where
  request : first.request ≠ second.request
  response : ∀ ref, first.stage.response? = some ref →
    second.stage.response? ≠ some ref
  prompt : ∀ ref, first.stage.prompt? = some ref →
    second.stage.prompt? ≠ some ref

theorem Suspension.Apart.symm {first second : Suspension}
    (apart : first.Apart second) :
    second.Apart first where
  request := apart.request.symm
  response ref held other := apart.response ref other held
  prompt ref held other := apart.prompt ref other held

/-! ## Calls to different objects -/

namespace Transport

section

variable {held : Suspension} {calls : List Call}

private theorem request?_of_concerns (t : Transport)
    (concerns : ∀ call ∈ calls, call.Concerns held) {ref : RequestRef}
    (other : ref ≠ held.request) :
    (t.performAll calls).request? ref = t.request? ref := by
  have silent : calls.filterMap (Call.toRequest? ref) = [] := by
    refine List.filterMap_eq_nil_iff.2 fun call mem => ?_
    have concerned := concerns call mem
    cases call with
    | request own asked =>
        rw [Call.toRequest?, if_neg]
        rintro rfl
        exact other concerned
    | _ => rfl
  rw [request?_performAll, silent]
  exact Option.map_id'

private theorem response?_of_concerns (t : Transport)
    (concerns : ∀ call ∈ calls, call.Concerns held) {ref : ResponseRef}
    (other : held.stage.response? ≠ some ref) :
    (t.performAll calls).response? ref = t.response? ref := by
  have silent : calls.filterMap (Call.toResponse? ref) = [] := by
    refine List.filterMap_eq_nil_iff.2 fun call mem => ?_
    have concerned := concerns call mem
    cases call with
    | response own asked =>
        rw [Call.toResponse?, if_neg]
        rintro rfl
        exact other concerned
    | _ => rfl
  rw [response?_performAll, silent]
  exact Option.map_id'

private theorem prompt?_of_concerns (t : Transport)
    (concerns : ∀ call ∈ calls, call.Concerns held) {ref : PromptRef}
    (other : held.stage.prompt? ≠ some ref) :
    (t.performAll calls).prompt? ref = t.prompt? ref := by
  have silent : calls.filterMap (Call.toPrompt? ref) = [] := by
    refine List.filterMap_eq_nil_iff.2 fun call mem => ?_
    have concerned := concerns call mem
    cases call with
    | prompt own asked =>
        rw [Call.toPrompt?, if_neg]
        rintro rfl
        exact other concerned
    | _ => rfl
  rw [prompt?_performAll, silent]
  simp

end

/-- That two transports hold the same objects, and the same calls were made, in
whatever order. -/
structure Same (t t' : Transport) : Prop where
  requests : t'.requests = t.requests
  responses : t'.responses = t.responses
  prompts : t'.prompts = t.prompts
  calls : t'.calls.Perm t.calls

private theorem same_of_lookups {t t' : Transport}
    (requests : ∀ ref, t'.request? ref = t.request? ref)
    (responses : ∀ ref, t'.response? ref = t.response? ref)
    (prompts : ∀ ref, t'.prompt? ref = t.prompt? ref)
    (calls : t'.calls.Perm t.calls) :
    t.Same t' where
  requests := List.ext_getElem? fun i => requests ⟨i⟩
  responses := List.ext_getElem? fun i => responses ⟨i⟩
  prompts := List.ext_getElem? fun i => prompts ⟨i⟩
  calls := calls

variable {first second : Suspension} {firstCalls secondCalls : List Call}

theorem performAll_same (t : Transport) (apart : first.Apart second)
    (firstConcerns : ∀ call ∈ firstCalls, call.Concerns first)
    (secondConcerns : ∀ call ∈ secondCalls, call.Concerns second) :
    ((t.performAll firstCalls).performAll secondCalls).Same
      ((t.performAll secondCalls).performAll firstCalls) := by
  refine same_of_lookups (fun ref => ?_) (fun ref => ?_) (fun ref => ?_) ?_
  · by_cases own : ref = first.request
    · have away : ref ≠ second.request := own ▸ apart.request
      simp only [request?_of_concerns _ secondConcerns away,
        request?_performAll _ firstCalls]
    · simp only [request?_of_concerns _ firstConcerns own,
        request?_performAll _ secondCalls]
  · by_cases own : first.stage.response? = some ref
    · have away := apart.response ref own
      simp only [response?_of_concerns _ secondConcerns away,
        response?_performAll _ firstCalls]
    · simp only [response?_of_concerns _ firstConcerns own,
        response?_performAll _ secondCalls]
  · by_cases own : first.stage.prompt? = some ref
    · have away := apart.prompt ref own
      simp only [prompt?_of_concerns _ secondConcerns away,
        prompt?_performAll _ firstCalls]
    · simp only [prompt?_of_concerns _ firstConcerns own,
        prompt?_performAll _ secondCalls]
  · simp only [calls_performAll, List.append_assoc]
    exact List.perm_append_comm.append_left t.calls

end Transport

/-! ## What a command finds -/

namespace Continuation

/-- The suspension that a command finds, with its plan. -/
def verdict (c : Continuation) (s : Session) :
    Except Error (Suspension × Plan) :=
  match s.suspensions.live.get? c.target with
  | none => .error (.noSuchRequest c.target)
  | some held => (c.plan s.transport held).map fun plan => (held, plan)

theorem verdict_ok {c : Continuation} {s : Session} {held : Suspension}
    {plan : Plan} (found : c.verdict s = .ok (held, plan)) :
    s.suspensions.live.get? c.target = some held ∧
      c.plan s.transport held = .ok plan := by
  unfold verdict at found
  split at found
  · cases found
  · obtain ⟨made, planned, same⟩ := ok_of_map found
    cases same
    exact ⟨‹_›, planned⟩

theorem verdict_carryOut {c other : Continuation} {s : Session}
    {held : Suspension} {plan : Plan} (key : held.requestId = other.target)
    (different : c.target ≠ other.target)
    (apart : ∀ own, s.suspensions.live.get? c.target = some own →
      own.Apart held)
    (planned : other.plan s.transport held = .ok plan) (now : Nat) :
    c.verdict (s.carryOut now held plan) = c.verdict s := by
  have entry : (s.carryOut now held plan).suspensions.live.get? c.target =
      s.suspensions.live.get? c.target :=
    Table.get?_erase_of_ne _ (key ▸ different)
  unfold verdict
  rw [entry]
  cases live : s.suspensions.live.get? c.target with
  | none => rfl
  | some own =>
      have concerns := plan_concerns planned
      have same : c.plan (s.carryOut now held plan).transport own =
          c.plan s.transport own :=
        plan_congr
          (Transport.request?_of_concerns _ concerns (apart own live).request)
          fun ref holds =>
            Transport.response?_of_concerns _ concerns
              ((apart own live).response ref holds)
      simp only [same]

end Continuation

def Session.follow (s : Session) (now : Nat) :
    Except Error (Suspension × Plan) → Session
  | .error _ => s
  | .ok (held, plan) => s.carryOut now held plan

namespace Engine

variable {s : Session} {registered : List Suspension}

private theorem release_outcome (account : s.suspensions.Account registered)
    (now : Nat) (c : Continuation) :
    (release now c).outcome s =
      ((c.verdict s).map fun v => Text.sorted v.2.skipped,
        s.follow now (c.verdict s)) := by
  unfold outcome Continuation.verdict
  rw [release_run account]
  cases s.suspensions.live.get? c.target with
  | none => rfl
  | some held =>
      cases planned : c.plan s.transport held <;> simp [planned] <;> rfl

theorem execute_outcome (now : Nat) (c : Continuation) (s : Session) :
    (execute now c.command).outcome s =
      (((release now c).outcome s).1.map fun _ => Reply.done,
        ((release now c).outcome s).2) := by
  unfold outcome
  rw [execute_command, run_map]
  cases (release now c).run s <;> rfl

end Engine

/-! ## Either order -/

namespace Session

/-- That two sessions differ at most in the order in which their logs were
written: settings, table, outcomes, marks and objects are the same. -/
structure Equivalent (s s' : Session) : Prop where
  config : s'.config = s.config
  ids : s'.ids = s.ids
  contexts : s'.contexts = s.contexts
  intercepts : s'.intercepts = s.intercepts
  subscriptions : s'.subscriptions = s.subscriptions
  cache : s'.cache = s.cache
  limit : s'.suspensions.limit = s.suspensions.limit
  issued : s'.suspensions.issued = s.suspensions.issued
  live : s'.suspensions.live = s.suspensions.live
  claimed : s'.suspensions.claimed = s.suspensions.claimed
  settled : s'.suspensions.settled.Perm s.suspensions.settled
  outcomes : ∀ generation, s'.suspensions.outcome? generation =
    s.suspensions.outcome? generation
  lifetime : s'.redirects.lifetime = s.redirects.lifetime
  marks : ∀ id, s'.redirects.marks.get? id = s.redirects.marks.get? id
  transport : s.transport.Same s'.transport
  log : s'.log.Perm s.log

theorem Equivalent.refl (s : Session) : s.Equivalent s where
  config := rfl
  ids := rfl
  contexts := rfl
  intercepts := rfl
  subscriptions := rfl
  cache := rfl
  limit := rfl
  issued := rfl
  live := rfl
  claimed := rfl
  settled := .refl _
  outcomes _ := rfl
  lifetime := rfl
  marks _ := rfl
  transport := ⟨rfl, rfl, rfl, .refl _⟩
  log := .refl _

private theorem marks_carryOut (s : Session) (now : Nat) (held : Suspension)
    (plan : Plan) (id : RequestId) :
    (s.carryOut now held plan).redirects.marks.get? id =
      if plan.redirects ∧ id = held.requestId then some now
      else s.redirects.marks.get? id := by
  cases redirects : plan.redirects <;>
    simp [carryOut, redirects, Redirects.get?_mark]

private theorem lifetime_carryOut (s : Session) (now : Nat) (held : Suspension)
    (plan : Plan) :
    (s.carryOut now held plan).redirects.lifetime = s.redirects.lifetime := by
  cases redirects : plan.redirects <;>
    simp [carryOut, redirects, Redirects.mark]

variable {s : Session} {registered : List Suspension}

theorem carryOut_equivalent (account : s.suspensions.Account registered)
    {firstId secondId : RequestId} (different : firstId ≠ secondId)
    {first second : Suspension}
    (firstLive : s.suspensions.live.get? firstId = some first)
    (secondLive : s.suspensions.live.get? secondId = some second)
    (apart : first.Apart second) {firstPlan secondPlan : Plan}
    (firstConcerns : ∀ call ∈ firstPlan.calls, call.Concerns first)
    (secondConcerns : ∀ call ∈ secondPlan.calls, call.Concerns second)
    (now later : Nat) :
    ((s.carryOut now first firstPlan).carryOut later second
      secondPlan).Equivalent
      ((s.carryOut later second secondPlan).carryOut now first firstPlan) := by
  have firstKey := (account.live _ _ firstLive).2
  have secondKey := (account.live _ _ secondLive).2
  have ids : first.requestId ≠ second.requestId := by
    rw [firstKey, secondKey]
    exact different
  have swapped (a b : Nat × Resolution) :
      (s.suspensions.settled ++ [b] ++ [a]).Perm
        (s.suspensions.settled ++ [a] ++ [b]) := by
    rw [List.append_assoc, List.append_assoc]
    exact List.perm_append_comm.append_left _
  have firstGone :
      (s.carryOut now first firstPlan).suspensions.live.get? secondId =
        some second :=
    (Table.get?_erase_of_ne _ (firstKey ▸ different.symm)).trans secondLive
  have once :=
    ((account.released firstLive firstPlan.resolution).released firstGone
    secondPlan.resolution).settled_once
  refine {
    config := rfl, ids := rfl, contexts := rfl, intercepts := rfl,
    subscriptions := rfl
    cache := rfl, limit := rfl, issued := rfl, claimed := rfl
    live := Table.erase_comm _ _ _
    settled := swapped _ _
    outcomes := Suspensions.outcome?_perm once (swapped _ _)
    lifetime := by simp only [lifetime_carryOut]
    marks := fun id => ?_
    transport := Transport.performAll_same _ apart firstConcerns secondConcerns
    log := ?_ }
  · simp only [marks_carryOut]
    by_cases own : id = first.requestId
    · have other : id ≠ second.requestId := own ▸ ids
      simp [other]
    · simp [own]
  · simp only [carryOut, List.append_assoc]
    exact List.perm_append_comm.append_left _

theorem after_continuation (account : s.suspensions.Account registered)
    (now : Nat) (c : Continuation) :
    s.after (.command now c.command) = s.follow now (c.verdict s) := by
  rw [after, Engine.execute_outcome, Engine.release_outcome account]

theorem verdict_after (account : s.suspensions.Account registered)
    {c other : Continuation} (different : c.target ≠ other.target)
    (apart : ∀ own held, s.suspensions.live.get? c.target = some own →
      s.suspensions.live.get? other.target = some held → own.Apart held)
    (now : Nat) :
    c.verdict (s.after (.command now other.command)) = c.verdict s ∧
      (s.after (.command now other.command)).suspensions.Account
        registered := by
  rw [after_continuation account]
  cases found : other.verdict s with
  | error e => exact ⟨rfl, account⟩
  | ok v =>
      obtain ⟨held, plan⟩ := v
      obtain ⟨live, planned⟩ := Continuation.verdict_ok found
      have key := (account.live _ _ live).2
      exact ⟨Continuation.verdict_carryOut key different
        (fun own ownLive => apart own held ownLive
        live) planned now, account.released live plan.resolution⟩

theorem follow_equivalent (account : s.suspensions.Account registered)
    {first second : Continuation} (different : first.target ≠ second.target)
    (apart : ∀ held other, s.suspensions.live.get? first.target = some held →
      s.suspensions.live.get? second.target = some other → held.Apart other)
    (now later : Nat) :
    ((s.follow now (first.verdict s)).follow later
      (second.verdict s)).Equivalent
      ((s.follow later (second.verdict s)).follow now (first.verdict s)) := by
  cases firstFound : first.verdict s with
  | error e => exact .refl _
  | ok v =>
      obtain ⟨held, plan⟩ := v
      cases secondFound : second.verdict s with
      | error e => exact .refl _
      | ok w =>
          obtain ⟨other, otherPlan⟩ := w
          obtain ⟨live, planned⟩ := Continuation.verdict_ok firstFound
          obtain ⟨otherLive, otherPlanned⟩ :=
            Continuation.verdict_ok secondFound
          exact carryOut_equivalent account different live otherLive
            (apart held other live otherLive)
              (Continuation.plan_concerns planned)
            (Continuation.plan_concerns otherPlanned) now later

/--
Two commands that release different exchanges, or fail to, give the same answers
in either order. They leave the same session: the same entries, outcomes, marks
and objects.
-/
theorem continuations_commute
    (accounted : ∃ registered, s.suspensions.Account registered)
    {first second : Continuation} (different : first.target ≠ second.target)
    (apart : ∀ held other, s.suspensions.live.get? first.target = some held →
      s.suspensions.live.get? second.target = some other → held.Apart other)
    (now later : Nat) :
    let firstDone := s.after (.command now first.command)
    let secondDone := s.after (.command later second.command)
    ((Engine.release now first).outcome secondDone).1 =
      ((Engine.release now first).outcome s).1 ∧
      ((Engine.release later second).outcome firstDone).1 =
        ((Engine.release later second).outcome s).1 ∧
      ((Engine.execute now first.command).outcome secondDone).1 =
        ((Engine.execute now first.command).outcome s).1 ∧
      ((Engine.execute later second.command).outcome firstDone).1 =
        ((Engine.execute later second.command).outcome s).1 ∧
      (firstDone.after (.command later second.command)).Equivalent
        (secondDone.after (.command now first.command)) := by
  intro firstDone secondDone
  obtain ⟨registered, account⟩ := accounted
  obtain ⟨firstFinds, secondAccount⟩ :=
    verdict_after account different apart later
  obtain ⟨secondFinds, firstAccount⟩ := verdict_after account different.symm
    (fun own held live other => (apart held own other live).symm) now
  have firstAnswer : ((Engine.release now first).outcome secondDone).1 =
      ((Engine.release now first).outcome s).1 := by
    rw [Engine.release_outcome secondAccount,
      Engine.release_outcome account, firstFinds]
  have secondAnswer : ((Engine.release later second).outcome firstDone).1 =
      ((Engine.release later second).outcome s).1 := by
    rw [Engine.release_outcome firstAccount,
      Engine.release_outcome account, secondFinds]
  refine ⟨firstAnswer, secondAnswer, ?_, ?_, ?_⟩
  · rw [Engine.execute_outcome, Engine.execute_outcome, firstAnswer]
  · rw [Engine.execute_outcome, Engine.execute_outcome, secondAnswer]
  · rw [after_continuation firstAccount, after_continuation secondAccount,
      firstFinds, secondFinds, after_continuation account,
      after_continuation account]
    exact follow_equivalent account different apart now later

def holdingTwo : Session :=
  holdingOne.run
    [.requestAdded { id := "q", url := "http://b/" },
      .notification 0 { kind := .beforeRequestSent, request := ⟨1⟩ }]

theorem continuations_commute_redirect_failure :
    let first := Continuation.request
      { request := "r", method := none, body := none, cookies := none,
        headers := none, url := some "http://c/" }
    let second := Continuation.failure { request := "q" }
    let firstDone := holdingTwo.after (.command 1 first.command)
    let secondDone := holdingTwo.after (.command 2 second.command)
    first.target ≠ second.target ∧
      (∃ held other, holdingTwo.suspensions.live.get? first.target = some held ∧
        holdingTwo.suspensions.live.get? second.target = some other ∧
        held.Apart other) ∧
      ((Engine.release 1 first).outcome secondDone).1 = .ok [] ∧
      ((Engine.release 2 second).outcome firstDone).1 = .ok [] ∧
      (firstDone.after (.command 2 second.command)).Equivalent
        (secondDone.after (.command 1 first.command)) := by
  intro first second firstDone secondDone
  have reachable : holdingTwo.Reachable :=
    ⟨_, _, _, (run_append (start {} (.start 0)) _ _).symm⟩
  have different : first.target ≠ second.target := by decide
  have firstLive : holdingTwo.suspensions.live.get? first.target = some
      { requestId := "r", request := ⟨0⟩, context := none, stage := .request
        intercepts := [(IdSource.start 0).next.2.next.1], topContext := none,
        generation := 1 } := rfl
  have secondLive : holdingTwo.suspensions.live.get? second.target = some
      { requestId := "q", request := ⟨1⟩, context := none, stage := .request
        intercepts := [(IdSource.start 0).next.2.next.1], topContext := none,
        generation := 2 } := rfl
  have apart :
      ∀ held other, holdingTwo.suspensions.live.get? first.target = some held →
      holdingTwo.suspensions.live.get? second.target = some other →
      held.Apart other := by
    intro held other live otherLive
    rw [firstLive, Option.some.injEq] at live
    rw [secondLive, Option.some.injEq] at otherLive
    subst live otherLive
    exact ⟨by decide, by simp [Stage.response?], by simp [Stage.prompt?]⟩
  obtain ⟨firstAnswer, secondAnswer, -, -, same⟩ :=
    continuations_commute reachable.sound.account different apart 1 2
  have firstDoes : ((Engine.release 1 first).outcome holdingTwo).1 = .ok [] :=
    rfl
  have secondDoes : ((Engine.release 2 second).outcome holdingTwo).1 = .ok [] :=
    rfl
  exact ⟨different,
    ⟨_, _, firstLive, secondLive, apart _ _ firstLive secondLive⟩,
    firstAnswer.trans firstDoes, secondAnswer.trans secondDoes, same⟩

end Session

end Interception
