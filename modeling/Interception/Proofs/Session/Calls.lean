import Interception.Proofs.Session.Plan

/-!
# Calls

What plans ask of the platform, and what its objects make of it.  A plan first
changes the exchange that is held and then lets it go: a prompt is answered, and
any other exchange is resumed, after which it can only be aborted.
-/

namespace Interception

/-! ## What objects record -/

namespace Call

def toRequest? (ref : RequestRef) : Call → Option RequestCall
  | .request other call => if other = ref then some call else none
  | _ => none

def toResponse? (ref : ResponseRef) : Call → Option ResponseCall
  | .response other call => if other = ref then some call else none
  | _ => none

def toPrompt? (ref : PromptRef) : Call → Option PromptCall
  | .prompt other call => if other = ref then some call else none
  | _ => none

end Call

def RequestCall.operation : RequestCall → Operation
  | .suspend => .suspend
  | .resume => .resume
  | .abort => .abort
  | .redirectTo url => .redirectTo url.text
  | .setMethod method => .setMethod method
  | .clearHeaders => .clearHeaders
  | .setHeader name value merge => .setHeader name value merge
  | .setBody body => .setBody body.length
  | .provide response => .substitute response.status

namespace Request

@[simp] theorem receive_id (r : Request) (call : RequestCall) :
    (r.receive call).id = r.id := by
  cases call with
  | suspend =>
      by_cases suspended : r.suspended <;>
        simp [receive, suspend, suspended, record]
  | _ => rfl

private theorem receive_suspended {r : Request} {call : RequestCall}
    (suspended : r.suspended) (kept : call ≠ .resume) :
    (r.receive call).suspended := by
  cases call with
  | suspend => simp [receive, suspend, suspended]
  | resume => exact absurd rfl kept
  | _ => exact suspended

private theorem receive_operations (r : Request) {call : RequestCall}
    (recorded : call ≠ .suspend) :
    (r.receive call).operations = r.operations ++ [call.operation] := by
  cases call with
  -- A request that is suspended already leaves no record of it.
  | suspend => exact absurd rfl recorded
  | _ => rfl

theorem foldl_receive_operations (r : Request) {calls : List RequestCall}
    (recorded : ∀ call ∈ calls, call ≠ .suspend) :
    (calls.foldl receive r).operations =
      r.operations ++ calls.map RequestCall.operation := by
  induction calls generalizing r with
  | nil => simp
  | cons call calls ih =>
      rw [List.foldl_cons,
        ih _ fun other mem => recorded other (List.mem_cons_of_mem _ mem),
        receive_operations r (recorded call List.mem_cons_self), List.map_cons]
      simp

end Request

namespace Transport

theorem calls_performAll (t : Transport) (cs : List Call) :
    (t.performAll cs).calls = t.calls ++ cs := by
  induction cs generalizing t with
  | nil => simp
  | cons c cs ih => simp [ih, perform]

theorem request?_perform (t : Transport) (c : Call) (ref : RequestRef) :
    (t.perform c).request? ref =
      (t.request? ref).map fun r =>
        (c.toRequest? ref).toList.foldl Request.receive r := by
  cases c with
  | request other call =>
      obtain ⟨i⟩ := other
      obtain ⟨j⟩ := ref
      by_cases same : i = j
      · subst same
        simp [perform, deliver, updateRequest, request?, Call.toRequest?]
      · simp [perform, deliver, updateRequest, request?, Call.toRequest?, same]
  | _ =>
      simp [perform, deliver, updateResponse, updatePrompt, request?,
        Call.toRequest?]

theorem request?_performAll (t : Transport) (cs : List Call)
    (ref : RequestRef) :
    (t.performAll cs).request? ref =
      (t.request? ref).map fun r =>
        (cs.filterMap (Call.toRequest? ref)).foldl Request.receive r := by
  induction cs generalizing t with
  | nil => simp
  | cons c cs ih =>
      rw [performAll_cons, ih, request?_perform, Option.map_map]
      congr 1
      funext r
      cases toRef : c.toRequest? ref <;> simp [toRef]

private theorem response?_perform (t : Transport) (c : Call)
    (ref : ResponseRef) :
    (t.perform c).response? ref =
      (t.response? ref).map fun r =>
        (c.toResponse? ref).toList.foldl Response.receive r := by
  cases c with
  | response other call =>
      obtain ⟨i⟩ := other
      obtain ⟨j⟩ := ref
      by_cases same : i = j
      · subst same
        simp [perform, deliver, updateResponse, response?, Call.toResponse?]
      · simp [perform, deliver, updateResponse, response?,
          Call.toResponse?, same]
  | _ =>
      simp [perform, deliver, updateRequest, updatePrompt, response?,
        Call.toResponse?]

theorem response?_performAll (t : Transport) (cs : List Call)
    (ref : ResponseRef) :
    (t.performAll cs).response? ref =
      (t.response? ref).map fun r =>
        (cs.filterMap (Call.toResponse? ref)).foldl Response.receive r := by
  induction cs generalizing t with
  | nil => simp
  | cons c cs ih =>
      rw [performAll_cons, ih, response?_perform, Option.map_map]
      congr 1
      funext r
      cases toRef : c.toResponse? ref <;> simp [toRef]

private theorem prompt?_perform (t : Transport) (c : Call) (ref : PromptRef) :
    (t.perform c).prompt? ref =
      (t.prompt? ref).map fun p => ⟨p.calls ++ (c.toPrompt? ref).toList⟩ := by
  cases c with
  | prompt other call =>
      obtain ⟨i⟩ := other
      obtain ⟨j⟩ := ref
      by_cases same : i = j
      · subst same
        simp [perform, deliver, updatePrompt, prompt?,
          Call.toPrompt?, Prompt.call]
      · simp [perform, deliver, updatePrompt, prompt?, Call.toPrompt?, same]
  | _ =>
      simp [perform, deliver, updateRequest, updateResponse,
        prompt?, Call.toPrompt?]

theorem prompt?_performAll (t : Transport) (cs : List Call) (ref : PromptRef) :
    (t.performAll cs).prompt? ref =
      (t.prompt? ref).map fun p =>
        ⟨p.calls ++ cs.filterMap (Call.toPrompt? ref)⟩ := by
  induction cs generalizing t with
  | nil => simp
  | cons c cs ih =>
      rw [performAll_cons, ih, prompt?_perform, Option.map_map]
      congr 1
      funext p
      cases toRef : c.toPrompt? ref <;> simp [toRef]

/-- That the request of a suspension is at hand, and paused unless the platform
waits by itself. -/
def Keeps (t : Transport) (held : Suspension) : Prop :=
  ∃ request, t.request? held.request = some request ∧
    request.id = held.requestId ∧
    (held.phase ≠ .authRequired → request.suspended)

private theorem Keeps.perform {t : Transport} {held : Suspension}
    (h : t.Keeps held) {c : Call} (other : c ≠ .request held.request .resume) :
    (t.perform c).Keeps held := by
  obtain ⟨request, found, id, paused⟩ := h
  cases toRef : c.toRequest? held.request with
  | none =>
      exact ⟨request, by simp [request?_perform, found, toRef], id, paused⟩
  | some call =>
      have kept : call ≠ .resume := by
        rintro rfl
        cases c <;> simp [Call.toRequest?] at toRef
        exact other (by rw [toRef.1, toRef.2])
      refine ⟨request.receive call, by simp [request?_perform, found, toRef],
        by simp [id], ?_⟩
      exact fun phase => Request.receive_suspended (paused phase) kept

theorem Keeps.performAll {t : Transport} {held : Suspension} (h : t.Keeps held)
    {cs : List Call} (others : ∀ c ∈ cs, c ≠ .request held.request .resume) :
    (t.performAll cs).Keeps held := by
  induction cs generalizing t with
  | nil => exact h
  | cons c cs ih =>
      exact ih (h.perform (others c List.mem_cons_self))
        fun other mem => others other (List.mem_cons_of_mem _ mem)

end Transport

/-! ## The calls of a plan -/

def RequestCall.isEdit : RequestCall → Bool
  | .suspend | .resume | .abort => false
  | _ => true

def Call.Edits (held : Suspension) : Call → Prop
  | .request ref call => ref = held.request ∧ call.isEdit
  | .response ref _ => held.stage.response? = some ref
  | .prompt _ _ => False

private theorem RequestChange.isEdit_of_mem_edits {change : RequestChange}
    {call : RequestCall} (mem : call ∈ change.edits) : call.isEdit := by
  simp only [RequestChange.edits, setLines, List.mem_append, List.mem_map,
    List.mem_flatMap, List.mem_cons] at mem
  obtain ((⟨_, -, rfl⟩ | ⟨_, -, rfl | ⟨_, -, rfl⟩⟩) | ⟨_, -, rfl⟩) |
    ⟨_, -, rfl⟩ := mem <;> rfl

namespace Continuation

def isFailure : Continuation → Bool
  | .failure _ => true
  | _ => false

/-- Calls that let a held exchange go: a prompt gets one answer, and any other
exchange is resumed, after which only a failure has it aborted. -/
def LetsGo (c : Continuation) (held : Suspension) (calls : List Call) : Prop :=
  match held.stage with
  | .auth _ prompt => ∃ answer, calls = [.prompt prompt answer]
  | _ =>
    calls = .request held.request .resume ::
      if c.isFailure then [.request held.request .abort] else []

/-- Calls that make all changes before they let the exchange go. -/
def Orderly (c : Continuation) (held : Suspension) (calls : List Call) : Prop :=
  ∃ edits closing, calls = edits ++ closing ∧
    (∀ call ∈ edits, call.Edits held) ∧
    c.LetsGo held closing

private theorem letsGo_farewell {c : Continuation} (going : c.isFailure = false)
    (held : Suspension) (credentials : Option Credentials) :
    c.LetsGo held [(held.farewell credentials).1] := by
  cases stage : held.stage <;> simp [LetsGo, Suspension.farewell, stage, going]

variable {t : Transport} {held : Suspension} {plan : Plan}

theorem request_calls (p : ContinueRequest) (planned : p.plan held = .ok plan) :
    (request p).Orderly held plan.calls := by
  cases stage : held.stage with
  | request =>
      cases checked : p.check with
      | error e =>
          simp [ContinueRequest.plan, Suspension.expect, Suspension.phase,
            Stage.phase, stage, checked, Except.bind, Except.map] at planned
      | ok change =>
          simp [ContinueRequest.plan, Suspension.expect, Suspension.phase,
            Stage.phase, stage, checked, Except.bind, Except.map] at planned
          subst planned
          refine ⟨change.edits.map (.request held.request) ++
            change.url.toList.map fun url =>
              .request held.request (.redirectTo url), _,
            (List.append_assoc ..).symm, ?_, by simp [LetsGo, stage, isFailure]⟩
          intro call mem
          rw [List.mem_append, List.mem_map, List.mem_map] at mem
          obtain ⟨edit, edits, rfl⟩ | ⟨url, -, rfl⟩ := mem
          · exact ⟨rfl, RequestChange.isEdit_of_mem_edits edits⟩
          · exact ⟨rfl, rfl⟩
  | _ =>
      simp [ContinueRequest.plan, Suspension.expect, Suspension.phase,
        Stage.phase, stage, Except.bind] at planned

theorem response_calls (p : ContinueResponse)
    (planned : p.plan t held = .ok plan) :
    (response p).Orderly held plan.calls := by
  cases expected : held.expect [.responseStarted, .authRequired] with
  | error e => simp [ContinueResponse.plan, expected, Except.bind] at planned
  | ok =>
      cases checked : p.check with
      | error e =>
          simp [ContinueResponse.plan, expected, checked, Except.bind,
            Except.map] at planned
      | ok change =>
          simp only [ContinueResponse.plan, expected, checked,
            Except.bind, Except.map, Except.ok.injEq] at planned
          subst planned
          refine ⟨_, _, rfl, ?_, letsGo_farewell rfl held p.credentials⟩
          intro call mem
          obtain ⟨⟨ref, r⟩, atHand, edits⟩ := List.mem_flatMap.1 mem
          obtain ⟨edit, -, rfl⟩ := List.mem_map.1 edits
          simp only [Suspension.response?, Option.mem_toList,
            Option.bind_eq_some_iff, Option.map_eq_some_iff] at atHand
          obtain ⟨other, stage, _, -, same⟩ := atHand
          cases same
          exact stage

theorem auth_calls (p : ContinueWithAuth) (planned : p.plan held = .ok plan) :
    (auth p).Orderly held plan.calls := by
  cases stage : held.stage with
  | auth response prompt =>
      simp only [ContinueWithAuth.plan, stage, Except.ok.injEq] at planned
      subst planned
      exact ⟨[], _, rfl, by simp, by simp [LetsGo, stage]⟩
  | _ => simp [ContinueWithAuth.plan, stage] at planned

theorem failure_calls (p : FailRequest) (keeps : t.Keeps held)
    (planned : FailRequest.plan t held = .ok plan) :
    (failure p).Orderly held plan.calls := by
  obtain ⟨request, found, -, paused⟩ := keeps
  by_cases phase : held.phase = .authRequired
  · simp [FailRequest.plan, phase] at planned
  · simp only [FailRequest.plan, if_neg phase, found, Option.any_some,
      paused phase, if_true, Except.ok.injEq] at planned
    subst planned
    refine ⟨[], _, rfl, by simp, ?_⟩
    cases stage : held.stage with
    | auth response prompt =>
        exact absurd (by simp [Suspension.phase, stage, Stage.phase]) phase
    | _ => simp [LetsGo, stage, isFailure]

theorem substitute_calls (p : ProvideResponse)
    (planned : p.plan held = .ok plan) :
    (substitute p).Orderly held plan.calls := by
  by_cases phase : held.phase = .beforeRequestSent
  · cases checked : p.check with
    | error e =>
        simp [ProvideResponse.plan, phase, checked, Except.map] at planned
    | ok response =>
        simp only [ProvideResponse.plan, phase, checked, Except.map, if_true,
          Except.ok.injEq] at planned
        subst planned
        refine ⟨[.request held.request (.provide response)], _, rfl, ?_, ?_⟩
        · intro call mem
          rw [List.mem_singleton.1 mem]
          exact ⟨rfl, rfl⟩
        · cases stage : held.stage with
          | auth response prompt =>
              simp [Suspension.phase, stage, Stage.phase] at phase
          | _ => simp [LetsGo, stage, isFailure]
  · cases field : p.firstField? with
    | some name => simp [ProvideResponse.plan, phase, field] at planned
    | none =>
        simp only [ProvideResponse.plan, if_neg phase, field,
          Except.ok.injEq] at planned
        subst planned
        exact ⟨[], _, rfl, by simp, letsGo_farewell rfl held none⟩

theorem plan_calls (keeps : t.Keeps held) (c : Continuation)
    (planned : c.plan t held = .ok plan) :
    c.Orderly held plan.calls := by
  cases c with
  | request p => exact request_calls p planned
  | response p => exact response_calls p planned
  | auth p => exact auth_calls p planned
  | failure p => exact failure_calls p keeps planned
  | substitute p => exact substitute_calls p planned

theorem Orderly.request_eq {c : Continuation} {calls : List Call}
    (orderly : c.Orderly held calls) {ref : RequestRef} {call : RequestCall}
    (mem : .request ref call ∈ calls) :
    ref = held.request ∧ call ≠ .suspend := by
  obtain ⟨edits, closing, rfl, edit, letsGo⟩ := orderly
  rcases List.mem_append.1 mem with changing | going
  · obtain ⟨same, isEdit⟩ := edit _ changing
    exact ⟨same, by rintro rfl; cases isEdit⟩
  · cases stage : held.stage with
    | auth response prompt =>
        simp only [LetsGo, stage] at letsGo
        obtain ⟨answer, rfl⟩ := letsGo
        simp at going
    | _ =>
        simp only [LetsGo, stage] at letsGo
        subst letsGo
        cases failing : c.isFailure <;> simp [failing] at going
        · simp [going]
        · obtain ⟨rfl, rfl⟩ | ⟨rfl, rfl⟩ := going <;> simp

end Continuation

end Interception
