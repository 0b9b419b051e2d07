import Interception.Proofs.Suspensions.Claims
import Interception.Session.Process

/-!
# What becomes of a notification

A notification is a replay that is absorbed, or it is dropped, passed on, or
held.  These are the only ways through `process`, and an exchange is held in the
stage that its notification asks for: a notification whose event can be told
lacks nothing that the stage needs.
-/

namespace Interception

/-! ## Stages -/

namespace Notification

variable {n : Notification} {t : Transport} {request : Request}

theorem detail_kind {detail : Event.Detail}
    (detailed : n.detail t request = .ok detail) :
    detail.kind = n.kind := by
  cases kind : n.kind <;> cases response : n.response.bind t.response? <;>
    cases prompt : n.prompt <;>
    simp [Notification.detail, kind, response, prompt,
      Except.map] at detailed <;>
    simp [← detailed, Event.Detail.kind]

private theorem response_of_bind {r : Response}
    (atHand : n.response.bind t.response? = some r) :
    ∃ ref, n.response = some ref := by
  obtain ⟨ref, present, -⟩ := Option.bind_eq_some_iff.1 atHand
  exact ⟨ref, present⟩

theorem exists_stage {detail : Event.Detail} {phase : Phase}
    (detailed : n.detail t request = .ok detail)
    (phased : n.kind.phase? = some phase) :
    ∃ stage, n.stage? = some stage ∧ stage.phase = phase := by
  cases kind : n.kind with
  | beforeRequestSent =>
      rw [kind] at phased
      cases phased
      exact ⟨.request, by simp [stage?, kind], rfl⟩
  | responseStarted =>
      rw [kind] at phased
      cases phased
      cases atHand : n.response.bind t.response? with
      | none => simp [Notification.detail, kind, atHand, Except.map] at detailed
      | some r =>
          obtain ⟨ref, present⟩ := response_of_bind atHand
          exact ⟨.response ref, by simp [stage?, kind, present], rfl⟩
  | authRequired =>
      rw [kind] at phased
      cases phased
      cases prompt : n.prompt with
      | none => simp [Notification.detail, kind, prompt] at detailed
      | some answer =>
          cases atHand : n.response.bind t.response? with
          | none =>
              simp [Notification.detail, kind, prompt, atHand,
                Except.map] at detailed
          | some r =>
              obtain ⟨ref, present⟩ := response_of_bind atHand
              exact ⟨.auth ref answer, by simp [stage?, kind, present, prompt],
                rfl⟩
  | responseCompleted =>
      rw [kind] at phased
      cases phased
  | fetchError =>
      rw [kind] at phased
      cases phased

theorem stage?_phase {stage : Stage} (staged : n.stage? = some stage) :
    n.kind.phase? = some stage.phase := by
  cases kind : n.kind <;> cases response : n.response <;>
    cases prompt : n.prompt <;>
    simp [stage?, kind, response, prompt] at staged <;> subst staged <;> rfl

def suspension (n : Notification) (request : Request) (stage : Stage)
    (intercepts : List InterceptId) (top : Option ContextId) : Suspension where
  requestId := request.id
  request := n.request
  context := request.context
  stage
  intercepts
  topContext := top
  generation := 0

@[simp] theorem suspension_requestId (n : Notification) (request : Request)
    (stage : Stage) (intercepts : List InterceptId) (top : Option ContextId) :
    (n.suspension request stage intercepts top).requestId = request.id := rfl

def forwarding (n : Notification) (forwardAuth : Bool) : List Call :=
  match n.kind, n.prompt with
  | .authRequired, some ref =>
      if forwardAuth then [.prompt ref .forward] else []
  | _, _ => []

end Notification

/-- What the platform is asked for so that it waits.  For the answer to a prompt
it waits anyway. -/
def Stage.pausing (ref : RequestRef) : Stage → List Call
  | .auth _ _ => []
  | _ => [.request ref .suspend]

private theorem Intercepts.matching_sublist (intercepts : Intercepts)
    (kind : EventKind) (url : String) (top : Option ContextId) :
    (intercepts.matching kind url top).Sublist
      (intercepts.list.map (·.id)) := by
  unfold Intercepts.matching
  split
  · exact List.nil_sublist _
  · exact List.filter_sublist.map _

/-! ## Entries that come and go -/

namespace Suspensions

/-- That the next number is given out between two states of a table, and `held`
entered under it. -/
def Enters (before after : Suspensions) (held : Suspension) : Prop :=
  after.issued = before.issued + 1 ∧ held.generation = after.issued ∧
    after.live.get? held.requestId = some held

theorem hold_enters (s : Suspensions) (held : Suspension) :
    s.Enters (s.hold held).2 { held with generation := s.issued + 1 } :=
  ⟨rfl, rfl, Table.get?_insert_self _ _ _⟩

/-- That nothing is entered between two states of a table, and what leaves is
discarded. -/
structure Sheds (before after : Suspensions) : Prop where
  issued : after.issued = before.issued
  kept : ∀ id held, after.live.get? id = some held →
    before.live.get? id = some held
  lost : ∀ id held, before.live.get? id = some held →
    after.live.get? id = some held ∨ asDiscarded held ∈ after.settled
  settled : before.settled ⊆ after.settled

namespace Sheds

variable {s : Suspensions}

theorem refl (s : Suspensions) : s.Sheds s where
  issued := rfl
  kept := fun _ _ live => live
  lost := fun _ _ live => .inl live
  settled := List.Subset.refl _

theorem trans {t u : Suspensions} (first : s.Sheds t) (second : t.Sheds u) :
    s.Sheds u where
  issued := second.issued.trans first.issued
  kept := fun id held live => first.kept id held (second.kept id held live)
  lost := by
    intro id held live
    rcases first.lost id held live with still | gone
    · exact second.lost id held still
    · exact .inr (second.settled gone)
  settled := List.Subset.trans first.settled second.settled

theorem discard (s : Suspensions) (id : RequestId) :
    s.Sheds (s.discard id).2 where
  issued := Account.discard_issued s id
  kept := fun _ _ => discard_live_subset
  lost := by
    intro key held live
    rw [discard_live, discard_settled]
    by_cases same : key = id
    · subst same
      exact .inr (by simp [live])
    · exact .inl (by rw [Table.get?_erase_of_ne _ same, live])
  settled := by
    rw [discard_settled]
    exact List.subset_append_left _ _

theorem discardAll (s : Suspensions) (ids : List RequestId) :
    s.Sheds (s.discardAll ids) := by
  induction ids generalizing s with
  | nil => exact refl s
  | cons id ids ih => exact (discard s id).trans (ih _)

end Sheds

theorem get?_hold (s : Suspensions) (new : Suspension) (id : RequestId) :
    (s.hold new).2.live.get? id =
      ((s.discard new.requestId).2.live.insert new.requestId
        { new with generation := s.issued + 1 }).get? id := rfl

theorem hold_live {s : Suspensions} {new held : Suspension} {id : RequestId}
    (live : (s.hold new).2.live.get? id = some held) :
    held = { new with generation := s.issued + 1 } ∨
      s.live.get? id = some held := by
  rw [get?_hold] at live
  obtain ⟨-, entered⟩ | ⟨-, kept⟩ := Table.get?_insert_eq_some_iff.1 live
  · exact .inl entered.symm
  · exact .inr (discard_live_subset kept)

theorem hold_lost {s : Suspensions} {held : Suspension} {id : RequestId}
    (new : Suspension) (live : s.live.get? id = some held) :
    (s.hold new).2.live.get? id = some held ∨
      asDiscarded held ∈ (s.hold new).2.settled := by
  have settled : (s.hold new).2.settled = (s.discard new.requestId).2.settled :=
    rfl
  by_cases same : id = new.requestId
  · subst same
    exact .inr (by rw [settled, discard_settled]; simp [live])
  · rw [get?_hold, Table.get?_insert_of_ne _ _ same, discard_live,
      Table.get?_erase_of_ne _ same]
    exact .inl live

theorem hold_settled (s : Suspensions) (new : Suspension) :
    s.settled ⊆ (s.hold new).2.settled :=
  (Sheds.discard s new.requestId).settled

end Suspensions

namespace Session

variable {s : Session} {now : Nat} {n : Notification} {request : Request}

/-! ## The steps of processing -/

/-- The session once it took note of a notification, before anybody is told of
it. -/
def noted (s : Session) (now : Nat) (kind : EventKind) (id : RequestId) :
    Session :=
  (s.absorbReplay now kind id).2.noteFailure kind id

theorem noted_eq (s : Session) (now : Nat) (kind : EventKind) (id : RequestId) :
    s.noted now kind id = { s with
      suspensions :=
        if kind = .fetchError then (s.suspensions.discard id).2
        else s.suspensions
      redirects :=
        if kind = .beforeRequestSent then (s.redirects.consume now id).2
        else if kind = .fetchError then s.redirects.forget id
        else s.redirects } := by
  cases kind <;> rfl

@[simp] theorem noted_transport (s : Session) (now : Nat) (kind : EventKind)
    (id : RequestId) :
    (s.noted now kind id).transport = s.transport := by
  rw [noted_eq]

theorem noted_of_replayed {kind : EventKind} {id : RequestId}
    (marked : (s.absorbReplay now kind id).1 = true) :
    kind = .beforeRequestSent ∧
      (s.absorbReplay now kind id).2 = s.noted now kind id := by
  have announced : kind = .beforeRequestSent := by
    by_contra other
    simp [absorbReplay, other] at marked
  exact ⟨announced, by rw [noted, noteFailure, if_neg (by simp [announced])]⟩

theorem forwardPrompt_eq (s : Session) (n : Notification) :
    s.forwardPrompt n = { s with
      transport :=
        s.transport.performAll (n.forwarding s.config.forwardAuth) } := by
  cases kind : n.kind <;> cases prompt : n.prompt <;>
    cases forward : s.config.forwardAuth <;>
    simp [forwardPrompt, Notification.forwarding, kind, prompt, forward, call]

theorem hold_eq {stage : Stage} (staged : n.stage? = some stage) (s : Session)
    (request : Request) (intercepts : List InterceptId)
    (top : Option ContextId) :
    s.hold n request intercepts top = { s with
      suspensions :=
        (s.suspensions.hold (n.suspension request stage intercepts top)).2
      transport := s.transport.performAll (stage.pausing n.request)
      log :=
        s.log ++
          (s.suspensions.hold
            (n.suspension request stage intercepts top)).1 } := by
  cases stage <;> simp only [hold, staged] <;> rfl

private theorem noted_suspensions_of_stage {stage : Stage}
    (staged : n.stage? = some stage) (s : Session) (now : Nat)
    (id : RequestId) :
    (s.noted now n.kind id).suspensions = s.suspensions := by
  have phased := Notification.stage?_phase staged
  rw [noted_eq]
  refine if_neg fun failed => ?_
  rw [failed] at phased
  cases phased

theorem noted_sheds (s : Session) (now : Nat) (kind : EventKind)
    (id : RequestId) :
    s.suspensions.Sheds (s.noted now kind id).suspensions := by
  rw [noted_eq]
  dsimp only
  split
  · exact .discard s.suspensions id
  · exact .refl s.suspensions

private theorem holders_sublist (s : Session) (kind : EventKind)
    (request : Request) (top : Option ContextId) :
    (s.holders kind request top).Sublist (s.intercepts.list.map (·.id)) := by
  unfold holders
  split
  · exact s.intercepts.matching_sublist kind request.url top
  · exact List.nil_sublist _

private theorem exists_phase_of_holders {kind : EventKind}
    {top : Option ContextId} (wanted : s.holders kind request top ≠ []) :
    ∃ phase, kind.phase? = some phase := by
  cases phased : kind.phase? with
  | some phase => exact ⟨phase, rfl⟩
  | none => simp [holders, Intercepts.matching, phased] at wanted

/-! ## The ways through processing -/

def Unheard (s : Session) (n : Notification) (request : Request) : Prop :=
  ∀ top, s.topContext? request = some top →
    s.subscriptions.hasListener n.kind top →
    ∃ cause, n.detail s.transport request = .error cause

inductive Processed (s : Session) (now : Nat) (n : Notification)
    (request : Request) (event : Option Event) (s' : Session) : Prop
  | replayed (marked : (s.absorbReplay now n.kind request.id).1 = true)
      (untold : event = none)
      (result : s' = (s.absorbReplay now n.kind request.id).2)
  | dropped (unmarked : (s.absorbReplay now n.kind request.id).1 = false)
      (unheard : s.Unheard n request)
      (untold : event = none)
      (warnings : List Warning)
      (result : s' =
        ((s.noted now n.kind request.id).warn warnings).forwardPrompt n)
  | passed (top : Option ContextId) (detail : Event.Detail)
      (unmarked : (s.absorbReplay now n.kind request.id).1 = false)
      (context : s.topContext? request = some top)
      (detailed : n.detail s.transport request = .ok detail)
      (unwanted : s.holders n.kind request top = [])
      (told : event = some ⟨eventBase now request [], detail⟩)
      (result : s' = (s.noted now n.kind request.id).forwardPrompt n)
  | held (top : Option ContextId) (detail : Event.Detail) (stage : Stage)
      (unmarked : (s.absorbReplay now n.kind request.id).1 = false)
      (context : s.topContext? request = some top)
      (detailed : n.detail s.transport request = .ok detail)
      (wanted : s.holders n.kind request top ≠ [])
      (staged : n.stage? = some stage)
      (told : event =
        some ⟨eventBase now request (s.holders n.kind request top), detail⟩)
      (result : s' = (s.noted now n.kind request.id).hold n request
        (s.holders n.kind request top) top)

theorem warn_nil (s : Session) : s.warn [] = s := by
  simp [warn]

theorem process_eq (found : s.transport.request? n.request = some request)
    (callbacks : List Callback) :
    s.process now n callbacks =
      if (s.absorbReplay now n.kind request.id).1 then
        (none, (s.absorbReplay now n.kind request.id).2)
      else
        match s.topContext? request with
        | none => (none, (s.noted now n.kind request.id).forwardPrompt n)
        | some top =>
          if s.subscriptions.hasListener n.kind top then
            (s.noted now n.kind request.id).announce now n request top callbacks
          else (none, (s.noted now n.kind request.id).forwardPrompt n) := by
  have kept := s.noted_eq now n.kind request.id
  have context : (s.noted now n.kind request.id).topContext? request =
      s.topContext? request := by
    rw [kept]
    rfl
  have listening : (s.noted now n.kind request.id).subscriptions =
      s.subscriptions := by
    rw [kept]
  rw [← context, ← listening]
  simp only [process, found]
  rfl

private theorem announce_eq_dispatch (s : Session) (now : Nat)
    (n : Notification) (request : Request) (top : Option ContextId)
    (callbacks : List Callback) :
    let told := s.announce now n request top []
    s.announce now n request top callbacks =
      (told.1, told.1.elim told.2 (told.2.dispatch callbacks)) := by
  intro told
  simp only [told]
  cases detailed : n.detail s.transport request <;>
    simp only [announce, detailed, dispatch_nil, Option.elim_none,
      Option.elim_some]

/-- Callbacks are told where there is an event, and nothing is done after
them. -/
theorem process_eq_dispatch (s : Session) (now : Nat) (n : Notification)
    (callbacks : List Callback) :
    let told := s.process now n
    s.process now n callbacks =
      (told.1, told.1.elim told.2 (told.2.dispatch callbacks)) := by
  intro told
  simp only [told]
  cases found : s.transport.request? n.request with
  | none => simp only [process, found, Option.elim_none]
  | some request =>
      rw [process_eq found, process_eq found]
      by_cases replayed : (s.absorbReplay now n.kind request.id).1
      · simp only [if_pos replayed, Option.elim_none]
      · simp only [if_neg replayed]
        cases s.topContext? request with
        | none => rfl
        | some top =>
            by_cases heard : s.subscriptions.hasListener n.kind top
            · simp only [if_pos heard]
              exact announce_eq_dispatch _ now n request top callbacks
            · simp only [if_neg heard, Option.elim_none]

private theorem holders_noted (kind : EventKind) (id : RequestId)
    (request : Request) (top : Option ContextId) :
    (s.noted now kind id).holders kind request top =
      s.holders kind request top := by
  rw [noted_eq]
  rfl

private theorem announce_processed
    (unmarked : (s.absorbReplay now n.kind request.id).1 = false)
    {top : Option ContextId} (context : s.topContext? request = some top) :
    Processed s now n request
      ((s.noted now n.kind request.id).announce now n request top []).1
      ((s.noted now n.kind request.id).announce now n request top []).2 := by
  simp only [announce, holders_noted, noted_transport, dispatch_nil]
  cases detailed : n.detail s.transport request with
  | error cause =>
      exact .dropped unmarked (fun _ _ _ => ⟨cause, detailed⟩) rfl _ rfl
  | ok detail =>
      by_cases wanted : s.holders n.kind request top = []
      · simp only [wanted, List.isEmpty_nil, if_true]
        exact .passed top detail unmarked context detailed wanted rfl rfl
      · obtain ⟨phase, phased⟩ := exists_phase_of_holders wanted
        obtain ⟨stage, staged, -⟩ := Notification.exists_stage detailed phased
        simp only [List.isEmpty_iff, if_neg wanted]
        exact .held top detail stage unmarked context detailed
          wanted staged rfl rfl

theorem process_processed (now : Nat)
    (found : s.transport.request? n.request = some request) :
    Processed s now n request (s.process now n).1 (s.process now n).2 := by
  rw [process_eq found]
  cases marked : (s.absorbReplay now n.kind request.id).1 with
  | true => exact .replayed marked rfl rfl
  | false =>
      have silent (unheard : s.Unheard n request) :
          Processed s now n request none
            ((s.noted now n.kind request.id).forwardPrompt n) := by
        exact .dropped marked unheard rfl [] (by rw [warn_nil])
      simp only [Bool.false_eq_true, if_false]
      cases resolved : s.topContext? request with
      | none => exact silent (by simp [Unheard, resolved])
      | some top =>
          by_cases heard : s.subscriptions.hasListener n.kind top
          · simp only [heard, if_true]
            exact announce_processed marked resolved
          · simp only [if_neg heard]
            exact silent (by simp [Unheard, resolved, heard])

theorem process_state (now : Nat)
    (found : s.transport.request? n.request = some request) :
    (s.process now n).2.config = s.config ∧
      (s.process now n).2.redirects =
        (s.noted now n.kind request.id).redirects ∧
      ((s.process now n).2.suspensions =
        (s.noted now n.kind request.id).suspensions ∧
          (s.process now n).2.transport =
            s.transport.performAll (n.forwarding s.config.forwardAuth) ∨
        ∃ stage intercepts top, n.stage? = some stage ∧
          (s.process now n).2.suspensions =
            (s.suspensions.hold (n.suspension request stage intercepts top)).2 ∧
          (s.process now n).2.transport =
            s.transport.performAll (stage.pausing n.request)) := by
  have config : (s.noted now n.kind request.id).config = s.config := by
    rw [noted_eq]
  cases process_processed now found with
  | replayed marked untold result =>
      obtain ⟨first, same⟩ := noted_of_replayed marked
      rw [result, same, config, noted_transport]
      exact ⟨rfl, rfl, .inl ⟨rfl, by simp [Notification.forwarding, first]⟩⟩
  | dropped unmarked unheard untold warnings result =>
      rw [result, forwardPrompt_eq]
      refine ⟨config, rfl, .inl ⟨rfl, ?_⟩⟩
      simp only [warn, noted_transport, config]
  | passed top detail unmarked context detailed unwanted told result =>
      rw [result, forwardPrompt_eq]
      refine ⟨config, rfl, .inl ⟨rfl, ?_⟩⟩
      simp only [noted_transport, config]
  | held top detail stage unmarked context detailed wanted staged told result =>
      rw [result, hold_eq staged]
      refine ⟨config, rfl,
        .inr ⟨stage, s.holders n.kind request top, top, staged, ?_, ?_⟩⟩
      · rw [noted_suspensions_of_stage staged]
      · rw [noted_transport]

/-! ## Telling and holding -/

theorem holders_eq (s : Session) (kind : EventKind) (request : Request)
    (top : Option ContextId) :
    s.holders kind request top =
      if kind ≠ .authRequired ∧ request.interceptable = false then []
      else s.intercepts.matching kind request.url top := by
  by_cases prompt : kind = .authRequired <;>
    cases interceptable : request.interceptable <;>
    simp [holders, prompt, interceptable]

/--
An event tells the subscribers what they find when they are told.  It is blocked
if and only if it lists intercepts, and if and only if the exchange was entered
in the table just now, in the phase of the notification, for the listed
intercepts and below the tab of the request.  The list is that of the matching
intercepts in the order in which they were added, or empty where the transport
cannot pause.  All of this is so when the first callback is told, and the
callbacks are the last to change the session.
-/
theorem event_tells_what_is_held {s s' : Session} {now : Nat} {n : Notification}
    {event : Event} (processed : s.process now n = (some event, s')) :
    ∃ request top,
      s.transport.request? n.request = some request ∧
      s.topContext? request = some top ∧
      event.requestId = request.id ∧ event.kind = n.kind ∧
      (event.base.intercepts.getD [] =
        if n.kind ≠ .authRequired ∧ request.interceptable = false then []
        else s.intercepts.matching n.kind request.url top) ∧
      (event.base.intercepts.getD []).Sublist (s.intercepts.list.map (·.id)) ∧
      (event.isBlocked ↔ ∃ ids, event.base.intercepts = some ids ∧ ids ≠ []) ∧
      (event.isBlocked ↔ ∃ held, s.suspensions.Enters s'.suspensions held ∧
        held.requestId = event.requestId ∧ n.kind.phase? = some held.phase ∧
        event.base.intercepts = some held.intercepts ∧ held.topContext = top) ∧
      (event.isBlocked = false → s'.suspensions.issued = s.suspensions.issued ∧
        ∀ id held, s'.suspensions.live.get? id = some held →
          s.suspensions.live.get? id = some held) ∧
      ∀ callbacks, s.process now n callbacks =
        (some event, s'.dispatch callbacks event) := by
  have last (callbacks : List Callback) :
      s.process now n callbacks =
        (some event, s'.dispatch callbacks event) := by
    rw [process_eq_dispatch, processed]
    rfl
  cases found : s.transport.request? n.request with
  | none => simp [process, found] at processed
  | some request =>
      have way : Processed s now n request (some event) s' := by
        simpa only [processed] using process_processed now found
      cases way with
      | replayed marked untold result => cases untold
      | dropped unmarked unheard untold warnings result => cases untold
      | passed top detail unmarked context detailed unwanted told result =>
          cases told
          refine ⟨request, top, rfl, context, rfl,
            Notification.detail_kind detailed, ?_, List.nil_sublist _,
            by simp [eventBase, Event.isBlocked],
            by simp [eventBase, Event.isBlocked], fun _ => ?_, last⟩
          · rw [← holders_eq, unwanted]
            rfl
          · rw [result, forwardPrompt_eq]
            have sheds := s.noted_sheds now n.kind request.id
            exact ⟨sheds.issued, sheds.kept⟩
      | held top detail stage unmarked context detailed wanted
          staged told result =>
          cases told
          have blocked : (s.holders n.kind request top).isEmpty = false := by
            simpa using wanted
          have listed :
              (eventBase now request
                (s.holders n.kind request top)).intercepts =
              some (s.holders n.kind request top) := by
            simp [eventBase, blocked]
          have entered : s.suspensions.Enters s'.suspensions
              { n.suspension request stage
                (s.holders n.kind request top) top with
                generation := s.suspensions.issued + 1 } := by
            rw [result, hold_eq staged, noted_suspensions_of_stage staged]
            exact Suspensions.hold_enters _ _
          refine ⟨request, top, rfl, context, rfl,
            Notification.detail_kind detailed, ?_, ?_,
            by simp [Event.isBlocked, eventBase, blocked, wanted], ?_,
            by simp [Event.isBlocked, eventBase, blocked], last⟩
          · rw [listed, ← holders_eq]
            rfl
          · rw [listed]
            exact s.holders_sublist n.kind request top
          · simp only [Event.isBlocked, eventBase, blocked,
              Bool.not_false, true_iff]
            exact ⟨_, entered, rfl, Notification.stage?_phase staged, rfl, rfl⟩

/-- A session with an intercept for prompts, and a request of a frame that
cannot be paused. -/
def guardingPrompts : Session :=
  { start {} (.start 0) with
    contexts :=
      (((({} : Contexts).addTopLevel "tab").2).addChild "frame" "tab").2
    intercepts :=
      ⟨[{ id := ⟨7⟩, contexts := none, phases := [.authRequired],
          patterns := [] }]⟩
    subscriptions := ({} : Subscriptions).add ⟨⟨1⟩, [.authRequired], none⟩
    transport := {
      requests := [{ id := "r", url := "http://a/", context := some "frame",
                     interceptable := false }]
      responses := [{ url := "http://a/", status := 401 }]
      prompts := [{}] } }

theorem event_tells_what_is_held_prompt :
    let n : Notification :=
      { kind := .authRequired, request := ⟨0⟩, response := some ⟨0⟩,
        prompt := some ⟨0⟩ }
    ∃ event s' held, guardingPrompts.process 0 n = (some event, s') ∧
      event.isBlocked ∧
      guardingPrompts.suspensions.Enters s'.suspensions held ∧
      held.requestId = "r" ∧
      held.phase = .authRequired ∧ held.intercepts = [⟨7⟩] ∧
      held.topContext = some "tab" ∧
      ∀ callback, guardingPrompts.process 0 n [callback] =
        (some event, callback event s') := by
  intro n
  have told : guardingPrompts.process 0 n = (some _, _) := rfl
  obtain ⟨request, top, found, context, -, -, -, -, -, holds, -, last⟩ :=
    event_tells_what_is_held told
  cases found
  cases context
  obtain ⟨held, entered, id, phase, intercepts, tab⟩ := holds.1 rfl
  exact ⟨_, _, held, told, rfl, entered, id, (Option.some.inj phase).symm,
    (Option.some.inj intercepts).symm, tab, fun callback => last [callback]⟩

end Session

end Interception
