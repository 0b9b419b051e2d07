import Interception.Proofs.Session.Calls
import Interception.Proofs.Session.Processing

/-!
# Sessions that can arise

A session starts empty and then goes through notifications, commands and changes
on the platform's side, in any order.  At every point its table accounts for all
suspensions, and the requests that it holds are at hand and paused.  What a
single stimulus can do to the exchanges is said once here, and what holds along
whole runs comes from that.
-/

namespace Interception

/-- One thing that happens to a session.  Commands come with their parameters
read; those that cannot be read change nothing. -/
inductive Stimulus where
  | notification (now : Nat) (n : Notification)
  | command (now : Nat) (c : Command)
  | contextCreated (id : ContextId)
  | contextDestroyed (id : ContextId)
  | exchangeClosed (id : RequestId)
  | subscribe (events : List EventKind) (scope : Option (List ContextId))
  | subscribeNames (names : List String) (scope : Option (List ContextId))
  | unsubscribe (id : Uuid)
  | tabAdded (id : ContextId)
  | frameAdded (id parent : ContextId)
  | contextRemoved (id : ContextId)
  | requestAdded (r : Request)
  | responseAdded (r : Response)
  | promptAdded (p : Prompt)
  | requestSuspended (ref : RequestRef)

namespace Session

def after (s : Session) : Stimulus → Session
  | .notification now n => (s.process now n).2
  | .command now c => ((Engine.execute now c).outcome s).2
  | .contextCreated id => s.contextCreated id
  | .contextDestroyed id => s.contextDestroyed id
  | .exchangeClosed id => s.exchangeClosed id
  | .subscribe events scope =>
    ((s.subscribe events scope).map (·.2)).toOption.getD s
  | .subscribeNames names scope =>
    ((s.subscribeNames names scope).map (·.2)).toOption.getD s
  | .unsubscribe id => (s.unsubscribe id).toOption.getD s
  | .tabAdded id => { s with contexts := (s.contexts.addTopLevel id).2 }
  | .frameAdded id parent =>
    { s with contexts := (s.contexts.addChild id parent).2 }
  | .contextRemoved id => { s with contexts := s.contexts.remove id }
  | .requestAdded r => { s with transport := (s.transport.addRequest r).2 }
  | .responseAdded r => { s with transport := (s.transport.addResponse r).2 }
  | .promptAdded p => { s with transport := (s.transport.addPrompt p).2 }
  | .requestSuspended ref =>
    { s with transport := s.transport.updateRequest ref Request.suspendNow }

def run (s : Session) (history : List Stimulus) : Session :=
  history.foldl after s

def Reachable (s : Session) : Prop :=
  ∃ config ids history, s = (start config ids).run history

end Session

structure Consistent (table : Suspensions) (t : Transport) : Prop where
  account : ∃ registered, table.Account registered
  keeps : ∀ id held, table.live.get? id = some held → t.Keeps held

namespace Consistent

variable {table : Suspensions} {t : Transport}

theorem discard (h : Consistent table t) (id : RequestId) :
    Consistent (table.discard id).2 t := by
  obtain ⟨registered, account⟩ := h.account
  exact ⟨⟨registered, account.discard id⟩,
    fun key held live =>
      h.keeps key held (Suspensions.discard_live_subset live)⟩

theorem discardAll (h : Consistent table t) (ids : List RequestId) :
    Consistent (table.discardAll ids) t := by
  obtain ⟨registered, account⟩ := h.account
  exact ⟨⟨registered, account.discardAll ids⟩,
    fun key held live =>
      h.keeps key held (Suspensions.discardAll_live_subset live)⟩

theorem hold (h : Consistent table t) {held : Suspension}
    (keeps : t.Keeps held) :
    Consistent (table.hold held).2 t := by
  obtain ⟨registered, account⟩ := h.account
  refine ⟨⟨_, account.hold held⟩, fun key other live => ?_⟩
  have entered : ((table.discard held.requestId).2.live.insert held.requestId
      { held with generation := table.issued + 1 }).get? key =
        some other := live
  obtain ⟨-, rfl⟩ | ⟨-, kept⟩ := Table.get?_insert_eq_some_iff.1 entered
  · exact keeps
  · exact h.keeps key other (Suspensions.discard_live_subset kept)

theorem mono (h : Consistent table t) {t' : Transport}
    (grown : ∀ ref request, t.request? ref = some request → ∃ request',
      t'.request? ref = some request' ∧ request'.id = request.id ∧
        (request.suspended → request'.suspended)) : Consistent table t' := by
  refine ⟨h.account, fun id held live => ?_⟩
  obtain ⟨request, found, requestId, paused⟩ := h.keeps id held live
  obtain ⟨request', found', sameId, suspended⟩ :=
    grown held.request request found
  exact ⟨request', found', sameId.trans requestId,
    fun phase => suspended (paused phase)⟩

theorem performAll (h : Consistent table t) {cs : List Call}
    (others : ∀ call ∈ cs, ∀ ref, call ≠ .request ref .resume) :
    Consistent table (t.performAll cs) := by
  refine ⟨h.account, fun id held live => ?_⟩
  exact (h.keeps id held live).performAll fun call mem =>
    others call mem held.request

private theorem request_ne (h : Consistent table t) {id other : RequestId}
    {held holder : Suspension} (live : table.live.get? id = some held)
    (otherLive : table.live.get? other = some holder) (ne : other ≠ id) :
    holder.request ≠ held.request := by
  obtain ⟨registered, account⟩ := h.account
  obtain ⟨request, found, requestId, -⟩ := h.keeps id held live
  obtain ⟨request', found', requestId', -⟩ := h.keeps other holder otherLive
  -- A request that both hold would have both ids.
  intro same
  rw [same, found, Option.some.injEq] at found'
  rw [(account.live id held live).2] at requestId
  rw [← found', requestId,
    (account.live other holder otherLive).2] at requestId'
  exact ne requestId'.symm

theorem carryOut {s : Session} (h : Consistent s.suspensions s.transport)
    {id : RequestId} {held : Suspension}
    (live : s.suspensions.live.get? id = some held) (now : Nat)
    {c : Continuation} {plan : Plan} (orderly : c.Orderly held plan.calls) :
    Consistent (s.carryOut now held plan).suspensions
      (s.carryOut now held plan).transport := by
  obtain ⟨registered, account⟩ := h.account
  have key := (account.live id held live).2
  refine ⟨⟨registered, account.released live plan.resolution⟩,
    fun other holder otherLive => ?_⟩
  have left : (s.suspensions.live.erase held.requestId).get? other =
      some holder := otherLive
  obtain ⟨ne, left⟩ := Table.get?_erase_eq_some_iff.1 left
  -- Only the request that is released is resumed, and no other suspension holds
  -- it.
  refine (h.keeps other holder left).performAll fun call mem same => ?_
  subst same
  exact h.request_ne live left (key ▸ ne) (orderly.request_eq mem).1

end Consistent

/-! ## Commands -/

/-- That two sessions are the same where exchanges are concerned. -/
structure Session.Agrees (s s' : Session) : Prop where
  config : s'.config = s.config
  suspensions : s'.suspensions = s.suspensions
  redirects : s'.redirects = s.redirects
  transport : s'.transport = s.transport

theorem Session.Agrees.refl (s : Session) : s.Agrees s := ⟨rfl, rfl, rfl, rfl⟩

def Engine.SettingsOnly {α : Type} (m : Engine α) : Prop :=
  ∀ s, match m.run s with
    | .ok _ s' => s.Agrees s'
    | .error _ s' => s' = s

namespace Engine

theorem SettingsOnly.map {α β : Type} {m : Engine α} (h : m.SettingsOnly)
    (f : α → β) :
    (f <$> m).SettingsOnly := by
  intro s
  have run := h s
  rw [run_map]
  cases result : m.run s <;> simpa [result] using run

private theorem addIntercept_settingsOnly (p : AddIntercept) :
    (addIntercept p).SettingsOnly := by
  intro s
  rw [run_addIntercept]
  cases s.intercepts.add s.contexts p s.ids.next.1 with
  | error e => rfl
  | ok intercepts => exact ⟨rfl, rfl, rfl, rfl⟩

private theorem removeIntercept_settingsOnly (p : InterceptRef) :
    (removeIntercept p).SettingsOnly := by
  intro s
  cases removed : s.intercepts.remove p.intercept with
  | error e => simp [removeIntercept, EStateM.run_bind, removed]
  | ok intercepts =>
      simp only [removeIntercept, EStateM.run_bind, EStateM.run_get,
        removed, run_check_ok]
      exact ⟨rfl, rfl, rfl, rfl⟩

theorem overrideAll_run (behavior : CacheBehavior) (ids : List ContextId)
    (s : Session) :
    ∃ s', (overrideAll behavior ids).run s = .ok () s' ∧ s.Agrees s' := by
  induction ids generalizing s with
  | nil => exact ⟨s, rfl, .refl s⟩
  | cons id ids ih =>
      obtain ⟨s', run, agrees⟩ := ih (s.overrideCache behavior id)
      exact ⟨s', by simpa [overrideAll, EStateM.run_bind] using run,
        ⟨agrees.config, agrees.suspensions, agrees.redirects, agrees.transport⟩⟩

private theorem setCacheBehavior_settingsOnly (p : SetCacheBehavior) :
    (setCacheBehavior p).SettingsOnly := by
  intro s
  cases contexts : p.contexts with
  | none =>
      simp only [setCacheBehavior, contexts, EStateM.run_modify]
      exact ⟨rfl, rfl, rfl, rfl⟩
  | some ids =>
      cases checked : s.contexts.requireTopLevels ids with
      | error e => simp [setCacheBehavior, contexts, EStateM.run_bind, checked]
      | ok =>
          obtain ⟨s', run, agrees⟩ := overrideAll_run p.cacheBehavior ids s
          simpa [setCacheBehavior, contexts, EStateM.run_bind, checked,
            run] using agrees

theorem execute_cases (now : Nat) (c : Command) :
    (execute now c).SettingsOnly ∨ ∃ continuation : Continuation,
      continuation.command = c := by
  cases c with
  | addIntercept p => exact .inl ((addIntercept_settingsOnly p).map Reply.added)
  | removeIntercept p =>
      exact .inl ((removeIntercept_settingsOnly p).map fun _ => Reply.done)
  | continueRequest p => exact .inr ⟨.request p, rfl⟩
  | continueResponse p => exact .inr ⟨.response p, rfl⟩
  | continueWithAuth p => exact .inr ⟨.auth p, rfl⟩
  | failRequest p => exact .inr ⟨.failure p, rfl⟩
  | provideResponse p => exact .inr ⟨.substitute p, rfl⟩
  | setCacheBehavior p =>
      exact .inl ((setCacheBehavior_settingsOnly p).map fun _ => Reply.done)

end Engine

/-! ## Notifications -/

private theorem Notification.forwarding_ne_resume (n : Notification)
    (forwardAuth : Bool) :
    ∀ call ∈ n.forwarding forwardAuth, ∀ ref, call ≠ .request ref .resume := by
  cases kind : n.kind <;> cases prompt : n.prompt <;> cases forwardAuth <;>
    simp [forwarding, kind, prompt]

private theorem Stage.pausing_ne_resume (stage : Stage) (request : RequestRef) :
    ∀ call ∈ stage.pausing request, ∀ ref, call ≠ .request ref .resume := by
  cases stage <;> simp [pausing]

private theorem Notification.suspension_keeps {n : Notification} {t : Transport}
    {request : Request} (found : t.request? n.request = some request)
    (stage : Stage) (intercepts : List InterceptId) (top : Option ContextId) :
    (t.performAll (stage.pausing n.request)).Keeps
      (n.suspension request stage intercepts top) := by
  cases stage with
  | auth response prompt =>
      -- The platform waits for the answer by itself.
      exact ⟨request, found, rfl, fun waiting => absurd rfl waiting⟩
  | _ =>
      refine ⟨request.receive .suspend, ?_, by simp, fun _ => ?_⟩
      · simp [suspension, Stage.pausing, Transport.request?_perform, found,
          Call.toRequest?]
      · by_cases suspended : request.suspended <;>
          simp [Request.receive, Request.suspend, suspended, Request.record]

/-! ## Single stimuli -/

def Stimulus.isAside : Stimulus → Bool
  | .contextCreated _ | .subscribe _ _ | .subscribeNames _ _ |
    .unsubscribe _ | .tabAdded _
  | .frameAdded _ _ | .contextRemoved _ => true
  | _ => false

namespace Session

variable {s : Session}

abbrev Sound (s : Session) : Prop := Consistent s.suspensions s.transport

private theorem enroll_agrees (s : Session)
    (enter : Uuid → Except Error Subscriptions) :
    s.Agrees (((s.enroll enter).map (·.2)).toOption.getD s) := by
  unfold enroll
  generalize s.ids.next = next
  obtain ⟨id, ids⟩ := next
  cases entered : enter id with
  | error e =>
      simp only [entered]
      exact .refl s
  | ok subscriptions =>
      simp only [entered]
      exact ⟨rfl, rfl, rfl, rfl⟩

theorem after_aside {stimulus : Stimulus} (aside : stimulus.isAside)
    (s : Session) :
    s.Agrees (s.after stimulus) := by
  cases stimulus with
  | contextCreated id =>
      simp only [after, contextCreated]
      split
      · exact ⟨rfl, rfl, rfl, rfl⟩
      · exact .refl s
  | subscribe events scope => exact s.enroll_agrees _
  | subscribeNames names scope => exact s.enroll_agrees _
  | unsubscribe id =>
      cases result : s.subscriptions.unsubscribe id with
      | error e =>
          simp only [after, unsubscribe, result]
          exact .refl s
      | ok subscriptions =>
          simp only [after, unsubscribe, result]
          exact ⟨rfl, rfl, rfl, rfl⟩
  | tabAdded id => exact ⟨rfl, rfl, rfl, rfl⟩
  | frameAdded id parent => exact ⟨rfl, rfl, rfl, rfl⟩
  | contextRemoved id => exact ⟨rfl, rfl, rfl, rfl⟩
  | _ => cases aside

theorem after_notification_of_none {now : Nat} {n : Notification}
    (missing : s.transport.request? n.request = none) :
    s.after (.notification now n) = s := by
  simp only [after, process, missing]

/-- A command that is carried out releases the exchange it is for; any other
command leaves all exchanges as they are. -/
theorem after_command (sound : s.Sound) (now : Nat) (c : Command) :
    (s.Agrees (s.after (.command now c)) ∧
        ∀ continuation : Continuation, continuation.command = c →
          ∃ e, (Engine.execute now c).run s = .error e s) ∨
      ∃ (continuation : Continuation) (held : Suspension) (plan : Plan),
        continuation.command = c ∧
        s.suspensions.live.get? continuation.target = some held ∧
        held.requestId = continuation.target ∧
        continuation.plan s.transport held = .ok plan ∧
        (Engine.execute now c).run s = .ok .done (s.carryOut now held plan) ∧
        s.after (.command now c) = s.carryOut now held plan := by
  obtain ⟨registered, account⟩ := sound.account
  by_cases continues : ∃ continuation : Continuation, continuation.command = c
  · obtain ⟨continuation, rfl⟩ := continues
    obtain ⟨e, failed⟩ | ⟨held, plan, live, planned, done⟩ :=
      Engine.execute_continuation_cases account now continuation
    · refine .inl ⟨?_, fun _ _ => ⟨e, failed⟩⟩
      simp only [after, Engine.outcome, failed]
      exact .refl s
    · refine .inr ⟨continuation, held, plan, rfl, live,
        (account.live _ _ live).2, planned, done, ?_⟩
      simp only [after, Engine.outcome, done]
  · refine .inl ⟨?_,
      fun continuation same => absurd ⟨continuation, same⟩ continues⟩
    obtain settings | other := Engine.execute_cases now c
    · have frame := settings s
      cases result : (Engine.execute now c).run s with
      | ok reply s' =>
          simp only [result] at frame
          simpa only [after, Engine.outcome, result] using frame
      | error e s' =>
          simp only [result] at frame
          simp only [after, Engine.outcome, result, frame]
          exact .refl s
    · exact absurd other continues

/-! ## Runs -/

namespace Sound

theorem start (config : Config) (ids : IdSource) :
    (Session.start config ids).Sound where
  account := ⟨[], .start config.maxHeld⟩
  keeps := by simp [Session.start]

theorem of_agrees (h : s.Sound) {s' : Session} (agrees : s.Agrees s') :
    s'.Sound := by
  rw [Sound, agrees.suspensions, agrees.transport]
  exact h

theorem command (h : s.Sound) (now : Nat) (c : Command) :
    (s.after (.command now c)).Sound := by
  obtain ⟨agrees, -⟩ | ⟨continuation, held, plan, -, live, -,
    planned, -, result⟩ :=
    after_command h now c
  · exact h.of_agrees agrees
  · have orderly := continuation.plan_calls (h.keeps _ held live) planned
    rw [result]
    exact h.carryOut live now orderly

theorem noted (h : s.Sound) (now : Nat) (kind : EventKind) (id : RequestId) :
    Consistent (s.noted now kind id).suspensions s.transport := by
  rw [noted_eq]
  dsimp only
  split
  · exact h.discard id
  · exact h

theorem notification (h : s.Sound) (now : Nat) (n : Notification) :
    (s.after (.notification now n)).Sound := by
  cases found : s.transport.request? n.request with
  | none =>
      rw [after_notification_of_none found]
      exact h
  | some request =>
      obtain ⟨-, -, ⟨suspensions, transport⟩ |
        ⟨stage, intercepts, top, -, suspensions,
        transport⟩⟩ := process_state now found
      · rw [Sound, Session.after, suspensions, transport]
        exact (h.noted now n.kind request.id).performAll
          (n.forwarding_ne_resume _)
      · rw [Sound, Session.after, suspensions, transport]
        exact (h.performAll (stage.pausing_ne_resume n.request)).hold
          (Notification.suspension_keeps found stage intercepts top)

theorem after (h : s.Sound) (stimulus : Stimulus) :
    (s.after stimulus).Sound := by
  cases stimulus with
  | notification now n => exact h.notification now n
  | command now c => exact h.command now c
  | contextDestroyed id => exact h.discardAll _
  | exchangeClosed id => exact h.discard id
  | requestAdded r =>
      refine h.mono fun ref request found => ⟨request, ?_, rfl, id⟩
      exact (List.getElem?_append_left
        (List.getElem?_eq_some_iff.1 found).1).trans found
  | responseAdded r =>
      exact h.mono fun ref request found => ⟨request, found, rfl, id⟩
  | promptAdded p =>
      exact h.mono fun ref request found => ⟨request, found, rfl, id⟩
  | requestSuspended suspended =>
      refine h.mono fun ref request found => ?_
      by_cases same : suspended.index = ref.index
      · refine ⟨request.suspendNow, ?_, rfl, fun _ => rfl⟩
        simp_all [Transport.request?, Session.after, Transport.updateRequest]
      · refine ⟨request, ?_, rfl, id⟩
        simp_all [Transport.request?, Session.after, Transport.updateRequest]
  | _ => exact h.of_agrees (after_aside rfl s)

theorem run (h : s.Sound) (history : List Stimulus) :
    (s.run history).Sound := by
  induction history generalizing s with
  | nil => exact h
  | cons stimulus history ih => exact ih (after h stimulus)

end Sound

theorem run_append (s : Session) (first second : List Stimulus) :
    s.run (first ++ second) = (s.run first).run second :=
  List.foldl_append

theorem run_concat (s : Session) (history : List Stimulus)
    (stimulus : Stimulus) :
    s.run (history ++ [stimulus]) = (s.run history).after stimulus := by
  rw [run_append]
  rfl

theorem run_cons (s : Session) (stimulus : Stimulus) (history : List Stimulus) :
    s.run (stimulus :: history) = (s.after stimulus).run history := rfl

def trace (s : Session) : List Stimulus → List (Session × Stimulus)
  | [] => []
  | stimulus :: rest => (s, stimulus) :: (s.after stimulus).trace rest

theorem trace_append (s : Session) (first second : List Stimulus) :
    s.trace (first ++ second) =
      s.trace first ++ (s.run first).trace second := by
  induction first generalizing s with
  | nil => rfl
  | cons stimulus first ih =>
      rw [List.cons_append, trace, ih, trace, List.cons_append, run_cons]

theorem run_eq_of_after {α : Type} {f : Session → α}
    (step : ∀ s : Session, s.Sound → ∀ stimulus, f (s.after stimulus) = f s)
    (sound : s.Sound) (history : List Stimulus) : f (s.run history) = f s := by
  induction history generalizing s with
  | nil => rfl
  | cons stimulus history ih =>
      exact (ih (sound.after stimulus)).trans (step s sound stimulus)

private theorem config_after (sound : s.Sound) (stimulus : Stimulus) :
    (s.after stimulus).config = s.config := by
  cases stimulus with
  | notification now n =>
      cases found : s.transport.request? n.request with
      | none => rw [after_notification_of_none found]
      | some request => exact (process_state now found).1
  | command now c =>
      obtain ⟨agrees, -⟩ | ⟨continuation, held, plan, -, -, -, -, -, result⟩ :=
        after_command sound now c
      · exact agrees.config
      · rw [result]
        rfl
  | contextDestroyed id => rfl
  | exchangeClosed id => rfl
  | requestAdded r => rfl
  | responseAdded r => rfl
  | promptAdded p => rfl
  | requestSuspended ref => rfl
  | _ => exact (after_aside rfl s).config

theorem config_run (sound : s.Sound) (history : List Stimulus) :
    (s.run history).config = s.config :=
  run_eq_of_after (fun _ => config_after) sound history

theorem Reachable.sound {s : Session} (h : s.Reachable) : s.Sound := by
  obtain ⟨config, ids, history, rfl⟩ := h
  exact (Sound.start config ids).run history

end Session

end Interception
