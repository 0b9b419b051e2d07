import Interception.Proofs.Session.Cache

/-!
# Contexts along a run

Contexts are entered and removed by the platform, and by nothing else that
happens to a session.
-/

namespace Interception

def Stimulus.opened? : Stimulus → Option ContextId
  | .tabAdded id => some id
  | .frameAdded id _ => some id
  | _ => none

namespace Session

variable {s : Session} {stimulus : Stimulus} {key : ContextId}
  {info : ContextInfo}

theorem contexts_process (s : Session) (now : Nat) (n : Notification) :
    (s.process now n).2.contexts = s.contexts := by
  cases found : s.transport.request? n.request with
  | none => exact congrArg contexts (after_notification_of_none found)
  | some request =>
      have noted : (s.noted now n.kind request.id).contexts = s.contexts := by
        rw [noted_eq]
      cases process_processed now found with
      | replayed marked untold result =>
          rw [result, (noted_of_replayed marked).2, noted]
      | dropped unmarked unheard untold warnings result =>
          rw [result, forwardPrompt_eq, warn, noted]
      | passed top detail unmarked context detailed unwanted told result =>
          rw [result, forwardPrompt_eq, noted]
      | held top detail stage unmarked context detailed wanted
          staged told result =>
          rw [result, hold_eq staged, noted]

theorem contexts_continuation (sound : s.Sound) (now : Nat)
    (continuation : Continuation) :
    (s.after (.command now continuation.command)).contexts = s.contexts := by
  obtain ⟨registered, account⟩ := sound.account
  obtain ⟨e, failed⟩ | ⟨held, plan, -, -, done⟩ :=
    Engine.execute_continuation_cases account now continuation
  · simp only [after, Engine.outcome, failed]
  · simp only [after, Engine.outcome, done]
    rfl

private theorem get?_foldl_overrideCache (s : Session)
    (behavior : CacheBehavior) (ids : List ContextId) (key : ContextId) :
    (ids.foldl (fun s id => s.overrideCache behavior id) s).contexts.get? key =
      s.contexts.get? key := by
  induction ids generalizing s with
  | nil => rfl
  | cons id ids ih => exact ih (s.overrideCache behavior id)

theorem get?_setCacheBehavior (s : Session) (now : Nat) (p : SetCacheBehavior)
    (key : ContextId) :
    (s.after (.command now (.setCacheBehavior p))).contexts.get? key =
      s.contexts.get? key := by
  obtain reset | ⟨ids, -, overridden⟩ | refused :=
    s.after_setCacheBehavior now p
  · rw [reset]
    exact Contexts.get?_foldl_setBypass s.contexts _ _ key
  · rw [overridden, get?_foldl_overrideCache]
  · rw [refused]

theorem get?_contexts_command (sound : s.Sound) (now : Nat) (c : Command)
    (key : ContextId) :
    (s.after (.command now c)).contexts.get? key = s.contexts.get? key := by
  have kept (continuation : Continuation) :
      (s.after (.command now continuation.command)).contexts.get? key =
        s.contexts.get? key := by
    rw [contexts_continuation sound]
  cases c with
  | addIntercept p =>
      simp only [after, Engine.outcome, Engine.execute, EStateM.run_bind,
        Engine.run_addIntercept]
      cases s.intercepts.add s.contexts p s.ids.next.1 <;> rfl
  | removeIntercept p =>
      cases removed : s.intercepts.remove p.intercept <;>
        simp [after, Engine.outcome, Engine.execute, Engine.removeIntercept,
          EStateM.run_bind, removed]
  | setCacheBehavior p => exact s.get?_setCacheBehavior now p key
  | continueRequest p => exact kept (.request p)
  | continueResponse p => exact kept (.response p)
  | continueWithAuth p => exact kept (.auth p)
  | failRequest p => exact kept (.failure p)
  | provideResponse p => exact kept (.substitute p)

private theorem contexts_enroll (s : Session)
    (enter : Uuid → Except Error Subscriptions) :
    (((s.enroll enter).map (·.2)).toOption.getD s).contexts = s.contexts := by
  unfold enroll
  generalize s.ids.next = next
  obtain ⟨id, ids⟩ := next
  cases entered : enter id <;> simp only [entered] <;> rfl

private theorem contexts_unsubscribe (s : Session) (id : Uuid) :
    ((s.unsubscribe id).toOption.getD s).contexts = s.contexts := by
  cases result : s.subscriptions.unsubscribe id <;>
    simp only [unsubscribe, result] <;> rfl

theorem get?_of_after (sound : s.Sound)
    (live : (s.after stimulus).contexts.get? key = some info) :
    s.contexts.get? key = some info ∨ stimulus.opened? = some key := by
  cases stimulus with
  | notification now n =>
      rw [after, contexts_process] at live
      exact .inl live
  | command now c =>
      rw [get?_contexts_command sound] at live
      exact .inl live
  | contextCreated id =>
      rw [after, get?_contextCreated] at live
      exact .inl live
  | tabAdded id =>
      by_cases same : key = id
      · exact .inr (congrArg some same.symm)
      · rw [after, Contexts.get?_addTopLevel, if_neg same] at live
        exact .inl live
  | frameAdded id parent =>
      by_cases same : key = id
      · exact .inr (congrArg some same.symm)
      · cases found : s.contexts.get? parent with
        | none =>
            rw [after, Contexts.addChild_of_none found] at live
            exact .inl live
        | some above =>
            rw [after, Contexts.get?_addChild found, if_neg same] at live
            exact .inl live
  | contextRemoved id => exact .inl (Contexts.get?_remove_eq_some_iff.1 live).1
  | subscribe events scope =>
      rw [after, subscribe, contexts_enroll] at live
      exact .inl live
  | subscribeNames names scope =>
      rw [after, subscribeNames, contexts_enroll] at live
      exact .inl live
  | unsubscribe id =>
      rw [after, contexts_unsubscribe] at live
      exact .inl live
  | _ => exact .inl live

end Session

end Interception
