import Interception.Proofs.Session.Reachable

/-!
# Where held exchanges come from

Every entry of the table was made by a notification.  It names the context that
issued the request and the tab that stood above this context then.  Requests
stay with the contexts that issued them, so an entry always names the issuer of
the request that it holds.
-/

namespace Interception

namespace Request

@[simp] theorem receive_context (r : Request) (call : RequestCall) :
    (r.receive call).context = r.context := by
  cases call with
  | suspend =>
      by_cases suspended : r.suspended <;>
        simp [receive, suspend, suspended, record]
  | _ => rfl

@[simp] theorem foldl_receive_context (calls : List RequestCall) (r : Request) :
    (calls.foldl receive r).context = r.context := by
  induction calls generalizing r with
  | nil => rfl
  | cons call calls ih => rw [List.foldl_cons, ih, receive_context]

end Request

def Transport.Extends (t t' : Transport) : Prop :=
  ∀ ref request, t.request? ref = some request →
    ∃ request', t'.request? ref = some request' ∧
    request'.context = request.context

namespace Transport.Extends

theorem refl (t : Transport) : t.Extends t :=
  fun _ request found => ⟨request, found, rfl⟩

theorem performAll (t : Transport) (calls : List Call) :
    t.Extends (t.performAll calls) := by
  intro ref request found
  exact ⟨_, by rw [request?_performAll, found]; rfl, by simp⟩

theorem addRequest (t : Transport) (r : Request) :
    t.Extends (t.addRequest r).2 := by
  intro ref request found
  have old := (List.getElem?_eq_some_iff.1 found).1
  exact ⟨request, (List.getElem?_append_left old).trans found, rfl⟩

theorem suspendNow (t : Transport) (suspended : RequestRef) :
    t.Extends (t.updateRequest suspended Request.suspendNow) := by
  intro ref request found
  by_cases same : suspended.index = ref.index
  · refine ⟨request.suspendNow, ?_, rfl⟩
    simp_all [Transport.request?, Transport.updateRequest]
  · refine ⟨request, ?_, rfl⟩
    simp_all [Transport.request?, Transport.updateRequest]

end Transport.Extends

namespace Session

variable {s : Session} {stimulus : Stimulus} {id : RequestId}
  {held : Suspension}

private theorem after_extends (sound : s.Sound) (stimulus : Stimulus) :
    s.transport.Extends (s.after stimulus).transport := by
  cases stimulus with
  | notification now n =>
      cases found : s.transport.request? n.request with
      | none =>
          rw [after_notification_of_none found]
          exact .refl _
      | some request =>
          obtain ⟨-, -, ⟨-, transport⟩ | ⟨stage, -, -, -, -, transport⟩⟩ :=
            process_state now found
          · rw [after, transport]
            exact .performAll _ _
          · rw [after, transport]
            exact .performAll _ _
  | command now c =>
      obtain ⟨agrees, -⟩ | ⟨-, held, plan, -, -, -, -, -, result⟩ :=
        after_command sound now c
      · rw [agrees.transport]
        exact .refl _
      · rw [result]
        exact .performAll _ plan.calls
  | contextDestroyed id => exact .refl _
  | exchangeClosed id => exact .refl _
  | requestAdded r => exact .addRequest _ r
  | responseAdded r => exact .refl _
  | promptAdded p => exact .refl _
  | requestSuspended ref => exact .suspendNow _ ref
  | _ =>
      rw [(after_aside rfl s).transport]
      exact .refl _

/-- That a stimulus is a notification which has an exchange held, for the
request that it is about and below the tab that is found above this request. -/
def Brings (s : Session) (stimulus : Stimulus) (held : Suspension) : Prop :=
  ∃ now n request, stimulus = .notification now n ∧
    s.transport.request? n.request = some request ∧ held.request = n.request ∧
    held.context = request.context ∧
    s.topContext? request = some held.topContext

private theorem process_live {now : Nat} {n : Notification} {request : Request}
    (found : s.transport.request? n.request = some request)
    (live : (s.process now n).2.suspensions.live.get? id = some held) :
    s.suspensions.live.get? id = some held ∨
      s.Brings (.notification now n) held := by
  have kept := (s.noted_sheds now n.kind request.id).kept id held
  cases process_processed now found with
  | replayed marked untold result =>
      rw [result, (noted_of_replayed marked).2] at live
      exact .inl (kept live)
  | dropped unmarked unheard untold warnings result =>
      rw [result, forwardPrompt_eq] at live
      exact .inl (kept live)
  | passed top detail unmarked context detailed unwanted told result =>
      rw [result, forwardPrompt_eq] at live
      exact .inl (kept live)
  | held top detail stage unmarked context detailed wanted staged told result =>
      rw [result, hold_eq staged] at live
      rcases Suspensions.hold_live live with rfl | old
      · exact .inr ⟨now, n, request, rfl, found, rfl, rfl, context⟩
      · exact .inl (kept old)

theorem after_live (sound : s.Sound)
    (live : (s.after stimulus).suspensions.live.get? id = some held) :
    s.suspensions.live.get? id = some held ∨ s.Brings stimulus held := by
  cases stimulus with
  | notification now n =>
      cases found : s.transport.request? n.request with
      | none =>
          rw [after_notification_of_none found] at live
          exact .inl live
      | some request => exact process_live found live
  | command now c =>
      obtain ⟨agrees, -⟩ | ⟨-, released, plan, -, -, -, -, -, result⟩ :=
        after_command sound now c
      · rw [agrees.suspensions] at live
        exact .inl live
      · rw [result] at live
        exact .inl (Table.get?_erase_eq_some_iff.1 live).2
  | contextDestroyed context =>
      exact .inl (Suspensions.discardAll_live_subset live)
  | exchangeClosed closed => exact .inl (Suspensions.discard_live_subset live)
  | requestAdded r => exact .inl live
  | responseAdded r => exact .inl live
  | promptAdded p => exact .inl live
  | requestSuspended ref => exact .inl live
  | _ =>
      rw [(after_aside rfl s).suspensions] at live
      exact .inl live

def Issued (s : Session) : Prop :=
  ∀ id held, s.suspensions.live.get? id = some held →
    ∃ request, s.transport.request? held.request = some request ∧
    request.context = held.context

namespace Issued

theorem start (config : Config) (ids : IdSource) :
    (Session.start config ids).Issued := by
  intro id held live
  cases live

theorem after (h : s.Issued) (sound : s.Sound) (stimulus : Stimulus) :
    (s.after stimulus).Issued := by
  intro id held live
  have grown := after_extends sound stimulus
  rcases after_live sound live with
      old | ⟨now, n, request, rfl, found, same, context, -⟩
  · obtain ⟨request, found, context⟩ := h id held old
    obtain ⟨request', found', sameContext⟩ := grown held.request request found
    exact ⟨request', found', sameContext.trans context⟩
  · obtain ⟨request', found', sameContext⟩ := grown n.request request found
    exact ⟨request', same ▸ found', sameContext.trans context.symm⟩

theorem run (h : s.Issued) (sound : s.Sound) (history : List Stimulus) :
    (s.run history).Issued := by
  induction history generalizing s with
  | nil => exact h
  | cons stimulus history ih =>
      exact ih (h.after sound stimulus) (sound.after stimulus)

end Issued

theorem Reachable.issued {s : Session} (h : s.Reachable) : s.Issued := by
  obtain ⟨config, ids, history, rfl⟩ := h
  exact (Issued.start config ids).run (.start config ids) history

end Session

end Interception
