import Interception.Proofs.Session.Reachable

/-!
# What commands do to a session

A command that fails leaves the session as it was, whatever it failed on.  One
that releases a held exchange takes that exchange off the table and no other,
signals its outcome once, and makes all changes to it before it lets it go.
-/

namespace Interception

namespace Session

theorem handle_eq (s : Session) (now : Nat) (method : String) (params : Json) :
    s.handle now method params =
      match Command.parse method params with
      | .ok c => (Engine.execute now c).outcome s
      | .error e => (.error e, s) := by
  cases parsed : Command.parse method params <;>
    simp [handle, Engine.outcome, EStateM.run_bind, parsed]

theorem Sound.execute_error {s s' : Session} (h : s.Sound) {now : Nat}
    {c : Command} {e : Error}
    (failed : (Engine.execute now c).run s = .error e s') : s' = s := by
  obtain settings | ⟨continuation, rfl⟩ := Engine.execute_cases now c
  · have frame := settings s
    rw [failed] at frame
    exact frame
  · obtain ⟨registered, account⟩ := h.account
    obtain ⟨e, untouched⟩ | ⟨held, plan, -, -, done⟩ :=
      Engine.execute_continuation_cases account now continuation
    · rw [untouched, EStateM.Result.error.injEq] at failed
      exact failed.2.symm
    · rw [done] at failed
      cases failed

/-- A command that fails changes nothing, neither in the engine nor on the
platform's side. -/
theorem handle_error_changes_nothing {s : Session} (reachable : s.Reachable)
    (now : Nat) (method : String) (params : Json) {error : Error}
    (failed : (s.handle now method params).1 = .error error) :
    (s.handle now method params).2 = s := by
  rw [handle_eq] at failed ⊢
  cases parsed : Command.parse method params with
  | error e => rfl
  | ok c =>
      cases result : (Engine.execute now c).run s with
      | ok reply s' => simp [parsed, Engine.outcome, result] at failed
      | error e s' =>
          simp only [Engine.outcome, result]
          exact reachable.sound.execute_error result

def holdingOne : Session :=
  (start {} (.start 0)).run
    [.subscribe [.beforeRequestSent] none,
      .command 0 (.addIntercept
        { phases := [.beforeRequestSent], contexts := none,
          urlPatterns := none }),
      .requestAdded { id := "r", url := "http://a/" },
      .notification 0 { kind := .beforeRequestSent, request := ⟨0⟩ }]

theorem handle_error_changes_nothing_wrong_phase :
    ∃ error,
      (holdingOne.handle 1 "network.continueWithAuth"
        (.obj [("request", .str "r"), ("action", .str "cancel")])).1 =
          .error error ∧
      (holdingOne.handle 1 "network.continueWithAuth"
        (.obj [("request", .str "r"), ("action", .str "cancel")])).2 =
          holdingOne := by
  have failed : (holdingOne.handle 1 "network.continueWithAuth"
      (.obj [("request", .str "r"), ("action", .str "cancel")])).1 =
      .error
        (.invalidArgument
          (.wrongPhase "r" [.authRequired] .beforeRequestSent)) := by
    rfl
  have reachable : holdingOne.Reachable := ⟨_, _, _, rfl⟩
  exact ⟨_, failed, handle_error_changes_nothing reachable 1 _ _ failed⟩

theorem Sound.execute_ok {s s' : Session} (h : s.Sound) {now : Nat}
    {c : Continuation} {reply : Reply}
    (done : (Engine.execute now c.command).run s = .ok reply s') :
    ∃ held plan, s.suspensions.live.get? c.target = some held ∧
      c.plan s.transport held = .ok plan ∧ s' = s.carryOut now held plan := by
  obtain ⟨registered, account⟩ := h.account
  obtain ⟨e, failed⟩ | ⟨held, plan, live, planned, result⟩ :=
    Engine.execute_continuation_cases account now c
  · rw [failed] at done
    cases done
  · rw [result, EStateM.Result.ok.injEq] at done
    exact ⟨held, plan, live, planned, done.2.symm⟩

/--
A command that releases an exchange and succeeds takes the entry of its request
off the table, leaves all others, and signals one outcome, for a suspension that
had none.  What it asks of the platform comes in order: first the changes to
that exchange, then a single answer to its prompt or a single resumption, and
after that nothing, except that a failure has the request aborted.  Each request
and each prompt gets what is asked of it, once.
-/
theorem continuation_releases_one {s s' : Session} (reachable : s.Reachable)
    (now : Nat) (c : Continuation) {reply : Reply}
    (done : (Engine.execute now c.command).run s = .ok reply s') :
    ∃ held resolution calls,
      s.suspensions.live.get? c.target = some held ∧
      s'.suspensions.live.get? c.target = none ∧
      (∀ id ≠ c.target, s'.suspensions.live.get? id =
        s.suspensions.live.get? id) ∧
      s.suspensions.outcome? held.generation = none ∧
      s'.suspensions.settled =
        s.suspensions.settled ++ [(held.generation, resolution)] ∧
      c.Orderly held calls ∧
      s'.transport = s.transport.performAll calls ∧
      s'.transport.calls = s.transport.calls ++ calls ∧
      (∀ ref request, s.transport.request? ref = some request → ∃ request',
        s'.transport.request? ref = some request' ∧
        request'.operations = request.operations ++
          (calls.filterMap (Call.toRequest? ref)).map RequestCall.operation) ∧
      ∀ ref prompt, s.transport.prompt? ref = some prompt →
        s'.transport.prompt? ref =
          some ⟨prompt.calls ++ calls.filterMap (Call.toPrompt? ref)⟩ := by
  obtain ⟨held, plan, live, planned, rfl⟩ := reachable.sound.execute_ok done
  obtain ⟨registered, account⟩ := reachable.sound.account
  obtain ⟨known, key⟩ := account.live _ held live
  have orderly := c.plan_calls (reachable.sound.keeps _ held live) planned
  have holds : s.suspensions.Holds held .live := by
    rw [← key] at live
    exact live
  refine ⟨held, plan.resolution, plan.calls, live, ?_, ?_, ?_, rfl, orderly,
    rfl, ?_, ?_, ?_⟩
  · simp [carryOut, key]
  · intro id other
    exact Table.get?_erase_of_ne _ (key ▸ other)
  · exact (account.outcome?_eq_none_iff_unresolved known).2 (.inl holds)
  · exact Transport.calls_performAll s.transport plan.calls
  · intro ref request found
    refine ⟨_, by rw [carryOut, Transport.request?_performAll, found]; rfl, ?_⟩
    refine Request.foldl_receive_operations request fun call mem => ?_
    obtain ⟨made, present, asked⟩ := List.mem_filterMap.1 mem
    cases made with
    | request other asks =>
        simp only [Call.toRequest?, Option.ite_none_right_eq_some,
          Option.some.injEq] at asked
        exact asked.2 ▸ (orderly.request_eq present).2
    | _ => simp [Call.toRequest?] at asked
  · intro ref prompt found
    rw [carryOut, Transport.prompt?_performAll, found]
    rfl

theorem continuation_releases_one_with_method :
    let c := Continuation.request
      { request := "r", method := some "PUT", body := none, cookies := none,
        headers := none, url := none }
    let s' := ((Engine.execute 1 c.command).outcome holdingOne).2
    (Engine.execute 1 c.command).run holdingOne = .ok .done s' ∧
      ∃ held calls, holdingOne.suspensions.live.get? "r" = some held ∧
        s'.suspensions.live.get? "r" = none ∧ c.Orderly held calls ∧
        s'.transport.calls = holdingOne.transport.calls ++ calls ∧
        s'.transport.calls =
          [.request ⟨0⟩ .suspend, .request ⟨0⟩ (.setMethod "PUT"),
          .request ⟨0⟩ .resume] := by
  intro c s'
  have reachable : holdingOne.Reachable := ⟨_, _, _, rfl⟩
  have done : (Engine.execute 1 c.command).run holdingOne = .ok .done s' := rfl
  obtain ⟨held, -, calls, live, gone, -, -, -, orderly, -, called, -⟩ :=
    continuation_releases_one reachable 1 c done
  exact ⟨done, held, calls, live, gone, orderly, called, rfl⟩

end Session

end Interception
