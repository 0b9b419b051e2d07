import Interception.Proofs.Session.Teardown

/-!
# Marks that outlive their context

A request that was redirected is not held any more, it only has its mark.
Giving a context up drops the marks of the exchanges that are held there, so the
mark of a redirected request goes with its context only if the request is held
again.  Otherwise it stays, and whatever is next announced under the id of that
request is taken for the replay.
-/

namespace Interception

namespace Session

variable {s : Session} {history : List Stimulus} {id : RequestId} {marked : Nat}
  {context : ContextId}

/-- That the request was redirected in a run, for the last time at `marked`,
that nothing ended the wait for it since, and that the exchange which was
redirected had been issued by the context or stood below it as its tab. -/
def ExpectsFrom (s : Session) (context : ContextId) (history : List Stimulus)
    (id : RequestId) (marked : Nat) : Prop :=
  ∃ past p since,
    history = past ++ .command marked (.continueRequest p) :: since ∧
    (s.run past).redirected? (.command marked (.continueRequest p)) = some id ∧
    ((s.run past).after (.command marked (.continueRequest p))).quiet id since ∧
    ((s.run past).suspensions.live.get? id).any (endsWith context)

theorem ExpectsFrom.expects (h : s.ExpectsFrom context history id marked) :
    s.Expects history id marked := by
  obtain ⟨past, p, since, split, redirected, quiet, -⟩ := h
  exact ⟨past, p, since, split, redirected, quiet⟩

private theorem mark?_contextDestroyed (s : Session) (context : ContextId)
    (id : RequestId) :
    (s.contextDestroyed context).mark? id =
      if (s.suspensions.live.get? id).any (endsWith context) then none
      else s.mark? id :=
  (s.teardown_contextDestroyed context).marks id

private theorem absorptions_le_of_unmarked (sound : s.Sound)
    (unmarked : s.mark? id = none) (later : List Stimulus) :
    (s.absorptions later).count id ≤ (s.redirections later).count id := by
  have balance := balance_run sound later id
  rw [unmarked] at balance
  exact Nat.le_trans (Nat.le_add_right _ _) balance

/--
When a context is given up, the mark of a request goes if the request is held
there, and then later announcements under its id are absorbed only after further
redirects.  All other marks stay.  So the mark of a request that was redirected
while the context held it goes with the context if and only if the request is
held there again; otherwise the next announcement under its id is absorbed,
unless the mark is too old by then.
-/
theorem mark_goes_iff_held_again (config : Config) (ids : IdSource)
    (before : List Stimulus) (context : ContextId) (id : RequestId) :
    let s := (start config ids).run before
    let s' := s.contextDestroyed context
    let heldThere := (s.suspensions.live.get? id).any (endsWith context)
    (heldThere → s'.mark? id = none ∧
      ∀ later, (s'.absorptions later).count id ≤
        (s'.redirections later).count id) ∧
    (¬ heldThere → s'.mark? id = s.mark? id) ∧
    ∀ marked, (start config ids).ExpectsFrom context before id marked →
      Within config.redirectLifetime before →
      (s'.mark? id = none ↔ heldThere) ∧
      ∀ now n request, s'.transport.request? n.request = some request →
      request.id = id →
        n.kind = .beforeRequestSent → now - marked < config.redirectLifetime →
        (s'.absorbed? (.notification now n) = some id ↔ ¬ heldThere) := by
  intro s s' heldThere
  have fresh := Sound.start config ids
  have sound : s'.Sound := (fresh.run before).after (.contextDestroyed context)
  have lifetime : s'.redirects.lifetime = config.redirectLifetime :=
    (lifetime_after (fresh.run before) (.contextDestroyed context)).trans
      (lifetime_run fresh before)
  have mark : s'.mark? id = if heldThere then none else s.mark? id :=
    s.mark?_contextDestroyed context id
  refine ⟨fun held => ?_, fun gone => by rw [mark, if_neg gone],
    fun marked expects within => ?_⟩
  · rw [if_pos held] at mark
    exact ⟨mark, absorptions_le_of_unmarked sound mark⟩
  · have present : s.mark? id = some marked :=
      mark?_of_expects fresh within expects.expects
    have remains : s'.mark? id = none ↔ heldThere := by
      rw [mark, present]
      by_cases held : heldThere <;> simp [held]
    refine ⟨remains, fun now n request found same kind young => ?_⟩
    subst same
    rw [absorbed?_eq_some_iff now found, lifetime, ← remains, mark]
    by_cases held : heldThere
    · simp [held]
    · simp [held, kind, present, young]

def sentElsewhere : List Stimulus :=
  [.tabAdded "tab",
    .subscribe [.beforeRequestSent, .responseStarted] none,
    .command 0 (.addIntercept
      { phases := [.beforeRequestSent, .responseStarted], contexts := none,
        urlPatterns := none }),
    .requestAdded { id := "r", url := "http://a/", context := some "tab" },
    .notification 1 { kind := .beforeRequestSent, request := ⟨0⟩ },
    .command 2 (.continueRequest sendElsewhere)]

theorem mark_goes_iff_held_again_response :
    let before :=
      sentElsewhere ++ [.responseAdded { url := "http://b/", status := 200 },
      .notification 3 { kind := .responseStarted, request := ⟨0⟩,
                        response := some ⟨0⟩ }]
    let s := (start {} (.start 0)).run before
    let s' := s.contextDestroyed "tab"
    (start {} (.start 0)).ExpectsFrom "tab" before "r" 2 ∧ Within 30000 before ∧
      s.mark? "r" = some 2 ∧ s'.mark? "r" = none ∧
      s'.absorbed?
        (.notification 4 { kind := .beforeRequestSent, request := ⟨0⟩ }) ≠
          some "r" := by
  intro before s s'
  -- The response is held as well, so that the tab has the request again.
  have within : Within 30000 before := by
    unfold Within
    decide
  have expects : (start {} (.start 0)).ExpectsFrom "tab" before "r" 2 :=
    ⟨before.take 5, sendElsewhere, before.drop 6, rfl, rfl, rfl, rfl⟩
  obtain ⟨-, -, waits⟩ :=
    mark_goes_iff_held_again {} (.start 0) before "tab" "r"
  obtain ⟨goes, absorbs⟩ := waits 2 expects within
  refine ⟨expects, within, rfl, goes.2 rfl, fun absorbed => ?_⟩
  exact (absorbs 4 _ _ rfl rfl rfl (by decide)).1 absorbed rfl

/-- If it is not held again, it is still marked when the tab is gone.  A request
of another tab that is announced under its id is then absorbed, although it was
never redirected. -/
theorem mark_outlives_tab :
    let s := (start {} (.start 0)).run (sentElsewhere ++
      [.contextRemoved "tab", .contextDestroyed "tab", .tabAdded "other",
        .requestAdded { id := "r", url := "http://a/",
                        context := some "other" }])
    let n : Notification := { kind := .beforeRequestSent, request := ⟨1⟩ }
    (start {} (.start 0)).ExpectsFrom "tab" sentElsewhere "r" 2 ∧
      s.contexts.get? "tab" = none ∧
      s.mark? "r" = some 2 ∧ s.absorbed? (.notification 3 n) = some "r" ∧
      (s.process 3 n).1 = none :=
  ⟨⟨sentElsewhere.take 5, sendElsewhere, [], rfl, rfl, rfl, rfl⟩,
    rfl, rfl, rfl, rfl⟩

end Session

end Interception
