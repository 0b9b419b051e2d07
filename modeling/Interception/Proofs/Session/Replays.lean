import Interception.Proofs.Session.Reachable

/-!
# Replays of redirected requests

A request that was redirected is announced again, and this announcement is
absorbed.  A mark stands for the wait.  One kind of command sets it, and few
things take it away, so whether an announcement is absorbed can be read off what
happened to its request before.
-/

namespace Interception

/-! ## Marks -/

namespace Redirects

variable (r : Redirects) (now : Nat)

private theorem consume_fst (id : RequestId) :
    (r.consume now id).1 = (r.marks.get? id).any fun marked =>
      now - marked < r.lifetime := by
  simp only [consume, purge, Table.contains, Table.get?_filter,
    Option.isSome_filter]

theorem get?_consume (id key : RequestId) :
    (r.consume now id).2.marks.get? key =
      if key = id then none
      else (r.marks.get? key).filter fun marked =>
        now - marked < r.lifetime := by
  by_cases same : key = id
  · subst same
    simp [consume]
  · simp [consume, purge, Table.get?_erase_of_ne, Table.get?_filter, same]

theorem get?_mark (id key : RequestId) :
    (r.mark now id).marks.get? key =
      if key = id then some now else r.marks.get? key := by
  by_cases same : key = id
  · subst same
    simp [mark]
  · simp [mark, Table.get?_insert_of_ne, same]

theorem get?_foldl_forget (ids : List RequestId) (key : RequestId) :
    (ids.foldl forget r).marks.get? key =
      if key ∈ ids then none else r.marks.get? key := by
  induction ids generalizing r with
  | nil => rfl
  | cons id ids ih =>
      rw [List.foldl_cons, ih]
      by_cases same : key = id
      · subst same
        simp [forget]
      · simp [forget, Table.get?_erase_of_ne, same]

theorem lifetime_foldl_forget (ids : List RequestId) :
    (ids.foldl forget r).lifetime = r.lifetime := by
  induction ids generalizing r with
  | nil => rfl
  | cons id ids ih => rw [List.foldl_cons, ih, forget]

end Redirects

theorem Suspensions.mem_discardWhere (s : Suspensions) (p : Suspension → Bool)
    (id : RequestId) :
    id ∈ (s.discardWhere p).1 ↔ (s.live.get? id).any p := by
  rw [← Option.isSome_filter, ← Table.get?_filter s.live fun _ held => p held,
    Option.isSome_iff_ne_none, ne_eq, Table.get?_eq_none_iff, not_not]
  rfl

/-! ## Redirects -/

def Stimulus.time? : Stimulus → Option Nat
  | .notification now _ => some now
  | .command now _ => some now
  | _ => none

def Within (duration : Nat) (history : List Stimulus) : Prop :=
  ∀ earlier ∈ history.filterMap Stimulus.time?,
    ∀ later ∈ history.filterMap Stimulus.time?,
    later - earlier < duration

private theorem Within.of_append {duration : Nat} {first second : List Stimulus}
    (within : Within duration (first ++ second)) : Within duration first := by
  intro earlier mem later mem'
  rw [Within, List.filterMap_append] at within
  exact within earlier (List.mem_append_left _ mem) later
    (List.mem_append_left _ mem')

namespace Session

variable {s : Session} {stimulus : Stimulus} {id : RequestId} {marked : Nat}

/-- The request that a stimulus redirects: a command asks for another URL and is
carried out. -/
def redirected? (s : Session) : Stimulus → Option RequestId
  | .command now (.continueRequest p) =>
    if p.url.isSome &&
      ((Engine.execute now (.continueRequest p)).outcome s).1.isOk then
      some p.request
    else none
  | _ => none

/-- Whether a stimulus ends the wait for a redirected request: it is announced,
it failed, or its exchange is closed or goes with a context. -/
def endsWait (s : Session) (id : RequestId) : Stimulus → Bool
  | .notification _ n =>
    (n.kind = .beforeRequestSent || n.kind = .fetchError) &&
      (s.transport.request? n.request).any (·.id = id)
  | .exchangeClosed closed => closed = id
  | .contextDestroyed context =>
    (s.suspensions.live.get? id).any (endsWith context)
  | _ => false

def absorbed? (s : Session) : Stimulus → Option RequestId
  | .notification now n =>
    (s.transport.request? n.request).bind fun request =>
      if (s.absorbReplay now n.kind request.id).1 then some request.id else none
  | _ => none

/-! ## What a stimulus does to the marks -/

inductive RedirectStep (s : Session) (stimulus : Stimulus) (after : Redirects) :
    Prop
  | redirected (now : Nat) (p : ContinueRequest)
      (given : stimulus = .command now (.continueRequest p))
      (carriedOut : s.redirected? stimulus = some p.request)
      (result : after = s.redirects.mark now p.request)
  | announced (now : Nat) (n : Notification) (request : Request)
      (given : stimulus = .notification now n)
      (found : s.transport.request? n.request = some request)
      (kind : n.kind = .beforeRequestSent)
      (result : after = (s.redirects.consume now request.id).2)
  | forgotten (ids : List RequestId)
      (others : s.redirected? stimulus = none)
      (ended : ∀ id, s.endsWait id stimulus ↔ id ∈ ids)
      (result : after = ids.foldl Redirects.forget s.redirects)

private theorem notification_redirectStep (s : Session) (now : Nat)
    (n : Notification) :
    s.RedirectStep (.notification now n)
      (s.after (.notification now n)).redirects := by
  cases found : s.transport.request? n.request with
  | none =>
      refine .forgotten [] rfl (by simp [endsWait, found]) ?_
      rw [after_notification_of_none found]
      rfl
  | some request =>
      have result : (s.after (.notification now n)).redirects = _ :=
        (process_state now found).2.1
      rw [noted_eq] at result
      by_cases first : n.kind = .beforeRequestSent
      · exact .announced now n request rfl found first
          (by simpa [first] using result)
      · by_cases failed : n.kind = .fetchError
        · refine .forgotten [request.id] rfl (fun id => ?_)
            (by simpa [failed] using result)
          simp [endsWait, found, failed, eq_comm]
        · exact .forgotten [] rfl (by simp [endsWait, first, failed])
            (by simpa [first, failed] using result)

private theorem redirected?_command (s : Session) (now : Nat)
    {continuation : Continuation} {s' : Session}
    (done : (Engine.execute now continuation.command).run s = .ok .done s') :
    s.redirected? (.command now continuation.command) =
      if continuation.redirects then some continuation.target else none := by
  cases continuation with
  | request p =>
      have done : (Engine.execute now (.continueRequest p)).run s =
          .ok .done s' := done
      cases asked : p.url.isSome <;>
        simp [redirected?, Continuation.command, Engine.outcome, done,
          Continuation.redirects, Continuation.target, asked,
          Except.isOk, Except.toBool]
  | _ => rfl

private theorem command_redirectStep (sound : s.Sound) (now : Nat)
    (c : Command) :
    s.RedirectStep (.command now c) (s.after (.command now c)).redirects := by
  obtain ⟨agrees, failing⟩ | ⟨continuation, held, plan, rfl, -, target, planned,
    done, result⟩ :=
    after_command sound now c
  · refine .forgotten [] ?_ (by simp [endsWait]) agrees.redirects
    cases c with
    | continueRequest p =>
        obtain ⟨e, failed⟩ := failing (.request p) rfl
        simp [redirected?, Engine.outcome, failed, Except.isOk, Except.toBool]
    | _ => rfl
  · have plans := (Continuation.plan_signals planned).1
    have redirected := redirected?_command s now done
    rw [result]
    cases redirects : continuation.redirects with
    | false =>
        rw [redirects] at plans redirected
        refine .forgotten [] redirected (by simp [endsWait]) ?_
        simp [carryOut, plans]
    | true =>
        rw [redirects] at plans redirected
        cases continuation with
        | request p =>
            refine .redirected now p rfl redirected ?_
            simp [carryOut, plans, target, Continuation.target]
        | _ => cases redirects

theorem after_redirectStep (sound : s.Sound) (stimulus : Stimulus) :
    s.RedirectStep stimulus (s.after stimulus).redirects := by
  cases stimulus with
  | notification now n => exact s.notification_redirectStep now n
  | command now c => exact command_redirectStep sound now c
  | contextDestroyed context =>
      exact .forgotten _ rfl
        (fun id => (Suspensions.mem_discardWhere _ _ id).symm) rfl
  | exchangeClosed closed =>
      exact .forgotten [closed] rfl (by simp [endsWait, eq_comm]) rfl
  | requestAdded r => exact .forgotten [] rfl (by simp [endsWait]) rfl
  | responseAdded r => exact .forgotten [] rfl (by simp [endsWait]) rfl
  | promptAdded p => exact .forgotten [] rfl (by simp [endsWait]) rfl
  | requestSuspended ref => exact .forgotten [] rfl (by simp [endsWait]) rfl
  | _ =>
      exact .forgotten [] rfl (by simp [endsWait]) (after_aside rfl s).redirects

theorem lifetime_after (sound : s.Sound) (stimulus : Stimulus) :
    (s.after stimulus).redirects.lifetime = s.redirects.lifetime := by
  cases after_redirectStep sound stimulus with
  | redirected now p given carriedOut result =>
      rw [result]
      rfl
  | announced now n request given found kind result =>
      rw [result]
      rfl
  | forgotten ids others ended result =>
      rw [result, Redirects.lifetime_foldl_forget]

theorem lifetime_run (sound : s.Sound) (history : List Stimulus) :
    (s.run history).redirects.lifetime = s.redirects.lifetime :=
  run_eq_of_after (f := fun s => s.redirects.lifetime)
    (fun _ => lifetime_after) sound history

def mark? (s : Session) (id : RequestId) : Option Nat :=
  s.redirects.marks.get? id

inductive MarkStep (s : Session) (stimulus : Stimulus) (id : RequestId)
    (after : Option Nat) : Prop
  | set (now : Nat) (p : ContinueRequest)
      (given : stimulus = .command now (.continueRequest p))
      (redirected : s.redirected? stimulus = some id)
      (result : after = some now)
  | taken (other : s.redirected? stimulus ≠ some id)
      (ended : s.endsWait id stimulus)
      (result : after = none)
  | left (other : s.redirected? stimulus ≠ some id)
      (unended : s.endsWait id stimulus = false)
      (kept : ∀ marked, after = some marked → s.mark? id = some marked)
      (spared : ∀ marked, s.mark? id = some marked → after = some marked ∨
        ∃ now, stimulus.time? = some now ∧ s.redirects.lifetime ≤ now - marked)

theorem MarkStep.same {after : Option Nat}
    (other : s.redirected? stimulus ≠ some id)
    (unended : s.endsWait id stimulus = false) (result : after = s.mark? id) :
    s.MarkStep stimulus id after :=
  .left other unended (fun _ present => result ▸ present) fun _ present =>
    .inl (result ▸ present)

theorem after_markStep (sound : s.Sound) (stimulus : Stimulus)
    (id : RequestId) :
    s.MarkStep stimulus id ((s.after stimulus).mark? id) := by
  cases after_redirectStep sound stimulus with
  | redirected now p given carriedOut result =>
      have mark := Redirects.get?_mark s.redirects now p.request id
      rw [← result] at mark
      by_cases same : id = p.request
      · rw [if_pos same] at mark
        exact .set now p given (same ▸ carriedOut) mark
      · rw [if_neg same] at mark
        refine .same ?_ (given ▸ rfl) mark
        rw [carriedOut]
        exact fun collides => same (Option.some.inj collides).symm
  | announced now n request given found kind result =>
      subst given
      have mark := Redirects.get?_consume s.redirects now request.id id
      rw [← result] at mark
      by_cases same : id = request.id
      · rw [if_pos same] at mark
        exact .taken nofun (by simp [endsWait, kind, found, same]) mark
      · rw [if_neg same] at mark
        refine .left nofun (by simp [endsWait, found, Ne.symm same]) ?_ ?_
        · intro marked present
          exact (Option.filter_eq_some_iff.1 (mark.symm.trans present)).1
        · intro marked present
          -- Marks of other requests are looked at as well, and dropped when
          -- they are old.
          rcases Nat.lt_or_ge (now - marked) s.redirects.lifetime with
              fresh | old
          · exact .inl
              (mark.trans
                (Option.filter_eq_some_iff.2 ⟨present, by simpa using fresh⟩))
          · exact .inr ⟨now, rfl, old⟩
  | forgotten ids others ended result =>
      have mark := Redirects.get?_foldl_forget s.redirects ids id
      rw [← result] at mark
      have other : s.redirected? stimulus ≠ some id := by simp [others]
      by_cases mem : id ∈ ids
      · rw [if_pos mem] at mark
        exact .taken other ((ended id).2 mem) mark
      · rw [if_neg mem] at mark
        exact .same other
          (Bool.eq_false_iff.2 fun ends => mem ((ended id).1 ends)) mark

/-! ## Waits -/

def quiet (s : Session) (id : RequestId) (history : List Stimulus) : Bool :=
  (s.trace history).all fun (met, stimulus) =>
    met.redirected? stimulus ≠ some id && !met.endsWait id stimulus

private theorem quiet_cons (s : Session) (id : RequestId) (stimulus : Stimulus)
    (rest : List Stimulus) :
    s.quiet id (stimulus :: rest) ↔ (s.redirected? stimulus ≠ some id ∧
      s.endsWait id stimulus = false) ∧ (s.after stimulus).quiet id rest := by
  simp [quiet, trace]

/-- That the request was redirected in a run, for the last time at `marked`, and
that nothing ended the wait for it since. -/
def Expects (s : Session) (history : List Stimulus) (id : RequestId)
    (marked : Nat) : Prop :=
  ∃ past p since,
    history = past ++ .command marked (.continueRequest p) :: since ∧
    (s.run past).redirected? (.command marked (.continueRequest p)) = some id ∧
    ((s.run past).after (.command marked (.continueRequest p))).quiet id since

theorem Expects.cons {history : List Stimulus}
    (expects : (s.after stimulus).Expects history id marked) :
    s.Expects (stimulus :: history) id marked := by
  obtain ⟨past, p, since, rfl, redirected, quiet⟩ := expects
  exact ⟨stimulus :: past, p, since, rfl, redirected, quiet⟩

private theorem Expects.mem_times {history : List Stimulus}
    (expects : s.Expects history id marked) :
    marked ∈ history.filterMap Stimulus.time? := by
  obtain ⟨past, p, since, rfl, -, -⟩ := expects
  simp [Stimulus.time?]

theorem expects_of_mark? (sound : s.Sound) {history : List Stimulus}
    (present : (s.run history).mark? id = some marked) :
    (s.mark? id = some marked ∧ s.quiet id history) ∨
      s.Expects history id marked := by
  induction history generalizing s with
  | nil => exact .inl ⟨present, rfl⟩
  | cons stimulus history ih =>
      rcases ih (sound.after stimulus) present with ⟨before, quiet⟩ | expects
      · cases after_markStep sound stimulus id with
        | set now p given redirected result =>
            subst given
            obtain rfl : now = marked :=
              Option.some.inj (result.symm.trans before)
            exact .inr ⟨[], p, history, rfl, redirected, quiet⟩
        | taken other ended result => cases result.symm.trans before
        | left other unended kept spared =>
            exact .inl ⟨kept marked before,
              (quiet_cons ..).2 ⟨⟨other, unended⟩, quiet⟩⟩
      · exact .inr expects.cons

theorem mark?_of_quiet (sound : s.Sound) {history : List Stimulus}
    (present : s.mark? id = some marked) (quiet : s.quiet id history)

    (fresh : ∀ now ∈ history.filterMap Stimulus.time?, now - marked <
      s.redirects.lifetime) :
    (s.run history).mark? id = some marked := by
  induction history generalizing s with
  | nil => exact present
  | cons stimulus history ih =>
      obtain ⟨⟨other, unended⟩, quiet⟩ := (quiet_cons ..).1 quiet
      refine ih (sound.after stimulus) ?_ quiet fun now mem => ?_
      · cases after_markStep sound stimulus id with
        | set now p given redirected result => exact absurd redirected other
        | taken other ended result => simp [unended] at ended
        | left other unended kept spared =>
            rcases spared marked present with still | ⟨now, time, old⟩
            · exact still
            · have young := fresh now (by simp [time])
              omega
      · rw [lifetime_after sound]
        obtain ⟨later, present, time⟩ := List.mem_filterMap.1 mem
        exact fresh now
          (List.mem_filterMap.2 ⟨later, List.mem_cons_of_mem _ present, time⟩)

theorem mark?_of_expects (sound : s.Sound) {history : List Stimulus}
    (within : Within s.redirects.lifetime history)
    (expects : s.Expects history id marked) :
    (s.run history).mark? id = some marked := by
  have time := expects.mem_times
  obtain ⟨past, p, since, rfl, redirected, quiet⟩ := expects
  have soundPast := sound.run past
  have set :
      ((s.run past).after (.command marked (.continueRequest p))).mark? id =
        some marked := by
    cases after_markStep soundPast (.command marked (.continueRequest p))
      id with
    | set now p given redirected result =>
        cases given
        exact result
    | taken other => exact absurd redirected other
    | left other => exact absurd redirected other
  rw [run_append, run_cons]
  refine mark?_of_quiet (soundPast.after _) set quiet fun now mem => ?_
  rw [lifetime_after soundPast, lifetime_run sound]
  refine within marked time now ?_
  obtain ⟨later, present, read⟩ := List.mem_filterMap.1 mem
  exact List.mem_filterMap.2 ⟨later, by simp [present], read⟩

/-! ## Replays -/

private theorem absorbReplay_fst (s : Session) (now : Nat) (kind : EventKind)
    (id : RequestId) :
    (s.absorbReplay now kind id).1 = true ↔ kind = .beforeRequestSent ∧
      ∃ marked, s.mark? id = some marked ∧
      now - marked < s.redirects.lifetime := by
  by_cases first : kind = .beforeRequestSent
  · simp [absorbReplay, first, Redirects.consume_fst, mark?, Option.any_eq_true]
  · simp [absorbReplay, first]

private theorem absorbed?_notification {n : Notification} {request : Request}
    (now : Nat) (found : s.transport.request? n.request = some request) :
    s.absorbed? (.notification now n) =
      if (s.absorbReplay now n.kind request.id).1 then some request.id
      else none := by
  simp only [absorbed?, found, Option.bind_some]

theorem absorbed?_eq_some_iff {n : Notification} {request : Request} (now : Nat)
    (found : s.transport.request? n.request = some request) :
    s.absorbed? (.notification now n) = some request.id ↔
      n.kind = .beforeRequestSent ∧
      ∃ marked, s.mark? request.id = some marked ∧
      now - marked < s.redirects.lifetime := by
  rw [absorbed?_notification now found, Option.ite_none_right_eq_some,
    absorbReplay_fst]
  exact and_iff_left rfl

theorem process_of_absorbed {now : Nat} {n : Notification} {request : Request}
    (found : s.transport.request? n.request = some request)
    (absorbed : s.absorbed? (.notification now n) = some request.id) :
    n.kind = .beforeRequestSent ∧ s.process now n =
      (none,
        { s with redirects := (s.redirects.consume now request.id).2 }) := by
  rw [absorbed?_notification now found,
    Option.ite_none_right_eq_some] at absorbed
  have first := ((absorbReplay_fst ..).1 absorbed.1).1
  refine ⟨first, ?_⟩
  rw [process_eq found, if_pos absorbed.1, absorbReplay, if_pos first]

theorem process_of_unabsorbed {now : Nat} {n : Notification} {request : Request}
    {top : Option ContextId} {detail : Event.Detail}
    (found : s.transport.request? n.request = some request)
    (unabsorbed : s.absorbed? (.notification now n) = none)
    (context : s.topContext? request = some top)
    (heard : s.subscriptions.hasListener n.kind top)
    (detailed : n.detail s.transport request = .ok detail) :
    (s.process now n).1.isSome := by
  cases process_processed now found with
  | replayed marked untold result =>
      rw [absorbed?_notification now found, if_pos marked] at unabsorbed
      cases unabsorbed
  | dropped unmarked unheard untold warnings result =>
      obtain ⟨cause, failed⟩ := unheard top context heard
      cases detailed.symm.trans failed
  | passed _ _ _ _ _ _ told => rw [told, Option.isSome_some]
  | held _ _ _ _ _ _ _ _ told => rw [told, Option.isSome_some]

theorem endsWait_of_absorbed? (absorbed : s.absorbed? stimulus = some id) :
    s.endsWait id stimulus ∧ (s.mark? id).isSome := by
  cases stimulus with
  | notification now n =>
      cases found : s.transport.request? n.request with
      | none => simp [absorbed?, found] at absorbed
      | some request =>
          rw [absorbed?_notification now found, Option.ite_none_right_eq_some,
            Option.some.injEq, absorbReplay_fst] at absorbed
          obtain ⟨⟨kind, marked, present, -⟩, same⟩ := absorbed
          simp [endsWait, kind, found, ← same, present]
  | _ => cases absorbed

def absorptions (s : Session) (history : List Stimulus) : List RequestId :=
  (s.trace history).filterMap fun (met, stimulus) => met.absorbed? stimulus

def redirections (s : Session) (history : List Stimulus) : List RequestId :=
  (s.trace history).filterMap fun (met, stimulus) => met.redirected? stimulus

private theorem count_filterMap_cons {α β : Type} [DecidableEq β]
    (f : α → Option β) (a : α) (l : List α) (b : β) :
    ((a :: l).filterMap f).count b =
      (if f a = some b then 1 else 0) + (l.filterMap f).count b := by
  cases result : f a with
  | none => simp [result]
  | some c =>
      by_cases same : c = b <;> simp [result, same, Nat.add_comm]

/-- A replay uses up a mark, and only a redirect makes one. -/
theorem balance_after (sound : s.Sound) (stimulus : Stimulus) (id : RequestId) :
    (if s.absorbed? stimulus = some id then 1 else 0) +
        ((s.after stimulus).mark? id).isSome.toNat ≤
      (if s.redirected? stimulus = some id then 1 else 0) +
        (s.mark? id).isSome.toNat := by
  cases after_markStep sound stimulus id with
  | set now p given redirected result =>
      subst given
      simp [absorbed?, redirected, result]
  | taken other ended result =>
      by_cases absorbed : s.absorbed? stimulus = some id
      · simp [absorbed, result, (endsWait_of_absorbed? absorbed).2]
      · simp [absorbed, result]
  | left other unended kept spared =>
      have unabsorbed : s.absorbed? stimulus ≠ some id := by
        intro absorbed
        have ended := (endsWait_of_absorbed? absorbed).1
        simp [unended] at ended
      cases present : (s.after stimulus).mark? id with
      | none => simp [unabsorbed]
      | some marked => simp [unabsorbed, kept marked present]

theorem balance_run (sound : s.Sound) (history : List Stimulus)
    (id : RequestId) :
    (s.absorptions history).count id + ((s.run history).mark? id).isSome.toNat ≤
      (s.redirections history).count id + (s.mark? id).isSome.toNat := by
  induction history generalizing s with
  | nil => simp [absorptions, redirections, trace, run]
  | cons stimulus history ih =>
      have step := balance_after sound stimulus id
      have rest := ih (sound.after stimulus)
      simp only [absorptions, redirections, trace, count_filterMap_cons,
        run_cons] at rest ⊢
      omega

theorem absorptions_le_redirections (config : Config) (ids : IdSource)
    (history : List Stimulus) (id : RequestId) :
    ((start config ids).absorptions history).count id ≤
      ((start config ids).redirections history).count id := by
  have balance := balance_run (Sound.start config ids) history id
  have unmarked : (start config ids).mark? id = none := rfl
  rw [unmarked] at balance
  exact Nat.le_trans (Nat.le_add_right _ _) balance

theorem expects_of_start {config : Config} {ids : IdSource}
    {history : List Stimulus}
    (present : ((start config ids).run history).mark? id = some marked) :
    (start config ids).Expects history id marked := by
  rcases expects_of_mark? (Sound.start config ids) present with
      ⟨before, -⟩ | expects
  · cases before
  · exact expects

/--
An announcement is absorbed as a replay if and only if its request was
redirected and nothing ended the wait for it since, in runs that take less time
than a mark lasts.  In any run, what is absorbed is an announcement, its request
was redirected less than that time ago, and no request has more replays absorbed
than it was redirected.  What is absorbed is told to nobody; anything else is
told where somebody listens and no part is missing.
-/
theorem replay_absorbed_iff_redirected (config : Config) (ids : IdSource)
    (before : List Stimulus) (now : Nat) (n : Notification) (request : Request)

    (found : ((start config ids).run before).transport.request? n.request =
      some request) :
    let s := (start config ids).run before
    let history := before ++ [.notification now n]
    (Within config.redirectLifetime history → n.kind = .beforeRequestSent →
        (s.absorbed? (.notification now n) = some request.id ↔
          ∃ marked, (start config ids).Expects before request.id marked)) ∧
      (s.absorbed? (.notification now n) = some request.id →
        n.kind = .beforeRequestSent ∧
        (∃ marked, now - marked < config.redirectLifetime ∧
          (start config ids).Expects before request.id marked) ∧
        s.process now n =
          (none,
            { s with redirects := (s.redirects.consume now request.id).2 })) ∧
      (s.absorbed? (.notification now n) = none → ∀ top detail,
        s.topContext? request = some top →
        s.subscriptions.hasListener n.kind top →
        n.detail s.transport request = .ok detail →
        (s.process now n).1.isSome) ∧
      (config.redirectLifetime = 0 → s.absorbed? (.notification now n) = none) ∧
      ∀ id, ((start config ids).absorptions history).count id ≤
        ((start config ids).redirections history).count id := by
  intro s history
  have sound := Sound.start config ids
  have lifetime : s.redirects.lifetime = config.redirectLifetime :=
    lifetime_run sound before
  have absorbed_iff := absorbed?_eq_some_iff (s := s) now found
  rw [lifetime] at absorbed_iff
  have expected (absorbed : s.absorbed? (.notification now n) =
      some request.id) :
      ∃ marked, now - marked < config.redirectLifetime ∧
        (start config ids).Expects before request.id marked := by
    obtain ⟨-, marked, present, fresh⟩ := absorbed_iff.1 absorbed
    exact ⟨marked, fresh, expects_of_start present⟩
  refine ⟨fun within first => ⟨fun absorbed => ?_, fun ⟨marked, expects⟩ => ?_⟩,
    fun absorbed => ?_, fun unabsorbed top detail => ?_,
    fun none => ?_, fun id => ?_⟩
  · obtain ⟨marked, -, expects⟩ := expected absorbed
    exact ⟨marked, expects⟩
  · have present := mark?_of_expects sound within.of_append expects
    have fresh : now - marked < config.redirectLifetime := by
      refine within marked ?_ now (by simp [history, Stimulus.time?])
      rw [List.filterMap_append]
      exact List.mem_append_left _ expects.mem_times
    exact absorbed_iff.2 ⟨first, marked, present, fresh⟩
  · obtain ⟨first, processed⟩ := process_of_absorbed found absorbed
    exact ⟨first, expected absorbed, processed⟩
  · exact process_of_unabsorbed found unabsorbed
  · rw [absorbed?_notification now found]
    refine if_neg fun absorbed => ?_
    obtain ⟨-, marked, -, fresh⟩ := (absorbReplay_fst ..).1 absorbed
    rw [lifetime, none] at fresh
    exact absurd fresh (Nat.not_lt_zero _)
  · exact absorptions_le_redirections config ids history id

def sendElsewhere : ContinueRequest where
  request := "r"
  url := some "http://b/"
  method := none
  headers := none
  cookies := none
  body := none

def redirectRun : List Stimulus :=
  [.subscribe [.beforeRequestSent] none,
    .command 0 (.addIntercept
      { phases := [.beforeRequestSent], contexts := none,
        urlPatterns := none }),
    .requestAdded { id := "r", url := "http://a/" },
    .notification 1 { kind := .beforeRequestSent, request := ⟨0⟩ },
    .command 2 (.continueRequest sendElsewhere),
    .requestAdded { id := "q", url := "http://a/" },
    .notification 3 { kind := .beforeRequestSent, request := ⟨1⟩ }]

theorem replay_absorbed_iff_redirected_once :
    let n : Notification := { kind := .beforeRequestSent, request := ⟨0⟩ }
    let replayed := redirectRun ++ [.notification 4 n]
    Within 30000 replayed ∧
      (((start {} (.start 0)).run redirectRun).process 4 n).1 = none ∧
      (((start {} (.start 0)).run replayed).process 5 n).1.isSome := by
  intro n replayed
  have within : Within 30000 replayed := by
    unfold Within
    decide
  have expects : (start {} (.start 0)).Expects redirectRun "r" 2 :=
    ⟨redirectRun.take 4, sendElsewhere, redirectRun.drop 5, rfl, rfl, rfl⟩
  obtain ⟨absorbs, untold, -⟩ :=
    replay_absorbed_iff_redirected {} (.start 0) redirectRun 4 n _ rfl
  obtain ⟨-, -, told, -⟩ :=
    replay_absorbed_iff_redirected {} (.start 0) replayed 5 n _ rfl
  have absorbed := (absorbs within rfl).2 ⟨2, expects⟩
  refine ⟨within, ?_, told rfl _ _ rfl rfl rfl⟩
  rw [(untold absorbed).2.2]

end Session

end Interception
