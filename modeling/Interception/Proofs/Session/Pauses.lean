import Interception.Proofs.Session.Reachable

/-!
# Requests that are paused

The transport knows which requests are paused, the table why: an exchange is
held before its request is sent or when its response has started.  As long as
nothing happens to an exchange while it is held, except that commands release
it, the two agree.
-/

namespace Interception

/-! ## What calls do to a request -/

namespace Request

private theorem receive_suspended_of_isEdit {call : RequestCall}
    (edit : call.isEdit) (r : Request) :
    (r.receive call).suspended = r.suspended := by
  cases call with
  | suspend => cases edit
  | resume => cases edit
  | abort => cases edit
  | _ => rfl

private theorem foldl_receive_suspended {calls : List RequestCall}
    (edits : ∀ call ∈ calls, call.isEdit) (r : Request) :
    (calls.foldl receive r).suspended = r.suspended := by
  induction calls generalizing r with
  | nil => rfl
  | cons call calls ih =>
      rw [List.foldl_cons,
        ih fun other mem => edits other (List.mem_cons_of_mem _ mem)]
      exact receive_suspended_of_isEdit (edits call List.mem_cons_self) r

@[simp] theorem foldl_receive_id (calls : List RequestCall) (r : Request) :
    (calls.foldl receive r).id = r.id := by
  induction calls generalizing r with
  | nil => rfl
  | cons call calls ih => rw [List.foldl_cons, ih, receive_id]

end Request

theorem Continuation.Orderly.suspended {c : Continuation} {held : Suspension}
    {calls : List Call} (orderly : c.Orderly held calls) (request : Request) :
    ((calls.filterMap (Call.toRequest? held.request)).foldl Request.receive
      request).suspended =
      (decide (held.phase = .authRequired) && request.suspended) := by
  obtain ⟨edits, closing, rfl, edit, letsGo⟩ := orderly
  have changes : ∀ call ∈ edits.filterMap (Call.toRequest? held.request),
      call.isEdit := by
    intro call mem
    obtain ⟨made, present, asked⟩ := List.mem_filterMap.1 mem
    have edits := edit made present
    cases made with
    | request ref other =>
        simp only [Call.toRequest?, Option.ite_none_right_eq_some,
          Option.some.injEq] at asked
        exact asked.2 ▸ edits.2
    | _ => cases asked
  rw [List.filterMap_append, List.foldl_append]
  cases stage : held.stage with
  | auth response prompt =>
      simp only [LetsGo, stage] at letsGo
      obtain ⟨answer, rfl⟩ := letsGo
      have phase : held.phase = .authRequired := by
        simp [Suspension.phase, stage, Stage.phase]
      exact (Request.foldl_receive_suspended changes request).trans
        (by simp [phase])
  | _ =>
      simp only [LetsGo, stage] at letsGo
      subst letsGo
      cases failing : c.isFailure <;>
        simp [Call.toRequest?, Suspension.phase, stage, Stage.phase,
          Request.receive, Request.resume, Request.abort, Request.record]

theorem Continuation.Orderly.toRequest? {c : Continuation} {held : Suspension}
    {calls : List Call} (orderly : c.Orderly held calls) {ref : RequestRef}
    (other : ref ≠ held.request) :
    calls.filterMap (Call.toRequest? ref) = [] := by
  refine List.filterMap_eq_nil_iff.2 fun call mem => ?_
  cases call with
  | request asked made =>
      have same := (orderly.request_eq mem).1
      exact if_neg fun collides => other (collides.symm.trans same)
  | _ => rfl

private theorem Notification.forwarding_toRequest? (n : Notification)
    (forwardAuth : Bool) (ref : RequestRef) :
    (n.forwarding forwardAuth).filterMap (Call.toRequest? ref) = [] := by
  cases kind : n.kind <;> cases prompt : n.prompt <;> cases forwardAuth <;>
    simp [forwarding, kind, prompt, Call.toRequest?]

/-! ## What the table says -/

namespace Suspensions

variable {s : Suspensions} {id : RequestId}

def pauses (s : Suspensions) (id : RequestId) : Bool :=
  (s.live.get? id).any (·.phase ≠ .authRequired)

theorem pauses_iff (s : Suspensions) (id : RequestId) :
    s.pauses id ↔ s.phaseOf? id = some .beforeRequestSent ∨
      s.phaseOf? id = some .responseStarted := by
  cases found : s.live.get? id with
  | none => simp [pauses, phaseOf?, found]
  | some held =>
      cases phase : held.phase <;> simp [pauses, phaseOf?, found, phase]

private theorem pauses_of_not_contains (absent : s.live.contains id = false) :
    s.pauses id = false := by
  have missing : s.live.get? id = none := by simpa [Table.contains] using absent
  simp [pauses, missing]

theorem pauses_hold (s : Suspensions) (new : Suspension) (id : RequestId) :
    (s.hold new).2.pauses id =
      if id = new.requestId then decide (new.phase ≠ .authRequired)
      else s.pauses id := by
  by_cases same : id = new.requestId
  · subst same
    rw [pauses, get?_hold, Table.get?_insert_self, if_pos rfl]
    rfl
  · rw [pauses, get?_hold, Table.get?_insert_of_ne _ _ same, discard_live,
      Table.get?_erase_of_ne _ same, if_neg same, pauses]

private theorem discard_of_not_contains (absent : s.live.contains id = false) :
    (s.discard id).2 = s := by
  have missing : s.live.get? id = none := by simpa [Table.contains] using absent
  simp [discard, missing]

private theorem discardWhere_of_none {p : Suspension → Bool}
    (none : s.live.values.all fun held => !p held) :
    (s.discardWhere p).2 = s := by
  have ids : (s.live.filter fun _ held => p held).keys = [] := by
    rw [Table.keys, List.map_eq_nil_iff]
    refine List.filter_eq_nil_iff.2 fun e mem => ?_
    have unaffected := List.all_eq_true.1 none e.2 (List.mem_map_of_mem mem)
    simpa using unaffected
  rw [discardWhere, ids]
  rfl

end Suspensions

/-! ## Calm runs -/

namespace Session

variable {s : Session} {stimulus : Stimulus}

/-- Whether a stimulus leaves exchanges that are held to the commands: nothing
is reported about them but that their response is complete, and nothing tears
them down.  Each id belongs to one request, which only the engine pauses. -/
def admits (s : Session) : Stimulus → Bool
  | .notification _ n =>
    n.kind = .responseCompleted ||
      (s.transport.request? n.request).all fun r =>
        !s.suspensions.live.contains r.id
  | .contextDestroyed id =>
    s.suspensions.live.values.all fun held => !endsWith id held
  | .exchangeClosed id => !s.suspensions.live.contains id
  | .requestAdded r =>
    !r.suspended && s.transport.requests.all fun other => other.id ≠ r.id
  | .requestSuspended _ => false
  | _ => true

def calm (s : Session) (history : List Stimulus) : Bool :=
  (s.trace history).all fun (met, stimulus) => met.admits stimulus

private theorem calm_append (s : Session) (first second : List Stimulus) :
    s.calm (first ++ second) = (s.calm first && (s.run first).calm second) := by
  rw [calm, trace_append, List.all_append]
  rfl

structure Matched (s : Session) : Prop where
  single : ∀ ref ref' request request',
    s.transport.request? ref = some request →
    s.transport.request? ref' = some request' →
    request.id = request'.id → ref = ref'
  paused : ∀ ref request, s.transport.request? ref = some request →
    request.suspended = s.suspensions.pauses request.id

namespace Matched

theorem start (config : Config) (ids : IdSource) :
    (Session.start config ids).Matched where
  single := by simp [Session.start, Transport.request?]
  paused := by simp [Session.start, Transport.request?]

theorem performAll (matched : s.Matched) {s' : Session} {cs : List Call}
    (transport : s'.transport = s.transport.performAll cs)

    (paused : ∀ ref request, s.transport.request? ref = some request →
      ((cs.filterMap (Call.toRequest? ref)).foldl Request.receive
        request).suspended = s'.suspensions.pauses request.id) :
    s'.Matched := by
  constructor
  · intro ref ref' request request' found found' same
    rw [transport, Transport.request?_performAll] at found found'
    obtain ⟨before, known, rfl⟩ := Option.map_eq_some_iff.1 found
    obtain ⟨before', known', rfl⟩ := Option.map_eq_some_iff.1 found'
    rw [Request.foldl_receive_id, Request.foldl_receive_id] at same
    exact matched.single ref ref' before before' known known' same
  · intro ref request found
    rw [transport, Transport.request?_performAll] at found
    obtain ⟨before, known, rfl⟩ := Option.map_eq_some_iff.1 found
    rw [Request.foldl_receive_id]
    exact paused ref before known

theorem of_eq (matched : s.Matched) {s' : Session}
    (requests : s'.transport.requests = s.transport.requests)
    (suspensions : s'.suspensions = s.suspensions) : s'.Matched := by
  have same (ref : RequestRef) :
      s'.transport.request? ref = s.transport.request? ref := by
    rw [Transport.request?, requests, Transport.request?]
  refine ⟨fun ref ref' request request' found found' => ?_,
    fun ref request found => ?_⟩
  · exact matched.single ref ref' request request' (same ref ▸ found)
      (same ref' ▸ found')
  · rw [suspensions]
    exact matched.paused ref request (same ref ▸ found)

theorem of_agrees (matched : s.Matched) {s' : Session} (agrees : s.Agrees s') :
    s'.Matched :=
  matched.of_eq (by rw [agrees.transport]) agrees.suspensions

theorem notification (matched : s.Matched) (now : Nat) {n : Notification}
    (admitted : s.admits (.notification now n)) :
    (s.after (.notification now n)).Matched := by
  cases found : s.transport.request? n.request with
  | none =>
      rw [after_notification_of_none found]
      exact matched
  | some request =>
      have unheld (held : n.kind ≠ .responseCompleted) :
          s.suspensions.live.contains request.id = false := by
        simpa [admits, held, found] using admitted
      obtain ⟨-, -, ⟨suspensions, transport⟩ |
        ⟨stage, intercepts, top, staged, suspensions,
        transport⟩⟩ := process_state now found
      · have kept : (s.noted now n.kind request.id).suspensions =
            s.suspensions := by
          rw [noted_eq]
          dsimp only
          split
          · exact Suspensions.discard_of_not_contains (unheld (by simp [*]))
          · rfl
        refine matched.performAll transport fun ref other known => ?_
        rw [Notification.forwarding_toRequest?, after, suspensions, kept]
        exact matched.paused ref other known
      · have inPhase : n.kind ≠ .responseCompleted := by
          intro complete
          have phased := Notification.stage?_phase staged
          rw [complete] at phased
          cases phased
        have resting := matched.paused n.request request found
        rw [Suspensions.pauses_of_not_contains (unheld inPhase)] at resting
        refine matched.performAll transport fun ref other known => ?_
        rw [after, suspensions, Suspensions.pauses_hold,
          Notification.suspension_requestId]
        by_cases same : ref = n.request
        · subst same
          obtain rfl : other = request :=
            Option.some.inj (known.symm.trans found)
          rw [if_pos rfl]
          cases stage with
          | auth response prompt => exact resting
          | _ =>
              simp [Stage.pausing, Call.toRequest?, Request.receive,
                Request.suspend, resting, Request.record,
                Notification.suspension, Suspension.phase, Stage.phase]
        · have ne : other.id ≠ request.id := fun collides =>
            same
              (matched.single ref n.request other request known found collides)
          have uncalled : (stage.pausing n.request).filterMap
              (Call.toRequest? ref) = [] := by
            cases stage <;> simp [Stage.pausing, Call.toRequest?, Ne.symm same]
          rw [uncalled, if_neg ne]
          exact matched.paused ref other known

theorem command (matched : s.Matched) (sound : s.Sound) (now : Nat)
    (c : Command) :
    (s.after (.command now c)).Matched := by
  obtain ⟨agrees, -⟩ | ⟨continuation, held, plan, -, live, target,
    planned, -, result⟩ :=
    after_command sound now c
  · exact matched.of_agrees agrees
  · obtain ⟨request, found, id, -⟩ := sound.keeps _ held live
    have orderly := continuation.plan_calls (sound.keeps _ held live) planned
    have left (key : RequestId) :
        (s.carryOut now held plan).suspensions.pauses key =
          if key = held.requestId then false else s.suspensions.pauses key := by
      by_cases same : key = held.requestId
      · simp [carryOut, Suspensions.pauses, same]
      · simp [carryOut, Suspensions.pauses, same, Table.get?_erase_of_ne]
    rw [result]
    refine matched.performAll rfl fun ref other known => ?_
    rw [left]
    by_cases same : ref = held.request
    · subst same
      obtain rfl : other = request := Option.some.inj (known.symm.trans found)
      have before := matched.paused held.request other known
      rw [id, Suspensions.pauses, target, live] at before
      rw [orderly.suspended, if_pos id, before]
      simp
    · have ne : other.id ≠ held.requestId := fun collides =>
        same
          (matched.single ref held.request other request known found
            (collides.trans id.symm))
      rw [orderly.toRequest? same, if_neg ne]
      exact matched.paused ref other known

theorem requestAdded (matched : s.Matched) (sound : s.Sound) {r : Request}
    (admitted : s.admits (.requestAdded r)) :
    (s.after (.requestAdded r)).Matched := by
  obtain ⟨fresh, others⟩ :
      r.suspended = false ∧ ∀ other ∈ s.transport.requests,
        other.id ≠ r.id := by
    simpa [admits] using admitted
  have other_id (ref : RequestRef) (request : Request)
      (found : s.transport.request? ref = some request) : request.id ≠ r.id :=
    others request (List.mem_of_getElem? found)
  have known (ref : RequestRef) (request : Request)
      (found : (s.after (.requestAdded r)).transport.request? ref =
        some request) :
      s.transport.request? ref = some request ∨
        ref.index = s.transport.requests.length ∧ request = r := by
    have present : (s.transport.requests ++ [r])[ref.index]? = some request :=
      found
    rcases Nat.lt_or_ge ref.index s.transport.requests.length with old | new
    · rw [List.getElem?_append_left old] at present
      exact .inl present
    · rw [List.getElem?_append_right new, List.getElem?_singleton] at present
      split at present
      · exact .inr ⟨by omega, (Option.some.inj present).symm⟩
      · cases present
  constructor
  · intro ref ref' request request' found found' same
    rcases known ref request found with old | ⟨new, rfl⟩ <;>
      rcases known ref' request' found' with old' | ⟨new', rfl⟩
    · exact matched.single ref ref' request request' old old' same
    · exact absurd same (other_id ref request old)
    · exact absurd same.symm (other_id ref' request' old')
    · cases ref
      cases ref'
      simp_all
  · intro ref request found
    rcases known ref request found with old | ⟨-, rfl⟩
    · exact matched.paused ref request old
    · rw [fresh]
      -- An entry would be for a request of that id that is there already.
      cases live : s.suspensions.live.get? request.id with
      | none => simp [after, Suspensions.pauses, live]
      | some held =>
          obtain ⟨registered, account⟩ := sound.account
          obtain ⟨holder, present, id, -⟩ := sound.keeps _ held live
          exact absurd (id.trans (account.live _ held live).2)
            (other_id _ holder present)

theorem after (matched : s.Matched) (sound : s.Sound)
    (admitted : s.admits stimulus) :
    (s.after stimulus).Matched := by
  cases stimulus with
  | notification now n => exact matched.notification now admitted
  | command now c => exact matched.command sound now c
  | contextDestroyed id =>
      exact matched.of_eq rfl (Suspensions.discardWhere_of_none admitted)
  | exchangeClosed id =>
      refine matched.of_eq rfl (Suspensions.discard_of_not_contains ?_)
      simpa [admits] using admitted
  | requestAdded r => exact matched.requestAdded sound admitted
  | responseAdded r => exact matched.of_eq rfl rfl
  | promptAdded p => exact matched.of_eq rfl rfl
  | requestSuspended ref => cases admitted
  | _ => exact matched.of_agrees (after_aside rfl s)

theorem run (matched : s.Matched) (sound : s.Sound) {history : List Stimulus}
    (calm : s.calm history) : (s.run history).Matched := by
  induction history generalizing s with
  | nil => exact matched
  | cons stimulus history ih =>
      obtain ⟨admitted, rest⟩ := Bool.and_eq_true_iff.1 calm
      exact ih (matched.after sound admitted) (sound.after stimulus) rest

end Matched

/--
No request stays paused without a reason.  In a run that leaves held exchanges
to the commands, at every point a request is paused if and only if the table has
an entry for it, before it is sent or when its response has started.
-/
theorem paused_iff_held (config : Config) (ids : IdSource)
    (history : List Stimulus) (calm : (start config ids).calm history)
    (before later : List Stimulus) (split : history = before ++ later)
    (ref : RequestRef) (request : Request)

    (found : ((start config ids).run before).transport.request? ref =
      some request) :
    request.suspended ↔
      ((start config ids).run before).suspensions.phaseOf? request.id =
          some .beforeRequestSent ∨
        ((start config ids).run before).suspensions.phaseOf? request.id =
          some .responseStarted := by
  rw [split, calm_append, Bool.and_eq_true_iff] at calm
  have matched := (Matched.start config ids).run (Sound.start config ids) calm.1
  rw [matched.paused ref request found]
  exact Suspensions.pauses_iff _ _

def pausedRun : List Stimulus :=
  [.subscribe [.beforeRequestSent] none,
    .command 0 (.addIntercept
      { phases := [.beforeRequestSent], contexts := none,
        urlPatterns := none }),
    .requestAdded { id := "r", url := "http://a/" },
    .notification 0 { kind := .beforeRequestSent, request := ⟨0⟩ },
    .command 1 (.continueWithAuth { request := "r", action := .cancel })]

theorem paused_iff_held_until_failed :
    let fail : Stimulus := .command 2 (.failRequest { request := "r" })
    (start {} (.start 0)).calm (pausedRun ++ [fail]) ∧
      (∃ request, ((start {} (.start 0)).run pausedRun).transport.request? ⟨0⟩ =
        some request ∧
        request.suspended) ∧
      ∃ request,
        ((start {} (.start 0)).run (pausedRun ++ [fail])).transport.request?
          ⟨0⟩ = some request ∧
        request.suspended = false := by
  intro fail
  have calm : (start {} (.start 0)).calm (pausedRun ++ [fail]) := rfl
  have held :=
    paused_iff_held {} (.start 0) _ calm pausedRun [fail] rfl ⟨0⟩ _ rfl
  have released := paused_iff_held {} (.start 0) _ calm (pausedRun ++ [fail]) []
    (List.append_nil _).symm ⟨0⟩ _ rfl
  refine ⟨calm, ⟨_, rfl, held.2 (.inl rfl)⟩, _, rfl, ?_⟩
  rw [Bool.eq_false_iff]
  intro suspended
  rcases released.1 suspended with entry | entry <;> cases entry

end Session

end Interception
