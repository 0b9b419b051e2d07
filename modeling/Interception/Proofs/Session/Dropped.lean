import Interception.Proofs.Session.Release
import Interception.Proofs.Session.Replays

/-!
# Notifications that nobody is told of

A notification can be dropped at several points of its way, after some of the
work was done. Whichever it is, what it leaves behind is little: marks that were
waited for or whose time was over are gone, an exchange that failed is not held
any more, and a prompt is passed on.  A failure always ends what was known of
its request, whether anybody is told of it or not.
-/

namespace Interception

namespace Suspensions

/-- That between two states of a table a request was let go, if it was held, and
nothing else happened. -/
structure Releases (before after : Suspensions) (id : RequestId) : Prop where
  gone : after.live.get? id = none
  others : ∀ other, other ≠ id → after.live.get? other = before.live.get? other
  settled : after.settled =
    before.settled ++ (before.live.get? id).toList.map asDiscarded
  rest : after = { before with live := after.live, settled := after.settled }

theorem releases_discard (s : Suspensions) (id : RequestId) :
    s.Releases (s.discard id).2 id where
  gone := by rw [discard_live, Table.get?_erase_self]
  others := by
    intro other different
    rw [discard_live, Table.get?_erase_of_ne _ different]
  settled := s.discard_settled id
  rest := by cases found : s.live.get? id <;> simp [discard, found, settle]

end Suspensions

private theorem Redirects.get?_forget (r : Redirects) (id key : RequestId) :
    (r.forget id).marks.get? key =
      if key = id then none else r.marks.get? key :=
  (r.get?_foldl_forget [id] key).trans (by simp)

private theorem Notification.forwarding_cases (n : Notification)
    (forwardAuth : Bool) :
    n.forwarding forwardAuth = [] ∨
      ∃ prompt, n.kind = .authRequired ∧ n.prompt = some prompt ∧ forwardAuth ∧
        n.forwarding forwardAuth = [.prompt prompt .forward] := by
  unfold Notification.forwarding
  split
  case h_1 prompt kind given =>
    cases forwardAuth with
    | false => exact .inl rfl
    | true => exact .inr ⟨prompt, kind, given, rfl, rfl⟩
  case h_2 => exact .inl rfl

namespace Session

variable {s : Session} {now : Nat} {n : Notification} {request : Request}

def subject? (s : Session) (n : Notification) : Option RequestId :=
  (s.transport.request? n.request).map (·.id)

/-! ## Marks -/

/-- Why a mark ends with a notification: it is about the marked request, which
is announced again or failed, or it announces a request when the time of the
mark is over. -/
def EndsMark (s : Session) (now : Nat) (n : Notification) (id : RequestId) :
    Prop :=
  s.subject? n = some id ∧
    (n.kind = .beforeRequestSent ∨ n.kind = .fetchError) ∨
    n.kind = .beforeRequestSent ∧
    ∃ marked, s.redirects.marks.get? id = some marked ∧
      s.redirects.lifetime ≤ now - marked

private theorem noted_marks
    (found : s.transport.request? n.request = some request) (now : Nat)
    (id : RequestId) :
    let r := (s.noted now n.kind request.id).redirects
    r.marks.get? id = s.redirects.marks.get? id ∨
      r.marks.get? id = none ∧ s.EndsMark now n id := by
  intro r
  have subject : s.subject? n = some request.id := by
    rw [subject?, found, Option.map_some]
  have taken : r = if n.kind = .beforeRequestSent then
      (s.redirects.consume now request.id).2
      else if n.kind = .fetchError then s.redirects.forget request.id
        else s.redirects := by
    simp only [r, noted_eq]
  by_cases announced : n.kind = .beforeRequestSent
  · rw [taken, if_pos announced, Redirects.get?_consume]
    by_cases own : id = request.id
    · rw [if_pos own]
      exact .inr ⟨rfl, .inl ⟨own ▸ subject, .inl announced⟩⟩
    · rw [if_neg own]
      cases marked : s.redirects.marks.get? id with
      | none => exact .inl rfl
      | some time =>
          by_cases fresh : now - time < s.redirects.lifetime
          · exact .inl (by simp [fresh])
          · have expired := Nat.le_of_not_lt fresh
            exact .inr ⟨by simpa using expired,
              .inr ⟨announced, time, marked, expired⟩⟩
  · rw [taken, if_neg announced]
    by_cases failed : n.kind = .fetchError
    · rw [if_pos failed, Redirects.get?_forget]
      by_cases own : id = request.id
      · rw [if_pos own]
        exact .inr ⟨rfl, .inl ⟨own ▸ subject, .inr failed⟩⟩
      · exact .inl (if_neg own)
    · rw [if_neg failed]
      exact .inl rfl

/-! ## Dropping -/

private theorem forwardPrompt_of_announced
    (announced : n.kind = .beforeRequestSent) (s : Session) :
    s.forwardPrompt n = s := by
  simp [forwardPrompt, announced]

theorem process_of_untold
    (found : s.transport.request? n.request = some request)
    (untold : (s.process now n).1 = none) :
    ∃ warnings : List Warning,
      (∀ w ∈ warnings, ∃ cause, w = .incomplete request.id n.kind cause) ∧
      (s.process now n).2 =
        ((s.noted now n.kind request.id).warn warnings).forwardPrompt n := by
  rw [process_eq found] at untold ⊢
  by_cases marked : (s.absorbReplay now n.kind request.id).1
  -- A replay has no prompt to pass on, so it comes to the same although it
  -- returns first.
  · obtain ⟨announced, same⟩ := noted_of_replayed marked
    refine ⟨[], by simp, ?_⟩
    rw [if_pos marked, warn_nil, forwardPrompt_of_announced announced, same]
  · rw [if_neg marked] at untold ⊢
    cases resolved : s.topContext? request with
    | none => exact ⟨[], by simp, by rw [warn_nil]⟩
    | some top =>
        simp only [resolved] at untold ⊢
        by_cases heard : s.subscriptions.hasListener n.kind top
        · rw [if_pos heard] at untold ⊢
          cases detailed : n.detail (s.noted now n.kind request.id).transport
            request with
          | error cause =>
              refine ⟨[.incomplete request.id n.kind cause], by simp, ?_⟩
              simp only [announce, detailed]
          | ok detail =>
              simp only [announce, detailed] at untold
              cases untold
        · rw [if_neg heard]
          exact ⟨[], by simp, by rw [warn_nil]⟩

/-- All that a notification may leave behind of which nobody is told. -/
structure Residue (s : Session) (now : Nat) (n : Notification) (s' : Session) :
    Prop where
  suspensions : s'.suspensions = s.suspensions ∨
    n.kind = .fetchError ∧ ∃ id, s.subject? n = some id ∧
      s.suspensions.Releases s'.suspensions id
  marks : ∀ id, s'.redirects.marks.get? id = s.redirects.marks.get? id ∨
    s'.redirects.marks.get? id = none ∧ s.EndsMark now n id
  transport : s'.transport = s.transport ∨
    ∃ prompt, n.kind = .authRequired ∧ n.prompt = some prompt ∧
    s.config.forwardAuth ∧
      s'.transport = s.transport.perform (.prompt prompt .forward)
  log : ∃ warnings, s'.log = s.log ++ warnings ∧
    ∀ w ∈ warnings, ∃ id cause, w = .incomplete id n.kind cause
  rest : s' = { s with
    suspensions := s'.suspensions
    redirects := { s.redirects with marks := s'.redirects.marks }
    transport := s'.transport
    log := s'.log }

namespace Residue

variable {s' : Session}

theorem refl (s : Session) (now : Nat) (n : Notification) :
    s.Residue now n s where
  suspensions := .inl rfl
  marks := fun _ => .inl rfl
  transport := .inl rfl
  log := ⟨[], by simp⟩
  rest := rfl

theorem kept (residue : s.Residue now n s') {id : RequestId} {held : Suspension}
    (live : s'.suspensions.live.get? id = some held) :
    s.suspensions.live.get? id = some held := by
  obtain same | ⟨-, own, -, releases⟩ := residue.suspensions
  · rwa [same] at live
  · by_cases other : id = own
    · rw [other, releases.gone] at live
      cases live
    · rwa [releases.others id other] at live

theorem untouched (residue : s.Residue now n s') :
    s'.transport.requests = s.transport.requests ∧
      s'.transport.responses = s.transport.responses := by
  obtain same | ⟨prompt, -, -, -, forwarded⟩ := residue.transport
  · rw [same]
    exact ⟨rfl, rfl⟩
  · rw [forwarded]
    exact ⟨rfl, rfl⟩

end Residue

theorem residue_of_untold (untold : (s.process now n).1 = none) :
    s.Residue now n (s.process now n).2 := by
  cases found : s.transport.request? n.request with
  | none =>
      have same : (s.process now n).2 = s := by simp only [process, found]
      rw [same]
      exact .refl s now n
  | some request =>
      obtain ⟨warnings, remarked, result⟩ := process_of_untold found untold
      have noted := s.noted_eq now n.kind request.id
      rw [result, forwardPrompt_eq]
      refine ⟨?_, s.noted_marks found now, ?_, ⟨warnings, ?_, ?_⟩, ?_⟩
      · by_cases failed : n.kind = .fetchError
        · refine .inr ⟨failed, request.id,
            by rw [subject?, found, Option.map_some], ?_⟩
          simp only [warn, noted, if_pos failed]
          exact s.suspensions.releases_discard request.id
        · exact .inl (by simp only [warn, noted, if_neg failed])
      · simp only [warn, noted]
        obtain silent | ⟨prompt, kind, given, forwards, made⟩ :=
          n.forwarding_cases s.config.forwardAuth
        · rw [silent]
          exact .inl rfl
        · rw [made]
          exact .inr ⟨prompt, kind, given, forwards, rfl⟩
      · simp only [warn, noted]
      · intro w mem
        exact ⟨request.id, remarked w mem⟩
      · simp only [warn, noted]
        cases n.kind <;> rfl

/-! ## Failures -/

theorem process_of_failure
    (found : s.transport.request? n.request = some request)
    (failed : n.kind = .fetchError) :
    s.suspensions.Releases (s.process now n).2.suspensions request.id ∧
      ∀ id, (s.process now n).2.redirects.marks.get? id =
        if id = request.id then none else s.redirects.marks.get? id := by
  obtain ⟨-, redirects, ⟨suspensions, -⟩ | ⟨stage, -, -, staged, -⟩⟩ :=
    process_state now found
  · rw [suspensions, redirects, failed]
    exact ⟨s.suspensions.releases_discard request.id,
      s.redirects.get?_forget request.id⟩
  · have phased := Notification.stage?_phase staged
    rw [failed] at phased
    cases phased

/--
A notification of which nobody is told comes to the same whatever the callbacks
would do, holds nothing, and leaves all requests and responses alone.  What it
may leave behind is an exchange released because it failed, marks that ended, a
prompt passed on and a remark in the log.  A failure always ends the suspension
and the mark of its own request, and those of no other.
-/
theorem untold_leaves_residue (s : Session) (now : Nat) (n : Notification) :
    let s' := (s.process now n).2
    ((s.process now n).1 = none →
      (∀ callbacks, s.process now n callbacks = (none, s')) ∧
      (∀ id held, s'.suspensions.live.get? id = some held →
        s.suspensions.live.get? id = some held) ∧
      s'.transport.requests = s.transport.requests ∧
      s'.transport.responses = s.transport.responses ∧
      s.Residue now n s') ∧
    ∀ request, s.transport.request? n.request = some request →
    n.kind = .fetchError →
      s.suspensions.Releases s'.suspensions request.id ∧
      ∀ id, s'.redirects.marks.get? id =
        if id = request.id then none else s.redirects.marks.get? id := by
  refine ⟨fun untold => ?_,
    fun request found failed => process_of_failure found failed⟩
  have residue := residue_of_untold untold
  obtain ⟨requests, responses⟩ := residue.untouched
  refine ⟨fun callbacks => ?_, fun id held => residue.kept, requests,
    responses, residue⟩
  rw [process_eq_dispatch, untold, Option.elim_none]

theorem untold_leaves_residue_failed :
    let n : Notification := { kind := .fetchError, request := ⟨0⟩ }
    let s' := (holdingOne.process 1 n).2
    (holdingOne.process 1 n).1 = none ∧
      holdingOne.suspensions.live.contains "r" ∧
      holdingOne.Residue 1 n s' ∧
      holdingOne.suspensions.Releases s'.suspensions "r" := by
  intro n s'
  have untold : (holdingOne.process 1 n).1 = none := rfl
  obtain ⟨dropped, failed⟩ := untold_leaves_residue holdingOne 1 n
  exact ⟨untold, rfl, (dropped untold).2.2.2.2, (failed _ rfl rfl).1⟩

end Session

end Interception
