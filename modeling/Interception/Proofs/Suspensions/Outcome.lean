import Interception.Proofs.Suspensions.Account
import Mathlib.Data.List.Nodup

/-!
# Outcomes of suspensions

A suspension is live, claimed or resolved, and it is resolved once.  The
outcomes that were signalled are only ever added to, so whoever waits for a
suspension learns how that very suspension ended, whatever happened to its
request in the meantime.
-/

namespace Interception.Suspensions

/-! ## What an action signals -/

def asDiscarded (held : Suspension) : Nat × Resolution :=
  (held.generation, .discarded)

/-- The outcomes that an action gives, read off the entries and claims that it
ends. -/
def signals (s : Suspensions) : Action → List (Nat × Resolution)
  | .hold held => (s.live.get? held.requestId).toList.map asDiscarded
  | .release generation resolution =>
    if s.claimed.contains generation then [(generation, resolution)] else []
  | .abandon generation =>
    if s.claimed.contains generation then [(generation, .discarded)] else []
  | .discard id => (s.live.get? id).toList.map asDiscarded
  | .discardWhere p => (s.live.values.filter p).map asDiscarded
  | .close => s.live.values.map asDiscarded
  | .peek _ | .claim _ | .ticket _ => []

theorem discard_live (s : Suspensions) (id : RequestId) :
    (s.discard id).2.live = s.live.erase id := by
  cases found : s.live.get? id with
  | none => simp [discard, found, Table.erase_of_get?_eq_none]
  | some held => simp [discard, found, settle]

theorem discard_settled (s : Suspensions) (id : RequestId) :
    (s.discard id).2.settled =
      s.settled ++ (s.live.get? id).toList.map asDiscarded := by
  cases found : s.live.get? id <;> simp [discard, found, settle, asDiscarded]

private theorem discardAll_settled (s : Suspensions) {ids : List RequestId}
    (nodup : ids.Nodup) :
    (s.discardAll ids).settled =
      s.settled ++ (ids.filterMap s.live.get?).map asDiscarded := by
  induction ids generalizing s with
  | nil => simp [discardAll]
  | cons id ids ih =>
      obtain ⟨fresh, nodup⟩ := List.nodup_cons.1 nodup
      have rest : ids.filterMap (s.live.erase id).get? =
          ids.filterMap s.live.get? :=
        List.filterMap_congr fun other mem =>
          Table.get?_erase_of_ne _ fun same => fresh (same ▸ mem)
      calc
        (s.discardAll (id :: ids)).settled
            = ((s.discard id).2.discardAll ids).settled := rfl
        _ = s.settled ++ (s.live.get? id).toList.map asDiscarded ++
              (ids.filterMap s.live.get?).map asDiscarded := by
            rw [ih _ nodup, discard_settled, discard_live, rest]
        _ = s.settled ++
          ((id :: ids).filterMap s.live.get?).map asDiscarded := by
            cases found : s.live.get? id <;> simp [found]

private theorem send_settled (s : Suspensions) (generation : Nat)
    (resolution : Resolution) :
    (s.send generation resolution).settled =
      s.settled ++
        if s.claimed.contains generation then [(generation, resolution)]
        else [] := by
  by_cases open_ : s.claimed.contains generation <;> simp [send, open_, settle]

theorem send_of_not_claimed {s : Suspensions} {generation : Nat}
    (closed : s.claimed.contains generation = false) (resolution : Resolution) :
    s.send generation resolution = s := by
  simp [send, closed]

theorem release_eq_send (s : Suspensions) (generation : Nat)
    (resolution : Resolution) :
    s.release generation resolution = s.send generation resolution := by
  -- Releasing also gives the claim up, which has no effect any more.
  have closed : (s.send generation resolution).claimed.contains generation =
      false := by
    cases found : s.claimed.contains generation with
    | false => rw [send_of_not_claimed found, found]
    | true => simp [send, found, settle]
  exact send_of_not_claimed closed .discarded

theorem settled_step (s : Suspensions) (action : Action) :
    (s.step action).settled = s.settled ++ s.signals action := by
  cases action with
  | hold held => exact discard_settled s held.requestId
  | peek id => simp [step, signals]
  | claim peeked =>
      obtain ⟨held, -, -, result⟩ | ⟨-, result⟩ := tryClaim_cases s peeked <;>
        simp [step, signals, result]
  | release generation resolution =>
      rw [step, release_eq_send]
      exact send_settled s generation resolution
  | abandon generation => exact send_settled s generation .discarded
  | discard id => exact discard_settled s id
  | discardWhere p =>
      have known : ∀ e ∈ s.live.entries.filter (fun e => p e.2),
          e ∈ s.live.entries :=
        fun e mem => (List.mem_filter.1 mem).1
      calc
        (s.step (.discardWhere p)).settled
            = (s.discardAll ((s.live.filter fun _ held =>
                p held).entries.map (·.1))).settled := rfl
        _ = s.settled ++
              ((s.live.filter fun _ held => p held).values).map
                asDiscarded := by
            rw [discardAll_settled s (Table.nodup _)]
            exact congrArg (s.settled ++ List.map asDiscarded ·)
              (s.live.filterMap_get? known)
        _ = s.settled ++ (s.live.values.filter p).map asDiscarded := by
            rw [Table.values, Table.values, Table.filter, List.filter_map]
            rfl
  | ticket id => simp [step, signals]
  | close =>
      calc
        (s.step .close).settled = (s.discardAll s.live.keys).settled := rfl
        _ = s.settled ++ (s.live.keys.filterMap s.live.get?).map asDiscarded :=
            discardAll_settled s s.live.nodup
        _ = s.settled ++ s.live.values.map asDiscarded := by
            rw [Table.keys,
              s.live.filterMap_get? fun e mem => mem, Table.values]

theorem settled_run (s : Suspensions) (actions : List Action) :
    ∃ added, (s.run actions).settled = s.settled ++ added := by
  induction actions generalizing s with
  | nil => exact ⟨[], by simp [run]⟩
  | cons action actions ih =>
      obtain ⟨added, later⟩ := ih (s.step action)
      exact ⟨s.signals action ++ added, by
        rw [← List.append_assoc, ← settled_step, ← later]
        rfl⟩

/-! ## Waiting -/

theorem outcome?_eq_some_iff {s : Suspensions}
    (once : (s.settled.map (·.1)).Nodup) (generation : Nat)
    (resolution : Resolution) :
    s.outcome? generation = some resolution ↔
      (generation, resolution) ∈ s.settled := by
  have reversed : (s.settled.reverse.map (·.1)).Nodup := by
    rw [List.map_reverse]
    exact List.nodup_reverse.2 once
  rw [outcome?, Table.find?_eq_some_iff reversed, List.mem_reverse]

theorem outcome?_perm {s s' : Suspensions} (once : (s.settled.map (·.1)).Nodup)
    (perm : s'.settled.Perm s.settled) (generation : Nat) :
    s'.outcome? generation = s.outcome? generation := by
  have onceToo : (s'.settled.map (·.1)).Nodup := (perm.map _).nodup_iff.2 once
  ext resolution
  rw [outcome?_eq_some_iff onceToo, outcome?_eq_some_iff once, perm.mem_iff]

theorem outcome?_eq_none_iff (s : Suspensions) (generation : Nat) :
    s.outcome? generation = none ↔ generation ∉ s.settled.map (·.1) := by
  rw [outcome?, Option.map_eq_none_iff, List.find?_eq_none]
  constructor
  · intro absent mem
    obtain ⟨e, present, same⟩ := List.mem_map.1 mem
    exact absent e (List.mem_reverse.2 present) (by simpa using same)
  · intro absent e present same
    exact absent
      (List.mem_map.2 ⟨e, List.mem_reverse.1 present, by simpa using same⟩)

/-! ## Places -/

inductive Place where
  | live
  | claimed
  | resolved (resolution : Resolution)
  deriving DecidableEq, Repr

def Holds (s : Suspensions) (held : Suspension) : Place → Prop
  | .live => s.live.get? held.requestId = some held
  | .claimed => s.claimed.get? held.generation = some held
  | .resolved resolution => (held.generation, resolution) ∈ s.settled

theorem mem_register {registered : List Suspension} {held : Suspension}
    (known : held ∈ registered) (actions : List Action) :
    held ∈ actions.foldl register registered := by
  induction actions generalizing registered with
  | nil => exact known
  | cons action actions ih =>
      refine ih ?_
      cases action with
      | hold other => exact List.mem_append_left _ known
      | _ => exact known

namespace Account

variable {s : Suspensions} {registered : List Suspension} {held : Suspension}

theorem settled_once (h : Account s registered) : (s.settled.map (·.1)).Nodup :=
  (List.nodup_append.1 h.nodup).2.1

theorem eq_of_generation (h : Account s registered) {first second : Suspension}
    (knownFirst : first ∈ registered) (knownSecond : second ∈ registered)
    (same : first.generation = second.generation) : first = second := by
  have nodup : (registered.map (·.generation)).Nodup := by
    rw [h.numbered]
    exact List.nodup_range'
  exact List.inj_on_of_nodup_map nodup knownFirst knownSecond same

theorem holds_live_iff (h : Account s registered) (known : held ∈ registered) :
    s.Holds held .live ↔
      held.generation ∈ s.live.values.map (·.generation) := by
  constructor
  · intro found
    exact List.mem_map_of_mem
      ((Table.values_perm_cons_erase found).mem_iff.2 List.mem_cons_self)
  · intro entered
    obtain ⟨entry, mem, number⟩ := List.mem_map.1 entered
    obtain ⟨⟨id, value⟩, present, rfl⟩ := List.mem_map.1 mem
    have found := (Table.get?_eq_some_iff s.live id value).2 present
    obtain ⟨knownEntry, rfl⟩ := h.live id value found
    rw [h.eq_of_generation knownEntry known number] at found
    exact found

theorem holds_claimed_iff (h : Account s registered)
    (known : held ∈ registered) :
    s.Holds held .claimed ↔ held.generation ∈ s.claimed.keys := by
  constructor
  · intro found
    exact (Table.keys_perm_cons_erase found).mem_iff.2 List.mem_cons_self
  · intro entered
    obtain ⟨⟨g, value⟩, present, number⟩ := List.mem_map.1 entered
    have found := (Table.get?_eq_some_iff s.claimed g value).2 present
    obtain ⟨knownEntry, rfl⟩ := h.claimed g value found
    rw [h.eq_of_generation knownEntry known number] at found
    exact found

theorem exists_resolved_iff (s : Suspensions) (held : Suspension) :
    (∃ resolution, s.Holds held (.resolved resolution)) ↔
      held.generation ∈ s.settled.map (·.1) := by
  simp [Holds]

theorem holds_unique (h : Account s registered) (known : held ∈ registered)
    {first second : Place} (inFirst : s.Holds held first)
    (inSecond : s.Holds held second) : first = second := by
  have once := h.count_numbers_le held.generation
  simp only [numbers, List.count_append] at once
  have live (holds : s.Holds held .live) :=
    List.count_pos_iff.2 ((h.holds_live_iff known).1 holds)
  have claimed (holds : s.Holds held .claimed) :=
    List.count_pos_iff.2 ((h.holds_claimed_iff known).1 holds)
  have resolved {r : Resolution} (holds : s.Holds held (.resolved r)) :=
    List.count_pos_iff.2 ((exists_resolved_iff s held).1 ⟨r, holds⟩)
  have liveNotClaimed (holds : s.Holds held .live) :
      ¬ s.Holds held .claimed := by
    intro other
    have := live holds
    have := claimed other
    omega
  have liveNotResolved (r : Resolution) (holds : s.Holds held .live) :
      ¬ s.Holds held (.resolved r) := by
    intro other
    have := live holds
    have := resolved other
    omega
  have claimedNotResolved (r : Resolution) (holds : s.Holds held .claimed) :
      ¬ s.Holds held (.resolved r) := by
    intro other
    have := claimed holds
    have := resolved other
    omega
  cases first <;> cases second
  case resolved.resolved r r' =>
    have outcome := (outcome?_eq_some_iff h.settled_once _ _).2 inFirst
    rw [(outcome?_eq_some_iff h.settled_once _ _).2 inSecond,
      Option.some.injEq] at outcome
    rw [outcome]
  all_goals simp_all

theorem exists_place (h : Account s registered) (known : held ∈ registered) :
    ∃ place, s.Holds held place := by
  have entered : held.generation ∈ s.numbers :=
    h.balanced.mem_iff.2 (List.mem_map_of_mem known)
  rw [numbers, List.mem_append, List.mem_append] at entered
  obtain (live | claimed) | settled := entered
  · exact ⟨.live, (h.holds_live_iff known).2 live⟩
  · exact ⟨.claimed, (h.holds_claimed_iff known).2 claimed⟩
  · obtain ⟨resolution, holds⟩ := (exists_resolved_iff s held).2 settled
    exact ⟨.resolved resolution, holds⟩

theorem outcome?_eq_none_iff_unresolved (h : Account s registered)
    (known : held ∈ registered) :
    s.outcome? held.generation = none ↔
      s.Holds held .live ∨ s.Holds held .claimed := by
  rw [outcome?_eq_none_iff, ← exists_resolved_iff]
  constructor
  · intro unresolved
    obtain ⟨place, holds⟩ := h.exists_place known
    cases place with
    | live => exact .inl holds
    | claimed => exact .inr holds
    | resolved resolution => exact absurd ⟨resolution, holds⟩ unresolved
  · rintro (holds | holds) ⟨resolution, other⟩
    · cases h.holds_unique known holds other
    · cases h.holds_unique known holds other

theorem live_ids_nodup (h : Account s registered) :
    (s.live.values.map (·.requestId)).Nodup := by
  have keyed : s.live.values.map (·.requestId) = s.live.keys := by
    rw [Table.values, Table.keys, List.map_map]
    refine List.map_congr_left fun e mem => ?_
    exact (h.live e.1 e.2 ((Table.get?_eq_some_iff _ _ _).2 mem)).2
  rw [keyed]
  exact s.live.nodup

theorem outcome?_run (h : Account s registered) {generation : Nat}
    {resolution : Resolution}
    (outcome : s.outcome? generation = some resolution) (more : List Action) :
    (s.run more).outcome? generation = some resolution := by
  obtain ⟨added, settled⟩ := settled_run s more
  rw [outcome?_eq_some_iff h.settled_once] at outcome
  rw [outcome?_eq_some_iff (h.run more).settled_once, settled]
  exact List.mem_append_left _ outcome

end Account

theorem account_run (limit : Nat) (actions : List Action) :
    Account (({ limit } : Suspensions).run actions) (registered actions) :=
  (Account.start limit).run actions

/--
After any list of actions, every suspension that was registered is live, claimed
or resolved, in one of these ways only, and no request has two live entries.
Each is resolved at most once, by the action that ends it, and for good.  A
ticket belongs to the suspension that was live under the id when it was taken:
whatever follows, it has no outcome exactly while that suspension is unresolved,
and then the outcome of that suspension.
-/
theorem each_suspension_ends_once (limit : Nat) (actions : List Action) :
    let s := ({ limit } : Suspensions).run actions
    (∀ held ∈ registered actions, ∃! place, s.Holds held place) ∧
      (s.live.values.map (·.requestId)).Nodup ∧
      (s.settled.map (·.1)).Nodup ∧
      (∀ action, (s.step action).settled = s.settled ++ s.signals action) ∧
      (∀ generation resolution, s.outcome? generation = some resolution →
        ∀ more, (s.run more).outcome? generation = some resolution) ∧
      ∀ id ticket, s.ticket id = .ok ticket →
        ∃ held ∈ registered actions,
          held.requestId = id ∧ held.generation = ticket ∧ s.Holds held .live ∧
          ∀ more,
            ((s.run more).outcome? ticket = none ↔
              (s.run more).Holds held .live ∨
              (s.run more).Holds held .claimed) ∧
            ∀ resolution, (s.run more).outcome? ticket = some resolution ↔
              (s.run more).Holds held (.resolved resolution) := by
  intro s
  have account : Account s (registered actions) := account_run limit actions
  refine ⟨?_, account.live_ids_nodup, account.settled_once, settled_step s,
    fun generation resolution outcome => account.outcome?_run outcome, ?_⟩
  · intro held known
    obtain ⟨place, holds⟩ := account.exists_place known
    exact ⟨place, holds,
      fun other otherHolds => account.holds_unique known otherHolds holds⟩
  · intro id ticket taken
    cases found : s.live.get? id with
    | none =>
        simp [Suspensions.ticket, peek, found, bind, Except.bind] at taken
    | some held =>
        obtain ⟨known, key⟩ := account.live id held found
        have number : held.generation = ticket := by
          simpa [Suspensions.ticket, peek, found, bind, Except.bind, pure,
            Except.pure] using taken
        have live : s.Holds held .live := by
          rw [← key] at found
          exact found
        refine ⟨held, known, key, number, live, fun more => ?_⟩
        have later := account.run more
        have stillKnown : held ∈ more.foldl register (registered actions) :=
          mem_register known more
        subst number
        exact ⟨later.outcome?_eq_none_iff_unresolved stillKnown,
          outcome?_eq_some_iff later.settled_once _⟩

def unasked (id : RequestId) : Suspension where
  requestId := id
  request := ⟨0⟩
  context := none
  stage := .request
  intercepts := []
  topContext := none
  generation := 0

/-- The request is held again and the later suspension is continued; the ticket
does not see it. -/
theorem each_suspension_ends_once_held_twice :
    let s := ({ limit := 1 } : Suspensions).run [.hold (unasked "r")]
    let more : List Action :=
      [.hold (unasked "r"), .claim { unasked "r" with generation := 2 },
        .release 2 .continued]
    s.ticket "r" = .ok 1 ∧
      (s.run more).outcome? 2 = some .continued ∧
      ∃ held ∈ registered [.hold (unasked "r")],
        s.Holds held .live ∧
        (s.run more).Holds held (.resolved .discarded) := by
  intro s more
  have taken : s.ticket "r" = .ok 1 := rfl
  obtain ⟨-, -, -, -, -, waiting⟩ :=
    each_suspension_ends_once 1 [.hold (unasked "r")]
  obtain ⟨held, known, -, -, live, later⟩ := waiting "r" 1 taken
  exact ⟨taken, by decide, held, known, live,
    ((later more).2 .discarded).1 (by decide)⟩

end Interception.Suspensions
