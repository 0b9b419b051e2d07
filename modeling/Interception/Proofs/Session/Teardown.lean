import Interception.Proofs.Session.Dropped
import Interception.Proofs.Session.Issuers
import Interception.Proofs.Subscriptions.Counting

/-!
# Contexts that are given up

With a context go the exchanges that it issued or that stand below it as their
tab, what was set for it, and the subscriptions that were limited to it alone.
The platform is not asked for anything, and nothing else is lost.
-/

namespace Interception

/-! ## The table -/

namespace Suspensions

/-- That between two states of a table the entries that satisfy `p` were let go,
and nothing else happened. -/
structure Clears (before after : Suspensions) (p : Suspension → Bool) :
    Prop where
  live : ∀ id held, after.live.get? id = some held ↔
    before.live.get? id = some held ∧ p held = false
  settled : after.settled =
    before.settled ++ (before.live.values.filter p).map asDiscarded
  rest : after = { before with live := after.live, settled := after.settled }

private theorem get?_discardAll (s : Suspensions) (ids : List RequestId)
    (id : RequestId) :
    (s.discardAll ids).live.get? id =
      if id ∈ ids then none else s.live.get? id := by
  induction ids generalizing s with
  | nil => rfl
  | cons first ids ih =>
      have next : s.discardAll (first :: ids) =
          (s.discard first).2.discardAll ids := rfl
      rw [next, ih, discard_live]
      by_cases same : id = first
      · simp [same]
      · simp [same, Table.get?_erase_of_ne]

private theorem discardAll_rest (s : Suspensions) (ids : List RequestId) :
    s.discardAll ids =
      { s with live := (s.discardAll ids).live,
               settled := (s.discardAll ids).settled } := by
  induction ids generalizing s with
  | nil => rfl
  | cons first ids ih =>
      have next : s.discardAll (first :: ids) =
          (s.discard first).2.discardAll ids := rfl
      rw [next, ih, (s.releases_discard first).rest]

theorem clears_discardWhere (s : Suspensions) (p : Suspension → Bool) :
    s.Clears (s.discardWhere p).2 p where
  live id held := by
    have released := s.mem_discardWhere p id
    rw [discardWhere] at released ⊢
    rw [get?_discardAll]
    cases found : s.live.get? id with
    | none => simp
    | some entry =>
        rw [found, Option.any_some] at released
        by_cases affected : p entry
        · rw [if_pos (released.2 affected)]
          refine iff_of_false nofun ?_
          rintro ⟨same, spared⟩
          cases same
          simp [affected] at spared
        · rw [if_neg (mt released.1 affected)]
          refine (and_iff_left_of_imp fun same => ?_).symm
          cases same
          exact Bool.eq_false_iff.2 affected
  settled := s.settled_step (.discardWhere p)
  rest := s.discardAll_rest _

theorem mem_values_iff (s : Suspensions) (held : Suspension) :
    held ∈ s.live.values ↔ ∃ id, s.live.get? id = some held := by
  simp [Table.values, Table.get?_eq_some_iff]

namespace Clears

variable {s s' : Suspensions} {registered : List Suspension}
  {p : Suspension → Bool}

theorem outcome?_of_affected (clears : s.Clears s' p)
    (account : Account s' registered) {id : RequestId} {held : Suspension}
    (live : s.live.get? id = some held) (affected : p held) :
    s'.outcome? held.generation = some .discarded ∧
      (s'.settled.map (·.1)).count held.generation = 1 := by
  have known : held ∈ s.live.values.filter p :=
    List.mem_filter.2 ⟨(s.mem_values_iff held).2 ⟨id, live⟩, affected⟩
  have signalled : (held.generation, Resolution.discarded) ∈ s'.settled := by
    rw [clears.settled]
    exact List.mem_append_right _ (List.mem_map_of_mem (f := asDiscarded) known)
  refine ⟨(outcome?_eq_some_iff account.settled_once _ _).2 signalled, ?_⟩
  exact List.count_eq_one_of_mem account.settled_once
    (List.mem_map_of_mem (f := Prod.fst) signalled)

theorem outcome?_of_others (clears : s.Clears s' p)
    (before : Account s registered) (after : Account s' registered)
    {generation : Nat}

    (others : ∀ id held, s.live.get? id = some held → p held →
      held.generation ≠ generation) :
    s'.outcome? generation = s.outcome? generation := by
  ext resolution
  rw [outcome?_eq_some_iff after.settled_once,
    outcome?_eq_some_iff before.settled_once, clears.settled,
    List.mem_append, or_iff_left]
  intro signalled
  obtain ⟨held, mem, same⟩ := List.mem_map.1 signalled
  obtain ⟨known, affected⟩ := List.mem_filter.1 mem
  obtain ⟨id, live⟩ := (s.mem_values_iff held).1 known
  exact others id held live affected (congrArg Prod.fst same)

end Clears

end Suspensions

/-! ## Subscriptions -/

namespace Subscription

def endsWith (context : ContextId) (x : Subscription) : Bool :=
  x.contexts.any fun ids => ids.contains context && ids.all (· = context)

def leave (context : ContextId) (x : Subscription) : Subscription :=
  { x with contexts := x.contexts.map (·.filter (· ≠ context)) }

private theorem without_eq (x : Subscription) (context : ContextId) :
    x.without context = if x.endsWith context then none
      else some (x.leave context) := by
  obtain ⟨id, events, _ | ids⟩ := x
  · rfl
  · by_cases listed : context ∈ ids
    · simp [without, endsWith, leave, listed]
    · have same : (ids.filter fun other => !decide (other = context)) =
          ids := by
        rw [List.filter_eq_self]
        intro other mem
        simpa using fun collides : other = context => listed (collides ▸ mem)
      simp [without, endsWith, leave, listed, same]

end Subscription

namespace Subscriptions

private theorem live_removeContext (s : Subscriptions) (context : ContextId) :
    (s.removeContext context).live =
      (s.live.filter fun x => !x.endsWith context).map (·.leave context) := by
  rw [removeContext, drop, live_updateListener]
  simp only [Subscription.without_eq]
  induction s.live with
  | nil => rfl
  | cons x live ih =>
      cases ends : x.endsWith context <;> simp [ends, ih]

theorem Balanced.removeContext {s : Subscriptions} (h : s.Balanced)
    (context : ContextId) :
    (s.removeContext context).Balanced := by
  have stepped : (s.step (.removeContext context)).Balanced := h.step nofun
  exact stepped

end Subscriptions

/-! ## Sessions -/

namespace Session

structure Teardown (s : Session) (context : ContextId) (s' : Session) :
    Prop where
  suspensions : s.suspensions.Clears s'.suspensions (endsWith context)
  marks : ∀ id, s'.redirects.marks.get? id =
    if (s.suspensions.live.get? id).any (endsWith context) then none
    else s.redirects.marks.get? id
  overrides : ∀ tab, s'.cache.overrides.get? tab =
    if tab = context then none else s.cache.overrides.get? tab
  subscribers : s'.subscriptions.live =
    (s.subscriptions.live.filter fun x => !x.endsWith context).map
      (·.leave context)
  balanced : s.subscriptions.Balanced → s'.subscriptions.Balanced
  rest : s' = { s with
    suspensions := s'.suspensions
    redirects := { s.redirects with marks := s'.redirects.marks }
    cache := { s.cache with overrides := s'.cache.overrides }
    subscriptions := s'.subscriptions }

theorem teardown_contextDestroyed (s : Session) (context : ContextId) :
    s.Teardown context (s.contextDestroyed context) where
  suspensions := s.suspensions.clears_discardWhere (endsWith context)
  marks id := by
    have forgotten := s.redirects.get?_foldl_forget
      (s.suspensions.discardWhere (endsWith context)).1 id
    rw [if_congr (s.suspensions.mem_discardWhere (endsWith context) id) rfl rfl]
      at forgotten
    exact forgotten
  overrides tab := by
    have erased : (s.contextDestroyed context).cache.overrides =
        s.cache.overrides.erase context :=
      rfl
    rw [erased]
    by_cases same : tab = context
    · rw [same, Table.get?_erase_self, if_pos rfl]
    · rw [Table.get?_erase_of_ne _ same, if_neg same]
  subscribers := s.subscriptions.live_removeContext context
  balanced h := h.removeContext context
  rest := by
    have lifetime := s.redirects.lifetime_foldl_forget
      (s.suspensions.discardWhere (endsWith context)).1
    rw [contextDestroyed]
    simp only [← lifetime]

/--
A context that is given up takes with it the entries of exchanges that it issued
or that stand below it as their tab, and the platform is not asked for anything.
What was set for the context is dropped, no subscription is limited to it any
more, and those that were limited to it alone are gone; counts and listener then
fit the subscriptions that are left.  In sessions that can arise, the issuer
that an entry names is that of its request, each exchange that is let go had no
outcome and gets exactly one, and no other outcome changes.
-/
theorem contextDestroyed_takes_its_own (s : Session) (context : ContextId) :
    let s' := s.contextDestroyed context
    s.Teardown context s' ∧ s'.transport = s.transport ∧
      (s.Reachable →
        (∀ id held, s.suspensions.live.get? id = some held →
          (endsWith context held ↔ held.topContext = some context ∨
            (s.transport.request? held.request).any
              (·.context = some context))) ∧
        (∀ id held, s.suspensions.live.get? id = some held →
          endsWith context held →
          s.suspensions.outcome? held.generation = none ∧
          s'.suspensions.outcome? held.generation = some .discarded ∧
          (s'.suspensions.settled.map (·.1)).count held.generation = 1) ∧
        ∀ generation,
          (∀ id held, s.suspensions.live.get? id = some held →
            endsWith context held →
            held.generation ≠ generation) →
          s'.suspensions.outcome? generation =
            s.suspensions.outcome? generation) := by
  intro s'
  have teardown := s.teardown_contextDestroyed context
  refine ⟨teardown, rfl, fun reachable => ?_⟩
  obtain ⟨registered, account⟩ := reachable.sound.account
  have account' : s'.suspensions.Account registered := account.discardAll _
  refine ⟨fun id held live => ?_, fun id held live affected => ?_,
    fun generation others => ?_⟩
  · obtain ⟨request, found, issuer⟩ := reachable.issued id held live
    simp [endsWith, found, issuer]
  · obtain ⟨known, key⟩ := account.live id held live
    have holds : s.suspensions.Holds held .live := by
      rw [← key] at live
      exact live
    exact ⟨(account.outcome?_eq_none_iff_unresolved known).2 (.inl holds),
      teardown.suspensions.outcome?_of_affected account' live affected⟩
  · exact teardown.suspensions.outcome?_of_others account account' others

/-- Two tabs, each with a request that is held, one of them issued by a frame.
A subscription to failures is limited to the tab of the frame. -/
def heldInTwoTabs : List Stimulus :=
  [.tabAdded "first", .frameAdded "frame" "first", .tabAdded "second",
    .subscribe [.beforeRequestSent] none,
    .subscribe [.fetchError] (some ["frame"]),
    .command 0 (.addIntercept
      { phases := [.beforeRequestSent], contexts := none,
        urlPatterns := none }),
    .requestAdded { id := "r", url := "http://a/", context := some "frame" },
    .requestAdded { id := "q", url := "http://a/", context := some "second" },
    .notification 1 { kind := .beforeRequestSent, request := ⟨0⟩ },
    .notification 2 { kind := .beforeRequestSent, request := ⟨1⟩ }]

theorem contextDestroyed_takes_its_own_tab :
    let s := (start {} (.start 0)).run heldInTwoTabs
    let s' := s.contextDestroyed "first"
    s.Reachable ∧ s.Teardown "first" s' ∧ s.suspensions.live.keys = ["r", "q"] ∧
      s.suspensions.outcome? 1 = none ∧
      s'.suspensions.outcome? 1 = some .discarded ∧
      s'.suspensions.outcome? 2 = none ∧ s'.suspensions.live.keys = ["q"] ∧
      s.subscriptions.size = 2 ∧ s'.subscriptions.size = 1 := by
  intro s s'
  have reachable : s.Reachable := ⟨_, _, _, rfl⟩
  obtain ⟨teardown, -, arises⟩ := contextDestroyed_takes_its_own s "first"
  obtain ⟨-, released, -⟩ := arises reachable
  obtain ⟨before, after, -⟩ := released "r" _ rfl rfl
  refine ⟨reachable, teardown, rfl, before, after, rfl, rfl, rfl, ?_⟩
  rw [Subscriptions.size, teardown.subscribers]
  rfl

end Session

end Interception
