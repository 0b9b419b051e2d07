import Interception.Proofs.Subscriptions.Counting

/-!
# Whom the platform reports to

A subscription that loses the last tab it is limited to is dropped.  One that
was limited to no tab from the start is entered all the same, and it counts
though nothing ever reaches it.  So the platform may report while no one
listens, but only on account of such a subscription.
-/

namespace Interception

namespace Subscription

variable {x y : Subscription}

def Hollow (x : Subscription) : Prop := x.contexts = some []

private theorem exists_covers_iff (x : Subscription) :
    (∃ top, x.covers top) ↔ ¬ x.Hollow := by
  obtain ⟨id, events, contexts⟩ := x
  match contexts with
  | none => simp [covers, Hollow]
  | some [] =>
      have missed (top : Option ContextId) :
          covers ⟨id, events, some []⟩ top = false := by
        cases top <;> rfl
      simp [missed, Hollow]
  | some (tab :: tabs) =>
      have reached : covers ⟨id, events, some (tab :: tabs)⟩ (some tab) := by
        simp [covers]
      exact ⟨fun _ => by simp [Hollow], fun _ => ⟨some tab, reached⟩⟩

theorem exists_wants_iff (wanted : x.events ≠ []) :
    (∃ kind top, x.wants kind top) ↔ ¬ x.Hollow := by
  rw [← exists_covers_iff]
  constructor
  · rintro ⟨kind, top, wants⟩
    exact ⟨top, (Bool.and_eq_true_iff.1 wants).2⟩
  · rintro ⟨top, covered⟩
    obtain ⟨kind, named⟩ := List.exists_mem_of_ne_nil x.events wanted
    exact ⟨kind, top,
      Bool.and_eq_true_iff.2 ⟨List.contains_iff_mem.2 named, covered⟩⟩

theorem hollow_of_without {context : ContextId}
    (kept : x.without context = some y) :
    y.Hollow ↔ x.Hollow := by
  unfold without at kept
  split at kept
  · cases kept
    rfl
  · rename_i ids scope
    split at kept
    -- Where it is limited to the tab that goes, another one is left or nothing
    -- of it.
    · rename_i limited
      dsimp only at kept
      split at kept <;> cases kept
      rename_i left
      have named : ids ≠ [] := by
        rintro rfl
        simp at limited
      rw [List.isEmpty_iff] at left
      simp only [Hollow, scope, Option.some.injEq, named, left]
    · cases kept
      rfl

end Subscription

namespace Subscriptions

/-! ## Entering a subscription -/

private theorem topLevelsOf_eq_nil_iff {contexts : Contexts}
    {ids tops : List ContextId} (found : topLevelsOf contexts ids = .ok tops) :
    tops = [] ↔ ids = [] := by
  cases ids with
  | nil =>
      cases found
      rfl
  | cons id ids =>
      obtain ⟨info, -, rest⟩ := ok_of_bind found
      obtain ⟨more, -, result⟩ := ok_of_bind rest
      cases result
      simp

theorem validate_hollow_iff {contexts : Contexts} {events : List EventKind}
    {scope : Option (List ContextId)} {id : Uuid} {x : Subscription}
    (valid : validate contexts events scope id = .ok x) :
    x.Hollow ↔ scope = some [] := by
  cases events with
  | nil => cases valid
  | cons kind kinds =>
      cases scope with
      | none =>
          cases valid
          simp [Subscription.Hollow]
      | some ids =>
          obtain ⟨limit, mapped, result⟩ := ok_of_bind valid
          obtain ⟨tops, found, rfl⟩ := ok_of_map mapped
          cases result
          have none : tops.eraseDups = [] ↔ tops = [] := by
            cases tops <;> simp [List.eraseDups_cons]
          simp [Subscription.Hollow, none, topLevelsOf_eq_nil_iff found]

private theorem subscribe_validate {s s' : Subscriptions} {contexts : Contexts}
    {events : List EventKind} {scope : Option (List ContextId)} {id : Uuid}
    (subscribed : s.subscribe contexts events scope id = .ok s') :
    ∃ x, validate contexts events scope id = .ok x ∧ s' = s.add x := by
  obtain ⟨x, valid, result⟩ := ok_of_bind subscribed
  cases result
  exact ⟨x, valid, rfl⟩

/-! ## Runs -/

def Action.hollowId? : Action → Option Uuid
  | .subscribe _ _ scope id => if scope = some [] then some id else none
  | .subscribeNames _ _ scope id => if scope = some [] then some id else none
  | _ => none

private theorem Action.newId?_of_hollowId? {action : Action} {id : Uuid}
    (hollow : action.hollowId? = some id) : action.newId? = some id := by
  cases action <;> simp_all [hollowId?, newId?]

theorem live_of_step {s : Subscriptions} {action : Action} {x : Subscription}
    (live : x ∈ (s.step action).live) :
    (∃ y ∈ s.live, y.id = x.id ∧ (x.Hollow ↔ y.Hollow)) ∨
      action.newId? = some x.id ∧
      (x.Hollow ↔ action.hollowId? = some x.id) := by
  have kept (old : x ∈ s.live) :
      ∃ y ∈ s.live, y.id = x.id ∧ (x.Hollow ↔ y.Hollow) :=
    ⟨x, old, rfl, .rfl⟩
  have entered {contexts : Contexts} {events : List EventKind}
      {scope : Option (List ContextId)}
      {id : Uuid} {y : Subscription}
      (valid : validate contexts events scope id = .ok y)
      (new : action.newId? = some id)
      (asked : action.hollowId? = if scope = some [] then some id else none)
      (live : x ∈ (s.add y).live) :
      (∃ y ∈ s.live, y.id = x.id ∧ (x.Hollow ↔ y.Hollow)) ∨
        action.newId? = some x.id ∧
        (x.Hollow ↔ action.hollowId? = some x.id) := by
    rw [add, live_updateListener, List.mem_append, List.mem_singleton] at live
    obtain old | rfl := live
    · exact .inl (kept old)
    · rw [new, asked, (validate_ok valid).1, validate_hollow_iff valid]
      simp
  cases action with
  | subscribe contexts events scope id =>
      cases result : s.subscribe contexts events scope id with
      | error e =>
          rw [step, result] at live
          exact .inl (kept live)
      | ok s' =>
          obtain ⟨y, valid, rfl⟩ := subscribe_validate result
          rw [step, result] at live
          exact entered valid rfl rfl live
  | subscribeNames contexts names scope id =>
      cases result : s.subscribeNames contexts names scope id with
      | error e =>
          rw [step, result] at live
          exact .inl (kept live)
      | ok s' =>
          obtain ⟨kinds, -, subscribed⟩ := ok_of_bind result
          obtain ⟨y, valid, rfl⟩ := subscribe_validate subscribed
          rw [step, result] at live
          exact entered valid rfl rfl live
  | unsubscribe id =>
      cases found : s.live.find? (·.id = id) with
      | none =>
          simp only [step, unsubscribe, found] at live
          exact .inl (kept live)
      | some y =>
          simp only [step, unsubscribe, found] at live
          rw [Except.toOption, Option.getD_some, drop,
            live_updateListener] at live
          exact .inl (kept (List.mem_filter.1 live).1)
  | removeContext context =>
      rw [step, removeContext, drop, live_updateListener] at live
      obtain ⟨y, old, left⟩ := List.mem_filterMap.1 live
      exact .inl ⟨y, old, (without_eq_some left).1.symm,
        Subscription.hollow_of_without left⟩

/-- That the live subscriptions came with ids that were `used`, those limited to
no tab with some that are `hollow`. -/
structure Entered (s : Subscriptions) (used hollow : List Uuid) : Prop where
  known : ∀ x ∈ s.live, x.id ∈ used
  asked : ∀ id ∈ hollow, id ∈ used
  hollow_iff : ∀ x ∈ s.live, x.Hollow ↔ x.id ∈ hollow

namespace Entered

variable {s : Subscriptions} {used hollow : List Uuid}

theorem step (h : s.Entered used hollow) {action : Action}
    (fresh : ∀ id, action.newId? = some id → id ∉ used) :
    (s.step action).Entered (used ++ action.newId?.toList)
      (hollow ++ action.hollowId?.toList) where
  known x live := by
    rw [List.mem_append, Option.mem_toList]
    obtain ⟨y, old, same, -⟩ | ⟨new, -⟩ := live_of_step live
    · exact .inl (same ▸ h.known y old)
    · exact .inr new
  asked id mem := by
    rw [List.mem_append, Option.mem_toList] at mem ⊢
    exact mem.imp (h.asked id) Action.newId?_of_hollowId?
  hollow_iff x live := by
    rw [List.mem_append, Option.mem_toList]
    obtain ⟨y, old, same, alike⟩ | ⟨new, alike⟩ := live_of_step live
    · -- An id that was used before is not asked for again.
      have known : x.id ∈ used := same ▸ h.known y old
      have notNew : action.hollowId? ≠ some x.id := fun again =>
        fresh x.id (Action.newId?_of_hollowId? again) known
      rw [alike, h.hollow_iff y old, same, or_iff_left notNew]
    · have notOld : x.id ∉ hollow := fun old => fresh x.id new (h.asked _ old)
      rw [alike, or_iff_right notOld]

theorem run (h : s.Entered used hollow) {actions : List Action}
    (distinct : (used ++ actions.filterMap Action.newId?).Nodup) :
    (s.run actions).Entered (used ++ actions.filterMap Action.newId?)
      (hollow ++ actions.filterMap Action.hollowId?) := by
  induction actions generalizing s used hollow with
  | nil => simpa [Subscriptions.run] using h
  | cons action actions ih =>
      rw [append_filterMap_cons] at distinct
      rw [append_filterMap_cons, append_filterMap_cons]
      exact ih (h.step fun id => not_mem_of_nodup_append_toList distinct)
        distinct

end Entered

theorem entered_start : ({} : Subscriptions).Entered [] [] where
  known := by simp
  asked := by simp
  hollow_iff := by simp

theorem Balanced.exists_hasListener_iff {s : Subscriptions} (h : s.Balanced) :
    (∃ kind top, s.hasListener kind top) ↔ ∃ x ∈ s.live, ¬ x.Hollow := by
  simp only [h.hasListener_eq, List.any_eq_true]
  constructor
  · rintro ⟨kind, top, x, live, wants⟩
    exact ⟨x, live,
      (Subscription.exists_wants_iff (h.tallied.sound x live).1).1
        ⟨kind, top, wants⟩⟩
  · rintro ⟨x, live, reached⟩
    have wanted : x.events ≠ [] := (h.tallied.sound x live).1
    obtain ⟨kind, top, wants⟩ :=
      (Subscription.exists_wants_iff wanted).2 reached
    exact ⟨kind, top, x, live, wants⟩

/--
However subscriptions were entered, taken back and cut down, a live one is
limited to no tab if and only if it was asked for with an empty list of
contexts.  Someone listens, to some kind of events of some tab or of none, if
and only if another subscription is live.  The platform reports if and only if
someone listens or one that was asked for with an empty list is live.
-/
theorem reports_to_someone_iff (actions : List Action)
    (distinct : (actions.filterMap Action.newId?).Nodup) :
    let s := ({} : Subscriptions).run actions
    let hollow := actions.filterMap Action.hollowId?
    (∀ x ∈ s.live, x.contexts = some [] ↔ x.id ∈ hollow) ∧
      ((∃ kind top, s.hasListener kind top) ↔ ∃ x ∈ s.live, x.id ∉ hollow) ∧
      (s.listening ↔ (∃ kind top, s.hasListener kind top) ∨ ∃ x ∈ s.live,
        x.id ∈ hollow) := by
  intro s hollow
  have entered : s.Entered _ hollow :=
    entered_start.run (by simpa using distinct)
  have balanced : s.Balanced := balanced_start.run (by simpa using distinct)
  have someone : (∃ kind top, s.hasListener kind top) ↔
      ∃ x ∈ s.live, x.id ∉ hollow := by
    rw [balanced.exists_hasListener_iff]
    refine exists_congr fun x => and_congr_right fun live => ?_
    rw [entered.hollow_iff x live]
  refine ⟨entered.hollow_iff, someone, ?_⟩
  rw [balanced.listening, someone]
  constructor
  · intro some
    obtain ⟨x, live⟩ := List.exists_mem_of_ne_nil s.live some
    by_cases asked : x.id ∈ hollow
    · exact .inr ⟨x, live, asked⟩
    · exact .inl ⟨x, live, asked⟩
  · rintro (⟨x, live, -⟩ | ⟨x, live, -⟩) <;> exact List.ne_nil_of_mem live

/-- Two subscriptions, the first limited to no tab; the other one ends with its
tab. -/
def outlived : List Action :=
  let tab := (({} : Contexts).addTopLevel "tab").2
  [.subscribe tab [.fetchError] (some []) ⟨1⟩,
    .subscribeNames tab ["network"] (some ["tab"]) ⟨2⟩, .removeContext "tab"]

theorem reports_to_someone_iff_outlived :
    let s := ({} : Subscriptions).run outlived
    (outlived.filterMap Action.newId?).Nodup ∧ s.listening ∧
      ¬ ∃ kind top, s.hasListener kind top := by
  intro s
  have distinct : (outlived.filterMap Action.newId?).Nodup := by decide
  obtain ⟨-, someone, reports⟩ := reports_to_someone_iff outlived distinct
  have live : s.live = [⟨⟨1⟩, [.fetchError], some []⟩] := rfl
  have asked : (⟨1⟩ : Uuid) ∈ outlived.filterMap Action.hollowId? := by decide
  refine ⟨distinct, reports.2 (.inr ⟨_, live ▸ List.mem_cons_self, asked⟩),
    fun listens => ?_⟩
  obtain ⟨x, mem, other⟩ := someone.1 listens
  rw [live, List.mem_singleton] at mem
  exact other (mem ▸ asked)

/-- A subscription to no tab is entered, and the platform reports though no one
listens. -/
theorem reports_to_no_one :
    let s :=
      ({} : Subscriptions).run [.subscribe {} [.fetchError] (some []) ⟨1⟩]
    (∃ x ∈ s.live, x.contexts = some []) ∧ s.listening ∧
      ∀ kind top, s.hasListener kind top = false := by
  refine ⟨⟨_, List.mem_cons_self, rfl⟩, rfl, fun kind top => ?_⟩
  cases kind <;> cases top <;> rfl

end Subscriptions

end Interception
