import Interception.Proofs.FreshIds
import Interception.Session.Subscriptions
import Mathlib.Data.List.Chain

/-!
# Counting subscriptions

Subscriptions are entered, taken back and cut down with the contexts that they
are limited to. Through all of it the count of each kind is the number of live
subscriptions that want it.  So a count is never taken below zero, the platform
reports exactly while there is someone to report to, and a kind without a count
has no one who listens.
-/

namespace Interception

theorem nodup_eraseDups {α : Type} [BEq α] [LawfulBEq α] (l : List α) :
    l.eraseDups.Nodup := by
  match l with
  | [] => simp
  | a :: l =>
      rw [List.eraseDups_cons, List.nodup_cons]
      exact ⟨by simp, nodup_eraseDups _⟩
termination_by l.length
decreasing_by exact Nat.lt_succ_of_le (List.length_filter_le _ _)

namespace Counts

/-! ## Single counts -/

theorem count_add (c : Counts) (kind other : EventKind) :
    (c.add kind).count other =
      c.count other + if kind = other then 1 else 0 := by
  by_cases same : kind = other
  · subst same
    simp [add, count]
  · simp [add, count, Table.get?_insert_of_ne _ _ (Ne.symm same), same]

theorem count_subtract (c : Counts) (kind other : EventKind) :
    (c.subtract kind).count other =
      c.count other - if kind = other then 1 else 0 := by
  by_cases last : c.count kind ≤ 1
  · rw [subtract, if_pos last]
    by_cases same : kind = other
    · subst same
      have gone : count (Table.erase c kind) kind = 0 := by simp [count]
      rw [gone, if_pos rfl]
      omega
    · simp [count, Table.get?_erase_of_ne _ (Ne.symm same), same]
  · rw [subtract, if_neg last]
    by_cases same : kind = other
    · subst same
      simp [count]
    · simp [count, Table.get?_insert_of_ne _ _ (Ne.symm same), same]

theorem count_addAll (c : Counts) (kinds : List EventKind) (other : EventKind) :
    (c.addAll kinds).count other = c.count other + kinds.count other := by
  induction kinds generalizing c with
  | nil => rfl
  | cons kind kinds ih =>
      change ((c.add kind).addAll kinds).count other = _
      rw [ih, count_add, List.count_cons]
      simp only [beq_iff_eq]
      omega

theorem count_subtractAll (c : Counts) (kinds : List EventKind)
    (other : EventKind) :
    (c.subtractAll kinds).count other = c.count other - kinds.count other := by
  induction kinds generalizing c with
  | nil => rfl
  | cons kind kinds ih =>
      change ((c.subtract kind).subtractAll kinds).count other = _
      rw [ih, count_subtract, List.count_cons]
      simp only [beq_iff_eq]
      omega

/-! ## No zeros are kept -/

def Positive (c : Counts) : Prop := ∀ kind n, c.get? kind = some n → 0 < n

namespace Positive

variable {c : Counts}

theorem add (h : c.Positive) (kind : EventKind) : (c.add kind).Positive := by
  intro other n found
  obtain ⟨-, rfl⟩ | ⟨-, kept⟩ := Table.get?_insert_eq_some_iff.1 found
  · omega
  · exact h other n kept

theorem subtract (h : c.Positive) (kind : EventKind) :
    (c.subtract kind).Positive := by
  intro other n found
  by_cases last : c.count kind ≤ 1
  · rw [Counts.subtract, if_pos last] at found
    exact h other n (Table.get?_erase_eq_some_iff.1 found).2
  · rw [Counts.subtract, if_neg last] at found
    obtain ⟨-, rfl⟩ | ⟨-, kept⟩ := Table.get?_insert_eq_some_iff.1 found
    · omega
    · exact h other n kept

theorem addAll (h : c.Positive) (kinds : List EventKind) :
    (c.addAll kinds).Positive := by
  induction kinds generalizing c with
  | nil => exact h
  | cons kind kinds ih => exact ih (h.add kind)

theorem subtractAll (h : c.Positive) (kinds : List EventKind) :
    (c.subtractAll kinds).Positive := by
  induction kinds generalizing c with
  | nil => exact h
  | cons kind kinds ih => exact ih (h.subtract kind)

theorem get?_eq (h : c.Positive) (kind : EventKind) :
    c.get? kind = if c.count kind = 0 then none else some (c.count kind) := by
  cases found : c.get? kind with
  | none => simp [count, found]
  | some n =>
      have positive := h kind n found
      have kept : n ≠ 0 := by omega
      simp [count, found, kept]

end Positive

/-! ## The sum of all counts -/

private theorem foldl_add_pos_iff (values : List Nat) (n : Nat) :
    0 < values.foldl (· + ·) n ↔ 0 < n ∨ ∃ value ∈ values, 0 < value := by
  induction values generalizing n with
  | nil => simp
  | cons value values ih =>
      rw [List.foldl_cons, ih, Nat.add_pos_iff_pos_or_pos, or_assoc]
      simp

theorem total_pos_iff (c : Counts) :
    0 < c.total ↔ ∃ kind, 0 < c.count kind := by
  rw [total, foldl_add_pos_iff]
  constructor
  · rintro (absurd | ⟨value, mem, positive⟩)
    · omega
    · obtain ⟨⟨kind, n⟩, entry, rfl⟩ := List.mem_map.1 mem
      have found := (Table.get?_eq_some_iff c kind n).2 entry
      exact ⟨kind, by simpa [count, found] using positive⟩
  · rintro ⟨kind, positive⟩
    cases found : c.get? kind with
    | none => simp [count, found] at positive
    | some n =>
        have entry := (Table.get?_eq_some_iff c kind n).1 found
        refine .inr ⟨n, List.mem_map.2 ⟨_, entry, rfl⟩, ?_⟩
        simpa [count, found] using positive

/-! ## Counting down -/

/-- That counting down one kind after the other always finds something to take
away. -/
def Covers (c : Counts) : List EventKind → Prop
  | [] => True
  | kind :: kinds => 0 < c.count kind ∧ (c.subtract kind).Covers kinds

private theorem covers_of_count_le {c : Counts} {kinds : List EventKind}
    (enough : ∀ kind, kinds.count kind ≤ c.count kind) : c.Covers kinds := by
  induction kinds generalizing c with
  | nil => trivial
  | cons kind kinds ih =>
      refine ⟨?_, ih fun other => ?_⟩
      · have here := enough kind
        rw [List.count_cons_self] at here
        omega
      · have later := enough other
        rw [List.count_cons] at later
        rw [count_subtract]
        simp only [beq_iff_eq] at later
        omega

end Counts

namespace Subscriptions

/-! ## Counts and live subscriptions -/

def tally (subscriptions : List Subscription) (kind : EventKind) : Nat :=
  subscriptions.countP (·.events.contains kind)

def Sound (subscriptions : List Subscription) : Prop :=
  ∀ x ∈ subscriptions, x.events ≠ [] ∧ x.events.Nodup

private theorem count_flatMap_events {subscriptions : List Subscription}
    (sound : Sound subscriptions) (kind : EventKind) :
    (subscriptions.flatMap Subscription.events).count kind =
      tally subscriptions kind := by
  induction subscriptions with
  | nil => rfl
  | cons x rest ih =>
      have restSound : Sound rest :=
        fun y mem => sound y (List.mem_cons_of_mem _ mem)
      have once := (sound x List.mem_cons_self).2
      rw [List.flatMap_cons, List.count_append, ih restSound,
        once.count, tally, tally, List.countP_cons]
      simp only [List.contains_iff_mem]
      omega

structure Tallied (live : List Subscription) (counts : Counts) : Prop where
  distinct : (live.map (·.id)).Nodup
  sound : Sound live
  counted : ∀ kind, counts.count kind = tally live kind
  positive : counts.Positive

namespace Tallied

variable {live : List Subscription} {counts : Counts}

theorem total_pos_iff (h : Tallied live counts) :
    0 < counts.total ↔ live ≠ [] := by
  rw [Counts.total_pos_iff]
  constructor
  · rintro ⟨kind, positive⟩ rfl
    simp [h.counted, tally] at positive
  · intro some
    obtain ⟨x, mem⟩ := List.exists_mem_of_ne_nil live some
    obtain ⟨kind, wanted⟩ :=
      List.exists_mem_of_ne_nil x.events (h.sound x mem).1
    refine ⟨kind, ?_⟩
    rw [h.counted, tally, List.countP_pos_iff]
    exact ⟨x, mem, by simpa using wanted⟩

theorem enter (h : Tallied live counts) {x : Subscription}
    (fresh : x.id ∉ live.map (·.id)) (sound : x.events ≠ [] ∧ x.events.Nodup) :
    Tallied (live ++ [x]) (counts.addAll x.events) where
  distinct := by
    rw [List.map_append, List.nodup_append]
    refine ⟨h.distinct, by simp, ?_⟩
    rintro id known other new rfl
    rw [List.map_singleton, List.mem_singleton] at new
    exact fresh (new ▸ known)
  sound := by
    intro y mem
    obtain old | new := List.mem_append.1 mem
    · exact h.sound y old
    · rw [List.mem_singleton.1 new]
      exact sound
  counted := by
    intro kind
    rw [Counts.count_addAll, h.counted, sound.2.count, tally, tally,
      List.countP_append, List.countP_singleton]
    simp only [List.contains_iff_mem]
  positive := h.positive.addAll x.events

theorem shed (h : Tallied live counts) {gone left : List Subscription}
    (goneSound : Sound gone)
    (split : ∀ kind, tally live kind = tally left kind + tally gone kind)
    (distinct : (left.map (·.id)).Nodup) (sound : Sound left) :
    Tallied left (counts.subtractAll (gone.flatMap Subscription.events)) where
  distinct := distinct
  sound := sound
  counted := by
    intro kind
    rw [Counts.count_subtractAll, h.counted,
      count_flatMap_events goneSound, split]
    omega
  positive := h.positive.subtractAll _

theorem covers (h : Tallied live counts) {gone left : List Subscription}
    (goneSound : Sound gone)
    (split : ∀ kind, tally live kind = tally left kind + tally gone kind) :
    counts.Covers (gone.flatMap Subscription.events) := by
  refine Counts.covers_of_count_le fun kind => ?_
  rw [h.counted, count_flatMap_events goneSound, split]
  omega

end Tallied

/-! ## The listener -/

structure Switched (running : Bool) (calls : List ListenerCall) : Prop where
  first : calls.head? ≠ some .stop
  turns : calls.IsChain (· ≠ ·)
  last : calls.getLast? = some .start ↔ running
  balance : calls.count .start = calls.count .stop + running.toNat

namespace Switched

variable {calls : List ListenerCall}

theorem start (h : Switched false calls) :
    Switched true (calls ++ [.start]) where
  first := by
    cases calls with
    | nil => simp
    | cons call calls => exact h.first
  turns := by
    refine List.isChain_append.2 ⟨h.turns, .singleton _, ?_⟩
    rintro call last next head rfl
    rw [List.head?_singleton, Option.mem_some_iff] at head
    exact absurd (h.last.1 (head ▸ last)) (by simp)
  last := by simp
  balance := by
    have before := h.balance
    simp at before ⊢
    omega

theorem stop (h : Switched true calls) : Switched false (calls ++ [.stop]) where
  first := by
    cases calls with
    | nil => simpa using h.last.2 rfl
    | cons call calls => exact h.first
  turns := by
    refine List.isChain_append.2 ⟨h.turns, .singleton _, ?_⟩
    rintro call last next head rfl
    rw [List.head?_singleton, Option.mem_some_iff] at head
    rw [h.last.2 rfl, ← head] at last
    simp at last
  last := by simp
  balance := by
    have before := h.balance
    simp at before ⊢
    omega

end Switched

/-! ## Single steps -/

structure Balanced (s : Subscriptions) : Prop where
  tallied : Tallied s.live s.counts
  switched : Switched s.listening s.listener.calls
  listening : s.listening ↔ s.live ≠ []

@[simp] theorem live_updateListener (s : Subscriptions) :
    s.updateListener.live = s.live := by
  rw [updateListener]
  split <;> rfl

@[simp] theorem counts_updateListener (s : Subscriptions) :
    s.updateListener.counts = s.counts := by
  rw [updateListener]
  split <;> rfl

theorem balanced_updateListener {s : Subscriptions}
    (tallied : Tallied s.live s.counts)
    (switched : Switched s.listening s.listener.calls) :
    s.updateListener.Balanced := by
  have wanted := tallied.total_pos_iff
  by_cases changed : decide (0 < s.counts.total) = s.listening
  · rw [updateListener, if_pos changed]
    refine ⟨tallied, switched, ?_⟩
    rw [← changed, decide_eq_true_iff]
    exact wanted
  · rw [updateListener, if_neg changed]
    refine ⟨tallied, ?_, by simpa using wanted⟩
    cases running : s.listening with
    | false =>
        have start : decide (0 < s.counts.total) = true := by
          rw [running, Bool.not_eq_false] at changed
          exact changed
        rw [running] at switched
        simpa [start] using switched.start
    | true =>
        have stop : decide (0 < s.counts.total) = false := by
          rw [running, Bool.not_eq_true] at changed
          exact changed
        rw [running] at switched
        simpa [stop] using switched.stop

theorem Balanced.add {s : Subscriptions} (h : s.Balanced) {x : Subscription}
    (fresh : x.id ∉ s.live.map (·.id))
    (sound : x.events ≠ [] ∧ x.events.Nodup) :
    (s.add x).Balanced :=
  balanced_updateListener (h.tallied.enter fresh sound) h.switched

theorem validate_ok {contexts : Contexts} {events : List EventKind}
    {scope : Option (List ContextId)} {id : Uuid} {x : Subscription}
    (valid : validate contexts events scope id = .ok x) :
    x.id = id ∧ x.events ≠ [] ∧ x.events.Nodup := by
  cases events with
  | nil => cases valid
  | cons kind kinds =>
      have nonempty : (kind :: kinds).eraseDups ≠ [] := by
        simp [List.eraseDups_cons]
      cases scope with
      | none =>
          cases valid
          exact ⟨rfl, nonempty, nodup_eraseDups _⟩
      | some ids =>
          change ((topLevelsOf contexts ids).map _).bind _ = _ at valid
          cases found : topLevelsOf contexts ids with
          | error e =>
              rw [found] at valid
              cases valid
          | ok tops =>
              rw [found] at valid
              cases valid
              exact ⟨rfl, nonempty, nodup_eraseDups _⟩

private theorem subscribe_ok {s s' : Subscriptions} {contexts : Contexts}
    {events : List EventKind} {scope : Option (List ContextId)} {id : Uuid}
    (subscribed : s.subscribe contexts events scope id = .ok s') :
    ∃ x : Subscription, x.id = id ∧ (x.events ≠ [] ∧ x.events.Nodup) ∧
      s' = s.add x := by
  cases valid : validate contexts events scope id with
  | error e => simp [subscribe, valid, bind, Except.bind] at subscribed
  | ok x =>
      rw [subscribe, valid] at subscribed
      cases subscribed
      obtain ⟨entered, sound⟩ := validate_ok valid
      exact ⟨x, entered, sound, rfl⟩

private theorem subscribeNames_ok {s s' : Subscriptions} {contexts : Contexts}
    {names : List String} {scope : Option (List ContextId)} {id : Uuid}
    (subscribed : s.subscribeNames contexts names scope id = .ok s') :
    ∃ x : Subscription, x.id = id ∧ (x.events ≠ [] ∧ x.events.Nodup) ∧
      s' = s.add x := by
  cases named : kindsOf names with
  | error e => simp [subscribeNames, named, bind, Except.bind] at subscribed
  | ok kinds =>
      rw [subscribeNames, named] at subscribed
      exact subscribe_ok subscribed

theorem without_eq_some {x y : Subscription} {context : ContextId}
    (kept : x.without context = some y) :
    y.id = x.id ∧ y.events = x.events := by
  unfold Subscription.without at kept
  split at kept
  · cases kept
    exact ⟨rfl, rfl⟩
  · split at kept
    · dsimp only at kept
      split at kept <;> cases kept
      exact ⟨rfl, rfl⟩
    · cases kept
      exact ⟨rfl, rfl⟩

private theorem tally_without (live : List Subscription) (context : ContextId)
    (kind : EventKind) :
    tally live kind = tally (live.filterMap (·.without context)) kind +
      tally (live.filter fun x => (x.without context).isNone) kind := by
  induction live with
  | nil => rfl
  | cons x live ih =>
      cases kept : x.without context with
      | none =>
          simp only [tally, kept, List.filterMap_cons, List.filter_cons,
            Option.isNone_none, if_true, List.countP_cons] at ih ⊢
          omega
      | some y =>
          have same := (without_eq_some kept).2
          simp only [tally, kept, List.filterMap_cons, List.filter_cons,
            Option.isNone_some, Bool.false_eq_true, if_false,
            List.countP_cons, same] at ih ⊢
          omega

private theorem ids_without (live : List Subscription) (context : ContextId) :
    ((live.filterMap (·.without context)).map (·.id)).Sublist
      (live.map (·.id)) := by
  induction live with
  | nil => exact .slnil
  | cons x live ih =>
      cases kept : x.without context with
      | none =>
          simp only [List.filterMap_cons, kept]
          exact ih.cons _
      | some y =>
          simp only [List.filterMap_cons, kept, List.map_cons,
            (without_eq_some kept).1]
          exact ih.cons_cons _

private theorem filter_id_eq {live : List Subscription}
    (distinct : (live.map (·.id)).Nodup) {id : Uuid} :
    live.filter (·.id = id) = (live.find? (·.id = id)).toList := by
  induction live with
  | nil => rfl
  | cons x live ih =>
      rw [List.map_cons, List.nodup_cons] at distinct
      by_cases same : x.id = id
      · have others : live.filter (·.id = id) = [] := by
          rw [List.filter_eq_nil_iff]
          intro y mem other
          refine distinct.1 (List.mem_map.2 ⟨y, mem, ?_⟩)
          rw [same]
          simpa using other
        simp [same, others]
      · simpa [same] using ih distinct.2

private theorem tally_unsubscribe {live : List Subscription}
    (distinct : (live.map (·.id)).Nodup) (id : Uuid) (kind : EventKind) :
    tally live kind = tally (live.filter (·.id ≠ id)) kind +
      tally (live.find? (·.id = id)).toList kind := by
  have parts :=
    List.countP_eq_countP_filter_add live (·.events.contains kind) (·.id = id)
  rw [filter_id_eq distinct] at parts
  simp only [tally, decide_not]
  omega

/-! ## Runs -/

/-- What is done with subscriptions.  The contexts are those that exist at the
time, and a new subscription comes with its id. -/
inductive Action where
  | subscribe (contexts : Contexts) (events : List EventKind)
      (scope : Option (List ContextId))
      (id : Uuid)
  | subscribeNames (contexts : Contexts) (names : List String)
      (scope : Option (List ContextId))
      (id : Uuid)
  | unsubscribe (id : Uuid)
  | removeContext (context : ContextId)

def Action.newId? : Action → Option Uuid
  | .subscribe _ _ _ id => some id
  | .subscribeNames _ _ _ id => some id
  | .unsubscribe _ => none
  | .removeContext _ => none

def step (s : Subscriptions) : Action → Subscriptions
  | .subscribe contexts events scope id =>
    (s.subscribe contexts events scope id).toOption.getD s
  | .subscribeNames contexts names scope id =>
    (s.subscribeNames contexts names scope id).toOption.getD s
  | .unsubscribe id => (s.unsubscribe id).toOption.getD s
  | .removeContext context => s.removeContext context

def run (s : Subscriptions) (actions : List Action) : Subscriptions :=
  actions.foldl step s

def ended (s : Subscriptions) : Action → List Subscription
  | .unsubscribe id => (s.live.find? (·.id = id)).toList
  | .removeContext context => s.live.filter fun x => (x.without context).isNone
  | _ => []

/-- What an action can come to: it is refused, it enters a subscription, or it
splits some off. -/
inductive Stepped (s : Subscriptions) (action : Action) (s' : Subscriptions) :
    Prop
  | refused (none : s.ended action = []) (result : s' = s)
  | entered (x : Subscription) (new : action.newId? = some x.id)
      (sound : x.events ≠ [] ∧ x.events.Nodup) (result : s' = s.add x)
  | shed (left : List Subscription) (old : action.newId? = none)
      (split : ∀ kind, tally s.live kind =
        tally left kind + tally (s.ended action) kind)
      (ids : (left.map (·.id)).Sublist (s.live.map (·.id)))
      (events : ∀ x ∈ left, ∃ y ∈ s.live, x.events = y.events)
      (result : s' = s.drop (s.ended action) left)

theorem step_stepped {s : Subscriptions} (distinct : (s.live.map (·.id)).Nodup)
    (action : Action) :
    Stepped s action (s.step action) := by
  cases action with
  | subscribe contexts events scope id =>
      cases result : s.subscribe contexts events scope id with
      | error e => exact .refused rfl (by rw [step, result]; rfl)
      | ok s' =>
          obtain ⟨x, rfl, sound, rfl⟩ := subscribe_ok result
          exact .entered x rfl sound (by rw [step, result]; rfl)
  | subscribeNames contexts names scope id =>
      cases result : s.subscribeNames contexts names scope id with
      | error e => exact .refused rfl (by rw [step, result]; rfl)
      | ok s' =>
          obtain ⟨x, rfl, sound, rfl⟩ := subscribeNames_ok result
          exact .entered x rfl sound (by rw [step, result]; rfl)
  | unsubscribe id =>
      cases found : s.live.find? (·.id = id) with
      | none =>
          refine .refused (by rw [ended, found]; rfl) ?_
          simp only [step, unsubscribe, found]
          rfl
      | some x =>
          refine .shed (s.live.filter (·.id ≠ id)) rfl
            (tally_unsubscribe distinct id)
            (List.filter_sublist.map _)
              (fun y mem => ⟨y, (List.mem_filter.1 mem).1, rfl⟩) ?_
          simp only [step, unsubscribe, ended, found]
          rfl
  | removeContext context =>
      refine .shed (s.live.filterMap (·.without context)) rfl
        (tally_without s.live context)
        (ids_without s.live context) (fun x mem => ?_) rfl
      obtain ⟨y, present, kept⟩ := List.mem_filterMap.1 mem
      exact ⟨y, present, (without_eq_some kept).2⟩

namespace Balanced

variable {s : Subscriptions}

theorem stepped (h : s.Balanced) (action : Action) :
    Stepped s action (s.step action) :=
  step_stepped h.tallied.distinct action

theorem ended_sound (h : s.Balanced) (action : Action) :
    Sound (s.ended action) := by
  intro x mem
  cases action with
  | unsubscribe id =>
      exact h.tallied.sound x
        (List.mem_of_find?_eq_some (Option.mem_toList.1 mem))
  | removeContext context => exact h.tallied.sound x (List.mem_filter.1 mem).1
  | _ => cases mem

theorem step (h : s.Balanced) {action : Action}
    (fresh : ∀ id, action.newId? = some id → id ∉ s.live.map (·.id)) :
    (s.step action).Balanced := by
  cases h.stepped action with
  | refused none result =>
      rw [result]
      exact h
  | entered x new sound result =>
      rw [result]
      exact h.add (fresh x.id new) sound
  | shed left old split ids events result =>
      rw [result]
      refine balanced_updateListener ?_ h.switched
      refine h.tallied.shed (h.ended_sound action)
        split (h.tallied.distinct.sublist ids) ?_
      intro x mem
      obtain ⟨y, live, same⟩ := events x mem
      rw [same]
      exact h.tallied.sound y live

theorem ids_step (h : s.Balanced) (action : Action) :
    ((s.step action).live.map (·.id)).Sublist
      (s.live.map (·.id) ++ action.newId?.toList) := by
  cases h.stepped action with
  | refused none result =>
      rw [result]
      exact List.sublist_append_left _ _
  | entered x new sound result =>
      rw [result, new]
      simp [Subscriptions.add]
  | shed left old split ids events result =>
      rw [result, old]
      simpa [drop] using ids

theorem run (h : s.Balanced) {actions : List Action}
    (distinct : (s.live.map (·.id) ++ actions.filterMap Action.newId?).Nodup) :
    (s.run actions).Balanced := by
  induction actions generalizing s with
  | nil => exact h
  | cons action actions ih =>
      rw [append_filterMap_cons] at distinct
      refine ih (h.step fun id => not_mem_of_nodup_append_toList distinct) ?_
      exact distinct.sublist ((h.ids_step action).append (.refl _))

theorem counts_step (h : s.Balanced) {action : Action}
    (ends : action.newId? = none) :
    (s.step action).counts =
        s.counts.subtractAll ((s.ended action).flatMap Subscription.events) ∧
      s.counts.Covers ((s.ended action).flatMap Subscription.events) := by
  cases h.stepped action with
  | refused none result =>
      rw [result, none]
      exact ⟨rfl, trivial⟩
  | entered x new sound result =>
      rw [ends] at new
      cases new
  | shed left old split ids events result =>
      rw [result]
      exact ⟨by simp [drop], h.tallied.covers (h.ended_sound action) split⟩

theorem get?_counts (h : s.Balanced) (kind : EventKind) :
    s.counts.get? kind =
      if tally s.live kind = 0 then none else some (tally s.live kind) := by
  rw [h.tallied.positive.get?_eq, h.tallied.counted]

theorem hasListener_eq (h : s.Balanced) (kind : EventKind)
    (top : Option ContextId) :
    s.hasListener kind top = s.live.any (·.wants kind top) := by
  cases heard : s.live.any (·.wants kind top) with
  | false => rw [hasListener, heard, Bool.and_false]
  | true =>
      obtain ⟨x, live, wants⟩ := List.any_eq_true.1 heard
      have wanted : tally s.live kind ≠ 0 := by
        have positive : 0 < tally s.live kind :=
          List.countP_pos_iff.2 ⟨x, live, (Bool.and_eq_true_iff.1 wants).1⟩
        omega
      have counted : s.counts.contains kind = true := by
        simp [Table.contains, h.get?_counts kind, wanted]
      rw [hasListener, heard, counted]
      rfl

end Balanced

theorem balanced_start : ({} : Subscriptions).Balanced where
  tallied := ⟨.nil, by simp [Sound], fun _ => rfl, by simp [Counts.Positive]⟩
  switched := ⟨by simp, .nil, by simp, rfl⟩
  listening := by simp

/--
However subscriptions were entered, taken back and cut down, each kind that some
live subscription wants is counted with the number of these, and no other kind
has a count.  Counting down never starts from zero.  The platform reports if and
only if there is a live subscription; it was started first and then stopped and
started in turns.  Looking at the counts first does not change who is found to
listen.
-/
theorem counts_live_subscriptions (actions : List Action)
    (distinct : (actions.filterMap Action.newId?).Nodup) :
    let s := ({} : Subscriptions).run actions
    (∀ kind, s.counts.get? kind =
      if tally s.live kind = 0 then none else some (tally s.live kind)) ∧
      (∀ action, action.newId? = none →
        (s.step action).counts =
            s.counts.subtractAll
              ((s.ended action).flatMap Subscription.events) ∧
          s.counts.Covers ((s.ended action).flatMap Subscription.events)) ∧
      (s.listening ↔ s.live ≠ []) ∧
      s.listener.calls.head? ≠ some .stop ∧
      s.listener.calls.IsChain (· ≠ ·) ∧
      s.listener.starts = s.listener.stops + s.listening.toNat ∧
      ∀ kind top, s.hasListener kind top = s.live.any (·.wants kind top) := by
  intro s
  have balanced : s.Balanced := balanced_start.run (by simpa using distinct)
  exact ⟨balanced.get?_counts, fun action => balanced.counts_step,
    balanced.listening, balanced.switched.first, balanced.switched.turns,
    balanced.switched.balance,
    balanced.hasListener_eq⟩

def sharing : List Action :=
  let tab := (({} : Contexts).addTopLevel "tab").2
  [.subscribe tab [.fetchError, .fetchError] (some ["tab", "tab"]) ⟨1⟩,
    .subscribeNames tab ["network", "network.fetchError"] none ⟨2⟩,
    .subscribe tab [.fetchError] (some ["gone"]) ⟨3⟩, .unsubscribe ⟨3⟩]

theorem counts_live_subscriptions_shared :
    let s := ({} : Subscriptions).run sharing
    (sharing.filterMap Action.newId?).Nodup ∧
      s.counts.get? .fetchError = some 2 ∧
      (s.step (.removeContext "tab")).counts =
        s.counts.subtractAll [.fetchError] ∧
      s.counts.Covers [.fetchError] ∧
      s.listener.starts = s.listener.stops + 1 ∧
      s.hasListener .fetchError none := by
  intro s
  have distinct : (sharing.filterMap Action.newId?).Nodup := by decide
  obtain ⟨counts, down, -, -, -, balance, heard⟩ :=
    counts_live_subscriptions sharing distinct
  have wanted : tally s.live .fetchError = 2 := rfl
  have ended : (s.ended (.removeContext "tab")).flatMap Subscription.events =
      [.fetchError] := rfl
  have listening : s.listening = true := rfl
  have listens : s.live.any (·.wants .fetchError none) = true := rfl
  have counted := counts .fetchError
  rw [wanted] at counted
  have taken := down (.removeContext "tab") rfl
  rw [ended] at taken
  rw [listening] at balance
  exact ⟨distinct, counted, taken.1, taken.2, balance,
    (heard .fetchError none).trans listens⟩

end Subscriptions

end Interception
