import Interception.Session.Contexts

/-!
# Subscriptions

Who wants which kinds of events, and of which tabs. For each kind it is counted
how many subscriptions want it, and the platform's own reporting runs while any
count is positive.
-/

namespace Interception

structure Subscription where
  id : Uuid
  events : List EventKind
  contexts : Option (List ContextId)
deriving DecidableEq, Repr

namespace Subscription

def covers (s : Subscription) (top : Option ContextId) : Bool :=
  match s.contexts, top with
  | none, _ => true
  | some ids, some id => ids.contains id
  | some _, none => false

def wants (s : Subscription) (kind : EventKind) (top : Option ContextId) :
    Bool :=
  s.events.contains kind && s.covers top

/-- What is left of it when a context is gone: nothing, if that was its last. -/
def without (s : Subscription) (context : ContextId) : Option Subscription :=
  match s.contexts with
  | none => some s
  | some ids =>
    if ids.contains context then
      let rest := ids.filter (· ≠ context)
      if rest.isEmpty then none else some { s with contexts := some rest }
    else some s

end Subscription

/-! ## Counts -/

abbrev Counts := Table EventKind Nat

namespace Counts

def count (c : Counts) (kind : EventKind) : Nat := (c.get? kind).getD 0

def add (c : Counts) (kind : EventKind) : Counts :=
  c.insert kind (c.count kind + 1)

def subtract (c : Counts) (kind : EventKind) : Counts :=
  if c.count kind ≤ 1 then c.erase kind else c.insert kind (c.count kind - 1)

def addAll (c : Counts) (kinds : List EventKind) : Counts := kinds.foldl add c

def subtractAll (c : Counts) (kinds : List EventKind) : Counts :=
  kinds.foldl subtract c

def total (c : Counts) : Nat := c.values.foldl (· + ·) 0

end Counts

/-! ## The listener -/

inductive ListenerCall where
  | start
  | stop
deriving DecidableEq, Repr

structure Listener where
  calls : List ListenerCall := []
deriving DecidableEq, Repr

namespace Listener

def start (l : Listener) : Listener := ⟨l.calls ++ [.start]⟩

def stop (l : Listener) : Listener := ⟨l.calls ++ [.stop]⟩

@[simp] theorem calls_start (l : Listener) :
    l.start.calls = l.calls ++ [.start] :=
  rfl

@[simp] theorem calls_stop (l : Listener) : l.stop.calls = l.calls ++ [.stop] :=
  rfl

def starts (l : Listener) : Nat := l.calls.count .start

def stops (l : Listener) : Nat := l.calls.count .stop

def isRunning (l : Listener) : Bool := l.stops < l.starts

end Listener

/-! ## Subscribing -/

structure Subscriptions where
  live : List Subscription := []
  counts : Counts := .empty
  listening : Bool := false
  listener : Listener := {}
deriving DecidableEq, Repr

namespace Subscriptions

def updateListener (s : Subscriptions) : Subscriptions :=
  let wanted : Bool := 0 < s.counts.total
  if wanted = s.listening then s
  else
    { s with
      listening := wanted
      listener := if wanted then s.listener.start else s.listener.stop }

def topLevelsOf (contexts : Contexts) :
    List ContextId → Except Error (List ContextId)
  | [] => .ok []
  | id :: ids => do
    let info ← contexts.require id
    let tops ← topLevelsOf contexts ids
    return info.topLevel :: tops

def validate (contexts : Contexts) (events : List EventKind)
    (scope : Option (List ContextId)) (id : Uuid) :
    Except Error Subscription := do
  if events.isEmpty then throw (.invalidArgument (.emptyList "events"))
  let tops ← match scope with
    | some ids => (topLevelsOf contexts ids).map fun tops => some tops.eraseDups
    | none => pure none
  return ⟨id, events.eraseDups, tops⟩

def add (s : Subscriptions) (subscription : Subscription) : Subscriptions :=
  { s with
    live := s.live ++ [subscription]
    counts := s.counts.addAll subscription.events }.updateListener

def subscribe (s : Subscriptions) (contexts : Contexts)
    (events : List EventKind) (scope : Option (List ContextId)) (id : Uuid) :
    Except Error Subscriptions := do
  return s.add (← validate contexts events scope id)

/-- The name of the whole family of events stands for all its kinds. -/
def kindsOf : List String → Except Error (List EventKind)
  | [] => .ok []
  | name :: names => do
    let kinds ←
      if name = "network" then pure EventKind.all
      else match EventKind.ofMethod? name with
        | some kind => pure [kind]
        | none => throw (.invalidArgument (.unknownEvent name))
    return kinds ++ (← kindsOf names)

def subscribeNames (s : Subscriptions) (contexts : Contexts)
    (names : List String) (scope : Option (List ContextId)) (id : Uuid) :
    Except Error Subscriptions := do
  s.subscribe contexts (← kindsOf names) scope id

/-- Takes subscriptions away that are no longer in the list, given what each of
them wanted. -/
def drop (s : Subscriptions) (gone : List Subscription)
    (left : List Subscription) : Subscriptions :=
  { s with
    live := left
    counts :=
      s.counts.subtractAll (gone.flatMap Subscription.events) }.updateListener

def unsubscribe (s : Subscriptions) (id : Uuid) : Except Error Subscriptions :=
  match s.live.find? (·.id = id) with
  | none => .error (.invalidArgument (.unknownSubscription id))
  | some subscription => .ok (s.drop [subscription] (s.live.filter (·.id ≠ id)))

/-- Subscriptions limited to a context that is gone lose it, and end with their
last one. -/
def removeContext (s : Subscriptions) (context : ContextId) : Subscriptions :=
  s.drop (s.live.filter fun x => (x.without context).isNone)
    (s.live.filterMap (·.without context))

def hasListener (s : Subscriptions) (kind : EventKind)
    (top : Option ContextId) : Bool :=
  s.counts.contains kind && s.live.any (·.wants kind top)

def size (s : Subscriptions) : Nat := s.live.length

end Subscriptions

end Interception
