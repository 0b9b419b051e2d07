import Interception.Session.Basic

/-!
# The engine

A command works on the session step by step and may fail at any of its steps.
What it did before it failed stays done: a command that is to fail as a whole
has to check everything before its first change.
-/

namespace Interception

abbrev Engine (α : Type) := EStateM Error Session α

namespace Engine

variable {α : Type}

def check : Except Error α → Engine α
  | .ok a => pure a
  | .error e => throw e

def peek (id : RequestId) : Engine Suspension := do
  let s ← get
  check (s.suspensions.peek id)

def claim (peeked : Suspension) : Engine Suspension := do
  let s ← get
  let (result, suspensions) := s.suspensions.tryClaim peeked
  set { s with suspensions }
  check result

def settle (held : Suspension) (resolution : Resolution) : Engine Unit :=
  modify fun s =>
    { s with suspensions := s.suspensions.release held.generation resolution }

def abandon (held : Suspension) : Engine Unit :=
  modify fun s =>
    { s with suspensions := s.suspensions.abandon held.generation }

def call (c : Call) : Engine Unit := modify (·.call c)

def callAll : List Call → Engine Unit
  | [] => pure ()
  | c :: cs => do
    call c
    callAll cs

def isSuspended (ref : RequestRef) : Engine Bool := do
  let s ← get
  return (s.transport.request? ref).any (·.suspended)

def mark (now : Nat) (id : RequestId) : Engine Unit :=
  modify fun s => { s with redirects := s.redirects.mark now id }

def warn (warnings : List Warning) : Engine Unit := modify (·.warn warnings)

/-! ## What the steps do -/

@[simp] theorem run_check_ok (a : α) (s : Session) :
    (check (.ok a)).run s = .ok a s :=
  rfl

@[simp] theorem run_check_error (e : Error) (s : Session) :
    (check (.error e) : Engine α).run s = .error e s := rfl

@[simp] theorem run_map {β : Type} (f : α → β) (m : Engine α) (s : Session) :
    (f <$> m).run s = match m.run s with
      | .ok a s => .ok (f a) s
      | .error e s => .error e s := by
  rw [map_eq_pure_bind, EStateM.run_bind]
  cases m.run s <;> rfl

theorem run_peek (id : RequestId) (s : Session) :
    (peek id).run s = match s.suspensions.live.get? id with
      | some held => .ok held s
      | none => .error (.noSuchRequest id) s := by
  cases found : s.suspensions.live.get? id <;>
    simp [peek, Suspensions.peek, EStateM.run_bind, found]

theorem run_claim {s : Session} {peeked held : Suspension}
    {suspensions : Suspensions}
    (claimed : s.suspensions.tryClaim peeked = (.ok held, suspensions)) :
    (claim peeked).run s = .ok held { s with suspensions } := by
  simp [claim, EStateM.run_bind, claimed]

@[simp] theorem run_settle (held : Suspension) (resolution : Resolution)
    (s : Session) :
    (settle held resolution).run s =
      .ok () { s with suspensions := s.suspensions.release held.generation
                        resolution } := rfl

@[simp] theorem run_call (c : Call) (s : Session) :
    (call c).run s = .ok () { s with transport := s.transport.perform c } := rfl

@[simp] theorem run_callAll (cs : List Call) (s : Session) :
    (callAll cs).run s =
      .ok () { s with transport := s.transport.performAll cs } := by
  induction cs generalizing s with
  | nil => rfl
  | cons c cs ih => simp [callAll, EStateM.run_bind, ih]

@[simp] theorem run_isSuspended (ref : RequestRef) (s : Session) :
    (isSuspended ref).run s =
      .ok ((s.transport.request? ref).any (·.suspended)) s := rfl

@[simp] theorem run_mark (now : Nat) (id : RequestId) (s : Session) :
    (mark now id).run s =
      .ok () { s with redirects := s.redirects.mark now id } := rfl

@[simp] theorem run_warn (warnings : List Warning) (s : Session) :
    (warn warnings).run s = .ok () (s.warn warnings) := rfl

/-! ## Intercepts and cache -/

def addIntercept (p : AddIntercept) : Engine InterceptRef := do
  let s ← get
  let (id, ids) := s.ids.next
  let intercepts ← check (s.intercepts.add s.contexts p id)
  set { s with ids, intercepts }
  return ⟨id⟩

theorem run_addIntercept (p : AddIntercept) (s : Session) :
    (addIntercept p).run s =
      match s.intercepts.add s.contexts p s.ids.next.1 with
      | .ok intercepts =>
        .ok ⟨s.ids.next.1⟩ { s with ids := s.ids.next.2, intercepts }
      | .error e => .error e s := by
  rw [addIntercept, EStateM.run_bind, EStateM.run_get]
  dsimp only
  -- Ids are large numbers, which are better not computed.
  generalize s.ids.next = next
  cases s.intercepts.add s.contexts p next.1 <;> simp [EStateM.run_bind]

def removeIntercept (p : InterceptRef) : Engine Unit := do
  let s ← get
  let intercepts ← check (s.intercepts.remove p.intercept)
  set { s with intercepts }

def overrideAll (behavior : CacheBehavior) : List ContextId → Engine Unit
  | [] => pure ()
  | id :: ids => do
    modify (·.overrideCache behavior id)
    overrideAll behavior ids

def setCacheBehavior (p : SetCacheBehavior) : Engine Unit := do
  match p.contexts with
  | none => modify (·.resetCache p.cacheBehavior)
  | some ids => do
    let s ← get
    check (s.contexts.requireTopLevels ids)
    overrideAll p.cacheBehavior ids

def outcome (m : Engine α) (s : Session) : Except Error α × Session :=
  match m.run s with
  | .ok a s => (.ok a, s)
  | .error e s => (.error e, s)

end Engine

namespace Session

def attempt {α : Type} (s : Session) (m : Engine α) :
    Except Error (α × Session) :=
  match m.outcome s with
  | (.ok a, s) => .ok (a, s)
  | (.error e, _) => .error e

def addIntercept (s : Session) (p : AddIntercept) :
    Except Error (InterceptRef × Session) :=
  s.attempt (Engine.addIntercept p)

end Session

end Interception
