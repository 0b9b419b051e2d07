import Interception.Exchange.Transport
import Interception.Session.Warning
import Interception.Table
import Interception.Text.Sorted

/-!
# Suspensions

An exchange that is held has an entry under its request's id. To release it, a
command looks at the entry, then claims it, which takes it off the table, and
settles the claim with how it was released. Each suspension has a number of its
own, and a claim succeeds only while the very suspension that was looked at is
still there, not merely one of the same request.
-/

namespace Interception

/-- What is at hand while an exchange is held. -/
inductive Stage where
  | request
  | response (response : ResponseRef)
  | auth (response : ResponseRef) (prompt : PromptRef)
deriving DecidableEq, Repr

namespace Stage

def phase : Stage → Phase
  | .request => .beforeRequestSent
  | .response _ => .responseStarted
  | .auth _ _ => .authRequired

def response? : Stage → Option ResponseRef
  | .request => none
  | .response r => some r
  | .auth r _ => some r

end Stage

inductive Resolution where
  | continued
  | redirected
  | failed
  | provided
  | authCancelled
  | authForwarded
  | authProvided
  | discarded
deriving DecidableEq, Repr

namespace Resolution

def all : List Resolution :=
  [.continued, .redirected, .failed, .provided, .authCancelled,
    .authForwarded, .authProvided, .discarded]

def inspect : Resolution → String
  | .continued => "Continued"
  | .redirected => "Redirected"
  | .failed => "Failed"
  | .provided => "Provided"
  | .authCancelled => "AuthCancelled"
  | .authForwarded => "AuthForwarded"
  | .authProvided => "AuthProvided"
  | .discarded => "Discarded"

end Resolution

structure Suspension where
  requestId : RequestId
  request : RequestRef
  context : Option ContextId
  stage : Stage
  intercepts : List InterceptId
  topContext : Option ContextId
  generation : Nat
deriving DecidableEq, Repr

namespace Suspension

def phase (s : Suspension) : Phase := s.stage.phase

def inspect (s : Suspension) : String :=
  let intercepts :=
    ", ".intercalate
      (s.intercepts.map fun id => "InterceptId(" ++ id.text ++ ")")
  let top := match s.topContext with
    | some id => "Some(ContextId(" ++ Text.quoted id ++ "))"
    | none => "None"
  "BlockedExchange \x7b request_id: RequestId(" ++
    Text.quoted s.requestId ++ "), phase: " ++ s.phase.inspect ++
    ", intercepts: [" ++ intercepts ++ "], top_context: " ++ top ++
    ", generation: " ++ toString s.generation ++ " \x7d"

def inspectClaim (s : Suspension) : String :=
  "ClaimedExchange \x7b exchange: " ++ s.inspect ++ ", released: false \x7d"

end Suspension

structure Suspensions where
  limit : Nat
  issued : Nat := 0
  live : Table RequestId Suspension := .empty
  claimed : Table Nat Suspension := .empty
  /-- The outcomes that were signalled, the oldest first. -/
  settled : List (Nat × Resolution) := []
deriving DecidableEq, Repr

namespace Suspensions

def settle (s : Suspensions) (generation : Nat) (resolution : Resolution) :
    Suspensions :=
  { s with settled := s.settled ++ [(generation, resolution)] }

def discard (s : Suspensions) (id : RequestId) : Bool × Suspensions :=
  match s.live.get? id with
  | none => (false, s)
  | some held =>
    (true, { s with live := s.live.erase id }.settle held.generation .discarded)

/-- Enters a suspension, numbering it. One that is still there for the same
request is discarded. -/
def hold (s : Suspensions) (held : Suspension) : List Warning × Suspensions :=
  let generation := s.issued + 1
  let replaced := match s.live.get? held.requestId with
    | some stale => [Warning.replaced held.requestId stale.phase]
    | none => []
  let (_, s) := s.discard held.requestId
  let s := { s with
    issued := generation
    live := s.live.insert held.requestId { held with generation } }
  let many :=
    if s.limit < s.live.size then [Warning.manyHeld s.live.size s.limit] else []
  (replaced ++ many, s)

def peek (s : Suspensions) (id : RequestId) : Except Error Suspension :=
  match s.live.get? id with
  | some held => .ok held
  | none => .error (.noSuchRequest id)

/-- Takes the suspension that was looked at off the table, if it is still
there. -/
def tryClaim (s : Suspensions) (peeked : Suspension) :
    Except Error Suspension × Suspensions :=
  let (removed, live) :=
    s.live.removeIf peeked.requestId (·.generation = peeked.generation)
  match removed with
  | some held =>
    (.ok held,
      { s with live, claimed := s.claimed.insert held.generation held })
  | none => (.error (.noSuchRequest peeked.requestId), { s with live })

theorem tryClaim_cases (s : Suspensions) (peeked : Suspension) :
    (∃ held, s.live.get? peeked.requestId = some held ∧
      held.generation = peeked.generation ∧
      s.tryClaim peeked = (.ok held, { s with
        live := s.live.erase peeked.requestId
        claimed := s.claimed.insert held.generation held })) ∨
    (∀ held, s.live.get? peeked.requestId = some held →
      held.generation ≠ peeked.generation) ∧
      s.tryClaim peeked = (.error (.noSuchRequest peeked.requestId), s) := by
  cases found : s.live.get? peeked.requestId with
  | none => exact .inr ⟨by simp, by simp [tryClaim, Table.removeIf, found]⟩
  | some held =>
      by_cases same : held.generation = peeked.generation
      · exact .inl ⟨held, rfl, same,
          by simp [tryClaim, Table.removeIf, found, same]⟩
      · exact .inr ⟨by simpa using same,
          by simp [tryClaim, Table.removeIf, found, same]⟩

def claim (s : Suspensions) (peeked : Suspension) :
    Except Error (Suspension × Suspensions) :=
  match s.tryClaim peeked with
  | (.ok held, s) => .ok (held, s)
  | (.error e, _) => .error e

/-- Signals the outcome of a claim, unless that was done before. -/
def send (s : Suspensions) (generation : Nat) (resolution : Resolution) :
    Suspensions :=
  if s.claimed.contains generation then
    { s with claimed := s.claimed.erase generation }.settle
      generation resolution
  else s

/-- Gives a claim up, which discards it unless it was released. -/
def abandon (s : Suspensions) (generation : Nat) : Suspensions :=
  s.send generation .discarded

def release (s : Suspensions) (generation : Nat) (resolution : Resolution) :
    Suspensions :=
  (s.send generation resolution).abandon generation

def discardAll (s : Suspensions) (ids : List RequestId) : Suspensions :=
  ids.foldl (fun s id => (s.discard id).2) s

def discardWhere (s : Suspensions) (p : Suspension → Bool) :
    List RequestId × Suspensions :=
  let ids := (s.live.filter fun _ held => p held).keys
  (ids, s.discardAll ids)

/-- Discards all entries. Claims stay as they are. -/
def close (s : Suspensions) : Suspensions := s.discardAll s.live.keys

/-- The number by which the outcome of a suspension can be asked for later. -/
def ticket (s : Suspensions) (id : RequestId) : Except Error Nat := do
  return (← s.peek id).generation

/-- How the suspension of that number was released, once it was: what was
signalled last. -/
def outcome? (s : Suspensions) (generation : Nat) : Option Resolution :=
  (s.settled.reverse.find? (·.1 = generation)).map (·.2)

def phaseOf? (s : Suspensions) (id : RequestId) : Option Phase :=
  (s.live.get? id).map Suspension.phase

def ids (s : Suspensions) : List RequestId := Text.sorted s.live.keys

end Suspensions

end Interception
