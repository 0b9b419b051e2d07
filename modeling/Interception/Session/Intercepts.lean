import Interception.Command.Parameters
import Interception.Pattern.Compiled
import Interception.Session.Contexts

/-!
# Intercepts

An intercept holds exchanges in some phases, of some contexts, whose URL matches
one of its patterns. Intercepts are kept in the order in which they were added.
-/

namespace Interception

structure Intercept where
  id : InterceptId
  /-- The tabs it is limited to; without them it is for every context. -/
  contexts : Option (List ContextId)
  phases : List Phase
  /-- Without patterns every URL matches. -/
  patterns : List Pattern.Compiled
deriving DecidableEq, Repr

namespace Intercept

def covers (i : Intercept) (top : Option ContextId) : Bool :=
  match i.contexts, top with
  | none, _ => true
  | some ids, some id => ids.contains id
  | some _, none => false

def applies (i : Intercept) (phase : Phase) (url : String)
    (top : Option ContextId) : Bool :=
  i.covers top && i.phases.contains phase &&
    (i.patterns.isEmpty || i.patterns.any (·.matchesText url))

end Intercept

def compilePatterns : List UrlPattern → Except Error (List Pattern.Compiled)
  | [] => .ok []
  | p :: ps =>
    match p.compile with
    | .error cause => .error (.invalidArgument (.pattern cause))
    | .ok c => (compilePatterns ps).map (c :: ·)

structure Intercepts where
  list : List Intercept := []
deriving DecidableEq, Repr

namespace Intercepts

def validate (contexts : Contexts) (p : AddIntercept) (id : InterceptId) :
    Except Error Intercept := do
  if p.phases.isEmpty then throw (.invalidArgument (.emptyList "phases"))
  match p.contexts with
  | some ids => contexts.requireTopLevels ids
  | none => pure ()
  let patterns ← compilePatterns (p.urlPatterns.getD [])
  return { id, contexts := p.contexts.map List.eraseDups,
           phases := p.phases.eraseDups, patterns }

def add (s : Intercepts) (contexts : Contexts) (p : AddIntercept)
    (id : InterceptId) : Except Error Intercepts := do
  let intercept ← validate contexts p id
  return ⟨s.list ++ [intercept]⟩

def get? (s : Intercepts) (id : InterceptId) : Option Intercept :=
  s.list.find? (·.id = id)

/-- Exchanges that it holds already stay held. -/
def remove (s : Intercepts) (id : InterceptId) : Except Error Intercepts :=
  if s.list.any (·.id = id) then .ok ⟨s.list.eraseP (·.id = id)⟩
  else .error (.noSuchIntercept id.text)

def matching (s : Intercepts) (kind : EventKind) (url : String)
    (top : Option ContextId) : List InterceptId :=
  match kind.phase? with
  | none => []
  | some phase => (s.list.filter (·.applies phase url top)).map (·.id)

def size (s : Intercepts) : Nat := s.list.length

end Intercepts

end Interception
