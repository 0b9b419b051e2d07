import Interception.Session.Config
import Interception.Session.Intercepts
import Interception.Session.Redirects
import Interception.Session.Subscriptions
import Interception.Session.Suspensions

/-!
# Sessions

All that the engine knows for one client, together with the transport that it
acts on.
-/

namespace Interception

structure CacheSettings where
  default : CacheBehavior
  overrides : Table ContextId CacheBehavior := .empty
deriving DecidableEq, Repr

structure Session where
  config : Config
  ids : IdSource
  contexts : Contexts := {}
  intercepts : Intercepts := {}
  subscriptions : Subscriptions := {}
  suspensions : Suspensions
  redirects : Redirects
  cache : CacheSettings
  transport : Transport := {}
  log : List Warning := []
deriving Repr

namespace Session

def start (config : Config) (ids : IdSource) : Session where
  config
  ids
  suspensions := { limit := config.maxHeld }
  redirects := { lifetime := config.redirectLifetime }
  cache := { default := config.cacheBehavior }

def warn (s : Session) (warnings : List Warning) : Session :=
  { s with log := s.log ++ warnings }

def call (s : Session) (c : Call) : Session :=
  { s with transport := s.transport.perform c }

/-! ## Subscriptions -/

def enroll (s : Session) (enter : Uuid → Except Error Subscriptions) :
    Except Error (Uuid × Session) := do
  let (id, ids) := s.ids.next
  let subscriptions ← enter id
  return (id, { s with ids, subscriptions })

def subscribe (s : Session) (events : List EventKind)
    (scope : Option (List ContextId)) : Except Error (Uuid × Session) :=
  s.enroll (s.subscriptions.subscribe s.contexts events scope)

def subscribeNames (s : Session) (names : List String)
    (scope : Option (List ContextId)) : Except Error (Uuid × Session) :=
  s.enroll (s.subscriptions.subscribeNames s.contexts names scope)

def unsubscribe (s : Session) (id : Uuid) : Except Error Session := do
  return { s with subscriptions := ← s.subscriptions.unsubscribe id }

/-! ## Cache -/

def overrideCache (s : Session) (behavior : CacheBehavior) (id : ContextId) :
    Session :=
  { s with
    contexts := s.contexts.setBypass id behavior.isBypass
    cache :=
      { s.cache with overrides := s.cache.overrides.insert id behavior } }

/-- For the whole session, where it ends all differences. -/
def resetCache (s : Session) (behavior : CacheBehavior) : Session :=
  { s with
    cache := { default := behavior }
    contexts :=
      s.contexts.topLevels.foldl (fun c id => c.setBypass id behavior.isBypass)
        s.contexts }

def cacheBehavior (s : Session) (id : ContextId) : CacheBehavior :=
  let top := match s.contexts.get? id with
    | some info => info.topLevel
    | none => id
  (s.cache.overrides.get? top).getD s.cache.default

/-! ## Changes on the platform's side -/

def contextCreated (s : Session) (id : ContextId) : Session :=
  if (s.cacheBehavior id).isBypass then
    { s with contexts := s.contexts.setBypass id true }
  else s

/-- Whether a suspension ends with a context: it was issued there, or below that
tab. -/
def endsWith (id : ContextId) (held : Suspension) : Bool :=
  held.topContext = some id || held.context = some id

def contextDestroyed (s : Session) (id : ContextId) : Session :=
  let (released, suspensions) := s.suspensions.discardWhere (endsWith id)
  { s with
    suspensions
    redirects := released.foldl Redirects.forget s.redirects
    cache := { s.cache with overrides := s.cache.overrides.erase id }
    subscriptions := s.subscriptions.removeContext id }

def exchangeClosed (s : Session) (id : RequestId) : Session :=
  { s with
    redirects := s.redirects.forget id
    suspensions := (s.suspensions.discard id).2 }

end Session

end Interception
