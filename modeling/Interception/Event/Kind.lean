import Interception.Wire.Decoder

/-!
# Kinds of events and phases

An exchange passes through up to five points at which it is reported. At three
of them, the phases, it can be held.
-/

namespace Interception

abbrev RequestId := String

abbrev ContextId := String

abbrev InterceptId := Uuid

inductive Phase where
  | beforeRequestSent
  | responseStarted
  | authRequired
deriving DecidableEq, Repr

namespace Phase

def text : Phase → String
  | .beforeRequestSent => "beforeRequestSent"
  | .responseStarted => "responseStarted"
  | .authRequired => "authRequired"

/-- The name under which diagnostics of the engine's own state show a phase. -/
def inspect : Phase → String
  | .beforeRequestSent => "BeforeRequestSent"
  | .responseStarted => "ResponseStarted"
  | .authRequired => "AuthRequired"

def variants : Wire.Variants Phase :=
  [.beforeRequestSent, .responseStarted, .authRequired].map fun p => (p.text, p)

def decoder : Wire.Decoder Phase := Wire.variant variants

def toJson (p : Phase) : Json := .str p.text

end Phase

inductive EventKind where
  | beforeRequestSent
  | responseStarted
  | responseCompleted
  | fetchError
  | authRequired
deriving DecidableEq, Repr

namespace EventKind

def all : List EventKind :=
  [.beforeRequestSent, .authRequired, .responseStarted,
    .responseCompleted, .fetchError]

def text : EventKind → String
  | .beforeRequestSent => "beforeRequestSent"
  | .responseStarted => "responseStarted"
  | .responseCompleted => "responseCompleted"
  | .fetchError => "fetchError"
  | .authRequired => "authRequired"

def inspect : EventKind → String
  | .beforeRequestSent => "BeforeRequestSent"
  | .responseStarted => "ResponseStarted"
  | .responseCompleted => "ResponseCompleted"
  | .fetchError => "FetchError"
  | .authRequired => "AuthRequired"

/-- The phase at which an exchange reported this way can be held. -/
def phase? : EventKind → Option Phase
  | .beforeRequestSent => some .beforeRequestSent
  | .responseStarted => some .responseStarted
  | .authRequired => some .authRequired
  | .responseCompleted => none
  | .fetchError => none

def method : EventKind → String
  | .beforeRequestSent => "network.beforeRequestSent"
  | .responseStarted => "network.responseStarted"
  | .responseCompleted => "network.responseCompleted"
  | .fetchError => "network.fetchError"
  | .authRequired => "network.authRequired"

def ofMethod? (name : String) : Option EventKind := all.find? (·.method == name)

/-- In the order in which diagnostics list them. -/
def listing : List EventKind :=
  [.beforeRequestSent, .responseStarted, .responseCompleted,
    .fetchError, .authRequired]

def variants : Wire.Variants EventKind := listing.map fun k => (k.text, k)

def decoder : Wire.Decoder EventKind := Wire.variant variants

def toJson (k : EventKind) : Json := .str k.text

end EventKind

end Interception
