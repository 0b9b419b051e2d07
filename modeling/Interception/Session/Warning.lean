import Interception.Error

/-!
# Warnings

What the engine notes for whoever runs it.
-/

namespace Interception

inductive Warning where
  | replaced (request : RequestId) (phase : Phase)
  | manyHeld (held limit : Nat)
  | settledHeader (name : String)
  | incomplete (request : RequestId) (kind : EventKind) (cause : Error)
deriving Repr

namespace Warning

def message : Warning → String
  | .replaced _ _ => "Replacing unresolved blocked exchange"
  | .manyHeld _ _ => "Many exchanges are blocked"
  | .settledHeader _ => "Skipping immutable header on a received response"
  | .incomplete _ _ _ => "Failed to build network event"

def fields : Warning → List (String × String)
  | .replaced request phase => [("request", request), ("phase", phase.inspect)]
  | .manyHeld held limit =>
    [("blocked", toString held), ("limit", toString limit)]
  | .settledHeader name => [("header", name)]
  | .incomplete request kind cause =>
    [("request", request), ("event", kind.method), ("error", cause.message)]

end Warning

end Interception
