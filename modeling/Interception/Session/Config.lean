import Interception.Wire.Decoder

/-!
# Settings of a session
-/

namespace Interception

inductive CacheBehavior where
  | default
  | bypass
deriving DecidableEq, Repr

namespace CacheBehavior

def text : CacheBehavior → String
  | .default => "default"
  | .bypass => "bypass"

def isBypass (b : CacheBehavior) : Bool := b = .bypass

def variants : Wire.Variants CacheBehavior :=
  [.default, .bypass].map fun b => (b.text, b)

def decoder : Wire.Decoder CacheBehavior := Wire.variant variants

def toJson (b : CacheBehavior) : Json := .str b.text

end CacheBehavior

structure Config where
  /-- For how many milliseconds a redirected request waits to be announced
  again. -/
  redirectLifetime : Nat := 30000
  forwardAuth : Bool := true
  cacheBehavior : CacheBehavior := .default
  /-- Holding more exchanges than this gives a warning. -/
  maxHeld : Nat := 10000
deriving DecidableEq, Repr

def Config.brief : Config := { redirectLifetime := 200, maxHeld := 64 }

end Interception
