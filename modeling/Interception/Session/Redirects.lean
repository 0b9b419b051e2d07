import Interception.Event.Kind
import Interception.Table

/-!
# Redirected requests

A request that is sent to another URL is announced again. Until then, or until
its time is over, it is marked, so that the second announcement can be told from
a new request.
-/

namespace Interception

structure Redirects where
  /-- For how many milliseconds a mark counts. -/
  lifetime : Nat
  marks : Table RequestId Nat := .empty
deriving DecidableEq, Repr

namespace Redirects

def mark (s : Redirects) (now : Nat) (id : RequestId) : Redirects :=
  { s with marks := s.marks.insert id now }

def purge (s : Redirects) (now : Nat) : Redirects :=
  { s with marks := s.marks.filter fun _ marked => now - marked < s.lifetime }

/-- Whether the request is marked. The mark is taken away. -/
def consume (s : Redirects) (now : Nat) (id : RequestId) : Bool × Redirects :=
  let s := s.purge now
  (s.marks.contains id, { s with marks := s.marks.erase id })

def forget (s : Redirects) (id : RequestId) : Redirects :=
  { s with marks := s.marks.erase id }

end Redirects

end Interception
