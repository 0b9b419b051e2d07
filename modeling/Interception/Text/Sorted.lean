/-!
# Sorted texts

By code points, which is also the order of the encoded bytes.
-/

namespace Interception.Text

def charsPrecede : List Char → List Char → Bool
  | _, [] => false
  | [], _ :: _ => true
  | a :: as, b :: bs => a.toNat < b.toNat || (a == b && charsPrecede as bs)

def precedes (a b : String) : Bool := charsPrecede a.toList b.toList

def sorted (ss : List String) : List String :=
  ss.mergeSort fun a b => !precedes b a

def sortedSet (ss : List String) : List String := sorted ss.eraseDups

end Interception.Text
