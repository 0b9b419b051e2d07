import Interception.Text.Utf8
import Interception.Url.Domain.Rules
import Interception.Url.Punycode

/-!
# Domain names in ASCII

A domain name is mapped and composed, and its labels beyond ASCII are written in
Punycode after the mark `xn--`. Labels that come with the mark are read back and
have to be what writing would have produced.
-/

namespace Interception.Url.Domain

def maxMarkedLength : Nat := 2000

def maxLabelLength : Nat := 1000

/-- The label that a marked label stands for: it goes beyond ASCII and needs no
mapping. -/
def unmark? (cs : List Char) : Option (List Char) := do
  guard (cs.length ≤ maxMarkedLength)
  let label ← Punycode.decode cs
  guard (!isAscii label && label.all (image · = .kept) && compose label = label)
  return label

def readLabel? (cs : List Char) : Option (List Char) := do
  let label ← match cs with
    | 'x' :: 'n' :: '-' :: '-' :: rest => unmark? rest
    | cs => some cs
  guard (isAscii label || (isProper label && label.length ≤ maxLabelLength))
  guard (!label.any isDenied)
  return label

def writeLabel (label : List Char) : List Char :=
  if isAscii label then label else 'x' :: 'n' :: '-' :: '-' ::
    Punycode.encode label

def toAscii? (bytes : List UInt8) : Option (List Char) := do
  let text ← Text.ofUtf8? bytes
  let mapped ← mapChars text.toList
  let labels ← (Text.pieces '.' (compose mapped)).mapM readLabel?
  guard (!labels.any hasTurns || labels.all directionFits)
  return Text.join ['.'] (labels.map writeLabel)

end Interception.Url.Domain
