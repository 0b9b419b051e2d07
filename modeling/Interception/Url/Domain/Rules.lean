import Interception.Url.Domain.Normal
import Interception.Url.Domain.ClassTable

/-!
# Which labels a domain name may have
-/

namespace Interception.Url.Domain

/-! ## Joiners -/

def joiner : Char := Char.ofNat 0x200D

def nonJoiner : Char := Char.ofNat 0x200C

def isVirama (c : Char) : Bool := inRanges viramas c.toNat

def isTransparent (c : Char) : Bool := inRanges joinTransparent c.toNat

def joinsForward (c : Char) : Bool :=
  inRanges joinsLeft c.toNat || inRanges joinsBoth c.toNat

def joinsBackward (c : Char) : Bool :=
  inRanges joinsRight c.toNat || inRanges joinsBoth c.toNat

def betweenJoining (before after : List Char) : Bool :=
  ((before.dropWhile isTransparent).head?.any joinsForward) &&
    ((after.dropWhile isTransparent).head?.any joinsBackward)

/-- Joiners only after a virama; non-joiners also where they separate letters
that would join. -/
def joinersFit : List Char → List Char → Bool
  | _, [] => true
  | before, c :: after =>
    (if c = joiner then before.head?.any isVirama
      else if c = nonJoiner then
        before.head?.any isVirama || betweenJoining before after
      else true) && joinersFit (c :: before) after

/-! ## Directions -/

def direction (c : Char) : Direction :=
  let n := c.toNat
  if inRanges rightToLeftRanges n then .rightToLeft
  else if inRanges arabicLetterRanges n then .arabicLetter
  else if inRanges arabicNumberRanges n then .arabicNumber
  else if inRanges europeanNumberRanges n then .europeanNumber
  else if inRanges europeanSeparatorRanges n then .europeanSeparator
  else if inRanges commonSeparatorRanges n then .commonSeparator
  else if inRanges europeanTerminatorRanges n then .europeanTerminator
  else if inRanges neutralRanges n then .neutral
  else if inRanges boundaryNeutralRanges n then .boundaryNeutral
  else if inRanges markRanges n then .mark
  else .leftToRight

def turnsText (d : Direction) : Bool :=
  d = .rightToLeft || d = .arabicLetter || d = .arabicNumber

/-- A name with a character that runs to the left needs all its labels to keep
to one direction. -/
def hasTurns (cs : List Char) : Bool :=
  cs.any fun c => 0x590 ≤ c.toNat && turnsText (direction c)

def fitsBoth (d : Direction) : Bool :=
  match d with
  | .europeanNumber | .europeanSeparator | .commonSeparator |
    .europeanTerminator | .neutral
  | .boundaryNeutral | .mark => true
  | _ => false

def directionFits (cs : List Char) : Bool :=
  let ds := cs.map direction
  let last := (ds.reverse.dropWhile (· = .mark)).head?
  match ds.head? with
  | none => true
  | some .leftToRight =>
    ds.all (fun d => d = .leftToRight || fitsBoth d) &&
      last.any fun d => d = .leftToRight || d = .europeanNumber
  | some first =>
    (first = .rightToLeft || first = .arabicLetter) &&
      ds.all (fun d => turnsText d || fitsBoth d) &&
      last.any (fun d => turnsText d || d = .europeanNumber) &&
      !(ds.contains .europeanNumber && ds.contains .arabicNumber)

/-! ## Labels -/

def startsWithMark (cs : List Char) : Bool :=
  cs.head?.any fun c => inRanges combiningMarks c.toNat

def isAscii (cs : List Char) : Bool := cs.all (·.toNat < 0x80)

def isProper (label : List Char) : Bool :=
  !startsWithMark label && joinersFit [] label

def isDenied (c : Char) : Bool :=
  let n := c.toNat
  n ≤ 0x20 || n == 0x7F ||
    ['%', '#', '/', ':', '<', '>', '?', '@', '[', '\\', ']', '^',
      '|'].contains c

end Interception.Url.Domain
