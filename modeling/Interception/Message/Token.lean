/-!
# Tokens and field values

The lexical rules of HTTP messages: method and header names are tokens, and
header values neither start nor end with a blank and hold no line breaks.
-/

namespace Interception.Message

def isTokenChar (c : Char) : Bool :=
  c.isAlphanum ||
    ['!', '#', '$', '%', '&', '\'', '*', '+', '-', '.', '^', '_', '\x60',
      '|', '~'].contains c

def isToken (s : String) : Bool :=
  !s.toList.isEmpty && s.toList.all isTokenChar

def isPadding (c : Char) : Bool := c = ' ' || c = '\t'

def isBreak (c : Char) : Bool := c = '\r' || c = '\n' || c = '\x00'

def isFieldValue (s : String) : Bool :=
  let cs := s.toList
  !(cs.head?.any isPadding) && !(cs.getLast?.any isPadding) && !cs.any isBreak

/-- Equality of ASCII texts up to case; other characters have to be the same. -/
def sameName (a b : String) : Bool :=
  a.toList.map Char.toLower == b.toList.map Char.toLower

def lowerName (s : String) : String := String.ofList (s.toList.map Char.toLower)

end Interception.Message
