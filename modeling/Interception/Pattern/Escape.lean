import Interception.Pattern.Fault

/-!
# Escapes in patterns

A backslash takes the next character as it is. Bare characters of the pattern
language are refused in parts that are matched literally.
-/

namespace Interception.Pattern

def isReserved (c : Char) : Bool := ['*', '(', ')', '{', '}'].contains c

/-- Resolves the escapes of `text`, which is shown in diagnostics, given its
characters. -/
def unescapeChars (slot : Slot) (text : String) :
    List Char → Except Fault (List Char)
  | [] => .ok []
  | '\\' :: c :: rest => (unescapeChars slot text rest).map (c :: ·)
  | ['\\'] => .error (.trailingBackslash slot text)
  | c :: rest =>
    if isReserved c then .error (.unescaped c slot text)
    else (unescapeChars slot text rest).map (c :: ·)

def unescape (slot : Slot) (text : String) : Except Fault (List Char) :=
  unescapeChars slot text text.toList

/-- Whether there is a star that is not escaped, where the first character may
be. -/
def hasWildcardFrom (escaped : Bool) : List Char → Bool
  | [] => false
  | c :: rest =>
    if escaped then hasWildcardFrom false rest
    else if c = '\\' then hasWildcardFrom true rest
    else c = '*' || hasWildcardFrom false rest

def hasWildcard (cs : List Char) : Bool := hasWildcardFrom false cs

end Interception.Pattern
