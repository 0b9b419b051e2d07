import Interception.Text.Hidden

/-!
# Quoted texts

How diagnostics show a text or a character: between quotes, with backslash
escapes for the quote, the backslash and the common control characters, and
`\u{…}` with the code point in hexadecimal for every other character that does
not show.
-/

namespace Interception.Text

def hexDigits (n : Nat) : List Char := Nat.toDigits 16 n

def escaped (quote : Char) (c : Char) : List Char :=
  if c = '\x00' then ['\\', '0']
  else if c = '\t' then ['\\', 't']
  else if c = '\r' then ['\\', 'r']
  else if c = '\n' then ['\\', 'n']
  else if c = quote || c = '\\' then ['\\', c]
  else if isHidden c then ['\\', 'u', '\x7b'] ++ hexDigits c.toNat ++ ['\x7d']
  else [c]

def quotedChars (cs : List Char) : List Char :=
  '"' :: cs.flatMap (escaped '"') ++ ['"']

def quoted (s : String) : String := String.ofList (quotedChars s.toList)

def quotedChar (c : Char) : String :=
  String.ofList ('\'' :: escaped '\'' c ++ ['\''])

end Interception.Text
