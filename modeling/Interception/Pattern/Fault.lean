import Interception.Text.Quoted
import Interception.Url.Fault

/-!
# Why a URL pattern does not compile
-/

namespace Interception.Pattern

/-- The parts of a URL that a pattern constrains; `literal` is a pattern given
as one text. -/
inductive Slot where
  | protocol
  | hostname
  | port
  | pathname
  | search
  | literal
deriving DecidableEq, Repr

def Slot.text : Slot → String
  | .protocol => "protocol"
  | .hostname => "hostname"
  | .port => "port"
  | .pathname => "pathname"
  | .search => "search"
  | .literal => "string"

inductive Fault where
  | trailingBackslash (slot : Slot) (text : String)
  | unescaped (c : Char) (slot : Slot) (text : String)
  | invalid (slot : Slot) (text : String)
  | globTrailingBackslash (text : String)
  | globTooLarge (limit : Nat) (text : String)
  | invalidUrl (text : String) (cause : Url.Fault)
deriving DecidableEq, Repr

def Fault.message : Fault → String
  | .trailingBackslash slot text =>
    "Trailing backslash in " ++ slot.text ++ " pattern: " ++ Text.quoted text
  | .unescaped c slot text =>
    "Unescaped " ++ Text.quotedChar c ++ " in " ++ slot.text ++ " pattern: " ++
      Text.quoted text
  | .invalid slot text =>
    "Invalid " ++ slot.text ++ " in URL pattern: " ++ Text.quoted text
  | .globTrailingBackslash text =>
    "Trailing backslash in URL pattern: " ++ Text.quoted text
  | .globTooLarge limit text =>
    "Invalid URL pattern " ++ Text.quoted text ++
      ": Compiled regex exceeds size limit of " ++
      toString limit ++ " bytes."
  | .invalidUrl text cause =>
    "Invalid URL pattern " ++ Text.quoted text ++ ": " ++ cause.message

end Interception.Pattern
