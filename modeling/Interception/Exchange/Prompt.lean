import Interception.Command.Parameters

/-!
# Prompts for credentials

A prompt of the platform is answered by one of three calls, which it records.
-/

namespace Interception

inductive PromptCall where
  | cancel
  | forward
  /-- Without credentials, those that the platform remembers are used, or
  none. -/
  | provide (credentials : Option Credentials)
deriving DecidableEq, Repr

def PromptCall.text : PromptCall → String
  | .cancel => "cancel"
  | .forward => "forward"
  | .provide none => "provide"
  | .provide (some c) => "provide:" ++ c.username ++ ":" ++ c.password

structure Prompt where
  calls : List PromptCall := []
deriving DecidableEq, Repr

def Prompt.call (p : Prompt) (c : PromptCall) : Prompt := ⟨p.calls ++ [c]⟩

end Interception
