import Interception.Exchange.Prompt
import Interception.Exchange.Request
import Interception.Exchange.Response

/-!
# The transport

Holds the requests, responses and prompts of all exchanges. They are referred to
by when they were added; several requests may have the same id, one after the
other.
-/

namespace Interception

structure RequestRef where
  index : Nat
deriving DecidableEq, Repr

structure ResponseRef where
  index : Nat
deriving DecidableEq, Repr

structure PromptRef where
  index : Nat
deriving DecidableEq, Repr

inductive Call where
  | request (ref : RequestRef) (call : RequestCall)
  | response (ref : ResponseRef) (call : ResponseCall)
  | prompt (ref : PromptRef) (call : PromptCall)
deriving DecidableEq, Repr

structure Transport where
  requests : List Request := []
  responses : List Response := []
  prompts : List Prompt := []
  calls : List Call := []
deriving DecidableEq, Repr

namespace Transport

def request? (t : Transport) (ref : RequestRef) : Option Request :=
  t.requests[ref.index]?

def response? (t : Transport) (ref : ResponseRef) : Option Response :=
  t.responses[ref.index]?

def prompt? (t : Transport) (ref : PromptRef) : Option Prompt :=
  t.prompts[ref.index]?

def addRequest (t : Transport) (r : Request) : RequestRef × Transport :=
  (⟨t.requests.length⟩, { t with requests := t.requests ++ [r] })

def addResponse (t : Transport) (r : Response) : ResponseRef × Transport :=
  (⟨t.responses.length⟩, { t with responses := t.responses ++ [r] })

def addPrompt (t : Transport) (p : Prompt) : PromptRef × Transport :=
  (⟨t.prompts.length⟩, { t with prompts := t.prompts ++ [p] })

def updateRequest (t : Transport) (ref : RequestRef) (f : Request → Request) :
    Transport :=
  { t with requests := t.requests.modify ref.index f }

def updateResponse (t : Transport) (ref : ResponseRef)
    (f : Response → Response) : Transport :=
  { t with responses := t.responses.modify ref.index f }

def updatePrompt (t : Transport) (ref : PromptRef) (f : Prompt → Prompt) :
    Transport :=
  { t with prompts := t.prompts.modify ref.index f }

def deliver (t : Transport) : Call → Transport
  | .request ref call => t.updateRequest ref (·.receive call)
  | .response ref call => t.updateResponse ref (·.receive call)
  | .prompt ref call => t.updatePrompt ref (·.call call)

def perform (t : Transport) (c : Call) : Transport :=
  { t.deliver c with calls := t.calls ++ [c] }

def performAll (t : Transport) (cs : List Call) : Transport :=
  cs.foldl perform t

@[simp] theorem performAll_nil (t : Transport) : t.performAll [] = t := rfl

@[simp] theorem performAll_cons (t : Transport) (c : Call) (cs : List Call) :
    t.performAll (c :: cs) = (t.perform c).performAll cs := rfl

@[simp] theorem performAll_append (t : Transport) (first second : List Call) :
    t.performAll (first ++ second) = (t.performAll first).performAll second :=
  List.foldl_append

end Transport

/-- What the platform reports about an exchange. Which of the optional parts a
notification needs depends on its kind. -/
structure Notification where
  kind : EventKind
  request : RequestRef
  response : Option ResponseRef := none
  prompt : Option PromptRef := none
  errorText : Option String := none
deriving DecidableEq, Repr

def Notification.inspect (n : Notification) (id : RequestId) : String :=
  let flag (b : Bool) : String := if b then "true" else "false"
  let errorText := match n.errorText with
    | some text => "Some(" ++ Text.quoted text ++ ")"
    | none => "None"
  "NetworkNotification \x7b kind: " ++ n.kind.inspect ++
    ", request: RequestId(" ++ Text.quoted id ++ "), has_response: " ++
    flag n.response.isSome ++ ", has_auth_callbacks: " ++
    flag n.prompt.isSome ++ ", error_text: " ++ errorText ++ " \x7d"

end Interception
