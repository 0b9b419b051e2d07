import Interception.Command.Changes
import Interception.Session.Engine

/-!
# Releasing held exchanges

Each command looks at the suspension, checks what it is asked for, claims the
suspension, makes the changes and settles the claim. Until the claim nothing is
changed.
-/

namespace Interception

def Suspension.expect (held : Suspension) (allowed : List Phase) :
    Except Error Unit :=
  if allowed.contains held.phase then .ok ()
  else .error (.invalidArgument (.wrongPhase held.requestId allowed held.phase))

namespace Engine

/-- Lets an exchange go on: a prompt is answered, anything else is resumed. -/
def letGo (held : Suspension) (credentials : Option Credentials) :
    Engine Unit := do
  match held.stage with
  | .auth _ prompt =>
    call (.prompt prompt (.provide credentials))
    settle held .authProvided
  | _ =>
    call (.request held.request .resume)
    settle held .continued

def continueRequest (now : Nat) (p : ContinueRequest) : Engine Unit := do
  let peeked ← peek p.request
  check (peeked.expect [.beforeRequestSent])
  let change ← check p.check
  let held ← claim peeked
  callAll (change.edits.map (.request held.request))
  match change.url with
  | some url =>
    mark now p.request
    call (.request held.request (.redirectTo url))
    call (.request held.request .resume)
    settle held .redirected
  | none =>
    call (.request held.request .resume)
    settle held .continued

def changeResponse (ref : ResponseRef) (change : ResponseChange) :
    Engine (List String) := do
  let s ← get
  match s.transport.response? ref with
  | none => return []
  | some r =>
    callAll ((change.edits r).map (.response ref))
    warn ((change.skipped r).map .settledHeader)
    return change.skipped r

def changeHeld (held : Suspension) (change : ResponseChange) :
    Engine (List String) :=
  match held.stage.response? with
  | some ref => changeResponse ref change
  | none => pure []

def continueResponse (p : ContinueResponse) : Engine (List String) := do
  let peeked ← peek p.request
  check (peeked.expect [.responseStarted, .authRequired])
  let change ← check p.check
  let held ← claim peeked
  let skipped ← changeHeld held change
  letGo held p.credentials
  return Text.sorted skipped

def answerPrompt (held : Suspension) (prompt : PromptRef)
    (action : AuthAction) : Engine Unit := do
  match action with
  | .cancel =>
    call (.prompt prompt .cancel)
    settle held .authCancelled
  | .default =>
    call (.prompt prompt .forward)
    settle held .authForwarded
  | .provide c =>
    call (.prompt prompt (.provide (some c)))
    settle held .authProvided

def continueWithAuth (p : ContinueWithAuth) : Engine Unit := do
  let peeked ← peek p.request
  check (peeked.expect [.authRequired])
  let held ← claim peeked
  match held.stage with
  | .auth _ prompt => answerPrompt held prompt p.action
  | _ =>
    abandon held
    throw (.other "authRequired exchange without auth callbacks")

/-- A prompt cannot fail, it is cancelled. -/
def failRequest (p : FailRequest) : Engine Unit := do
  let peeked ← peek p.request
  if peeked.phase = .authRequired then throw (.invalidArgument .failInAuth)
  else
    let held ← claim peeked
    if ← isSuspended held.request then call (.request held.request .resume)
    call (.request held.request .abort)
    settle held .failed

/-- A response is provided before the request was sent; later the exchange is
only let go, and no field may be given. -/
def provideResponse (p : ProvideResponse) : Engine Unit := do
  let peeked ← peek p.request
  if peeked.phase = .beforeRequestSent then
    let substitute ← check p.check
    let held ← claim peeked
    call (.request held.request (.provide substitute))
    call (.request held.request .resume)
    settle held .provided
  else
    match p.firstField? with
    | some name =>
      throw (.unsupportedOperation (.providedField name peeked.phase))
    | none =>
      let held ← claim peeked
      letGo held none

end Engine

namespace Session

def continueResponse (s : Session) (p : ContinueResponse) :
    Except Error (List String × Session) :=
  s.attempt (Engine.continueResponse p)

end Session

end Interception
