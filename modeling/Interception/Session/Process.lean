import Interception.Event.Basic
import Interception.Session.Basic

/-!
# Processing notifications

A notification becomes an event for the subscribers and, where intercepts match,
a suspension. One that nobody wants, or that lacks a part, is dropped. A prompt
that nothing holds is passed on, so that it does not stay open. The callbacks
are told last, when the exchange is held already, so each of them may let it go.
-/

namespace Interception

namespace Notification

def detail (n : Notification) (t : Transport) (request : Request) :
    Except Error Event.Detail :=
  let response : Except Error ResponseReport :=
    match n.response.bind t.response? with
    | some r => .ok r.report
    | none => .error (.other (n.kind.method ++ " without a response"))
  match n.kind with
  | .beforeRequestSent => .ok (.beforeRequestSent request.initiator)
  | .responseStarted => response.map .responseStarted
  | .responseCompleted => response.map .responseCompleted
  | .fetchError => .ok (.fetchError (n.errorText.getD ""))
  | .authRequired =>
    if n.prompt.isNone then
      .error (.other "authRequired without auth callbacks")
    else response.map .authRequired

def stage? (n : Notification) : Option Stage :=
  match n.kind, n.response, n.prompt with
  | .beforeRequestSent, _, _ => some .request
  | .responseStarted, some r, _ => some (.response r)
  | .authRequired, some r, some p => some (.auth r p)
  | _, _, _ => none

end Notification

def eventBase (now : Nat) (request : Request) (intercepts : List InterceptId) :
    Event.Base where
  context := request.context
  isBlocked := !intercepts.isEmpty
  navigation := request.navigation
  redirectCount := request.redirectCount
  request := request.report
  timestamp := now
  intercepts := if intercepts.isEmpty then none else some intercepts

namespace Session

def forwardPrompt (s : Session) (n : Notification) : Session :=
  match n.kind, n.prompt with
  | .authRequired, some ref =>
    if s.config.forwardAuth then s.call (.prompt ref .forward) else s
  | _, _ => s

/-- Whether this is a redirected request announced again. -/
def absorbReplay (s : Session) (now : Nat) (kind : EventKind) (id : RequestId) :
    Bool × Session :=
  if kind = .beforeRequestSent then
    let (replayed, redirects) := s.redirects.consume now id
    (replayed, { s with redirects })
  else (false, s)

def noteFailure (s : Session) (kind : EventKind) (id : RequestId) : Session :=
  if kind = .fetchError then s.exchangeClosed id else s

/-- The tab above the request, if it has one; nothing at all if its context is
gone. -/
def topContext? (s : Session) (request : Request) : Option (Option ContextId) :=
  match request.context with
  | none => some none
  | some id => (s.contexts.get? id).map fun info => some info.topLevel

/-- The intercepts that hold the exchange. Only prompts can be held if the
transport cannot pause. -/
def holders (s : Session) (kind : EventKind) (request : Request)
    (top : Option ContextId) : List InterceptId :=
  if kind = .authRequired || request.interceptable then
    s.intercepts.matching kind request.url top
  else []

/-- Holds the exchange. Prompts need no suspending: the platform waits for
them. -/
def hold (s : Session) (n : Notification) (request : Request)
    (intercepts : List InterceptId) (top : Option ContextId) : Session :=
  match n.stage? with
  | none => s
  | some stage =>
    let s := match stage with
      | .auth _ _ => s
      | _ => s.call (.request n.request .suspend)
    let (warnings, suspensions) := s.suspensions.hold
      { requestId := request.id, request := n.request,
        context := request.context, stage
        intercepts, topContext := top, generation := 0 }
    { s with suspensions }.warn warnings

/-- What is done with an event by whoever is told of it, and to the session
meanwhile. -/
abbrev Callback := Event → Session → Session

def dispatch (s : Session) (callbacks : List Callback) (event : Event) :
    Session :=
  callbacks.foldl (fun s callback => callback event s) s

@[simp] theorem dispatch_nil (s : Session) (event : Event) :
    s.dispatch [] event = s :=
  rfl

def announce (s : Session) (now : Nat) (n : Notification) (request : Request)
    (top : Option ContextId) (callbacks : List Callback) :
    Option Event × Session :=
  let intercepts := s.holders n.kind request top
  match n.detail s.transport request with
  | .error cause =>
    (none, (s.warn [.incomplete request.id n.kind cause]).forwardPrompt n)
  | .ok detail =>
    let event := { base := eventBase now request intercepts, detail }
    let s := if intercepts.isEmpty then s.forwardPrompt n
      else s.hold n request intercepts top
    (some event, s.dispatch callbacks event)

/-- The event that the callbacks were told of, if any, and the session
afterwards. Without callbacks it is the session in which they would be told. -/
def process (s : Session) (now : Nat) (n : Notification)
    (callbacks : List Callback := []) : Option Event × Session :=
  match s.transport.request? n.request with
  | none => (none, s)
  | some request =>
    let (replayed, s) := s.absorbReplay now n.kind request.id
    if replayed then (none, s)
    else
      let s := s.noteFailure n.kind request.id
      match s.topContext? request with
      | none => (none, s.forwardPrompt n)
      | some top =>
        if s.subscriptions.hasListener n.kind top then
          s.announce now n request top callbacks
        else (none, s.forwardPrompt n)

end Session

end Interception
