import Interception.Base64
import Interception.Event.Kind
import Interception.Pattern.Fault
import Interception.Wire.Record

/-!
# Errors

Every failure of the engine is one of a few kinds, each with a code of the
protocol. Malformed input is a `Fault`, which says what is wrong with it.
-/

namespace Interception

inductive CookiePart where
  | value
  | expiry
  | domain
  | path
deriving DecidableEq, Repr

def CookiePart.text : CookiePart → String
  | .value => "value"
  | .expiry => "expiry"
  | .domain => "domain"
  | .path => "path"

inductive Fault where
  | parameters (cause : Wire.Failure)
  | base64 (cause : Base64.Fault)
  | headerName (name : String)
  | headerValue (name value : String)
  | cookieName (name : String)
  | cookiePart (part : CookiePart) (text : String)
  | method (text : String)
  | url (text : String) (cause : Url.Fault)
  | reasonPhrase (text : String)
  | pattern (cause : Pattern.Fault)
  | wrongPhase (request : RequestId) (expected : List Phase) (actual : Phase)
  | failInAuth
  | emptyList (name : String)
  | notTopLevel (context : ContextId)
  | unknownEvent (name : String)
  | unknownSubscription (id : Uuid)
  | described (text : String)
deriving Repr

def Fault.message : Fault → String
  | .parameters cause => "Invalid command parameters: " ++ cause.message
  | .base64 cause => "Invalid base64 value: " ++ cause.message
  | .headerName name =>
    "Header name is not a valid HTTP token: " ++ Text.quoted name
  | .headerValue name value =>
    "Invalid value for header " ++ name ++ ": " ++ Text.quoted value
  | .cookieName name =>
    "Cookie name is not a valid HTTP token: " ++ Text.quoted name
  | .cookiePart part text =>
    "Invalid cookie " ++ part.text ++ ": " ++ Text.quoted text
  | .method text => "Method is not a valid HTTP token: " ++ Text.quoted text
  | .url text cause =>
    "Invalid URL " ++ Text.quoted text ++ ": " ++ cause.message
  | .reasonPhrase text => "Invalid reason phrase: " ++ Text.quoted text
  | .pattern cause => cause.message
  | .wrongPhase request expected actual =>
    "Expected blocked request " ++ request ++ " to be in phase " ++
      " or ".intercalate (expected.map Phase.text) ++ ", got " ++ actual.text
  | .failInAuth =>
    "Cannot fail a request blocked in authRequired, use continueWithAuth " ++
      "with action \"cancel\""
  | .emptyList name => "Expected \"" ++ name ++ "\" to be a non-empty array"
  | .notTopLevel context =>
    "Context with id " ++ context ++ " is not a top-level browsing context"
  | .unknownEvent name => "Unknown network event: " ++ name
  | .unknownSubscription id => "No such subscription: " ++ id.text
  | .described text => text

inductive Unsupported where
  | providedField (name : String) (phase : Phase)
  | described (text : String)
deriving Repr

def Unsupported.message : Unsupported → String
  | .providedField name phase =>
    "provideResponse does not support \"" ++ name ++
      "\" in phase " ++ phase.text
  | .described text => text

inductive Error where
  | invalidArgument (fault : Fault)
  | noSuchRequest (id : String)
  | noSuchIntercept (id : String)
  | noSuchFrame (id : String)
  | unsupportedOperation (cause : Unsupported)
  | unknownCommand (name : String)
  | serialization (cause : Wire.Failure)
  | other (text : String)
deriving Repr

namespace Error

def code : Error → String
  | .invalidArgument _ => "invalid argument"
  | .noSuchRequest _ => "no such request"
  | .noSuchIntercept _ => "no such intercept"
  | .noSuchFrame _ => "no such frame"
  | .unsupportedOperation _ => "unsupported operation"
  | .unknownCommand _ => "unknown command"
  | .serialization _ => "unknown error"
  | .other _ => "unknown error"

def detail : Error → String
  | .invalidArgument fault => fault.message
  | .noSuchRequest id => id
  | .noSuchIntercept id => id
  | .noSuchFrame id => id
  | .unsupportedOperation cause => cause.message
  | .unknownCommand name => name
  | .serialization cause => cause.message
  | .other text => text

def message (e : Error) : String :=
  match e with
  | .invalidArgument _ => "Invalid argument: " ++ e.detail
  | .noSuchRequest _ => "No such request: " ++ e.detail
  | .noSuchIntercept _ => "No such intercept: " ++ e.detail
  | .noSuchFrame _ => "No such frame: " ++ e.detail
  | .unsupportedOperation _ => "Unsupported operation: " ++ e.detail
  | .unknownCommand _ => "Unknown command: " ++ e.detail
  | .serialization _ => "Serialization error: " ++ e.detail
  | .other _ => e.detail

/-- The error as diagnostics of the engine's own state show it. -/
def inspect (e : Error) : String :=
  let shown := Text.quoted e.detail
  match e with
  | .invalidArgument _ => "InvalidArgument(" ++ shown ++ ")"
  | .noSuchRequest _ => "NoSuchRequest(" ++ shown ++ ")"
  | .noSuchIntercept _ => "NoSuchIntercept(" ++ shown ++ ")"
  | .noSuchFrame _ => "NoSuchFrame(" ++ shown ++ ")"
  | .unsupportedOperation _ => "UnsupportedOperation(" ++ shown ++ ")"
  | .unknownCommand _ => "UnknownCommand(" ++ shown ++ ")"
  | .serialization _ =>
    "Serialization(Error(" ++ shown ++ ", line: 0, column: 0))"
  | .other _ => "Other(" ++ shown ++ ")"

def isInvalidArgument : Error → Bool
  | .invalidArgument _ => true
  | _ => false

def isNoSuchRequest : Error → Bool
  | .noSuchRequest _ => true
  | _ => false

def isClientError : Error → Bool
  | .serialization _ => false
  | .other _ => false
  | _ => true

def inContext (operation text : String) : Error :=
  .other (operation ++ ": " ++ text)

def inArgument (operation text : String) : Error :=
  .invalidArgument (.described (operation ++ ": " ++ text))

end Error

/-! ## Steps that succeeded -/

theorem ok_of_bind {ε α β : Type} {m : Except ε α} {f : α → Except ε β} {b : β}
    (h : m.bind f = .ok b) : ∃ a, m = .ok a ∧ f a = .ok b := by
  cases m with
  | error e => cases h
  | ok a => exact ⟨a, rfl, h⟩

theorem ok_of_map {ε α β : Type} {m : Except ε α} {f : α → β} {b : β}
    (h : m.map f = .ok b) : ∃ a, m = .ok a ∧ f a = b := by
  cases m with
  | error e => cases h
  | ok a => exact ⟨a, rfl, Except.ok.inj h⟩

/-! ## Errors on the wire -/

structure ErrorResponse where
  error : String
  message : String
deriving DecidableEq, Repr

namespace ErrorResponse

def record : Wire.Record ErrorResponse :=
  ErrorResponse.mk <$> .required "error" Wire.string
    <*> .required "message" Wire.string

def decoder : Wire.Decoder ErrorResponse := record.decode "struct ErrorResponse"

def toJson (r : ErrorResponse) : Json :=
  .obj [("error", .str r.error), ("message", .str r.message)]

end ErrorResponse

def Error.response (e : Error) : ErrorResponse := ⟨e.code, e.message⟩

/-- Parameters of a command; null stands for no fields at all. -/
def decodeParams {α : Type} (decode : Wire.Decoder α) (params : Json) :
    Except Error α :=
  let params := match params with
    | .null => Json.obj []
    | v => v
  match decode .direct params with
  | .ok a => .ok a
  | .error cause => .error (.invalidArgument (.parameters cause))

end Interception
