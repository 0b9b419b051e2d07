import Interception.Session.Continue
import Interception.Session.Process

/-!
# Commands

What a client can ask for, how it is written, and what it is answered.
-/

namespace Interception

inductive Command where
  | addIntercept (p : AddIntercept)
  | removeIntercept (p : InterceptRef)
  | continueRequest (p : ContinueRequest)
  | continueResponse (p : ContinueResponse)
  | continueWithAuth (p : ContinueWithAuth)
  | failRequest (p : FailRequest)
  | provideResponse (p : ProvideResponse)
  | setCacheBehavior (p : SetCacheBehavior)
deriving DecidableEq, Repr

def familyName : String := "network"

def handles (method : String) : Bool :=
  match Text.cutOnce '.' method.toList with
  | some (family, _) => family == familyName.toList
  | none => false

namespace Command

/-- An unknown method is reported whatever the parameters are. -/
def parse (method : String) (params : Json) : Except Error Command :=
  match method with
  | "network.addIntercept" =>
    (decodeParams AddIntercept.decoder params).map .addIntercept
  | "network.removeIntercept" =>
    (decodeParams InterceptRef.decoder params).map .removeIntercept
  | "network.continueRequest" =>
    (decodeParams ContinueRequest.decoder params).map .continueRequest
  | "network.continueResponse" =>
    (decodeParams ContinueResponse.decoder params).map .continueResponse
  | "network.continueWithAuth" =>
    (decodeParams ContinueWithAuth.decoder params).map .continueWithAuth
  | "network.failRequest" =>
    (decodeParams FailRequest.decoder params).map .failRequest
  | "network.provideResponse" =>
    (decodeParams ProvideResponse.decoder params).map .provideResponse
  | "network.setCacheBehavior" =>
    (decodeParams SetCacheBehavior.decoder params).map .setCacheBehavior
  | method => .error (.unknownCommand method)

end Command

inductive Reply where
  | done
  | added (intercept : InterceptRef)
deriving DecidableEq, Repr

def Reply.toJson : Reply → Json
  | .done => .obj []
  | .added ref => ref.toJson

namespace Engine

def execute (now : Nat) : Command → Engine Reply
  | .addIntercept p => return .added (← addIntercept p)
  | .removeIntercept p => do
    removeIntercept p
    return .done
  | .continueRequest p => do
    continueRequest now p
    return .done
  | .continueResponse p => do
    let _ ← continueResponse p
    return .done
  | .continueWithAuth p => do
    continueWithAuth p
    return .done
  | .failRequest p => do
    failRequest p
    return .done
  | .provideResponse p => do
    provideResponse p
    return .done
  | .setCacheBehavior p => do
    setCacheBehavior p
    return .done

end Engine

/-- Answers a command as it comes from the client.  Every reply has a JSON form,
that of an added intercept too, so no command fails when its reply is
written. -/
def Session.handle (s : Session) (now : Nat) (method : String) (params : Json) :
    Except Error Reply × Session :=
  Engine.outcome
    (do Engine.execute now (← Engine.check (Command.parse method params))) s

end Interception
