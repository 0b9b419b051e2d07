import Interception.Message.Cookie
import Interception.Pattern.Basic
import Interception.Session.Config

/-!
# Parameters of the commands

One record for each command, with its form on the wire. Fields that may be left
out are not written when they have no value.
-/

namespace Interception

open Message

/-! ## Credentials -/

structure Credentials where
  username : String
  password : String
deriving DecidableEq, Repr

namespace Credentials

def record : Wire.Record Credentials :=
  Credentials.mk <$> .required "username" Wire.string
    <*> .required "password" Wire.string

def decoder : Wire.Decoder Credentials :=
  Wire.internal "AuthCredentials" "type"
    [("password", .record "struct variant AuthCredentials::Password" record)]

def toJson (c : Credentials) : Json :=
  .obj [("type", .str "password"), ("username", .str c.username),
    ("password", .str c.password)]

end Credentials

inductive AuthAction where
  | cancel
  | default
  | provide (credentials : Credentials)
deriving DecidableEq, Repr

namespace AuthAction

def bodies : Wire.Variants (Wire.Body AuthAction) :=
  [("cancel", .constant .cancel), ("default", .constant .default),
    ("provideCredentials",
      .record "struct variant AuthAction::ProvideCredentials"
      (.provide <$> .required "credentials" Credentials.decoder))]

def decoder : Wire.Decoder AuthAction :=
  Wire.internal "AuthAction" "action" bodies

def fields : AuthAction → List (String × Json)
  | .cancel => [("action", .str "cancel")]
  | .default => [("action", .str "default")]
  | .provide c =>
    [("action", .str "provideCredentials"), ("credentials", c.toJson)]

end AuthAction

/-! ## Commands on held exchanges -/

structure ContinueRequest where
  request : RequestId
  body : Option WireBytes
  cookies : Option (List CookieHeader)
  headers : Option (List Header)
  method : Option String
  url : Option String
deriving DecidableEq, Repr

structure ContinueResponse where
  request : RequestId
  cookies : Option (List SetCookie)
  credentials : Option Credentials
  headers : Option (List Header)
  reasonPhrase : Option String
  statusCode : Option Nat
deriving DecidableEq, Repr

structure ProvideResponse where
  request : RequestId
  body : Option WireBytes
  cookies : Option (List SetCookie)
  headers : Option (List Header)
  reasonPhrase : Option String
  statusCode : Option Nat
deriving DecidableEq, Repr

structure ContinueWithAuth where
  request : RequestId
  action : AuthAction
deriving DecidableEq, Repr

structure FailRequest where
  request : RequestId
deriving DecidableEq, Repr

def optList {α : Type} (name : String) (toJson : α → Json)
    (items : Option (List α)) : List (String × Json) :=
  Json.optField name (items.map fun xs => .arr (xs.map toJson))

def optStr (name : String) (text : Option String) : List (String × Json) :=
  Json.optField name (text.map .str)

namespace ContinueRequest

def record : Wire.Record ContinueRequest :=
  ContinueRequest.mk <$> .required "request" Wire.string
    <*> .optional "body" WireBytes.decoder
    <*> .optional "cookies" (Wire.sequence CookieHeader.decoder)
    <*> .optional "headers" (Wire.sequence Header.decoder)
    <*> .optional "method" Wire.string <*> .optional "url" Wire.string

def decoder : Wire.Decoder ContinueRequest :=
  record.decode "struct ContinueRequestParameters"

def toJson (p : ContinueRequest) : Json :=
  .obj (("request", .str p.request) ::
    Json.optField "body" (p.body.map WireBytes.toJson) ++
    optList "cookies" CookieHeader.toJson p.cookies ++
    optList "headers" Header.toJson p.headers ++
    optStr "method" p.method ++ optStr "url" p.url)

end ContinueRequest

namespace ContinueResponse

def record : Wire.Record ContinueResponse :=
  ContinueResponse.mk <$> .required "request" Wire.string
    <*> .optional "cookies" (Wire.sequence SetCookie.decoder)
    <*> .optional "credentials" Credentials.decoder
    <*> .optional "headers" (Wire.sequence Header.decoder)
    <*> .optional "reasonPhrase" Wire.string
    <*> .optional "statusCode" Wire.word16

def decoder : Wire.Decoder ContinueResponse :=
  record.decode "struct ContinueResponseParameters"

def toJson (p : ContinueResponse) : Json :=
  .obj (("request", .str p.request) ::
    optList "cookies" SetCookie.toJson p.cookies ++
    Json.optField "credentials" (p.credentials.map Credentials.toJson) ++
    optList "headers" Header.toJson p.headers ++
    optStr "reasonPhrase" p.reasonPhrase ++
    Json.optField "statusCode" (p.statusCode.map fun n : Nat => .int n))

end ContinueResponse

namespace ProvideResponse

def record : Wire.Record ProvideResponse :=
  ProvideResponse.mk <$> .required "request" Wire.string
    <*> .optional "body" WireBytes.decoder
    <*> .optional "cookies" (Wire.sequence SetCookie.decoder)
    <*> .optional "headers" (Wire.sequence Header.decoder)
    <*> .optional "reasonPhrase" Wire.string
    <*> .optional "statusCode" Wire.word16

def decoder : Wire.Decoder ProvideResponse :=
  record.decode "struct ProvideResponseParameters"

def toJson (p : ProvideResponse) : Json :=
  .obj (("request", .str p.request) ::
    Json.optField "body" (p.body.map WireBytes.toJson) ++
    optList "cookies" SetCookie.toJson p.cookies ++
    optList "headers" Header.toJson p.headers ++
    optStr "reasonPhrase" p.reasonPhrase ++
    Json.optField "statusCode" (p.statusCode.map fun n : Nat => .int n))

end ProvideResponse

namespace ContinueWithAuth

def decoder : Wire.Decoder ContinueWithAuth := fun r v =>
  (Wire.Record.beside "struct ContinueWithAuthParameters"
    (.required "request" Wire.string)
    (fun fields => AuthAction.decoder .buffered (.obj fields)) r v).map
      fun (request, action) => { request, action }

def toJson (p : ContinueWithAuth) : Json :=
  .obj (("request", .str p.request) :: p.action.fields)

end ContinueWithAuth

namespace FailRequest

def record : Wire.Record FailRequest :=
  FailRequest.mk <$> .required "request" Wire.string

def decoder : Wire.Decoder FailRequest :=
  record.decode "struct FailRequestParameters"

def toJson (p : FailRequest) : Json := .obj [("request", .str p.request)]

end FailRequest

/-! ## Commands on the session -/

structure AddIntercept where
  contexts : Option (List ContextId)
  phases : List Phase
  urlPatterns : Option (List UrlPattern)
deriving DecidableEq, Repr

/-- Names an intercept: what adding one returns, and what removing one takes. -/
structure InterceptRef where
  intercept : InterceptId
deriving DecidableEq, Repr

structure SetCacheBehavior where
  cacheBehavior : CacheBehavior
  contexts : Option (List ContextId)
deriving DecidableEq, Repr

namespace AddIntercept

def record : Wire.Record AddIntercept :=
  AddIntercept.mk <$> .optional "contexts" (Wire.sequence Wire.string)
    <*> .required "phases" (Wire.sequence Phase.decoder)
    <*> .optional "urlPatterns" (Wire.sequence UrlPattern.decoder)

def decoder : Wire.Decoder AddIntercept :=
  record.decode "struct AddInterceptParameters"

def toJson (p : AddIntercept) : Json :=
  .obj (optList "contexts" .str p.contexts ++
    [("phases", .arr (p.phases.map Phase.toJson))] ++
    optList "urlPatterns" UrlPattern.toJson p.urlPatterns)

end AddIntercept

namespace InterceptRef

def record : Wire.Record InterceptRef :=
  InterceptRef.mk <$> .required "intercept" Wire.uuid

def resultDecoder : Wire.Decoder InterceptRef :=
  record.decode "struct AddInterceptResult"

def decoder : Wire.Decoder InterceptRef :=
  record.decode "struct RemoveInterceptParameters"

def toJson (p : InterceptRef) : Json :=
  .obj [("intercept", .str p.intercept.text)]

end InterceptRef

namespace SetCacheBehavior

def record : Wire.Record SetCacheBehavior :=
  SetCacheBehavior.mk <$> .required "cacheBehavior" CacheBehavior.decoder
    <*> .optional "contexts" (Wire.sequence Wire.string)

def decoder : Wire.Decoder SetCacheBehavior :=
  record.decode "struct SetCacheBehaviorParameters"

def toJson (p : SetCacheBehavior) : Json :=
  .obj (("cacheBehavior", p.cacheBehavior.toJson) ::
    optList "contexts" .str p.contexts)

end SetCacheBehavior

end Interception
