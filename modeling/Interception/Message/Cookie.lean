import Interception.Message.Header
import Interception.Text.Blank
import Interception.Text.Split

/-!
# Cookies

Pairs for the `Cookie` header of a request, lines for the `Set-Cookie` headers
of a response, and the cookies that a request reports.
-/

namespace Interception.Message

inductive SameSite where
  | strict
  | lax
  | none
deriving DecidableEq, Repr

namespace SameSite

def wireName : SameSite → String
  | .strict => "strict"
  | .lax => "lax"
  | .none => "none"

def text : SameSite → String
  | .strict => "Strict"
  | .lax => "Lax"
  | .none => "None"

def variants : Wire.Variants SameSite :=
  [.strict, .lax, .none].map fun s => (s.wireName, s)

def decoder : Wire.Decoder SameSite := Wire.variant variants

def toJson (s : SameSite) : Json := .str s.wireName

end SameSite

/-! ## Reported cookies -/

structure Cookie where
  name : String
  value : WireBytes
  domain : String
  path : String
  size : Nat
  httpOnly : Bool
  secure : Bool
  sameSite : SameSite
  /-- In seconds since the epoch; without it the cookie lasts for the
  session. -/
  expiry : Option Int
deriving DecidableEq, Repr

namespace Cookie

def record : Wire.Record Cookie :=
  Cookie.mk <$> .required "name" Wire.string
    <*> .required "value" WireBytes.decoder
    <*> .required "domain" Wire.string <*> .required "path" Wire.string
    <*> .required "size" Wire.word64 <*> .required "httpOnly" Wire.boolean
    <*> .required "secure" Wire.boolean
    <*> .required "sameSite" SameSite.decoder
    <*> .present "expiry" Wire.signed64

def decoder : Wire.Decoder Cookie := record.decode "struct Cookie"

def toJson (c : Cookie) : Json :=
  .obj ([("name", .str c.name), ("value", c.value.toJson),
    ("domain", .str c.domain), ("path", .str c.path), ("size", .int c.size),
    ("httpOnly", .bool c.httpOnly), ("secure", .bool c.secure),
    ("sameSite", c.sameSite.toJson)] ++
    Json.optField "expiry" (c.expiry.map .int))

end Cookie

/-- The cookie that one part of a `Cookie` header stands for; parts without an
equals sign or without a name stand for none. -/
def cookieOfPart (domain : String) (part : List Char) : Option Cookie :=
  match Text.cutOnce '=' (Text.trim part) with
  | none => none
  | some (name, value) =>
    let name := String.ofList (Text.trim name)
    let value := String.ofList (Text.trim value)
    if name.isEmpty then none
    else some
      { name, value := .text value, domain, path := "/"
        size := name.utf8ByteSize + value.utf8ByteSize
        httpOnly := false, secure := false, sameSite := .none, expiry := none }

def parseCookies (header domain : String) : List Cookie :=
  (Text.pieces ';' header.toList).filterMap (cookieOfPart domain)

/-! ## Writing cookies -/

def endsCookiePart (c : Char) : Bool := c = ';' || isBreak c

def checkCookiePart (part : CookiePart) (text : String) : Except Error Unit :=
  if text.toList.any endsCookiePart then
    .error (.invalidArgument (.cookiePart part text))
  else .ok ()

def cookiePair (name : String) (value : WireBytes) : Except Error String := do
  unless isToken name do throw (.invalidArgument (.cookieName name))
  let text ← value.decodeText
  checkCookiePart .value text
  return name ++ "=" ++ text

structure CookieHeader where
  name : String
  value : WireBytes
deriving DecidableEq, Repr

namespace CookieHeader

def ofText (name value : String) : CookieHeader := ⟨name, .text value⟩

def encode (c : CookieHeader) : Except Error String := cookiePair c.name c.value

def record : Wire.Record CookieHeader :=
  CookieHeader.mk <$> .required "name" Wire.string
    <*> .required "value" WireBytes.decoder

def decoder : Wire.Decoder CookieHeader := record.decode "struct CookieHeader"

def toJson (c : CookieHeader) : Json :=
  .obj [("name", .str c.name), ("value", c.value.toJson)]

end CookieHeader

def encodePairs : List CookieHeader → Except Error (List String)
  | [] => .ok []
  | c :: cs => do
    let pair ← c.encode
    let pairs ← encodePairs cs
    return pair :: pairs

def encodeCookies (cookies : List CookieHeader) : Except Error String := do
  return "; ".intercalate (← encodePairs cookies)

structure SetCookie where
  name : String
  value : WireBytes
  domain : Option String
  httpOnly : Option Bool
  expiry : Option String
  maxAge : Option Int
  path : Option String
  sameSite : Option SameSite
  secure : Option Bool
deriving DecidableEq, Repr

namespace SetCookie

def ofText (name value : String) : SetCookie :=
  ⟨name, .text value, none, none, none, none, none, none, none⟩

def checkOptional (part : CookiePart) (text : Option String) :
    Except Error Unit :=
  match text with
  | some t => checkCookiePart part t
  | none => .ok ()

def setting (name : String) (value : Option String) : String :=
  match value with
  | some v => "; " ++ name ++ "=" ++ v
  | none => ""

def flag (name : String) (value : Option Bool) : String :=
  if value = some true then "; " ++ name else ""

def attributes (c : SetCookie) : String :=
  setting "Expires" c.expiry ++ setting "Max-Age" (c.maxAge.map toString) ++
    setting "Domain" c.domain ++ setting "Path" c.path ++
    flag "Secure" c.secure ++
    flag "HttpOnly" c.httpOnly ++
      setting "SameSite" (c.sameSite.map SameSite.text)

def encode (c : SetCookie) : Except Error String := do
  let pair ← cookiePair c.name c.value
  checkOptional .expiry c.expiry
  checkOptional .domain c.domain
  checkOptional .path c.path
  return pair ++ c.attributes

def record : Wire.Record SetCookie :=
  SetCookie.mk <$> .required "name" Wire.string
    <*> .required "value" WireBytes.decoder
    <*> .optional "domain" Wire.string <*> .optional "httpOnly" Wire.boolean
    <*> .optional "expiry" Wire.string <*> .optional "maxAge" Wire.signed64
    <*> .optional "path" Wire.string <*> .optional "sameSite" SameSite.decoder
    <*> .optional "secure" Wire.boolean

def decoder : Wire.Decoder SetCookie := record.decode "struct SetCookieHeader"

def toJson (c : SetCookie) : Json :=
  .obj ([("name", .str c.name), ("value", c.value.toJson)] ++
    Json.optField "domain" (c.domain.map .str) ++
    Json.optField "httpOnly" (c.httpOnly.map .bool) ++
    Json.optField "expiry" (c.expiry.map .str) ++
    Json.optField "maxAge" (c.maxAge.map .int) ++
    Json.optField "path" (c.path.map .str) ++
    Json.optField "sameSite" (c.sameSite.map SameSite.toJson) ++
    Json.optField "secure" (c.secure.map .bool))

end SetCookie

def encodeSetCookies : List SetCookie → Except Error (List String)
  | [] => .ok []
  | c :: cs => do
    let line ← c.encode
    let lines ← encodeSetCookies cs
    return line :: lines

end Interception.Message
