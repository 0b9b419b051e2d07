import Interception.Wire.Union

/-!
# URL patterns as the client sends them

A pattern names parts of a URL, where an absent part matches anything, or is one
text: a URL, or a glob if it holds a wildcard.
-/

namespace Interception

structure Pattern.Parts where
  protocol : Option String := none
  hostname : Option String := none
  port : Option String := none
  pathname : Option String := none
  search : Option String := none
deriving DecidableEq, Repr

inductive UrlPattern where
  | parts (parts : Pattern.Parts)
  | text (pattern : String)
deriving DecidableEq, Repr

namespace Pattern.Parts

def record : Wire.Record Parts :=
  Parts.mk <$> .optional "protocol" Wire.string
    <*> .optional "hostname" Wire.string
    <*> .optional "port" Wire.string <*> .optional "pathname" Wire.string
    <*> .optional "search" Wire.string

def fields (p : Parts) : List (String × Json) :=
  Json.optField "protocol" (p.protocol.map .str) ++
    Json.optField "hostname" (p.hostname.map .str) ++
    Json.optField "port" (p.port.map .str) ++
    Json.optField "pathname" (p.pathname.map .str) ++
    Json.optField "search" (p.search.map .str)

end Pattern.Parts

namespace UrlPattern

def ofPathname (path : String) : UrlPattern := .parts { pathname := some path }

def bodies : Wire.Variants (Wire.Body UrlPattern) :=
  [("pattern", .record "struct PatternParts" (.parts <$> Pattern.Parts.record)),
    ("string", .record "struct variant UrlPattern::String"
      (.text <$> .required "pattern" Wire.string))]

def decoder : Wire.Decoder UrlPattern :=
  Wire.internal "UrlPattern" "type" bodies

def toJson : UrlPattern → Json
  | .parts p => .obj (("type", .str "pattern") :: p.fields)
  | .text s => .obj [("type", .str "string"), ("pattern", .str s)]

end UrlPattern

end Interception
