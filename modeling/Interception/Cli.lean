import Interception.Command.Basic
import Interception.Json.Known
import Interception.Json.Printer

/-!
# The command line

Commands that show the codec of the wire format, and a scripted session.
-/

namespace Interception.Cli

structure Output where
  exit : Nat
  stdout : String := ""
  stderr : String := ""
deriving DecidableEq, Repr

def programName : String := "kalamari-intercept"

def version : String := "0.1.0"

def exampleValue : String :=
  "'\x7b\"type\":\"base64\",\"value\":\"YWJj\"\x7d'"

def usage : String :=
  "Kalamari Intercept - Network Interception Engine\n\n" ++
  "USAGE:\n" ++
  "    kalamari-intercept <COMMAND> [ARGS]\n\n" ++
  "COMMANDS:\n" ++
  "    demo                Run a scripted interception session in memory\n" ++
  "    check-token <s>     Check whether a string is a valid HTTP token " ++
  "/ header value\n" ++
  "    decode <json>       Decode a BytesValue, e.g. " ++ exampleValue ++
  "\n" ++
  "    help                Show this help message\n" ++
  "    version             Show version information\n\n" ++
  "EXAMPLES:\n" ++
  "    kalamari-intercept demo\n" ++
  "    kalamari-intercept check-token \"GE T\"\n" ++
  "    kalamari-intercept decode " ++ exampleValue ++ "\n\n" ++
  "Set RUST_LOG=kalamari_intercept=debug to follow blocked exchanges.\n\n"

/-! ## Checking and decoding -/

def verdict (ok : Bool) : String := if ok then "valid" else "invalid"

def checkToken (value : String) : Output where
  exit := if Message.isToken value then 0 else 2
  stdout :=
    "HTTP token:   " ++ verdict (Message.isToken value) ++ "\n" ++
    "Header value: " ++ verdict (Message.isFieldValue value) ++ "\n"

def repeats (names : List String) : Json → Bool
  | .obj fields =>
    names.any fun name => 1 < (fields.filter (·.1 == name)).length
  | _ => false

def readBytes? (text : String) : Option Message.WireBytes := do
  let names := ["type", "value"]
  let v ← Json.parseKnown? names text
  guard (!repeats names v)
  (Message.WireBytes.decoder .direct v).toOption

def decode (text : String) : Output :=
  match readBytes? text with
  | none => { exit := 1, stderr := "Invalid BytesValue\n" }
  | some value =>
    match value.decode with
    | .ok bytes =>
      { exit := 0
        stdout :=
          toString bytes.length ++ " bytes\n" ++ Text.lossy bytes ++ "\n" }
    | .error e =>
      { exit := 1, stderr := "Failed to decode: " ++ e.message ++ "\n" }

/-! ## The scripted session -/

inductive Step where
  | command (method : String) (params : Json) (needed : Bool)
  | notify (n : Notification)

def textValue (s : String) : Json := (Message.WireBytes.text s).toJson

def headerValue (name value : String) : Json :=
  (Message.Header.ofText name value).toJson

def transport : Transport where
  requests := [
    { id := "1", url := "https://example.com/login", context := some "tab-1"
      headers := [⟨"Cookie", "session=expired"⟩] },
    { id := "2", url := "https://example.com/home", context := some "tab-1" },
    { id := "3", url := "https://example.com/api/users",
      context := some "tab-1" }]
  responses := [
    { url := "https://example.com/api/users", status := 200
      headers :=
        [⟨"Content-Type", "application/json"⟩, ⟨"Content-Length", "2"⟩] }]

def script : List Step := [
  .command "network.addIntercept"
    (.obj [("phases", Json.strs ["beforeRequestSent"]),
      ("urlPatterns", .arr [(UrlPattern.ofPathname "/login").toJson])]) true,
  .command "network.addIntercept"
    (.obj [("phases", Json.strs ["responseStarted"]),
      ("urlPatterns",
        .arr [(UrlPattern.text "https://example.com/api/*").toJson])]) true,
  .notify { kind := .beforeRequestSent, request := ⟨0⟩ },
  .notify { kind := .beforeRequestSent, request := ⟨1⟩ },
  .command "network.continueRequest"
    (.obj [("request", .str "1"), ("method", .str "POST"),
      ("cookies", .arr [headerValue "session" "fresh"]),
      ("body", textValue "user=demo")]) true,
  .notify { kind := .responseStarted, request := ⟨2⟩, response := some ⟨0⟩ },
  .command "network.continueResponse"
    (.obj [("request", .str "3"), ("statusCode", .int 418),
      ("reasonPhrase", .str "I'm a teapot"),
      ("headers",
        .arr [headerValue "Content-Length" "0",
          headerValue "X-Intercepted" "yes"])]) true,
  .notify { kind := .responseCompleted, request := ⟨2⟩, response := some ⟨0⟩ },
  .command "network.continueRequest" (.obj [("request", .str "1")]) false]

def replyText : Except Error Reply → String
  | .ok reply => "<<< " ++ reply.toJson.compact ++ "\n"
  | .error e => "<<< error: " ++ e.code ++ " (" ++ e.message ++ ")\n"

def eventText : Option Event → String
  | some e => "\n=== Event ===\n" ++ e.toJson.pretty ++ "\n"
  | none => ""

/-- Whether the script came to its end, what it printed, and the session
afterwards. -/
def runSteps (now : Nat) (s : Session) : List Step → Bool × String × Session
  | [] => (true, "", s)
  | .notify n :: steps =>
    let (event, s) := s.process now n
    let (done, text, s) := runSteps now s steps
    (done, eventText event ++ text, s)
  | .command method params needed :: steps =>
    let params := params.canonical
    let (reply, s) := s.handle now method params
    let text :=
      "\n>>> " ++ method ++ " " ++ params.compact ++ "\n" ++ replyText reply
    if needed && !reply.isOk then (false, text, s)
    else
      let (done, more, s) := runSteps now s steps
      (done, text ++ more, s)

def pairText (l : Message.Line) : String :=
  "(" ++ Text.quoted l.name ++ ", " ++ Text.quoted l.value ++ ")"

def summary (s : Session) : String :=
  match s.transport.request? ⟨0⟩ with
  | none => ""
  | some login =>
    "\n=== Summary ===\n" ++
    "Login request method: " ++ login.method ++ "\n" ++
    "Login request headers: [" ++
    ", ".intercalate (login.headers.map pairText) ++ "]\n" ++
    "Blocked exchanges left: " ++ toString s.suspensions.ids.length ++ "\n"

def demo (now : Nat) (ids : IdSource) : Output :=
  let s := Session.start {} ids
  let s := { s with contexts := (s.contexts.addTopLevel "tab-1").2, transport }
  match s.subscribe EventKind.all none with
  | .error e =>
    { exit := 1, stderr := "Failed to subscribe: " ++ e.message ++ "\n" }
  | .ok (_, s) =>
    let (done, text, s) := runSteps now s script
    if done then { exit := 0, stdout := text ++ summary s }
    else { exit := 1, stdout := text }

/-! ## Dispatch -/

def missingArgument (command placeholder : String) : Output where
  exit := 1
  stderr :=
    "Usage: " ++ programName ++ " " ++ command ++ " " ++ placeholder ++ "\n"

def run (now : Nat) (ids : IdSource) : List String → Output
  | [] => { exit := 1, stdout := usage }
  | command :: args =>
    match command, args with
    | "demo", _ => demo now ids
    | "check-token", [] => missingArgument "check-token" "<value>"
    | "check-token", value :: _ => checkToken value
    | "decode", [] => missingArgument "decode" "<json>"
    | "decode", text :: _ => decode text
    | other, _ =>
      if ["help", "--help", "-h"].contains other then
        { exit := 0, stdout := usage }
      else if ["version", "--version", "-v"].contains other then
        { exit := 0, stdout := programName ++ " " ++ version ++ "\n" }
      else { exit := 1, stdout := usage,
             stderr := "Unknown command: " ++ other ++ "\n" }

end Interception.Cli
