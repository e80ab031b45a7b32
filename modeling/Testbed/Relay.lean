import Testbed.Text.Hex
import Testbed.Wire
/-!
# Talking to a relay

A relay does for the program what needs sockets, other programs or a clock of the world. What it is
asked is one line of JSON, and so is its answer. Bytes are hexadecimal digits. An answer that is not
understood counts as no answer.
-/

namespace Testbed.Relay

open Json (Shape)

/-! ## Questions -/

def request (r : Http.Request) : Json := .object [
  ("method", .text r.method),
  ("url", .text r.url.sentText),
  ("headers", .object (r.headers.map fun h => (h.1, .text h.2))),
  ("body", r.body.getD .null)]

def command (r : RemoteCommand) : Json := .object [
  ("host", .text r.host),
  ("user", .text r.login.user),
  ("password", .text r.login.password),
  ("cmd", .text r.cmd),
  ("input", ((r.input.map Text.Hex.encode).map Json.text).getD .null)]

/-- The line for a call, if a relay is needed for it. -/
def question? : WireCall → Option Json
  | .engine r => some (.object [("engine", request r)])
  | .web r => some (.object [("web", request r)])
  | .command r => some (.object [("command", command r)])
  | .direct (.program name args) =>
    some (.object [("program", .object [("name", .text name), ("args", Json.ofTexts args)])])
  | .direct .timeStamp => some (.object [("time_stamp", .null)])
  | .direct (.awaitShutdown limit) =>
    let millis := (limit.map fun d => Json.number d.millis).getD .null
    some (.object [("await_shutdown", millis)])
  | _ => none

/-! ## Answers -/

def bytes? (j : Json) : Option (List UInt8) := j.text?.bind Text.Hex.decode?

/-- What a line means, if it has the shape of an answer. -/
def understood? {α : Type} (shape : Shape) (ofJson? : Json → Option α) (line : String) : Option α :=
  (decode shape ofJson? line).toOption

def responseShape : Shape :=
  .record "Response" [("status", .whole .u16, none), ("body", aText, some (.text ""))]

def response? (j : Json) : Option Http.Response := do
  match ← j.values? with
  | [status, body] => return ⟨← status.nat?, ← bytes? body⟩
  | _ => none

def noResponse : String := "connection closed before message completed"

def response (line : String) : Except String Http.Response :=
  match understood? responseShape response? line with
  | some r => .ok r
  | none => .error noResponse

def eventShape : Shape := .record "Event" [
  ("stdout", .maybe aText, none), ("stderr", .maybe aText, none),
  ("exit", .maybe (.whole .u32), none)]

def event? (j : Json) : Option CommandEvent := do
  match ← j.values? with
  | [.text stdout, .null, .null] => return .stdout (← Text.Hex.decode? stdout)
  | [.null, .text stderr, .null] => return .stderr (← Text.Hex.decode? stderr)
  | [.null, .null, .number code] => return .exited (UInt32.ofNat code.toNat)
  | _ => none

def replyShape : Shape := .record "Reply" [
  ("unreachable", .maybe aText, none), ("login", .flag, some (.bool true)),
  ("channel", .maybe aText, none), ("events", .list eventShape, some (.list []))]

def reply? (j : Json) : Option CommandReply := do
  match ← j.values? with
  | [.text reason, _, _, _] => return .unreachable reason
  | [.null, .bool false, _, _] => return .loginRefused
  | [.null, .bool true, .text reason, _] => return .channelRefused reason
  | [.null, .bool true, .null, .list events] => return .ran (← events.mapM event?)
  | _ => none

def reply (line : String) : CommandReply :=
  (understood? replyShape reply? line).getD (.unreachable "no answer")

def outputShape : Shape := .record "Output" [
  ("code", .maybe (.whole .u32), none), ("signal", .maybe (.whole .u32), none),
  ("stderr", aText, some (.text ""))]

def output? (j : Json) : Option ProgramOutput := do
  match ← j.values? with
  | [.number code, .null, stderr] => return ⟨.code code.toNat, ← bytes? stderr⟩
  | [.null, .number signal, stderr] => return ⟨.signal signal.toNat, ← bytes? stderr⟩
  | _ => none

def output (line : String) : Except FileError ProgramOutput :=
  match understood? outputShape output? line with
  | some o => .ok o
  | none => .error .missing

def timeStamp (line : String) : String := (understood? aText Json.text? line).getD "now"

/-- Whether the signal to shut down came. It also comes when there is no relay any more. -/
def shutdownCame (line : String) : Bool :=
  match understood? .flag some line with
  | some (.bool came) => came
  | _ => true

end Testbed.Relay
