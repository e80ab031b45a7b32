import Testbed.Client.Answer
import Testbed.Http.Frames
import Testbed.Wire
/-!
# The client of the container engine

The engine is asked by requests to its socket. It refuses with a status and a message; that nothing
was to be done is no refusal. What containers write arrives in frames, and each frame is read as
text on its own.
-/

namespace Testbed.Client.Engine

open Json (Shape)

/-! ## Requests -/

/-- The engine is at a socket of this host. -/
def authority : Http.Authority := ⟨"", "", some (.named "engine"), none⟩

/-- What a request is about: a path of the engine, with a query. -/
def address (path : String) (query : List (String × String)) : Http.Url :=
  let url := Http.Url.onHost "unix" authority (Http.Url.clean path)
  if query.isEmpty then url else { url with query := some (Http.Form.encode query) }

/-- Whether a request was accepted: it was done, there was nothing to do, or the engine goes on in
another protocol. -/
def isAccepted (status : Nat) : Bool := Http.isSuccess status || status = 304 || status = 101

/-- What the engine says about a refusal: a message in JSON, or else all of the body. A message that
breaks off is a failure of its own. -/
def refusal (r : Http.Response) : EngineError :=
  let text := Text.Utf8.lossy r.content
  match decode messageShape (Json.textOf? "message") text with
  | .ok message => .status r.status message
  | .error (.unfinished place) =>
    if text.isEmpty then .status r.status "" else .other place.message
  | .error _ => .status r.status text

def send (method path : String) (query headers : List (String × String)) (body : Option Json) :
    Exchange Http.Response := do
  match ← Exchange.ask (.engine ⟨method, address path query, headers, body⟩) with
  | .error reason => throw (.docker (.other reason))
  | .ok r =>
    if isAccepted r.status then return r
    else throw (.docker (refusal r))

def get (path : String) (query : List (String × String)) : Exchange Http.Response :=
  send "GET" path query [] none

/-- Tells the engine to do something, without an answer of interest. -/
def tell (method path : String) (query : List (String × String)) (body : Option Json) :
    Exchange Unit :=
  discard (send method path query [] body)

/-! ## Answers -/

def undecodable : Json.Problem → EngineError
  | .mismatch reason => .other ("Failed to deserialize JSON: " ++ reason)
  | problem => .other problem.message

/-- Reads the body of an answer. -/
def read {α : Type} (shape : Shape) (ofJson? : Json → Option α) (r : Http.Response) : Exchange α :=
  Exchange.ofExcept ((r.read shape ofJson?).mapError fun p => .docker (undecodable p))

/-! ## Containers -/

def container (name rest : String) : String := "/containers/" ++ name ++ rest

def anyInterface : String := "0.0.0.0"

/-- A port is published under its own number on all interfaces. -/
def configuration (spec : ContainerSpec) : Json :=
  let port := toString spec.port.toNat
  .object [
    ("Image", .text spec.image),
    ("Hostname", .text spec.hostname),
    ("Cmd", Json.ofTexts spec.cmd),
    ("ExposedPorts", .object [(port ++ "/tcp", .object [])]),
    ("HostConfig", .object [
      ("Privileged", .bool spec.privileged),
      ("PortBindings", .object [
        (port ++ "/tcp", .list [.object [
          ("HostIp", .text anyInterface), ("HostPort", .text port)]])])])]

def create (spec : ContainerSpec) : Exchange String := do
  let r ← send "POST" "/containers/create" [("name", spec.name)] [] (some (configuration spec))
  read createdShape (Json.textOf? "Id") r

/-- The engine counts seconds in a signed word. -/
def secondsText (d : Duration) : String := toString ((d.secs : Int).bmod 0x10000000000000000)

def stop (name : String) (timeout : Duration) : Exchange Unit :=
  tell "POST" (container name "/stop") [("t", secondsText timeout)] none

def kill (name : String) : Exchange Unit :=
  tell "POST" (container name "/kill") [("signal", "SIGKILL")] none

def remove (name : String) : Exchange Unit :=
  tell "DELETE" (container name "") [("v", "true"), ("force", "true"), ("link", "false")] none

/-- A container that does not exist is no failure. -/
def inspect (name : String) : Exchange (Option ContainerStatus) :=
  let look : Exchange ContainerStatus := do
    read containerShape containerStatus? (← get (container name "/json") [])
  tryCatch (some <$> look) fun e => if e.isMissing then return none else throw e

/-! ## What containers write -/

/-- The frames of a body. The last may be cut off after its header, and nowhere else. -/
def frames (body : List UInt8) : Exchange (List Http.Frame) :=
  let (frames, rest) := Http.Frame.decode body
  if rest.isEmpty || Http.Frame.isHeader rest then return frames
  else throw (.docker (.other "bytes remaining on stream"))

def logText (frames : List Http.Frame) : String :=
  String.join (frames.map fun f => Text.Utf8.lossy f.bytes)

/-- What was written to the standard output. -/
def outputText (frames : List Http.Frame) : String :=
  logText (frames.filter (·.stream = .stdout))

def logs (name : String) : Exchange String := do
  let query := [("follow", "false"), ("stdout", "true"), ("stderr", "true"), ("since", "0"),
    ("timestamps", "false"), ("tail", "")]
  let r ← get (container name "/logs") query
  return logText (← frames r.content)

/-- Runs a command in a container: it is created, followed while it runs, and asked how it ended. -/
def exec (name : String) (cmd : List String) : Exchange CommandOutput := do
  let what := Json.object [
    ("AttachStdout", .bool true), ("AttachStderr", .bool true), ("Cmd", Json.ofTexts cmd)]
  let created ← send "POST" (container name "/exec") [] [] (some what)
  let id ← read execShape (Json.textOf? "Id") created
  let how := Json.object [("Detach", .bool false), ("Tty", .bool false)]
  let started ← send "POST" ("/exec/" ++ id ++ "/start") [] [("upgrade", "tcp")] (some how)
  if started.status ≠ 101 then throw (.docker (.other "no upgrade available"))
  let stdout := outputText (← frames started.body)
  let exit ← read execResultShape exitCode? (← get ("/exec/" ++ id ++ "/json") [])
  return ⟨stdout, exit⟩

/-! ## Networks -/

def network (name rest : String) : String := "/networks/" ++ name ++ rest

/-- The network that containers are on without being told. -/
def defaultNetwork : String := "bridge"

/-- Moves a container from the default network, if it is there, onto another one. -/
def connect (name target : String) : Exchange Unit := do
  let leave := Json.object [("Container", .text name), ("Force", .bool true)]
  tryCatch (tell "POST" (network defaultNetwork "/disconnect") [] (some leave)) fun _ => return ()
  let join := Json.object [("Container", .text name), ("EndpointConfig", .object [])]
  tell "POST" (network target "/connect") [] (some join)

def networkInfo (name : String) : Exchange NetworkInfo := do
  match ← read networkShape networkInfo? (← get (network name "") []) with
  | some info => return info
  | none => throw (.notFound ("ipam config of network " ++ name))

def networkExists (name : String) : Exchange Bool :=
  let look : Exchange Json := do read networkShape some (← get (network name "") [])
  tryCatch ((fun _ => true) <$> look) fun e => if e.isMissing then return false else throw e

def createNetwork (name : String) : Exchange Unit := do
  let what := Json.object [
    ("Name", .text name), ("CheckDuplicate", .bool false), ("Driver", .text "bridge"),
    ("Internal", .bool false), ("Attachable", .bool false), ("Ingress", .bool false),
    ("IPAM", .object []), ("EnableIPv6", .bool false), ("Options", .object []),
    ("Labels", .object [])]
  discard (read createdNetworkShape some (← send "POST" "/networks/create" [] [] (some what)))

def ensureNetwork (name : String) : Exchange Unit := do
  if !(← networkExists name) then createNetwork name

/-! ## All calls -/

/-- Asks whether there is an engine. -/
def checkVersion : Exchange Unit := do
  discard (read versionShape some (← get "/version" []))

def perform : (c : EngineCall) → Procedure wire c.Answer
  | .create spec => (create spec).run
  | .start name => (tell "POST" (container name "/start") [] none).run
  | .stop name timeout => (stop name timeout).run
  | .kill name => (kill name).run
  | .pause name => (tell "POST" (container name "/pause") [] none).run
  | .unpause name => (tell "POST" (container name "/unpause") [] none).run
  | .restart name => (tell "POST" (container name "/restart") [] none).run
  | .remove name => (remove name).run
  | .exec name cmd => (exec name cmd).run
  | .inspect name => (inspect name).run
  | .connect name target => (connect name target).run
  | .networkInfo name => (networkInfo name).run
  | .ensureNetwork name => (ensureNetwork name).run
  | .removeNetwork name => (tell "DELETE" (network name "") [] none).run
  | .logs name => (logs name).run

end Testbed.Client.Engine
