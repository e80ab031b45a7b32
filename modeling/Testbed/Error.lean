import Testbed.Duration
import Testbed.Http.Host
import Testbed.Http.Status
import Testbed.Json.Token
import Testbed.Text.Quoted
/-!
# What can go wrong

Every failure of the testbed is an `Error`: its cause, the node, host or cluster it concerns, and
the reason given by whoever was asked. `Error.message` is the one place that words them. An
operation that wraps another's failure takes that failure's message as its reason.
-/

namespace Testbed

/-- A failure of the file system, or of reading a file as text. -/
inductive FileError where
  | missing
  | notDirectory
  | isDirectory
  | exists
  | nameTooLong
  | nulInName
  | notText
  | other (reason : String)
  deriving DecidableEq, Repr

/-- A failure that the container engine reports with a status, or any other one of talking to it. -/
inductive EngineError where
  | status (code : Nat) (message : String)
  | other (reason : String)
  deriving DecidableEq, Repr

/-- A failure of asking somebody over HTTP. -/
inductive HttpError where
  | malformed (fault : Http.AddressFault)
  | badHeader
  /-- The address is one that nobody can be asked at. -/
  | unreachable (url : String)
  /-- The address cannot be written into a request. -/
  | unwritable (url : String)
  | unanswered (url : String)
  | refused (status : Nat) (url : String)
  /-- The answer is not what was asked for. -/
  | undecodable
  deriving DecidableEq, Repr

inductive Error where
  | deployment (node reason : String)
  | node (node operation reason : String)
  | faultInjection (node reason : String)
  | bootstrap (cluster : String) (attempts : Nat) (reason : String)
  | provisioning (host reason : String)
  | timeout (condition : String) (elapsed : Duration)
  | config (reason : String)
  | unsupported (backend operation : String)
  | invalidState (state operation : String)
  | notFound (what : String)
  | docker (cause : EngineError)
  | ssh (reason : String)
  | http (cause : HttpError)
  | file (cause : FileError)
  | json (problem : Json.Problem)
  | internal (reason : String)
  deriving DecidableEq, Repr

namespace FileError

/-- The number, name and text under which the system knows a failure, if it does. -/
def known? : FileError → Option (Nat × String × String)
  | .missing => some (2, "NotFound", "No such file or directory")
  | .exists => some (17, "AlreadyExists", "File exists")
  | .notDirectory => some (20, "NotADirectory", "Not a directory")
  | .isDirectory => some (21, "IsADirectory", "Is a directory")
  | .nameTooLong => some (36, "InvalidFilename", "File name too long")
  | .nulInName | .notText | .other _ => none

def message (e : FileError) : String :=
  match e, e.known? with
  | _, some (code, _, text) => text ++ " (os error " ++ toString code ++ ")"
  | .nulInName, none => "file name contained an unexpected NUL byte"
  | .notText, none => "stream did not contain valid UTF-8"
  | .other reason, none => reason
  | _, none => ""

end FileError

def EngineError.message : EngineError → String
  | .status code message =>
    "Docker responded with status code " ++ toString code ++ ": " ++ message
  | .other reason => reason

namespace HttpError

/-- Whose fault a refusal is. -/
def side (status : Nat) : String := if Http.isServerError status then "server" else "client"

def message : HttpError → String
  | .malformed _ | .badHeader => "builder error"
  | .unreachable url | .unwritable url => "builder error for url (" ++ url ++ ")"
  | .unanswered url => "error sending request for url (" ++ url ++ ")"
  | .refused status url =>
    "HTTP status " ++ side status ++ " error (" ++ Http.statusText status ++ ") for url (" ++ url ++
      ")"
  | .undecodable => "error decoding response body"

end HttpError

namespace Error

/-- The name of what went wrong. -/
def kind : Error → String
  | .deployment .. => "Deployment"
  | .node .. => "Node"
  | .faultInjection .. => "FaultInjection"
  | .bootstrap .. => "Bootstrap"
  | .provisioning .. => "Provisioning"
  | .timeout .. => "Timeout"
  | .config .. => "Config"
  | .unsupported .. => "Unsupported"
  | .invalidState .. => "InvalidState"
  | .notFound .. => "NotFound"
  | .docker .. => "Docker"
  | .ssh .. => "Ssh"
  | .http .. => "Http"
  | .file .. => "Io"
  | .json .. => "Serialization"
  | .internal .. => "Internal"

def message : Error → String
  | .deployment name reason => "Failed to deploy node " ++ name ++ ": " ++ reason
  | .node name operation reason => "Failed to " ++ operation ++ " node " ++ name ++ ": " ++ reason
  | .faultInjection name reason => "Fault injection on node " ++ name ++ " failed: " ++ reason
  | .bootstrap cluster attempts reason =>
    "Bootstrap of cluster " ++ cluster ++ " failed after " ++ toString attempts ++ " attempts: " ++
      reason
  | .provisioning host reason => "Failed to provision host " ++ host ++ ": " ++ reason
  | .timeout condition elapsed =>
    "Timed out after " ++ elapsed.text ++ " waiting for " ++ condition
  | .config reason => "Invalid configuration: " ++ reason
  | .unsupported backend operation =>
    "Operation " ++ operation ++ " is not supported by the " ++ backend ++ " backend"
  | .invalidState state operation => "Cannot " ++ operation ++ " a universe in state " ++ state
  | .notFound what => "Not found: " ++ what
  | .docker cause => "Docker error: " ++ cause.message
  | .ssh reason => "SSH error: " ++ reason
  | .http cause => "HTTP error: " ++ cause.message
  | .file cause => "I/O error: " ++ cause.message
  | .json problem => "Serialization error: " ++ problem.message
  | .internal reason => "Internal error: " ++ reason

/-- Whether what was asked for does not exist (any more). Teardown takes this for success. -/
def isMissing : Error → Bool
  | .notFound _ => true
  | .docker (.status 404 _) => true
  | _ => false

end Error

end Testbed
