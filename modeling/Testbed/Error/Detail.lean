import Testbed.Error
import Testbed.Text.Record
/-!
# Failures in full

Where nobody goes on after a failure it is shown in full: its kind with all that it says.
-/

namespace Testbed

open Text

namespace FileError

def detail (e : FileError) : String :=
  match e.known? with
  | some (code, kind, text) =>
    record "Os" [("code", toString code), ("kind", kind), ("message", quoted text)]
  | none =>
    match e with
    | .nulInName => record "Error" [("kind", "InvalidInput"), ("message", quoted e.message)]
    | .notText => record "Error" [("kind", "InvalidData"), ("message", quoted e.message)]
    | _ => record "Custom" [("kind", "Other"), ("error", quoted e.message)]

end FileError

namespace EngineError

def detail : EngineError → String
  | .status code message =>
    record "DockerResponseServerError" [
      ("status_code", toString code), ("message", quoted message)]
  | .other reason => quoted reason

end EngineError

def Http.AddressFault.name : Http.AddressFault → String
  | .noScheme => "RelativeUrlWithoutBase"
  | .noHost => "EmptyHost"
  | .badName => "IdnaError"
  | .badPort => "InvalidPort"
  | .badCharacter => "InvalidDomainCharacter"
  | .badFour => "InvalidIpv4Address"
  | .badSix => "InvalidIpv6Address"

namespace HttpError

def detail : HttpError → String
  | .malformed fault => record "reqwest::Error" [("kind", "Builder"), ("source", fault.name)]
  | .badHeader =>
    record "reqwest::Error" [
      ("kind", "Builder"), ("source", applied "http::Error" ["InvalidHeaderValue"])]
  | .unwritable url =>
    record "reqwest::Error" [
      ("kind", "Builder"), ("url", quoted url),
      ("source", quoted "Parsed Url is not a valid Uri")]
  | .unreachable url =>
    record "reqwest::Error" [("kind", "Builder"), ("url", quoted url), ("source", "BadScheme")]
  | .unanswered url => record "reqwest::Error" [("kind", "Request"), ("url", quoted url)]
  | .refused status url =>
    record "reqwest::Error" [
      ("kind", applied "Status" [toString status, "None"]), ("url", quoted url)]
  | .undecodable =>
    record "reqwest::Error" [("kind", "Decode"), ("source", applied "Error" [quoted ""])]

end HttpError

def Json.Problem.detail (p : Json.Problem) : String := applied "Error" [quoted p.message]

namespace Error

/-- What an error says, by name. -/
def parts : Error → List (String × String)
  | .deployment name reason | .faultInjection name reason =>
    [("node", quoted name), ("reason", quoted reason)]
  | .node name operation reason =>
    [("node", quoted name), ("operation", quoted operation), ("reason", quoted reason)]
  | .bootstrap cluster attempts reason =>
    [("cluster", quoted cluster), ("attempts", toString attempts), ("reason", quoted reason)]
  | .provisioning host reason => [("host", quoted host), ("reason", quoted reason)]
  | .timeout condition elapsed => [("condition", quoted condition), ("elapsed", elapsed.text)]
  | .unsupported backend operation =>
    [("backend", quoted backend), ("operation", quoted operation)]
  | .invalidState state operation => [("state", quoted state), ("operation", quoted operation)]
  | .config _ | .notFound _ | .docker _ | .ssh _ | .http _ | .file _ | .json _ | .internal _ => []

def detail (e : Error) : String :=
  match e with
  | .config text | .notFound text | .ssh text | .internal text => applied e.kind [quoted text]
  | .docker cause => applied e.kind [cause.detail]
  | .http cause => applied e.kind [cause.detail]
  | .file cause => applied e.kind [cause.detail]
  | .json problem => applied e.kind [problem.detail]
  | e => record e.kind e.parts

end Error

end Testbed
