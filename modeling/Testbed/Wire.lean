import Testbed.Call
import Testbed.Http.Message
/-!
# What peers are asked over the wire

Clients translate the calls of the testbed into what goes over the wire: requests to the engine's
socket and to addresses, and commands on remote hosts. Calls that no client translates go on as they
are.
-/

namespace Testbed

/-- Reads the body of a response as a document of a shape, and takes its meaning. -/
def Http.Response.read {α : Type} (shape : Json.Shape) (ofJson? : Json → Option α)
    (r : Http.Response) : Except Json.Problem α :=
  decodeScanned shape ofJson? (Text.Utf8.scan r.content)

structure Login where
  user : String
  password : String
  deriving DecidableEq, Repr

/-- A command for a session of its own on a host. -/
structure RemoteCommand where
  host : String
  login : Login
  cmd : String
  /-- What the command reads, if it reads anything. -/
  input : Option (List UInt8)

/-- What a running command sends back. -/
inductive CommandEvent where
  | stdout (bytes : List UInt8)
  | stderr (bytes : List UInt8)
  | exited (code : UInt32)
  deriving DecidableEq, Repr

/-- How far a command got. -/
inductive CommandReply where
  | unreachable (reason : String)
  | loginRefused
  | channelRefused (reason : String)
  | ran (events : List CommandEvent)
  deriving DecidableEq, Repr

inductive WireCall where
  /-- A request to the socket of the container engine. -/
  | engine (r : Http.Request)
  | web (r : Http.Request)
  | command (r : RemoteCommand)
  /-- Reads a local file. -/
  | read (path : String)
  | direct (c : Call)

@[reducible]
def WireCall.Answer : WireCall → Type
  | .engine _ | .web _ => Except String Http.Response
  | .command _ => CommandReply
  | .read _ => Except FileError (List UInt8)
  | .direct c => c.Answer

@[reducible]
def wire : Interface := ⟨WireCall, WireCall.Answer⟩

/-- Steps over the wire of which the first failure is the failure of all. -/
abbrev Exchange (α : Type) := ExceptT Error (Procedure wire) α

namespace Exchange

def ask (c : WireCall) : Exchange c.Answer := ExceptT.lift (Procedure.ask (I := wire) c)

def ofExcept {α : Type} (r : Except Error α) : Exchange α := ExceptT.mk (pure r)

end Exchange

end Testbed
