import Testbed.Lab.World
import Testbed.Wire
/-!
# A network in memory

What is asked over the wire is answered in turn from a list of responses, whoever is asked; commands
on remote hosts are answered in turn by a server with one login. Requests, logins and commands are
noted. All other calls go to a world in memory.
-/

namespace Testbed.Lab

/-- The server on every remote host. -/
structure Server where
  login : Login
  refusesChannels : Bool
  replies : List (List CommandEvent)

inductive ServerEvent where
  | login (user : String) (accepted : Bool)
  | command (cmd : String) (input : List UInt8)
  deriving DecidableEq, Repr

structure Network where
  world : World
  responses : List Http.Response
  requests : List Http.Request
  /-- Nobody is listening where there is no server. -/
  server : Option Server
  events : List ServerEvent

namespace Network

def note (n : Network) (e : ServerEvent) : Network := { n with events := n.events ++ [e] }

def request (n : Network) (r : Http.Request) : Except String Http.Response × Network :=
  let n := { n with requests := n.requests ++ [r] }
  match n.responses with
  | [] => (.error "connection closed before message completed", n)
  | response :: rest => (.ok response, { n with responses := rest })

/-- A command on a channel of a server. One more than there are replies for is never heard of. -/
def reply (n : Network) (s : Server) (r : RemoteCommand) : CommandReply × Network :=
  let n := n.note (.command r.cmd (r.input.getD []))
  (.ran (s.replies.headD []), { n with server := some { s with replies := s.replies.drop 1 } })

def refusedConnection : String := "Connection refused (os error 111)"

def refusedChannel : String := "Failed to open channel (AdministrativelyProhibited)"

def command (n : Network) (r : RemoteCommand) : CommandReply × Network :=
  match n.server with
  | none => (.unreachable refusedConnection, n)
  | some s =>
    let accepted := r.login = s.login
    let n := n.note (.login r.login.user accepted)
    if !accepted then (.loginRefused, n)
    else if s.refusesChannels then (.channelRefused refusedChannel, n)
    else n.reply s r

def answer (clock : Duration) (n : Network) : (c : WireCall) → (c.Answer × Duration) × Network
  | .engine r | .web r =>
    let (a, n) := n.request r
    ((a, .zero), n)
  | .command r =>
    let (a, n) := n.command r
    ((a, .zero), n)
  | .read path => ((n.world.files.read path, .zero), n)
  | .direct c =>
    let (a, w) := n.world.answer clock c
    (a, { n with world := w })

def peers : Peers wire Network := ⟨answer⟩

end Network

end Testbed.Lab
