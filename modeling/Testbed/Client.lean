import Testbed.Client.Engine
import Testbed.Client.Hypervisor
import Testbed.Client.Shell
import Testbed.Universe
/-!
# Connecting a universe to its peers

A universe of containers needs the engine; one of virtual machines needs a session with the
hypervisor and the login for its hosts. Connecting opens what is needed and then makes the universe.
-/

namespace Testbed

/-- The peers of a universe. -/
inductive Connection where
  | engine
  | machines (session : Client.Hypervisor.Session) (login : Login)

namespace Connection

/-- The failure of asking a peer that the universe has no connection to. -/
def missing : Error := .internal "not connected"

def hypervisor (connection : Connection) (c : HypervisorCall) : Procedure wire c.Answer :=
  match connection with
  | .engine => return c.refuse missing
  | .machines session _ => Client.Hypervisor.perform session c

def shell (connection : Connection) (c : ShellCall) : Procedure wire c.Answer :=
  match connection with
  | .engine => return c.refuse missing
  | .machines _ login => Client.Shell.perform login c

/-- Kills a container that nobody owns any more, if that can be done. -/
def abandon (connection : Connection) (container : String) : Procedure wire Unit :=
  match connection with
  | .engine => discard (Client.Engine.kill container).run
  | .machines _ _ => return ()

/-- Makes a call of the testbed over the wire. -/
def perform (connection : Connection) : (c : Call) → Procedure wire c.Answer
  | .engine c => Client.Engine.perform c
  | .hypervisor c => connection.hypervisor c
  | .shell c => connection.shell c
  | .abandon container => connection.abandon container
  | c => .ask (I := wire) (.direct c)

/-- Does work over the wire. -/
def carry {α : Type} (connection : Connection) (work : Work α) : Procedure wire α :=
  work.through (I := outside) connection.perform

end Connection

namespace Universe

/-- Connects to the peers that the parameters ask for. -/
def connectPeers (params : UniverseParams) : Exchange Connection := do
  match params.vm with
  | none =>
    Client.Engine.checkVersion
    return .engine
  | some vm =>
    let session ← Client.Hypervisor.openSession vm
    return .machines session ⟨vm.hostUsername, vm.hostPassword⟩

/-- Makes a universe and connects it. A missing bootstrap command is found before anybody is asked,
other faults of the parameters afterwards. -/
def connect (params : UniverseParams) : Exchange (Universe × Connection) := do
  let bootstrapper ← Exchange.ofExcept (CommandBootstrapper.ofParams params.bootstrap)
  let connection ← connectPeers params
  let made := match params.vm with
    | none => Universe.docker params bootstrapper.bootstrap
    | some _ => Universe.vm params bootstrapper.bootstrap
  return (← Exchange.ofExcept made, connection)

end Universe

end Testbed
