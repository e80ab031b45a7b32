import Testbed.Layout
import Testbed.Params.Format
import Testbed.Procedure
/-!
# Calls to peers

Everything the testbed does to the outside is a call to a peer: the container engine, a shell on a
remote host, the hypervisor, the tool that bootstraps a cluster, the local file system, a local
program. `Call` lists them all and `Call.Answer` says what each is answered with.
-/

namespace Testbed

/-! ## Containers -/

/-- All that is needed to create the container of a node. -/
structure ContainerSpec where
  name : String
  image : String
  hostname : String
  cmd : List String
  port : UInt16
  privileged : Bool
  deriving DecidableEq

structure ContainerStatus where
  running : Bool
  paused : Bool
  deriving DecidableEq, Repr

/-- A container that is neither running nor paused. -/
def ContainerStatus.down : ContainerStatus := ⟨false, false⟩

/-- The addresses of a container network. -/
structure NetworkInfo where
  subnet : String
  gateway : String
  deriving DecidableEq, Repr

/-- What a command printed, and the code it exited with. -/
structure CommandOutput where
  stdout : String
  exitCode : Int
  deriving DecidableEq, Repr

def CommandOutput.success (o : CommandOutput) : Bool := o.exitCode = 0

/-- Containers are addressed by name. -/
inductive EngineCall where
  | create (spec : ContainerSpec)
  | start (container : String)
  | stop (container : String) (timeout : Duration)
  | kill (container : String)
  | pause (container : String)
  | unpause (container : String)
  | restart (container : String)
  | remove (container : String)
  | exec (container : String) (cmd : List String)
  /-- Answered with nothing if there is no such container. -/
  | inspect (container : String)
  /-- Moves a container from the default network onto the given one. -/
  | connect (container network : String)
  | networkInfo (network : String)
  | ensureNetwork (network : String)
  | removeNetwork (network : String)
  | logs (container : String)

@[reducible]
def EngineCall.Answer : EngineCall → Type
  | .create _ | .logs _ => Except Error String
  | .exec _ _ => Except Error CommandOutput
  | .inspect _ => Except Error (Option ContainerStatus)
  | .networkInfo _ => Except Error NetworkInfo
  | .start _ | .stop _ _ | .kill _ | .pause _ | .unpause _ | .restart _ | .remove _ | .connect _ _
  | .ensureNetwork _ | .removeNetwork _ => Except Error Unit

/-- A call that fails. -/
def EngineCall.refuse (e : Error) : (c : EngineCall) → c.Answer
  | .create _ | .logs _ | .exec _ _ | .inspect _ | .networkInfo _ | .start _ | .stop _ _ | .kill _
  | .pause _ | .unpause _ | .restart _ | .remove _ | .connect _ _ | .ensureNetwork _
  | .removeNetwork _ => .error e

/-! ## Remote hosts -/

inductive ShellCall where
  | run (host cmd : String)
  /-- Copies a local file to a path on the host. -/
  | copy (host source target : String)

@[reducible]
def ShellCall.Answer : ShellCall → Type
  | .run _ _ => Except Error CommandOutput
  | .copy _ _ _ => Except Error Unit

def ShellCall.refuse (e : Error) : (c : ShellCall) → c.Answer
  | .run _ _ | .copy _ _ _ => .error e

/-! ## Virtual machines -/

/-- Machines have names given to them and ids of the hypervisor's own. -/
inductive HypervisorCall where
  | find (name : String)
  /-- Clones the template into a new machine that is powered off. -/
  | clone (template name : String) (customization : CustomizationParams)
  | powerOn (vm : String)
  /-- Answered with nothing while the guest has no address. -/
  | guestIp (vm : String)

@[reducible]
def HypervisorCall.Answer : HypervisorCall → Type
  | .find _ | .guestIp _ => Except Error (Option String)
  | .clone _ _ _ => Except Error String
  | .powerOn _ => Except Error Unit

def HypervisorCall.refuse (e : Error) : (c : HypervisorCall) → c.Answer
  | .find _ | .clone _ _ _ | .powerOn _ | .guestIp _ => .error e

/-! ## The local machine -/

inductive FileCall where
  /-- Creates a directory and all above it. -/
  | createDir (path : String)
  /-- Appends to a file, which is created if missing. -/
  | append (path contents : String)
  | write (path contents : String)

/-- How a program ended. -/
inductive ExitStatus where
  | code (n : Nat)
  | signal (n : Nat)
  deriving DecidableEq, Repr

structure ProgramOutput where
  status : ExitStatus
  stderr : List UInt8

/-- A request to bootstrap a cluster. -/
structure BootstrapRequest where
  cluster : String
  layout : Layout
  retries : UInt32
  retryTimeout : Duration

/-! ## All calls -/

inductive Call where
  | engine (c : EngineCall)
  | shell (c : ShellCall)
  | hypervisor (c : HypervisorCall)
  | file (c : FileCall)
  | program (name : String) (args : List String)
  | bootstrap (r : BootstrapRequest)
  /-- Hands an action on a node to somebody else. Answered with nothing if whoever does it dies. -/
  | act (node action : String)
  /-- Leaves the kill of a container that nobody owns any more to be done in the background. -/
  | abandon (container : String)
  /-- Asks for an identifier that was never used before. -/
  | freshId
  /-- Asks for the local time, in the form that names of directories end in. -/
  | timeStamp
  /-- Asks for a number from zero to a bound. -/
  | pick (bound : Nat)
  /-- Waits for the signal to shut down, for at most so long if there is a limit. Answered with
  whether the signal was given. -/
  | awaitShutdown (limit : Option Duration)

@[reducible]
def Call.Answer : Call → Type
  | .engine c => c.Answer
  | .shell c => c.Answer
  | .hypervisor c => c.Answer
  | .file _ => Except FileError Unit
  | .program _ _ => Except FileError ProgramOutput
  | .bootstrap _ => Except Error Unit
  | .act _ _ => Option (Except Error Unit)
  | .abandon _ => Unit
  | .freshId => Uuid
  | .timeStamp => String
  | .pick bound => Fin (bound + 1)
  | .awaitShutdown _ => Bool

/-- All that is outside the testbed. -/
@[reducible]
def outside : Interface := ⟨Call, Call.Answer⟩

/-- What the testbed does. -/
abbrev Work (α : Type) := Procedure outside α

/-- Steps of which the first failure is the failure of all. -/
abbrev Attempt (α : Type) := ExceptT Error (Procedure outside) α

namespace Attempt

variable {α : Type}

/-- Goes on with what a call was answered. -/
def ofAnswer (p : Work (Except Error α)) : Attempt α := ExceptT.mk p

def ofExcept (r : Except Error α) : Attempt α := ExceptT.mk (pure r)

/-- Words a failure anew. -/
def wrap (p : Attempt α) (f : Error → Error) : Attempt α :=
  ExceptT.mk ((fun r => r.mapError f) <$> p.run)

end Attempt

/-- Makes a call on the local file system. -/
def askFiles (c : FileCall) : Attempt Unit :=
  .ofAnswer ((·.mapError Error.file) <$> Procedure.ask (I := outside) (.file c))

end Testbed
