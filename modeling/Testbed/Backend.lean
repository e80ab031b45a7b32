import Testbed.Call
/-!
# The physical side of a node

Containers and processes on remote hosts are handled alike: a `Backend` carries out the operations
of a node's life. An operation gives what came of it and the backend as it is afterwards, also where
it failed. Destroying is a kill, a collection of the logs and a removal, of which only the last one
counts.
-/

namespace Testbed

inductive NodeState where
  | undeployed
  | running
  | paused
  | stopped
  | destroyed
  deriving DecidableEq, Repr

def NodeState.text : NodeState → String
  | .undeployed => "Undeployed"
  | .running => "Running"
  | .paused => "Paused"
  | .stopped => "Stopped"
  | .destroyed => "Destroyed"

inductive Operation where
  | deploy
  /-- Asks the service to shut down, for at most so long. -/
  | stop (timeout : Duration)
  | kill
  | pause
  | resume
  /-- Cuts the node off from its peers. -/
  | disconnect
  | reconnect
  /-- Starts a node that is stopped. -/
  | restart
  | collectLogs
  | remove
  deriving DecidableEq, Repr

/-- What an action is called. -/
def Operation.name : Operation → String
  | .deploy => "deploy"
  | .stop _ => "stop"
  | .kill => "kill"
  | .pause => "pause"
  | .resume => "resume"
  | .disconnect => "disconnect"
  | .reconnect => "reconnect"
  | .restart => "restart"
  | .collectLogs => "collect_logs"
  | .remove => "remove"

/-- All operations, given how long a stop may take. -/
def Operation.all (timeout : Duration) : List Operation :=
  [.deploy, .stop timeout, .kill, .pause, .resume, .disconnect, .reconnect, .restart, .collectLogs,
    .remove]

def Operation.named? (timeout : Duration) (name : String) : Option Operation :=
  (all timeout).find? (·.name = name)

/-- What came of an operation, and what it was done to. -/
abbrev Outcome (β : Type) := Except Error Unit × β

class Backend (β : Type) where
  kind : β → String
  /-- Whether a node can be cut off from its peers. -/
  supportsPartition : β → Bool
  perform : Operation → β → Work (Outcome β)
  state : β → Work (Except Error NodeState)
  /-- The packet filter rules that are in place on the node. -/
  faultRules : β → Work (Except Error (List String))
  /-- What giving a backend up leads to. -/
  release : β → Work Unit
  /-- Deploys on a worker of a pool. Gives nothing if the worker dies of it. -/
  deployOnWorker : β → Work (Option (Outcome β)) := fun b => some <$> perform .deploy b

namespace Backend

variable {β : Type} [Backend β]

/-- Neither a failed kill nor missing logs keep a node from being removed. -/
def destroy (b : β) : Work (Outcome β) := do
  let (_, b) ← perform .kill b
  let (_, b) ← perform .collectLogs b
  perform .remove b

end Backend

namespace Attempt

variable {β : Type}

/-- An operation that leaves the backend as it is. -/
def keeping (p : Attempt Unit) (b : β) : Work (Outcome β) := (·, b) <$> p.run

/-- An operation that changes the backend if it succeeds. -/
def changing (p : Attempt Unit) (b after : β) : Work (Outcome β) := do
  match ← p.run with
  | .ok () => return (.ok (), after)
  | .error e => return (.error e, b)

end Attempt

/-! ## Asking peers -/

def askEngine (c : EngineCall) : Work c.Answer := .ask (I := outside) (.engine c)

def askShell (c : ShellCall) : Work c.Answer := .ask (I := outside) (.shell c)

/-- Appends what a node logged to the file of its name. -/
def appendLog (dir name contents : String) : Attempt Unit := do
  askFiles (.createDir dir)
  askFiles (.append (Path.join dir (name ++ ".log")) contents)

end Testbed
