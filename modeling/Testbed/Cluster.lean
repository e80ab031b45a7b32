import Testbed.Bootstrap
import Testbed.Factory
import Testbed.Management
import Testbed.Node
import Testbed.Pool
import Testbed.Summary
/-!
# Clusters

A cluster is a named set of nodes that are deployed together and then bootstrapped into one logical
whole. Its parameters list the configured nodes in order, its members are the nodes that are
deployed. A node that came up is a member even if others failed, so that teardown reaches it.
Teardown goes through the members in ascending order of their names and counts failures without
stopping at any.
-/

namespace Testbed

/-- What all nodes of a cluster share. -/
structure ClusterSetting (β : Type) where
  factory : Factory β
  bootstrapper : Bootstrapper
  logRoot : String
  service : String
  /-- Ends the names of all log directories, so that those of one run stand together. -/
  stamp : String

structure Cluster (β : Type) where
  setting : ClusterSetting β
  params : ClusterParams
  members : NameMap (Node β)

/-- What came of an operation on a cluster, and the cluster afterwards. -/
abbrev ClusterOutcome (β α : Type) := Except Error α × Cluster β

namespace Cluster

variable {β : Type} [Backend β]

def ofParams (setting : ClusterSetting β) (params : ClusterParams) : Cluster β :=
  ⟨setting, params, ∅⟩

def name (c : Cluster β) : String := c.params.name

def logDir (c : Cluster β) (node : NodeParams) : String :=
  node.serverLogDir c.setting.logRoot c.setting.service c.setting.stamp

/-! ## Members -/

/-- Makes a node a member. A member of the same name is given up. -/
def register (c : Cluster β) (node : Node β) : Work (Cluster β) := do
  match c.members.find? node.name with
  | some old => Backend.release old.backend
  | none => pure ()
  return { c with members := c.members.insert node.name node }

/-- A node that is ready to be deployed. -/
def prepare (c : Cluster β) (node : NodeParams) : Attempt (Node β) := do
  askFiles (.createDir (c.logDir node))
  let endpoint ← Attempt.ofExcept (c.setting.factory.endpoint node)
  let backend ← Attempt.ofExcept (c.setting.factory.backend node (c.logDir node))
  return ⟨node, endpoint, backend⟩

def deployNode (c : Cluster β) (node : NodeParams) : Work (Except Error (Node β)) := do
  match ← (c.prepare node).run with
  | .ok ready => ready.deploy
  | .error e => return .error e

/-- Deploys nodes one after the other until one fails. -/
def deployInTurn (c : Cluster β) : List NodeParams → Work (ClusterOutcome β Unit)
  | [] => return (.ok (), c)
  | node :: rest => do
    match ← c.deployNode node with
    | .ok deployed => (← c.register deployed).deployInTurn rest
    | .error e => return (.error e, c)

/-- Prepares nodes until one fails, and gives those that are ready and the failure. -/
def prepareAll (c : Cluster β) : List NodeParams → Work (List (Node β) × Option Error)
  | [] => return ([], none)
  | node :: rest => do
    match ← (c.prepare node).run with
    | .ok ready =>
      let (others, failure) ← c.prepareAll rest
      return (ready :: others, failure)
    | .error e => return ([], some e)

/-- Makes members of the nodes that came up, and gives the first failure of the others. -/
def registerAll (c : Cluster β) :
    List (Except Error (Node β)) → Work (Option Error × Cluster β)
  | [] => return (none, c)
  | .ok deployed :: rest => do (← c.register deployed).registerAll rest
  | .error e :: rest => do
    let (_, c) ← c.registerAll rest
    return (some e, c)

/-- The failure of a pool in which a worker died. -/
def poolFailure {α : Type} (o : Pool.Outcome α) : Option Error :=
  if o.failed then some (.internal "a worker died") else none

/-- Deploys nodes on so many workers. A failure to prepare a node counts before one to deploy, and
that before the death of a worker. -/
def deployAtOnce (c : Cluster β) (workers : Nat) (nodes : List NodeParams) :
    Work (ClusterOutcome β Unit) := do
  let (ready, unprepared) ← c.prepareAll nodes
  let outcome ← Pool.run workers (ready.map Node.deployOnWorker)
  let (undeployed, c) ← c.registerAll outcome.completed
  match unprepared.or (undeployed.or (poolFailure outcome)) with
  | some e => return (.error e, c)
  | none => return (.ok (), c)

def deployNodes (c : Cluster β) : Work (ClusterOutcome β Unit) :=
  match c.setting.factory.strategy with
  | .sequential => c.deployInTurn c.params.nodes
  | .concurrent workers => c.deployAtOnce workers c.params.nodes

/-! ## Bootstrapping -/

/-- The endpoints of the configured nodes, all of which have to be members. -/
def endpoints (c : Cluster β) : Except Error (List String) :=
  c.params.nodes.mapM fun node =>
    match c.members.find? node.name with
    | some member => .ok member.endpoint
    | none => .error (.notFound ("deployed node " ++ node.name))

/-- Submits the layout of the configured nodes, in their order. -/
def bootstrap (c : Cluster β) : Attempt Unit := do
  let endpoints ← Attempt.ofExcept c.endpoints
  let id ← ExceptT.lift (Procedure.ask (I := outside) .freshId)
  let layout ← Attempt.ofExcept (Layout.bootstrap id endpoints)
  c.setting.bootstrapper ⟨c.name, layout, c.params.bootstrapRetries, c.params.retryTimeout⟩

def deploy (c : Cluster β) : Work (ClusterOutcome β Unit) := do
  match ← c.deployNodes with
  | (.ok (), c) => return (← c.bootstrap.run, c)
  | (.error e, c) => return (.error e, c)

/-- Deploys one more node. The layout is left alone. -/
def add (c : Cluster β) (node : NodeParams) : Work (ClusterOutcome β (Node β)) := do
  match c.params.addNode node with
  | .error e => return (.error e, c)
  | .ok params =>
    match ← c.deployNode node with
    | .error e => return (.error e, c)
    | .ok deployed => return (.ok deployed, ← { c with params := params }.register deployed)

/-- Deploys one more node and has it added to the layout. -/
def join (c : Cluster β) (client : ManagementClient) (node : NodeParams) (retries : UInt32) :
    Work (ClusterOutcome β (Node β) × ManagementClient) := do
  match ← c.add node with
  | (.ok deployed, c) => return ((.ok deployed, c), client.addNode deployed.endpoint retries)
  | (.error e, c) => return ((.error e, c), client)

/-! ## Acting on nodes -/

/-- Acts on one member. Gives nothing if there is no such member. -/
def performOn (c : Cluster β) (name : String)
    (act : Node β → Work (Outcome (Node β))) : Work (Option (ClusterOutcome β Unit)) :=
  match c.members.find? name with
  | none => return none
  | some member => do
    let (r, member) ← act member
    return some (r, { c with members := c.members.insert name member })

def failed (r : Except Error Unit) : Bool :=
  match r with
  | .ok () => false
  | .error _ => true

/-- Does an operation to members, one after the other. -/
def performAll (c : Cluster β) (op : Operation) (summary : TeardownSummary) :
    List (String × Node β) → Work (TeardownSummary × Cluster β)
  | [] => return (summary, c)
  | (name, member) :: rest => do
    let (r, member) ← member.perform op
    let c := { c with members := c.members.insert name member }
    c.performAll op (summary.count (failed r)) rest

def stop (c : Cluster β) (timeout : Duration) : Work (TeardownSummary × Cluster β) :=
  c.performAll (.stop timeout) .empty c.members.entries

def kill (c : Cluster β) : Work (TeardownSummary × Cluster β) :=
  c.performAll .kill .empty c.members.entries

/-- Destroys members, one after the other. Those that are destroyed leave the cluster. -/
def destroyAll (c : Cluster β) (summary : TeardownSummary) :
    List (String × Node β) → Work (TeardownSummary × Cluster β)
  | [] => return (summary, c)
  | (name, member) :: rest => do
    match ← member.destroy with
    | (.ok (), member) =>
      Backend.release member.backend
      let c := { c with members := c.members.erase name }
      c.destroyAll (summary.count false) rest
    | (.error _, member) =>
      let c := { c with members := c.members.insert name member }
      c.destroyAll (summary.count true) rest

def destroy (c : Cluster β) : Work (TeardownSummary × Cluster β) :=
  c.destroyAll .empty c.members.entries

end Cluster

end Testbed
