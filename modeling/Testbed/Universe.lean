import Testbed.Cluster
import Testbed.Provision
/-!
# Universes

A universe owns all clusters of a test environment. It is deployed once, cluster after cluster in
ascending order of their names, and torn down once. A cluster is registered before it is deployed,
so that a deployment that fails half-way is still torn down.

What must not happen twice or out of order is guarded by the state, which every operation checks and
changes before it does anything else.
-/

namespace Testbed

inductive UniverseState where
  | empty
  | provisioning
  | deploying
  | bootstrapped
  | shutDown
  | destroyed
  deriving DecidableEq, Repr

def UniverseState.text : UniverseState → String
  | .empty => "Empty"
  | .provisioning => "Provisioning"
  | .deploying => "Deploying"
  | .bootstrapped => "Bootstrapped"
  | .shutDown => "ShutDown"
  | .destroyed => "Destroyed"

/-- What clusters are deployed onto. -/
inductive Environment where
  | docker
  | vm (params : VmParams)
  deriving DecidableEq

structure Universe where
  params : UniverseParams
  environment : Environment
  bootstrapper : Bootstrapper
  state : UniverseState
  clusters : NameMap (Cluster Physical)
  /-- The addresses of the provisioned hosts, by alias. -/
  addresses : NameMap String

/-- What came of an operation on a universe, and the universe afterwards. -/
abbrev UniverseOutcome (α : Type) := Except Error α × Universe

namespace Universe

def inEnvironment (params : UniverseParams) (environment : Environment)
    (bootstrapper : Bootstrapper) : Universe :=
  ⟨params, environment, bootstrapper, .empty, ∅, ∅⟩

/-- A universe of containers. -/
def docker (params : UniverseParams) (bootstrapper : Bootstrapper) : Except Error Universe := do
  params.validate
  if params.vm.isSome then
    throw (.config "A docker universe must not have a vm section")
  return inEnvironment params .docker bootstrapper

/-- A universe of virtual machines. -/
def vm (params : UniverseParams) (bootstrapper : Bootstrapper) : Except Error Universe := do
  params.validate
  match params.vm with
  | some vm => return inEnvironment params (.vm vm) bootstrapper
  | none => throw (.config "A vm universe needs a vm section")

/-! ## The state -/

def refusal (u : Universe) (operation : String) : Error :=
  .invalidState u.state.text operation

/-- The state in which a deployment starts. -/
def firstState (u : Universe) : UniverseState :=
  match u.environment with
  | .docker => .deploying
  | .vm _ => .provisioning

def beginDeploy (u : Universe) : Except Error Universe :=
  if u.state = .empty then .ok { u with state := u.firstState } else .error (u.refusal "deploy")

/-- A universe that is shut down can still be destroyed, one that is destroyed is final. -/
def beginTeardown (u : Universe) (next : UniverseState) (operation : String) :
    Except Error Universe :=
  if u.state = next ∨ u.state = .destroyed then .error (u.refusal operation)
  else .ok { u with state := next }

/-! ## Deployment -/

/-- Records the addresses that are configured. -/
def recordConfigured (u : Universe) (hosts : List (String × Option String)) : Universe :=
  hosts.foldl (fun u host =>
    match host.2 with
    | some address => { u with addresses := u.addresses.insert host.1 address }
    | none => u) u

/-- The hosts that have no address yet. -/
def unaddressed (vm : VmParams) : List String :=
  (vm.hosts.entries.filter (·.2.isNone)).map (·.1)

/-- Provisions a host on a worker. -/
def provisionOnWorker (vm : VmParams) (name : String) :
    Work (Option (String × Except Error String)) := do
  return some (name, ← (Provision.host vm name).run)

/-- Records the addresses of hosts that were provisioned, and gives the first failure. -/
def recordAll (u : Universe) : List (String × Except Error String) → Option Error × Universe
  | [] => (none, u)
  | (name, .ok address) :: rest =>
    { u with addresses := u.addresses.insert name address }.recordAll rest
  | (_, .error e) :: rest => (some e, (u.recordAll rest).2)

/-- Gives every host an address. Hosts are provisioned by several workers; one that fails does not
keep the others from being recorded. -/
def provision (u : Universe) (vm : VmParams) : Work (UniverseOutcome Unit) := do
  let u := u.recordConfigured vm.hosts.entries
  let outcome ← Pool.run u.params.workers.toNat ((unaddressed vm).map (provisionOnWorker vm))
  let (failure, u) := u.recordAll outcome.completed
  match failure.or (Cluster.poolFailure outcome) with
  | some e => return (.error e, u)
  | none => return (.ok (), { u with state := .deploying })

/-- Makes the environment ready for nodes. -/
def prepareEnvironment (u : Universe) : Work (UniverseOutcome Unit) :=
  match u.environment with
  | .docker => do return (← askEngine (.ensureNetwork u.params.networkName), u)
  | .vm vm => u.provision vm

/-- The factory for the nodes of all clusters. -/
def factory (u : Universe) : Factory Physical :=
  match u.environment with
  | .docker => (Factory.containers u.params.service u.params.networkName).map .container
  | .vm _ =>
    (Factory.processes u.params.service u.addresses u.params.workers.toNat).map .process

/-- Registers a cluster. -/
def putCluster (u : Universe) (c : Cluster Physical) : Universe :=
  { u with clusters := u.clusters.insert c.name c }

def newCluster (u : Universe) (factory : Factory Physical) (params : ClusterParams) :
    Work (Cluster Physical) := do
  let stamp ← Procedure.ask (I := outside) .timeStamp
  return .ofParams ⟨factory, u.bootstrapper, u.params.logRoot, u.params.service.name, stamp⟩ params

/-- Deploys clusters one after the other until one fails. -/
def deployClusters (u : Universe) (factory : Factory Physical) :
    List ClusterParams → Work (UniverseOutcome Unit)
  | [] => return (.ok (), u)
  | params :: rest => do
    let cluster ← u.newCluster factory params
    let u := u.putCluster cluster
    match ← cluster.deploy with
    | (.ok (), cluster) => (u.putCluster cluster).deployClusters factory rest
    | (.error e, cluster) => return (.error e, u.putCluster cluster)

def deploy (u : Universe) : Work (UniverseOutcome Unit) := do
  match u.beginDeploy with
  | .error e => return (.error e, u)
  | .ok u =>
    match ← u.prepareEnvironment with
    | (.error e, u) => return (.error e, u)
    | (.ok (), u) =>
      match ← u.deployClusters u.factory u.params.clusters.values with
      | (.error e, u) => return (.error e, u)
      | (.ok (), u) => return (.ok (), { u with state := .bootstrapped })

/-! ## Teardown -/

/-- Tears clusters down, one after the other. -/
def tearDown (u : Universe)
    (act : Cluster Physical → Work (TeardownSummary × Cluster Physical))
    (summary : TeardownSummary) : List (Cluster Physical) → Work (TeardownSummary × Universe)
  | [] => return (summary, u)
  | cluster :: rest => do
    let (s, cluster) ← act cluster
    (u.putCluster cluster).tearDown act (summary.merge s) rest

def shutDown (u : Universe) : Work (UniverseOutcome TeardownSummary) := do
  match u.beginTeardown .shutDown "shut down" with
  | .error e => return (.error e, u)
  | .ok u =>
    let (s, u) ← u.tearDown (·.stop u.params.timeout) .empty u.clusters.values
    return (.ok s, u)

/-- Gives the resources of the environment back. A network that cannot be removed stays. -/
def releaseEnvironment (u : Universe) : Work Unit :=
  match u.environment with
  | .docker => discard (askEngine (.removeNetwork u.params.networkName))
  | .vm _ => return ()

def destroy (u : Universe) : Work (UniverseOutcome TeardownSummary) := do
  match u.beginTeardown .destroyed "destroy" with
  | .error e => return (.error e, u)
  | .ok u =>
    let (s, u) ← u.tearDown Cluster.destroy .empty u.clusters.values
    u.releaseEnvironment
    return (.ok s, u)

/-- Gives all nodes up. -/
def release (u : Universe) : Work Unit :=
  u.clusters.values.forM fun c => c.members.values.forM fun n => Backend.release n.backend

end Universe

end Testbed
