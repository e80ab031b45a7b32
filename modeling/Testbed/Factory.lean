import Testbed.Backend.Physical
import Testbed.Backend.StandIn
import Testbed.Text.Record
/-!
# Where backends come from

A factory knows how the nodes of a cluster are deployed, under which endpoint each is known, and how
to make a backend for it. Containers start fast and are deployed one after the other. Placing a
service on a host takes long, so that remote processes are deployed by several workers at once.
-/

namespace Testbed

inductive Strategy where
  | sequential
  | concurrent (workers : Nat)
  deriving DecidableEq, Repr

def Strategy.text : Strategy → String
  | .sequential => "Sequential"
  | .concurrent workers => Text.record "Concurrent" [("workers", toString workers)]

structure Factory (β : Type) where
  strategy : Strategy
  endpoint : NodeParams → Except Error String
  /-- Makes the backend of a node, given the directory for its logs. -/
  backend : NodeParams → (logDir : String) → Except Error β

namespace Factory

/-- A factory of another type of backends. -/
def map {β γ : Type} (f : β → γ) (factory : Factory β) : Factory γ where
  strategy := factory.strategy
  endpoint := factory.endpoint
  backend node logDir := (factory.backend node logDir).map f

def containers (service : ServiceParams) (network : String) : Factory Container where
  strategy := .sequential
  endpoint node := .ok node.endpoint
  backend node logDir := .ok (.ofNode node service network logDir)

/-- The address of the host that a node is placed on. -/
def address (addresses : NameMap String) (node : NodeParams) : Except Error String :=
  match node.host with
  | none => .error (.config ("Node " ++ node.name ++ " has no host"))
  | some host =>
    match addresses.find? host with
    | none => .error (.notFound ("address of host " ++ host))
    | some a => .ok a

def processes (service : ServiceParams) (addresses : NameMap String) (workers : Nat) :
    Factory RemoteProcess where
  strategy := .concurrent workers
  endpoint node := (address addresses node).map fun a => a ++ ":" ++ node.portText
  backend node logDir := (address addresses node).map fun a => .ofNode node a service logDir

/-- Stand-ins of which some cannot be made, and others cannot be addressed. -/
def standIns (strategy : Strategy) (endpointLead : String)
    (withoutEndpoint withoutBackend : List String) : Factory StandIn where
  strategy := strategy
  endpoint node :=
    if withoutEndpoint.contains node.name then .error (.notFound ("endpoint of " ++ node.name))
    else .ok (endpointLead ++ node.endpoint)
  backend node _ :=
    if withoutBackend.contains node.name then .error (.config ("backend of " ++ node.name))
    else .ok (.ofNode node)

end Factory

end Testbed
