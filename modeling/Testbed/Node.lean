import Testbed.Backend
import Testbed.Text.Record
/-!
# Nodes

A node is one member of a cluster: its parameters, the endpoint under which its peers and the layout
know it, and its backend.
-/

namespace Testbed

structure Node (β : Type) where
  params : NodeParams
  endpoint : String
  backend : β
  deriving DecidableEq

namespace Node

variable {β : Type} [Backend β]

def name (n : Node β) : String := n.params.name

def perform (op : Operation) (n : Node β) : Work (Outcome (Node β)) := do
  let (r, b) ← Backend.perform op n.backend
  return (r, { n with backend := b })

def destroy (n : Node β) : Work (Outcome (Node β)) := do
  let (r, b) ← Backend.destroy n.backend
  return (r, { n with backend := b })

/-- What becomes of a node that was deployed: if that failed the backend is given up. -/
def settle (n : Node β) : Outcome β → Work (Except Error (Node β))
  | (.ok (), b) => return .ok { n with backend := b }
  | (.error e, b) => do
    Backend.release b
    return .error e

def deploy (n : Node β) : Work (Except Error (Node β)) := do
  n.settle (← Backend.perform .deploy n.backend)

/-- Deploys on a worker of a pool. Gives nothing if the worker dies of it. -/
def deployOnWorker (n : Node β) : Work (Option (Except Error (Node β))) := do
  match ← Backend.deployOnWorker n.backend with
  | some outcome => return some (← n.settle outcome)
  | none => return none

def text (n : Node β) : String :=
  Text.record "Node" [
    ("name", Text.quoted n.name), ("endpoint", Text.quoted n.endpoint),
    ("backend", Text.quoted (Backend.kind n.backend))]

end Node

end Testbed
