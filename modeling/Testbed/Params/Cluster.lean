import Testbed.Params.Node
import Testbed.Params.Vm
/-!
# What a cluster is

A list of nodes with distinct endpoints, and how persistently to bootstrap them. `addNode` keeps the
endpoints distinct; a list that came in as a whole is checked by `validate`.
-/

namespace Testbed

inductive NodeType where
  | server
  | client
  deriving DecidableEq, Repr

def NodeType.text : NodeType → String
  | .server => "Server"
  | .client => "Client"

structure ClusterParams where
  name : String
  nodeType : NodeType
  nodes : List NodeParams
  bootstrapRetries : UInt32
  retryTimeout : Duration
  deriving DecidableEq

namespace ClusterParams

def defaultRetries : UInt32 := 3

def defaultRetryTimeout : Duration := .ofSecs 10

/-- A cluster of servers without any node yet. -/
def named (name : String) : ClusterParams :=
  ⟨name, .server, [], defaultRetries, defaultRetryTimeout⟩

/-- The endpoints of the nodes, in order. -/
def servers (c : ClusterParams) : List String := c.nodes.map NodeParams.endpoint

/-- Appends a node unless its endpoint is taken. -/
def addNode (c : ClusterParams) (node : NodeParams) : Except Error ClusterParams :=
  if c.nodes.any (·.endpoint = node.endpoint) then
    .error (.config ("Duplicate endpoint " ++ node.endpoint ++ " in cluster " ++ c.name))
  else .ok { c with nodes := c.nodes ++ [node] }

/-- A cluster of default nodes on the given ports. -/
def withPorts (name : String) (ports : List UInt16) : Except Error ClusterParams :=
  ports.foldlM (fun c port => c.addNode (.ofPort port)) (named name)

/-- With a list of hosts, every node has to be placed on one of them. -/
def checkHost (vm : Option VmParams) (node : NodeParams) : Except Error Unit :=
  match vm, node.host with
  | none, _ => .ok ()
  | some vm, some host =>
    if vm.hosts.contains host then .ok ()
    else .error (.config ("Node " ++ node.name ++ " refers to unknown host " ++ host))
  | some _, none => .error (.config ("Node " ++ node.name ++ " has no host assigned"))

/-- Checks the nodes in order; `taken` are the ports of those already passed. -/
def checkNodes (name : String) (vm : Option VmParams) :
    (taken : List UInt16) → List NodeParams → Except Error Unit
  | _, [] => .ok ()
  | taken, node :: rest => do
    if taken.contains node.port then
      throw (.config ("Duplicate port " ++ node.portText ++ " in cluster " ++ name))
    let _ ← node.commandLine
    checkHost vm node
    checkNodes name vm (taken ++ [node.port]) rest

def validate (c : ClusterParams) (vm : Option VmParams) : Except Error Unit := do
  if Text.allBlank c.name then
    throw (.config "Cluster name must not be empty")
  if c.nodeType ≠ .server then
    throw (.config ("Cluster " ++ c.name ++ " has node type " ++ c.nodeType.text ++
      ", only servers can be deployed"))
  checkNodes c.name vm [] c.nodes

end ClusterParams

end Testbed
