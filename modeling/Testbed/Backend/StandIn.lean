import Testbed.Backend
import Testbed.Firewall
/-!
# Nodes that others act for

A stand-in hands every operation to somebody else and keeps track of what succeeded. Clusters can be
tried out on stand-ins without any container or host.
-/

namespace Testbed

structure StandIn where
  name : String
  state : NodeState
  partitioned : Bool
  deriving DecidableEq

namespace StandIn

def ofNode (params : NodeParams) : StandIn := ⟨params.name, .undeployed, false⟩

/-- The stand-in once an operation has succeeded, whatever its state was. -/
def after (s : StandIn) : Operation → StandIn
  | .deploy | .resume | .restart => { s with state := .running }
  | .stop _ | .kill => { s with state := .stopped }
  | .pause => { s with state := .paused }
  | .remove => { s with state := .destroyed }
  | .disconnect => { s with partitioned := true }
  | .reconnect => { s with partitioned := false }
  | .collectLogs => s

def settle (s : StandIn) (op : Operation) : Except Error Unit → Outcome StandIn
  | .ok () => (.ok (), s.after op)
  | .error e => (.error e, s)

def handOver (s : StandIn) (op : Operation) : Work (Option (Outcome StandIn)) := do
  return (← Procedure.ask (I := outside) (.act s.name op.name)).map (s.settle op)

def perform (op : Operation) (s : StandIn) : Work (Outcome StandIn) := do
  return (← s.handOver op).getD (.error (.internal (op.name ++ " of " ++ s.name ++ " died")), s)

/-- The rules of a stand-in are those of a small network. -/
def faultRules (s : StandIn) : List String :=
  if s.partitioned then (Firewall.partitionRules "10.0.0.0/24" "10.0.0.1").map FilterRule.text
  else []

instance : Backend StandIn where
  kind _ := "fake"
  supportsPartition _ := true
  perform := perform
  state s := return .ok s.state
  faultRules s := return .ok s.faultRules
  release _ := return ()
  deployOnWorker s := s.handOver .deploy

end StandIn

end Testbed
