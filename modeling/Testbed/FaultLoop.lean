import Testbed.Fault
import Testbed.Universe
/-!
# The fault loop

Until it is told to shut down the loop waits for an interval, picks a node and a fault that the node
can suffer, brings the fault about, holds it for another interval and heals it. A fault is healed
also if the signal to shut down comes while it is held.
-/

namespace Testbed

namespace Universe

/-- All nodes, with the cluster each is a member of. -/
def nodes (u : Universe) : List (Cluster Physical × String × Node Physical) :=
  u.clusters.values.flatMap fun c => c.members.entries.map fun m => (c, m.1, m.2)

end Universe

namespace FaultLoop

/-- Waits for the signal to shut down, but for no longer than a limit. -/
def awaitShutdown (limit : Duration) : Work Bool :=
  .ask (I := outside) (.awaitShutdown (some limit))

/-- One of the elements of a list, whichever. -/
def pick {α : Type} : List α → Work (Option α)
  | [] => return none
  | a :: rest => do
    let i ← Procedure.ask (I := outside) (.pick rest.length)
    return some ((a :: rest).get i)

/-- Does an operation to a member and puts it back in its place. -/
def performIn (u : Universe) (c : Cluster Physical) (name : String) (op : Operation)
    (node : Node Physical) : Work (Except Error Unit × Node Physical × Universe) := do
  let (r, node) ← node.perform op
  return (r, node, u.putCluster { c with members := c.members.insert name node })

/-- Brings a fault about, holds it and heals it. One that could not be brought about is not
healed. -/
def suffer (u : Universe) (hold : Duration) (c : Cluster Physical) (name : String)
    (node : Node Physical) (fault : Fault) : Work (UniverseOutcome Unit) := do
  match ← performIn u c name (fault.injection u.params.timeout) node with
  | (.error e, _, u) => return (.error e, u)
  | (.ok (), node, u) =>
    discard (awaitShutdown hold)
    let (r, _, u) ← performIn u c name fault.healing node
    return (r, u)

def round (u : Universe) (hold : Duration) : Work (UniverseOutcome Unit) := do
  match ← pick u.nodes with
  | none => return (.ok (), u)
  | some (c, name, node) =>
    match ← pick (Fault.supported node.backend) with
    | none => return (.ok (), u)
    | some fault => suffer u hold c name node fault

/-- More rounds than ever take place. -/
def manyRounds : Nat := 0x10000000000000000

/-- Goes through at most so many rounds. A round that fails does not end the loop. -/
def run (interval : Duration) : (rounds : Nat) → Universe → Work Universe
  | 0, u => return u
  | rounds + 1, u => do
    if ← awaitShutdown interval then return u
    else
      let (_, u) ← round u interval
      run interval rounds u

end FaultLoop

end Testbed
