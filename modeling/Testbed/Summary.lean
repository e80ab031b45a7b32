/-!
# What a teardown did

Teardown goes on after a failure and counts it.
-/

namespace Testbed

structure TeardownSummary where
  nodes : Nat
  failures : Nat
  deriving DecidableEq, Repr

namespace TeardownSummary

def empty : TeardownSummary := ⟨0, 0⟩

def merge (a b : TeardownSummary) : TeardownSummary := ⟨a.nodes + b.nodes, a.failures + b.failures⟩

/-- Counts one more node and whether it failed. -/
def count (s : TeardownSummary) (failed : Bool) : TeardownSummary :=
  ⟨s.nodes + 1, if failed then s.failures + 1 else s.failures⟩

def text (s : TeardownSummary) : String :=
  toString s.nodes ++ " nodes, " ++ toString s.failures ++ " failures"

end TeardownSummary

end Testbed
