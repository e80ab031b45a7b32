import Testbed.Backend
/-!
# Faults

A fault is an operation that harms a node, paired with the one that heals it.
-/

namespace Testbed

inductive Fault where
  | partition
  | pause
  | stop
  | kill
  deriving DecidableEq, Repr

namespace Fault

def all : List Fault := [.partition, .pause, .stop, .kill]

def text : Fault → String
  | .partition => "Partition"
  | .pause => "Pause"
  | .stop => "Stop"
  | .kill => "Kill"

/-- The operation that brings a fault about. -/
def injection (timeout : Duration) : Fault → Operation
  | .partition => .disconnect
  | .pause => .pause
  | .stop => .stop timeout
  | .kill => .kill

/-- The operation that undoes a fault. -/
def healing : Fault → Operation
  | .partition => .reconnect
  | .pause => .resume
  | .stop | .kill => .restart

/-- The faults that a backend can be made to suffer. -/
def supported {β : Type} [Backend β] (b : β) : List Fault :=
  if Backend.supportsPartition b then all else all.filter (· ≠ .partition)

end Fault

end Testbed
