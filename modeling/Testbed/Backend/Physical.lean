import Testbed.Backend.Container
import Testbed.Backend.RemoteProcess
/-!
# Containers and remote processes as one type

A universe does not care which of the two its nodes are.
-/

namespace Testbed

inductive Physical where
  | container (c : Container)
  | process (p : RemoteProcess)
  deriving DecidableEq

namespace Physical

def perform (op : Operation) : Physical → Work (Outcome Physical)
  | .container c => (fun o => (o.1, .container o.2)) <$> c.perform op
  | .process p => (fun o => (o.1, .process o.2)) <$> p.perform op

def state : Physical → Work (Except Error NodeState)
  | .container c => Backend.state c
  | .process p => Backend.state p

def faultRules : Physical → Work (Except Error (List String))
  | .container c => Backend.faultRules c
  | .process p => Backend.faultRules p

def release : Physical → Work Unit
  | .container c => Backend.release c
  | .process p => Backend.release p

instance : Backend Physical where
  kind
    | .container c => Backend.kind c
    | .process p => Backend.kind p
  supportsPartition
    | .container c => Backend.supportsPartition c
    | .process p => Backend.supportsPartition p
  perform := perform
  state := state
  faultRules := faultRules
  release := release

end Physical

end Testbed
