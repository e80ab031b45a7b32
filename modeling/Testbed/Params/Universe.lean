import Testbed.Params.Cluster
import Testbed.Params.Service
/-!
# What a universe is

The clusters to deploy and the environment to deploy them into: containers, or machines if there is
a section about them. `validate` names the first violated condition, going through the clusters in
ascending order and through their nodes in configured order.
-/

namespace Testbed

inductive BackendKind where
  | docker
  | vm
  deriving DecidableEq, Repr

structure UniverseParams where
  networkName : String
  clusters : NameMap ClusterParams
  timeout : Duration
  service : ServiceParams
  bootstrap : BootstrapParams
  /-- The directory below which node logs are collected. -/
  logRoot : String
  /-- How many hosts or nodes are worked on at a time. -/
  workers : UInt64
  vm : Option VmParams
  deriving DecidableEq

namespace UniverseParams

def defaultNetworkName : String := "universe-net"

def defaultTimeout : Duration := .ofSecs 30

def defaultLogRoot : String := tempDir ++ "/universe/logs"

def defaultWorkers : UInt64 := 10

/-- A universe of containers without clusters. Its logs are collected below the directory for
temporary files. -/
def default : UniverseParams where
  networkName := defaultNetworkName
  clusters := ∅
  timeout := defaultTimeout
  service := .default
  bootstrap := .default
  logRoot := defaultLogRoot
  workers := defaultWorkers
  vm := none

/-- Registers a cluster under its own name. -/
def withCluster (p : UniverseParams) (c : ClusterParams) : UniverseParams :=
  { p with clusters := p.clusters.insert c.name c }

def backend (p : UniverseParams) : BackendKind :=
  match p.vm with
  | some _ => .vm
  | none => .docker

def checkCluster (vm : Option VmParams) (name : String) (c : ClusterParams) :
    Except Error Unit := do
  if name ≠ c.name then
    throw (.config ("Cluster registered as " ++ name ++ " is named " ++ c.name))
  c.validate vm

def validate (p : UniverseParams) : Except Error Unit := do
  if p.workers = 0 then
    throw (.config "workers must be positive")
  if p.bootstrap.command.isEmpty then
    throw (.config "bootstrap command must not be empty")
  p.clusters.entries.forM fun e => checkCluster p.vm e.1 e.2

end UniverseParams

end Testbed
