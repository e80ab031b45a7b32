import Testbed.Layout
/-!
# Managing the members of a cluster

After a cluster is bootstrapped its members change through a management client. The one here keeps
the layout in memory: it applies each accepted change to the layout servers, the sequencers and the
stripes alike, counts it in the epoch and notes the request.
-/

namespace Testbed

inductive ClusterStatus where
  | stable
  | degraded
  | unavailable
  deriving DecidableEq, Repr

inductive NodeStatus where
  | up
  | down
  deriving DecidableEq, Repr

/-- How a cluster does, and which of its members are reached, by endpoint. -/
structure StatusReport where
  status : ClusterStatus
  nodes : NameMap NodeStatus
  deriving DecidableEq

namespace StatusReport

def downNodes (r : StatusReport) : List String :=
  (r.nodes.entries.filter (·.2 = .down)).map (·.1)

/-- A cluster is stable with all members up, unavailable with all down, and degraded otherwise. A
cluster without members is stable. -/
def ofNodes (nodes : NameMap NodeStatus) : StatusReport where
  status :=
    let down := (nodes.values.filter (· = .down)).length
    if down = 0 then .stable
    else if down = nodes.values.length then .unavailable
    else .degraded
  nodes := nodes

end StatusReport

/-! ## The client -/

structure ManagementClient where
  layout : Layout
  /-- The endpoints that are marked as down. -/
  down : List String
  /-- The accepted requests, in order. -/
  requests : List String
  deriving DecidableEq

namespace LayoutSegment

/-- Changes the servers of every stripe. -/
def mapServers (f : List String → List String) (s : LayoutSegment) : LayoutSegment :=
  { s with stripes := s.stripes.map fun stripe => ⟨f stripe.logServers⟩ }

end LayoutSegment

namespace Layout

/-- Changes the servers in every role. -/
def mapServers (f : List String → List String) (l : Layout) : Layout :=
  { l with
    layoutServers := f l.layoutServers
    sequencers := f l.sequencers
    segments := l.segments.map (LayoutSegment.mapServers f) }

end Layout

namespace ManagementClient

/-- How often a request is retried unless the caller says otherwise. -/
def defaultRetries : UInt32 := 5

def ofLayout (layout : Layout) : ManagementClient := ⟨layout, [], []⟩

/-- A client for a new cluster of the given servers. -/
def ofServers (clusterId : Uuid) (servers : List String) : Except Error ManagementClient :=
  (Layout.bootstrap clusterId servers).map ofLayout

def markDown (c : ManagementClient) (endpoint : String) : ManagementClient :=
  { c with down := if c.down.contains endpoint then c.down else endpoint :: c.down }

def requestText (verb endpoint : String) (retries : UInt32) : String :=
  verb ++ " " ++ endpoint ++ " retries=" ++ toString retries.toNat

/-- Carries out a request on the servers of every role. -/
def change (c : ManagementClient) (request : String) (f : List String → List String) :
    ManagementClient :=
  { c with
    layout := { c.layout.mapServers f with epoch := c.layout.epoch + 1 }
    requests := c.requests ++ [request] }

def addNode (c : ManagementClient) (endpoint : String) (retries : UInt32) : ManagementClient :=
  c.change (requestText "add" endpoint retries) (· ++ [endpoint])

/-- Removes a member; one that is not in the layout is refused. -/
def removeAs (verb : String) (c : ManagementClient) (endpoint : String) (retries : UInt32) :
    Except Error ManagementClient :=
  if c.layout.layoutServers.contains endpoint then
    let changed := c.change (requestText verb endpoint retries) (·.filter (· ≠ endpoint))
    .ok { changed with down := changed.down.filter (· ≠ endpoint) }
  else .error (.notFound (endpoint ++ " is not in the layout"))

def removeNode (c : ManagementClient) (endpoint : String) (retries : UInt32) :
    Except Error ManagementClient :=
  removeAs "remove" c endpoint retries

/-- Removes a member without its cooperation. -/
def forceRemoveNode (c : ManagementClient) (endpoint : String) (retries : UInt32) :
    Except Error ManagementClient :=
  removeAs "force_remove" c endpoint retries

def clusterStatus (c : ManagementClient) : StatusReport :=
  .ofNodes (NameMap.ofList (c.layout.layoutServers.map fun e =>
    (e, if c.down.contains e then .down else .up)))

end ManagementClient

/-! ## As JSON -/

open Json

def ClusterStatus.words : List (String × ClusterStatus) :=
  [("STABLE", .stable), ("DEGRADED", .degraded), ("UNAVAILABLE", .unavailable)]

def NodeStatus.words : List (String × NodeStatus) := [("UP", .up), ("DOWN", .down)]

namespace StatusReport

def shape : Shape :=
  .record "ClusterStatusReport" [
    ("status", oneOf ClusterStatus.words, none),
    ("nodes", .table (oneOf NodeStatus.words), none)]

def toJson (r : StatusReport) : Json :=
  .object [
    ("status", wordOf ClusterStatus.words r.status),
    ("nodes", .object ((r.nodes.map (wordOf NodeStatus.words)).entries))]

def ofJson? (j : Json) : Option StatusReport := do
  match ← j.values? with
  | [status, nodes] =>
    return ⟨← ofWord? ClusterStatus.words status, ← nodes.table? (ofWord? NodeStatus.words)⟩
  | _ => none

def parse (document : String) : Except Problem StatusReport := decode shape ofJson? document

end StatusReport

end Testbed
