import Testbed.Params.Format
/-!
# Layouts

A layout says which servers of a cluster do what. The one that bootstraps a cluster gives every
server every role: all are layout servers and sequencers, and one segment that is open at its end
replicates over all of them in a chain.
-/

namespace Testbed

inductive ReplicationMode where
  | chainReplication
  deriving DecidableEq, Repr

/-- Log servers that hold the same data, in chain order. -/
structure LayoutStripe where
  logServers : List String
  deriving DecidableEq

/-- A range of log addresses; an end of -1 leaves it open. -/
structure LayoutSegment where
  replicationMode : ReplicationMode
  start : Int64
  stop : Int64
  stripes : List LayoutStripe
  deriving DecidableEq

structure Layout where
  layoutServers : List String
  sequencers : List String
  segments : List LayoutSegment
  unresponsiveServers : List String
  epoch : Int64
  clusterId : Uuid
  deriving DecidableEq

/-- The first element of a list that occurs before. -/
def firstRepeated {α : Type} [BEq α] : (seen : List α) → List α → Option α
  | _, [] => none
  | seen, a :: rest => if seen.contains a then some a else firstRepeated (a :: seen) rest

namespace Layout

/-- The layout of a new cluster made of the given endpoints. -/
def bootstrap (clusterId : Uuid) (endpoints : List String) : Except Error Layout :=
  if endpoints.isEmpty then
    .error (.config "Cannot build a layout without servers")
  else
    match firstRepeated [] endpoints with
    | some e => .error (.config ("Duplicate endpoint " ++ e ++ " in layout"))
    | none =>
      .ok {
        layoutServers := endpoints
        sequencers := endpoints
        segments := [⟨.chainReplication, 0, -1, [⟨endpoints⟩]⟩]
        unresponsiveServers := []
        epoch := 0
        clusterId := clusterId }

end Layout

/-! ## As JSON -/

open Json

def ReplicationMode.words : List (String × ReplicationMode) :=
  [("CHAIN_REPLICATION", .chainReplication)]

def ReplicationMode.text : ReplicationMode → String
  | .chainReplication => "ChainReplication"

def int64? : Json → Option Int64
  | .number n => some (Int64.ofInt n)
  | _ => none

def ofInt64 (n : Int64) : Json := .number n.toInt

namespace LayoutStripe

def shape : Shape := .record "LayoutStripe" [("logServers", .list aText, none)]

def toJson (s : LayoutStripe) : Json := .object [("logServers", ofTexts s.logServers)]

def ofJson? (j : Json) : Option LayoutStripe := do
  match ← j.values? with
  | [logServers] => return ⟨← logServers.texts?⟩
  | _ => none

end LayoutStripe

namespace LayoutSegment

def shape : Shape :=
  .record "LayoutSegment" [
    ("replicationMode", oneOf ReplicationMode.words, none),
    ("start", .whole .i64, none),
    ("end", .whole .i64, none),
    ("stripes", .list LayoutStripe.shape, none)]

def toJson (s : LayoutSegment) : Json :=
  .object [
    ("replicationMode", wordOf ReplicationMode.words s.replicationMode),
    ("start", ofInt64 s.start),
    ("end", ofInt64 s.stop),
    ("stripes", .list (s.stripes.map LayoutStripe.toJson))]

def ofJson? (j : Json) : Option LayoutSegment := do
  match ← j.values? with
  | [mode, start, stop, .list stripes] =>
    return {
      replicationMode := ← ofWord? ReplicationMode.words mode
      start := ← int64? start
      stop := ← int64? stop
      stripes := ← stripes.mapM LayoutStripe.ofJson? }
  | _ => none

end LayoutSegment

namespace Layout

def shape : Shape :=
  .record "Layout" [
    ("layoutServers", .list aText, none),
    ("sequencers", .list aText, none),
    ("segments", .list LayoutSegment.shape, none),
    ("unresponsiveServers", .list aText, none),
    ("epoch", .whole .i64, none),
    ("clusterId", .uuid, none)]

def toJson (l : Layout) : Json :=
  .object [
    ("layoutServers", ofTexts l.layoutServers),
    ("sequencers", ofTexts l.sequencers),
    ("segments", .list (l.segments.map LayoutSegment.toJson)),
    ("unresponsiveServers", ofTexts l.unresponsiveServers),
    ("epoch", ofInt64 l.epoch),
    ("clusterId", .text l.clusterId.text)]

def ofJson? (j : Json) : Option Layout := do
  match ← j.values? with
  | [layoutServers, sequencers, .list segments, unresponsive, epoch, clusterId] =>
    return {
      layoutServers := ← layoutServers.texts?
      sequencers := ← sequencers.texts?
      segments := ← segments.mapM LayoutSegment.ofJson?
      unresponsiveServers := ← unresponsive.texts?
      epoch := ← int64? epoch
      clusterId := ← (← clusterId.text?) |> Uuid.ofText? }
  | _ => none

/-- The form in which the bootstrap tool takes a layout. -/
def render (l : Layout) : String := l.toJson.pretty

def parse (document : String) : Except Problem Layout := decode shape ofJson? document

end Layout

end Testbed
