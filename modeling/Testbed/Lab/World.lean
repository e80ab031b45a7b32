import Testbed.Lab.Engine
import Testbed.Lab.Hypervisor
import Testbed.Lab.Program
import Testbed.Lab.Shell
/-!
# All peers in memory

A `World` is everything outside the testbed, held in memory. It answers every call, and what it was
asked can be looked up afterwards. A container that is abandoned is killed as soon as the testbed
waits for the file system, or at the latest when somebody settles the world.
-/

namespace Testbed.Lab

structure World where
  engine : Engine
  shell : Shell
  hypervisor : Hypervisor
  files : Files
  /-- The actions of stand-ins that fail, as node and action. -/
  failingActions : List (String × String)
  actions : List String
  bootstraps : List BootstrapRequest
  bootstrapsFail : Bool
  /-- Containers that are still to be killed. -/
  abandoned : List String
  /-- How many identifiers were given out. -/
  ids : Nat
  stamp : String
  shutdownAt : Duration

namespace World

/-- Kills the abandoned containers. -/
def settle (w : World) : World :=
  { w with
    engine := w.abandoned.foldl (fun e c => (e.answer (.kill c)).2) w.engine
    abandoned := [] }

def act (w : World) (node action : String) : Option (Except Error Unit) × World :=
  let w := { w with actions := w.actions ++ [node ++ " " ++ action] }
  let r : Except Error Unit :=
    if w.failingActions.contains (node, action) then
      .error (.node node action "injected failure")
    else .ok ()
  (some r, w)

def bootstrap (w : World) (r : BootstrapRequest) : Except Error Unit × World :=
  let w := { w with bootstraps := w.bootstraps ++ [r] }
  if w.bootstrapsFail then
    (.error (.bootstrap r.cluster (r.retries.toNat + 1) "no response from cluster"), w)
  else (.ok (), w)

def file (w : World) (c : FileCall) : Except FileError Unit × World :=
  let w := w.settle
  let (r, files) := w.files.answer c
  (r, { w with files := files })

/-- When the signal to shut down comes, seen from a moment: after how long, and whether that is
within a limit. -/
def shutdown (w : World) (clock : Duration) (limit : Option Duration) : Bool × Duration :=
  let left := w.shutdownAt.nanos - clock.nanos
  match limit with
  | none => (true, ⟨left⟩)
  | some limit => if left ≤ limit.nanos then (true, ⟨left⟩) else (false, limit)

def answer (clock : Duration) (w : World) : (c : Call) → (c.Answer × Duration) × World
  | .engine c =>
    let (a, e) := w.engine.answer c
    ((a, .zero), { w with engine := e })
  | .shell c =>
    let (a, s) := w.shell.answer c
    (a, { w with shell := s })
  | .hypervisor c =>
    let (a, h) := w.hypervisor.answer c
    ((a, .zero), { w with hypervisor := h })
  | .file c =>
    let (a, w) := w.file c
    ((a, .zero), w)
  | .program name args =>
    let (a, files) := w.settle.files.runProgram name args
    ((a, .zero), { w.settle with files := files })
  | .bootstrap r =>
    let (a, w) := w.bootstrap r
    ((a, .zero), w)
  | .act node action =>
    let (a, w) := w.act node action
    ((a, .zero), w)
  | .abandon c => (((), .zero), { w with abandoned := w.abandoned ++ [c] })
  | .freshId => ((.ofRandom (w.ids + 1), .zero), { w with ids := w.ids + 1 })
  | .timeStamp => ((w.stamp, .zero), w)
  | .pick _ => ((0, .zero), w)
  | .awaitShutdown limit => (w.shutdown clock limit, w)

def peers : Peers outside World := ⟨answer⟩

end World

end Testbed.Lab
