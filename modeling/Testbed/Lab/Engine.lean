import Testbed.Firewall
import Testbed.Lab.Rule
/-!
# A container engine in memory

Containers are kept by name, each with its state, its network and the rules of its packet filter.
`Engine.perform` is what the engine does by itself, `Engine.answer` adds the rules that make it
deviate and a log of all calls that may change something. A call that is made to fail has no effect.
-/

namespace Testbed.Lab

structure SimulatedContainer where
  spec : ContainerSpec
  running : Bool
  paused : Bool
  network : Option String
  rules : List String
  deriving DecidableEq

namespace SimulatedContainer

def ofSpec (spec : ContainerSpec) : SimulatedContainer := ⟨spec, false, false, none, []⟩

def status (c : SimulatedContainer) : ContainerStatus := ⟨c.running, c.paused⟩

def down (c : SimulatedContainer) : SimulatedContainer :=
  { c with running := false, paused := false }

/-- What the packet filter lists before any rule. -/
def policies : String := "-P INPUT ACCEPT\n-P FORWARD ACCEPT\n-P OUTPUT ACCEPT\n"

/-- Runs a command of the packet filter. -/
def filter (c : SimulatedContainer) (action : String) (rest : List String) :
    CommandOutput × SimulatedContainer :=
  let rule := "-A " ++ Text.spaced rest
  match action with
  | "-C" => (⟨"", if c.rules.contains rule then 0 else 1⟩, c)
  | "-A" => (⟨"", 0⟩, { c with rules := c.rules ++ [rule] })
  | "-F" =>
    (⟨"", 0⟩, { c with
      rules := c.rules.filter fun r => !(rule ++ " ").toList.isPrefixOf r.toList })
  | "-S" => (⟨policies ++ String.join (c.rules.map (· ++ "\n")), 0⟩, c)
  | _ => (⟨"", 2⟩, c)

/-- The packet filter is the only command of a container. -/
def exec (c : SimulatedContainer) : List String → CommandOutput × SimulatedContainer
  | "iptables" :: action :: rest => c.filter action rest
  | _ => (⟨"", 127⟩, c)

end SimulatedContainer

/-! ## What a call is about -/

def callName : EngineCall → String
  | .create _ => "create"
  | .start _ => "start"
  | .stop _ _ => "stop"
  | .kill _ => "kill"
  | .pause _ => "pause"
  | .unpause _ => "unpause"
  | .restart _ => "restart"
  | .remove _ => "remove"
  | .exec _ _ => "exec"
  | .inspect _ => "inspect"
  | .connect _ _ => "connect"
  | .networkInfo _ => "network_info"
  | .ensureNetwork _ => "ensure_network"
  | .removeNetwork _ => "remove_network"
  | .logs _ => "logs"

/-- The container or network of a call. -/
def callSubject : EngineCall → String
  | .create spec => spec.name
  | .start c | .stop c _ | .kill c | .pause c | .unpause c | .restart c | .remove c | .exec c _
  | .inspect c | .connect c _ | .logs c => c
  | .networkInfo n | .ensureNetwork n | .removeNetwork n => n

/-- The text that rules look at. -/
def callText : EngineCall → String
  | .exec c cmd => Text.spaced (c :: cmd)
  | c => callSubject c

/-- The line of a call in the log. Calls that only look are not logged. -/
def callLine : EngineCall → Option String
  | .inspect _ | .networkInfo _ => none
  | .stop c timeout => some (Text.spaced ["stop", c, timeout.text])
  | .connect c network => some (Text.spaced ["connect", c, network])
  | c => some (callName c ++ " " ++ callText c)

/-! ## The engine -/

structure Engine where
  containers : NameMap SimulatedContainer
  networks : List String
  info : NetworkInfo
  rules : List Rule
  log : List String

namespace Engine

def empty (info : NetworkInfo) (rules : List Rule) : Engine := ⟨∅, [], info, rules, []⟩

def defaultInfo : NetworkInfo := ⟨"172.20.0.0/16", "172.20.0.1"⟩

/-- Does something with a container, which has to exist. -/
def withContainer {α : Type} (e : Engine) (name : String)
    (f : SimulatedContainer → Except Error α × SimulatedContainer) : Except Error α × Engine :=
  match e.containers.find? name with
  | none => (.error (.notFound ("container " ++ name)), e)
  | some c => ((f c).1, { e with containers := e.containers.insert name (f c).2 })

/-- Changes a container, which has to exist. -/
def update (e : Engine) (name : String) (f : SimulatedContainer → SimulatedContainer) :
    Except Error Unit × Engine :=
  e.withContainer name fun c => (.ok (), f c)

def create (e : Engine) (spec : ContainerSpec) : Except Error String × Engine :=
  if e.containers.contains spec.name then
    (.error (.internal ("container " ++ spec.name ++ " already exists")), e)
  else
    (.ok ("id-" ++ spec.name),
      { e with containers := e.containers.insert spec.name (.ofSpec spec) })

def remove (e : Engine) (name : String) : Except Error Unit × Engine :=
  if e.containers.contains name then (.ok (), { e with containers := e.containers.erase name })
  else (.error (.notFound ("container " ++ name)), e)

/-- Commands run only in containers that are up. -/
def exec (e : Engine) (name : String) (cmd : List String) : Except Error CommandOutput × Engine :=
  e.withContainer name fun c =>
    if !c.running || c.paused then
      (.error (.internal ("container " ++ c.spec.name ++ " is not running")), c)
    else (.ok (c.exec cmd).1, (c.exec cmd).2)

def removeNetwork (e : Engine) (network : String) : Except Error Unit × Engine :=
  if e.networks.contains network then
    (.ok (), { e with networks := e.networks.filter (· ≠ network) })
  else (.error (.notFound ("network " ++ network)), e)

def logLine (c : SimulatedContainer) : String :=
  c.spec.name ++ " started on port " ++ toString c.spec.port.toNat ++ "\n"

/-- What the engine does by itself. -/
def perform (e : Engine) : (c : EngineCall) → c.Answer × Engine
  | .create spec => e.create spec
  | .start c => e.update c ({ · with running := true })
  | .stop c _ | .kill c => e.update c .down
  | .pause c => e.update c ({ · with paused := true })
  | .unpause c => e.update c ({ · with paused := false })
  | .restart c => e.update c ({ · with running := true, paused := false })
  | .remove c => e.remove c
  | .exec c cmd => e.exec c cmd
  | .inspect c => (.ok ((e.containers.find? c).map (·.status)), e)
  | .connect c network => e.update c ({ · with network := some network })
  | .networkInfo _ => (.ok e.info, e)
  | .ensureNetwork network =>
    (.ok (), { e with networks := network :: e.networks.filter (· ≠ network) })
  | .removeNetwork network => e.removeNetwork network
  | .logs c => e.withContainer c fun c => (.ok (logLine c), c)

/-- Carries out a call that does not fail, with its answer replaced where the deviation says so. -/
def performWith (e : Engine) (d : Deviation) : (c : EngineCall) → c.Answer × Engine
  | .exec c cmd =>
    match d.output? with
    | some output => (.ok output, e)
    | none => e.perform (.exec c cmd)
  | .logs c =>
    match d.stdout with
    | some text => (.ok text, e)
    | none => e.perform (.logs c)
  | .inspect _ => (.ok d.status, e)
  | c => e.perform c

def answer (e : Engine) (c : EngineCall) : c.Answer × Engine :=
  let e := { e with log := e.log ++ (callLine c).toList }
  match deviate (callName c) (callText c) e.rules with
  | none => e.perform c
  | some (d, rules) =>
    let e := { e with rules := rules }
    match d.injection with
    | some i => (c.refuse (i.error (callName c ++ " " ++ callSubject c)), e)
    | none => e.performWith d c

end Engine

end Testbed.Lab
