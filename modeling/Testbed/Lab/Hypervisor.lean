import Testbed.Lab.Rule
/-!
# A hypervisor in memory

Some machines exist, others are cloned on demand. A guest reports no address for the first few
queries, and then one that ends in the digits of its machine's id.
-/

namespace Testbed.Lab

structure Hypervisor where
  existing : List String
  failingClones : Bool
  /-- How many queries a guest leaves without an address. -/
  ipAfter : Nat
  /-- How many queries were left without one, by machine. -/
  polls : NameMap Nat
  customizations : NameMap CustomizationParams
  rules : List Rule
  log : List String

namespace Hypervisor

def vmId (name : String) : String := "vm-" ++ name

def guestAddress (vm : String) : String :=
  "10.172.211." ++ String.ofList (vm.toList.filter Char.isDigit)

def callName : HypervisorCall → String
  | .find _ => "find"
  | .clone _ _ _ => "clone"
  | .powerOn _ => "power_on"
  | .guestIp _ => "guest_ip"

/-- The machine of a call, by name or by id. -/
def callSubject : HypervisorCall → String
  | .find name | .clone _ name _ => name
  | .powerOn vm | .guestIp vm => vm

def callLine : HypervisorCall → String
  | .clone template name _ => "clone " ++ template ++ " " ++ name
  | c => callName c ++ " " ++ callSubject c

/-- What the hypervisor does by itself. -/
def perform (h : Hypervisor) : (c : HypervisorCall) → c.Answer × Hypervisor
  | .find name => (.ok (if h.existing.contains name then some (vmId name) else none), h)
  | .clone template name customization =>
    if h.failingClones then (.error (.internal ("template " ++ template ++ " not found")), h)
    else
      (.ok (vmId name),
        { h with customizations := h.customizations.insert name customization })
  | .powerOn _ => (.ok (), h)
  | .guestIp vm =>
    let polls := (h.polls.find? vm).getD 0
    if polls < h.ipAfter then (.ok none, { h with polls := h.polls.insert vm (polls + 1) })
    else (.ok (some (guestAddress vm)), h)

/-- Carries out a call that does not fail; a deviation can only replace an address. -/
def performWith (h : Hypervisor) (d : Deviation) : (c : HypervisorCall) → c.Answer × Hypervisor
  | .guestIp _ => (.ok d.address, h)
  | c => h.perform c

def answer (h : Hypervisor) (c : HypervisorCall) : c.Answer × Hypervisor :=
  let h := { h with log := h.log ++ [callLine c] }
  match deviate (callName c) (callSubject c) h.rules with
  | none => h.perform c
  | some (d, rules) =>
    let h := { h with rules := rules }
    match d.injection with
    | some i => (c.refuse (i.error (callName c ++ " " ++ callSubject c)), h)
    | none => h.performWith d c

end Hypervisor

end Testbed.Lab
