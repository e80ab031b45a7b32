import Testbed.Call
/-!
# Provisioning hosts

A host is a virtual machine of the name of its alias: one that exists is taken as it is, another one
is cloned from the template. Then its guest is asked for an address, a limited number of times and
with a pause after each time without one.
-/

namespace Testbed.Provision

def askHypervisor (c : HypervisorCall) : Work c.Answer := .ask (I := outside) (.hypervisor c)

/-- A call for a host, whose failure becomes one of provisioning the host. -/
def forHost {α : Type} (name : String) (p : Work (Except Error α)) : Attempt α :=
  (Attempt.ofAnswer p).wrap fun e => .provisioning name e.message

/-- The machine of a host, which is made if there is none. -/
def machine (params : VmParams) (name : String) : Attempt String := do
  match ← forHost name (askHypervisor (.find name)) with
  | some vm => return vm
  | none =>
    let vm ← forHost name (askHypervisor (.clone params.templateVm name params.customization))
    forHost name (askHypervisor (.powerOn vm))
    return vm

/-- The time that has passed since a moment. -/
def elapsed (start : Duration) : Work Duration := do
  return ⟨(← Procedure.now).nanos - start.nanos⟩

/-- Asks for the address so many times; `start` is when that began. -/
def poll (interval : Duration) (name vm : String) (start : Duration) :
    (attempts : Nat) → Attempt String
  | 0 => do
    let time ← ExceptT.lift (elapsed start)
    throw (.timeout ("ip address of host " ++ name) time)
  | attempts + 1 => do
    match ← forHost name (askHypervisor (.guestIp vm)) with
    | some address => return address
    | none =>
      ExceptT.lift (Procedure.sleep interval)
      poll interval name vm start attempts

/-- The address of a host. -/
def host (params : VmParams) (name : String) : Attempt String := do
  let vm ← machine params name
  let start ← ExceptT.lift Procedure.now
  poll params.ipPollInterval name vm start params.ipPollAttempts.toNat

end Testbed.Provision
