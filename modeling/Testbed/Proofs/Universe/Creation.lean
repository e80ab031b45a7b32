import Testbed.Universe
/-!
# Fresh universes

A universe is made of valid parameters only, for containers if they have no section about machines
and for machines if they have one. Nothing was done to it yet.
-/

namespace Testbed

namespace Universe

variable {params : UniverseParams} {bootstrapper : Bootstrapper} {u : Universe}

theorem docker_eq (ready : docker params bootstrapper = .ok u) :
    params.validate = .ok () ∧ u = inEnvironment params .docker bootstrapper := by
  unfold docker at ready
  cases valid : params.validate with
  | error e =>
    rw [valid] at ready
    cases ready
  | ok _ =>
    rw [valid] at ready
    by_cases machines : params.vm.isSome
    · rw [if_pos machines] at ready
      cases ready
    · rw [if_neg machines] at ready
      cases ready
      exact ⟨rfl, rfl⟩

theorem vm_eq (ready : vm params bootstrapper = .ok u) :
    params.validate = .ok () ∧ ∃ machines, params.vm = some machines ∧
      u = inEnvironment params (.vm machines) bootstrapper := by
  unfold vm at ready
  cases valid : params.validate with
  | error e =>
    rw [valid] at ready
    cases ready
  | ok _ =>
    rw [valid] at ready
    cases given : params.vm with
    | none =>
      rw [given] at ready
      cases ready
    | some machines =>
      rw [given] at ready
      cases ready
      exact ⟨rfl, machines, rfl, rfl⟩

theorem docker_of_valid (valid : params.validate = .ok ()) (machines : params.vm = none) :
    docker params bootstrapper = .ok (inEnvironment params .docker bootstrapper) := by
  unfold docker
  rw [valid, machines]
  rfl

theorem vm_of_valid (valid : params.validate = .ok ()) {machines : VmParams}
    (given : params.vm = some machines) :
    vm params bootstrapper = .ok (inEnvironment params (.vm machines) bootstrapper) := by
  unfold vm
  rw [valid, given]
  rfl

/-- A universe of either kind that nothing was done to. -/
def Fresh (params : UniverseParams) (bootstrapper : Bootstrapper) (u : Universe) : Prop :=
  docker params bootstrapper = .ok u ∨ vm params bootstrapper = .ok u

theorem Fresh.eq (fresh : Fresh params bootstrapper u) :
    params.validate = .ok () ∧
      ∃ environment, u = inEnvironment params environment bootstrapper := by
  rcases fresh with ready | ready
  · obtain ⟨valid, rfl⟩ := docker_eq ready
    exact ⟨valid, .docker, rfl⟩
  · obtain ⟨valid, machines, -, rfl⟩ := vm_eq ready
    exact ⟨valid, .vm machines, rfl⟩

end Universe

end Testbed
