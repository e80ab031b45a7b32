import Testbed.Proofs.Params.Identity
/-!
# What valid parameters promise

Where parameters pass validation, the clusters ascend by their names, the nodes of a cluster are on
ports of their own and have a command line, and with a list of hosts every node is placed on one of
them.
-/

namespace Testbed

namespace ClusterParams

theorem validate_eq_ok_iff {c : ClusterParams} {vm : Option VmParams} :
    c.validate vm = .ok () ↔ c.Valid vm c.name := by
  have own_name : UniverseParams.checkCluster vm c.name c = c.validate vm :=
    if_neg (not_not_intro rfl)
  rw [← own_name, checkCluster_eq, Requirement.verdict_eq_ok, requirements_met]

theorem validate_eq_ok {c : ClusterParams} {vm : Option VmParams} (valid : c.validate vm = .ok ()) :
    (c.nodes.map (·.port)).Nodup ∧ ∀ node ∈ c.nodes, checkHost vm node = .ok () := by
  have meets := validate_eq_ok_iff.1 valid
  refine ⟨meets.ports, fun node listed => ?_⟩
  rw [NodeParams.checkHost_eq, Requirement.verdict_eq_ok, NodeParams.placement_met]
  exact (meets.nodes node listed).placed

/-- Every node that passes can be started. -/
theorem commandLine_of_validate {c : ClusterParams} {vm : Option VmParams}
    (valid : c.validate vm = .ok ()) :
    ∀ node ∈ c.nodes, ∃ arguments, node.commandLine = .ok arguments :=
  fun node listed => ((validate_eq_ok_iff.1 valid).nodes node listed).commandLine

/-- With a list of hosts, a node that passes is placed on one of them. -/
theorem host_of_checkHost {vm : VmParams} {node : NodeParams}
    (checked : checkHost (some vm) node = .ok ()) :
    ∃ host, node.host = some host ∧ ∃ address, vm.hosts.find? host = some address := by
  rw [NodeParams.checkHost_eq, Requirement.verdict_eq_ok, NodeParams.placement_met] at checked
  obtain ⟨host, known, placed⟩ := checked vm rfl
  exact ⟨host, placed, NameMap.mem_keys.1 known⟩

end ClusterParams

namespace UniverseParams

variable {p : UniverseParams}

theorem validate_of_mem (valid : p.validate = .ok ()) {c : ClusterParams}
    (mem : c ∈ p.clusters.values) : c.validate p.vm = .ok () := by
  obtain ⟨⟨key, d⟩, listed, rfl⟩ := List.mem_map.1 mem
  have meets := (validate_eq_ok_iff.1 valid).clusters key d (NameMap.mem_entries.1 listed)
  obtain rfl := meets.registered
  exact ClusterParams.validate_eq_ok_iff.2 meets

theorem clusters_ascending (valid : p.validate = .ok ()) :
    p.clusters.values.Pairwise fun c d => c.name < d.name := by
  have keys : p.clusters.keys.Pairwise (· < ·) := List.pairwise_map.2 p.clusters.ascending
  rwa [← cluster_names valid, List.pairwise_map] at keys

end UniverseParams

end Testbed
