import Testbed.Proofs.Params.Requirements
/-!
# What tells nodes and clusters apart

Nodes on different ports have different names, and different endpoints whatever stands before the
port in them: the digits after the last colon give the port back. The clusters of valid parameters
are told apart by their names.
-/

namespace Testbed

namespace NodeParams

theorem toList_portText (p : NodeParams) : p.portText.toList = Nat.toDigits 10 p.port.toNat :=
  Nat.toList_repr

theorem port_eq_of_digits_eq {p q : NodeParams}
    (h : Nat.toDigits 10 p.port.toNat = Nat.toDigits 10 q.port.toNat) : p.port = q.port := by
  have values := congrArg (Nat.ofDigitChars 10 · 0) h
  simp only [Nat.ofDigitChars_ten_toDigits] at values
  exact UInt16.toNat_inj.1 values

theorem port_eq_of_name_eq {p q : NodeParams} (h : p.name = q.name) : p.port = q.port := by
  have chars := congrArg String.toList h
  simp only [name, String.toList_append, List.append_cancel_left_eq, toList_portText] at chars
  exact port_eq_of_digits_eq chars

theorem colon_not_mem_digits (n : Nat) : ':' ∉ Nat.toDigits 10 n := by
  intro h
  exact absurd (Nat.isDigit_of_mem_toDigits (by decide) (by decide) h) (by decide)

/-- What stands after the last colon is settled by the whole text. -/
theorem after_last_colon {as bs ds es : List Char} (hd : ':' ∉ ds) (he : ':' ∉ es)
    (h : as ++ ':' :: ds = bs ++ ':' :: es) : ds = es := by
  induction as generalizing bs with
  | nil =>
    cases bs with
    | nil => simpa using h
    | cons b bs =>
      simp only [List.nil_append, List.cons_append, List.cons.injEq] at h
      exact absurd (h.2 ▸ List.mem_append_right bs List.mem_cons_self) hd
  | cons a as ih =>
    cases bs with
    | nil =>
      simp only [List.nil_append, List.cons_append, List.cons.injEq] at h
      exact absurd (h.2 ▸ List.mem_append_right as List.mem_cons_self) he
    | cons b bs =>
      simp only [List.cons_append, List.cons.injEq] at h
      exact ih h.2

theorem port_eq_of_address_eq {p q : NodeParams} {a b : String}
    (h : a ++ ":" ++ p.portText = b ++ ":" ++ q.portText) : p.port = q.port := by
  have chars := congrArg String.toList h
  simp only [String.toList_append, List.append_assoc, toList_portText] at chars
  exact port_eq_of_digits_eq
    (after_last_colon (colon_not_mem_digits _) (colon_not_mem_digits _) chars)

theorem port_eq_of_endpoint_eq {p q : NodeParams} (h : p.endpoint = q.endpoint) :
    p.port = q.port :=
  port_eq_of_address_eq h

theorem endpoint_eq_of_port_eq {p q : NodeParams} (h : p.port = q.port) :
    p.endpoint = q.endpoint := by
  unfold endpoint name portText
  rw [h]

theorem nodup_names {nodes : List NodeParams} (h : (nodes.map (·.port)).Nodup) :
    (nodes.map name).Nodup := by
  unfold List.Nodup at h ⊢
  rw [List.pairwise_map] at h ⊢
  exact h.imp fun different same => different (port_eq_of_name_eq same)

end NodeParams

namespace ClusterParams

theorem nodup_servers {c : ClusterParams} (h : (c.nodes.map (·.port)).Nodup) :
    c.servers.Nodup := by
  unfold servers List.Nodup at *
  rw [List.pairwise_map] at h ⊢
  exact h.imp fun different same => different (NodeParams.port_eq_of_endpoint_eq same)

theorem addNode_eq_ok {c grown : ClusterParams} {node : NodeParams} :
    c.addNode node = .ok grown ↔
      (∀ other ∈ c.nodes, other.endpoint ≠ node.endpoint) ∧
        grown = { c with nodes := c.nodes ++ [node] } := by
  unfold addNode
  split
  · rename_i taken
    simp only [List.any_eq_true, decide_eq_true_eq] at taken
    obtain ⟨other, mem, same⟩ := taken
    exact ⟨nofun, fun h => absurd same (h.1 other mem)⟩
  · rename_i free
    simp only [List.any_eq_true, decide_eq_true_eq, not_exists, not_and] at free
    simp only [Except.ok.injEq]
    exact ⟨fun h => ⟨free, h.symm⟩, fun h => h.2.symm⟩

/-- Adding a node keeps the endpoints distinct. -/
theorem nodup_addNode {c grown : ClusterParams} {node : NodeParams}
    (added : c.addNode node = .ok grown) (distinct : c.servers.Nodup) : grown.servers.Nodup := by
  obtain ⟨free, rfl⟩ := addNode_eq_ok.1 added
  unfold servers at *
  rw [List.map_append, List.map_singleton]
  refine List.nodup_append.2 ⟨distinct, List.pairwise_singleton _ _, ?_⟩
  rintro a listed b single rfl
  obtain ⟨other, mem, same⟩ := List.mem_map.1 listed
  exact free other mem (same.trans (List.mem_singleton.1 single))

end ClusterParams

namespace UniverseParams

theorem cluster_names {p : UniverseParams} (valid : p.validate = .ok ()) :
    p.clusters.values.map (·.name) = p.clusters.keys := by
  unfold NameMap.values NameMap.keys
  rw [List.map_map]
  refine List.map_congr_left fun e mem => ?_
  exact ((validate_eq_ok_iff.1 valid).clusters e.1 e.2 (NameMap.mem_entries.1 mem)).registered

theorem nodup_cluster_names {p : UniverseParams} (valid : p.validate = .ok ()) :
    (p.clusters.values.map (·.name)).Nodup := by
  rw [cluster_names valid]
  exact p.clusters.keys_nodup

end UniverseParams

end Testbed
