import Mathlib.Data.List.Nodup
import Testbed.Proofs.RemoteProcess.Footprint
import Testbed.Proofs.RemoteProcess.Tracking
import Testbed.Proofs.Universe.Provisioning
/-!
# Nodes that share a host

When all hosts have an address, every node of a universe of machines has a process on one of them.
Validation keeps the nodes of one cluster on ports of their own, and so apart. It does not compare
the ports of two clusters: nodes of different clusters share a directory and a signature if they are
on the same port of hosts with one address, and only then (`deploy_separates`). In that case
whatever is done to one is done to the other (`samePlace_collides`).
-/

namespace Testbed

namespace Universe

variable {u : Universe} {node : NodeParams} {p q : RemoteProcess}

theorem address_eq {addresses : NameMap String} {a : String} :
    Factory.address addresses node = .ok a ↔
      ∃ host, node.host = some host ∧ addresses.find? host = some a := by
  unfold Factory.address
  cases node.host with
  | none => simp
  | some host => cases known : addresses.find? host <;> simp [known]

/-- In a universe of machines the backend of a node is a process on the host that it names. -/
theorem backend_eq {vm : VmParams} (environment : u.environment = .vm vm) {logDir : String}
    {b : Physical} : u.factory.backend node logDir = .ok b ↔
      ∃ host address, node.host = some host ∧ u.addresses.find? host = some address ∧
        b = .process (.ofNode node address u.params.service logDir) := by
  have made : u.factory.backend node logDir =
      ((Factory.address u.addresses node).map fun a =>
        RemoteProcess.ofNode node a u.params.service logDir).map Physical.process := by
    unfold factory
    rw [environment]
    rfl
  rw [made]
  cases address : Factory.address u.addresses node with
  | error e =>
    refine ⟨nofun, ?_⟩
    rintro ⟨host, a, on, known, -⟩
    cases address.symm.trans (address_eq.2 ⟨host, on, known⟩)
  | ok a =>
    obtain ⟨host, on, known⟩ := address_eq.1 address
    constructor
    · rintro ⟨⟩
      exact ⟨host, a, on, known, rfl⟩
    · rintro ⟨host', a', on', known', rfl⟩
      cases on.symm.trans on'
      cases known.symm.trans known'
      rfl

/-- The process of a node, whatever it does just now. -/
def Backs (u : Universe) (node : NodeParams) (p : RemoteProcess) : Prop :=
  ∃ made logDir, u.factory.backend node logDir = .ok (.process made) ∧ made.Tracks p

section

variable {vm : VmParams} (environment : u.environment = .vm vm)

include environment

theorem Backs.on_host (backs : u.Backs node p) : p.params = node ∧
    ∃ host, node.host = some host ∧ u.addresses.find? host = some p.address := by
  obtain ⟨made, logDir, built, x, rfl⟩ := backs
  obtain ⟨host, address, on, known, eq⟩ := (backend_eq environment).1 built
  cases eq
  exact ⟨rfl, host, on, known⟩

/-- A node that can be placed has a process. -/
theorem Backs.exists (placed : ∀ logDir, ∃ b, u.factory.backend node logDir = .ok b) :
    ∃ p, u.Backs node p := by
  obtain ⟨b, built⟩ := placed ""
  obtain ⟨host, address, -, -, rfl⟩ := (backend_eq environment).1 built
  exact ⟨_, _, "", built, .refl _⟩

end

theorem launchable_of_commandLine {arguments : String}
    (line : p.params.commandLine = .ok arguments) : ∃ cmd, p.launchCommand = .ok cmd := by
  unfold RemoteProcess.launchCommand
  rw [line]
  exact ⟨_, rfl⟩

/-- Two nodes of valid parameters have the same port only if they are of different clusters. -/
theorem distinct_clusters {params : UniverseParams} (valid : params.validate = .ok ())
    {c d : ClusterParams} (first : c ∈ params.clusters.values) {n k : NodeParams}
    (left : n ∈ c.nodes) (right : k ∈ d.nodes) (distinct : (c, n) ≠ (d, k))
    (port : n.port = k.port) : c ≠ d := by
  rintro rfl
  obtain ⟨ports, -⟩ := ClusterParams.validate_eq_ok (UniverseParams.validate_of_mem valid first)
  have same : n = k := List.inj_on_of_nodup_map ports left right port
  exact distinct (by rw [same])

theorem populate_state {es : List (Event outside)} {o : UniverseOutcome Unit}
    (leads : u.populate.Leads es o) : o.2.state = .bootstrapped ∨ o.2.state = u.state := by
  obtain ⟨r, w, deployed, rfl⟩ := populate_leads leads
  cases r with
  | ok _ => exact .inl rfl
  | error e =>
    have rest := deployClusters_rest deployed
    change w = { u with clusters := w.clusters } at rest
    refine .inr ?_
    dsimp only
    rw [rest]

/-- What is known of the machines of a universe in which all hosts have an address. -/
structure Provisioned (w : Universe) (params : UniverseParams) (vm : VmParams) : Prop where
  environment : w.environment = .vm vm
  /-- Configured addresses are kept. -/
  configured : ∀ host a, vm.hosts.find? host = some (some a) → w.addresses.find? host = some a
  backed : ∀ c ∈ params.clusters.values, ∀ n ∈ c.nodes, ∃ p, w.Backs n p

theorem deploy_provisioned {params : UniverseParams} {vm : VmParams} {bootstrapper : Bootstrapper}
    (valid : params.validate = .ok ()) (given : params.vm = some vm) {σ : Type}
    (peers : Peers outside σ) (m : Moment σ) :
    let o := ((inEnvironment params (.vm vm) bootstrapper).deploy.run peers m).1
    o.2.state ≠ .provisioning → Provisioned o.2 params vm := by
  intro o provisioned
  obtain ⟨lookups, outcome, before, after, -, worked, continues⟩ :=
    deploy_continues (u := inEnvironment params (.vm vm) bootstrapper) peers rfl rfl m
  have provisions := provisions_of_continues rfl given valid rfl rfl worked continues
  have succeeded : ∀ l ∈ lookups, l.Succeeded := by
    by_contra partly
    exact provisioned (provisions.fatal partly).2.1
  have environment : o.2.environment = .vm vm := by
    rw [continues.rest]
    rfl
  refine ⟨environment, fun host a known => (provisions.addresses host a).2 (.inl known), ?_⟩
  intro c configured n listed
  exact Backs.exists environment ((provisions.complete succeeded).2 c configured n listed).2

/-- Hosts with addresses need nothing. -/
theorem state_of_addressed {vm : VmParams} (environment : u.environment = .vm vm)
    (untouched : u.state = .empty) (addressed : unaddressed vm = []) {σ : Type}
    (peers : Peers outside σ) (m : Moment σ) : (u.deploy.run peers m).1.2.state ≠ .provisioning := by
  obtain ⟨lookups, outcome, before, after, -, worked, continues⟩ :=
    deploy_continues peers environment untouched m
  have none : lookups = [] := by
    have hosts := worked.hosts
    rwa [addressed, List.map_eq_nil_iff] at hosts
  generalize (u.deploy.run peers m).1 = o at continues ⊢
  cases continues with
  | failed failed =>
    obtain ⟨l, mem, -⟩ := worked.of_failure failed
    simp [none] at mem
  | provided n _ =>
    have state := populate_state (Procedure.leads_run peers (u.begun.provided vm outcome).populate n)
    intro provisioning
    rw [provisioning] at state
    rcases state with bootstrapped | deploying
    · cases bootstrapped
    · cases deploying

/-- What holds of the processes of two nodes that were given their hosts by validation. -/
structure Separates (w : Universe) (c d : ClusterParams) (n k : NodeParams) : Prop where
  /-- They share a directory and a signature only across clusters. -/
  shared : ∀ p q, w.Backs n p → w.Backs k q →
    (p.Shares q ↔ c ≠ d ∧ n.port = k.port ∧ p.address = q.address)
  /-- What is done to one node acts on the other one only if they share, or if what one is started
  with spells the name of the other. -/
  acts : ∀ p q, w.Backs n p → w.Backs k q → ¬p.Mentions q → ¬q.Mentions p →
    ∀ op es o, (p.perform op).Leads es o → ∀ e ∈ es, ∀ s, e.call = .shell s →
      (q.ActsOn s ↔ p.Shares q)

/-- When all hosts have an address, every node has a process on the host that it names, and the
processes of two nodes are apart unless the nodes are of different clusters, on the same port of
hosts with one address. -/
theorem deploy_separates {params : UniverseParams} {bootstrapper : Bootstrapper}
    (ready : Universe.vm params bootstrapper = .ok u) {σ : Type} (peers : Peers outside σ)
    (m : Moment σ) (provisioned : (u.deploy.run peers m).1.2.state ≠ .provisioning) :
    let w := (u.deploy.run peers m).1.2
    ∀ c ∈ params.clusters.values, ∀ n ∈ c.nodes,
      (∃ p host, w.Backs n p ∧ n.host = some host ∧ w.addresses.find? host = some p.address) ∧
      ∀ d ∈ params.clusters.values, ∀ k ∈ d.nodes, (c, n) ≠ (d, k) → w.Separates c d n k := by
  intro w c first n left
  obtain ⟨valid, vm, given, rfl⟩ := vm_eq ready
  have placed : Provisioned w params vm :=
    deploy_provisioned valid given peers m provisioned
  have environment := placed.environment
  obtain ⟨p, backs⟩ := placed.backed c first n left
  obtain ⟨-, host, on, known⟩ := backs.on_host environment
  refine ⟨⟨p, host, backs, on, known⟩, ?_⟩
  intro d second k right distinct
  constructor
  · intro p q backs backs'
    rw [RemoteProcess.shares_iff, (backs.on_host environment).1, (backs'.on_host environment).1]
    constructor
    · rintro ⟨address, port⟩
      exact ⟨distinct_clusters valid first left right distinct port, port, address⟩
    · rintro ⟨-, port, address⟩
      exact ⟨address, port⟩
  · intro p q backs backs' silent unmentioned op es o leads e mem s shell
    have launchable : ∃ cmd, q.launchCommand = .ok cmd := by
      obtain ⟨arguments, line⟩ := ClusterParams.commandLine_of_validate
        (UniverseParams.validate_of_mem valid second) k right
      rw [← (backs'.on_host environment).1] at line
      exact launchable_of_commandLine line
    have issued : p.Issues s := RemoteProcess.perform_leads_issues leads mem shell
    exact issued.acts_iff launchable silent unmentioned

/-- Two hosts, which are one. -/
def twoNames : VmParams :=
  { threeHosts with hosts := .ofList [("east", some "10.0.0.1"), ("west", some "10.0.0.1")] }

def eastNode : NodeParams := (NodeParams.ofPort 9000).onHost "east"
def westNode : NodeParams := (NodeParams.ofPort 9000).onHost "west"

def eastCluster : ClusterParams := { ClusterParams.named "alpha" with nodes := [eastNode] }
def westCluster : ClusterParams := { ClusterParams.named "beta" with nodes := [westNode] }

/-- Two clusters with a node on the same port of hosts with one address. -/
def samePlace : UniverseParams :=
  ({ UniverseParams.default with vm := some twoNames }.withCluster eastCluster).withCluster
    westCluster

theorem deploy_separates_samePlace :
    let peers := steadyPeers threeHostsAnswers fun _ => .zero
    let m : Moment Unit := ⟨.zero, ()⟩
    ∃ u, Universe.vm samePlace .delegated = .ok u ∧
      let w := (u.deploy.run peers m).1.2
      w.state ≠ .provisioning ∧
        ∀ c ∈ samePlace.clusters.values, ∀ n ∈ c.nodes,
          (∃ p host, w.Backs n p ∧ n.host = some host ∧ w.addresses.find? host = some p.address) ∧
          ∀ d ∈ samePlace.clusters.values, ∀ k ∈ d.nodes, (c, n) ≠ (d, k) →
            w.Separates c d n k := by
  intro peers m
  let u := inEnvironment samePlace (.vm twoNames) .delegated
  have ready : Universe.vm samePlace .delegated = .ok u := vm_of_valid (by decide +kernel) rfl
  have addressed : unaddressed twoNames = [] := by decide +kernel
  have provisioned : (u.deploy.run peers m).1.2.state ≠ .provisioning :=
    state_of_addressed rfl rfl addressed peers m
  exact ⟨u, ready, provisioned, deploy_separates ready peers m provisioned⟩

/-- Validation lets two nodes share a directory and a signature, and then the removal of one node
removes the directory of the other. -/
theorem samePlace_collides :
    let peers := steadyPeers threeHostsAnswers fun _ => .zero
    let m : Moment Unit := ⟨.zero, ()⟩
    ∃ u, samePlace.validate = .ok () ∧ Universe.vm samePlace .delegated = .ok u ∧
      let w := (u.deploy.run peers m).1.2
      w.state ≠ .provisioning ∧
        ∃ c ∈ samePlace.clusters.values, ∃ n ∈ c.nodes, ∃ d ∈ samePlace.clusters.values,
          ∃ k ∈ d.nodes, (c, n) ≠ (d, k) ∧ ∃ p q, w.Backs n p ∧ w.Backs k q ∧ p.Shares q ∧
            ∃ e ∈ (p.perform .remove).trace peers m, ∃ s, e.call = .shell s ∧ q.ActsOn s := by
  intro peers m
  let u := inEnvironment samePlace (.vm twoNames) .delegated
  have valid : samePlace.validate = .ok () := by decide +kernel
  have addressed : unaddressed twoNames = [] := by decide +kernel
  have provisioned : (u.deploy.run peers m).1.2.state ≠ .provisioning :=
    state_of_addressed rfl rfl addressed peers m
  have placed := deploy_provisioned valid rfl peers m provisioned
  have listed : samePlace.clusters.values = [eastCluster, westCluster] := by decide +kernel
  have first : eastCluster ∈ samePlace.clusters.values := by simp [listed]
  have second : westCluster ∈ samePlace.clusters.values := by simp [listed]
  obtain ⟨p, backs⟩ := placed.backed eastCluster first eastNode List.mem_cons_self
  obtain ⟨q, backs'⟩ := placed.backed westCluster second westNode List.mem_cons_self
  obtain ⟨east, host, on, known⟩ := backs.on_host placed.environment
  obtain ⟨west, host', on', known'⟩ := backs'.on_host placed.environment
  cases on
  cases on'
  have address := placed.configured "east" "10.0.0.1" (by decide +kernel)
  have address' := placed.configured "west" "10.0.0.1" (by decide +kernel)
  have shares : p.Shares q := by
    apply RemoteProcess.shares_iff.2
    rw [east, west]
    exact ⟨Option.some.inj (known.symm.trans (address.trans (address'.symm.trans known'))), rfl⟩
  have line : q.params.commandLine = .ok "-a 0.0.0.0 -l /tmp/ -d INFO 9000" := by
    rw [west]
    rfl
  have launchable := launchable_of_commandLine line
  refine ⟨u, valid, vm_of_valid valid rfl, provisioned, eastCluster, first, eastNode,
    List.mem_cons_self, westCluster, second, westNode, List.mem_cons_self, by decide, p, q, backs,
    backs', shares, ⟨.shell (.run p.address p.removeDirCommand), .ok ⟨"", 0⟩⟩, ?_, _, rfl,
    RemoteProcess.Issues.removed.acts shares launchable⟩
  exact List.mem_cons_self

end Universe

end Testbed
