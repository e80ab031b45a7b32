import Mathlib.Data.List.Nodup
import Testbed.Proofs.Cluster.Readiness
import Testbed.Proofs.Params.Validity
import Testbed.Proofs.Universe.Creation
import Testbed.Proofs.Universe.Deployment
/-!
# Universes of containers where nothing fails

Validation looks at one cluster after the other. Where it passes and no port is used by two
clusters, an engine without failures brings all nodes up, and the universe is deployed if every
cluster has a node (`valid_deploys`). A cluster without nodes passes validation, and ends the
deployment.
-/

namespace Testbed

open Lab (Engine)
open Lab.Engine (Unfailing Aside)

/-- No port is used by two clusters. -/
def UniverseParams.PortsApart (p : UniverseParams) : Prop :=
  p.clusters.values.Pairwise fun c d => ∀ n ∈ c.nodes, ∀ k ∈ d.nodes, n.port ≠ k.port

namespace Universe

/-- Clusters that do not get into each other's way, all of whose nodes can come up. -/
structure Deployable (configured : List ClusterParams) (e : Engine) : Prop where
  names : (configured.map (·.name)).Nodup
  ports : ((configured.flatMap (·.nodes)).map (·.port)).Nodup
  startable : Cluster.Startable (configured.flatMap (·.nodes)) e

theorem deployable_of_valid {params : UniverseParams} {e : Engine}
    (valid : params.validate = .ok ()) (apart : params.PortsApart) (empty : e.containers = ∅) :
    Deployable params.clusters.values e := by
  have each c (mem : c ∈ params.clusters.values) := UniverseParams.validate_of_mem valid mem
  refine ⟨UniverseParams.nodup_cluster_names valid, ?_, ?_, ?_⟩
  · rw [List.map_flatMap]
    refine List.nodup_flatMap.2 ⟨fun c mem => (ClusterParams.validate_eq_ok (each c mem)).1, ?_⟩
    refine apart.imp fun {c d} differ port here there => ?_
    obtain ⟨n, mem, rfl⟩ := List.mem_map.1 here
    obtain ⟨k, mem', same⟩ := List.mem_map.1 there
    exact differ n mem k mem' same.symm
  · intro node mem
    obtain ⟨c, mem, configured⟩ := List.mem_flatMap.1 mem
    exact ClusterParams.commandLine_of_validate (each c mem) node configured
  · intro node _
    rw [empty]
    rfl

variable {u : Universe} {p : ClusterParams} {configured rest : List ClusterParams} {e t : Engine}
  {service : ServiceParams} {network : String} {factory : Factory Physical} {σ : Type}
  {peers : Peers outside σ} {view : σ → Engine} {m : Moment σ}

theorem Deployable.head (deployable : Deployable (p :: rest) e) :
    Cluster.Startable p.nodes e ∧ (p.nodes.map (·.port)).Nodup := by
  obtain ⟨-, ports, lines, vacant⟩ := deployable
  simp only [List.flatMap_cons, List.map_append, List.mem_append] at ports lines vacant
  exact ⟨⟨fun node mem => lines node (.inl mem), fun node mem => vacant node (.inl mem)⟩,
    (List.nodup_append.1 ports).1⟩

/-- Nodes of different clusters have different names. -/
theorem Deployable.apart (deployable : Deployable (p :: rest) e) {n k : NodeParams}
    (here : n ∈ p.nodes) (there : k ∈ rest.flatMap (·.nodes)) : n.name ≠ k.name := by
  have ports := deployable.ports
  rw [List.flatMap_cons, List.map_append] at ports
  have apart := (List.nodup_append.1 ports).2.2
  intro same
  exact apart _ (List.mem_map_of_mem here) _ (List.mem_map_of_mem there)
    (NodeParams.port_eq_of_name_eq same)

theorem Deployable.tail (deployable : Deployable (p :: rest) e)
    (aside : Aside (p.nodes.map NodeParams.name) e t) : Deployable rest t := by
  have ports := deployable.ports
  rw [List.flatMap_cons, List.map_append] at ports
  have inside : ∀ node ∈ rest.flatMap (·.nodes), node ∈ (p :: rest).flatMap (·.nodes) :=
    fun node mem => List.mem_append_right p.nodes mem
  refine ⟨(List.nodup_cons.1 deployable.names).2, (List.nodup_append.1 ports).2.1,
    fun node mem => deployable.startable.lines node (inside node mem), ?_⟩
  intro node mem
  rw [aside]
  · exact deployable.startable.vacant node (inside node mem)
  · intro taken
    obtain ⟨other, here, same⟩ := List.mem_map.1 taken
    exact deployable.apart here mem same

/-! ## One cluster after the other -/

/-- The clusters are registered, and all of their nodes are up. -/
def Serves (u : Universe) (configured : List ClusterParams) (e : Engine) : Prop :=
  ∀ p ∈ configured, ∃ c, u.clusters.find? p.name = some c ∧ c.Serves p.nodes e

theorem run_newCluster (obey : peers.Obey view (Unfailing u.params.logRoot))
    (factory : Factory Physical) (p : ClusterParams) (m : Moment σ) :
    ∃ stamp, ((u.newCluster factory p).run peers m).1 =
        .ofParams ⟨factory, u.bootstrapper, u.params.logRoot, u.params.service.name, stamp⟩ p ∧
      view ((u.newCluster factory p).run peers m).2.state = view m.state := by
  unfold newCluster
  simp only [Procedure.run_bind, Procedure.run_pure]
  refine ⟨_, rfl, Cluster.ask_elsewhere obey .timeStamp m ?_ ?_⟩
  · exact fun _ h => nomatch h
  · exact fun _ h => nomatch h

/-- A cluster that has nodes is deployed, and the others follow. -/
theorem deployClusters_next (obey : peers.Obey view (Unfailing u.params.logRoot))
    (succeeds : u.bootstrapper.Succeeds peers view)
    (own : factory = (Factory.containers service network).map .container)
    (deployable : Deployable (p :: rest) (view m.state)) (some : p.nodes ≠ []) :
    ∃ c m', (u.deployClusters factory (p :: rest)).run peers m =
        ({ u with clusters := u.clusters.insert p.name c }.deployClusters factory rest).run
          peers m' ∧
      c.Serves p.nodes (view m'.state) ∧
      Aside (p.nodes.map NodeParams.name) (view m.state) (view m'.state) := by
  obtain ⟨startable, ports⟩ := deployable.head
  obtain ⟨stamp, made, same⟩ := run_newCluster obey factory p m
  rw [deployClusters, Procedure.run_bind, made]
  generalize ((u.newCluster factory p).run peers m).2 = m₁ at same ⊢
  let fresh : Cluster Physical :=
    .ofParams ⟨factory, u.bootstrapper, u.params.logRoot, u.params.service.name, stamp⟩ p
  have served := Cluster.deploy_serves (c := fresh) (m := m₁) own obey succeeds rfl
    (same ▸ startable) some ports
  rw [same] at served
  rw [Procedure.run_bind]
  generalize fresh.deploy.run peers m₁ = o at served ⊢
  obtain ⟨⟨_, c⟩, m'⟩ := o
  obtain ⟨rfl, params, serves, aside⟩ := served
  have name : c.name = p.name := congrArg ClusterParams.name params
  refine ⟨c, m', ?_, serves, aside⟩
  have put : (u.putCluster fresh).putCluster c =
      { u with clusters := u.clusters.insert p.name c } := by
    have once : (u.clusters.insert p.name fresh).insert p.name c = u.clusters.insert p.name c :=
      NameMap.insert_insert
    unfold putCluster
    rw [name]
    exact congrArg (fun clusters => { u with clusters := clusters }) once
  rw [← put]

/-- A cluster without nodes is the last one. -/
theorem deployClusters_refused (obey : peers.Obey view (Unfailing u.params.logRoot))
    (own : factory = (Factory.containers service network).map .container) (none : p.nodes = []) :
    ((u.deployClusters factory (p :: rest)).run peers m).1.1 =
      .error (.config "Cannot build a layout without servers") := by
  obtain ⟨stamp, made, -⟩ := run_newCluster obey factory p m
  rw [deployClusters, Procedure.run_bind, made]
  generalize ((u.newCluster factory p).run peers m).2 = m₁
  let fresh : Cluster Physical :=
    .ofParams ⟨factory, u.bootstrapper, u.params.logRoot, u.params.service.name, stamp⟩ p
  have refused := Cluster.deploy_refused (c := fresh) peers m₁ own none
  rw [Procedure.run_bind]
  generalize fresh.deploy.run peers m₁ = o at refused ⊢
  obtain ⟨⟨_, c⟩, m'⟩ := o
  cases refused
  rfl

/-- All clusters are deployed if all have nodes. -/
theorem deployClusters_serves (obey : peers.Obey view (Unfailing u.params.logRoot))
    (succeeds : u.bootstrapper.Succeeds peers view)
    (own : factory = (Factory.containers service network).map .container)
    (deployable : Deployable configured (view m.state)) (some : ∀ p ∈ configured, p.nodes ≠ []) :
    let o := (u.deployClusters factory configured).run peers m
    o.1.1 = .ok () ∧ o.1.2.params = u.params ∧ o.1.2.Serves configured (view o.2.state) ∧
      Aside (configured.flatMap (·.nodes) |>.map NodeParams.name) (view m.state)
        (view o.2.state) ∧
      ∀ key, key ∉ configured.map (·.name) → o.1.2.clusters.find? key = u.clusters.find? key := by
  induction configured generalizing u m with
  | nil => exact ⟨rfl, rfl, by simp [Serves], fun _ _ => rfl, fun _ _ => rfl⟩
  | cons p rest ih =>
    obtain ⟨c, m', run, serves, aside⟩ :=
      deployClusters_next obey succeeds own deployable (some p List.mem_cons_self)
    obtain ⟨ok, params, all, later, others⟩ :=
      ih (u := { u with clusters := u.clusters.insert p.name c }) obey succeeds
        (deployable.tail aside) fun q mem => some q (List.mem_cons_of_mem p mem)
    have alone := (List.nodup_cons.1 deployable.names).1
    rw [run]
    refine ⟨ok, params, ?_, ?_, ?_⟩
    · intro q mem
      rcases List.mem_cons.1 mem with rfl | mem
      · refine ⟨c, ?_, serves.aside later fun node here there => ?_⟩
        · rw [others q.name alone]
          exact NameMap.find?_insert_self
        · obtain ⟨k, there, same⟩ := List.mem_map.1 there
          exact deployable.apart here there same.symm
      · exact all q mem
    · have first : p.nodes.map NodeParams.name ⊆
          ((p :: rest).flatMap (·.nodes)).map NodeParams.name := by simp
      have next : (rest.flatMap (·.nodes)).map NodeParams.name ⊆
          ((p :: rest).flatMap (·.nodes)).map NodeParams.name := by simp
      exact (aside.mono first).trans (later.mono next)
    · intro key mem
      obtain ⟨ne, mem⟩ := not_or.1 (mt List.mem_cons.2 mem)
      rw [others key mem]
      exact NameMap.find?_insert_of_ne ne

/-- Deployment ends at the first cluster without nodes. -/
theorem deployClusters_fails (obey : peers.Obey view (Unfailing u.params.logRoot))
    (succeeds : u.bootstrapper.Succeeds peers view)
    (own : factory = (Factory.containers service network).map .container)
    (deployable : Deployable configured (view m.state)) (none : ∃ p ∈ configured, p.nodes = []) :
    ((u.deployClusters factory configured).run peers m).1.1 =
      .error (.config "Cannot build a layout without servers") := by
  induction configured generalizing u m with
  | nil => simp at none
  | cons p rest ih =>
    by_cases some : p.nodes = []
    · exact deployClusters_refused obey own some
    · obtain ⟨c, m', run, -, aside⟩ := deployClusters_next obey succeeds own deployable some
      have later : ∃ q ∈ rest, q.nodes = [] := by
        obtain ⟨q, mem, empty⟩ := none
        rcases List.mem_cons.1 mem with rfl | mem
        · exact absurd empty some
        · exact ⟨q, mem, empty⟩
      rw [run]
      exact ih (u := { u with clusters := u.clusters.insert p.name c }) obey succeeds
        (deployable.tail aside) later

/-! ## The whole deployment -/

/-- All configured nodes are members of their clusters, and found to run. -/
def Runs (u : Universe) (peers : Peers outside σ) (m : Moment σ) : Prop :=
  ∀ p ∈ u.params.clusters.values, ∃ c, u.clusters.find? p.name = some c ∧
    ∀ node ∈ p.nodes, ∃ n, c.members.find? node.name = some n ∧ n.params = node ∧
      ((Backend.state n.backend).run peers m).1 = .ok .running

theorem Serves.runs {params : UniverseParams} (kept : u.params = params)
    (serves : u.Serves params.clusters.values (view m.state)) {root : String}
    (obey : peers.Obey view (Unfailing root)) {s : UniverseState} :
    { u with state := s }.Runs peers m := by
  subst kept
  intro p mem
  obtain ⟨c, registered, serves⟩ := serves p mem
  refine ⟨c, registered, fun node configured => ?_⟩
  obtain ⟨n, member, houses⟩ := serves.members node configured
  obtain ⟨k, backend, name⟩ := houses.container
  have up : (view m.state).Up k.name := name ▸ serves.up node configured
  refine ⟨n, member, houses.params, ?_⟩
  rw [backend]
  exact (Container.ensures_running (c := k) up).run obey

theorem run_ensureNetwork {root : String} (obey : peers.Obey view (Unfailing root))
    (containers : u.environment = .docker) :
    (u.prepareEnvironment.run peers m).1 = (.ok (), u) ∧
      (view (u.prepareEnvironment.run peers m).2.state).containers = (view m.state).containers := by
  have ensured : u.prepareEnvironment.Ensures (Unfailing root) (fun _ => True) (view m.state)
      fun o t => o = (.ok (), u) ∧ t.containers = (view m.state).containers := by
    unfold prepareEnvironment
    rw [containers]
    refine Procedure.ensures_bind.2 (Procedure.ensures_ask.2 fun a t step => ⟨trivial, ?_⟩)
    obtain ⟨rfl, rfl⟩ := step.engine
    exact ⟨rfl, rfl⟩
  exact ensured.run obey

theorem run_populate_ok
    (ok : ((u.deployClusters u.factory u.params.clusters.values).run peers m).1.1 = .ok ()) :
    let o := (u.deployClusters u.factory u.params.clusters.values).run peers m
    u.populate.run peers m = ((.ok (), { o.1.2 with state := .bootstrapped }), o.2) := by
  rw [(populate_run peers m).2]
  generalize (u.deployClusters u.factory u.params.clusters.values).run peers m = o at ok ⊢
  obtain ⟨⟨_, w⟩, m'⟩ := o
  cases ok
  rfl

theorem run_populate_error {err : Error}
    (failed : ((u.deployClusters u.factory u.params.clusters.values).run peers m).1.1 =
      .error err) : (u.populate.run peers m).1.1 = .error err := by
  rw [(populate_run peers m).2]
  generalize (u.deployClusters u.factory u.params.clusters.values).run peers m = o at failed ⊢
  obtain ⟨⟨_, w⟩, m'⟩ := o
  cases failed
  rfl

/-- Where nothing fails, validated clusters on ports of their own are deployed if all of them have
nodes, and only then. -/
theorem valid_deploys (params : UniverseParams) (valid : params.validate = .ok ())
    (containers : params.vm = none) (apart : params.PortsApart) {bootstrapper : Bootstrapper}
    (obey : peers.Obey view (Unfailing params.logRoot))
    (succeeds : bootstrapper.Succeeds peers view)
    (empty : (view m.state).containers = ∅) :
    ∃ u, docker params bootstrapper = .ok u ∧
      let o := u.deploy.run peers m
      ((∀ p ∈ params.clusters.values, p.nodes ≠ []) →
        o.1.1 = .ok () ∧ o.1.2.state = .bootstrapped ∧ o.1.2.params = params ∧
          o.1.2.Runs peers o.2) ∧
      ((∃ p ∈ params.clusters.values, p.nodes = []) →
        o.1.1 = .error (.config "Cannot build a layout without servers")) := by
  let u := inEnvironment params .docker bootstrapper
  refine ⟨u, docker_of_valid valid containers, ?_⟩
  obtain ⟨prepared, same⟩ := run_ensureNetwork (u := u.begun) (m := m) obey rfl
  have run : u.deploy.run peers m =
      u.begun.populate.run peers (u.begun.prepareEnvironment.run peers m).2 := by
    rw [deploy_eq rfl, Procedure.run_bind, prepared]
  rw [run]
  generalize (u.begun.prepareEnvironment.run peers m).2 = m' at same ⊢
  have deployable : Deployable params.clusters.values (view m'.state) :=
    deployable_of_valid valid apart (same.trans empty)
  have own : u.begun.factory =
      (Factory.containers params.service params.networkName).map .container := rfl
  constructor
  · intro some
    obtain ⟨ok, kept, serves, -, -⟩ :=
      deployClusters_serves (u := u.begun) obey succeeds own deployable some
    rw [run_populate_ok ok]
    exact ⟨rfl, rfl, kept, Serves.runs kept serves obey⟩
  · exact fun none =>
      run_populate_error (deployClusters_fails (u := u.begun) obey succeeds own deployable none)

/-- Two clusters, with three nodes in all. -/
def threeNodes : UniverseParams :=
  (UniverseParams.default.withCluster { ClusterParams.named "alpha" with
    nodes := [.ofPort 9000, .ofPort 9001] }).withCluster
      { ClusterParams.named "beta" with nodes := [.ofPort 9002] }

/-- One cluster without nodes. -/
def noNodes : UniverseParams := UniverseParams.default.withCluster (.named "alpha")

theorem peers_unfailing (root : String) : Engine.peers.Obey id (Unfailing root) := by
  intro clock e c
  cases c with
  | engine c => exact .performed c
  | file c =>
    by_cases logs : ∃ path, Path.HoldsLogs root path ∧ c = .createDir path
    · obtain ⟨path, holds, rfl⟩ := logs
      exact .created holds
    · exact .elsewhere (fun _ h => nomatch h) fun path holds same =>
        logs ⟨path, holds, Call.file.inj same⟩
  | shell c =>
    cases c with
    | run host cmd => exact .elsewhere (fun _ h => nomatch h) (fun _ _ h => nomatch h)
    | copy host source target => exact .elsewhere (fun _ h => nomatch h) (fun _ _ h => nomatch h)
  | hypervisor c | program name args | bootstrap r | act node action | abandon n | freshId
  | timeStamp | pick n | awaitShutdown limit =>
    exact .elsewhere (fun _ h => nomatch h) (fun _ _ h => nomatch h)

theorem valid_deploys_threeNodes :
    let m : Moment Engine := ⟨.zero, .empty Engine.defaultInfo []⟩
    (∃ u, docker threeNodes .delegated = .ok u ∧
      let o := u.deploy.run Engine.peers m
      o.1.1 = .ok () ∧ o.1.2.state = .bootstrapped ∧ o.1.2.params = threeNodes ∧
        o.1.2.Runs Engine.peers o.2) ∧
    ∃ u, docker noNodes .delegated = .ok u ∧ (u.deploy.run Engine.peers m).1.1 =
      .error (.config "Cannot build a layout without servers") := by
  intro m
  have succeeds : Bootstrapper.delegated.Succeeds Engine.peers id := fun _ _ => ⟨rfl, rfl⟩
  obtain ⟨u, made, deploys, -⟩ := valid_deploys threeNodes (m := m) (by decide +kernel)
    rfl (by unfold UniverseParams.PortsApart; decide +kernel) (peers_unfailing _) succeeds rfl
  obtain ⟨v, made', -, refused⟩ := valid_deploys noNodes (m := m) (by decide +kernel)
    rfl (by unfold UniverseParams.PortsApart; decide +kernel) (peers_unfailing _) succeeds rfl
  exact ⟨⟨u, made, deploys (by decide +kernel)⟩, v, made', refused (by decide +kernel)⟩

/-- Two clusters with a node on the same port. -/
def samePort : UniverseParams :=
  (UniverseParams.default.withCluster { ClusterParams.named "alpha" with
    nodes := [.ofPort 9000] }).withCluster
      { ClusterParams.named "beta" with nodes := [.ofPort 9000] }

/-- The parameters pass validation, and yet their deployment fails where nothing else does. -/
def Disappoints (params : UniverseParams) (err : Error) : Prop :=
  params.validate = .ok () ∧ params.vm = none ∧ Engine.peers.Obey id (Unfailing params.logRoot) ∧
    Bootstrapper.delegated.Succeeds Engine.peers id ∧
    ∃ u, docker params .delegated = .ok u ∧
      (u.deploy.run Engine.peers ⟨.zero, .empty Engine.defaultInfo []⟩).1.1 = .error err

/-- Validation does not reject all that cannot be deployed. -/
theorem validation_disappoints :
    Disappoints noNodes (.config "Cannot build a layout without servers") ∧
      Disappoints samePort
        (.deployment "node9000" "Internal error: container node9000 already exists") := by
  have succeeds : Bootstrapper.delegated.Succeeds Engine.peers id := fun _ _ => ⟨rfl, rfl⟩
  constructor
  · exact ⟨by decide +kernel, rfl, peers_unfailing _, succeeds, _, rfl, rfl⟩
  · exact ⟨by decide +kernel, rfl, peers_unfailing _, succeeds, _, rfl, rfl⟩

end Universe

end Testbed
