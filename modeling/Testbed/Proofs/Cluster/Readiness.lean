import Testbed.Proofs.Cluster.Bootstrapping
import Testbed.Proofs.Container.Lifecycle
/-!
# Clusters of containers where nothing fails

On an engine without failures, and with a root that log directories can be created below, a node
comes up if there is no container of its name (`deployNode_houses`). So a cluster is deployed, with
all of its nodes up, if it has any and its bootstrapper succeeds (`deploy_serves`), and one without
nodes is refused (`deploy_refused`).
-/

namespace Testbed

open Lab (Engine SimulatedContainer)

/-- A directory that the logs of a node can be collected into. -/
def Path.HoldsLogs (root path : String) : Prop :=
  ∃ (node : NodeParams) (service stamp : String), path = node.serverLogDir root service stamp

namespace Lab.Engine

/-- The conduct of an engine without failures, beside a file system in which the directories for
logs can be created. Other peers do as they like. -/
inductive Unfailing (root : String) : Conduct outside Engine
  | performed {e : Engine} (c : EngineCall) :
      Unfailing root e ⟨.engine c, (e.perform c).1⟩ (e.perform c).2
  | created {e : Engine} {path : String} : Path.HoldsLogs root path →
      Unfailing root e ⟨.file (.createDir path), .ok ()⟩ e
  | elsewhere {e : Engine} {ev : Event outside} : (∀ c, ev.call ≠ .engine c) →
      (∀ path, Path.HoldsLogs root path → ev.call ≠ .file (.createDir path)) → Unfailing root e ev e

variable {root path : String} {e t : Engine}

theorem Unfailing.engine {c : EngineCall} {a : c.Answer}
    (step : Unfailing root e ⟨.engine c, a⟩ t) :
    a = (e.perform c).1 ∧ t = (e.perform c).2 := by
  cases step with
  | performed c => exact ⟨rfl, rfl⟩
  | elsewhere other _ => exact absurd rfl (other c)

theorem Unfailing.createDir {a : Except FileError Unit} (logs : Path.HoldsLogs root path)
    (step : Unfailing root e ⟨.file (.createDir path), a⟩ t) : a = .ok () ∧ t = e := by
  cases step with
  | created _ => exact ⟨rfl, rfl⟩
  | elsewhere _ other => exact absurd rfl (other path logs)

/-- Nothing but containers of some names may have changed. -/
def Aside (names : List String) (e t : Engine) : Prop :=
  ∀ name, name ∉ names → t.containers.find? name = e.containers.find? name

theorem Aside.trans {names : List String} {u : Engine} (first : Aside names e t)
    (next : Aside names t u) : Aside names e u :=
  fun name mem => (next name mem).trans (first name mem)

theorem Aside.mono {names names' : List String} (aside : Aside names e t)
    (subset : names ⊆ names') : Aside names' e t :=
  fun name mem => aside name fun inside => mem (subset inside)

theorem perform_aside {name : String} {c : EngineCall} (about : c.target? = some name) :
    Aside [name] e (e.perform c).2 := by
  intro other ne
  refine find?_perform_other ?_
  rw [about]
  exact fun same => ne (List.mem_singleton.2 (Option.some.inj same).symm)

theorem Up.aside {name : String} {names : List String} (up : e.Up name) (aside : Aside names e t)
    (other : name ∉ names) : t.Up name := by
  obtain ⟨k, found, runs⟩ := up
  exact ⟨k, (aside name other).trans found, runs⟩

/-- A change to a container that is there. -/
theorem update_found {name : String} {k : SimulatedContainer}
    (found : e.containers.find? name = some k) (f : SimulatedContainer → SimulatedContainer) :
    (e.update name f).1 = .ok () ∧ (e.update name f).2.containers.find? name = some (f k) :=
  ⟨by simp [update, withContainer, found], find?_updated found⟩

end Lab.Engine

open Lab.Engine (Unfailing Aside)

/-- The bootstrapper succeeds whenever it is asked, and leaves the engine as it is. -/
def Bootstrapper.Succeeds {σ : Type} (b : Bootstrapper) (peers : Peers outside σ)
    (view : σ → Engine) : Prop :=
  ∀ r m, ((b r).run.run peers m).1 = .ok () ∧ view ((b r).run.run peers m).2.state = view m.state

/-! ## Containers -/

namespace Container

variable {c : Container} {root : String} {e : Engine}

theorem ensures_started {k : SimulatedContainer} (found : e.containers.find? c.name = some k)
    (awake : k.paused = false) :
    c.connectAndStart.run.Ensures (Unfailing root) (fun _ => True) e fun r t =>
      r = .ok () ∧ t.Up c.name ∧ Aside [c.name] e t := by
  refine Attempt.ensures_bind.2 (Procedure.ensures_ask.2 fun a t step => ⟨trivial, ?_⟩)
  obtain ⟨rfl, connected⟩ := step.engine
  obtain ⟨answer, found_t⟩ := Engine.update_found found ({ · with network := some c.network })
  have aside_t : Aside [c.name] e t := connected ▸ Engine.perform_aside rfl
  have found_t : t.containers.find? c.name = some { k with network := some c.network } :=
    connected ▸ found_t
  have answer : (e.perform (.connect c.name c.network)).1 = .ok () := answer
  rw [answer]
  refine Procedure.ensures_ask.2 fun a u step => ⟨trivial, ?_⟩
  obtain ⟨rfl, started⟩ := step.engine
  obtain ⟨answer, found_u⟩ := Engine.update_found found_t ({ · with running := true })
  have aside_u : Aside [c.name] t u := started ▸ Engine.perform_aside rfl
  have found_u : u.containers.find? c.name =
      some { k with network := some c.network, running := true } := started ▸ found_u
  exact ⟨answer, ⟨_, found_u, rfl, awake⟩, aside_t.trans aside_u⟩

/-- A container that can be created is, and then it is started. No other one is touched. -/
theorem ensures_deployed {spec : ContainerSpec} (ready : c.spec = .ok spec)
    (vacant : e.containers.find? c.name = none) (unguarded : c.guarded = false) :
    c.deploy.Ensures (Unfailing root) (fun _ => True) e fun o t =>
      o = (.ok (), { c with deployed := true, guarded := true }) ∧ t.Up c.name ∧
        Aside [c.name] e t := by
  have name : spec.name = c.name := spec_name ready
  have released : c.release = pure () := if_neg (by simp [unguarded])
  unfold deploy
  rw [ready]
  refine Procedure.ensures_bind.2 (Procedure.ensures_ask.2 fun a t step => ⟨trivial, ?_⟩)
  obtain ⟨rfl, created⟩ := step.engine
  have answer : (e.perform (.create spec)).1 = .ok ("id-" ++ spec.name) :=
    Engine.create_answer (name ▸ vacant)
  have found : t.containers.find? c.name = some (.ofSpec spec) := by
    rw [created, Engine.perform, Engine.find?_create, if_pos ⟨name.symm, vacant⟩]
  have aside : Aside [c.name] e t :=
    created ▸ Engine.perform_aside (congrArg some name)
  rw [answer, released]
  refine Procedure.ensures_bind.2 (Procedure.ensures_bind.2 ?_)
  let guarded : Container := { c with deployed := true, guarded := true }
  refine (ensures_started (c := guarded) found rfl).mono ?_
  rintro _ u ⟨rfl, up, kept⟩
  exact ⟨rfl, up, aside.trans kept⟩

/-- What is seen of a container that is up. -/
theorem ensures_running (up : e.Up c.name) :
    (Backend.state c).Ensures (Unfailing root) (fun _ => True) e fun r _ => r = .ok .running := by
  obtain ⟨k, found, running, paused⟩ := up
  refine Procedure.ensures_bind.2 (Procedure.ensures_ask.2 fun a t step => ⟨trivial, ?_⟩)
  obtain ⟨rfl, -⟩ := step.engine
  simp [Engine.perform, found, SimulatedContainer.status, running, paused]

end Container

/-! ## Nodes -/

/-- A node runs the container that belongs to its parameters. -/
structure Node.Houses (n : Node Physical) (node : NodeParams) : Prop where
  params : n.params = node
  endpoint : n.endpoint = node.endpoint
  container : ∃ c, n.backend = .container c ∧ c.name = node.name

namespace Cluster

variable {c : Cluster Physical} {node : NodeParams} {nodes : List NodeParams} {e t : Engine}
  {service : ServiceParams} {network : String}

/-- The nodes of the cluster are placed in containers. -/
def InContainers (service : ServiceParams) (network : String) (c : Cluster Physical) : Prop :=
  c.setting.factory = (Factory.containers service network).map .container

theorem prepare_serves (own : c.InContainers service network) :
    (c.prepare node).run.Ensures (Unfailing c.setting.logRoot) (fun _ => True) e fun r t =>
      r = .ok ⟨node, node.endpoint, .container (.ofNode node service network (c.logDir node))⟩ ∧
        t = e := by
  unfold prepare
  refine Attempt.ensures_bind.2 (Procedure.ensures_map.2 (Procedure.ensures_ask.2 ?_))
  intro a t step
  obtain ⟨rfl, rfl⟩ := step.createDir ⟨node, c.setting.service, c.setting.stamp, rfl⟩
  refine ⟨trivial, ?_⟩
  rw [own]
  exact ⟨rfl, rfl⟩

theorem deployNode_houses (own : c.InContainers service network) {arguments : String}
    (line : node.commandLine = .ok arguments) (vacant : e.containers.find? node.name = none) :
    (c.deployNode node).Ensures (Unfailing c.setting.logRoot) (fun _ => True) e fun r t =>
      ∃ n, r = .ok n ∧ n.Houses node ∧ t.Up node.name ∧ Aside [node.name] e t := by
  unfold deployNode
  refine Procedure.ensures_bind.2 ((prepare_serves own).mono ?_)
  rintro _ _ ⟨rfl, rfl⟩
  let new : Container := .ofNode node service network (c.logDir node)
  have ready : ∃ spec, new.spec = .ok spec := by
    unfold Container.spec
    exact ⟨_, congrArg (Except.map _) line⟩
  obtain ⟨spec, ready⟩ := ready
  refine Procedure.ensures_bind.2 (Procedure.ensures_map.2 ?_)
  refine (Container.ensures_deployed ready vacant rfl).mono ?_
  rintro _ t ⟨rfl, up, aside⟩
  exact ⟨_, rfl, ⟨rfl, rfl, _, rfl, rfl⟩, up, aside⟩

/-! ## Deploying -/

/-- Nodes are members, and the containers they run are up. -/
structure Serves (c : Cluster Physical) (nodes : List NodeParams) (e : Engine) : Prop where
  members : ∀ node ∈ nodes, ∃ n, c.members.find? node.name = some n ∧ n.Houses node
  up : ∀ node ∈ nodes, e.Up node.name

theorem Serves.aside {names : List String} (serves : c.Serves nodes e) (aside : Aside names e t)
    (others : ∀ node ∈ nodes, node.name ∉ names) : c.Serves nodes t :=
  ⟨serves.members, fun node mem => (serves.up node mem).aside aside (others node mem)⟩

/-- What it takes for nodes to come up: commands to start them with, and names that no container
has. -/
structure Startable (nodes : List NodeParams) (e : Engine) : Prop where
  lines : ∀ node ∈ nodes, ∃ arguments, node.commandLine = .ok arguments
  vacant : ∀ node ∈ nodes, e.containers.find? node.name = none

theorem Startable.tail {rest : List NodeParams} (startable : Startable (node :: rest) e)
    (distinct : ((node :: rest).map NodeParams.name).Nodup) (aside : Aside [node.name] e t) :
    Startable rest t := by
  have others := (List.nodup_cons.1 distinct).1
  refine ⟨fun other mem => startable.lines other (List.mem_cons_of_mem node mem), ?_⟩
  intro other mem
  have ne : other.name ∉ [node.name] := fun same =>
    others (List.mem_singleton.1 same ▸ List.mem_map_of_mem mem)
  rw [aside _ ne]
  exact startable.vacant other (List.mem_cons_of_mem node mem)

/-- All nodes came up. -/
structure Manned (c : Cluster Physical) (nodes : List NodeParams) (e : Engine)
    (o : ClusterOutcome Physical Unit) (t : Engine) : Prop where
  verdict : o.1 = .ok ()
  setting : o.2.setting = c.setting
  params : o.2.params = c.params
  serves : o.2.Serves nodes t
  aside : Aside (nodes.map NodeParams.name) e t
  others : ∀ name, name ∉ nodes.map NodeParams.name →
    o.2.members.find? name = c.members.find? name

theorem Manned.cons {rest : List NodeParams} {n : Node Physical} {u : Engine}
    {o : ClusterOutcome Physical Unit} (houses : n.Houses node) (up : t.Up node.name)
    (aside : Aside [node.name] e t) (distinct : ((node :: rest).map NodeParams.name).Nodup)
    (manned : Manned { c with members := c.members.insert n.name n } rest t o u) :
    c.Manned (node :: rest) e o u := by
  obtain ⟨verdict, setting, params, serves, aside_u, others⟩ := manned
  have alone := (List.nodup_cons.1 distinct).1
  have name : n.name = node.name := congrArg NodeParams.name houses.params
  refine ⟨verdict, setting, params, ⟨?_, ?_⟩, ?_, ?_⟩
  · intro other mem
    rcases List.mem_cons.1 mem with rfl | mem
    · refine ⟨n, ?_, houses⟩
      rw [others _ alone, ← name, NameMap.find?_insert_self]
    · exact serves.members other mem
  · intro other mem
    rcases List.mem_cons.1 mem with rfl | mem
    · exact up.aside aside_u alone
    · exact serves.up other mem
  · exact (aside.mono (by simp)).trans (aside_u.mono (List.subset_cons_self _ _))
  · intro key mem
    obtain ⟨ne, mem⟩ := not_or.1 (mt List.mem_cons.2 mem)
    rw [others key mem, NameMap.find?_insert_of_ne (name ▸ ne)]

theorem deployInTurn_manned (own : c.InContainers service network) (free : c.Vacant nodes)
    (startable : Startable nodes e) :
    (c.deployInTurn nodes).Ensures (Unfailing c.setting.logRoot) (fun _ => True) e
      (c.Manned nodes e) := by
  induction nodes generalizing c e with
  | nil => exact ⟨rfl, rfl, rfl, ⟨by simp, by simp⟩, fun _ _ => rfl, fun _ _ => rfl⟩
  | cons node rest ih =>
    obtain ⟨arguments, line⟩ := startable.lines node List.mem_cons_self
    refine Procedure.ensures_bind.2 ((deployNode_houses own line
      (startable.vacant node List.mem_cons_self)).mono ?_)
    rintro _ t ⟨n, rfl, houses, up, aside⟩
    have name : n.name = node.name := congrArg NodeParams.name houses.params
    have unknown : c.members.find? n.name = none := name ▸ free.free node List.mem_cons_self
    have registered : c.register n = pure { c with members := c.members.insert n.name n } := by
      unfold register
      rw [unknown]
    simp only [registered, pure_bind]
    refine (ih (c := { c with members := c.members.insert n.name n }) own
      (free.tail houses.params) (startable.tail free.distinct aside)).mono ?_
    exact fun o u manned => manned.cons houses up aside free.distinct

/-! ## Bootstrapping -/

theorem Serves.endpoints (serves : c.Serves c.params.nodes e) :
    c.endpoints = .ok c.params.servers := by
  have named : ∃ endpoints, List.Forall₂ (fun node endpoint => node.endpoint = endpoint)
      c.params.nodes endpoints ∧ c.endpoints = .ok endpoints := by
    unfold Cluster.endpoints
    refine mapM_eq_ok fun node mem => ?_
    obtain ⟨n, member, houses⟩ := serves.members node mem
    exact ⟨n.endpoint, by rw [member], houses.endpoint.symm⟩
  obtain ⟨endpoints, same, found⟩ := named
  have equal : List.Forall₂ Eq c.params.servers endpoints := List.forall₂_map_left_iff.2 same
  rw [List.forall₂_eq_eq_eq] at equal
  rw [found, equal]

theorem bootstrap_eq {endpoints : List String} (found : c.endpoints = .ok endpoints) :
    c.bootstrap.run = (do
      let id ← Procedure.ask (I := outside) .freshId
      match Layout.bootstrap id endpoints with
      | .ok layout => (c.setting.bootstrapper
          ⟨c.name, layout, c.params.bootstrapRetries, c.params.retryTimeout⟩).run
      | .error e => return .error e) := by
  unfold bootstrap
  rw [found]
  simp only [Attempt.ofExcept, ExceptT.run_bind, ExceptT.run_mk, ExceptT.run_lift, pure_bind,
    bind_assoc, map_eq_pure_bind]
  refine Procedure.bind_congr fun es id _ => ?_
  cases Layout.bootstrap id endpoints with
  | ok layout => rfl
  | error e => rfl

/-- A call of other peers leaves the engine as it is. -/
theorem ask_elsewhere {σ : Type} {peers : Peers outside σ} {view : σ → Engine} {root : String}
    (obey : peers.Obey view (Unfailing root)) (call : Call) (m : Moment σ)
    (engine : ∀ c, call ≠ .engine c) (files : ∀ f, call ≠ .file f) :
    view ((Procedure.ask (I := outside) call).run peers m).2.state = view m.state := by
  have same : (Procedure.ask (I := outside) call).Ensures (Unfailing root) (fun _ => True)
      (view m.state) fun _ t => t = view m.state := by
    refine Procedure.ensures_ask.2 fun a t step => ⟨trivial, ?_⟩
    cases step with
    | performed c => exact absurd rfl (engine c)
    | created _ => exact absurd rfl (files _)
    | elsewhere _ _ => rfl
  exact same.run obey

section

variable {σ : Type} {peers : Peers outside σ} {view : σ → Engine} {m : Moment σ}

theorem bootstrap_succeeds (obey : peers.Obey view (Unfailing c.setting.logRoot))
    (succeeds : c.setting.bootstrapper.Succeeds peers view) (serves : c.Serves c.params.nodes e)
    (some : c.params.nodes ≠ []) (ports : (c.params.nodes.map (·.port)).Nodup) :
    (c.bootstrap.run.run peers m).1 = .ok () ∧
      view (c.bootstrap.run.run peers m).2.state = view m.state := by
  have servers : c.params.servers ≠ [] := fun none => some (List.map_eq_nil_iff.1 none)
  have proper (id : Uuid) :
      Layout.bootstrap id c.params.servers = .ok (.complete id c.params.servers) :=
    Layout.bootstrap_eq_ok servers (ClusterParams.nodup_servers ports)
  rw [bootstrap_eq serves.endpoints, Procedure.run_bind]
  simp only [proper]
  obtain ⟨result, same⟩ := succeeds ⟨c.name, _, c.params.bootstrapRetries, c.params.retryTimeout⟩
    ((Procedure.ask (I := outside) .freshId).run peers m).2
  refine ⟨result, same.trans (ask_elsewhere obey .freshId m ?_ ?_)⟩
  · exact fun _ h => nomatch h
  · exact fun _ h => nomatch h

/-- What deployment comes to when nothing fails. -/
theorem deploy_serves (own : c.InContainers service network)
    (obey : peers.Obey view (Unfailing c.setting.logRoot))
    (succeeds : c.setting.bootstrapper.Succeeds peers view) (fresh : c.members = ∅)
    (startable : Startable c.params.nodes (view m.state)) (some : c.params.nodes ≠ [])
    (ports : (c.params.nodes.map (·.port)).Nodup) :
    let o := c.deploy.run peers m
    o.1.1 = .ok () ∧ o.1.2.params = c.params ∧ o.1.2.Serves c.params.nodes (view o.2.state) ∧
      Aside (c.params.nodes.map NodeParams.name) (view m.state) (view o.2.state) := by
  have free : c.Vacant c.params.nodes :=
    ⟨NodeParams.nodup_names ports, fun _ _ => by rw [fresh]; rfl⟩
  have manned := (deployInTurn_manned own free startable).run obey
  have turn : c.deployNodes = c.deployInTurn c.params.nodes := by
    unfold deployNodes
    rw [own]
    rfl
  unfold deploy
  rw [turn, Procedure.run_bind]
  generalize (c.deployInTurn c.params.nodes).run peers m = o at manned ⊢
  obtain ⟨⟨_, c'⟩, m'⟩ := o
  obtain ⟨rfl, setting, params, serves, aside, -⟩ := manned
  rw [← params] at serves some ports
  rw [← setting] at obey succeeds
  obtain ⟨result, same⟩ := bootstrap_succeeds (m := m') obey succeeds serves some ports
  simp only [Procedure.run_bind, Procedure.run_pure]
  rw [same, ← params]
  exact ⟨result, rfl, serves, params ▸ aside⟩

/-- Without nodes there is no layout. -/
theorem deploy_refused (peers : Peers outside σ) (m : Moment σ)
    (own : c.InContainers service network) (none : c.params.nodes = []) :
    (c.deploy.run peers m).1.1 = .error (.config "Cannot build a layout without servers") := by
  have turn : c.deployNodes = pure (.ok (), c) := by
    unfold deployNodes
    rw [own, none]
    rfl
  have found : c.endpoints = .ok [] := by
    unfold Cluster.endpoints
    rw [none]
    rfl
  unfold deploy
  rw [turn, pure_bind]
  simp only [bootstrap_eq found, Procedure.run_bind, Procedure.run_pure]
  rfl

end

end Cluster

end Testbed
