import Testbed.Proofs.Cluster.Bystander
import Testbed.Proofs.Universe.Teardown
/-!
# Universes beside the containers of others

A universe of containers shares its engine with others, and the names of its nodes may be taken.
Whatever is done to it, and in the end giving it up, leaves every container as it is that was there
before and that nobody else touches (`bystanders_kept`).
-/

namespace Testbed

open Procedure (Keeps)
open Lab (Engine SimulatedContainer World)

variable {name : String} {k : SimulatedContainer} {u : Universe}

namespace Universe

/-- The nodes of all clusters, now and later, are for containers of other names. -/
structure Apart (name : String) (u : Universe) : Prop where
  environment : u.environment = .docker
  bootstrapper : ∀ r, (u.bootstrapper r).run.Within (Call.Spares name)
  clusters : ∀ e ∈ u.clusters.entries, e.2.Apart name

theorem Apart.put {c : Cluster Physical} (apart : u.Apart name) (cluster : c.Apart name) :
    (u.putCluster c).Apart name where
  environment := apart.environment
  bootstrapper := apart.bootstrapper
  clusters e mem := by
    rcases Ascending.mem_insert mem with rfl | mem
    · exact cluster
    · exact apart.clusters e mem

theorem Apart.values (apart : u.Apart name) : ∀ c ∈ u.clusters.values, c.Apart name := by
  intro c listed
  obtain ⟨e, mem, rfl⟩ := List.mem_map.1 listed
  exact apart.clusters e mem

theorem Apart.change (apart : u.Apart name) (state : UniverseState) :
    Apart name { u with state := state } :=
  ⟨apart.environment, apart.bootstrapper, apart.clusters⟩

/-! ## Deploying -/

theorem factory_unclaimed (docker : u.environment = .docker) :
    u.factory.strategy = .sequential ∧
      ∀ node dir b, u.factory.backend node dir = .ok b → b.Unclaimed name := by
  unfold factory
  rw [docker]
  refine ⟨rfl, fun node dir b made => ?_⟩
  cases made
  exact ⟨_, rfl, fun _ => rfl⟩

theorem deployClusters_keeps {factory : Factory Physical} {rest : List ClusterParams}
    (unclaimed : factory.strategy = .sequential ∧
      ∀ node dir b, factory.backend node dir = .ok b → b.Unclaimed name)
    (apart : u.Apart name) :
    (u.deployClusters factory rest).Keeps name k fun o => o.2.Apart name := by
  induction rest generalizing u with
  | nil => exact Procedure.keeps_pure apart
  | cons params rest ih =>
    have stamped : (Procedure.ask (I := outside) .timeStamp).Within (Call.Spares name) :=
      Procedure.within_ask.2 trivial
    have new : (u.newCluster factory params).Keeps name k fun c => c.Apart name := by
      refine stamped.keeps.bind fun stamp _ => Procedure.keeps_pure ⟨?_, fun e mem => ?_⟩
      · exact ⟨unclaimed.1, unclaimed.2, apart.bootstrapper⟩
      · cases mem
    refine new.bind fun c cluster => ?_
    have registered := apart.put cluster
    refine (Cluster.deploy_keeps cluster).bind ?_
    rintro ⟨r, c'⟩ cluster'
    cases r with
    | ok _ => exact ih (registered.put cluster')
    | error e => exact Procedure.keeps_pure (registered.put cluster')

theorem prepareEnvironment_keeps (apart : u.Apart name) :
    u.prepareEnvironment.Keeps name k fun o => o.2.Apart name := by
  unfold prepareEnvironment
  rw [apart.environment]
  have asked : (askEngine (.ensureNetwork u.params.networkName)).Within (Call.Spares name) :=
    Procedure.within_ask.2 nofun
  exact asked.keeps.bind fun _ _ => Procedure.keeps_pure apart

theorem deploy_keeps (apart : u.Apart name) :
    u.deploy.Keeps name k fun o => o.2.Apart name := by
  unfold deploy beginDeploy
  by_cases first : u.state = .empty
  · rw [if_pos first]
    refine (prepareEnvironment_keeps (apart.change u.firstState)).bind ?_
    rintro ⟨r, u₁⟩ apart
    cases r with
    | error e => exact Procedure.keeps_pure apart
    | ok _ =>
      refine (deployClusters_keeps (factory_unclaimed apart.environment) apart).bind ?_
      rintro ⟨r, u₂⟩ apart
      cases r with
      | error e => exact Procedure.keeps_pure apart
      | ok _ => exact Procedure.keeps_pure (apart.change .bootstrapped)
  · rw [if_neg first]
    exact Procedure.keeps_pure apart

/-! ## Tearing down -/

theorem tearDown_keeps {act : Cluster Physical → Work (TeardownSummary × Cluster Physical)}
    (acts : ∀ c, c.Apart name → (act c).Keeps name k fun o => o.2.Apart name)
    {summary : TeardownSummary} {rest : List (Cluster Physical)} (apart : u.Apart name)
    (clusters : ∀ c ∈ rest, c.Apart name) :
    (u.tearDown act summary rest).Keeps name k fun o => o.2.Apart name := by
  induction rest generalizing u summary with
  | nil => exact Procedure.keeps_pure apart
  | cons c rest ih =>
    refine (acts c (clusters c List.mem_cons_self)).bind fun o cluster => ?_
    exact ih (apart.put cluster) fun c' mem => clusters c' (List.mem_cons_of_mem _ mem)

theorem shutDown_keeps (apart : u.Apart name) :
    u.shutDown.Keeps name k fun o => o.2.Apart name := by
  unfold shutDown beginTeardown
  by_cases refused : u.state = .shutDown ∨ u.state = .destroyed
  · rw [if_pos refused]
    exact Procedure.keeps_pure apart
  · rw [if_neg refused]
    have torn : (Universe.tearDown { u with state := .shutDown } (·.stop u.params.timeout) .empty
        u.clusters.values).Keeps name k fun o => o.2.Apart name :=
      tearDown_keeps (fun c cluster => Cluster.stop_keeps cluster _) (apart.change .shutDown)
        apart.values
    exact torn.bind fun o apart => Procedure.keeps_pure apart

theorem releaseEnvironment_spares : u.releaseEnvironment.Within (Call.Spares name) := by
  unfold releaseEnvironment
  split
  · exact Procedure.Within.map (Procedure.within_ask.2 nofun) _
  · exact Procedure.within_pure ()

theorem destroy_keeps (apart : u.Apart name) :
    u.destroy.Keeps name k fun o => o.2.Apart name := by
  unfold destroy beginTeardown
  by_cases refused : u.state = .destroyed ∨ u.state = .destroyed
  · rw [if_pos refused]
    exact Procedure.keeps_pure apart
  · rw [if_neg refused]
    have torn : (Universe.tearDown { u with state := .destroyed } Cluster.destroy .empty
        u.clusters.values).Keeps name k fun o => o.2.Apart name :=
      tearDown_keeps (fun c => Cluster.destroy_keeps) (apart.change .destroyed) apart.values
    refine torn.bind fun o apart => ?_
    exact releaseEnvironment_spares.keeps.bind fun _ _ => Procedure.keeps_pure apart

theorem release_spares (apart : u.Apart name) : u.release.Within (Call.Spares name) :=
  Procedure.within_forM fun c listed => Cluster.release_spares (apart.values c listed)

theorem onCluster_keeps (apart : u.Apart name) (key : String) (act : Cluster.Act) :
    (u.onCluster key act).Keeps name k fun o => o.2.Apart name := by
  unfold onCluster
  cases found : u.clusters.find? key with
  | none => exact Procedure.keeps_pure apart
  | some c =>
    have cluster : c.Apart name := apart.clusters _ (NameMap.mem_entries.2 found)
    exact Keeps.map ((Cluster.apply_keeps cluster act).mono fun o cluster => apart.put cluster)

end Universe

/-! ## The fault loop -/

namespace FaultLoop

open Universe (Apart)

theorem pick_spares {α : Type} (l : List α) : (pick l).Within (Call.Spares name) := by
  cases l with
  | nil => exact Procedure.within_pure _
  | cons a rest =>
    exact Procedure.Within.bind (Procedure.within_ask.2 trivial) fun _ => Procedure.within_pure _

theorem awaitShutdown_spares (limit : Duration) :
    (awaitShutdown limit).Within (Call.Spares name) := Procedure.within_ask.2 trivial

theorem performIn_keeps {c : Cluster Physical} {node : Node Physical} {key : String}
    (apart : u.Apart name) (cluster : c.Apart name) (member : node.backend.Apart name)
    (op : Operation) : (performIn u c key op node).Keeps name k fun o =>
      o.2.1.backend.Apart name ∧ o.2.2.Apart name :=
  (Node.act_keeps member (.perform op)).bind fun _ member =>
    Procedure.keeps_pure ⟨member, apart.put (cluster.insert member)⟩

theorem suffer_keeps {c : Cluster Physical} {node : Node Physical} {key : String}
    {hold : Duration} {fault : Fault} (apart : u.Apart name) (cluster : c.Apart name)
    (member : node.backend.Apart name) :
    (suffer u hold c key node fault).Keeps name k fun o => o.2.Apart name := by
  refine (performIn_keeps apart cluster member _).bind ?_
  rintro ⟨r, node', u'⟩ ⟨member, apart⟩
  cases r with
  | error e => exact Procedure.keeps_pure apart
  | ok _ =>
    refine ((awaitShutdown_spares hold).map _).keeps.bind fun _ _ => ?_
    exact (performIn_keeps apart cluster member _).bind fun o healed =>
      Procedure.keeps_pure healed.2

theorem round_keeps (apart : u.Apart name) (hold : Duration) :
    (round u hold).Keeps name k fun o => o.2.Apart name := by
  refine (pick_spares u.nodes).keeps.leads.bind ?_
  rintro picked ⟨-, es, leads⟩
  cases picked with
  | none => exact Procedure.keeps_pure apart
  | some m =>
    obtain ⟨c, key, node⟩ := m
    obtain ⟨listed, mem⟩ := Universe.mem_nodes.1 (pick_mem leads)
    have cluster : c.Apart name := apart.values c listed
    refine (pick_spares (Fault.supported node.backend)).keeps.bind fun picked _ => ?_
    cases picked with
    | none => exact Procedure.keeps_pure apart
    | some fault => exact suffer_keeps apart cluster (cluster.members (key, node) mem)

theorem run_keeps {rounds : Nat} (apart : u.Apart name) (interval : Duration) :
    (run interval rounds u).Keeps name k fun u => u.Apart name := by
  induction rounds generalizing u with
  | zero => exact Procedure.keeps_pure apart
  | succ rounds ih =>
    refine (awaitShutdown_spares interval).keeps.bind fun told _ => ?_
    cases told with
    | true => exact Procedure.keeps_pure apart
    | false => exact (round_keeps apart interval).bind fun o apart => ih apart

end FaultLoop

/-! ## Whatever is done to a universe -/

/-- What may be done to a universe, in any order and any number of times. -/
inductive Universe.Deed where
  | deploy
  | shutDown
  | destroy
  | onCluster (name : String) (act : Cluster.Act)
  | faults (interval : Duration) (rounds : Nat)
  /-- Asks for the state and the packet filter rules of a member. -/
  | look (cluster node : String)

namespace Universe

def look (u : Universe) (cluster node : String) : Work Unit :=
  match (u.clusters.find? cluster).bind (·.members.find? node) with
  | none => return ()
  | some n => do
    discard (Backend.state n.backend)
    discard (Backend.faultRules n.backend)

def Deed.apply : Deed → Universe → Work (Outcome Universe)
  | .deploy, u => u.deploy
  | .shutDown, u => (fun o => (o.1.map fun _ => (), o.2)) <$> u.shutDown
  | .destroy, u => (fun o => (o.1.map fun _ => (), o.2)) <$> u.destroy
  | .onCluster name act, u => u.onCluster name act
  | .faults interval rounds, u => (fun u => (.ok (), u)) <$> FaultLoop.run interval rounds u
  | .look cluster node, u => (fun _ => (.ok (), u)) <$> u.look cluster node

/-- Does things to a universe, one after the other, and gives it up with all its nodes. -/
def spend (u : Universe) (deeds : List Deed) : Work Unit := do
  (← inTurn (deeds.map Deed.apply) u).release

theorem look_spares (apart : u.Apart name) (cluster node : String) :
    (u.look cluster node).Within (Call.Spares name) := by
  unfold look
  cases found : (u.clusters.find? cluster).bind (·.members.find? node) with
  | none => exact Procedure.within_pure _
  | some n =>
    obtain ⟨c, cluster_found, member_found⟩ := Option.bind_eq_some_iff.1 found
    have member : n.backend.Apart name :=
      (apart.clusters _ (NameMap.mem_entries.2 cluster_found)).members _
        (NameMap.mem_entries.2 member_found)
    obtain ⟨state, rules⟩ := Physical.look_spares member
    exact (state.map _).bind fun _ => rules.map _

theorem deed_keeps (apart : u.Apart name) (deed : Deed) :
    (deed.apply u).Keeps name k fun o => o.2.Apart name := by
  cases deed with
  | deploy => exact deploy_keeps apart
  | shutDown => exact Keeps.map (shutDown_keeps apart)
  | destroy => exact Keeps.map (destroy_keeps apart)
  | onCluster key act => exact onCluster_keeps apart key act
  | faults interval rounds => exact Keeps.map (FaultLoop.run_keeps apart interval)
  | look cluster node =>
    exact Keeps.map ((look_spares apart cluster node).keeps.mono fun _ _ => apart)

theorem spend_keeps (apart : u.Apart name) (deeds : List Deed) :
    (u.spend deeds).Keeps name k fun _ => True := by
  have worked : (inTurn (deeds.map Deed.apply) u).Keeps name k fun u => u.Apart name := by
    intro d kept
    refine ensures_inTurn (fun act mem u d h => ?_) ⟨kept, apart⟩
    obtain ⟨deed, -, rfl⟩ := List.mem_map.1 mem
    exact deed_keeps h.2 deed d h.1
  exact worked.bind fun u apart => (release_spares apart).keeps

/-- What was on the engine before the universe, and is left alone by others, stays as it is: at every
moment of the universe, when it is given up, and when the last abandoned container is killed. -/
theorem bystanders_kept {σ : Type} {peers : Peers outside σ} {view : σ → Daemon}
    {alone : String → Prop} (obey : peers.Obey view (Communal alone)) {params : UniverseParams}
    {bootstrapper : Bootstrapper} (ready : docker params bootstrapper = .ok u)
    (aside : ∀ r name, (bootstrapper r).run.Within (Call.Spares name)) (deeds : List Deed)
    (m : Moment σ) :
    ∀ name k, alone name → (view m.state).find? name = some k →
      name ∉ (view m.state).abandoned →
      (∀ x ∈ (u.spend deeds).history peers m, (view x.2).find? name = some k) ∧
        ∀ later, (view ((u.spend deeds).run peers m).2.state).Drift alone later →
          later.find? name = some k := by
  intro name k left found spared
  obtain ⟨-, rfl⟩ := docker_eq ready
  have obey_name : peers.Obey view (Communal (· = name)) := fun clock s c =>
    (obey clock s c).mono fun _ same => same ▸ left
  have apart : (inEnvironment params .docker bootstrapper).Apart name :=
    ⟨rfl, fun r => aside r name, fun e mem => by cases mem⟩
  have keeps := spend_keeps apart deeds (view m.state) ⟨found, spared⟩
  refine ⟨fun x mem => (keeps.history obey_name x mem).found, fun later drift => ?_⟩
  exact ((keeps.run obey_name).1.drift drift left).found

/-- Somebody else's container under the name of a node. -/
def theirs : SimulatedContainer where
  spec := ⟨"node9001", "web:latest", "web", ["serve"], 9001, false⟩
  running := true
  paused := true
  network := some "web"
  rules := ["-A INPUT -s 10.0.0.1/32 -j DROP"]

/-- An engine that has this container, and that fails to remove another. -/
def occupied : World where
  engine := { Engine.empty Engine.defaultInfo
      [⟨"remove", "node9000", none, ⟨some .internal, none, none, none, none, .zero⟩⟩] with
    containers := NameMap.insert ∅ "node9001" theirs }
  shell := ⟨[], []⟩
  hypervisor := ⟨[], false, 0, ∅, ∅, [], []⟩
  files := .empty
  failingActions := []
  actions := []
  bootstraps := []
  bootstrapsFail := false
  abandoned := []
  ids := 0
  stamp := ""
  shutdownAt := .ofSecs 1

/-- The second node of a cluster does not come up, and is added once more after a fault. -/
theorem bystanders_kept_occupied :
    let cluster := { ClusterParams.named "alpha" with nodes := [.ofPort 9000, .ofPort 9001] }
    let params := UniverseParams.default.withCluster cluster
    let u := inEnvironment params .docker .delegated
    let deeds : List Deed := [.deploy, .onCluster "alpha" (.onNode "node9000" (.perform .disconnect)),
      .onCluster "alpha" (.add (.ofPort 9001)), .faults .zero 1, .shutDown, .destroy]
    let m : Moment World := ⟨.zero, occupied⟩
    docker params .delegated = .ok u ∧
      (∀ x ∈ (u.spend deeds).history World.peers m, x.2.daemon.find? "node9001" = some theirs) ∧
      ((u.spend deeds).run World.peers m).2.state.settle.daemon.find? "node9001" = some theirs := by
  intro cluster params u deeds m
  have ready : docker params .delegated = .ok u :=
    docker_of_valid (toOption_eq_some.1 (by decide +kernel)) rfl
  have aside (r) (name) : (Bootstrapper.delegated r).run.Within (Call.Spares name) :=
    Procedure.within_ask.2 trivial
  have found : occupied.daemon.find? "node9001" = some theirs := NameMap.find?_insert_self
  have kept := bystanders_kept (World.peers_shared fun _ => True) ready aside deeds m "node9001"
    theirs trivial found List.not_mem_nil
  obtain ⟨always, last⟩ := kept
  exact ⟨ready, always, last _ (World.settle_drift _ _)⟩

end Universe

end Testbed
