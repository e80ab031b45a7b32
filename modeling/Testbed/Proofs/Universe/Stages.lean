import Testbed.Proofs.Cluster.Bootstrapping
import Testbed.Proofs.Cluster.Fate
import Testbed.Proofs.Params.Validity
import Testbed.Proofs.Universe.Creation
import Testbed.Proofs.Universe.Deployment
/-!
# One cluster after the other

Once its environment is ready a universe is deployed in stages, one for each cluster in ascending
order of the names. A stage begins with the time stamp of the cluster, goes on with its nodes and
ends with its bootstrapper; the next one is only begun when that succeeded. Together the stages are
all that is done from the moment the environment is ready (`Stage.Succession`). A cluster is
registered from its stage on, with all nodes that came up, so that a failure leaves nothing behind
that a teardown would not find (`deploy_staged`).
-/

namespace Testbed

/-- The cluster that a bootstrapper is called for. -/
def Call.bootstraps? : Call → Option String
  | .bootstrap r => some r.cluster
  | _ => none

theorem Call.bootstraps?_eq_none {call : Call} (aside : ¬call.IsBootstrap) :
    call.bootstraps? = none := by
  cases call with
  | bootstrap r => exact absurd trivial aside
  | _ => rfl

namespace Cluster

section

variable {β : Type} [Backend β]

/-- How the deployment of a cluster ends when its nodes were dealt with, with a verdict on them. One
that is not up is left at that, and the bootstrapper is handed one that is. -/
structure Closes (c : Cluster β) (ds : List (Deployment β)) (verdict : Except Error Unit)
    (es : List (Event outside)) (r : Except Error Unit) : Prop where
  down : ¬AllUp c.params.nodes ds → es = [] ∧ r = verdict ∧ ∃ e, r = .error e
  empty : c.params.nodes = [] → Refuses [] es r
  bootstraps : c.params.nodes ≠ [] → AllUp c.params.nodes ds → ∃ id endpoints handed,
    List.Forall₂ (c.setting.factory.endpoint · = .ok ·) c.params.nodes endpoints ∧
    es = ⟨.freshId, id⟩ :: handed ∧
    (c.setting.bootstrapper ⟨c.name, .complete id endpoints, c.params.bootstrapRetries,
      c.params.retryTimeout⟩).run.Leads handed r

variable {c c' : Cluster β} {ds : List (Deployment β)} {es : List (Event outside)}
  {v r : Except Error Unit}

omit [Backend β] in
/-- A cluster that succeeds has nodes, and all of them are up. -/
theorem Closes.up (closes : c.Closes ds v es (.ok ())) :
    c.params.nodes ≠ [] ∧ AllUp c.params.nodes ds := by
  constructor
  · intro none
    obtain ⟨-, e, -, -, eq⟩ := closes.empty none
    cases eq
  · by_cases up : AllUp c.params.nodes ds
    · exact up
    · obtain ⟨-, -, e, eq⟩ := closes.down up
      cases eq

theorem Deployed.closes {before : List (Event outside)}
    (deployed : c.Deployed c.params.nodes before v c' ds) (up : AllUp c.params.nodes ds)
    (ports : (c.params.nodes.map (·.port)).Nodup) (physical : c.setting.factory.IsPhysical)
    (submitted : c'.bootstrap.run.Leads es r) : c.Closes ds v es r := by
  obtain ⟨endpoints, named, found⟩ := deployed.endpoints up
  obtain ⟨id, handed, rfl, bootstrapped⟩ := bootstrap_hands found submitted
  refine ⟨fun down => absurd up down, fun none => ?_, fun some _ => ?_⟩
  · rw [none] at named
    cases named
    obtain ⟨e, refused⟩ := Layout.bootstrap_refused id (.inl rfl)
    rw [refused] at bootstrapped
    obtain ⟨rfl, rfl⟩ := bootstrapped
    exact ⟨id, e, rfl, refused, rfl⟩
  · have listed : endpoints ≠ [] := by
      rwa [ne_eq, ← List.length_eq_zero_iff, ← named.length_eq, List.length_eq_zero_iff]
    have distinct : endpoints.Nodup := physical.separates.nodup named ports
    have name : c'.name = c.name := congrArg ClusterParams.name deployed.params
    rw [Layout.bootstrap_eq_ok listed distinct, deployed.setting, name, deployed.params]
      at bootstrapped
    exact ⟨id, endpoints, handed, named, rfl, bootstrapped⟩

variable [Detached β]

/-- What becomes of a cluster that was fresh before. -/
structure Concludes (c : Cluster β) (ds : List (Deployment β)) (verdict : Except Error Unit)
    (nodes closing : List (Event outside)) (r : Except Error Unit) (c' : Cluster β) : Prop where
  undertakes : c.Undertakes ds nodes verdict
  closes : c.Closes ds verdict closing r
  setting : c'.setting = c.setting
  params : c'.params = c.params
  members : ∀ name n, c'.members.find? name = some n ↔
    ∃ d ∈ ds, d.result = some (.ok n) ∧ d.node.name = name

theorem deploy_concludes (fresh : c.members = ∅) (ports : (c.params.nodes.map (·.port)).Nodup)
    (physical : c.setting.factory.IsPhysical) (leads : c.deploy.Leads es (r, c')) :
    ∃ ds verdict nodes closing,
      es = nodes ++ closing ∧ c.Concludes ds verdict nodes closing r c' := by
  have vacant : c.Vacant c.params.nodes :=
    ⟨NodeParams.nodup_names ports, fun _ _ => by rw [fresh]; rfl⟩
  obtain ⟨nodes, closing, ⟨verdict, c₁⟩, rfl, worked, leads⟩ := Procedure.leads_bind.1 leads
  obtain ⟨ds, deployed⟩ := deployNodes_leads vacant worked
  have members : ∀ name n, c₁.members.find? name = some n ↔
      ∃ d ∈ ds, d.result = some (.ok n) ∧ d.node.name = name := by
    intro name n
    rw [deployed.members, fresh]
    simp
  refine ⟨ds, verdict, nodes, closing, rfl, ?_⟩
  cases verdict with
  | ok _ =>
    obtain ⟨gs, _, answer, rfl, submitted, leads⟩ := Procedure.leads_bind.1 leads
    obtain ⟨rfl, eq⟩ := Procedure.leads_pure.1 leads
    cases eq
    rw [List.append_nil]
    have closes := deployed.closes (deployed.verdict.1 rfl) ports physical submitted
    exact ⟨deployed.undertakes, closes, deployed.setting, deployed.params, members⟩
  | error e =>
    obtain ⟨rfl, eq⟩ := Procedure.leads_pure.1 leads
    cases eq
    have down : ¬AllUp c.params.nodes ds := fun up => nomatch deployed.verdict.2 up
    have closes : c.Closes ds (.error e) [] (.error e) := by
      refine ⟨fun _ => ⟨rfl, rfl, e, rfl⟩, fun none => ?_, fun _ up => absurd up down⟩
      -- without nodes there is none that could fail
      have untried := deployed.inOrder
      rw [none, List.prefix_nil] at untried
      refine absurd ⟨by rw [untried, none], ?_⟩ down
      simp [List.map_eq_nil_iff.1 untried]
    exact ⟨deployed.undertakes, closes, deployed.setting, deployed.params, members⟩

end

end Cluster

namespace Universe

/-- What the clusters of a universe share. -/
def setting (u : Universe) (factory : Factory Physical) (stamp : String) :
    ClusterSetting Physical :=
  ⟨factory, u.bootstrapper, u.params.logRoot, u.params.service.name, stamp⟩

/-- The deployment of one cluster as a part of that of a universe. -/
structure Stage where
  /-- The cluster as it was registered at first. -/
  fresh : Cluster Physical
  deployments : List (Deployment Physical)
  /-- What came of the nodes. -/
  verdict : Except Error Unit
  nodes : List (Event outside)
  closing : List (Event outside)
  result : Except Error Unit
  /-- The cluster as it stayed registered. -/
  cluster : Cluster Physical

namespace Stage

/-- All calls from the time stamp of the cluster on. -/
def events (s : Stage) : List (Event outside) :=
  ⟨.timeStamp, s.fresh.setting.stamp⟩ :: (s.nodes ++ s.closing)

structure Sound (u : Universe) (factory : Factory Physical) (s : Stage) : Prop where
  fresh : s.fresh = .ofParams (u.setting factory s.fresh.setting.stamp) s.fresh.params
  concludes :
    s.fresh.Concludes s.deployments s.verdict s.nodes s.closing s.result s.cluster

/-- Stages follow each other from one moment to another. In each the time is asked for, and then the
cluster is deployed, by just the calls of the stage and with just its result. -/
inductive Succession {σ : Type} (peers : Peers outside σ) :
    Moment σ → List Stage → Moment σ → Prop
  | nil (m : Moment σ) : Succession peers m [] m
  | cons {s : Stage} {rest : List Stage} {m begun ended last : Moment σ} :
      (Procedure.ask (I := outside) .timeStamp).run peers m = (s.fresh.setting.stamp, begun) →
      s.fresh.deploy.trace peers begun = s.nodes ++ s.closing →
      s.fresh.deploy.run peers begun = ((s.result, s.cluster), ended) →
      Succession peers ended rest last → Succession peers m (s :: rest) last

end Stage

/-- A universe is deployed in stages, each of which follows one that succeeded. -/
structure Staged (u : Universe) (factory : Factory Physical) (configured : List ClusterParams)
    (stages : List Stage) (es : List (Event outside)) (o : UniverseOutcome Unit) : Prop where
  inOrder : stages.map (·.fresh.params) <+: configured
  calls : es = stages.flatMap (·.events)
  sound : ∀ s ∈ stages, s.Sound u factory
  patient : ∀ s ∈ stages.dropLast, s.result = .ok ()
  registered : ∀ key c, o.2.clusters.find? key = some c ↔
    u.clusters.find? key = some c ∨ ∃ s ∈ stages, s.fresh.name = key ∧ s.cluster = c
  fails : ∀ s ∈ stages, ∀ e, s.result = .error e →
    o.1 = .error e ∧ stages.getLast? = some s
  succeeds : (∀ s ∈ stages, s.result = .ok ()) →
    o.1 = .ok () ∧ stages.map (·.fresh.params) = configured

variable {u : Universe} {factory : Factory Physical} {es : List (Event outside)}

/-- A deployment goes on with the first cluster, which is made with the time that is asked for. -/
theorem deployClusters_run {σ : Type} (peers : Peers outside σ) (m : Moment σ) (u : Universe)
    (factory : Factory Physical) (params : ClusterParams) (rest : List ClusterParams) :
    let asked := (Procedure.ask (I := outside) .timeStamp).run peers m
    let c := Cluster.ofParams (u.setting factory asked.1) params
    let deployed := c.deploy.run peers asked.2
    let w := (u.putCluster c).putCluster deployed.1.2
    let later : Work (UniverseOutcome Unit) :=
      match deployed.1.1 with
      | .ok () => w.deployClusters factory rest
      | .error e => pure (.error e, w)
    (u.deployClusters factory (params :: rest)).trace peers m =
        ⟨.timeStamp, asked.1⟩ :: (c.deploy.trace peers asked.2 ++ later.trace peers deployed.2) ∧
      (u.deployClusters factory (params :: rest)).run peers m = later.run peers deployed.2 := by
  intro asked c deployed w later
  have calls := Procedure.leads_ask.1
    (Procedure.leads_run peers (Procedure.ask (I := outside) .timeStamp) m)
  have goes : u.deployClusters factory (params :: rest) =
      Procedure.ask (I := outside) .timeStamp >>= fun stamp =>
        (Cluster.ofParams (u.setting factory stamp) params).deploy >>= fun o =>
          match o.1 with
          | .ok () => ((u.putCluster (.ofParams (u.setting factory stamp) params)).putCluster
              o.2).deployClusters factory rest
          | .error e => pure (.error e,
              (u.putCluster (.ofParams (u.setting factory stamp) params)).putCluster o.2) := by
    simp only [deployClusters, newCluster, bind_assoc, pure_bind]
    refine congrArg _ (funext fun stamp => congrArg _ (funext fun o => ?_))
    obtain ⟨_ | _, c'⟩ := o
    · rfl
    · rfl
  rw [goes, Procedure.trace_bind, Procedure.run_bind, calls, Procedure.trace_bind,
    Procedure.run_bind]
  exact ⟨rfl, rfl⟩

theorem factory_physical : u.factory.IsPhysical := by
  unfold factory
  cases u.environment with
  | docker => exact .inl ⟨u.params.service, u.params.networkName, rfl⟩
  | vm vm => exact .inr ⟨u.params.service, u.addresses, u.params.workers.toNat, rfl⟩

section

variable {stage : Stage} {rest : List ClusterParams}

theorem Stage.Sound.name (sound : stage.Sound u factory) : stage.cluster.name = stage.fresh.name :=
  congrArg ClusterParams.name sound.concludes.params

/-- The universe once a stage is over. -/
def pastStage (u : Universe) (stage : Stage) : Universe :=
  (u.putCluster stage.fresh).putCluster stage.cluster

theorem Staged.stop {e : Error} (sound : stage.Sound u factory) (failed : stage.result = .error e)
    (vacant : u.clusters.find? stage.fresh.name = none) :
    u.Staged factory (stage.fresh.params :: rest) [stage] stage.events
      (.error e, u.pastStage stage) where
  inOrder := by simp
  calls := by simp
  sound := by simpa using sound
  patient := by simp
  registered key c := by
    rw [pastStage, find?_registered sound.name vacant]
    simp
  fails := by
    intro s mem e' eq
    rw [List.mem_singleton.1 mem, failed] at eq
    rw [List.mem_singleton.1 mem]
    exact ⟨eq, rfl⟩
  succeeds := by
    intro all
    have ok := all stage List.mem_cons_self
    rw [failed] at ok
    cases ok

theorem Staged.next {stages : List Stage} {o : UniverseOutcome Unit}
    (sound : stage.Sound u factory) (ok : stage.result = .ok ())
    (vacant : u.clusters.find? stage.fresh.name = none)
    (later : (u.pastStage stage).Staged factory rest stages es o) :
    u.Staged factory (stage.fresh.params :: rest) (stage :: stages) (stage.events ++ es) o where
  inOrder := by simpa using later.inOrder
  calls := by rw [List.flatMap_cons, later.calls]
  sound := by
    intro s mem
    rcases List.mem_cons.1 mem with rfl | mem
    · exact sound
    · exact { later.sound s mem with }
  patient := by
    intro s mem
    cases stages with
    | nil => cases mem
    | cons second others =>
      rcases List.mem_cons.1 mem with rfl | mem
      · exact ok
      · exact later.patient s mem
  registered key c := by
    rw [later.registered, pastStage, find?_registered sound.name vacant]
    simp [or_assoc]
  fails := by
    intro s mem e eq
    rcases List.mem_cons.1 mem with rfl | mem
    · rw [ok] at eq
      cases eq
    · obtain ⟨failed, last⟩ := later.fails s mem e eq
      refine ⟨failed, ?_⟩
      rw [List.getLast?_cons, last]
      rfl
  succeeds := by
    intro all
    obtain ⟨succeeded, complete⟩ := later.succeeds fun s mem => all s (List.mem_cons_of_mem _ mem)
    rw [List.map_cons, complete]
    exact ⟨succeeded, rfl⟩

end

theorem deployClusters_staged {σ : Type} (peers : Peers outside σ) (physical : factory.IsPhysical)
    {rest : List ClusterParams} (ports : ∀ params ∈ rest, (params.nodes.map (·.port)).Nodup)
    (distinct : (rest.map (·.name)).Nodup)
    (vacant : ∀ params ∈ rest, u.clusters.find? params.name = none) (m : Moment σ) :
    ∃ stages, u.Staged factory rest stages ((u.deployClusters factory rest).trace peers m)
        ((u.deployClusters factory rest).run peers m).1 ∧
      Stage.Succession peers m stages ((u.deployClusters factory rest).run peers m).2 := by
  induction rest generalizing u m with
  | nil =>
    exact ⟨[], {
      inOrder := List.prefix_refl _
      calls := rfl
      sound := by simp
      patient := by simp
      registered := by simp [deployClusters, Procedure.run_pure]
      fails := by simp
      succeeds := fun _ => ⟨rfl, rfl⟩ }, .nil m⟩
  | cons params rest ih =>
    obtain ⟨calls, result⟩ := deployClusters_run peers m u factory params rest
    rw [calls, result]
    clear calls result
    cases asked : (Procedure.ask (I := outside) .timeStamp).run peers m with | mk stamp begun =>
    dsimp only
    have leads := Procedure.leads_run peers
      (Cluster.ofParams (u.setting factory stamp) params).deploy begun
    cases deployed : (Cluster.ofParams (u.setting factory stamp) params).deploy.run peers begun with
    | mk o ended =>
    obtain ⟨r, c'⟩ := o
    rw [deployed] at leads
    obtain ⟨ds, verdict, nodes, closing, cut, concludes⟩ :=
      Cluster.deploy_concludes rfl (ports params List.mem_cons_self) physical leads
    let stage : Stage :=
      ⟨.ofParams (u.setting factory stamp) params, ds, verdict, nodes, closing, r, c'⟩
    have sound : stage.Sound u factory := ⟨rfl, concludes⟩
    have free : u.clusters.find? stage.fresh.name = none := vacant params List.mem_cons_self
    rw [cut]
    cases r with
    | error e =>
      have stop : u.Staged factory (params :: rest) [stage] stage.events _ := .stop sound rfl free
      have last : (⟨.timeStamp, stamp⟩ : Event outside) :: (nodes ++ closing ++ []) = stage.events :=
        congrArg _ (List.append_nil _)
      refine ⟨[stage], ?_, .cons asked cut deployed (.nil ended)⟩
      rw [← last] at stop
      exact stop
    | ok _ =>
      obtain ⟨notLater, distinct⟩ := List.nodup_cons.1 distinct
      have vacant_rest : ∀ p ∈ rest, (u.pastStage stage).clusters.find? p.name = none := by
        intro p mem
        have other : p.name ≠ params.name := fun same => notLater (List.mem_map.2 ⟨p, mem, same⟩)
        refine Option.eq_none_iff_forall_ne_some.2 fun c found => ?_
        rcases (find?_registered sound.name free).1 found with there | ⟨same, -⟩
        · cases (vacant p (List.mem_cons_of_mem _ mem)).symm.trans there
        · exact other same.symm
      obtain ⟨stages, staged, succession⟩ := ih (fun p mem => ports p (List.mem_cons_of_mem _ mem))
        distinct vacant_rest ended
      exact ⟨stage :: stages, .next sound rfl free staged, .cons asked cut deployed succession⟩

/-! ## One bootstrap for each cluster -/

section

variable {stages : List Stage} {configured : List ClusterParams} {o : UniverseOutcome Unit}

theorem not_bootstrap_of_hypervisor {call : Call} (is : call.IsHypervisor) :
    ¬call.IsBootstrap := by
  cases call with
  | hypervisor c => exact id
  | _ => exact False.elim is

theorem filterMap_aside {es : List (Event outside)} (aside : ∀ e ∈ es, ¬e.call.IsBootstrap) :
    es.filterMap (·.call.bootstraps?) = [] :=
  List.filterMap_eq_nil_iff.2 fun e mem => Call.bootstraps?_eq_none (aside e mem)

theorem Stage.Sound.bootstraps {s : Stage} (sound : s.Sound u factory)
    (delegated : u.bootstrapper = .delegated) (ok : s.result = .ok ()) :
    s.events.filterMap (·.call.bootstraps?) = [s.fresh.name] := by
  have closes := sound.concludes.closes
  rw [ok] at closes
  obtain ⟨some, up⟩ := closes.up
  obtain ⟨id, endpoints, handed, -, closing, bootstrapped⟩ := closes.bootstraps some up
  have own : s.fresh.setting.bootstrapper = .delegated :=
    (congrArg (·.setting.bootstrapper) sound.fresh).trans delegated
  rw [own] at bootstrapped
  have nodes := filterMap_aside sound.concludes.undertakes.aside
  rw [Stage.events, List.filterMap_cons, List.filterMap_append, nodes, closing,
    Procedure.leads_ask.1 bootstrapped]
  rfl

/-- The calls of a stage are those for the nodes and those of the bootstrapper, but for two. -/
theorem Stage.Sound.calls {C : Call → Prop} {s : Stage} (sound : s.Sound u factory)
    (stamp : C .timeStamp) (id : C .freshId)
    (nodes : ∀ node, (s.fresh.deployment node).Within C)
    (handed : ∀ r, (u.bootstrapper r).run.Within C) : ∀ e ∈ s.events, C e.call := by
  have undertakes := sound.concludes.undertakes
  have closes := sound.concludes.closes
  have own : s.fresh.setting.bootstrapper = u.bootstrapper :=
    congrArg (·.setting.bootstrapper) sound.fresh
  have closing : ∀ e ∈ s.closing, C e.call := by
    by_cases none : s.fresh.params.nodes = []
    · obtain ⟨fresh, e, asked, -, -⟩ := closes.empty none
      simpa [asked] using id
    · by_cases up : AllUp s.fresh.params.nodes s.deployments
      · obtain ⟨fresh, endpoints, es, -, asked, bootstrapped⟩ := closes.bootstraps none up
        rw [own] at bootstrapped
        rw [asked]
        intro e mem
        rcases List.mem_cons.1 mem with rfl | mem
        · exact id
        · exact (handed _).leads bootstrapped e mem
      · rw [(closes.down up).1]
        simp
  intro e mem
  rcases List.mem_cons.1 mem with rfl | mem
  · exact stamp
  · rcases List.mem_append.1 mem with mem | mem
    · exact Cluster.interleaved_within nodes undertakes.followed undertakes.interleaved e mem
    · exact closing e mem

theorem Staged.bootstraps (staged : u.Staged factory configured stages es o)
    (delegated : u.bootstrapper = .delegated) (all : ∀ s ∈ stages, s.result = .ok ()) :
    es.filterMap (·.call.bootstraps?) = stages.map (·.fresh.name) := by
  rw [staged.calls, List.filterMap_flatMap, List.map_eq_flatMap]
  exact List.flatMap_congr fun s mem => (staged.sound s mem).bootstraps delegated (all s mem)

end

/-! ## The whole deployment -/

/-- How the deployment of a fresh universe goes on from an environment that is ready. -/
structure Proceeds (u : Universe) (stages : List Stage) (before after : List (Event outside))
    (o : UniverseOutcome Unit) : Prop
    extends u.Staged o.2.factory u.params.clusters.values stages after o where
  ascending : stages.Pairwise fun s t => s.fresh.name < t.fresh.name
  only : ∀ key c, o.2.clusters.find? key = some c ↔
    ∃ s ∈ stages, s.fresh.name = key ∧ s.cluster = c
  deploying : ∀ e, o.1 = .error e → o.2.state = .deploying
  bootstrapped : o.1 = .ok () → o.2.state = .bootstrapped
  /-- Bootstrapping that is left to somebody else can be told from the calls. -/
  once : u.bootstrapper = .delegated → o.1 = .ok () →
    (before ++ after).filterMap (·.call.bootstraps?) = u.params.clusters.keys

/-- The clusters that stay registered are those of the stages. -/
theorem Proceeds.keys {stages : List Stage} {before : List (Event outside)}
    {o : UniverseOutcome Unit} (proceeds : u.Proceeds stages before es o) :
    o.2.clusters.keys = stages.map (·.fresh.name) := by
  refine NameMap.keys_eq_of_ascending (List.pairwise_map.2 proceeds.ascending) fun name => ?_
  rw [NameMap.mem_keys, List.mem_map]
  simp only [proceeds.only]
  constructor
  · rintro ⟨-, s, mem, rfl, -⟩
    exact ⟨s, mem, rfl⟩
  · rintro ⟨s, mem, rfl⟩
    exact ⟨s.cluster, s, mem, rfl, rfl⟩

theorem populate_staged {σ : Type} (peers : Peers outside σ) (valid : u.params.validate = .ok ())
    (none : u.clusters = ∅) (m : Moment σ) :
    let o := u.populate.run peers m
    ∃ stages, u.Staged o.1.2.factory u.params.clusters.values stages (u.populate.trace peers m) o.1 ∧
      Stage.Succession peers m stages o.2 ∧
      (∀ e, o.1.1 = .error e → o.1.2.state = u.state) ∧
      (o.1.1 = .ok () → o.1.2.state = .bootstrapped) := by
  have ports : ∀ p ∈ u.params.clusters.values, (p.nodes.map (·.port)).Nodup := fun p mem =>
    (ClusterParams.validate_eq_ok (UniverseParams.validate_of_mem valid mem)).1
  obtain ⟨stages, staged, succession⟩ := deployClusters_staged peers factory_physical ports
    (UniverseParams.nodup_cluster_names valid) (fun _ _ => by rw [none]; rfl) m
  have rest := deployClusters_rest
    (Procedure.leads_run peers (u.deployClusters u.factory u.params.clusters.values) m)
  obtain ⟨calls, result⟩ := populate_run (u := u) peers m
  rw [calls, result]
  generalize (u.deployClusters u.factory u.params.clusters.values).trace peers m = es at staged ⊢
  generalize (u.deployClusters u.factory u.params.clusters.values).run peers m = p
    at staged succession rest ⊢
  obtain ⟨⟨r, w⟩, n⟩ := p
  have factory := congrArg Universe.factory rest
  have state := congrArg Universe.state rest
  change w.factory = u.factory at factory
  change w.state = u.state at state
  rw [← factory] at staged
  cases r with
  | ok _ =>
    refine ⟨stages, { staged with }, succession, fun e eq => ?_, fun _ => rfl⟩
    cases eq
  | error e =>
    refine ⟨stages, staged, succession, fun _ _ => state, fun eq => ?_⟩
    cases eq

theorem Staged.of_ok {configured : List ClusterParams} {stages : List Stage}
    {o : UniverseOutcome Unit} (staged : u.Staged factory configured stages es o)
    (ok : o.1 = .ok ()) : ∀ s ∈ stages, s.result = .ok () := by
  intro s mem
  cases result : s.result with
  | ok _ => rfl
  | error e => cases ok.symm.trans (staged.fails s mem e result).1

/-- Only what the clusters share and those that are registered already matters of a universe. -/
theorem Staged.congr {v : Universe} {configured : List ClusterParams} {stages : List Stage}
    {o : UniverseOutcome Unit} (staged : v.Staged factory configured stages es o)
    (setting : v.setting = u.setting) (clusters : v.clusters = u.clusters) :
    u.Staged factory configured stages es o := by
  refine { staged with sound := fun s mem => ?_, registered := fun key c => ?_ }
  · obtain ⟨fresh, concludes⟩ := staged.sound s mem
    rw [setting] at fresh
    exact ⟨fresh, concludes⟩
  · rw [← clusters]
    exact staged.registered key c

theorem prepared_proceeds {v : Universe} {before : List (Event outside)} {σ : Type}
    (peers : Peers outside σ) (valid : u.params.validate = .ok ()) (none : u.clusters = ∅)
    (prepared : u.begun.prepareEnvironment.Leads before (.ok (), v)) (m : Moment σ) :
    ∃ stages, u.Proceeds stages before (v.populate.trace peers m) (v.populate.run peers m).1 ∧
      Stage.Succession peers m stages (v.populate.run peers m).2 := by
  have state : v.state = .deploying := by
    rcases prepareEnvironment_state prepared with ⟨-, deploying⟩ | ⟨⟨e, failed⟩, -⟩
    · exact deploying
    · cases failed
  have rest := prepareEnvironment_rest prepared
  change v = { u.begun with state := v.state, addresses := v.addresses } at rest
  have params : v.params = u.params := by
    rw [rest]
    rfl
  have clusters : v.clusters = u.clusters := by
    rw [rest]
    rfl
  have setting : v.setting = u.setting := by
    rw [rest]
    rfl
  obtain ⟨stages, staged, succession, deploying, bootstrapped⟩ :=
    populate_staged peers (params ▸ valid) (clusters.trans none) m
  rw [params] at staged
  have staged := staged.congr setting clusters
  have names := (UniverseParams.clusters_ascending valid).sublist staged.inOrder.sublist
  rw [List.pairwise_map] at names
  refine ⟨stages, { staged with
    ascending := names
    only := fun key c => ?_
    deploying := fun e failed => (deploying e failed).trans state
    bootstrapped := bootstrapped
    once := fun delegated ok => ?_ }, succession⟩
  · rw [staged.registered, none]
    simp
  · have all := staged.of_ok ok
    have named : stages.map (·.fresh.name) = u.params.clusters.keys := by
      rw [← UniverseParams.cluster_names valid, ← (staged.succeeds all).2, List.map_map]
      rfl
    have aside : ∀ e ∈ before, ¬e.call.IsBootstrap := by
      intro e mem
      rcases prepareEnvironment_calls prepared e mem with network | hypervisor
      · rw [network]
        exact id
      · exact not_bootstrap_of_hypervisor hypervisor
    rw [List.filterMap_append, filterMap_aside aside, staged.bootstraps delegated all, named,
      List.nil_append]

/-- A fresh universe whose environment is ready goes on with its clusters in stages, from the moment
at which it is. -/
theorem deploy_staged {params : UniverseParams} {bootstrapper : Bootstrapper}
    (fresh : Fresh params bootstrapper u) {σ : Type} (peers : Peers outside σ) (m : Moment σ)
    (ready : (u.begun.prepareEnvironment.run peers m).1.1 = .ok ()) :
    let before := u.begun.prepareEnvironment.trace peers m
    ∃ stages after, u.deploy.trace peers m = before ++ after ∧
      u.Proceeds stages before after (u.deploy.run peers m).1 ∧
      Stage.Succession peers (u.begun.prepareEnvironment.run peers m).2 stages
        (u.deploy.run peers m).2 := by
  intro before
  obtain ⟨valid, environment, eq⟩ := fresh.eq
  have untouched : u.state = .empty := by
    rw [eq]
    rfl
  have none : u.clusters = ∅ := by
    rw [eq]
    rfl
  have own : u.params.validate = .ok () := by
    rw [eq]
    exact valid
  have prepared := Procedure.leads_run peers u.begun.prepareEnvironment m
  rw [deploy_eq untouched, Procedure.trace_bind, Procedure.run_bind]
  generalize u.begun.prepareEnvironment.run peers m = p at ready prepared ⊢
  obtain ⟨⟨r, v⟩, m'⟩ := p
  obtain rfl : r = .ok () := ready
  obtain ⟨stages, proceeds, succession⟩ := prepared_proceeds peers own none prepared m'
  exact ⟨stages, _, rfl, proceeds, succession⟩

/-- All containers come up, but the second cluster cannot be bootstrapped. -/
def trioAnswers : (call : Call) → call.Answer
  | .engine (.connect _ _) | .engine (.start _) => .ok ()
  | .bootstrap r => if r.cluster = "beta" then .error (.internal "refused") else .ok ()
  | call => ((Lab.Engine.empty Lab.Engine.defaultInfo []).answerExactly call).1

/-- The first cluster is up by then, the second one has failed, and the third one is not begun. -/
theorem deploy_staged_trio :
    let cluster (name : String) (port : UInt16) := { ClusterParams.named name with
      nodes := [.ofPort port] }
    let params := ((UniverseParams.default.withCluster (cluster "gamma" 9002)).withCluster
      (cluster "alpha" 9000)).withCluster (cluster "beta" 9001)
    let u := inEnvironment params .docker .delegated
    let peers := steadyPeers trioAnswers fun _ => .zero
    let m : Moment Unit := ⟨.zero, ()⟩
    let before := u.begun.prepareEnvironment.trace peers m
    let o := (u.deploy.run peers m).1
    Fresh params .delegated u ∧ (u.begun.prepareEnvironment.run peers m).1.1 = .ok () ∧
      o.1 = .error (.internal "refused") ∧ o.2.clusters.keys = ["alpha", "beta"] ∧
      o.2.state = .deploying ∧
      ∃ alpha beta after, u.deploy.trace peers m = before ++ after ∧
        u.Proceeds [alpha, beta] before after o ∧
        Stage.Succession peers (u.begun.prepareEnvironment.run peers m).2 [alpha, beta]
          (u.deploy.run peers m).2 ∧
        alpha.result = .ok () ∧ beta.result = .error (.internal "refused") := by
  intro cluster params u peers m before o
  have fresh : Fresh params .delegated u :=
    .inl (docker_of_valid (toOption_eq_some.1 (by decide +kernel)) rfl)
  have refused : o.1 = .error (.internal "refused") := by decide +kernel
  have keys : o.2.clusters.keys = ["alpha", "beta"] := by decide +kernel
  obtain ⟨stages, after, calls, proceeds, succession⟩ := deploy_staged fresh peers m rfl
  have named : stages.map (·.fresh.name) = ["alpha", "beta"] := proceeds.keys.symm.trans keys
  obtain ⟨alpha, beta, rfl⟩ : ∃ alpha beta, stages = [alpha, beta] :=
    List.length_eq_two.1 (by simpa using congrArg List.length named)
  have up : alpha.result = .ok () := proceeds.patient alpha (by simp)
  refine ⟨fresh, rfl, refused, keys, proceeds.deploying _ refused, alpha, beta, after, calls,
    proceeds, succession, up, ?_⟩
  cases down : beta.result with
  | ok _ =>
    have ok := (proceeds.succeeds (by simp [up, down])).1
    cases ok.symm.trans refused
  | error e => exact (proceeds.fails beta (by simp) e down).1.symm.trans refused

end Universe

end Testbed
