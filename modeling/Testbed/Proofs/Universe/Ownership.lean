import Testbed.FaultLoop
import Testbed.Proofs.Cluster.Ownership
import Testbed.Proofs.Universe.Deployment
/-!
# Universes own their containers

What the clusters of a universe own is what the universe owns. A cluster that is acted upon is put
back under its own name (`Tracked.put`), and the names of the clusters of valid parameters are
distinct, so that no cluster ever takes the place of another and everything stays accounted for:
through the deployment, the teardowns and the rounds of the fault loop.
-/

namespace Testbed

open Lab (Engine)

namespace Universe

def Owns (u : Universe) (name : String) : Prop :=
  ∃ key c, u.clusters.find? key = some c ∧ c.Owns name

/-- Other clusters than that of the key own the container. -/
def OthersOwn (u : Universe) (key name : String) : Prop :=
  ∃ key' c, key' ≠ key ∧ u.clusters.find? key' = some c ∧ c.Owns name

structure Sound (state : UniverseState) (u : Universe) : Prop where
  state : u.state = state
  clusters : ∀ key c, u.clusters.find? key = some c → c.Sound key

/-- A universe owns all containers that were created. -/
structure Tracked (state : UniverseState) (u : Universe) (s : Engine × List (Event outside)) :
    Prop extends Sound state u where
  accounted : Accounted u.Owns s

variable {state : UniverseState} {key name : String} {u : Universe} {c : Cluster Physical}
  {s t : Engine × List (Event outside)} {es : List (Event outside)}

theorem Tracked.idle {α : Type} {p : Work α} (tracked : u.Tracked state s) (within : p.Idle) :
    p.Ends s fun _ t => u.Tracked state t :=
  (tracked.accounted.idle within).mono fun _ _ acc => { tracked with accounted := acc }

/-- What is owned is owned by the cluster of a key or by others. -/
theorem owns_or (own : u.Owns name) :
    u.OthersOwn key name ∨ ∃ c, u.clusters.find? key = some c ∧ c.Owns name := by
  obtain ⟨key', c, found, own⟩ := own
  by_cases same : key' = key
  · exact .inr ⟨c, same ▸ found, own⟩
  · exact .inl ⟨key', c, same, found, own⟩

theorem Tracked.cluster (tracked : u.Tracked state s) (found : u.clusters.find? key = some c) :
    c.Tracked key (u.OthersOwn key) s where
  toSound := tracked.clusters key c found
  accounted := by
    refine tracked.accounted.mono fun name own => (owns_or own).imp_right ?_
    rintro ⟨c', found', own⟩
    cases found.symm.trans found'
    exact own

theorem othersOwn_putCluster (same : c.name = key) :
    (u.putCluster c).OthersOwn key = u.OthersOwn key := by
  funext name
  unfold OthersOwn
  simp only [find?_putCluster, same, eq_iff_iff]
  constructor
  · rintro ⟨key', c', other, found, own⟩
    rw [if_neg other] at found
    exact ⟨key', c', other, found, own⟩
  · rintro ⟨key', c', other, found, own⟩
    exact ⟨key', c', other, by rwa [if_neg other], own⟩

theorem Sound.put (sound : u.Sound state) (cluster : c.Sound key) :
    (u.putCluster c).Sound state where
  state := sound.state
  clusters key' c' found := by
    rw [find?_putCluster, cluster.name] at found
    split at found
    · rename_i same
      cases found
      rwa [same]
    · exact sound.clusters key' c' found

theorem Tracked.put (sound : u.Sound state) (cluster : c.Tracked key (u.OthersOwn key) t) :
    (u.putCluster c).Tracked state t where
  toSound := sound.put cluster.toSound
  accounted := by
    refine cluster.accounted.mono fun name own => ?_
    rcases own with ⟨key', c', other, found, own⟩ | own
    · refine ⟨key', c', ?_, own⟩
      rwa [find?_putCluster, cluster.name, if_neg other]
    · refine ⟨key, c, ?_, own⟩
      rw [find?_putCluster, cluster.name, if_pos rfl]

theorem mem_nodes {m : Cluster Physical × String × Node Physical} :
    m ∈ u.nodes ↔ m.1 ∈ u.clusters.values ∧ m.2 ∈ m.1.members.entries := by
  unfold nodes
  simp only [List.mem_flatMap, List.mem_map]
  constructor
  · rintro ⟨c, listed, e, mem, rfl⟩
    exact ⟨listed, mem⟩
  · rintro ⟨listed, mem⟩
    exact ⟨m.1, listed, m.2, mem, rfl⟩

/-! ## Deploying -/

theorem newCluster_tracked {factory : Factory Physical} {params : ClusterParams}
    (contained : ∀ stamp, ClusterSetting.Contained
      ⟨factory, u.bootstrapper, u.params.logRoot, u.params.service.name, stamp⟩)
    (tracked : u.Tracked state s) (vacant : u.clusters.find? params.name = none) :
    (u.newCluster factory params).Ends s fun c t =>
      c.Tracked params.name (u.OthersOwn params.name) t := by
  refine Procedure.ensures_bind.2 ?_
  have asked : (Procedure.ask (I := outside) .timeStamp).Idle :=
    Procedure.within_ask.2 id
  refine (tracked.idle asked).mono fun stamp t tracked => ?_
  refine ⟨⟨contained stamp, rfl, fun name n found => ?_⟩, ?_⟩
  · cases found
  · refine tracked.accounted.mono fun name own => .inl ((owns_or own).resolve_right ?_)
    rintro ⟨c, found, -⟩
    cases vacant.symm.trans found

theorem deployClusters_tracked {factory : Factory Physical} {rest : List ClusterParams}
    (contained : ∀ stamp, ClusterSetting.Contained
      ⟨factory, u.bootstrapper, u.params.logRoot, u.params.service.name, stamp⟩)
    (tracked : u.Tracked state s) (distinct : (rest.map (·.name)).Nodup)
    (vacant : ∀ params ∈ rest, u.clusters.find? params.name = none) :
    (u.deployClusters factory rest).Ends s fun o t => o.2.Tracked state t := by
  induction rest generalizing u s with
  | nil => exact tracked
  | cons params rest ih =>
    obtain ⟨notLater, distinct⟩ := List.nodup_cons.1 distinct
    have new := newCluster_tracked contained tracked (vacant params List.mem_cons_self)
    refine Procedure.ensures_bind.2 (new.mono fun c t new => ?_)
    -- the cluster is registered before it is deployed, and once more afterwards
    have registered := Tracked.put tracked.toSound new
    have found : (u.putCluster c).clusters.find? params.name = some c := by
      rw [find?_putCluster, new.name, if_pos rfl]
    have own := registered.cluster found
    refine Procedure.ensures_bind.2 ((Cluster.deploy_tracked own).mono ?_)
    rintro ⟨r, c'⟩ v deployed
    have done := Tracked.put registered.toSound deployed
    cases r with
    | error e => exact done
    | ok _ =>
      refine ih contained done distinct fun params' mem => ?_
      have other : params'.name ≠ params.name :=
        fun same => notLater (List.mem_map.2 ⟨params', mem, same⟩)
      rw [find?_putCluster, deployed.name, if_neg other, find?_putCluster, new.name, if_neg other]
      exact vacant params' (List.mem_cons_of_mem _ mem)

theorem containers_contained (params : UniverseParams) {bootstrapper : Bootstrapper}
    (idle : ∀ r, (bootstrapper r).run.Idle) (logRoot service stamp : String) :
    ClusterSetting.Contained
      ⟨(Factory.containers params.service params.networkName).map .container, bootstrapper, logRoot,
        service, stamp⟩ where
  inTurn := rfl
  backend node dir b made := by
    cases made
    exact ⟨_, rfl, rfl⟩
  bootstrapper := idle

theorem deploy_tracked {params : UniverseParams} {bootstrapper : Bootstrapper}
    (idle : ∀ r, (bootstrapper r).run.Idle)
    (distinct : (params.clusters.values.map (·.name)).Nodup)
    (acc : Accounted (fun _ => False) s) :
    (inEnvironment params .docker bootstrapper).deploy.Ends s fun o t =>
      ∃ state, state ≠ .destroyed ∧ o.2.Tracked state t := by
  let u : Universe := { inEnvironment params .docker bootstrapper with state := .deploying }
  have begun : u.Tracked .deploying s := by
    refine ⟨⟨rfl, fun key c found => ?_⟩, acc.mono fun _ => False.elim⟩
    cases found
  have asked : (askEngine (.ensureNetwork params.networkName)).Idle :=
    Procedure.within_ask.2 id
  refine Procedure.ensures_bind.2 (Procedure.ensures_bind.2 ((begun.idle asked).mono ?_))
  intro r t prepared
  cases r with
  | error e => exact ⟨.deploying, by simp, prepared⟩
  | ok _ =>
    have deployed := deployClusters_tracked (containers_contained params idle _ _) prepared
      distinct fun _ _ => rfl
    refine Procedure.ensures_bind.2 (deployed.mono ?_)
    rintro ⟨r, u'⟩ v tracked
    cases r with
    | error e => exact ⟨.deploying, by simp, tracked⟩
    | ok _ =>
      exact ⟨.bootstrapped, by simp, ⟨⟨rfl, tracked.clusters⟩, tracked.accounted⟩⟩

/-! ## Tearing down -/

theorem Sound.values (sound : u.Sound state) : (u.clusters.values.map (·.name)).Nodup ∧
    ∀ c ∈ u.clusters.values, u.clusters.find? c.name = some c := by
  have found (e) (mem : e ∈ u.clusters.entries) : u.clusters.find? e.1 = some e.2 :=
    NameMap.mem_entries.1 mem
  constructor
  · have keys : u.clusters.values.map (·.name) = u.clusters.keys := by
      unfold NameMap.values NameMap.keys
      rw [List.map_map]
      refine List.map_congr_left fun e mem => ?_
      exact (sound.clusters e.1 e.2 (found e mem)).name
    rw [keys]
    exact u.clusters.keys_nodup
  · intro c listed
    obtain ⟨e, mem, rfl⟩ := List.mem_map.1 listed
    rw [(sound.clusters e.1 e.2 (found e mem)).name]
    exact found e mem

theorem tearDown_tracked
    {act : Cluster Physical → Work (TeardownSummary × Cluster Physical)}
    (acts : ∀ key others (c : Cluster Physical) s, c.Tracked key others s →
      (act c).Ends s fun o t => o.2.Tracked key others t)
    {summary : TeardownSummary} {rest : List (Cluster Physical)} (tracked : u.Tracked state s)
    (distinct : (rest.map (·.name)).Nodup)
    (present : ∀ c ∈ rest, u.clusters.find? c.name = some c) :
    (u.tearDown act summary rest).Ends s fun o t => o.2.Tracked state t := by
  induction rest generalizing u s summary with
  | nil => exact tracked
  | cons c rest ih =>
    obtain ⟨notLater, distinct⟩ := List.nodup_cons.1 distinct
    have own := tracked.cluster (present c List.mem_cons_self)
    refine Procedure.ensures_bind.2 ((acts _ _ c s own).mono fun o t torn => ?_)
    refine ih (Tracked.put tracked.toSound torn) distinct fun c' mem => ?_
    have other : c'.name ≠ c.name := fun same => notLater (List.mem_map.2 ⟨c', mem, same⟩)
    rw [find?_putCluster, torn.name, if_neg other]
    exact present c' (List.mem_cons_of_mem _ mem)

theorem shutDown_tracked (tracked : u.Tracked state s) (live : state ≠ .destroyed) :
    u.shutDown.Ends s fun o t => ∃ state, state ≠ .destroyed ∧ o.2.Tracked state t := by
  unfold shutDown
  by_cases refused : u.state = .shutDown ∨ u.state = .destroyed
  · rw [beginTeardown, if_pos refused]
    exact ⟨state, live, tracked⟩
  · rw [beginTeardown, if_neg refused]
    have down : Tracked .shutDown { u with state := .shutDown } s :=
      ⟨⟨rfl, tracked.clusters⟩, tracked.accounted⟩
    obtain ⟨distinct, present⟩ := tracked.values
    refine Procedure.ensures_bind.2 ?_
    refine (tearDown_tracked (fun _ _ _ _ => Cluster.stop_tracked) down distinct present).mono ?_
    exact fun o t tracked => ⟨.shutDown, by simp, tracked⟩

end Universe

/-! ## The fault loop -/

namespace FaultLoop

open Universe (Tracked)

variable {state : UniverseState} {key name : String} {u : Universe} {c : Cluster Physical}
  {node : Node Physical} {s : Engine × List (Event outside)}

theorem awaitShutdown_idle (limit : Duration) : (awaitShutdown limit).Idle :=
  Procedure.within_ask.2 id

theorem pick_idle {α : Type} (l : List α) : (pick l).Idle := by
  cases l with
  | nil => exact Procedure.within_pure _
  | cons a rest =>
    exact Procedure.Within.bind (Procedure.within_ask.2 id) fun _ => Procedure.within_pure _

theorem pick_mem {α : Type} {l : List α} {a : α} {es : List (Event outside)}
    (leads : (pick l).Leads es (some a)) : a ∈ l := by
  cases l with
  | nil => cases (Procedure.leads_pure.1 leads).2
  | cons b rest =>
    obtain ⟨_, _, i, -, -, leads⟩ := Procedure.leads_bind.1 leads
    cases (Procedure.leads_pure.1 leads).2
    exact List.get_mem _ _

/-- The cluster is one that the universe has, up to the member that is acted upon. -/
theorem performIn_tracked {op : Operation} (sound : u.Sound state)
    (cluster : c.Tracked key (u.OthersOwn key) s) (is : node.backend.Contains name)
    (own : c.Owns name) :
    (performIn u c name op node).Ends s fun o t => o.2.1.backend.Contains name ∧
      o.2.2.Tracked state t ∧ c.Tracked key (o.2.2.OthersOwn key) t := by
  refine Procedure.ensures_bind.2 ?_
  refine (Node.perform_accounted is cluster.accounted (.inr own)).mono ?_
  rintro ⟨r, node'⟩ t ⟨is, acc⟩
  have put := Tracked.put sound (cluster.insert is (acc.mono fun _ => .inl))
  have same : Universe.OthersOwn (u.putCluster { c with members := c.members.insert name node' })
      key = u.OthersOwn key := Universe.othersOwn_putCluster cluster.name
  refine ⟨is, put, ?_⟩
  dsimp only
  rw [same]
  exact cluster.later acc

theorem suffer_tracked {hold : Duration} {fault : Fault} (tracked : u.Tracked state s)
    (found : u.clusters.find? key = some c) (is : node.backend.Contains name)
    (own : c.Owns name) :
    (suffer u hold c name node fault).Ends s fun o t => o.2.Tracked state t := by
  refine Procedure.ensures_bind.2 ?_
  refine (performIn_tracked tracked.toSound (tracked.cluster found) is own).mono ?_
  rintro ⟨r, node', u'⟩ t ⟨is, tracked, cluster⟩
  cases r with
  | error e => exact tracked
  | ok _ =>
    refine Procedure.ensures_bind.2 (Procedure.ensures_map.2 ?_)
    refine (cluster.idle (awaitShutdown_idle hold)).mono fun _ v cluster => ?_
    refine Procedure.ensures_bind.2 ((performIn_tracked tracked.toSound cluster is own).mono ?_)
    exact fun o w h => h.2.1

theorem round_tracked {hold : Duration} (tracked : u.Tracked state s) :
    (round u hold).Ends s fun o t => o.2.Tracked state t := by
  refine Procedure.ensures_bind.2 ((tracked.idle (pick_idle _)).leads.mono ?_)
  rintro picked t ⟨tracked, es, leads⟩
  cases picked with
  | none => exact tracked
  | some m =>
    obtain ⟨c, name, node⟩ := m
    obtain ⟨listed, mem⟩ := Universe.mem_nodes.1 (pick_mem leads)
    have found := tracked.values.2 c listed
    obtain ⟨is, own⟩ := (tracked.clusters c.name c found).entries (name, node) mem
    refine Procedure.ensures_bind.2 ((tracked.idle (pick_idle _)).mono fun picked u tracked => ?_)
    cases picked with
    | none => exact tracked
    | some fault => exact suffer_tracked tracked found is own

theorem run_tracked {interval : Duration} {rounds : Nat} (tracked : u.Tracked state s) :
    (run interval rounds u).Ends s fun u t => u.Tracked state t := by
  induction rounds generalizing u s with
  | zero => exact tracked
  | succ rounds ih =>
    refine Procedure.ensures_bind.2 ((tracked.idle (awaitShutdown_idle _)).mono ?_)
    intro told t tracked
    cases told with
    | true => exact tracked
    | false => exact Procedure.ensures_bind.2 ((round_tracked tracked).mono fun o v => ih)

end FaultLoop

end Testbed
