import Testbed.Proofs.Cluster.Reach
import Testbed.Proofs.Universe.Bystander
import Testbed.Proofs.Universe.Isolation
/-!
# Universes that can be reached

Whatever was done to a universe since it was created, and whoever answered, its clusters are
registered under their own names and all their members were deployed (`Reached.staffed`). So a node is
found by two names, and putting it back changes what is found under these only (`member?_put`).
-/

namespace Testbed

open Procedure (leads_bind leads_map leads_pure)

namespace Universe

/-- A universe was created, and anything may have been done to it since. -/
inductive Reached : Universe → Prop
  | created {params : UniverseParams} {bootstrapper : Bootstrapper} {u : Universe} :
      Fresh params bootstrapper u → u.Reached
  | done {u : Universe} {o : Outcome Universe} {es : List (Event outside)} (deed : Deed) :
      u.Reached → (deed.apply u).Leads es o → o.2.Reached

/-- The clusters are registered under their own names, and their members were deployed. -/
structure Staffed (u : Universe) : Prop where
  registered : u.Registered
  clusters : ∀ e ∈ u.clusters.entries, e.2.Staffed

variable {u : Universe} {c : Cluster Physical} {es : List (Event outside)}

theorem Staffed.put (staffed : u.Staffed) (cluster : c.Staffed) : (u.putCluster c).Staffed where
  registered := staffed.registered.put c
  clusters e mem := by
    rcases Ascending.mem_insert mem with rfl | mem
    · exact cluster
    · exact staffed.clusters e mem

theorem Staffed.of_clusters {v : Universe} (staffed : u.Staffed) (same : v.clusters = u.clusters) :
    v.Staffed where
  registered := staffed.registered.of_clusters same
  clusters := by
    rw [same]
    exact staffed.clusters

theorem Staffed.values (staffed : u.Staffed) : ∀ c ∈ u.clusters.values, c.Staffed := by
  intro c listed
  obtain ⟨e, mem, rfl⟩ := List.mem_map.1 listed
  exact staffed.clusters e mem

/-! ## Deploying -/

theorem deployClusters_staffed {factory : Factory Physical} {rest : List ClusterParams}
    {o : UniverseOutcome Unit} (staffed : u.Staffed)
    (leads : (u.deployClusters factory rest).Leads es o) : o.2.Staffed := by
  induction rest generalizing u es with
  | nil =>
    rw [(leads_pure.1 leads).2]
    exact staffed
  | cons params rest ih =>
    obtain ⟨_, _, c, -, new, leads⟩ := leads_bind.1 leads
    obtain ⟨_, _, stamp, -, -, made⟩ := leads_bind.1 new
    have empty : c.Staffed := by
      rw [(leads_pure.1 made).2]
      exact fun e mem => by cases mem
    obtain ⟨_, _, ⟨r, c'⟩, -, deployed, leads⟩ := leads_bind.1 leads
    have put := (staffed.put empty).put (Cluster.deploy_staffed empty deployed)
    cases r with
    | ok _ => exact ih put leads
    | error e =>
      rw [(leads_pure.1 leads).2]
      exact put

theorem deploy_staffed {o : UniverseOutcome Unit} (staffed : u.Staffed)
    (leads : u.deploy.Leads es o) : o.2.Staffed := by
  unfold deploy beginDeploy at leads
  by_cases untouched : u.state = .empty
  · rw [if_pos untouched] at leads
    obtain ⟨_, _, ⟨prepared, v⟩, -, prepares, leads⟩ := leads_bind.1 leads
    have staffed_v : v.Staffed := staffed.of_clusters (prepareEnvironment_clusters prepares)
    cases prepared with
    | error e =>
      rw [(leads_pure.1 leads).2]
      exact staffed_v
    | ok _ =>
      obtain ⟨_, _, ⟨deployed, w⟩, -, deploys, leads⟩ := leads_bind.1 leads
      have staffed_w : w.Staffed := deployClusters_staffed staffed_v deploys
      cases deployed with
      | error e =>
        rw [(leads_pure.1 leads).2]
        exact staffed_w
      | ok _ =>
        rw [(leads_pure.1 leads).2]
        exact staffed_w.of_clusters rfl
  · rw [if_neg untouched] at leads
    rw [(leads_pure.1 leads).2]
    exact staffed

/-! ## Tearing down -/

theorem tearDown_staffed {act : Turn}
    (acts : ∀ c es o, c.Staffed → (act c).Leads es o → o.2.Staffed) {summary : TeardownSummary}
    {rest : List (Cluster Physical)} {o : TeardownSummary × Universe} (staffed : u.Staffed)
    (clusters : ∀ c ∈ rest, c.Staffed) (leads : (u.tearDown act summary rest).Leads es o) :
    o.2.Staffed := by
  induction rest generalizing u es summary with
  | nil =>
    rw [(leads_pure.1 leads).2]
    exact staffed
  | cons c rest ih =>
    obtain ⟨_, _, r, -, acted, leads⟩ := leads_bind.1 leads
    have cluster := acts c _ r (clusters c List.mem_cons_self) acted
    exact ih (staffed.put cluster) (fun c' mem => clusters c' (List.mem_cons_of_mem _ mem)) leads

theorem beginTeardown_staffed {next : UniverseState} {operation : String} {v : Universe}
    (staffed : u.Staffed) (admitted : u.beginTeardown next operation = .ok v) : v.Staffed := by
  unfold beginTeardown at admitted
  split at admitted
  · cases admitted
  · cases admitted
    exact staffed.of_clusters rfl

theorem shutDown_staffed {o : UniverseOutcome TeardownSummary} (staffed : u.Staffed)
    (leads : u.shutDown.Leads es o) : o.2.Staffed := by
  unfold shutDown at leads
  cases admitted : u.beginTeardown .shutDown "shut down" with
  | error e =>
    rw [admitted] at leads
    rw [(leads_pure.1 leads).2]
    exact staffed
  | ok v =>
    rw [admitted] at leads
    have staffed_v := beginTeardown_staffed staffed admitted
    obtain ⟨_, _, torn, -, tears, last⟩ := leads_bind.1 leads
    rw [(leads_pure.1 last).2]
    refine tearDown_staffed (fun c _ _ cluster stopped => ?_) staffed_v staffed_v.values tears
    exact Cluster.performAll_staffed cluster cluster stopped

theorem destroy_staffed {o : UniverseOutcome TeardownSummary} (staffed : u.Staffed)
    (leads : u.destroy.Leads es o) : o.2.Staffed := by
  unfold destroy at leads
  cases admitted : u.beginTeardown .destroyed "destroy" with
  | error e =>
    rw [admitted] at leads
    rw [(leads_pure.1 leads).2]
    exact staffed
  | ok v =>
    rw [admitted] at leads
    have staffed_v := beginTeardown_staffed staffed admitted
    obtain ⟨_, _, torn, -, tears, leads⟩ := leads_bind.1 leads
    obtain ⟨_, _, _, -, -, last⟩ := leads_bind.1 leads
    rw [(leads_pure.1 last).2]
    refine tearDown_staffed (fun c _ _ cluster destroyed => ?_) staffed_v staffed_v.values tears
    exact Cluster.destroyAll_staffed cluster cluster destroyed

theorem onCluster_staffed {key : String} {act : Cluster.Act} {o : Outcome Universe}
    (staffed : u.Staffed) (leads : (u.onCluster key act).Leads es o) : o.2.Staffed := by
  unfold onCluster at leads
  cases found : u.clusters.find? key with
  | none =>
    rw [found] at leads
    rw [(leads_pure.1 leads).2]
    exact staffed
  | some c =>
    rw [found] at leads
    obtain ⟨r, applied, rfl⟩ := leads_map.1 leads
    have cluster : c.Staffed := staffed.clusters _ (NameMap.mem_entries.2 found)
    exact staffed.put (Cluster.apply_staffed cluster applied)

end Universe

/-! ## The fault loop -/

namespace FaultLoop

variable {u : Universe} {c : Cluster Physical} {key : String} {node : Node Physical}
  {es : List (Event outside)}

theorem performIn_staffed {op : Operation} {o : Except Error Unit × Node Physical × Universe}
    (staffed : u.Staffed) (cluster : c.Staffed) (reached : Backend.Reached node.backend)
    (leads : (performIn u c key op node).Leads es o) :
    Backend.Reached o.2.1.backend ∧ o.2.2.Staffed := by
  obtain ⟨_, _, r, -, acted, last⟩ := leads_bind.1 leads
  rw [(leads_pure.1 last).2]
  have after := Node.act_reached (.perform op) reached acted
  exact ⟨after, staffed.put (cluster.insert after)⟩

theorem suffer_staffed {hold : Duration} {fault : Fault} {o : UniverseOutcome Unit}
    (staffed : u.Staffed) (cluster : c.Staffed) (reached : Backend.Reached node.backend)
    (leads : (suffer u hold c key node fault).Leads es o) : o.2.Staffed := by
  obtain ⟨_, _, ⟨r, node', u'⟩, -, injected, leads⟩ := leads_bind.1 leads
  obtain ⟨reached', staffed'⟩ := performIn_staffed staffed cluster reached injected
  cases r with
  | error e =>
    rw [(leads_pure.1 leads).2]
    exact staffed'
  | ok _ =>
    obtain ⟨_, _, _, -, -, leads⟩ := leads_bind.1 leads
    obtain ⟨_, _, healed, -, heals, last⟩ := leads_bind.1 leads
    rw [(leads_pure.1 last).2]
    exact (performIn_staffed staffed' cluster reached' heals).2

theorem round_staffed {hold : Duration} {o : UniverseOutcome Unit} (staffed : u.Staffed)
    (leads : (round u hold).Leads es o) : o.2.Staffed := by
  obtain ⟨_, _, picked, -, picks, leads⟩ := leads_bind.1 leads
  cases picked with
  | none =>
    rw [(leads_pure.1 leads).2]
    exact staffed
  | some x =>
    obtain ⟨c, key, node⟩ := x
    obtain ⟨listed, mem⟩ := Universe.mem_nodes.1 (pick_mem picks)
    have cluster : c.Staffed := staffed.values c listed
    obtain ⟨_, _, picked, -, -, leads⟩ := leads_bind.1 leads
    cases picked with
    | none =>
      rw [(leads_pure.1 leads).2]
      exact staffed
    | some fault => exact suffer_staffed staffed cluster (cluster (key, node) mem) leads

theorem run_staffed {interval : Duration} {rounds : Nat} {v : Universe} (staffed : u.Staffed)
    (leads : (run interval rounds u).Leads es v) : v.Staffed := by
  induction rounds generalizing u es with
  | zero =>
    rw [(leads_pure.1 leads).2]
    exact staffed
  | succ rounds ih =>
    obtain ⟨_, _, told, -, -, leads⟩ := leads_bind.1 leads
    cases told with
    | true =>
      rw [(leads_pure.1 leads).2]
      exact staffed
    | false =>
      obtain ⟨_, _, r, -, passed, leads⟩ := leads_bind.1 leads
      exact ih (round_staffed staffed passed) leads

end FaultLoop

/-! ## Whatever was done -/

namespace Universe

variable {u : Universe} {c : Cluster Physical} {es : List (Event outside)}

theorem deed_staffed {deed : Deed} {o : Outcome Universe} (staffed : u.Staffed)
    (leads : (deed.apply u).Leads es o) : o.2.Staffed := by
  cases deed with
  | deploy => exact deploy_staffed staffed leads
  | shutDown =>
    obtain ⟨r, torn, rfl⟩ := leads_map.1 leads
    exact shutDown_staffed staffed torn
  | destroy =>
    obtain ⟨r, torn, rfl⟩ := leads_map.1 leads
    exact destroy_staffed staffed torn
  | onCluster key act => exact onCluster_staffed staffed leads
  | faults interval rounds =>
    obtain ⟨v, passed, rfl⟩ := leads_map.1 leads
    exact FaultLoop.run_staffed staffed passed
  | look cluster node =>
    obtain ⟨_, -, rfl⟩ := leads_map.1 leads
    exact staffed

theorem Reached.staffed (reached : u.Reached) : u.Staffed := by
  induction reached with
  | created fresh =>
    obtain ⟨-, environment, rfl⟩ := fresh.eq
    exact ⟨registered_inEnvironment, fun e mem => by cases mem⟩
  | done deed _ leads ih => exact deed_staffed ih leads

end Universe

end Testbed
