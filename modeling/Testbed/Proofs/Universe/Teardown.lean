import Testbed.Proofs.Universe.Creation
import Testbed.Proofs.Universe.Ownership
/-!
# What the end of a universe leaves

After a deployment, whatever came of it, and anything that is done to the clusters afterwards, a
universe that is destroyed leaves no container that nobody knows of: one that it created and that is
still there belongs to a member that was counted as a failure, or the deployment that created it
could not remove it (`lifetime_settles`).
-/

namespace Testbed

open Lab (Engine)
open Lab.Engine (Faulty)

namespace Universe

variable {state : UniverseState} {key name : String} {u : Universe} {c : Cluster Physical}
  {s t : Engine × List (Event outside)} {es : List (Event outside)}

/-! ## Counting what stays -/

theorem length_nodes_putCluster {c' : Cluster Physical}
    (found : u.clusters.find? c'.name = some c) :
    (u.putCluster c').nodes.length + c.members.entries.length =
      u.nodes.length + c'.members.entries.length := by
  have replaced := u.clusters.length_flatMap_insert (w := c')
    (fun c => c.members.entries.map fun m => (c, m.1, m.2)) found
  simpa only [nodes, putCluster, List.length_map] using replaced

/-- Of the clusters that are torn down, the members that stay are counted as failures. -/
theorem tearDown_counts {summary : TeardownSummary} {rest : List (Cluster Physical)}
    {o : TeardownSummary × Universe}
    (leads : (u.tearDown Cluster.destroy summary rest).Leads es o)
    (distinct : (rest.map (·.name)).Nodup)
    (present : ∀ c ∈ rest, u.clusters.find? c.name = some c) :
    o.1.failures + u.nodes.length =
      summary.failures + (rest.flatMap (·.members.entries)).length + o.2.nodes.length := by
  induction rest generalizing u es summary with
  | nil =>
    rw [(Procedure.leads_pure.1 leads).2]
    rfl
  | cons c rest ih =>
    obtain ⟨notLater, distinct⟩ := List.nodup_cons.1 distinct
    obtain ⟨_, _, ⟨s, c'⟩, -, destroyed, leads⟩ := Procedure.leads_bind.1 leads
    have failures : s.failures = c'.members.entries.length := Cluster.destroy_counts destroyed
    have same : c'.name = c.name := Cluster.destroyAll_name destroyed
    have found := present c List.mem_cons_self
    have replaced := length_nodes_putCluster (same ▸ found)
    have counted := ih leads distinct fun d mem => by
      have other : d.name ≠ c.name := fun eq => notLater (List.mem_map.2 ⟨d, mem, eq⟩)
      rw [find?_putCluster, same, if_neg other]
      exact present d (List.mem_cons_of_mem _ mem)
    simp only [TeardownSummary.merge] at counted
    simp only [List.flatMap_cons, List.length_append]
    omega

/-- Of the clusters that are torn down, the members stay that could not be removed. -/
theorem tearDown_failed {summary : TeardownSummary} {rest : List (Cluster Physical)}
    {o : TeardownSummary × Universe}
    (leads : (u.tearDown Cluster.destroy summary rest).Leads es o)
    (sound : ∀ c ∈ rest, c.Sound c.name) (found : o.2.clusters.find? key = some c)
    (own : c.Owns name) :
    RemovalFailed name es ∨ u.clusters.find? key = some c ∧ key ∉ rest.map (·.name) := by
  induction rest generalizing u es summary with
  | nil =>
    rw [(Procedure.leads_pure.1 leads).2] at found
    exact .inr ⟨found, by simp⟩
  | cons d rest ih =>
    obtain ⟨fs, gs, ⟨s, d'⟩, rfl, destroyed, leads⟩ := Procedure.leads_bind.1 leads
    have same : d'.name = d.name := Cluster.destroyAll_name destroyed
    have stays := ih leads fun c mem => sound c (List.mem_cons_of_mem _ mem)
    rcases stays with failed | ⟨before, notLater⟩
    · exact .inl (removalFailed_append.2 (.inr failed))
    · rw [find?_putCluster, same] at before
      split at before
      · cases before
        have failed := Cluster.destroy_failed (sound d List.mem_cons_self) destroyed own
        exact .inl (removalFailed_append.2 (.inl failed))
      · rename_i other
        exact .inr ⟨before, by simp_all⟩

theorem releaseEnvironment_idle : u.releaseEnvironment.Idle := by
  unfold releaseEnvironment
  split
  · exact Procedure.Within.map (Procedure.within_ask.2 id) _
  · exact Procedure.within_pure ()

theorem tearDown_settles (tracked : u.Tracked state s) :
    (u.tearDown Cluster.destroy .empty u.clusters.values).Ends s fun o t =>
      o.2.Tracked state t ∧ ∃ es, t.2 = s.2 ++ es ∧ o.1.failures = o.2.nodes.length ∧
        ∀ name, o.2.Owns name → RemovalFailed name es := by
  obtain ⟨distinct, present⟩ := tracked.values
  have torn := @tearDown_tracked state u s Cluster.destroy
    (fun _ _ _ _ => Cluster.destroy_tracked) .empty _ tracked distinct present
  refine torn.trace.mono ?_
  rintro o t ⟨tracked', es, grown, leads⟩
  refine ⟨tracked', es, grown, ?_, ?_⟩
  · have counted := tearDown_counts leads distinct present
    have all : (u.clusters.values.flatMap (·.members.entries)).length = u.nodes.length := by
      simp only [nodes, List.length_flatMap, List.length_map]
    simp only [TeardownSummary.empty] at counted
    omega
  · rintro name ⟨key, c, found, own⟩
    have sound (c) (mem : c ∈ u.clusters.values) := tracked.clusters _ c (present c mem)
    have stays := tearDown_failed leads sound found own
    refine stays.resolve_right ?_
    rintro ⟨before, notListed⟩
    refine notListed (List.mem_map.2 ⟨c, ?_, (tracked.clusters key c before).name⟩)
    exact List.mem_map.2 ⟨(key, c), NameMap.mem_entries.2 before, rfl⟩

/-- A universe that is not destroyed yet can be destroyed, and what stays is counted. -/
theorem destroy_settles (tracked : u.Tracked state s) (live : state ≠ .destroyed) :
    u.destroy.Ends s fun o t => ∃ summary es, o.1 = .ok summary ∧ t.2 = s.2 ++ es ∧
      summary.failures = o.2.nodes.length ∧ (∀ name, o.2.Owns name → RemovalFailed name es) ∧
      o.2.Tracked .destroyed t := by
  have possible : ¬(u.state = .destroyed ∨ u.state = .destroyed) := by
    rw [or_self, tracked.state]
    exact live
  have down : Tracked .destroyed { u with state := .destroyed } s :=
    ⟨⟨rfl, tracked.clusters⟩, tracked.accounted⟩
  unfold destroy
  rw [beginTeardown, if_neg possible]
  refine Procedure.ensures_bind.2 ((tearDown_settles down).mono ?_)
  rintro ⟨summary, u'⟩ t ⟨tracked', es, grown, counted, failed⟩
  refine Procedure.ensures_bind.2 ((tracked'.idle releaseEnvironment_idle).trace.mono ?_)
  rintro _ v ⟨tracked', fs, grown', -⟩
  refine ⟨summary, es ++ fs, rfl, ?_, counted, fun name own => ?_, tracked'⟩
  · rw [grown', grown, List.append_assoc]
  · exact removalFailed_append.2 (.inl (failed name own))

end Universe

/-! ## A whole life -/

/-- What is done to a universe between its deployment and its end. -/
inductive Universe.Act where
  | shutDown
  | onCluster (name : String) (act : Cluster.Act)
  | faults (interval : Duration) (rounds : Nat)
  /-- Anything else, as long as it creates no container. -/
  | aside (p : Work Unit) (idle : p.Idle)

namespace Universe

/-- Does something to a cluster and puts it back in its place. -/
def onCluster (u : Universe) (name : String) (act : Cluster.Act) : Work (Outcome Universe) :=
  match u.clusters.find? name with
  | none => return (.ok (), u)
  | some c => (fun o => (o.1, u.putCluster o.2)) <$> act.apply c

def Act.apply : Act → Universe → Work (Outcome Universe)
  | .shutDown, u => (fun o => (o.1.map fun _ => (), o.2)) <$> u.shutDown
  | .onCluster name act, u => u.onCluster name act
  | .faults interval rounds, u => (fun u => (.ok (), u)) <$> FaultLoop.run interval rounds u
  | .aside p _, u => (fun _ => (.ok (), u)) <$> p

/-- A deployment, whatever comes of it, and all that is done afterwards. -/
def lifetime (u : Universe) (acts : List Act) : Work Universe := do
  let (_, u) ← u.deploy
  inTurn (acts.map Act.apply) u

variable {state : UniverseState} {u : Universe} {s : Engine × List (Event outside)}

theorem onCluster_tracked {name : String} {act : Cluster.Act} (tracked : u.Tracked state s) :
    (u.onCluster name act).Ends s fun o t => o.2.Tracked state t := by
  unfold onCluster
  split
  · exact tracked
  · rename_i c found
    have applied : (act.apply c).Ends s _ := Cluster.apply_tracked (tracked.cluster found)
    exact Procedure.ensures_map.2 (applied.mono fun o t => Tracked.put tracked.toSound)

theorem act_tracked {act : Act} (tracked : u.Tracked state s) (live : state ≠ .destroyed) :
    (act.apply u).Ends s fun o t => ∃ state, state ≠ .destroyed ∧ o.2.Tracked state t := by
  cases act with
  | shutDown => exact Procedure.ensures_map.2 (shutDown_tracked tracked live)
  | onCluster name act => exact (onCluster_tracked tracked).mono fun o t h => ⟨state, live, h⟩
  | faults interval rounds =>
    refine Procedure.ensures_map.2 ((FaultLoop.run_tracked tracked).mono fun u t h => ?_)
    exact ⟨state, live, h⟩
  | aside p idle =>
    exact Procedure.ensures_map.2 ((tracked.idle idle).mono fun _ t h => ⟨state, live, h⟩)

/-! ## From the start to the end -/

theorem lifetime_tracked {params : UniverseParams} {bootstrapper : Bootstrapper} {acts : List Act}
    (ready : docker params bootstrapper = .ok u) (idle : ∀ r, (bootstrapper r).run.Idle)
    (acc : Accounted (fun _ => False) s) :
    (u.lifetime acts).Ends s fun u t => ∃ state, state ≠ .destroyed ∧ u.Tracked state t := by
  obtain ⟨valid, rfl⟩ := docker_eq ready
  have deployed := deploy_tracked idle (UniverseParams.nodup_cluster_names valid) acc
  refine Procedure.ensures_bind.2 (deployed.mono fun o t tracked => ?_)
  refine ensures_inTurn (fun apply mem u s h => ?_) tracked
  obtain ⟨act, -, rfl⟩ := List.mem_map.1 mem
  obtain ⟨state, live, tracked⟩ := h
  exact act_tracked tracked live

theorem owns_of_mem_nodes {m : Cluster Physical × String × Node Physical} (sound : u.Sound state)
    (mem : m ∈ u.nodes) : u.Owns m.2.1 := by
  obtain ⟨listed, member⟩ := mem_nodes.1 mem
  exact ⟨_, m.1, sound.values.2 m.1 listed, m.2.2, NameMap.mem_entries.1 member⟩

theorem Sound.mem_nodes_of_owns {name : String} (sound : u.Sound state) (own : u.Owns name) :
    ∃ m ∈ u.nodes, m.2.1 = name ∧ m.2.2.backend.Contains name := by
  obtain ⟨key, c, found, n, member⟩ := own
  have is := (sound.clusters key c found).members name n member
  have listed : c ∈ u.clusters.values :=
    List.mem_map.2 ⟨(key, c), NameMap.mem_entries.2 found, rfl⟩
  exact ⟨(c, name, n), mem_nodes.2 ⟨listed, NameMap.mem_entries.2 member⟩, rfl, is⟩

/-- What a teardown leaves of a universe, given what was called before and during it. -/
structure Settles (summary : TeardownSummary) (u : Universe) (e : Engine)
    (before teardown : List (Event outside)) : Prop where
  counted : summary.failures = u.nodes.length
  failed : ∀ m ∈ u.nodes, RemovalFailed m.2.1 teardown
  accounted : ∀ name, Created name (before ++ teardown) → e.Has name →
    (∃ m ∈ u.nodes, m.2.1 = name ∧ m.2.2.backend.Contains name) ∨
      LeftBehind name (before ++ teardown)
  /-- If all removals succeed, no container is left. -/
  clean : (∀ name, ¬RemovalFailed name (before ++ teardown)) →
    ∀ name, Created name (before ++ teardown) → ¬e.Has name

theorem Tracked.settles {summary : TeardownSummary} {before teardown : List (Event outside)}
    (tracked : u.Tracked state s) (grown : s.2 = before ++ teardown)
    (counted : summary.failures = u.nodes.length)
    (failed : ∀ name, u.Owns name → RemovalFailed name teardown) :
    Settles summary u s.1 before teardown where
  counted := counted
  failed m mem := failed _ (owns_of_mem_nodes tracked.toSound mem)
  accounted name created there := by
    rw [← grown] at created ⊢
    exact (tracked.accounted name created there).imp_left tracked.mem_nodes_of_owns
  clean none name created there := by
    rw [← grown] at created
    rcases tracked.accounted name created there with own | left
    · exact none name (removalFailed_append.2 (.inr (failed name own)))
    · exact none name (grown ▸ left.removalFailed)

theorem lifetime_settles {σ : Type} {peers : Peers outside σ} {view : σ → Engine}
    (obey : peers.Obey view (Faulty fun err => err.isMissing = false)) {params : UniverseParams}
    {bootstrapper : Bootstrapper} (ready : docker params bootstrapper = .ok u)
    (idle : ∀ r, (bootstrapper r).run.Idle) (acts : List Act) (m : Moment σ) :
    let lived := (u.lifetime acts).run peers m
    let ended := lived.1.destroy.run peers lived.2
    ∃ summary, ended.1.1 = .ok summary ∧
      Settles summary ended.1.2 (view ended.2.state) ((u.lifetime acts).trace peers m)
        (lived.1.destroy.trace peers lived.2) := by
  intro lived ended
  have nothing : Accounted (fun _ => False) (view m.state, []) := by
    rintro name ⟨_, mem, -⟩
    cases mem
  have lived_tracked : (u.lifetime acts).Ends _ _ := lifetime_tracked ready idle nothing
  obtain ⟨state, live, tracked⟩ := lived_tracked.run_recorded obey
  obtain ⟨summary, es, ok, grown, counted, failed, tracked'⟩ :=
    (destroy_settles tracked live).run_recorded obey
  rw [← List.append_cancel_left grown] at failed
  exact ⟨summary, ok, tracked'.settles rfl counted failed⟩

/-- A cluster of two nodes that grows by one, loses one and suffers a fault. -/
theorem lifetime_settles_pair :
    let nodes : List NodeParams := [.ofPort 9000, .ofPort 9001]
    let cluster := { ClusterParams.named "alpha" with nodes := nodes }
    let params := UniverseParams.default.withCluster cluster
    let u := inEnvironment params .docker .delegated
    let acts : List Act := [.onCluster "alpha" (.add (.ofPort 9002)),
      .onCluster "alpha" (.onNode "node9000" .destroy), .faults .zero 1, .shutDown]
    let m : Moment Engine := ⟨.zero, Engine.empty Engine.defaultInfo []⟩
    let lived := (u.lifetime acts).run Engine.peers m
    let ended := lived.1.destroy.run Engine.peers lived.2
    docker params .delegated = .ok u ∧ ∃ summary, ended.1.1 = .ok summary ∧
      Settles summary ended.1.2 ended.2.state ((u.lifetime acts).trace Engine.peers m)
        (lived.1.destroy.trace Engine.peers lived.2) := by
  intro nodes cluster params u acts m
  have ready : docker params .delegated = .ok u :=
    docker_of_valid (toOption_eq_some.1 (by decide +kernel)) rfl
  exact ⟨ready, lifetime_settles (fun clock s call => (Engine.peers_obey clock s call).faulty) ready
    Bootstrapper.delegated_idle acts m⟩

end Universe

end Testbed
