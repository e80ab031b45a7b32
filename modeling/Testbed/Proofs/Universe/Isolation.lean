import Mathlib.Algebra.GroupWithZero.Nat
import Testbed.Proofs.Cluster.Fate
import Testbed.Proofs.Cluster.Isolation
import Testbed.Proofs.Engine.Conduct
import Testbed.Proofs.Universe.Deployment
/-!
# Teardowns of a universe

A universe tears its clusters down as these tear their nodes down: each has its turn, in ascending
order of the names, and the universe only adds up what it is told (`Sweeps`). A teardown that is not
refused succeeds whatever happens on the way, and the end of a network comes last and counts for
nothing (`teardowns_isolate_failures`).

That clusters are registered under their own names holds of every universe: of one that nothing was
done to, and through deployments and teardowns (`deploy_registered`, `Sweeps.registered`).
-/

namespace Testbed

namespace Universe

/-- Every cluster is registered under its own name. -/
def Registered (u : Universe) : Prop := ∀ key c, u.clusters.find? key = some c → c.name = key

variable {u u' : Universe} {es : List (Event outside)}

theorem registered_inEnvironment {params : UniverseParams} {environment : Environment}
    {bootstrapper : Bootstrapper} : (inEnvironment params environment bootstrapper).Registered := by
  intro key c found
  cases found

theorem Registered.of_clusters (registered : u.Registered) (same : u'.clusters = u.clusters) :
    u'.Registered := by
  unfold Registered
  rwa [same]

theorem Registered.put (registered : u.Registered) (c : Cluster Physical) :
    (u.putCluster c).Registered := by
  intro key d found
  change (u.clusters.insert c.name c).find? key = some d at found
  rw [NameMap.find?_insert] at found
  split at found
  · rename_i same
    cases found
    exact same.symm
  · exact registered key d found

theorem Registered.values (registered : u.Registered) :
    u.clusters.values.map (·.name) = u.clusters.entries.map (·.1) := by
  unfold NameMap.values
  rw [List.map_map]
  exact List.map_congr_left fun e mem => registered e.1 e.2 (NameMap.mem_entries.1 mem)

/-! ## Deploying -/

theorem prepareEnvironment_clusters {o : UniverseOutcome Unit}
    (leads : u.prepareEnvironment.Leads es o) : o.2.clusters = u.clusters := by
  rw [prepareEnvironment_rest leads]

theorem deployClusters_registered {factory : Factory Physical} {rest : List ClusterParams}
    {o : UniverseOutcome Unit} (registered : u.Registered)
    (leads : (u.deployClusters factory rest).Leads es o) : o.2.Registered := by
  induction rest generalizing u es with
  | nil =>
    rw [(Procedure.leads_pure.1 leads).2]
    exact registered
  | cons params rest ih =>
    obtain ⟨_, _, c, -, -, leads⟩ := Procedure.leads_bind.1 leads
    obtain ⟨_, _, ⟨r, c'⟩, -, -, leads⟩ := Procedure.leads_bind.1 leads
    have put := (registered.put c).put c'
    cases r with
    | ok _ => exact ih put leads
    | error e =>
      rw [(Procedure.leads_pure.1 leads).2]
      exact put

theorem deploy_registered {o : UniverseOutcome Unit} (registered : u.Registered)
    (leads : u.deploy.Leads es o) : o.2.Registered := by
  unfold deploy beginDeploy at leads
  by_cases untouched : u.state = .empty
  · rw [if_pos untouched] at leads
    obtain ⟨_, _, ⟨prepared, v⟩, -, prepares, leads⟩ := Procedure.leads_bind.1 leads
    have registered_v : v.Registered :=
      registered.of_clusters (prepareEnvironment_clusters prepares)
    cases prepared with
    | error e =>
      rw [(Procedure.leads_pure.1 leads).2]
      exact registered_v
    | ok _ =>
      obtain ⟨_, _, ⟨deployed, w⟩, -, deploys, leads⟩ := Procedure.leads_bind.1 leads
      have registered_w : w.Registered := deployClusters_registered registered_v deploys
      cases deployed with
      | error e =>
        rw [(Procedure.leads_pure.1 leads).2]
        exact registered_w
      | ok _ =>
        rw [(Procedure.leads_pure.1 leads).2]
        exact registered_w
  · rw [if_neg untouched] at leads
    rw [(Procedure.leads_pure.1 leads).2]
    exact registered

/-! ## Tearing down -/

/-- What is done to a cluster when its turn comes. -/
abbrev Turn := Cluster Physical → Work (TeardownSummary × Cluster Physical)

variable {σ : Type} {peers : Peers outside σ} {m : Moment σ}

/-- The visits of a teardown, in ascending order of the names of the clusters. -/
def visits (peers : Peers outside σ) (act : Turn) (u : Universe) (m : Moment σ) :
    List (Visit outside σ (Cluster Physical) (TeardownSummary × Cluster Physical)) :=
  Procedure.visits peers act u.clusters.values m

theorem Registered.visits_names {act : Turn} (registered : u.Registered) :
    (u.visits peers act m).map (·.subject.name) = u.clusters.entries.map (·.1) := by
  have inOrder : (u.visits peers act m).map (·.subject) = u.clusters.values :=
    Procedure.visits_subjects
  rw [← registered.values, ← inOrder, List.map_map]
  rfl

theorem Registered.visits_ascending {act : Turn} (registered : u.Registered) :
    (u.visits peers act m).Pairwise fun v w => v.subject.name < w.subject.name := by
  have ascending : (u.clusters.entries.map (·.1)).Pairwise (· < ·) :=
    List.pairwise_map.2 u.clusters.ascending
  rwa [← registered.visits_names, List.pairwise_map] at ascending

theorem visits_named {act : Turn} (keeps : ∀ c m, ((act c).run peers m).1.2.name = c.name) :
    ∀ v ∈ u.visits peers act m, v.result.2.name = v.subject.name := by
  intro v mem
  obtain ⟨-, -, result⟩ := Procedure.of_mem_visits mem
  rw [result]
  exact keeps v.subject v.start

/-- An accepted teardown does the same to every cluster, once and whatever came of the ones before,
and succeeds. What comes last has no part in the result. -/
structure Sweeps (peers : Peers outside σ) (act : Turn) (next : UniverseState)
    (last : List (Event outside) → Prop) (u : Universe)
    (sweep : Work (UniverseOutcome TeardownSummary)) (m : Moment σ) : Prop where
  inOrder : (u.visits peers act m).map (·.subject) = u.clusters.values
  ascending : (u.visits peers act m).Pairwise fun v w => v.subject.name < w.subject.name
  calls : ∃ es, last es ∧
    sweep.trace peers m = (u.visits peers act m).flatMap (·.events) ++ es
  result : (sweep.run peers m).1.1 = .ok ⟨((u.visits peers act m).map (·.result.1.nodes)).sum,
    ((u.visits peers act m).map (·.result.1.failures)).sum⟩
  clusters : (sweep.run peers m).1.2.clusters.entries =
    (u.visits peers act m).map fun v => (v.subject.name, v.result.2)
  named : ∀ v ∈ u.visits peers act m, v.result.2.name = v.subject.name
  /-- Of the universe nothing changes but the state and the clusters. -/
  rest : { (sweep.run peers m).1.2 with clusters := u.clusters } = { u with state := next }

theorem Sweeps.registered {act : Turn} {next : UniverseState} {last : List (Event outside) → Prop}
    {sweep : Work (UniverseOutcome TeardownSummary)}
    (sweeps : u.Sweeps peers act next last sweep m) : (sweep.run peers m).1.2.Registered := by
  intro key c found
  have mem := NameMap.mem_entries.2 found
  rw [sweeps.clusters] at mem
  obtain ⟨v, visited, same⟩ := List.mem_map.1 mem
  cases same
  exact sweeps.named v visited

/-- Adds up what was done to a cluster and puts it back. -/
def note (t : TeardownSummary × Universe) (o : TeardownSummary × Cluster Physical) :
    TeardownSummary × Universe :=
  (t.1.merge o.1, t.2.putCluster o.2)

theorem tearDown_loop (act : Turn) : Procedure.Loop act (fun t _ o => note t o)
    fun t : TeardownSummary × Universe => t.2.tearDown act t.1 where
  nil _ := rfl
  cons _ _ _ := rfl

section

variable {vs : List (Visit outside σ (Cluster Physical) (TeardownSummary × Cluster Physical))}
  {t : TeardownSummary × Universe}

theorem foldl_note_summary : (vs.foldl (fun t v => note t v.result) t).1 =
    ⟨t.1.nodes + (vs.map (·.result.1.nodes)).sum,
      t.1.failures + (vs.map (·.result.1.failures)).sum⟩ := by
  induction vs generalizing t with
  | nil => rfl
  | cons v vs ih =>
    rw [List.foldl_cons, ih]
    simp only [note, TeardownSummary.merge, List.map_cons, List.sum_cons, Nat.add_assoc]

/-- Every cluster is back in its place. -/
theorem foldl_note_clusters (keeps : ∀ v ∈ vs, v.result.2.name = v.subject.name)
    (all : vs.map (·.subject.name) = t.2.clusters.entries.map (·.1)) :
    (vs.foldl (fun t v => note t v.result) t).2.clusters.entries =
      vs.map fun v => (v.subject.name, v.result.2) := by
  let clustersOf (t : TeardownSummary × Universe) := t.2.clusters
  have unvisited : t.2.clusters.entries = [] ++ t.2.clusters.entries := rfl
  calc (vs.foldl (fun t v => note t v.result) t).2.clusters.entries
    _ = (vs.foldl (fun cs v => cs.update v.result.2.name (some v.result.2)) t.2.clusters).entries :=
      congrArg NameMap.entries (List.foldl_hom clustersOf fun _ _ => rfl).symm
    _ = vs.filterMap fun v => some (v.result.2.name, v.result.2) :=
      NameMap.entries_foldl_update unvisited (by rw [← all, List.map_congr_left keeps])
    _ = vs.map fun v => (v.result.2.name, v.result.2) := by rw [List.filterMap_eq_map']
    _ = vs.map fun v => (v.subject.name, v.result.2) :=
      List.map_congr_left fun v mem => by rw [keeps v mem]

theorem foldl_note_rest {cs : NameMap (Cluster Physical)} :
    { (vs.foldl (fun t v => note t v.result) t).2 with clusters := cs } =
      { t.2 with clusters := cs } := by
  induction vs generalizing t with
  | nil => rfl
  | cons v vs ih => exact ih

end

/-- An accepted teardown goes through the clusters and then ends in its own way. -/
theorem Sweeps.of_tearDown {act : Turn} {next : UniverseState}
    {last : List (Event outside) → Prop} {sweep : Work (UniverseOutcome TeardownSummary)}
    (ending : Universe → Work Unit) (registered : u.Registered)
    (keeps : ∀ c m, ((act c).run peers m).1.2.name = c.name)
    (ends : ∀ v es, { v with clusters := u.clusters } = { u with state := next } →
      (ending v).Leads es () → last es)
    (is : sweep = do
      let (s, v) ← { u with state := next }.tearDown act .empty u.clusters.values
      ending v
      return (.ok s, v)) :
    u.Sweeps peers act next last sweep m := by
  let start : TeardownSummary × Universe := (.empty, { u with state := next })
  let torn := start.2.tearDown act start.1 u.clusters.values
  have loop := tearDown_loop act
  have run : (torn.run peers m).1 = _ := loop.run start u.clusters.values m
  have trace : torn.trace peers m = _ := loop.trace start u.clusters.values m
  have outcome : (sweep.run peers m).1 = (.ok (torn.run peers m).1.1, (torn.run peers m).1.2) := by
    rw [is]
    simp only [Procedure.run_bind, Procedure.run_pure]
    rfl
  have rest : { (torn.run peers m).1.2 with clusters := u.clusters } =
      { u with state := next } := by
    rw [run]
    exact foldl_note_rest
  have kept : ∀ v ∈ u.visits peers act m, v.result.2.name = v.subject.name := visits_named keeps
  refine ⟨Procedure.visits_subjects, registered.visits_ascending, ?_, ?_, ?_, kept, ?_⟩
  · have closing := Procedure.leads_run peers (ending (torn.run peers m).1.2) (torn.run peers m).2
    refine ⟨_, ends _ _ rest closing, ?_⟩
    rw [is, Procedure.trace_bind, Procedure.trace_bind]
    change torn.trace peers m ++ (_ ++ []) = _
    rw [trace, List.append_nil]
    rfl
  · rw [outcome, run, foldl_note_summary]
    simp only [start, TeardownSummary.empty, Nat.zero_add]
    rfl
  · rw [outcome, run]
    exact foldl_note_clusters kept registered.visits_names
  · rw [outcome]
    exact rest

theorem beginTeardown_eq {next : UniverseState} {operation : String}
    (accepted : u.beginTeardown next operation = .ok u') : u' = { u with state := next } := by
  unfold beginTeardown at accepted
  split at accepted
  · cases accepted
  · exact (Except.ok.inj accepted).symm

/-- The network is asked to be removed once, if there is one. -/
def Closes (u : Universe) (es : List (Event outside)) : Prop :=
  match u.environment with
  | .docker => ∃ answer, es = [⟨.engine (.removeNetwork u.params.networkName), answer⟩]
  | .vm _ => es = []

theorem releaseEnvironment_closes (leads : u.releaseEnvironment.Leads es ()) : u.Closes es := by
  unfold Closes releaseEnvironment at *
  cases environment : u.environment with
  | docker =>
    rw [environment] at leads
    obtain ⟨answer, asked, -⟩ := Procedure.leads_map.1 leads
    exact ⟨answer, Procedure.leads_ask.1 asked⟩
  | vm vm =>
    rw [environment] at leads
    exact (Procedure.leads_pure.1 leads).1

theorem shutDown_sweeps (registered : u.Registered)
    (accepted : u.beginTeardown .shutDown "shut down" = .ok u') :
    u.Sweeps peers (·.stop u.params.timeout) .shutDown (· = []) u.shutDown m := by
  refine .of_tearDown (fun _ => pure ()) registered ?_ ?_ ?_
  · exact fun c m => (c.stop_sweeps u.params.timeout m).name
  · exact fun v es _ leads => (Procedure.leads_pure.1 leads).1
  · unfold shutDown
    rw [accepted, beginTeardown_eq accepted]
    rfl

theorem destroy_sweeps (registered : u.Registered)
    (accepted : u.beginTeardown .destroyed "destroy" = .ok u') :
    u.Sweeps peers Cluster.destroy .destroyed u.Closes u.destroy m := by
  refine .of_tearDown releaseEnvironment registered ?_ ?_ ?_
  · exact fun c m => (c.destroy_sweeps m).name
  · intro v es rest leads
    have closes : v.Closes es := releaseEnvironment_closes leads
    change Closes { v with clusters := u.clusters } es at closes
    rwa [rest] at closes
  · unfold destroy
    rw [accepted, beginTeardown_eq accepted]

theorem teardowns_isolate_failures (β : Type) [Backend β] [Backend.Tidy β]
    (registered : u.Registered) (peers : Peers outside σ) (m : Moment σ) :
    (∀ (c : Cluster β) m, c.Isolates peers m) ∧
      (∀ (n : Node β) m, n.Demolishes peers m) ∧
      (∀ u', u.beginTeardown .shutDown "shut down" = .ok u' →
        u.Sweeps peers (·.stop u.params.timeout) .shutDown (· = []) u.shutDown m ∧
          ∀ v ∈ u.visits peers (·.stop u.params.timeout) m, v.subject.Isolates peers v.start) ∧
      ∀ u', u.beginTeardown .destroyed "destroy" = .ok u' →
        u.Sweeps peers Cluster.destroy .destroyed u.Closes u.destroy m ∧
          ∀ v ∈ u.visits peers Cluster.destroy m, v.subject.Isolates peers v.start := by
  refine ⟨Cluster.isolates, fun n m => Node.destroy_demolishes, ?_, ?_⟩
  · exact fun u' accepted =>
      ⟨shutDown_sweeps registered accepted, fun v _ => v.subject.isolates v.start⟩
  · exact fun u' accepted =>
      ⟨destroy_sweeps registered accepted, fun v _ => v.subject.isolates v.start⟩

/-- Two clusters of containers, all of them up. -/
def upAndRunning : Universe :=
  let member (port : UInt16) : Node Physical :=
    let params := NodeParams.ofPort port
    ⟨params, params.endpoint,
      .container ⟨params, "image", "Main", "testnet", "/logs", true, true⟩⟩
  let cluster (name : String) (ports : List UInt16) : String × Cluster Physical :=
    (name, ⟨⟨(Factory.containers .default "testnet").map .container, .delegated, "/logs", "corfu",
      "today"⟩, .named name, .ofList (ports.map fun port => ((member port).name, member port))⟩)
  { inEnvironment .default .docker .delegated with
    state := .bootstrapped
    clusters := .ofList [cluster "alpha" [9000, 9001], cluster "beta" [9002]] }

/-- One container cannot be stopped, another one cannot be removed. -/
def troubledAnswers : (call : Call) → call.Answer
  | .engine (.inspect _) => .ok (some ⟨true, false⟩)
  | .engine (.stop "node9000" _) => .error (.internal "timeout")
  | .engine (.remove "node9001") => .error (.internal "busy")
  | .engine (.removeNetwork _) => .error (.internal "in use")
  | .engine (.stop _ _) | .engine (.remove _) | .engine (.kill _) => .ok ()
  | call => ((Lab.Engine.empty Lab.Engine.defaultInfo []).answerExactly call).1

theorem teardowns_isolate_failures_trio :
    let peers := steadyPeers troubledAnswers fun _ => .zero
    let m : Moment Unit := ⟨.zero, ()⟩
    let u := upAndRunning
    u.Registered ∧
      u.Sweeps peers (·.stop u.params.timeout) .shutDown (· = []) u.shutDown m ∧
      (u.shutDown.run peers m).1.1 = .ok ⟨3, 1⟩ ∧
      u.Sweeps peers Cluster.destroy .destroyed u.Closes u.destroy m ∧
      (u.destroy.run peers m).1.1 = .ok ⟨3, 1⟩ := by
  intro peers m u
  have registered : u.Registered := by
    intro key c found
    have named : ∀ e ∈ u.clusters.entries, e.2.name = e.1 := by decide +kernel
    exact named (key, c) (NameMap.mem_entries.2 found)
  obtain ⟨-, -, stops, destroys⟩ :=
    teardowns_isolate_failures Physical registered peers m
  have down := (stops _ rfl).1
  have gone := (destroys _ rfl).1
  refine ⟨registered, down, ?_, gone, ?_⟩
  · rw [down.result]
    exact congrArg Except.ok (by decide +kernel)
  · rw [gone.result]
    exact congrArg Except.ok (by decide +kernel)

end Universe

end Testbed
