import Testbed.Proofs.NameMap
import Testbed.Proofs.Pool.Interleaving
import Testbed.Proofs.Provision
import Testbed.Universe
/-!
# The parts of a deployment

A deployment that is let in makes the environment ready and then deploys the clusters
(`deploy_eq`). The first part changes the state and the addresses of a universe only, the second one
its clusters only.
-/

namespace Testbed

namespace Universe

variable {u v : Universe} {es : List (Event outside)}

/-- The universe as its deployment starts. -/
def begun (u : Universe) : Universe := { u with state := u.firstState }

theorem beginDeploy_eq (untouched : u.state = .empty) : u.beginDeploy = .ok u.begun :=
  if_pos untouched

/-- Deploys all clusters, and says so in the state if none failed. -/
def populate (u : Universe) : Work (UniverseOutcome Unit) := do
  match ← u.deployClusters u.factory u.params.clusters.values with
  | (.error e, u) => return (.error e, u)
  | (.ok (), u) => return (.ok (), { u with state := .bootstrapped })

theorem deploy_eq (untouched : u.state = .empty) :
    u.deploy = u.begun.prepareEnvironment >>= fun
      | (.error e, u) => pure (.error e, u)
      | (.ok (), u) => u.populate := by
  unfold deploy populate
  rewrite [beginDeploy_eq untouched]
  rfl

/-! ## The environment -/

theorem recordConfigured_rest {hosts : List (String × Option String)} :
    u.recordConfigured hosts = { u with addresses := (u.recordConfigured hosts).addresses } := by
  unfold recordConfigured
  induction hosts generalizing u with
  | nil => rfl
  | cons host hosts ih =>
    rw [List.foldl_cons]
    refine ih.trans ?_
    split <;> rfl

theorem recordAll_rest {results : List (String × Except Error String)} :
    (u.recordAll results).2 = { u with addresses := (u.recordAll results).2.addresses } := by
  induction results generalizing u with
  | nil => rfl
  | cons result results ih =>
    obtain ⟨name, _ | address⟩ := result
    · exact ih
    · exact ih

/-- The universe after its hosts were worked on. -/
def recorded (u : Universe) (vm : VmParams)
    (outcome : Pool.Outcome (String × Except Error String)) : Universe :=
  ((u.recordConfigured vm.hosts.entries).recordAll outcome.completed).2

theorem recorded_rest {vm : VmParams} {outcome : Pool.Outcome (String × Except Error String)} :
    u.recorded vm outcome = { u with addresses := (u.recorded vm outcome).addresses } := by
  unfold recorded
  refine recordAll_rest.trans ?_
  rw [recordConfigured_rest]

/-- The first failure among those of the hosts, or the death of a worker. -/
def provisionFailure (u : Universe) (vm : VmParams)
    (outcome : Pool.Outcome (String × Except Error String)) : Option Error :=
  ((u.recordConfigured vm.hosts.entries).recordAll outcome.completed).1.or
    (Cluster.poolFailure outcome)

/-! ## The hosts -/

section

variable {vm : VmParams} {lookups : List Lookup}

theorem provisionOnWorker_leads {name : String} {x : Option (String × Except Error String)}
    (leads : (provisionOnWorker vm name).Leads es x) :
    ∃ r, x = some (name, r) ∧ (Provision.host vm name).run.Leads es r := by
  obtain ⟨_, _, r, rfl, provisioned, leads⟩ := Procedure.leads_bind.1 leads
  obtain ⟨rfl, rfl⟩ := Procedure.leads_pure.1 leads
  rw [List.append_nil]
  exact ⟨r, rfl, provisioned⟩

theorem followed_lookups {names : List String}
    {parts : List (Pool.Part outside (String × Except Error String))}
    (followed : Pool.Followed (names.map (provisionOnWorker vm)) parts) :
    ∃ ls : List Lookup, ls.map (·.host) = names ∧
      (∀ l ∈ ls, (Provision.host vm l.host).run.Leads l.events l.result) ∧
      parts = ls.map fun l => (l.events, some (l.host, l.result)) := by
  induction names generalizing parts with
  | nil =>
    cases followed
    exact ⟨[], rfl, by simp, rfl⟩
  | cons name names ih =>
    cases followed with
    | @cons _ part _ parts first rest =>
      obtain ⟨r, result, provisioned⟩ := provisionOnWorker_leads first
      obtain ⟨ls, hosts, leads, rfl⟩ := ih rest
      refine ⟨⟨name, part.1, r⟩ :: ls, by rw [List.map_cons, hosts], ?_, ?_⟩
      · intro l mem
        rcases List.mem_cons.1 mem with rfl | mem
        · exact provisioned
        · exact leads l mem
      · rw [List.map_cons, ← result]

/-- Every host without an address was worked on, and what came of it is on record. -/
structure Worked (vm : VmParams) (lookups : List Lookup) (es : List (Event outside))
    (outcome : Pool.Outcome (String × Except Error String)) : Prop where
  hosts : lookups.map (·.host) = unaddressed vm
  leads : ∀ l ∈ lookups, (Provision.host vm l.host).run.Leads l.events l.result
  interleaved : Interleaving (lookups.map (·.events)) es
  completed : outcome.completed.Perm (lookups.map fun l => (l.host, l.result))
  alive : outcome.failed = false

theorem pool_worked {workers : Nat} {outcome : Pool.Outcome (String × Except Error String)}
    (leads : (Pool.run workers ((unaddressed vm).map (provisionOnWorker vm))).Leads es outcome) :
    ∃ lookups, Worked vm lookups es outcome := by
  obtain ⟨parts, followed, interleaved, sums⟩ := Pool.run_leads leads
  obtain ⟨lookups, hosts, leads, rfl⟩ := followed_lookups followed
  refine ⟨lookups, hosts, leads, by simpa [Function.comp_def] using interleaved, ?_, ?_⟩
  · simpa [Pool.Outcome.empty, Function.comp_def] using sums.completed
  · rw [sums.failed]
    simp [Pool.Outcome.empty]

variable {outcome : Pool.Outcome (String × Except Error String)}

theorem Worked.serving (worked : Worked vm lookups es outcome) {l : Lookup} (mem : l ∈ lookups) :
    Provision.Serving vm l.host l.events l.result :=
  Provision.host_leads (worked.leads l mem)

theorem Worked.isHypervisor (worked : Worked vm lookups es outcome) :
    ∀ e ∈ es, e.call.IsHypervisor := by
  intro e mem
  obtain ⟨_, listed, mem⟩ := worked.interleaved.mem mem
  obtain ⟨l, looked, rfl⟩ := List.mem_map.1 listed
  exact (worked.serving looked).isHypervisor e mem

end

/-! ## Both kinds of environment -/

/-- The environment is a network that has to be there, or hosts that are worked on. -/
theorem prepareEnvironment_leads {o : UniverseOutcome Unit}
    (leads : u.prepareEnvironment.Leads es o) :
    (∃ answer, u.environment = .docker ∧
      es = [⟨.engine (.ensureNetwork u.params.networkName), answer⟩] ∧ o = (answer, u)) ∨
    ∃ vm lookups outcome, u.environment = .vm vm ∧ Worked vm lookups es outcome ∧
      ((∃ e, u.provisionFailure vm outcome = some e ∧ o = (.error e, u.recorded vm outcome)) ∨
        u.provisionFailure vm outcome = none ∧
          o = (.ok (), { u.recorded vm outcome with state := .deploying })) := by
  unfold prepareEnvironment at leads
  cases environment : u.environment with
  | docker =>
    rw [environment] at leads
    obtain ⟨_, _, answer, rfl, asked, leads⟩ := Procedure.leads_bind.1 leads
    obtain ⟨rfl, rfl⟩ := Procedure.leads_pure.1 leads
    rw [Procedure.leads_ask.1 asked]
    exact .inl ⟨answer, rfl, rfl, rfl⟩
  | vm vm =>
    rw [environment] at leads
    obtain ⟨fs, gs, outcome, rfl, ran, leads⟩ := Procedure.leads_bind.1 leads
    obtain ⟨lookups, worked⟩ := pool_worked ran
    refine .inr ⟨vm, lookups, outcome, rfl, ?_⟩
    unfold provisionFailure recorded
    dsimp only at leads
    split at leads
    · rename_i e failed
      obtain ⟨rfl, rfl⟩ := Procedure.leads_pure.1 leads
      rw [List.append_nil]
      exact ⟨worked, .inl ⟨e, failed, rfl⟩⟩
    · rename_i none
      obtain ⟨rfl, rfl⟩ := Procedure.leads_pure.1 leads
      rw [List.append_nil]
      exact ⟨worked, .inr ⟨none, rfl⟩⟩

theorem prepareEnvironment_rest {o : UniverseOutcome Unit}
    (leads : u.prepareEnvironment.Leads es o) :
    o.2 = { u with state := o.2.state, addresses := o.2.addresses } := by
  rcases prepareEnvironment_leads leads with
    ⟨answer, -, -, rfl⟩ | ⟨vm, lookups, outcome, -, -, ⟨e, -, rfl⟩ | ⟨-, rfl⟩⟩
  · rfl
  · exact (@recorded_rest u vm outcome).trans (by rw [recorded_rest])
  · dsimp only
    rw [recorded_rest]

/-- A universe that is ready for its clusters is about to deploy them. -/
theorem prepareEnvironment_state {o : UniverseOutcome Unit}
    (leads : u.begun.prepareEnvironment.Leads es o) :
    o.1 = .ok () ∧ o.2.state = .deploying ∨ (∃ e, o.1 = .error e) ∧ o.2.state = u.firstState := by
  rcases prepareEnvironment_leads leads with
    ⟨answer, environment, -, rfl⟩ | ⟨vm, lookups, outcome, -, -, ⟨e, -, rfl⟩ | ⟨-, rfl⟩⟩
  · have first : u.firstState = .deploying := by
      unfold firstState
      rw [show u.environment = .docker from environment]
    cases answer with
    | ok _ => exact .inl ⟨rfl, first⟩
    | error e => exact .inr ⟨⟨e, rfl⟩, rfl⟩
  · have kept := congrArg Universe.state (@recorded_rest u.begun vm outcome)
    exact .inr ⟨⟨e, rfl⟩, kept⟩
  · exact .inl ⟨rfl, rfl⟩

/-- The environment is made ready by the engine alone, or by the hypervisor alone. -/
theorem prepareEnvironment_calls {o : UniverseOutcome Unit}
    (leads : u.prepareEnvironment.Leads es o) : ∀ e ∈ es,
      e.call = .engine (.ensureNetwork u.params.networkName) ∨ e.call.IsHypervisor := by
  rcases prepareEnvironment_leads leads with
    ⟨answer, -, rfl, -⟩ | ⟨vm, lookups, outcome, -, worked, -⟩
  · simp
  · exact fun e mem => .inr (worked.isHypervisor e mem)

/-! ## The clusters -/

theorem find?_putCluster {c : Cluster Physical} {key : String} :
    (u.putCluster c).clusters.find? key = if key = c.name then some c else u.clusters.find? key :=
  NameMap.find?_insert

/-- A new cluster is registered before it is deployed, and once more afterwards. -/
theorem find?_registered {c c' d : Cluster Physical} {key : String} (same : c'.name = c.name)
    (vacant : u.clusters.find? c.name = none) :
    ((u.putCluster c).putCluster c').clusters.find? key = some d ↔
      u.clusters.find? key = some d ∨ c.name = key ∧ c' = d := by
  rw [find?_putCluster, find?_putCluster, same]
  by_cases here : key = c.name
  · subst here
    simp [vacant]
  · simp [here, Ne.symm here]

theorem deployClusters_rest {factory : Factory Physical} {rest : List ClusterParams}
    {o : UniverseOutcome Unit} (leads : (u.deployClusters factory rest).Leads es o) :
    o.2 = { u with clusters := o.2.clusters } := by
  induction rest generalizing u es with
  | nil => rw [(Procedure.leads_pure.1 leads).2]
  | cons params rest ih =>
    obtain ⟨_, _, c, -, -, leads⟩ := Procedure.leads_bind.1 leads
    obtain ⟨_, _, ⟨r, c'⟩, -, -, leads⟩ := Procedure.leads_bind.1 leads
    cases r with
    | ok _ =>
      have kept := ih leads
      exact kept
    | error e =>
      rw [(Procedure.leads_pure.1 leads).2]
      rfl

theorem populate_leads {o : UniverseOutcome Unit} (leads : u.populate.Leads es o) : ∃ r w,
    (u.deployClusters u.factory u.params.clusters.values).Leads es (r, w) ∧
      o = match r with
        | .ok () => (.ok (), { w with state := .bootstrapped })
        | .error e => (.error e, w) := by
  obtain ⟨fs, gs, ⟨r, w⟩, rfl, deployed, leads⟩ := Procedure.leads_bind.1 leads
  refine ⟨r, w, ?_⟩
  cases r with
  | ok _ =>
    obtain ⟨rfl, rfl⟩ := Procedure.leads_pure.1 leads
    exact ⟨by rwa [List.append_nil], rfl⟩
  | error e =>
    obtain ⟨rfl, rfl⟩ := Procedure.leads_pure.1 leads
    exact ⟨by rwa [List.append_nil], rfl⟩

/-- All calls are made for the clusters, and what comes of these is the result. -/
theorem populate_run {σ : Type} (peers : Peers outside σ) (m : Moment σ) :
    let clusters := u.deployClusters u.factory u.params.clusters.values
    u.populate.trace peers m = clusters.trace peers m ∧
      u.populate.run peers m =
        (match (clusters.run peers m).1 with
          | (.ok (), w) => (.ok (), { w with state := .bootstrapped })
          | (.error e, w) => (.error e, w), (clusters.run peers m).2) := by
  intro clusters
  unfold populate
  rw [Procedure.trace_bind, Procedure.run_bind]
  change clusters.trace peers m ++ _ = _ ∧ _
  generalize clusters.run peers m = p
  obtain ⟨⟨_ | _, w⟩, n⟩ := p
  · exact ⟨List.append_nil _, rfl⟩
  · exact ⟨List.append_nil _, rfl⟩

theorem populate_rest {o : UniverseOutcome Unit} (leads : u.populate.Leads es o) :
    o.2 = { u with state := o.2.state, clusters := o.2.clusters } := by
  obtain ⟨r, w, deployed, rfl⟩ := populate_leads leads
  have rest := deployClusters_rest deployed
  change w = { u with clusters := w.clusters } at rest
  cases r with
  | ok _ =>
    dsimp only
    rw [rest]
  | error e =>
    dsimp only
    rw [rest]

end Universe

end Testbed
