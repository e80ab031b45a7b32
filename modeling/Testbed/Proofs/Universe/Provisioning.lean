import Testbed.Proofs.Universe.Stages
/-!
# Giving hosts addresses

Before a universe of machines deploys any cluster it gives every host an address. A host whose
address is configured needs nothing. Every other host is worked on once, whatever becomes of the
others, and the addresses that were found are kept even if the whole fails (`deploy_provisions`).
Only a universe in which every host has an address goes on to its clusters, so that all nodes of
these can be placed.
-/

namespace Testbed

def Lookup.Succeeded (l : Lookup) : Prop := ∃ address, l.result = .ok address

namespace Universe

variable {u : Universe} {vm : VmParams} {lookups : List Lookup} {es : List (Event outside)}
  {outcome : Pool.Outcome (String × Except Error String)} {host address : String}

/-! ## Which hosts are worked on -/

theorem mem_unaddressed : host ∈ unaddressed vm ↔ vm.hosts.find? host = some none := by
  unfold unaddressed
  rw [← NameMap.mem_entries]
  constructor
  · intro mem
    obtain ⟨⟨name, a⟩, listed, rfl⟩ := List.mem_map.1 mem
    obtain ⟨listed, missing⟩ := List.mem_filter.1 listed
    rwa [← Option.isNone_iff_eq_none.1 missing]
  · intro listed
    exact List.mem_map.2 ⟨(host, none), List.mem_filter.2 ⟨listed, rfl⟩, rfl⟩

theorem nodup_unaddressed : (unaddressed vm).Nodup :=
  vm.hosts.keys_nodup.sublist (List.filter_sublist.map _)

theorem Worked.sought (worked : Worked vm lookups es outcome) :
    (es.filterMap (·.call.sought?)).Perm (unaddressed vm) := by
  have each : ∀ l ∈ lookups, l.events.filterMap (·.call.sought?) = [l.host] := fun l mem =>
    (worked.serving mem).sought?
  have all := worked.interleaved.perm_flatten.filterMap (·.call.sought?)
  rw [List.filterMap_flatten, List.map_map] at all
  have names : (lookups.map fun l => l.events.filterMap (·.call.sought?)).flatten =
      unaddressed vm := by
    rw [List.map_congr_left each, ← List.flatMap_def, ← List.map_eq_flatMap, worked.hosts]
  exact all.trans (.of_eq names)

theorem Worked.once (worked : Worked vm lookups es outcome) (host : String) :
    (es.filterMap (·.call.sought?)).count host =
      if vm.hosts.find? host = some none then 1 else 0 := by
  rw [worked.sought.count_eq, nodup_unaddressed.count]
  simp only [mem_unaddressed]

/-! ## The addresses -/

/-- The hosts of which there is an address. -/
def known (hosts : List (String × Option String)) : List (String × String) :=
  hosts.filterMap fun h => h.2.map (h.1, ·)

theorem mem_known {hosts : List (String × Option String)} :
    (host, address) ∈ known hosts ↔ (host, some address) ∈ hosts := by
  unfold known
  rw [List.mem_filterMap]
  constructor
  · rintro ⟨⟨name, a⟩, listed, eq⟩
    obtain ⟨b, rfl, same⟩ := Option.map_eq_some_iff.1 eq
    cases same
    exact listed
  · exact fun listed => ⟨_, listed, rfl⟩

theorem nodup_known {hosts : List (String × Option String)} (distinct : (hosts.map (·.1)).Nodup) :
    ((known hosts).map (·.1)).Nodup := by
  unfold List.Nodup known at *
  rw [List.pairwise_map] at distinct ⊢
  rw [List.pairwise_filterMap]
  refine distinct.imp fun {h h'} ne e he e' he' => ?_
  obtain ⟨a, -, rfl⟩ := Option.map_eq_some_iff.1 he
  obtain ⟨a', -, rfl⟩ := Option.map_eq_some_iff.1 he'
  exact ne

theorem recordConfigured_addresses {hosts : List (String × Option String)} :
    (u.recordConfigured hosts).addresses =
      (known hosts).foldl (fun m e => m.insert e.1 e.2) u.addresses := by
  unfold recordConfigured
  induction hosts generalizing u with
  | nil => rfl
  | cons h hosts ih =>
    obtain ⟨name, _ | a⟩ := h
    · exact ih
    · exact ih

theorem recordAll_addresses {results : List (String × Except Error String)} :
    (u.recordAll results).2.addresses =
      (known (results.map fun r => (r.1, r.2.toOption))).foldl (fun m e => m.insert e.1 e.2)
        u.addresses := by
  induction results generalizing u with
  | nil => rfl
  | cons r results ih =>
    obtain ⟨name, _ | a⟩ := r
    · exact ih
    · exact ih

section

variable (worked : Worked vm lookups es outcome)

include worked

theorem Worked.mem_gained :
    (host, address) ∈ known (outcome.completed.map fun r => (r.1, r.2.toOption)) ↔
      ∃ l ∈ lookups, l.host = host ∧ l.result = .ok address := by
  rw [mem_known, List.mem_map]
  simp only [worked.completed.mem_iff, Prod.mk.injEq, toOption_eq_some, List.mem_map]
  constructor
  · rintro ⟨_, ⟨l, mem, rfl⟩, same, result⟩
    exact ⟨l, mem, same, result⟩
  · rintro ⟨l, mem, same, result⟩
    exact ⟨_, ⟨l, mem, rfl⟩, same, result⟩

theorem Worked.nodup_gained :
    ((known (outcome.completed.map fun r => (r.1, r.2.toOption))).map (·.1)).Nodup := by
  refine nodup_known ?_
  have names : ((outcome.completed.map fun r => (r.1, r.2.toOption)).map (·.1)).Perm
      (unaddressed vm) := by
    have perm := worked.completed.map (·.1)
    rw [List.map_map] at perm
    rw [List.map_map, ← worked.hosts]
    exact perm
  exact names.nodup_iff.2 nodup_unaddressed

/-- The addresses are those that were configured and those that were found. -/
theorem Worked.addresses (none : u.addresses = ∅) :
    (u.recorded vm outcome).addresses.find? host = some address ↔
      vm.hosts.find? host = some (some address) ∨
        ∃ l ∈ lookups, l.host = host ∧ l.result = .ok address := by
  have configured (name a : String) :
      (u.recordConfigured vm.hosts.entries).addresses.find? name = some a ↔
        vm.hosts.find? name = some (some a) := by
    rw [recordConfigured_addresses, none,
      NameMap.find?_foldl_insert (nodup_known vm.hosts.keys_nodup) fun _ _ => rfl, mem_known,
      NameMap.mem_entries]
    simp
  have free : ∀ e ∈ known (outcome.completed.map fun r => (r.1, r.2.toOption)),
      (u.recordConfigured vm.hosts.entries).addresses.find? e.1 = Option.none := by
    intro e mem
    obtain ⟨l, looked, same, -⟩ := worked.mem_gained.1 mem
    have missing : e.1 ∈ unaddressed vm := by
      rw [← same, ← worked.hosts]
      exact List.mem_map_of_mem looked
    refine Option.eq_none_iff_forall_ne_some.2 fun a found => ?_
    cases (mem_unaddressed.1 missing).symm.trans ((configured _ _).1 found)
  unfold recorded
  rw [recordAll_addresses, NameMap.find?_foldl_insert worked.nodup_gained free, configured,
    worked.mem_gained]

end

/-! ## Failures -/

theorem recordAll_failure {results : List (String × Except Error String)} :
    ((u.recordAll results).1 = none → ∀ r ∈ results, ∃ a, r.2 = .ok a) ∧
      ∀ e, (u.recordAll results).1 = some e → ∃ r ∈ results, r.2 = .error e := by
  induction results generalizing u with
  | nil => simp [recordAll]
  | cons r results ih =>
    obtain ⟨name, e | a⟩ := r
    · simp [recordAll]
    · obtain ⟨fine, failed⟩ := @ih { u with addresses := u.addresses.insert name a }
      refine ⟨fun none r mem => ?_, fun e failure => ?_⟩
      · rcases List.mem_cons.1 mem with rfl | mem
        · exact ⟨a, rfl⟩
        · exact fine none r mem
      · obtain ⟨r, mem, failed⟩ := failed e failure
        exact ⟨r, List.mem_cons_of_mem _ mem, failed⟩

theorem Worked.poolFailure (worked : Worked vm lookups es outcome) :
    Cluster.poolFailure outcome = none := by
  unfold Cluster.poolFailure
  rw [worked.alive]
  rfl

theorem Worked.of_failure (worked : Worked vm lookups es outcome) {e : Error}
    (failed : u.provisionFailure vm outcome = some e) : ∃ l ∈ lookups, l.result = .error e := by
  unfold provisionFailure at failed
  rw [worked.poolFailure, Option.or_none] at failed
  obtain ⟨r, mem, result⟩ := recordAll_failure.2 e failed
  obtain ⟨l, looked, rfl⟩ := List.mem_map.1 (worked.completed.mem_iff.1 mem)
  exact ⟨l, looked, result⟩

theorem Worked.of_success (worked : Worked vm lookups es outcome)
    (none : u.provisionFailure vm outcome = none) : ∀ l ∈ lookups, l.Succeeded := by
  unfold provisionFailure at none
  rw [worked.poolFailure, Option.or_none] at none
  intro l mem
  exact recordAll_failure.1 none (l.host, l.result)
    (worked.completed.mem_iff.2 (List.mem_map.2 ⟨l, mem, rfl⟩))

/-! ## Where nodes are placed -/

/-- A node of valid parameters can be placed when every host has an address. -/
theorem factory_places (environment : u.environment = .vm vm) (given : u.params.vm = some vm)
    (valid : u.params.validate = .ok ())
    (placed : ∀ host a, vm.hosts.find? host = some a → ∃ a, u.addresses.find? host = some a)
    {c : ClusterParams} (configured : c ∈ u.params.clusters.values) {node : NodeParams}
    (listed : node ∈ c.nodes) :
    (∃ endpoint, u.factory.endpoint node = .ok endpoint) ∧
      ∀ logDir, ∃ b, u.factory.backend node logDir = .ok b := by
  have checked := UniverseParams.validate_of_mem valid configured
  rw [given] at checked
  obtain ⟨host, on, a, found⟩ :=
    ClusterParams.host_of_checkHost ((ClusterParams.validate_eq_ok checked).2 node listed)
  obtain ⟨address, known⟩ := placed host a found
  have reached : Factory.address u.addresses node = .ok address := by
    unfold Factory.address
    rw [on]
    dsimp only
    rw [known]
  unfold factory
  rw [environment]
  refine ⟨⟨address ++ ":" ++ node.portText, ?_⟩, fun logDir =>
    ⟨.process (.ofNode node address u.params.service logDir), ?_⟩⟩
  · change (Factory.address u.addresses node).map _ = _
    rw [reached]
    rfl
  · change ((Factory.address u.addresses node).map _).map _ = _
    rw [reached]
    rfl

/-! ## What is done about the hosts -/

/-- What a deployment does about the hosts of a fresh universe: `before` are the calls until all
hosts were worked on, `after` are those for the clusters. -/
structure Provisions (u : Universe) (vm : VmParams) (lookups : List Lookup)
    (before after : List (Event outside)) (o : UniverseOutcome Unit) : Prop where
  hosts : lookups.map (·.host) = unaddressed vm
  /-- What came of a host is what the hypervisor made of it. -/
  looked : ∀ l ∈ lookups, (Provision.host vm l.host).run.Leads l.events l.result
  serving : ∀ l ∈ lookups, Provision.Serving vm l.host l.events l.result
  interleaved : Interleaving (lookups.map (·.events)) before
  kind : ∀ e ∈ before, e.call.IsHypervisor
  once : ∀ host, (before.filterMap (·.call.sought?)).count host =
    if vm.hosts.find? host = some none then 1 else 0
  /-- Nobody but a bootstrapper turns to the hypervisor later on. -/
  aside : (∀ r, (u.bootstrapper r).run.Within (¬Call.IsHypervisor ·)) →
    ∀ e ∈ after, ¬e.call.IsHypervisor
  addresses : ∀ host a, o.2.addresses.find? host = some a ↔
    vm.hosts.find? host = some (some a) ∨ ∃ l ∈ lookups, l.host = host ∧ l.result = .ok a
  complete : (∀ l ∈ lookups, l.Succeeded) → o.2.addresses.keys = vm.hosts.keys ∧
    ∀ c ∈ u.params.clusters.values, ∀ node ∈ c.nodes,
      (∃ endpoint, o.2.factory.endpoint node = .ok endpoint) ∧
        ∀ logDir, ∃ b, o.2.factory.backend node logDir = .ok b
  fatal : (¬∀ l ∈ lookups, l.Succeeded) →
    (∃ l ∈ lookups, ∃ e, l.result = .error e ∧ o.1 = .error e) ∧
      o.2.state = .provisioning ∧ o.2.clusters = ∅ ∧ after = []

/-! ## Hosts whose calls are always answered alike -/

section

variable {answers : (call : Call) → call.Answer} {name : String}

theorem ensures_host_uncloned {e : Error} (absent : answers (.hypervisor (.find name)) = .ok none)
    (uncloned : answers (.hypervisor (.clone vm.templateVm name vm.customization)) = .error e) :
    (Provision.host vm name).run.Ensures (Steady answers) (fun _ => True) () fun r _ =>
      r = .error (.provisioning name e.message) := by
  refine Attempt.ensures_bind.2 (Attempt.ensures_bind.2 (Attempt.ensures_wrap.2
    (ensures_steady_ask ?_)))
  rw [absent]
  refine Attempt.ensures_bind.2 (Attempt.ensures_wrap.2 (ensures_steady_ask ?_))
  rw [uncloned]
  rfl

theorem ensures_host_found {id : String} {n : Nat}
    (found : answers (.hypervisor (.find name)) = .ok (some id))
    (attempts : vm.ipPollAttempts.toNat = n + 1)
    (reported : answers (.hypervisor (.guestIp id)) = .ok (some address)) :
    (Provision.host vm name).run.Ensures (Steady answers) (fun _ => True) () fun r _ =>
      r = .ok address := by
  refine Attempt.ensures_bind.2 (Attempt.ensures_bind.2 (Attempt.ensures_wrap.2
    (ensures_steady_ask ?_)))
  rw [found, attempts]
  refine Attempt.ensures_bind.2 fun start => ?_
  refine Attempt.ensures_bind.2 (Attempt.ensures_wrap.2 (ensures_steady_ask ?_))
  rw [reported]
  rfl

/-- The answers settle what came of a host, whenever they were given. -/
theorem Provisions.result_eq {before after : List (Event outside)} {o : UniverseOutcome Unit}
    (provisions : u.Provisions vm lookups before after o)
    (alike : ∀ ev ∈ before, ev.answer = answers ev.call) {l : Lookup} (mem : l ∈ lookups)
    {result : Except Error String}
    (ensures : (Provision.host vm l.host).run.Ensures (Steady answers) (fun _ => True) () fun r _ =>
      r = result) : l.result = result := by
  refine ensures.of_leads (provisions.looked l mem) (path_steady fun ev here => alike ev ?_)
  exact provisions.interleaved.subset (List.mem_map_of_mem mem) here

end

/-! ## The whole deployment -/

theorem populate_aside {σ : Type} (peers : Peers outside σ) (valid : u.params.validate = .ok ())
    (none : u.clusters = ∅)
    (bootstrapper : ∀ r, (u.bootstrapper r).run.Within (¬Call.IsHypervisor ·)) (m : Moment σ) :
    ∀ e ∈ u.populate.trace peers m, ¬e.call.IsHypervisor := by
  obtain ⟨stages, staged, -⟩ := populate_staged peers valid none m
  have nodes (c : Cluster Physical) (node : NodeParams) :
      (c.deployment node).Within (¬Call.IsHypervisor ·) :=
    Cluster.deployment_within_of id (Physical.deploy_within (fun _ => id) (fun _ => id) fun _ => id)
      (fun b => (Physical.deploy_within (fun _ => id) (fun _ => id) (fun _ => id) b).map some)
      (Physical.release_within fun _ => id)
  rw [staged.calls]
  intro e mem
  obtain ⟨s, listed, mem⟩ := List.mem_flatMap.1 mem
  exact (staged.sound s listed).calls id id (nodes _) bootstrapper e mem

/-- The universe when all its hosts have an address. -/
def provided (u : Universe) (vm : VmParams)
    (outcome : Pool.Outcome (String × Except Error String)) : Universe :=
  { u.recorded vm outcome with state := .deploying }

theorem provided_rest : u.provided vm outcome = { u with
    state := .deploying
    addresses := (u.recorded vm outcome).addresses } := by
  unfold provided
  rw [recorded_rest]

/-- How a deployment goes on when the hosts were worked on: the clusters have their turn if no host
failed. -/
inductive Continues {σ : Type} (peers : Peers outside σ) (u : Universe) (vm : VmParams)
    (outcome : Pool.Outcome (String × Except Error String)) :
    List (Event outside) → UniverseOutcome Unit → Prop
  | failed {e : Error} : u.provisionFailure vm outcome = some e →
      Continues peers u vm outcome [] (.error e, u.recorded vm outcome)
  | provided (m : Moment σ) : u.provisionFailure vm outcome = none →
      Continues peers u vm outcome ((u.provided vm outcome).populate.trace peers m)
        ((u.provided vm outcome).populate.run peers m).1

theorem deploy_continues {σ : Type} (peers : Peers outside σ) (environment : u.environment = .vm vm)
    (untouched : u.state = .empty) (m : Moment σ) :
    ∃ lookups outcome before after, u.deploy.trace peers m = before ++ after ∧
      Worked vm lookups before outcome ∧
      Continues peers u.begun vm outcome after (u.deploy.run peers m).1 := by
  have prepared := Procedure.leads_run peers u.begun.prepareEnvironment m
  rw [deploy_eq untouched, Procedure.trace_bind, Procedure.run_bind]
  generalize u.begun.prepareEnvironment.trace peers m = before,
    u.begun.prepareEnvironment.run peers m = p at prepared ⊢
  obtain ⟨o, n⟩ := p
  rcases prepareEnvironment_leads prepared with
    ⟨answer, docker, -⟩ | ⟨vm', lookups, outcome, same, worked, ended⟩
  · cases environment.symm.trans docker
  · obtain rfl : vm = vm' := Environment.vm.inj (environment.symm.trans same)
    refine ⟨lookups, outcome, before, _, rfl, worked, ?_⟩
    rcases ended with ⟨e, failed, eq⟩ | ⟨none, eq⟩
    · cases eq
      exact .failed failed
    · cases eq
      exact .provided n none

/-- The addresses stay those that were found, and only the clusters and the state change later on. -/
theorem Continues.rest {σ : Type} {peers : Peers outside σ} {o : UniverseOutcome Unit}
    (continues : Continues peers u vm outcome es o) : o.2 = { u with
      state := o.2.state
      clusters := o.2.clusters
      addresses := (u.recorded vm outcome).addresses } := by
  cases continues with
  | failed _ =>
    have recorded := @recorded_rest u vm outcome
    exact recorded.trans (by rw [recorded])
  | provided m _ =>
    refine (populate_rest (Procedure.leads_run peers _ m)).trans ?_
    rw [provided_rest]

theorem provisions_of_continues {σ : Type} {peers : Peers outside σ}
    (environment : u.environment = .vm vm) (given : u.params.vm = some vm)
    (valid : u.params.validate = .ok ()) (none : u.clusters = ∅) (unknown : u.addresses = ∅)
    (worked : Worked vm lookups es outcome) {after : List (Event outside)}
    {o : UniverseOutcome Unit} (continues : Continues peers u.begun vm outcome after o) :
    u.Provisions vm lookups es after o := by
  have recorded := @recorded_rest u.begun vm outcome
  have rest := continues.rest
  have addresses : o.2.addresses = (u.begun.recorded vm outcome).addresses := by rw [rest]
  have environment' : o.2.environment = .vm vm := by
    rw [rest]
    exact environment
  have params : o.2.params = u.params := by
    rw [rest]
    rfl
  have found (host a : String) : o.2.addresses.find? host = some a ↔
      vm.hosts.find? host = some (some a) ∨ ∃ l ∈ lookups, l.host = host ∧ l.result = .ok a := by
    rw [addresses]
    exact worked.addresses unknown
  refine ⟨worked.hosts, worked.leads, fun l => worked.serving, worked.interleaved,
    worked.isHypervisor, worked.once, ?_, found, ?_, ?_⟩
  · intro bootstrapper
    cases continues with
    | failed _ => simp
    | provided m _ =>
      rw [provided_rest]
      refine populate_aside peers ?_ ?_ ?_ m
      · exact valid
      · exact none
      · exact bootstrapper
  · intro all
    have placed (host : String) : (∃ a, o.2.addresses.find? host = some a) ↔
        ∃ a, vm.hosts.find? host = some a := by
      constructor
      · rintro ⟨a, known⟩
        rcases (found host a).1 known with configured | ⟨l, mem, rfl, -⟩
        · exact ⟨_, configured⟩
        · exact ⟨_, mem_unaddressed.1 (worked.hosts ▸ List.mem_map_of_mem mem)⟩
      · rintro ⟨_ | a, listed⟩
        · have missing := mem_unaddressed.2 listed
          rw [← worked.hosts] at missing
          obtain ⟨l, mem, rfl⟩ := List.mem_map.1 missing
          obtain ⟨a, result⟩ := all l mem
          exact ⟨a, (found _ a).2 (.inr ⟨l, mem, rfl, result⟩)⟩
        · exact ⟨a, (found host a).2 (.inl listed)⟩
    refine ⟨NameMap.keys_eq placed, fun c configured node listed => ?_⟩
    rw [← params] at given valid configured
    exact factory_places environment' given valid
      (fun host a here => (placed host).2 ⟨a, here⟩) configured listed
  · intro partly
    cases continues with
    | @failed e failed =>
      obtain ⟨l, mem, result⟩ := worked.of_failure failed
      refine ⟨⟨l, mem, e, result, rfl⟩, ?_, ?_, rfl⟩
      · rw [recorded]
        change u.firstState = .provisioning
        unfold firstState
        rw [environment]
      · rw [recorded]
        exact none
    | provided _ succeeded => exact absurd (worked.of_success succeeded) partly

theorem deploy_provisions {params : UniverseParams} {bootstrapper : Bootstrapper}
    (ready : Universe.vm params bootstrapper = .ok u) {σ : Type} (peers : Peers outside σ)
    (m : Moment σ) :
    ∃ vm lookups before after, params.vm = some vm ∧
      u.deploy.trace peers m = before ++ after ∧
      u.Provisions vm lookups before after (u.deploy.run peers m).1 := by
  obtain ⟨valid, vm, given, rfl⟩ := vm_eq ready
  obtain ⟨lookups, outcome, before, after, calls, worked, continues⟩ :=
    deploy_continues (u := inEnvironment params (.vm vm) bootstrapper) peers rfl rfl m
  exact ⟨vm, lookups, before, after, given, calls,
    provisions_of_continues rfl given valid rfl rfl worked continues⟩

/-- Three hosts, of which the second has an address. -/
def threeHosts : VmParams where
  vsphereUrl := "https://vcenter"
  vsphereUsername := "administrator"
  vspherePassword := "secret"
  templateVm := "template"
  hostUsername := "root"
  hostPassword := "secret"
  hosts := .ofList [("east", none), ("north", some "10.0.0.2"), ("west", none)]
  customization := .default
  ipPollInterval := VmParams.defaultPollInterval
  ipPollAttempts := VmParams.defaultPollAttempts

/-- The first host is found, the third one cannot be cloned. -/
def threeHostsAnswers : (call : Call) → call.Answer
  | .hypervisor (.find name) => .ok (if name = "east" then some "vm-1" else none)
  | .hypervisor (.clone _ _ _) => .error (.internal "no template")
  | .hypervisor (.guestIp _) => .ok (some "10.0.0.1")
  | call => ((Lab.Engine.empty Lab.Engine.defaultInfo []).answerExactly call).1

theorem deploy_provisions_three :
    let nodes : List NodeParams := [(NodeParams.ofPort 9000).onHost "east",
      (NodeParams.ofPort 9001).onHost "north", (NodeParams.ofPort 9002).onHost "west"]
    let cluster := { ClusterParams.named "alpha" with nodes := nodes }
    let params := { UniverseParams.default with vm := some threeHosts }.withCluster cluster
    let u := inEnvironment params (.vm threeHosts) .delegated
    let peers := steadyPeers threeHostsAnswers fun _ => .zero
    let m : Moment Unit := ⟨.zero, ()⟩
    let o := (u.deploy.run peers m).1
    let failure := Error.provisioning "west" "Internal error: no template"
    Universe.vm params .delegated = .ok u ∧ o.1 = .error failure ∧
      o.2.addresses = .ofList [("east", "10.0.0.1"), ("north", "10.0.0.2")] ∧
      o.2.state = .provisioning ∧ o.2.clusters = ∅ ∧
      ∃ east west, u.Provisions threeHosts [east, west] (u.deploy.trace peers m) [] o ∧
        east.result = .ok "10.0.0.1" ∧ west.result = .error failure := by
  intro nodes cluster params u peers m o failure
  have ready : Universe.vm params .delegated = .ok u :=
    vm_of_valid (toOption_eq_some.1 (by decide +kernel)) rfl
  obtain ⟨vm, lookups, before, after, given, calls, provisions⟩ := deploy_provisions ready peers m
  obtain rfl : threeHosts = vm := Option.some.inj given
  have hosts : lookups.map (·.host) = ["east", "west"] := provisions.hosts
  obtain ⟨east, west, rfl⟩ : ∃ east west, lookups = [east, west] :=
    List.length_eq_two.1 (by simpa using congrArg List.length hosts)
  obtain ⟨first, second⟩ : east.host = "east" ∧ west.host = "west" := by simpa using hosts
  have alike : ∀ ev ∈ before, ev.answer = threeHostsAnswers ev.call := fun ev mem =>
    steadyPeers_alike ev (calls ▸ List.mem_append_left after mem)
  have found : east.result = .ok "10.0.0.1" := by
    refine provisions.result_eq alike (by simp) ?_
    rw [first]
    exact ensures_host_found (n := 59) rfl rfl rfl
  have failed : west.result = .error failure := by
    refine provisions.result_eq alike (by simp) ?_
    rw [second]
    exact ensures_host_uncloned (e := .internal "no template") rfl rfl
  have partly : ¬∀ l ∈ [east, west], l.Succeeded := by
    intro all
    obtain ⟨a, up⟩ := all west (by simp)
    cases up.symm.trans failed
  obtain ⟨⟨l, mem, e, down, fails⟩, state, clusters, rfl⟩ := provisions.fatal partly
  have culprit : e = failure := by
    rcases List.mem_pair.1 mem with rfl | rfl
    · cases down.symm.trans found
    · exact Except.error.inj (down.symm.trans failed)
  have addresses : o.2.addresses = .ofList [("east", "10.0.0.1"), ("north", "10.0.0.2")] := by
    have configured : threeHosts.hosts.entries =
        [("east", none), ("north", some "10.0.0.2"), ("west", none)] := rfl
    refine NameMap.ext_find? fun host address => ?_
    rw [provisions.addresses, NameMap.find?_ofList (by decide), ← NameMap.mem_entries, configured]
    simp [first, second, found, failed, or_comm, eq_comm]
  rw [List.append_nil] at calls
  exact ⟨ready, culprit ▸ fails, addresses, state, clusters, east, west, calls ▸ provisions, found,
    failed⟩

end Universe

end Testbed
