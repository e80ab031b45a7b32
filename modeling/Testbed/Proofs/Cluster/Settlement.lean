import Testbed.Proofs.Cluster.Bootstrapping
import Testbed.Proofs.Cluster.Fate
/-!
# How a deployment ends

What a deployment makes of a cluster is settled by the fates of its nodes alone, whatever the number
of workers, whatever time calls take, and in whatever order nodes are done: a pool makes members of
the nodes that come up before the first that cannot be prepared, and nodes that are deployed in turn
become members up to the first that does not come up (`deployments_settle`).
-/

namespace Testbed

open Procedure (Leads)

/-! ## Requests -/

/-- The id that stands for any. -/
def Uuid.blank : Uuid := .ofRandom 0

/-- A request, but for the id of the cluster. -/
def BootstrapRequest.anonymous (r : BootstrapRequest) : BootstrapRequest :=
  { r with layout := { r.layout with clusterId := .blank } }

/-- All that the bootstrapper was asked for, but for ids. -/
def requests (es : List (Event outside)) : List BootstrapRequest :=
  es.filterMap fun ev =>
    match ev.call with
    | .bootstrap request => some request.anonymous
    | _ => none

theorem requests_append (es fs : List (Event outside)) :
    requests (es ++ fs) = requests es ++ requests fs :=
  List.filterMap_append ..

theorem requests_eq_nil {es : List (Event outside)} (aside : ∀ ev ∈ es, ¬ev.call.IsBootstrap) :
    requests es = [] := by
  refine List.filterMap_eq_nil_iff.2 fun ev mem => ?_
  obtain ⟨call, answer⟩ := ev
  cases call with
  | bootstrap request => exact absurd trivial (aside _ mem)
  | engine _ | shell _ | hypervisor _ | file _ | program _ _ | act _ _ | abandon _ | freshId
  | timeStamp | pick _ | awaitShutdown _ => rfl

namespace Cluster

variable {β : Type} [Backend β] {c c' : Cluster β} {allowed : Event outside → Prop}
  {fate : NodeParams → Fate β} {es : List (Event outside)} {nodes : List NodeParams}

/-- Of the nodes, those of which certain ones came up make a cluster what it is then. -/
structure Ended (c : Cluster β) (fate : NodeParams → Fate β) (nodes attempted : List NodeParams)
    (r : Except Error Unit) (c' : Cluster β) : Prop where
  setting : c'.setting = c.setting
  params : c'.params = c.params
  named : ∀ node ∈ attempted, ∀ n, (fate node).member? = some n →
    n.params = node ∧ c.setting.factory.endpoint node = .ok n.endpoint
  members : ∀ name n, c'.members.find? name = some n ↔
    c.members.find? name = some n ∨
      ∃ node ∈ attempted, (fate node).member? = some n ∧ node.name = name
  verdict : r = .ok () ↔ ∀ node ∈ nodes, (fate node).member?.isSome

/-! ## One node after the other -/

theorem deployInTurn_ends (turn : c.setting.factory.strategy = .sequential)
    (meets : ∀ node ∈ nodes, c.Meets allowed node (fate node)) (vacant : c.Vacant nodes)
    {r : Except Error Unit} (h : (c.deployInTurn nodes).Leads es (r, c'))
    (kept : ∀ ev ∈ es, allowed ev) : c.Ended fate nodes (untilDown fate nodes) r c' := by
  induction nodes generalizing c es with
  | nil =>
    obtain ⟨rfl, eq⟩ := Procedure.leads_pure.1 h
    cases eq
    exact ⟨rfl, rfl, by simp [untilDown], by simp [untilDown], by simp⟩
  | cons node rest ih =>
    obtain ⟨fs, gs, result, rfl, up, h⟩ := Procedure.leads_bind.1 h
    have first : (c.deployment node).Leads fs (some result) := by
      unfold deployment
      rw [turn]
      exact Procedure.leads_map.2 ⟨result, up, rfl⟩
    have met := (meets node List.mem_cons_self).deployed fs _ first
      fun ev mem => kept ev (List.mem_append_left _ mem)
    cases result with
    | error e =>
      obtain ⟨rfl, eq⟩ := Procedure.leads_pure.1 h
      cases eq
      have none : (fate node).member? = none := met.symm
      have stops : untilDown fate (node :: rest) = [] := by
        simp [untilDown, none]
      rw [stops]
      exact ⟨rfl, rfl, by simp, by simp, by simp [none]⟩
    | ok n =>
      have some : (fate node).member? = some n := met.symm
      obtain ⟨same, endpoint⟩ := deployNode_leads_ok up
      have name : n.name = node.name := congrArg NodeParams.name same
      have goes : untilDown fate (node :: rest) = node :: untilDown fate rest := by
        simp [untilDown, some]
      obtain ⟨_, _, c₁, rfl, registered, h⟩ := Procedure.leads_bind.1 h
      have free : c.members.find? n.name = none := name ▸ vacant.free node List.mem_cons_self
      obtain ⟨rfl, rfl⟩ := register_leads free registered
      have ended := ih (c := { c with members := c.members.insert n.name n }) turn
        (fun other mem => ⟨(meets other (List.mem_cons_of_mem _ mem)).prepared,
          (meets other (List.mem_cons_of_mem _ mem)).deployed⟩) (vacant.tail same) h
        (fun ev mem => kept ev (List.mem_append_right _ mem))
      rw [goes]
      refine ⟨ended.setting, ended.params, ?_, fun key k => ?_, ?_⟩
      · intro other mem k hk
        rcases List.mem_cons.1 mem with rfl | mem
        · cases some.symm.trans hk
          exact ⟨same, endpoint⟩
        · exact ended.named other mem k hk
      · rw [ended.members, NameMap.find?_insert_vacant free]
        simp only [List.mem_cons, exists_eq_or_imp, some, Option.some.injEq, name]
        grind
      · rw [ended.verdict]
        simp [some]

/-! ## Several nodes at once -/

/-- Nodes are prepared up to the first that cannot be. -/
theorem prepareAll_ends (meets : ∀ node ∈ nodes, c.Meets allowed node (fate node))
    {ready : List (Node β)} {failure : Option Error}
    (h : (c.prepareAll nodes).Leads es (ready, failure)) (kept : ∀ ev ∈ es, allowed ev) :
    failure = firstUnprepared? fate nodes ∧
      List.Forall₂ (fun node n => ∃ fs, (c.prepare node).run.Leads fs (.ok n) ∧
        ∀ ev ∈ fs, allowed ev) (untilUnprepared fate nodes) ready := by
  induction nodes generalizing es ready failure with
  | nil =>
    obtain ⟨rfl, eq⟩ := Procedure.leads_pure.1 h
    cases eq
    exact ⟨rfl, .nil⟩
  | cons node rest ih =>
    obtain ⟨fs, gs, result, rfl, prepared, h⟩ := Procedure.leads_bind.1 h
    have kept_fs : ∀ ev ∈ fs, allowed ev := fun ev mem => kept ev (List.mem_append_left _ mem)
    have met := (meets node List.mem_cons_self).prepared fs _ prepared kept_fs
    cases result with
    | error e =>
      obtain ⟨rfl, eq⟩ := Procedure.leads_pure.1 h
      cases eq
      have stops : (fate node).unprepared? = some e := met.symm
      simp [firstUnprepared?, untilUnprepared, stops]
    | ok n =>
      have goes : (fate node).unprepared? = none := met.symm
      obtain ⟨gs, _, ⟨ready, failure⟩, rfl, prepared_rest, h⟩ := Procedure.leads_bind.1 h
      obtain ⟨rfl, eq⟩ := Procedure.leads_pure.1 h
      cases eq
      obtain ⟨first, readied⟩ := ih (fun other mem => meets other (List.mem_cons_of_mem _ mem))
        prepared_rest fun ev mem => kept ev (by simp [mem])
      constructor
      · simpa [firstUnprepared?, goes] using first
      · simpa [untilUnprepared, goes] using ⟨⟨fs, prepared, kept_fs⟩, readied⟩

/-- A node that was tried came to its fate. -/
structure Tried (c : Cluster β) (fate : NodeParams → Fate β) (d : Deployment β) : Prop where
  fated : d.member? = (fate d.node).member?
  named : ∀ n, d.member? = some n →
    n.params = d.node ∧ c.setting.factory.endpoint d.node = .ok n.endpoint

/-- Nodes that are ready come to their fates in a pool. -/
theorem followed_tried {workers : Nat} (atOnce : c.setting.factory.strategy = .concurrent workers)
    {attempted : List NodeParams} (meets : ∀ node ∈ attempted, c.Meets allowed node (fate node))
    {ready : List (Node β)} {parts : List (Pool.Part outside (Except Error (Node β)))}
    (readied : List.Forall₂ (fun node n => ∃ fs, (c.prepare node).run.Leads fs (.ok n) ∧
      ∀ ev ∈ fs, allowed ev) attempted ready)
    (followed : Pool.Followed (ready.map Node.deployOnWorker) parts)
    (kept : ∀ part ∈ parts, ∀ ev ∈ part.1, allowed ev) :
    ∃ ds : List (Deployment β), ds.map (·.node) = attempted ∧
      ds.map (·.result) = parts.map (·.2) ∧ ∀ d ∈ ds, c.Tried fate d := by
  induction readied generalizing parts with
  | nil =>
    cases followed
    exact ⟨[], by simp⟩
  | @cons node n attempted ready here readied ih =>
    cases followed with
    | @cons _ part _ parts worked followed =>
      obtain ⟨fs, prepared, kept_fs⟩ := here
      have deployed : (c.deployment node).Leads (fs ++ part.1) part.2 := by
        unfold deployment
        rw [atOnce]
        exact prepared.bind worked
      have fated : part.2.bind Except.toOption = (fate node).member? := by
        refine (meets node List.mem_cons_self).deployed _ _ deployed fun ev mem => ?_
        rcases List.mem_append.1 mem with mem | mem
        · exact kept_fs ev mem
        · exact kept part List.mem_cons_self ev mem
      obtain ⟨ds, inOrder, results, tried⟩ :=
        ih (fun other mem => meets other (List.mem_cons_of_mem _ mem)) followed
          fun part mem => kept part (List.mem_cons_of_mem _ mem)
      refine ⟨⟨node, fs ++ part.1, part.2⟩ :: ds, by simp [inOrder], by simp [results], ?_⟩
      intro d mem
      rcases List.mem_cons.1 mem with rfl | mem
      · refine ⟨fated, fun n up => ?_⟩
        have result : part.2 = some (.ok n) := Deployment.member?_eq_some.1 up
        rw [result] at deployed
        exact deployment_leads_ok deployed
      · exact tried d mem

/-- What comes out of a pool of nodes that are ready is what they came to. -/
theorem pool_tried {workers : Nat} (atOnce : c.setting.factory.strategy = .concurrent workers)
    {attempted : List NodeParams} (meets : ∀ node ∈ attempted, c.Meets allowed node (fate node))
    {ready : List (Node β)} {outcome : Pool.Outcome (Except Error (Node β))}
    (readied : List.Forall₂ (fun node n => ∃ fs, (c.prepare node).run.Leads fs (.ok n) ∧
      ∀ ev ∈ fs, allowed ev) attempted ready)
    (h : (Pool.run workers (ready.map Node.deployOnWorker)).Leads es outcome)
    (kept : ∀ ev ∈ es, allowed ev) :
    ∃ ds : List (Deployment β), ds.map (·.node) = attempted ∧ (∀ d ∈ ds, c.Tried fate d) ∧
      (outcome.completed.filterMap Except.toOption).Perm (ds.filterMap Deployment.member?) ∧
      ((∀ r ∈ outcome.completed, ∃ n, r = .ok n) ∧ outcome.failed = false ↔
        ∀ d ∈ ds, d.Succeeded) := by
  obtain ⟨parts, followed, interleaved, sums⟩ := Pool.run_leads h
  obtain ⟨ds, inOrder, results, tried⟩ := followed_tried atOnce meets readied followed
    fun part mem ev hev => kept ev (interleaved.subset (List.mem_map_of_mem mem) hev)
  -- a failure to prepare a node is no part of the pool
  have results : ds.map (·.result) =
      parts.map (·.2) ++ (none : Option Error).toList.map (some <| .error ·) := by
    simpa using results
  exact ⟨ds, inOrder, tried, members_completed sums results,
    by simpa using verdict_completed sums results⟩

omit [Backend β] in
theorem Vacant.sublist {some : List NodeParams} (vacant : c.Vacant nodes)
    (sub : some.Sublist nodes) : c.Vacant some :=
  ⟨vacant.distinct.sublist (sub.map _), fun node mem => vacant.free node (sub.subset mem)⟩

/-- Of nodes that were tried, those that came up become members. -/
theorem registerAll_tried {ds : List (Deployment β)} (tried : ∀ d ∈ ds, c.Tried fate d)
    {completed : List (Except Error (Node β))}
    (members : (completed.filterMap Except.toOption).Perm (ds.filterMap Deployment.member?))
    (vacant : c.Vacant (ds.map (·.node))) {failure : Option Error}
    (h : (c.registerAll completed).Leads es (failure, c')) :
    es = [] ∧ c'.setting = c.setting ∧ c'.params = c.params ∧
      (∀ key n, c'.members.find? key = some n ↔ c.members.find? key = some n ∨
        ∃ node ∈ ds.map (·.node), (fate node).member? = some n ∧ node.name = key) ∧
      (failure = none ↔ ∀ r ∈ completed, ∃ n, r = .ok n) := by
  have name : ∀ d ∈ ds, ∀ n, d.member? = some n → n.name = d.node.name :=
    fun d hd n hn => congrArg NodeParams.name ((tried d hd).named n hn).1
  have up : ∀ n, .ok n ∈ completed ↔ ∃ d ∈ ds, d.member? = some n := by
    intro n
    have same := members.mem_iff (a := n)
    simp only [List.mem_filterMap, toOption_eq_some] at same
    simpa using same
  have distinct : (ds.map fun d => d.node.name).Nodup := by
    simpa [Function.comp_def] using vacant.distinct
  obtain ⟨rfl, setting, params, found, verdict⟩ := registerAll_leads
    ((members.map Node.name).nodup_iff.2 (nodup_member_names distinct name)) (fun n hn => by
      obtain ⟨d, hd, result⟩ := (up n).1 hn
      rw [name d hd n result]
      exact vacant.free _ (List.mem_map_of_mem hd)) h
  refine ⟨rfl, setting, params, fun key n => ?_, verdict⟩
  rw [found, up]
  refine or_congr_right ⟨?_, ?_⟩
  · rintro ⟨⟨d, hd, result⟩, rfl⟩
    exact ⟨d.node, List.mem_map_of_mem hd, (tried d hd).fated.symm.trans result,
      (name d hd n result).symm⟩
  · rintro ⟨node, mem, result, rfl⟩
    obtain ⟨d, hd, rfl⟩ := List.mem_map.1 mem
    have result := (tried d hd).fated.trans result
    exact ⟨⟨d, hd, result⟩, name d hd n result⟩

omit [Backend β] in
theorem succeeded_iff {ds : List (Deployment β)} (tried : ∀ d ∈ ds, c.Tried fate d) :
    (∀ d ∈ ds, d.Succeeded) ↔ ∀ node ∈ ds.map (·.node), (fate node).member?.isSome := by
  rw [List.forall_mem_map]
  refine forall₂_congr fun d hd => ?_
  rw [← (tried d hd).fated, Option.isSome_iff_exists]
  exact exists_congr fun n => Deployment.member?_eq_some.symm

omit [Backend β] in
/-- Nothing fails if and only if every node comes up. -/
theorem failure_eq_none {ds : List (Deployment β)} (tried : ∀ d ∈ ds, c.Tried fate d)
    (inOrder : ds.map (·.node) = untilUnprepared fate nodes)
    {outcome : Pool.Outcome (Except Error (Node β))} {undeployed : Option Error}
    (verdict : undeployed = none ↔ ∀ r ∈ outcome.completed, ∃ n, r = .ok n)
    (all : (∀ r ∈ outcome.completed, ∃ n, r = .ok n) ∧ outcome.failed = false ↔
      ∀ d ∈ ds, d.Succeeded) :
    (firstUnprepared? fate nodes).or (undeployed.or (poolFailure outcome)) = none ↔
      ∀ node ∈ nodes, (fate node).member?.isSome := by
  have alive : poolFailure outcome = none ↔ outcome.failed = false := by
    simp [poolFailure]
  rw [Option.or_eq_none_iff, Option.or_eq_none_iff, alive, verdict, all, succeeded_iff tried,
    inOrder]
  constructor
  · rintro ⟨prepared, up⟩
    rwa [firstUnprepared?_eq_none prepared] at up
  · intro up
    exact ⟨firstUnprepared?_of_up up, fun node mem => up node (untilUnprepared_sublist.subset mem)⟩

theorem deployAtOnce_ends {workers : Nat}
    (atOnce : c.setting.factory.strategy = .concurrent workers)
    (meets : ∀ node ∈ nodes, c.Meets allowed node (fate node)) (vacant : c.Vacant nodes)
    {r : Except Error Unit} (h : (c.deployAtOnce workers nodes).Leads es (r, c'))
    (kept : ∀ ev ∈ es, allowed ev) :
    c.Ended fate nodes (untilUnprepared fate nodes) r c' ∧
      ∀ e, firstUnprepared? fate nodes = some e → r = .error e := by
  obtain ⟨fs, _, ⟨ready, unprepared⟩, rfl, prepared, h⟩ := Procedure.leads_bind.1 h
  obtain ⟨gs, _, outcome, rfl, pool, h⟩ := Procedure.leads_bind.1 h
  obtain ⟨_, hs, ⟨undeployed, c₁⟩, rfl, registered, last⟩ := Procedure.leads_bind.1 h
  obtain ⟨rfl, readied⟩ := prepareAll_ends meets prepared fun ev mem => kept ev (by simp [mem])
  obtain ⟨ds, inOrder, tried, members, all⟩ := pool_tried atOnce
    (fun node mem => meets node (untilUnprepared_sublist.subset mem)) readied pool
    fun ev mem => kept ev (by simp [mem])
  obtain ⟨rfl, setting, params, found, verdict⟩ := registerAll_tried tried members
    (inOrder ▸ vacant.sublist untilUnprepared_sublist) registered
  have none := failure_eq_none tried inOrder verdict all
  have concluded : c' = c₁ ∧ ∀ failure,
      (firstUnprepared? fate nodes).or (undeployed.or (poolFailure outcome)) = failure →
        r = failure.elim (.ok ()) .error := by
    dsimp only at last
    generalize (firstUnprepared? fate nodes).or (undeployed.or (poolFailure outcome)) = failure
      at last ⊢
    cases failure with
    | none =>
      cases (Procedure.leads_pure.1 last).2
      simp
    | some e =>
      cases (Procedure.leads_pure.1 last).2
      simp
  obtain ⟨rfl, concluded⟩ := concluded
  refine ⟨⟨setting, params, ?_, inOrder ▸ found, ?_⟩, fun e unprepared => ?_⟩
  · rw [← inOrder]
    intro node mem n hn
    obtain ⟨d, hd, rfl⟩ := List.mem_map.1 mem
    exact (tried d hd).named n ((tried d hd).fated.trans hn)
  · rw [← none, concluded _ rfl]
    cases (firstUnprepared? fate nodes).or (undeployed.or (poolFailure outcome)) <;> simp
  · rw [concluded (some e) (by rw [unprepared]; rfl)]
    rfl

/-! ## The layout -/

/-- What the bootstrapper is to submit if all configured nodes come up, but for the id. -/
def submission (c : Cluster β) (fate : NodeParams → Fate β) : Option BootstrapRequest :=
  if ∀ node ∈ c.params.nodes, (fate node).member?.isSome then
    let members := c.params.nodes.filterMap fun node => (fate node).member?
    (Layout.bootstrap .blank (members.map (·.endpoint))).toOption.map fun layout =>
      ⟨c.name, layout, c.params.bootstrapRetries, c.params.retryTimeout⟩
  else none

/-- A request is handed to the bootstrapper last of all, and what comes of it is the result. -/
def Hands (c : Cluster β) (request : Option BootstrapRequest) (es : List (Event outside))
    (r : Except Error Unit) : Prop :=
  ∀ q, request = some q → ∃ before handed after, es = before ++ after ∧ handed.anonymous = q ∧
    (c.setting.bootstrapper handed).run.Leads after r

/-- What the bootstrapper comes to depends on nothing but the request, whatever its id. -/
def Answers (c : Cluster β) (allowed : Event outside → Prop)
    (accepted : BootstrapRequest → Prop) : Prop :=
  ∀ request es r, (c.setting.bootstrapper request).run.Leads es r → (∀ ev ∈ es, allowed ev) →
    (r = .ok () ↔ accepted request.anonymous)

omit [Backend β] in
/-- A layout is handed over once if it is a proper one, and what comes of it is the result. -/
theorem bootstrap_settles {accepted : BootstrapRequest → Prop} (answers : c.Answers allowed accepted)
    {endpoints : List String} (found : c.endpoints = .ok endpoints) {r : Except Error Unit}
    (h : c.bootstrap.run.Leads es r) (kept : ∀ ev ∈ es, allowed ev) :
    let request := (Layout.bootstrap .blank endpoints).toOption.map fun layout =>
      ⟨c.name, layout, c.params.bootstrapRetries, c.params.retryTimeout⟩
    c.Hands request es r ∧
      (c.setting.bootstrapper = .delegated → requests es = request.toList) ∧
      (r = .ok () ↔ ∃ q, request = some q ∧ accepted q) := by
  obtain ⟨id, fs, rfl, handed⟩ := bootstrap_hands found h
  by_cases proper : endpoints ≠ [] ∧ endpoints.Nodup
  · rw [Layout.bootstrap_eq_ok proper.1 proper.2] at handed
    rw [Layout.bootstrap_eq_ok proper.1 proper.2]
    have verdict := answers _ fs r handed fun ev mem => kept ev (List.mem_cons_of_mem _ mem)
    refine ⟨?_, fun delegated => ?_, verdict.trans ?_⟩
    · rintro q same
      cases same
      exact ⟨[_], _, fs, rfl, rfl, handed⟩
    · rw [delegated] at handed
      rw [Procedure.leads_ask.1 handed]
      rfl
    · simp [Except.toOption, BootstrapRequest.anonymous, Layout.complete]
  · have bad : endpoints = [] ∨ ¬endpoints.Nodup := by
      by_cases none : endpoints = []
      · exact .inl none
      · exact .inr fun distinct => proper ⟨none, distinct⟩
    obtain ⟨e, refused⟩ := Layout.bootstrap_refused id bad
    obtain ⟨e', refused'⟩ := Layout.bootstrap_refused .blank bad
    rw [refused] at handed
    obtain ⟨rfl, rfl⟩ := handed
    rw [refused']
    refine ⟨fun q same => ?_, fun _ => rfl, by simp [Except.toOption]⟩
    cases same

omit [Backend β] in
/-- Where every node came up, the members have the endpoints of the nodes, in their order. -/
theorem Ended.endpoints {r : Except Error Unit}
    (ended : c.Ended fate c.params.nodes c.params.nodes r c')
    (up : ∀ node ∈ c.params.nodes, (fate node).member?.isSome) :
    c'.endpoints = .ok
      ((c.params.nodes.filterMap fun node => (fate node).member?).map (·.endpoint)) := by
  have found : ∃ endpoints, List.Forall₂
      (fun node e => (fate node).member?.map (·.endpoint) = some e) c.params.nodes endpoints ∧
        c'.endpoints = .ok endpoints := by
    unfold Cluster.endpoints
    rw [ended.params]
    refine mapM_eq_ok fun node mem => ?_
    obtain ⟨n, hn⟩ := Option.isSome_iff_exists.1 (up node mem)
    rw [(ended.members node.name n).2 (.inr ⟨node, mem, hn, rfl⟩), hn]
    exact ⟨_, rfl, rfl⟩
  obtain ⟨endpoints, named, listed⟩ := found
  rw [listed]
  clear listed ended up
  generalize c.params.nodes = nodes at named ⊢
  induction named with
  | nil => rfl
  | @cons node e nodes endpoints here _ ih =>
    obtain ⟨n, hn, rfl⟩ := Option.map_eq_some_iff.1 here
    simp [hn, Except.ok.inj ih]

/-! ## Whole deployments -/

/-- A deployment ended with certain members, submitted what it had to and gave the answer. -/
structure Settled (c : Cluster β) (fate : NodeParams → Fate β) (accepted : BootstrapRequest → Prop)
    (attempted : List NodeParams) (es : List (Event outside)) (o : ClusterOutcome β Unit) :
    Prop where
  members : ∀ name n, o.2.members.find? name = some n ↔
    ∃ node ∈ attempted, (fate node).member? = some n ∧ node.name = name
  roster : o.2.members = .ofList
    ((attempted.filterMap fun node => (fate node).member?).map fun n => (n.name, n))
  handed : c.Hands (c.submission fate) es o.1
  /-- Nothing else is handed to a bootstrapper that leaves all requests to somebody else. -/
  requests : c.setting.bootstrapper = .delegated → requests es = (c.submission fate).toList
  verdict : o.1 = .ok () ↔ ∃ request, c.submission fate = some request ∧ accepted request

omit [Backend β] in
theorem Ended.roster {attempted : List NodeParams} {r : Except Error Unit} (fresh : c.members = ∅)
    (ended : c.Ended fate nodes attempted r c') (distinct : (attempted.map NodeParams.name).Nodup) :
    c'.members = .ofList
      ((attempted.filterMap fun node => (fate node).member?).map fun n => (n.name, n)) := by
  have name : ∀ node ∈ attempted, ∀ n, (fate node).member? = some n → n.name = node.name :=
    fun node mem n hn => congrArg NodeParams.name (ended.named node mem n hn).1
  have names : (((attempted.filterMap fun node => (fate node).member?).map
      fun n => (n.name, n)).map Prod.fst).Nodup := by
    rw [List.map_map]
    unfold List.Nodup at distinct ⊢
    rw [List.pairwise_map] at distinct ⊢
    rw [List.pairwise_filterMap]
    refine distinct.imp_of_mem fun {a b} ha hb ne n hn n' hn' => ?_
    change n.name ≠ n'.name
    rw [name a ha n hn, name b hb n' hn']
    exact ne
  refine NameMap.ext_find? fun key n => ?_
  rw [ended.members, fresh, NameMap.find?_ofList names]
  constructor
  · rintro (none | ⟨node, mem, hn, rfl⟩)
    · cases none
    · rw [← name node mem n hn]
      exact List.mem_map_of_mem (List.mem_filterMap.2 ⟨node, mem, hn⟩)
  · intro mem
    obtain ⟨k, hk, same⟩ := List.mem_map.1 mem
    cases same
    obtain ⟨node, mem, hn⟩ := List.mem_filterMap.1 hk
    exact .inr ⟨node, mem, hn, (name node mem n hn).symm⟩

section

variable [Detached β]

theorem deployNodes_aside (vacant : c.Vacant c.params.nodes) {r : Except Error Unit}
    (h : c.deployNodes.Leads es (r, c')) : ∀ ev ∈ es, ¬ev.call.IsBootstrap := by
  obtain ⟨ds, deployed⟩ := deployNodes_leads vacant h
  exact interleaved_within deployment_within deployed.followed deployed.interleaved

theorem deploy_settles {attempted : List NodeParams} (fresh : c.members = ∅)
    (vacant : c.Vacant c.params.nodes) {accepted : BootstrapRequest → Prop}
    (answers : c.Answers allowed accepted)
    (sub : attempted.Sublist c.params.nodes)
    (whole : (∀ node ∈ c.params.nodes, (fate node).member?.isSome) → attempted = c.params.nodes)
    (ends : ∀ fs v c₁, c.deployNodes.Leads fs (v, c₁) → (∀ ev ∈ fs, allowed ev) →
      c.Ended fate c.params.nodes attempted v c₁) {o : ClusterOutcome β Unit}
    (h : c.deploy.Leads es o) (kept : ∀ ev ∈ es, allowed ev) :
    c.Settled fate accepted attempted es o := by
  obtain ⟨before, after, ⟨v, c₁⟩, rfl, nodes, h⟩ := Procedure.leads_bind.1 h
  have ended := ends before v c₁ nodes fun ev mem => kept ev (List.mem_append_left _ mem)
  have none := requests_eq_nil (deployNodes_aside vacant nodes)
  have roster := ended.roster fresh (vacant.sublist sub).distinct
  have members : ∀ name n, c₁.members.find? name = some n ↔
      ∃ node ∈ attempted, (fate node).member? = some n ∧ node.name = name := by
    intro name n
    rw [ended.members, fresh, NameMap.find?_empty]
    simp
  cases v with
  | ok u =>
    have up := ended.verdict.1 rfl
    obtain ⟨fs, gs, answer, rfl, submitted, h⟩ := Procedure.leads_bind.1 h
    obtain ⟨rfl, rfl⟩ := Procedure.leads_pure.1 h
    rw [whole up] at ended
    have answers₁ : c₁.Answers allowed accepted := by
      rw [Answers, ended.setting]
      exact answers
    obtain ⟨handed, asked, verdict⟩ := bootstrap_settles answers₁ (ended.endpoints up) submitted
      fun ev mem => kept ev (by simp [mem])
    have same : c.submission fate = _ := if_pos up
    rw [name, ended.params] at handed asked verdict
    refine ⟨members, roster, fun q submits => ?_, fun delegated => ?_, ?_⟩
    · obtain ⟨first, request, last, rfl, alike, hands⟩ := handed q (by rw [← submits, same]; rfl)
      rw [ended.setting] at hands
      exact ⟨before ++ first, request, last, by simp, alike, hands⟩
    · rw [requests_append, none, List.append_nil, asked (ended.setting ▸ delegated), same]
      rfl
    · rw [verdict, same]
      rfl
  | error e =>
    obtain ⟨rfl, rfl⟩ := Procedure.leads_pure.1 h
    have down : ¬∀ node ∈ c.params.nodes, (fate node).member?.isSome := fun up => by
      cases ended.verdict.2 up
    have same : c.submission fate = Option.none := if_neg down
    refine ⟨members, roster, fun q submits => ?_, fun _ => ?_, ?_⟩
    · cases same.symm.trans submits
    · rw [List.append_nil, none, same]
      rfl
    · simp [same]

omit [Detached β] in
/-- A deployment whose nodes fail for certain fails as they do. -/
theorem deploy_fails {e : Error} (fails : ∀ fs v c₁, c.deployNodes.Leads fs (v, c₁) →
    (∀ ev ∈ fs, allowed ev) → v = .error e) {o : ClusterOutcome β Unit}
    (h : c.deploy.Leads es o) (kept : ∀ ev ∈ es, allowed ev) : o.1 = .error e := by
  obtain ⟨before, after, ⟨v, c₁⟩, rfl, nodes, h⟩ := Procedure.leads_bind.1 h
  obtain rfl := fails before v c₁ nodes fun ev mem => kept ev (List.mem_append_left _ mem)
  rw [(Procedure.leads_pure.1 h).2]

variable {accepted : BootstrapRequest → Prop} {o : ClusterOutcome β Unit}

theorem atOnce_settles {workers : Nat} (fresh : c.members = ∅)
    (ports : (c.params.nodes.map (·.port)).Nodup) (answers : c.Answers allowed accepted)
    (meets : ∀ node ∈ c.params.nodes, (c.under (.concurrent workers)).Meets allowed node (fate node))
    (h : (c.under (.concurrent workers)).deploy.Leads es o) (kept : ∀ ev ∈ es, allowed ev) :
    c.Settled fate accepted (untilUnprepared fate c.params.nodes) es o ∧
      ∀ e, firstUnprepared? fate c.params.nodes = some e → o.1 = .error e := by
  have vacant : (c.under (.concurrent workers)).Vacant c.params.nodes :=
    ⟨NodeParams.nodup_names ports, fun _ _ => by rw [under, fresh]; rfl⟩
  have ends : ∀ fs v c₁, (c.under (.concurrent workers)).deployNodes.Leads fs (v, c₁) →
      (∀ ev ∈ fs, allowed ev) → _ := fun fs v c₁ nodes kept =>
    deployAtOnce_ends rfl meets vacant nodes kept
  have settled := deploy_settles (c := c.under (.concurrent workers)) fresh vacant answers
    untilUnprepared_sublist (fun up => firstUnprepared?_eq_none (firstUnprepared?_of_up up))
    (fun fs v c₁ nodes kept => (ends fs v c₁ nodes kept).1) h kept
  refine ⟨⟨settled.members, settled.roster, settled.handed, settled.requests, settled.verdict⟩, ?_⟩
  intro e unprepared
  exact deploy_fails (fun fs v c₁ nodes kept => (ends fs v c₁ nodes kept).2 e unprepared) h kept

theorem inTurn_settles (fresh : c.members = ∅) (ports : (c.params.nodes.map (·.port)).Nodup)
    (answers : c.Answers allowed accepted)
    (meets : ∀ node ∈ c.params.nodes, (c.under .sequential).Meets allowed node (fate node))
    (h : (c.under .sequential).deploy.Leads es o) (kept : ∀ ev ∈ es, allowed ev) :
    c.Settled fate accepted (untilDown fate c.params.nodes) es o := by
  have vacant : (c.under .sequential).Vacant c.params.nodes :=
    ⟨NodeParams.nodup_names ports, fun _ _ => by rw [under, fresh]; rfl⟩
  have settled := deploy_settles (c := c.under .sequential) fresh vacant answers
    untilDown_sublist untilDown_of_up
    (fun fs v c₁ nodes kept => deployInTurn_ends rfl meets vacant nodes kept) h kept
  exact ⟨settled.members, settled.roster, settled.handed, settled.requests, settled.verdict⟩

/-- Deploying a cluster at once, on any number of workers, and deploying it in turn, each among peers
of its own that answer as they may. Both end as the fates of the nodes say. -/
theorem deployments_settle {σ σ' : Type} (fresh : c.members = ∅)
    (ports : (c.params.nodes.map (·.port)).Nodup) (answers : c.Answers allowed accepted)
    (meets : ∀ strategy, ∀ node ∈ c.params.nodes,
      (c.under strategy).Meets allowed node (fate node))
    (workers : Nat) (peers : Peers outside σ) (m : Moment σ)
    (kept : ∀ ev ∈ (c.under (.concurrent workers)).deploy.trace peers m, allowed ev)
    (peers' : Peers outside σ') (m' : Moment σ')
    (kept' : ∀ ev ∈ (c.under .sequential).deploy.trace peers' m', allowed ev) :
    let atOnce := ((c.under (.concurrent workers)).deploy.run peers m).1
    let inTurn := ((c.under .sequential).deploy.run peers' m').1
    c.Settled fate accepted (untilUnprepared fate c.params.nodes)
        ((c.under (.concurrent workers)).deploy.trace peers m) atOnce ∧
      c.Settled fate accepted (untilDown fate c.params.nodes)
        ((c.under .sequential).deploy.trace peers' m') inTurn ∧
      (∀ e, firstUnprepared? fate c.params.nodes = some e → atOnce.1 = .error e) ∧
      (∀ name n, inTurn.2.members.find? name = some n → atOnce.2.members.find? name = some n) ∧
      ((∀ node ∈ c.params.nodes, (fate node).member?.isSome) →
        inTurn.2.members = atOnce.2.members) := by
  obtain ⟨atOnce, unprepared⟩ := atOnce_settles fresh ports answers (meets _)
    (Procedure.leads_run peers _ m) kept
  have inTurn := inTurn_settles fresh ports answers (meets _)
    (Procedure.leads_run peers' _ m') kept'
  refine ⟨atOnce, inTurn, unprepared, fun name n found => ?_, fun up => ?_⟩
  · obtain ⟨node, mem, up⟩ := (inTurn.members name n).1 found
    exact (atOnce.members name n).2 ⟨node, untilDown_subset mem, up⟩
  · rw [atOnce.roster, inTurn.roster, untilDown_of_up up,
      firstUnprepared?_eq_none (firstUnprepared?_of_up up)]

/-- Four stand-ins, of which the third cannot be made. -/
def quartet : Cluster StandIn :=
  .ofParams ⟨.standIns .sequential "" [] ["node9002"], .delegated, "logs", "corfu", "today"⟩
    ⟨"quartet", .server, [.ofPort 9000, .ofPort 9001, .ofPort 9002, .ofPort 9003], 3, .ofSecs 10⟩

/-- The second of the stand-ins does not come up. -/
def quartetAnswers : (call : Call) → call.Answer
  | .act name _ => if name = "node9001" then some (.error (.internal "refused")) else some (.ok ())
  | call => ((Lab.Engine.empty Lab.Engine.defaultInfo []).answerExactly call).1

theorem deployments_settle_quartet :
    let fate := StandIn.fate quartet quartetAnswers
    let accepted : BootstrapRequest → Prop := fun _ => True
    let peers := steadyPeers quartetAnswers fun _ => ⟨5⟩
    let peers' := steadyPeers quartetAnswers fun _ => .zero
    let atOnce := (quartet.under (.concurrent 2)).deploy
    let inTurn := (quartet.under .sequential).deploy
    let m : Moment Unit := ⟨.zero, ()⟩
    quartet.Settled fate accepted (untilUnprepared fate quartet.params.nodes)
        (atOnce.trace peers m) (atOnce.run peers m).1 ∧
      quartet.Settled fate accepted (untilDown fate quartet.params.nodes)
        (inTurn.trace peers' m) (inTurn.run peers' m).1 ∧
      (atOnce.run peers m).1.1 = .error (.config "backend of node9002") := by
  intro fate accepted peers peers' atOnce inTurn m
  have accepts : quartet.Answers (fun ev => ev.answer = quartetAnswers ev.call) accepted := by
    intro request es r handed kept
    have asked := Procedure.leads_ask.1 handed
    exact iff_of_true (kept ⟨.bootstrap request, r⟩ (asked ▸ List.mem_singleton_self _)) trivial
  have meets : ∀ strategy, ∀ node ∈ quartet.params.nodes, (quartet.under strategy).Meets
      (fun ev => ev.answer = quartetAnswers ev.call) node (fate node) :=
    fun strategy node _ => StandIn.meets_fate (quartet.under strategy) quartetAnswers node
  have settle := deployments_settle rfl (by decide) accepts meets 2 peers m steadyPeers_alike peers' m
    steadyPeers_alike
  have unprepared : firstUnprepared? fate quartet.params.nodes =
      some (.config "backend of node9002") := by
    decide +kernel
  exact ⟨settle.1, settle.2.1, settle.2.2.1 _ unprepared⟩

end

end Cluster

end Testbed
