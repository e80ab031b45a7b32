import Testbed.Proofs.Cluster.Deployment
import Testbed.Proofs.Container.Calls
import Testbed.Proofs.Engine.Conduct
import Testbed.Proofs.RemoteProcess.Commands
/-!
# When a cluster is bootstrapped

Deploying a cluster tries its nodes in their order as long as there is no reason to stop
(`Undertakes`). It calls the bootstrapper once if all configured nodes came up, with the endpoints of
the nodes in the order in which they are configured, and else never: then it fails as the nodes did
(`deploy_bootstraps`). Endpoints that repeat would be refused in a layout; factories that put the port
last in an endpoint never give any (`Factory.Separates`).
-/

namespace Testbed

open Procedure (Within)

def Call.IsBootstrap : Call → Prop
  | .bootstrap _ => True
  | _ => False

/-! ## Factories -/

namespace Factory

variable {β γ : Type}

/-- Nodes on different ports get different endpoints. -/
def Separates (factory : Factory β) : Prop :=
  ∀ p q e, factory.endpoint p = .ok e → factory.endpoint q = .ok e → p.port = q.port

theorem containers_separates (service : ServiceParams) (network : String) :
    (containers service network).Separates := by
  intro p q e hp hq
  have same : p.endpoint = q.endpoint := Except.ok.inj (hp.trans hq.symm)
  exact NodeParams.port_eq_of_address_eq same

theorem standIns_separates (strategy : Strategy) (endpointLead : String)
    (withoutEndpoint withoutBackend : List String) :
    (standIns strategy endpointLead withoutEndpoint withoutBackend).Separates := by
  intro p q e hp hq
  simp only [standIns] at hp hq
  split at hp
  · cases hp
  · split at hq
    · cases hq
    · have same := Except.ok.inj (hp.trans hq.symm)
      simp only [NodeParams.endpoint, ← String.append_assoc] at same
      exact NodeParams.port_eq_of_address_eq same

theorem processes_separates (service : ServiceParams) (addresses : NameMap String)
    (workers : Nat) : (processes service addresses workers).Separates := by
  intro p q e hp hq
  simp only [processes] at hp hq
  cases hostP : address addresses p with
  | error _ => simp [hostP, Except.map] at hp
  | ok a =>
    cases hostQ : address addresses q with
    | error _ => simp [hostQ, Except.map] at hq
    | ok b =>
      rw [hostP] at hp
      rw [hostQ] at hq
      exact NodeParams.port_eq_of_address_eq (Except.ok.inj (hp.trans hq.symm))

/-- The factory gives endpoints as that of containers or that of remote processes does. -/
def IsPhysical (factory : Factory β) : Prop :=
  (∃ service network, factory.endpoint = (containers service network).endpoint) ∨
    ∃ service addresses workers,
      factory.endpoint = (processes service addresses workers).endpoint

theorem IsPhysical.separates {factory : Factory β} (physical : factory.IsPhysical) :
    factory.Separates := by
  unfold Separates
  rcases physical with ⟨service, network, same⟩ | ⟨service, addresses, workers, same⟩
  · rw [same]
    exact containers_separates service network
  · rw [same]
    exact processes_separates service addresses workers

/-- The endpoints of nodes on ports of their own do not repeat. -/
theorem Separates.nodup {factory : Factory β} (separates : factory.Separates)
    {nodes : List NodeParams} {endpoints : List String}
    (found : List.Forall₂ (fun node e => factory.endpoint node = .ok e) nodes endpoints)
    (ports : (nodes.map (·.port)).Nodup) : endpoints.Nodup := by
  induction found with
  | nil => exact .nil
  | @cons node e nodes endpoints here found ih =>
    obtain ⟨fresh, ports⟩ := List.nodup_cons.1 ports
    refine List.nodup_cons.2 ⟨fun mem => fresh ?_, ih ports⟩
    obtain ⟨i, hi, rfl⟩ := List.getElem_of_mem mem
    have there := found.get (by rw [found.length_eq]; exact hi) hi
    exact List.mem_map.2 ⟨_, List.getElem_mem _, (separates _ _ _ here there).symm⟩

end Factory

/-! ## Layouts -/

theorem mapM_eq_ok {α β : Type} {f : α → Except Error β} {R : α → β → Prop} {l : List α}
    (h : ∀ a ∈ l, ∃ b, f a = .ok b ∧ R a b) :
    ∃ bs, List.Forall₂ R l bs ∧ l.mapM f = .ok bs := by
  induction l with
  | nil => exact ⟨[], .nil, rfl⟩
  | cons a l ih =>
    obtain ⟨b, found, related⟩ := h a List.mem_cons_self
    obtain ⟨bs, rest, rest_found⟩ := ih fun other mem => h other (List.mem_cons_of_mem _ mem)
    refine ⟨b :: bs, .cons related rest, ?_⟩
    rw [List.mapM_cons, found, rest_found]
    rfl

theorem firstRepeated_eq_none {α : Type} [BEq α] [LawfulBEq α] {seen l : List α} :
    firstRepeated seen l = none ↔ l.Nodup ∧ ∀ a ∈ l, a ∉ seen := by
  induction l generalizing seen with
  | nil => simp [firstRepeated]
  | cons a l ih =>
    simp only [firstRepeated, List.contains_iff_mem]
    by_cases repeated : a ∈ seen
    · simp [repeated]
    · rw [if_neg repeated, ih, List.nodup_cons]
      simp only [List.mem_cons, not_or, forall_eq_or_imp]
      grind

namespace Layout

/-- Every server in every role. -/
def complete (id : Uuid) (endpoints : List String) : Layout where
  layoutServers := endpoints
  sequencers := endpoints
  segments := [⟨.chainReplication, 0, -1, [⟨endpoints⟩]⟩]
  unresponsiveServers := []
  epoch := 0
  clusterId := id

theorem bootstrap_eq_ok {id : Uuid} {endpoints : List String} (some : endpoints ≠ [])
    (distinct : endpoints.Nodup) : bootstrap id endpoints = .ok (complete id endpoints) := by
  have none : firstRepeated [] endpoints = Option.none :=
    firstRepeated_eq_none.2 ⟨distinct, by simp⟩
  simp [bootstrap, some, none, complete]

theorem bootstrap_refused (id : Uuid) {endpoints : List String}
    (bad : endpoints = [] ∨ ¬ endpoints.Nodup) : ∃ e, bootstrap id endpoints = .error e := by
  unfold bootstrap
  split
  · exact ⟨_, rfl⟩
  · rename_i some
    cases h : firstRepeated [] endpoints with
    | some e => exact ⟨_, rfl⟩
    | none =>
      have distinct := (firstRepeated_eq_none.1 h).1
      rcases bad with rfl | repeated
      · simp at some
      · exact absurd distinct repeated

end Layout

/-! ## Backends that leave bootstrapping to others -/

/-- No backend of the type bootstraps a cluster when it is deployed or given up. -/
class Detached (β : Type) [Backend β] : Prop where
  deploy (b : β) : (Backend.perform .deploy b).Within (¬ Call.IsBootstrap ·)
  deployOnWorker (b : β) : (Backend.deployOnWorker b).Within (¬ Call.IsBootstrap ·)
  release (b : β) : (Backend.release b).Within (¬ Call.IsBootstrap ·)

namespace Container

theorem not_bootstrap_of_places {c : Container} {call : Call} (h : c.Places call) :
    ¬ call.IsBootstrap := by
  cases h <;> exact id

instance : Detached Container where
  deploy _ := deploy_places.mono fun _ => not_bootstrap_of_places
  deployOnWorker _ := (deploy_places.mono fun _ => not_bootstrap_of_places).map some
  release _ := release_within id

end Container

namespace RemoteProcess

instance : Detached RemoteProcess where
  deploy _ := deploy_within fun _ => id
  deployOnWorker _ := (deploy_within fun _ => id).map some
  release _ := Procedure.within_pure ()

end RemoteProcess

namespace StandIn

theorem handOver_within (s : StandIn) (op : Operation) :
    (s.handOver op).Within (¬ Call.IsBootstrap ·) :=
  Within.bind (Procedure.within_ask.2 id) fun _ => Procedure.within_pure _

instance : Detached StandIn where
  deploy s := (s.handOver_within .deploy).bind fun _ => Procedure.within_pure _
  deployOnWorker s := s.handOver_within .deploy
  release _ := Procedure.within_pure ()

end StandIn

namespace Physical

section

variable {C : Call → Prop}

theorem deploy_within (engine : ∀ c, C (.engine c)) (shell : ∀ c, C (.shell c))
    (abandon : ∀ name, C (.abandon name)) (b : Physical) : (b.perform .deploy).Within C := by
  cases b with
  | container c =>
    refine Within.map (Container.deploy_places.mono fun call places => ?_) _
    cases places with
    | create _ | connect | start | remove => exact engine _
    | abandon => exact abandon _
  | process p => exact Within.map (RemoteProcess.deploy_within shell) _

theorem release_within (abandon : ∀ name, C (.abandon name)) (b : Physical) :
    (Backend.release b).Within C := by
  cases b with
  | container c => exact Container.release_within (abandon _)
  | process p => exact Procedure.within_pure ()

end

instance : Detached Physical where
  deploy := deploy_within (fun _ => id) (fun _ => id) fun _ => id
  deployOnWorker b := (deploy_within (fun _ => id) (fun _ => id) (fun _ => id) b).map some
  release := release_within fun _ => id

end Physical

namespace Cluster

variable {β : Type} [Backend β] [Detached β] {c : Cluster β}

/-! ## Deploying -/

theorem deployment_within (node : NodeParams) :
    (c.deployment node).Within (¬ Call.IsBootstrap ·) :=
  deployment_within_of id Detached.deploy Detached.deployOnWorker Detached.release

/-! ## Bootstrapping -/

/-- Deploying `ds` took the given calls, and bootstrapped nothing. No configured node was left out
without a reason, and the verdict is what those that were tried came to. -/
structure Undertakes (c : Cluster β) (ds : List (Deployment β)) (es : List (Event outside))
    (verdict : Except Error Unit) : Prop where
  tried : ∃ halt, c.Trials c.params.nodes ds halt ∧ Verdict ds halt verdict
  followed : ∀ d ∈ ds, (c.deployment d.node).Leads d.events d.result
  interleaved : Interleaving (ds.map (·.events)) es
  aside : ∀ e ∈ es, ¬ e.call.IsBootstrap

omit [Detached β] in
theorem Undertakes.succeeds_iff {ds : List (Deployment β)} {es : List (Event outside)}
    {verdict : Except Error Unit} (undertakes : c.Undertakes ds es verdict) :
    verdict = .ok () ↔ AllUp c.params.nodes ds := by
  obtain ⟨halt, trials, sums⟩ := undertakes.tried
  exact trials.succeeds_iff sums

/-- The bootstrapper is called once, last of all, and what it answers is the result. -/
def Bootstraps (c : Cluster β) (endpoints : List String) (es : List (Event outside))
    (r : Except Error Unit) : Prop :=
  ∃ id, es = [⟨.freshId, id⟩, ⟨.bootstrap ⟨c.name, .complete id endpoints,
    c.params.bootstrapRetries, c.params.retryTimeout⟩, r⟩]

omit [Backend β] [Detached β] in
theorem bootstraps_congr {c' : Cluster β} (same : c'.params = c.params) :
    c'.Bootstraps = c.Bootstraps := by
  cases c
  cases c'
  cases same
  rfl

/-- The bootstrapper is not called, as the endpoints make no layout. -/
def Refuses (endpoints : List String) (es : List (Event outside)) (r : Except Error Unit) : Prop :=
  ∃ id e, es = [⟨.freshId, id⟩] ∧ Layout.bootstrap id endpoints = .error e ∧ r = .error e

/-- What the calls after all deployments and the result have to be. A cluster that is not up is left
at that, with the verdict on its nodes. Only endpoints that repeat keep one that is up, and has nodes,
from being bootstrapped, and those of containers and remote processes do not. -/
structure Settles (c : Cluster β) (ds : List (Deployment β)) (verdict : Except Error Unit)
    (es : List (Event outside)) (r : Except Error Unit) : Prop where
  down : ¬AllUp c.params.nodes ds → es = [] ∧ r = verdict ∧ ∃ e, verdict = .error e
  up : AllUp c.params.nodes ds → ∃ endpoints,
    List.Forall₂ (c.setting.factory.endpoint · = .ok ·) c.params.nodes endpoints ∧
    (c.params.nodes ≠ [] ∧ endpoints.Nodup → c.Bootstraps endpoints es r) ∧
    (c.params.nodes = [] ∨ ¬endpoints.Nodup → Refuses endpoints es r) ∧
    (c.setting.factory.IsPhysical → endpoints.Nodup)

omit [Backend β] [Detached β] in
/-- The endpoints are made a layout under a new id. The bootstrapper is handed it if it is a proper
one. -/
theorem bootstrap_hands {endpoints : List String} (found : c.endpoints = .ok endpoints)
    {es : List (Event outside)} {r : Except Error Unit} (h : c.bootstrap.run.Leads es r) :
    ∃ id fs, es = ⟨.freshId, id⟩ :: fs ∧
      match Layout.bootstrap id endpoints with
      | .ok layout => (c.setting.bootstrapper
          ⟨c.name, layout, c.params.bootstrapRetries, c.params.retryTimeout⟩).run.Leads fs r
      | .error e => fs = [] ∧ r = .error e := by
  unfold bootstrap at h
  rw [found] at h
  obtain ⟨_, fs, _, rfl, listed, h⟩ | ⟨_, failed, -⟩ := Attempt.leads_bind.1 h
  swap
  · cases (Procedure.leads_pure.1 failed).2
  obtain ⟨rfl, eq⟩ := Procedure.leads_pure.1 listed
  cases eq
  obtain ⟨_, gs, id, rfl, asked, h⟩ | ⟨_, failed, -⟩ := Attempt.leads_bind.1 h
  swap
  · obtain ⟨_, -, eq⟩ := Procedure.leads_map.1 failed
    cases eq
  obtain ⟨_, asked, eq⟩ := Procedure.leads_map.1 asked
  cases eq
  rw [Procedure.leads_ask.1 asked]
  cases made : Layout.bootstrap id endpoints with
  | ok layout =>
    rw [made] at h
    obtain ⟨_, hs, _, rfl, named, h⟩ | ⟨_, failed, -⟩ := Attempt.leads_bind.1 h
    · obtain ⟨rfl, eq⟩ := Procedure.leads_pure.1 named
      cases eq
      refine ⟨id, hs, rfl, ?_⟩
      rw [made]
      exact h
    · cases (Procedure.leads_pure.1 failed).2
  | error e =>
    rw [made] at h
    obtain ⟨_, hs, _, rfl, named, h⟩ | ⟨_, failed, rfl⟩ := Attempt.leads_bind.1 h
    · cases (Procedure.leads_pure.1 named).2
    · obtain ⟨rfl, eq⟩ := Procedure.leads_pure.1 failed
      cases eq
      refine ⟨id, [], rfl, ?_⟩
      rw [made]
      exact ⟨rfl, rfl⟩

omit [Backend β] [Detached β] in
theorem bootstrap_leads (delegated : c.setting.bootstrapper = .delegated)
    {endpoints : List String} (found : c.endpoints = .ok endpoints)
    {es : List (Event outside)} {r : Except Error Unit} (h : c.bootstrap.run.Leads es r) :
    (endpoints ≠ [] ∧ endpoints.Nodup → c.Bootstraps endpoints es r) ∧
      (endpoints = [] ∨ ¬ endpoints.Nodup → Refuses endpoints es r) := by
  obtain ⟨id, fs, rfl, handed⟩ := bootstrap_hands found h
  constructor
  · rintro ⟨some, distinct⟩
    rw [Layout.bootstrap_eq_ok some distinct, delegated] at handed
    exact ⟨id, by rw [Procedure.leads_ask.1 handed]⟩
  · intro bad
    obtain ⟨e, refused⟩ := Layout.bootstrap_refused id bad
    rw [refused] at handed
    obtain ⟨rfl, rfl⟩ := handed
    exact ⟨id, e, rfl, refused, rfl⟩

omit [Detached β] in
/-- Where all configured nodes came up, they give the endpoints of the cluster. -/
theorem Deployed.endpoints {c c' : Cluster β} {es : List (Event outside)} {r : Except Error Unit}
    {ds : List (Deployment β)} (deployed : c.Deployed c.params.nodes es r c' ds)
    (up : AllUp c.params.nodes ds) :
    ∃ endpoints, List.Forall₂ (c.setting.factory.endpoint · = .ok ·) c.params.nodes endpoints ∧
      c'.endpoints = .ok endpoints := by
  unfold Cluster.endpoints
  rw [deployed.params]
  refine mapM_eq_ok fun node mem => ?_
  rw [← up.1] at mem
  obtain ⟨d, hd, rfl⟩ := List.mem_map.1 mem
  obtain ⟨n, result⟩ := up.2 d hd
  have member := (deployed.members d.node.name n).2 (.inr ⟨d, hd, result, rfl⟩)
  have followed := deployed.followed d hd
  rw [result] at followed
  exact ⟨n.endpoint, by rw [member], (deployment_leads_ok followed).2⟩

omit [Detached β] in
/-- A cluster that is up is bootstrapped, if it has nodes and their endpoints are distinct. -/
theorem Deployed.settles_up {c' : Cluster β} {before after : List (Event outside)}
    {v r : Except Error Unit} {ds : List (Deployment β)}
    (deployed : c.Deployed c.params.nodes before v c' ds) (up : AllUp c.params.nodes ds)
    (ports : (c.params.nodes.map (·.port)).Nodup)
    (delegated : c.setting.bootstrapper = .delegated)
    (submitted : c'.bootstrap.run.Leads after r) : c.Settles ds v after r := by
  obtain ⟨endpoints, named, found⟩ := deployed.endpoints up
  obtain ⟨accepted, refused⟩ :=
    bootstrap_leads (by rw [deployed.setting]; exact delegated) found submitted
  have empty : endpoints = [] ↔ c.params.nodes = [] := by
    rw [← List.length_eq_zero_iff, ← named.length_eq, List.length_eq_zero_iff]
  refine ⟨fun down => absurd up down, fun _ => ⟨endpoints, named, fun distinct => ?_, fun bad => ?_,
    fun physical => physical.separates.nodup named ports⟩⟩
  · rw [← bootstraps_congr deployed.params]
    exact accepted ⟨fun nil => distinct.1 (empty.1 nil), distinct.2⟩
  · exact refused (bad.imp_left empty.2)

omit [Backend β] [Detached β] in
theorem settles_down {ds : List (Deployment β)} {e : Error} (down : ¬AllUp c.params.nodes ds) :
    c.Settles ds (.error e) [] (.error e) :=
  ⟨fun _ => ⟨rfl, rfl, e, rfl⟩, fun up => absurd up down⟩

theorem Deployed.undertakes {c' : Cluster β} {es : List (Event outside)} {v : Except Error Unit}
    {ds : List (Deployment β)} (deployed : c.Deployed c.params.nodes es v c' ds) :
    c.Undertakes ds es v :=
  ⟨deployed.tried, deployed.followed, deployed.interleaved,
    interleaved_within deployment_within deployed.followed deployed.interleaved⟩

/-- A new cluster is bootstrapped once all its nodes are up, and only then. -/
theorem deploy_bootstraps {σ : Type} (fresh : c.members = ∅)
    (ports : (c.params.nodes.map (·.port)).Nodup)
    (delegated : c.setting.bootstrapper = .delegated) (peers : Peers outside σ) (m : Moment σ) :
    ∃ ds before after verdict, c.deploy.trace peers m = before ++ after ∧
      c.Undertakes ds before verdict ∧
      c.Settles ds verdict after (c.deploy.run peers m).1.1 := by
  have vacant : c.Vacant c.params.nodes :=
    ⟨NodeParams.nodup_names ports, fun _ _ => by rw [fresh]; rfl⟩
  have followed := Procedure.leads_run peers c.deploy m
  generalize c.deploy.trace peers m = es, (c.deploy.run peers m).1 = outcome at followed ⊢
  obtain ⟨r, last⟩ := outcome
  obtain ⟨before, after, ⟨verdict, c'⟩, rfl, nodes, h⟩ := Procedure.leads_bind.1 followed
  obtain ⟨ds, deployed⟩ := deployNodes_leads vacant nodes
  refine ⟨ds, before, after, verdict, rfl, deployed.undertakes, ?_⟩
  cases verdict with
  | ok u =>
    obtain ⟨fs, gs, answer, rfl, submitted, h⟩ := Procedure.leads_bind.1 h
    obtain ⟨rfl, eq⟩ := Procedure.leads_pure.1 h
    cases eq
    rw [List.append_nil]
    exact deployed.settles_up (deployed.verdict.1 rfl) ports delegated submitted
  | error e =>
    obtain ⟨rfl, eq⟩ := Procedure.leads_pure.1 h
    cases eq
    refine settles_down fun up => ?_
    cases deployed.verdict.2 up

/-- Two containers, of which the second comes first in the order of names. -/
def pair : Cluster Container :=
  .ofParams ⟨.containers .default "testnet", .delegated, "logs", "corfu", "today"⟩
    ⟨"pair", .server, [.ofPort 9999, .ofPort 10000], 3, .ofSecs 10⟩

/-- Both containers come up, and the layout has them in the order in which they are configured. -/
theorem deploy_bootstraps_pair :
    let m : Moment Lab.Engine := ⟨.zero, .empty Lab.Engine.defaultInfo []⟩
    pair.members = ∅ ∧ (pair.params.nodes.map (·.port)).Nodup ∧
      pair.setting.bootstrapper = .delegated ∧
      (pair.deploy.run Lab.Engine.peers m).1.1 = .ok () ∧
      ∃ ds before id, AllUp [.ofPort 9999, .ofPort 10000] ds ∧ pair.Undertakes ds before (.ok ()) ∧
        pair.deploy.trace Lab.Engine.peers m = before ++ [⟨.freshId, id⟩,
          ⟨.bootstrap ⟨"pair", .complete id ["node9999:9999", "node10000:10000"], 3, .ofSecs 10⟩,
            .ok ()⟩] := by
  intro m
  have ports : (pair.params.nodes.map (·.port)).Nodup := by decide
  have result : (pair.deploy.run Lab.Engine.peers m).1.1 = .ok () :=
    toOption_eq_some.1 (by decide +kernel)
  obtain ⟨ds, before, after, verdict, calls, undertakes, settles⟩ :=
    deploy_bootstraps (c := pair) rfl ports rfl Lab.Engine.peers m
  rw [result] at settles
  have up : AllUp pair.params.nodes ds := by
    by_contra down
    obtain ⟨-, same, e, failed⟩ := settles.down down
    cases same.trans failed
  obtain rfl : verdict = .ok () := undertakes.succeeds_iff.2 up
  obtain ⟨endpoints, named, bootstraps, -, physical⟩ := settles.up up
  have separate := physical (.inl ⟨.default, "testnet", rfl⟩)
  obtain rfl : endpoints = ["node9999:9999", "node10000:10000"] := by
    cases named with
    | cons first named =>
      cases named with
      | cons second named =>
        cases named
        rw [← Except.ok.inj first, ← Except.ok.inj second]
        decide +kernel
  obtain ⟨id, handed⟩ := bootstraps ⟨by simp [pair, ofParams], separate⟩
  exact ⟨rfl, ports, rfl, result, ds, before, id, up, undertakes, handed ▸ calls⟩

end Cluster

end Testbed
