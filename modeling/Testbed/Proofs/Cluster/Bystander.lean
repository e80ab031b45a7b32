import Testbed.Proofs.Cluster.Ownership
import Testbed.Proofs.Container.Bystander
/-!
# Clusters beside the containers of others

No member of a cluster is a node whose container somebody else has: a node of such a name does not
come up, and only nodes that came up become members. So whatever is done to the cluster keeps that
container as it is (`apply_keeps`).
-/

namespace Testbed

open Procedure (Keeps)
open Lab (SimulatedContainer)

variable {name : String} {k : SimulatedContainer}

/-! ## Nodes -/

namespace Node

variable {n : Node Physical}

theorem deploy_keeps (unclaimed : n.backend.Unclaimed name) :
    n.deploy.Keeps name k fun r => ∀ d, r = .ok d → d.backend.Apart name := by
  refine (Physical.deploy_keeps unclaimed).bind ?_
  rintro ⟨r, b⟩ ⟨unclaimed, apart⟩
  cases r with
  | ok u =>
    refine Procedure.keeps_pure fun d eq => ?_
    cases eq
    exact apart rfl
  | error e =>
    refine (Physical.release_spares unclaimed).keeps.bind fun _ _ => ?_
    exact Procedure.keeps_pure fun _ eq => by cases eq

theorem act_keeps (apart : n.backend.Apart name) (action : Backend.Action) :
    (action.onNode n).Keeps name k fun o => o.2.backend.Apart name := by
  cases action with
  | perform op =>
    exact (Physical.perform_keeps apart op).bind fun o apart => Procedure.keeps_pure apart
  | destroy =>
    exact (Physical.destroy_keeps apart).bind fun o apart => Procedure.keeps_pure apart

end Node

/-! ## Members -/

/-- What makes the nodes of a cluster containers that nobody answers for yet. -/
structure ClusterSetting.Unclaimed (name : String) (setting : ClusterSetting Physical) : Prop where
  inTurn : setting.factory.strategy = .sequential
  backend : ∀ node dir b, setting.factory.backend node dir = .ok b → b.Unclaimed name
  bootstrapper : ∀ r, (setting.bootstrapper r).run.Within (Call.Spares name)

namespace Cluster

/-- All members, now and later, are for containers of other names. -/
structure Apart (name : String) (c : Cluster Physical) : Prop where
  setting : c.setting.Unclaimed name
  members : ∀ e ∈ c.members.entries, e.2.backend.Apart name

variable {c : Cluster Physical} {n : Node Physical} {key : String}

theorem Apart.insert (apart : c.Apart name) (member : n.backend.Apart name) :
    Apart name { c with members := c.members.insert key n } where
  setting := apart.setting
  members e mem := by
    rcases Ascending.mem_insert mem with rfl | mem
    · exact member
    · exact apart.members e mem

theorem Apart.erase (apart : c.Apart name) :
    Apart name { c with members := c.members.erase key } where
  setting := apart.setting
  members e mem := apart.members e (List.mem_filter.1 mem).1

theorem register_keeps (apart : c.Apart name) (member : n.backend.Apart name) :
    (c.register n).Keeps name k fun c' => c'.Apart name := by
  unfold register
  cases found : c.members.find? n.name with
  | none => exact Procedure.keeps_pure (apart.insert member)
  | some old =>
    have old_apart : old.backend.Apart name := apart.members _ (NameMap.mem_entries.2 found)
    refine (Physical.release_spares old_apart.unclaimed).keeps.bind fun _ _ => ?_
    exact Procedure.keeps_pure (apart.insert member)

/-! ## Deploying -/

theorem prepare_unclaimed {node : NodeParams} {es : List (Event outside)}
    (setting : c.setting.Unclaimed name) (h : (c.prepare node).run.Leads es (.ok n)) :
    n.backend.Unclaimed name := by
  unfold prepare at h
  obtain ⟨_, _, _, -, -, h⟩ := Attempt.leads_bind_ok.1 h
  obtain ⟨_, _, endpoint, -, -, h⟩ := Attempt.leads_bind_ok.1 h
  obtain ⟨_, _, backend, -, made, h⟩ := Attempt.leads_bind_ok.1 h
  have made := (Procedure.leads_pure.1 made).2
  cases (Procedure.leads_pure.1 h).2
  exact setting.backend node _ backend made.symm

theorem deployNode_keeps (apart : c.Apart name) (node : NodeParams) :
    (c.deployNode node).Keeps name k fun r => ∀ d, r = .ok d → d.backend.Apart name := by
  have prepared : (c.prepare node).run.Within (Call.Spares name) := prepare_within trivial
  refine prepared.keeps.leads.bind ?_
  rintro r ⟨-, es, leads⟩
  cases r with
  | ok ready => exact Node.deploy_keeps (prepare_unclaimed apart.setting leads)
  | error e => exact Procedure.keeps_pure fun _ eq => by cases eq

theorem deployInTurn_keeps {nodes : List NodeParams} (apart : c.Apart name) :
    (c.deployInTurn nodes).Keeps name k fun o => o.2.Apart name := by
  induction nodes generalizing c with
  | nil => exact Procedure.keeps_pure apart
  | cons node rest ih =>
    refine (deployNode_keeps apart node).bind fun r member => ?_
    cases r with
    | ok d => exact (register_keeps apart (member d rfl)).bind fun c' apart => ih apart
    | error e => exact Procedure.keeps_pure apart

theorem bootstrap_spares (setting : c.setting.Unclaimed name) :
    c.bootstrap.run.Within (Call.Spares name) := by
  refine Attempt.within_bind (Procedure.within_pure _) fun endpoints => ?_
  have fresh : (Procedure.ask (I := outside) .freshId).Within (Call.Spares name) :=
    Procedure.within_ask.2 trivial
  refine Attempt.within_bind (fresh.map _) fun clusterId => ?_
  exact Attempt.within_bind (Procedure.within_pure _) fun layout => setting.bootstrapper _

theorem deploy_keeps (apart : c.Apart name) :
    c.deploy.Keeps name k fun o => o.2.Apart name := by
  have nodes : c.deployNodes.Keeps name k fun o => o.2.Apart name := by
    unfold deployNodes
    rw [apart.setting.inTurn]
    exact deployInTurn_keeps apart
  refine nodes.bind ?_
  rintro ⟨r, c'⟩ apart
  cases r with
  | ok u =>
    exact (bootstrap_spares apart.setting).keeps.bind fun _ _ => Procedure.keeps_pure apart
  | error e => exact Procedure.keeps_pure apart

theorem add_keeps (apart : c.Apart name) (node : NodeParams) :
    (c.add node).Keeps name k fun o => o.2.Apart name := by
  unfold add
  split
  · exact Procedure.keeps_pure apart
  · rename_i params added
    refine (deployNode_keeps apart node).bind fun r member => ?_
    cases r with
    | ok d =>
      have grown : Apart name { c with params := params } := ⟨apart.setting, apart.members⟩
      exact (register_keeps grown (member d rfl)).bind fun c' apart => Procedure.keeps_pure apart
    | error e => exact Procedure.keeps_pure apart

/-! ## Acting on members -/

theorem performOn_keeps (apart : c.Apart name) (action : Backend.Action) :
    (c.performOn key action.onNode).Keeps name k fun r => ∀ o, r = some o → o.2.Apart name := by
  unfold performOn
  cases found : c.members.find? key with
  | none => exact Procedure.keeps_pure fun _ eq => by cases eq
  | some member =>
    have member_apart : member.backend.Apart name :=
      apart.members _ (NameMap.mem_entries.2 found)
    refine (Node.act_keeps member_apart action).bind fun o member => ?_
    refine Procedure.keeps_pure fun o' eq => ?_
    cases eq
    exact apart.insert member

theorem performAll_keeps {op : Operation} {summary : TeardownSummary}
    {rest : List (String × Node Physical)} (apart : c.Apart name)
    (members : ∀ e ∈ rest, e.2.backend.Apart name) :
    (c.performAll op summary rest).Keeps name k fun o => o.2.Apart name := by
  induction rest generalizing c summary with
  | nil => exact Procedure.keeps_pure apart
  | cons e rest ih =>
    have member_apart : e.2.backend.Apart name := members e List.mem_cons_self
    refine (Node.act_keeps member_apart (.perform op)).bind fun o member => ?_
    exact ih (apart.insert member) fun e mem => members e (List.mem_cons_of_mem _ mem)

theorem stop_keeps (apart : c.Apart name) (timeout : Duration) :
    (c.stop timeout).Keeps name k fun o => o.2.Apart name :=
  performAll_keeps apart apart.members

theorem kill_keeps (apart : c.Apart name) : c.kill.Keeps name k fun o => o.2.Apart name :=
  performAll_keeps apart apart.members

theorem destroyAll_keeps {summary : TeardownSummary} {rest : List (String × Node Physical)}
    (apart : c.Apart name) (members : ∀ e ∈ rest, e.2.backend.Apart name) :
    (c.destroyAll summary rest).Keeps name k fun o => o.2.Apart name := by
  induction rest generalizing c summary with
  | nil => exact Procedure.keeps_pure apart
  | cons e rest ih =>
    have rest_members (e') (mem : e' ∈ rest) := members e' (List.mem_cons_of_mem _ mem)
    have member_apart : e.2.backend.Apart name := members e List.mem_cons_self
    refine (Node.act_keeps member_apart .destroy).bind ?_
    rintro ⟨r, member⟩ member_apart
    cases r with
    | ok u =>
      refine (Physical.release_spares member_apart.unclaimed).keeps.bind fun _ _ => ?_
      exact ih apart.erase rest_members
    | error err => exact ih (apart.insert member_apart) rest_members

theorem destroy_keeps (apart : c.Apart name) : c.destroy.Keeps name k fun o => o.2.Apart name :=
  destroyAll_keeps apart apart.members

theorem apply_keeps (apart : c.Apart name) (act : Act) :
    (act.apply c).Keeps name k fun o => o.2.Apart name := by
  cases act with
  | deploy => exact deploy_keeps apart
  | bootstrap =>
    exact Keeps.map ((bootstrap_spares apart.setting).keeps.mono fun _ _ => apart)
  | add node => exact Keeps.map (add_keeps apart node)
  | onNode key action =>
    refine Keeps.map ((performOn_keeps apart action).mono fun r h => ?_)
    cases r with
    | none => exact apart
    | some o => exact h o rfl
  | stop timeout => exact Keeps.map (stop_keeps apart timeout)
  | kill => exact Keeps.map (kill_keeps apart)
  | destroy => exact Keeps.map (destroy_keeps apart)

/-- Giving up the members leaves the container to whom it belongs. -/
theorem release_spares (apart : c.Apart name) :
    (c.members.values.forM fun n => Backend.release n.backend).Within (Call.Spares name) := by
  refine Procedure.within_forM fun n mem => ?_
  obtain ⟨e, listed, rfl⟩ := List.mem_map.1 mem
  exact Physical.release_spares (apart.members e listed).unclaimed

end Cluster

end Testbed
