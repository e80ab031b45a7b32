import Testbed.Proofs.Cluster.Ownership
import Testbed.Proofs.Fault.Healing
/-!
# Members that were deployed

A node becomes a member of a cluster when its deployment succeeded, and only what is done to nodes is
done to members afterwards. So all that is known of backends that were deployed is known of the
members, whatever was done to the cluster (`apply_staffed`).
-/

namespace Testbed

open Procedure (leads_bind leads_map leads_pure)

variable {es : List (Event outside)}

/-! ## Nodes -/

namespace Node

variable {n d : Node Physical}

theorem settle_reached {o : Outcome Physical} {fs : List (Event outside)}
    (deployed : (Backend.perform .deploy n.backend).Leads fs o)
    (settled : (n.settle o).Leads es (.ok d)) : Backend.Reached d.backend := by
  obtain ⟨r, b⟩ := o
  cases r with
  | ok u =>
    cases (leads_pure.1 settled).2
    exact .deployed deployed
  | error e =>
    obtain ⟨_, _, _, -, -, last⟩ := leads_bind.1 settled
    cases (leads_pure.1 last).2

theorem deploy_reached (leads : n.deploy.Leads es (.ok d)) : Backend.Reached d.backend := by
  obtain ⟨_, _, o, -, deployed, settled⟩ := leads_bind.1 leads
  exact settle_reached deployed settled

theorem deployOnWorker_reached (leads : n.deployOnWorker.Leads es (some (.ok d))) :
    Backend.Reached d.backend := by
  obtain ⟨_, _, handed, -, worked, leads⟩ := leads_bind.1 leads
  obtain ⟨o, deployed, rfl⟩ := leads_map.1 worked
  obtain ⟨_, _, r, -, settled, last⟩ := leads_bind.1 leads
  cases (leads_pure.1 last).2
  exact settle_reached deployed settled

theorem act_reached (action : Backend.Action) {o : Outcome (Node Physical)}
    (reached : Backend.Reached n.backend) (leads : (action.onNode n).Leads es o) :
    Backend.Reached o.2.backend := by
  have acted {fs : List (Event outside)} {r : Outcome Physical}
      (leads : (action.apply n.backend).Leads fs r) : Backend.Reached r.2 :=
    .acted (r := r.1) action reached leads
  cases action with
  | perform op | destroy =>
    obtain ⟨_, _, r, -, leads, last⟩ := leads_bind.1 leads
    rw [(leads_pure.1 last).2]
    exact acted leads

end Node

namespace Cluster

/-- All members were deployed. -/
def Staffed (c : Cluster Physical) : Prop := ∀ e ∈ c.members.entries, Backend.Reached e.2.backend

variable {c c' : Cluster Physical} {n : Node Physical} {key : String}

theorem Staffed.insert (staffed : c.Staffed) (reached : Backend.Reached n.backend) :
    Staffed { c with members := c.members.insert key n } := by
  intro e mem
  rcases Ascending.mem_insert mem with rfl | mem
  · exact reached
  · exact staffed e mem

theorem Staffed.erase (staffed : c.Staffed) :
    Staffed { c with members := c.members.erase key } :=
  fun e mem => staffed e (List.mem_filter.1 mem).1

theorem register_staffed (staffed : c.Staffed) (reached : Backend.Reached n.backend)
    (leads : (c.register n).Leads es c') : c'.Staffed := by
  unfold register at leads
  cases found : c.members.find? n.name with
  | none =>
    rw [found] at leads
    rw [(leads_pure.1 leads).2]
    exact staffed.insert reached
  | some old =>
    rw [found] at leads
    obtain ⟨_, _, _, -, -, last⟩ := leads_bind.1 leads
    rw [(leads_pure.1 last).2]
    exact staffed.insert reached

/-! ## Deploying -/

theorem deployNode_reached {node : NodeParams} (leads : (c.deployNode node).Leads es (.ok n)) :
    Backend.Reached n.backend := by
  obtain ⟨_, _, prepared, -, -, leads⟩ := leads_bind.1 leads
  cases prepared with
  | ok ready => exact Node.deploy_reached leads
  | error e => cases (leads_pure.1 leads).2

theorem deployInTurn_staffed {nodes : List NodeParams} {o : ClusterOutcome Physical Unit}
    (staffed : c.Staffed) (leads : (c.deployInTurn nodes).Leads es o) : o.2.Staffed := by
  induction nodes generalizing c es with
  | nil =>
    rw [(leads_pure.1 leads).2]
    exact staffed
  | cons node rest ih =>
    obtain ⟨_, _, r, -, deployed, leads⟩ := leads_bind.1 leads
    cases r with
    | ok d =>
      obtain ⟨_, _, c', -, registered, leads⟩ := leads_bind.1 leads
      exact ih (register_staffed staffed (deployNode_reached deployed) registered) leads
    | error e =>
      rw [(leads_pure.1 leads).2]
      exact staffed

theorem registerAll_staffed {results : List (Except Error (Node Physical))}
    {o : Option Error × Cluster Physical} (staffed : c.Staffed)
    (reached : ∀ n, .ok n ∈ results → Backend.Reached n.backend)
    (leads : (c.registerAll results).Leads es o) : o.2.Staffed := by
  induction results generalizing c es o with
  | nil =>
    rw [(leads_pure.1 leads).2]
    exact staffed
  | cons r rest ih =>
    have later : ∀ n, .ok n ∈ rest → Backend.Reached n.backend :=
      fun n mem => reached n (List.mem_cons_of_mem _ mem)
    cases r with
    | ok n =>
      obtain ⟨_, _, c', -, registered, leads⟩ := leads_bind.1 leads
      exact ih (register_staffed staffed (reached n List.mem_cons_self) registered) later leads
    | error e =>
      obtain ⟨_, _, o', -, others, last⟩ := leads_bind.1 leads
      have done := ih staffed later others
      rw [(leads_pure.1 last).2]
      exact done

/-- What comes up in a pool was deployed there. -/
theorem pool_reached {workers : Nat} {ready : List (Node Physical)}
    {outcome : Pool.Outcome (Except Error (Node Physical))}
    (pooled : (Pool.run workers (ready.map Node.deployOnWorker)).Leads es outcome) :
    ∀ n, .ok n ∈ outcome.completed → Backend.Reached n.backend := by
  intro n mem
  obtain ⟨parts, followed, -, sums⟩ := Pool.run_leads pooled
  obtain ⟨part, listed, result⟩ := List.mem_filterMap.1 (sums.completed.mem_iff.1 mem)
  obtain ⟨task, given, leads⟩ := followed.of_mem listed
  obtain ⟨m, -, rfl⟩ := List.mem_map.1 given
  rw [result] at leads
  exact Node.deployOnWorker_reached leads

theorem deployAtOnce_staffed {workers : Nat} {nodes : List NodeParams}
    {o : ClusterOutcome Physical Unit} (staffed : c.Staffed)
    (leads : (c.deployAtOnce workers nodes).Leads es o) : o.2.Staffed := by
  obtain ⟨_, _, ready, -, -, leads⟩ := leads_bind.1 leads
  obtain ⟨_, _, outcome, -, pooled, leads⟩ := leads_bind.1 leads
  obtain ⟨_, _, undeployed, -, registered, leads⟩ := leads_bind.1 leads
  have done := registerAll_staffed staffed (pool_reached pooled) registered
  dsimp only at leads
  split at leads
  · rw [(leads_pure.1 leads).2]
    exact done
  · rw [(leads_pure.1 leads).2]
    exact done

theorem deploy_staffed {o : ClusterOutcome Physical Unit} (staffed : c.Staffed)
    (leads : c.deploy.Leads es o) : o.2.Staffed := by
  obtain ⟨_, _, ⟨r, c'⟩, -, deployed, leads⟩ := leads_bind.1 leads
  have done : c'.Staffed := by
    unfold deployNodes at deployed
    split at deployed
    · exact deployInTurn_staffed staffed deployed
    · exact deployAtOnce_staffed staffed deployed
  cases r with
  | ok u =>
    obtain ⟨_, _, bootstrapped, -, -, last⟩ := leads_bind.1 leads
    rw [(leads_pure.1 last).2]
    exact done
  | error e =>
    rw [(leads_pure.1 leads).2]
    exact done

theorem add_staffed {node : NodeParams} {o : ClusterOutcome Physical (Node Physical)}
    (staffed : c.Staffed) (leads : (c.add node).Leads es o) : o.2.Staffed := by
  unfold add at leads
  split at leads
  · rw [(leads_pure.1 leads).2]
    exact staffed
  · rename_i params added
    obtain ⟨_, _, r, -, deployed, leads⟩ := leads_bind.1 leads
    cases r with
    | ok d =>
      obtain ⟨_, _, c', -, registered, last⟩ := leads_bind.1 leads
      rw [(leads_pure.1 last).2]
      have grown : Staffed { c with params := params } := staffed
      exact register_staffed grown (deployNode_reached deployed) registered
    | error e =>
      rw [(leads_pure.1 leads).2]
      exact staffed

/-! ## Acting on members -/

theorem performOn_staffed {action : Backend.Action}
    {o : Option (ClusterOutcome Physical Unit)} (staffed : c.Staffed)
    (leads : (c.performOn key action.onNode).Leads es o) :
    (o.getD (.ok (), c)).2.Staffed := by
  unfold performOn at leads
  split at leads
  · rw [(leads_pure.1 leads).2]
    exact staffed
  · rename_i member found
    obtain ⟨_, _, r, -, acted, last⟩ := leads_bind.1 leads
    rw [(leads_pure.1 last).2]
    have reached := staffed _ (NameMap.mem_entries.2 found)
    exact staffed.insert (Node.act_reached _ reached acted)

theorem performAll_staffed {op : Operation} {summary : TeardownSummary}
    {rest : List (String × Node Physical)} {o : TeardownSummary × Cluster Physical}
    (staffed : c.Staffed) (reached : ∀ e ∈ rest, Backend.Reached e.2.backend)
    (leads : (c.performAll op summary rest).Leads es o) : o.2.Staffed := by
  induction rest generalizing c es summary with
  | nil =>
    rw [(leads_pure.1 leads).2]
    exact staffed
  | cons e rest ih =>
    obtain ⟨_, _, r, -, acted, leads⟩ := leads_bind.1 leads
    have member := reached e List.mem_cons_self
    refine ih (staffed.insert (Node.act_reached (.perform op) member acted)) ?_ leads
    exact fun e' mem => reached e' (List.mem_cons_of_mem _ mem)

theorem destroyAll_staffed {summary : TeardownSummary} {rest : List (String × Node Physical)}
    {o : TeardownSummary × Cluster Physical} (staffed : c.Staffed)
    (reached : ∀ e ∈ rest, Backend.Reached e.2.backend)
    (leads : (c.destroyAll summary rest).Leads es o) : o.2.Staffed := by
  induction rest generalizing c es summary with
  | nil =>
    rw [(leads_pure.1 leads).2]
    exact staffed
  | cons e rest ih =>
    have later (e') (mem : e' ∈ rest) := reached e' (List.mem_cons_of_mem _ mem)
    obtain ⟨_, _, ⟨r, destroyed⟩, -, acted, leads⟩ := leads_bind.1 leads
    cases r with
    | ok u =>
      obtain ⟨_, _, _, -, -, leads⟩ := leads_bind.1 leads
      exact ih staffed.erase later leads
    | error err =>
      have member := Node.act_reached .destroy (reached e List.mem_cons_self) acted
      exact ih (staffed.insert member) later leads

theorem apply_staffed {act : Act} {o : Outcome (Cluster Physical)} (staffed : c.Staffed)
    (leads : (act.apply c).Leads es o) : o.2.Staffed := by
  cases act with
  | deploy => exact deploy_staffed staffed leads
  | bootstrap =>
    obtain ⟨r, -, rfl⟩ := leads_map.1 leads
    exact staffed
  | add node =>
    obtain ⟨r, applied, rfl⟩ := leads_map.1 leads
    exact add_staffed staffed applied
  | onNode name action =>
    obtain ⟨r, applied, rfl⟩ := leads_map.1 leads
    exact performOn_staffed staffed applied
  | stop timeout | kill =>
    obtain ⟨r, applied, rfl⟩ := leads_map.1 leads
    exact performAll_staffed staffed staffed applied
  | destroy =>
    obtain ⟨r, applied, rfl⟩ := leads_map.1 leads
    exact destroyAll_staffed staffed staffed applied

end Cluster

end Testbed
