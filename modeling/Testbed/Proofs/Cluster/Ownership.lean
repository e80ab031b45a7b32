import Testbed.Proofs.Cluster.Deployment
import Testbed.Proofs.Container.Ownership
/-!
# Clusters own their containers

A cluster of containers owns what its members run in. Every operation of a cluster keeps all
containers accounted for (`Tracked`), given those that others own: what it deploys it registers or
does not own, and only what is gone leaves it. A teardown that destroys counts one failure for every
member that stays (`destroy_counts`).
-/

namespace Testbed

open Lab (Engine)

/-! ## Bootstrapping -/

theorem Bootstrapper.delegated_idle (r : BootstrapRequest) : (Bootstrapper.delegated r).run.Idle :=
  Procedure.within_ask.2 id

namespace CommandBootstrapper

variable {b : CommandBootstrapper} {path : String} {pause : Duration}

theorem tryOnce_within {C : Call → Prop} (program : ∀ name args, C (.program name args)) :
    (b.tryOnce path).Within C :=
  Procedure.Within.map (Procedure.within_ask.2 (program _ _)) _

theorem tryUpTo_within {C : Call → Prop} (program : ∀ name args, C (.program name args))
    {retries : Nat} : (b.tryUpTo path pause retries).Within C := by
  induction retries with
  | zero => exact tryOnce_within program
  | succ retries ih =>
    refine Procedure.Within.bind (tryOnce_within program) fun r => ?_
    cases r with
    | ok u => exact Procedure.within_pure _
    | error reason => exact Procedure.Within.bind (Procedure.within_after.2 trivial) fun _ => ih

/-- The tool takes files and runs of a program. -/
theorem bootstrap_within {C : Call → Prop} (file : ∀ f, C (.file f))
    (program : ∀ name args, C (.program name args)) (b : CommandBootstrapper)
    (r : BootstrapRequest) : (b.bootstrap r).run.Within C := by
  refine Attempt.within_bind ?_ fun _ => Procedure.Within.map (tryUpTo_within program) _
  exact Attempt.within_bind (Attempt.within_files (file _)) fun _ => Attempt.within_files (file _)

theorem bootstrap_idle (b : CommandBootstrapper) (r : BootstrapRequest) :
    (b.bootstrap r).run.Idle :=
  bootstrap_within (fun _ => id) (fun _ _ => id) b r

end CommandBootstrapper

/-! ## Nodes -/

theorem Physical.release_idle {name : String} {b : Physical} (is : b.Contains name) :
    (Backend.release b).Idle := by
  obtain ⟨c, rfl, rfl⟩ := is
  exact Container.release_within id

/-- What is done to a node. -/
def Backend.Action.onNode {β : Type} [Backend β] :
    Backend.Action → Node β → Work (Outcome (Node β))
  | .perform op => Node.perform op
  | .destroy => Node.destroy

namespace Node

variable {n : Node Physical} {name : String} {owned : String → Prop}
  {s : Engine × List (Event outside)}

theorem deploy_accounted (is : n.backend.Contains n.name) (acc : Accounted owned s) :
    n.deploy.Ends s fun r t =>
      match r with
      | .ok d => d.backend.Contains d.name ∧ Accounted (fun name => owned name ∨ name = d.name) t
      | .error _ => Accounted owned t := by
  refine Procedure.ensures_bind.2 ((Physical.deploy_accounted is acc).mono ?_)
  rintro ⟨r, b⟩ t ⟨is, acc⟩
  cases r with
  | ok u => exact ⟨is, acc.mono fun name own => own.imp_right fun h => h.2⟩
  | error e =>
    have unowned : Accounted owned t := by
      refine acc.mono fun name own => own.resolve_right ?_
      rintro ⟨h, -⟩
      cases h
    exact Procedure.ensures_bind.2 (unowned.idle (Physical.release_idle is))

theorem perform_accounted {op : Operation} (is : n.backend.Contains name) (acc : Accounted owned s)
    (own : owned name) :
    (n.perform op).Ends s fun o t => o.2.backend.Contains name ∧ Accounted owned t :=
  Procedure.ensures_bind.2 (Physical.perform_accounted is acc own)

theorem destroy_accounted (is : n.backend.Contains name) (acc : Accounted owned s) :
    n.destroy.Ends s fun o t => o.2.backend.Contains name ∧ Accounted owned t ∧
      (o.1 = .ok () → ¬t.1.Has name) :=
  Procedure.ensures_bind.2 (Physical.destroy_accounted is acc)

theorem act_accounted {action : Backend.Action} (is : n.backend.Contains name)
    (acc : Accounted owned s) (own : owned name) :
    (action.onNode n).Ends s fun o t => o.2.backend.Contains name ∧ Accounted owned t := by
  cases action with
  | perform op => exact perform_accounted is acc own
  | destroy => exact (destroy_accounted is acc).mono fun o t h => ⟨h.1, h.2.1⟩

theorem destroy_failed {es : List (Event outside)} {o : Outcome (Node Physical)}
    (is : n.backend.Contains name) (leads : n.destroy.Leads es o) (failed : o.1 ≠ .ok ()) :
    RemovalFailed name es := by
  obtain ⟨fs, gs, destroyed, rfl, done, last⟩ := Procedure.leads_bind.1 leads
  rw [(Procedure.leads_pure.1 last).2] at failed
  exact removalFailed_append.2 (.inl (Physical.destroy_failed is done failed))

end Node

/-! ## Members -/

/-- What makes the nodes of a cluster containers, deployed one after the other. -/
structure ClusterSetting.Contained (setting : ClusterSetting Physical) : Prop where
  inTurn : setting.factory.strategy = .sequential
  backend : ∀ node dir b, setting.factory.backend node dir = .ok b → b.Contains node.name
  bootstrapper : ∀ r, (setting.bootstrapper r).run.Idle

namespace Cluster

def Owns (c : Cluster Physical) (name : String) : Prop := ∃ n, c.members.find? name = some n

/-- The members of a cluster of that name are containers, and so are the nodes that it deploys. -/
structure Sound (key : String) (c : Cluster Physical) : Prop where
  setting : c.setting.Contained
  name : c.name = key
  members : ∀ name n, c.members.find? name = some n → n.backend.Contains name

/-- A cluster and others own all containers that were created. -/
structure Tracked (key : String) (others : String → Prop) (c : Cluster Physical)
    (s : Engine × List (Event outside)) : Prop extends Sound key c where
  accounted : Accounted (fun name => others name ∨ c.Owns name) s

variable {key name : String} {others : String → Prop} {c c' : Cluster Physical} {n : Node Physical}
  {s t : Engine × List (Event outside)} {es : List (Event outside)}

theorem Tracked.later (tracked : c.Tracked key others s)
    (acc : Accounted (fun name => others name ∨ c.Owns name) t) : c.Tracked key others t :=
  { tracked with accounted := acc }

theorem Tracked.idle {α : Type} {p : Work α} (tracked : c.Tracked key others s)
    (within : p.Idle) : p.Ends s fun _ t => c.Tracked key others t :=
  (tracked.accounted.idle within).mono fun _ _ => tracked.later

theorem Tracked.insert (tracked : c.Tracked key others s) (is : n.backend.Contains name)
    (acc : Accounted (fun m => (others m ∨ c.Owns m) ∨ m = name) t) :
    Tracked key others { c with members := c.members.insert name n } t where
  setting := tracked.setting
  name := tracked.name
  members m n' found := by
    rw [NameMap.find?_insert] at found
    split at found
    · rename_i same
      cases found
      rwa [same]
    · exact tracked.members m n' found
  accounted := by
    refine acc.mono fun m own => ?_
    by_cases same : m = name
    · exact .inr ⟨n, by rw [same, NameMap.find?_insert_self]⟩
    · refine (own.resolve_right same).imp_right ?_
      rintro ⟨n', found⟩
      exact ⟨n', by rwa [NameMap.find?_insert_of_ne same]⟩

theorem Tracked.erase (tracked : c.Tracked key others s)
    (acc : Accounted (fun m => (others m ∨ c.Owns m) ∧ m ≠ name) t) :
    Tracked key others { c with members := c.members.erase name } t where
  setting := tracked.setting
  name := tracked.name
  members m n' found := by
    rw [NameMap.find?_erase] at found
    split at found
    · cases found
    · exact tracked.members m n' found
  accounted := by
    refine acc.mono fun m own => own.1.imp_right ?_
    rintro ⟨n', found⟩
    exact ⟨n', by rwa [NameMap.find?_erase_of_ne own.2]⟩

theorem register_tracked (tracked : c.Tracked key others s) (is : n.backend.Contains n.name)
    (acc : Accounted (fun m => (others m ∨ c.Owns m) ∨ m = n.name) t) :
    (c.register n).Ends t fun c' u => c'.Tracked key others u := by
  unfold register
  cases found : c.members.find? n.name with
  | none => exact tracked.insert is acc
  | some old =>
    have idle := Physical.release_idle (tracked.members _ old found)
    exact Procedure.ensures_bind.2 ((acc.idle idle).mono fun _ u acc => tracked.insert is acc)

/-! ## Deploying -/

theorem prepare_contains {node : NodeParams} (contained : c.setting.Contained)
    (h : (c.prepare node).run.Leads es (.ok n)) : n.backend.Contains n.name := by
  unfold prepare at h
  obtain ⟨_, _, _, -, -, h⟩ := Attempt.leads_bind_ok.1 h
  obtain ⟨_, _, endpoint, -, -, h⟩ := Attempt.leads_bind_ok.1 h
  obtain ⟨_, _, backend, -, made, h⟩ := Attempt.leads_bind_ok.1 h
  have made := (Procedure.leads_pure.1 made).2
  cases (Procedure.leads_pure.1 h).2
  exact contained.backend node _ backend made.symm

theorem deployNode_accounted {node : NodeParams} (tracked : c.Tracked key others s) :
    (c.deployNode node).Ends s fun r t =>
      match r with
      | .ok d => d.backend.Contains d.name ∧
          Accounted (fun m => (others m ∨ c.Owns m) ∨ m = d.name) t
      | .error _ => c.Tracked key others t := by
  refine Procedure.ensures_bind.2 ((tracked.idle (prepare_within id)).leads.mono ?_)
  rintro r t ⟨tracked, es, leads⟩
  cases r with
  | error e => exact tracked
  | ok ready =>
    have is := prepare_contains tracked.setting leads
    refine (Node.deploy_accounted is tracked.accounted).mono fun r u h => ?_
    cases r with
    | ok d => exact h
    | error e => exact tracked.later h

theorem deployInTurn_tracked {nodes : List NodeParams} (tracked : c.Tracked key others s) :
    (c.deployInTurn nodes).Ends s fun o t => o.2.Tracked key others t := by
  induction nodes generalizing c s with
  | nil => exact tracked
  | cons node rest ih =>
    refine Procedure.ensures_bind.2 ((deployNode_accounted tracked).mono fun r t h => ?_)
    cases r with
    | error e => exact h
    | ok d =>
      obtain ⟨is, acc⟩ := h
      exact Procedure.ensures_bind.2 ((register_tracked tracked is acc).mono fun c' u => ih)

theorem deployNodes_tracked (tracked : c.Tracked key others s) :
    c.deployNodes.Ends s fun o t => o.2.Tracked key others t := by
  unfold deployNodes
  rw [tracked.setting.inTurn]
  exact deployInTurn_tracked tracked

theorem bootstrap_idle (contained : c.setting.Contained) : c.bootstrap.run.Idle := by
  refine Attempt.within_bind (Procedure.within_pure _) fun endpoints => ?_
  have fresh : (Procedure.ask (I := outside) .freshId).Idle := Procedure.within_ask.2 id
  refine Attempt.within_bind (fresh.map _) fun clusterId => ?_
  exact Attempt.within_bind (Procedure.within_pure _) fun layout => contained.bootstrapper _

theorem deploy_tracked (tracked : c.Tracked key others s) :
    c.deploy.Ends s fun o t => o.2.Tracked key others t := by
  refine Procedure.ensures_bind.2 ((deployNodes_tracked tracked).mono ?_)
  rintro ⟨r, c'⟩ t tracked
  cases r with
  | error e => exact tracked
  | ok u => exact Procedure.ensures_bind.2 (tracked.idle (bootstrap_idle tracked.setting))

theorem addNode_name {params params' : ClusterParams} {node : NodeParams}
    (added : params.addNode node = .ok params') : params'.name = params.name := by
  unfold ClusterParams.addNode at added
  split at added
  · cases added
  · cases added
    rfl

theorem add_tracked {node : NodeParams} (tracked : c.Tracked key others s) :
    (c.add node).Ends s fun o t => o.2.Tracked key others t := by
  unfold add
  split
  · exact tracked
  · rename_i params added
    refine Procedure.ensures_bind.2 ((deployNode_accounted tracked).mono fun r t h => ?_)
    cases r with
    | error e => exact h
    | ok d =>
      obtain ⟨is, acc⟩ := h
      have grown : Tracked key others { c with params := params } s :=
        { tracked with name := (addNode_name added).trans tracked.name }
      exact Procedure.ensures_bind.2 (register_tracked grown is acc)

/-! ## Acting on members -/

theorem owns_insert {m : String} (own : c.Owns m) :
    Owns { c with members := c.members.insert name n } m := by
  obtain ⟨n', found⟩ := own
  by_cases same : m = name
  · exact ⟨n, by rw [same, NameMap.find?_insert_self]⟩
  · exact ⟨n', by rwa [NameMap.find?_insert_of_ne same]⟩

theorem act_tracked {action : Backend.Action} (tracked : c.Tracked key others s)
    (is : n.backend.Contains name) (own : c.Owns name) :
    (action.onNode n).Ends s fun o t => o.2.backend.Contains name ∧
      Tracked key others { c with members := c.members.insert name o.2 } t :=
  (Node.act_accounted is tracked.accounted (.inr own)).mono fun _ _ h =>
    ⟨h.1, tracked.insert h.1 (h.2.mono fun _ => .inl)⟩

theorem performOn_tracked {action : Backend.Action} (tracked : c.Tracked key others s) :
    (c.performOn name action.onNode).Ends s fun r t =>
      match r with
      | some o => o.2.Tracked key others t
      | none => c.Tracked key others t := by
  unfold performOn
  cases found : c.members.find? name with
  | none => exact tracked
  | some member =>
    have is := tracked.members name member found
    refine Procedure.ensures_bind.2 ((act_tracked tracked is ⟨member, found⟩).mono fun o t h => ?_)
    exact h.2

theorem performAll_tracked {op : Operation} {summary : TeardownSummary}
    {rest : List (String × Node Physical)} (tracked : c.Tracked key others s)
    (members : ∀ e ∈ rest, e.2.backend.Contains e.1 ∧ c.Owns e.1) :
    (c.performAll op summary rest).Ends s fun o t => o.2.Tracked key others t := by
  induction rest generalizing c s summary with
  | nil => exact tracked
  | cons e rest ih =>
    obtain ⟨is, own⟩ := members e List.mem_cons_self
    have act : (Backend.Action.onNode (.perform op) e.2).Ends s _ := act_tracked tracked is own
    refine Procedure.ensures_bind.2 (act.mono fun o t h => ?_)
    refine ih h.2 fun e' mem => ?_
    obtain ⟨is', own'⟩ := members e' (List.mem_cons_of_mem _ mem)
    exact ⟨is', owns_insert own'⟩

theorem Sound.entries (sound : c.Sound key) :
    ∀ e ∈ c.members.entries, e.2.backend.Contains e.1 ∧ c.Owns e.1 := by
  rintro ⟨name, n⟩ mem
  have found := NameMap.mem_entries.1 mem
  exact ⟨sound.members name n found, n, found⟩

theorem stop_tracked {timeout : Duration} (tracked : c.Tracked key others s) :
    (c.stop timeout).Ends s fun o t => o.2.Tracked key others t :=
  performAll_tracked tracked tracked.entries

theorem kill_tracked (tracked : c.Tracked key others s) :
    c.kill.Ends s fun o t => o.2.Tracked key others t :=
  performAll_tracked tracked tracked.entries

/-! ## Destroying -/

theorem destroyAll_tracked {summary : TeardownSummary} {rest : List (String × Node Physical)}
    (tracked : c.Tracked key others s) (members : ∀ e ∈ rest, e.2.backend.Contains e.1) :
    (c.destroyAll summary rest).Ends s fun o t => o.2.Tracked key others t := by
  induction rest generalizing c s summary with
  | nil => exact tracked
  | cons e rest ih =>
    have rest_members (e') (mem : e' ∈ rest) := members e' (List.mem_cons_of_mem _ mem)
    have is := members e List.mem_cons_self
    refine Procedure.ensures_bind.2 ((Node.destroy_accounted is tracked.accounted).mono ?_)
    rintro ⟨r, member⟩ t ⟨is, acc, gone⟩
    cases r with
    | ok u =>
      -- The backend is released after its name was dropped.
      have idle := Physical.release_idle is
      refine Procedure.ensures_bind.2 (((acc.drop (gone rfl)).idle idle).mono fun _ u acc => ?_)
      exact ih (tracked.erase acc) rest_members
    | error err => exact ih (tracked.insert is (acc.mono fun _ => .inl)) rest_members

theorem destroy_tracked (tracked : c.Tracked key others s) :
    c.destroy.Ends s fun o t => o.2.Tracked key others t :=
  destroyAll_tracked tracked fun e mem => (tracked.entries e mem).1

@[simp]
theorem failures_count (summary : TeardownSummary) (failed : Bool) :
    (summary.count failed).failures = summary.failures + failed.toNat := by
  cases failed <;> rfl

/-- Of the members that are to be destroyed, those that stay are counted as failures. -/
theorem destroyAll_counts {summary : TeardownSummary} {rest : List (String × Node Physical)}
    {o : TeardownSummary × Cluster Physical} (leads : (c.destroyAll summary rest).Leads es o)
    (distinct : (rest.map (·.1)).Nodup) (members : ∀ e ∈ rest, c.Owns e.1) :
    o.1.failures + c.members.entries.length =
      summary.failures + rest.length + o.2.members.entries.length := by
  induction rest generalizing c es summary with
  | nil =>
    rw [(Procedure.leads_pure.1 leads).2]
    rfl
  | cons e rest ih =>
    obtain ⟨name, member⟩ := e
    obtain ⟨notLater, distinct⟩ := List.nodup_cons.1 distinct
    have own := members (name, member) List.mem_cons_self
    have listed : name ∈ c.members.keys := NameMap.mem_keys.2 own
    obtain ⟨_, _, ⟨r, destroyed⟩, -, -, leads⟩ := Procedure.leads_bind.1 leads
    cases r with
    | ok u =>
      obtain ⟨_, _, _, -, -, leads⟩ := Procedure.leads_bind.1 leads
      have counted := ih leads distinct fun e' mem => ?_
      · have shorter := NameMap.length_erase_of_mem listed
        simp only [failures_count, Bool.toNat_false] at counted
        simp only [List.length_cons]
        omega
      · obtain ⟨n', found⟩ := members e' (List.mem_cons_of_mem _ mem)
        refine ⟨n', ?_⟩
        rwa [NameMap.find?_erase_of_ne]
        intro same
        exact notLater (List.mem_map.2 ⟨e', mem, same⟩)
    | error err =>
      have counted := ih leads distinct fun e' mem =>
        owns_insert (members e' (List.mem_cons_of_mem _ mem))
      have same : (c.members.insert name destroyed).entries.length = _ :=
        NameMap.length_insert_of_mem listed
      simp only [failures_count, Bool.toNat_true] at counted
      simp only [List.length_cons]
      omega

theorem destroy_counts {o : TeardownSummary × Cluster Physical} (leads : c.destroy.Leads es o) :
    o.1.failures = o.2.members.entries.length := by
  have counted := destroyAll_counts leads c.members.keys_nodup fun e mem =>
    ⟨e.2, NameMap.mem_entries.1 mem⟩
  simp only [TeardownSummary.empty] at counted
  omega

/-- Of the members that are to be destroyed, those stay that could not be removed. -/
theorem destroyAll_failed {summary : TeardownSummary} {rest : List (String × Node Physical)}
    {o : TeardownSummary × Cluster Physical} (leads : (c.destroyAll summary rest).Leads es o)
    (members : ∀ e ∈ rest, e.2.backend.Contains e.1) (own : o.2.Owns name) :
    RemovalFailed name es ∨ c.Owns name ∧ name ∉ rest.map (·.1) := by
  induction rest generalizing c es summary with
  | nil =>
    rw [(Procedure.leads_pure.1 leads).2] at own
    exact .inr ⟨own, by simp⟩
  | cons e rest ih =>
    have rest_members (e') (mem : e' ∈ rest) := members e' (List.mem_cons_of_mem _ mem)
    obtain ⟨fs, gs, ⟨r, destroyed⟩, rfl, done, leads⟩ := Procedure.leads_bind.1 leads
    cases r with
    | ok u =>
      obtain ⟨_, _, _, rfl, -, leads⟩ := Procedure.leads_bind.1 leads
      rcases ih leads rest_members with failed | ⟨⟨n', found⟩, notLater⟩
      · exact .inl (removalFailed_append.2 (.inr (removalFailed_append.2 (.inr failed))))
      · rw [NameMap.find?_erase] at found
        split at found
        · cases found
        · rename_i other
          exact .inr ⟨⟨n', found⟩, by simp_all⟩
    | error err =>
      rcases ih leads rest_members with failed | ⟨⟨n', found⟩, notLater⟩
      · exact .inl (removalFailed_append.2 (.inr failed))
      · rw [NameMap.find?_insert] at found
        split at found
        · rename_i same
          have failed := Node.destroy_failed (members e List.mem_cons_self) done (by simp)
          exact .inl (removalFailed_append.2 (.inl (same ▸ failed)))
        · rename_i other
          exact .inr ⟨⟨n', found⟩, by simp_all⟩

theorem destroy_failed {o : TeardownSummary × Cluster Physical} (sound : c.Sound key)
    (leads : c.destroy.Leads es o) (own : o.2.Owns name) : RemovalFailed name es := by
  have stays := destroyAll_failed leads (fun e mem => (sound.entries e mem).1) own
  refine stays.resolve_right ?_
  rintro ⟨owned, notListed⟩
  exact notListed (NameMap.mem_keys.2 owned)

theorem destroyAll_name {summary : TeardownSummary} {rest : List (String × Node Physical)}
    {o : TeardownSummary × Cluster Physical} (leads : (c.destroyAll summary rest).Leads es o) :
    o.2.name = c.name := by
  induction rest generalizing c es summary with
  | nil => rw [(Procedure.leads_pure.1 leads).2]
  | cons e rest ih =>
    obtain ⟨_, _, ⟨r, destroyed⟩, -, -, leads⟩ := Procedure.leads_bind.1 leads
    cases r with
    | ok u =>
      obtain ⟨_, _, _, -, -, leads⟩ := Procedure.leads_bind.1 leads
      have kept := ih leads
      exact kept
    | error err =>
      have kept := ih leads
      exact kept

/-! ## Whatever is done to a cluster -/

inductive Act where
  | deploy
  | bootstrap
  | add (node : NodeParams)
  | onNode (name : String) (action : Backend.Action)
  | stop (timeout : Duration)
  | kill
  | destroy

def Act.apply (c : Cluster Physical) : Cluster.Act → Work (Outcome (Cluster Physical))
  | .deploy => c.deploy
  | .bootstrap => c.bootstrap.keeping c
  | .add node => (fun o => (o.1.map fun _ => (), o.2)) <$> c.add node
  | .onNode name action => (·.getD (.ok (), c)) <$> c.performOn name action.onNode
  | .stop timeout => (fun o => (.ok (), o.2)) <$> c.stop timeout
  | .kill => (fun o => (.ok (), o.2)) <$> c.kill
  | .destroy => (fun o => (.ok (), o.2)) <$> c.destroy

theorem apply_tracked {act : Act} (tracked : c.Tracked key others s) :
    (act.apply c).Ends s fun o t => o.2.Tracked key others t := by
  cases act with
  | deploy => exact deploy_tracked tracked
  | bootstrap =>
    exact Attempt.ensures_keeping.2 (tracked.idle (bootstrap_idle tracked.setting))
  | add node => exact Procedure.ensures_map.2 (add_tracked tracked)
  | onNode name action =>
    refine Procedure.ensures_map.2 ((performOn_tracked tracked).mono fun r t h => ?_)
    cases r with
    | none => exact h
    | some o => exact h
  | stop timeout => exact Procedure.ensures_map.2 (stop_tracked tracked)
  | kill => exact Procedure.ensures_map.2 (kill_tracked tracked)
  | destroy => exact Procedure.ensures_map.2 (destroy_tracked tracked)

end Cluster

end Testbed
