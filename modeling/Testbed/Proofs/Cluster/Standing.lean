import Testbed.Proofs.Cluster.Bootstrapping
import Testbed.Proofs.Cluster.Sharing
import Testbed.Proofs.Procedure.Conduct
/-!
# What a task may do to a shared cluster

A task either visits a cluster, and then adds no node to its parameters and no member that was not
configured when it read them, or it adds one node. It does that in a fixed order: it takes the lock,
checks and deploys the node, writes it down, makes it a member and gives the lock back. `Standing`
says how far a task has come, and is led astray by whatever does not belong there. No operation is
ever led astray (`Cluster.Act.task_follows`).
-/

namespace Testbed

/-- How far a task has come. -/
inductive Standing where
  /-- The task adds nothing. It knows nodes that are configured. -/
  | visiting (known : List NodeParams)
  | waiting (node : NodeParams)
  /-- The task holds the lock and has read these parameters. -/
  | holding (node : NodeParams) (base : ClusterParams)
  /-- The node has been added to what was read, and is not a member yet. -/
  | written (node : NodeParams) (base : ClusterParams)
  | registered (node : NodeParams)
  /-- The lock has been given back. -/
  | ended (node : NodeParams) (accepted : Bool)
  /-- Something was done out of order. -/
  | astray

namespace Standing

variable {β : Type}

/-- How far a task has come with what it was answered. -/
def after : Standing → Event (sharing β) → Standing
  | .visiting _, ⟨.access .lock, _⟩ => .astray
  | .visiting _, ⟨.access (.write _), _⟩ => .astray
  | .visiting _, ⟨.access .unlock, _⟩ => .astray
  | .visiting _, ⟨.access .params, p⟩ => .visiting p.nodes
  | .visiting known, ⟨.access (.insert n), _⟩ =>
    if n.params ∈ known then .visiting known else .astray
  | .visiting known, _ => .visiting known
  | .waiting node, ⟨.access .lock, p⟩ => .holding node p
  | .holding node base, ⟨.outside _, _⟩ => .holding node base
  | .holding node base, ⟨.access (.write p), _⟩ =>
    if base.addNode node = .ok p then .written node base else .astray
  | .holding node _, ⟨.access .unlock, _⟩ => .ended node false
  | .written node _, ⟨.access (.insert n), _⟩ =>
    if n.params = node then .registered node else .astray
  | .registered node, ⟨.outside _, _⟩ => .registered node
  | .registered node, ⟨.access .unlock, _⟩ => .ended node true
  | _, _ => .astray

section

variable {node : NodeParams} {base : ClusterParams}

/-- A visitor makes members of nodes that are configured. -/
theorem visiting_insert {known : List NodeParams} {n : Node β} {old : Option (Node β)}
    (kept : (visiting known).after ⟨.access (.insert n), old⟩ ≠ .astray) :
    n.params ∈ known ∧ (visiting known).after ⟨.access (.insert n), old⟩ = .visiting known := by
  by_cases configured : n.params ∈ known
  · exact ⟨configured, if_pos configured⟩
  · exact absurd (if_neg configured) kept

/-- What is written is what was read, and the node. -/
theorem holding_write {p : ClusterParams} {u : Unit}
    (kept : (holding node base).after (β := β) ⟨.access (.write p), u⟩ ≠ .astray) :
    base.addNode node = .ok p ∧
      (holding node base).after (β := β) ⟨.access (.write p), u⟩ = .written node base := by
  by_cases added : base.addNode node = .ok p
  · exact ⟨added, if_pos added⟩
  · exact absurd (if_neg added) kept

/-- The node that was written down becomes a member. -/
theorem written_insert {n : Node β} {old : Option (Node β)}
    (kept : (written node base).after ⟨.access (.insert n), old⟩ ≠ .astray) :
    n.params = node ∧ (written node base).after ⟨.access (.insert n), old⟩ = .registered node := by
  by_cases same : n.params = node
  · exact ⟨same, if_pos same⟩
  · exact absurd (if_neg same) kept

end

/-- The node that the task adds. -/
def subject? : Standing → Option NodeParams
  | .visiting _ | .astray => none
  | .waiting node | .holding node _ | .written node _ => some node
  | .registered node | .ended node _ => some node

/-- The task may do something outside for its node. -/
def Works : Standing → Prop
  | .holding _ _ | .registered _ => True
  | .visiting _ | .waiting _ | .written _ _ | .ended _ _ | .astray => False

namespace Works

variable {stands : Standing}

theorem subject (works : stands.Works) : stands.subject?.isSome = true := by
  cases stands with
  | holding node base => rfl
  | registered node => rfl
  | _ => exact works.elim

theorem stays (works : stands.Works) (c : Call) (a : c.Answer) :
    stands.after (β := β) ⟨.outside c, a⟩ = stands := by
  cases stands with
  | holding node base => rfl
  | registered node => rfl
  | _ => exact works.elim

theorem ne_astray (works : stands.Works) : stands ≠ .astray := by
  rintro rfl
  exact works

end Works

/-- The task did all that its result says. -/
def Closes {α : Type} (r : Except Error α) : Standing → Prop
  | .visiting _ => True
  | .ended _ accepted => accepted = r.isOk
  | _ => False

end Standing

namespace Task

open Standing (Closes)

variable {α β γ : Type}

/-- Whatever the task is answered, it is not led astray from there, and ends as it should. -/
abbrev Follows (p : Task β α) (s : Standing) (post : α → Standing → Prop) : Prop :=
  p.Ensures (fun s e t => t = s.after e) (· ≠ .astray) s post

section

variable {s : Standing}

theorem follows_access {a : Access β} {post : a.Answer → Standing → Prop} :
    (access a).Follows s post ↔
      ∀ r, s.after ⟨.access a, r⟩ ≠ .astray ∧ post r (s.after ⟨.access a, r⟩) := by
  refine Procedure.ensures_ask.trans ⟨fun h r => h r _ rfl, fun h r t step => ?_⟩
  rw [step]
  exact h r

/-- Where calls to the outside change nothing, work leaves the task where it is. -/
theorem follows_outside {p : Work α} (here : s ≠ .astray)
    (stays : ∀ c (a : c.Answer), s.after (β := β) ⟨.outside c, a⟩ = s) :
    (outside (β := β) p).Follows s fun r t => t = s ∧ ∃ es, p.Leads es r := by
  induction p with
  | done a => exact ⟨rfl, [], .done a⟩
  | call c next ih =>
    intro a d t step
    rw [stays] at step
    subst step
    refine ⟨here, (ih a d).mono ?_⟩
    rintro r t ⟨rfl, es, leads⟩
    exact ⟨rfl, ⟨c, a⟩ :: es, .call leads⟩
  | pause d p ih =>
    refine Procedure.Ensures.mono (p := outside p) ih ?_
    rintro r t ⟨rfl, es, leads⟩
    exact ⟨rfl, es, .pause leads⟩
  | clock next ih =>
    intro now
    refine (ih now).mono ?_
    rintro r t ⟨rfl, es, leads⟩
    exact ⟨rfl, es, .clock leads⟩

theorem follows_work {p : Work α} (works : s.Works) :
    (outside (β := β) p).Follows s fun r t => t = s ∧ ∃ es, p.Leads es r :=
  follows_outside works.ne_astray works.stays

end

/-! ## Visits -/

section

variable {known nodes : List NodeParams}

/-- A task that visits a cluster only ever visits it. -/
abbrev VisitsFrom (known : List NodeParams) (p : Task β α) : Prop :=
  p.Follows (.visiting known) fun _ t => ∃ later, t = .visiting later

theorem visits_outside {p : Work α} : (outside (β := β) p).Follows (.visiting known)
    fun r t => t = .visiting known ∧ ∃ es, p.Leads es r :=
  follows_outside nofun fun _ _ => rfl

/-- Most of what is done to the cluster takes a visitor no further. -/
theorem visits_access {a : Access β} {later : a.Answer → List NodeParams}
    {post : a.Answer → Standing → Prop}
    (goes : ∀ r, (Standing.visiting known).after ⟨.access a, r⟩ = .visiting (later r))
    (ends : ∀ r, post r (.visiting (later r))) : (access a).Follows (.visiting known) post := by
  refine follows_access.2 fun r => ?_
  rw [goes]
  exact ⟨nofun, ends r⟩

variable [Backend β] {c : Cluster β}

theorem visits_register {n : Node β} (configured : n.params ∈ known) :
    (register n).Follows (.visiting known) fun _ t => t = .visiting known := by
  have stays (old) : (Standing.visiting known).after ⟨.access (.insert n), old⟩ =
      .visiting known := if_pos configured
  refine Procedure.ensures_bind.2 (visits_access stays fun old => ?_)
  exact visits_outside.mono fun _ _ h => h.1

theorem visits_deployInTurn (configured : nodes ⊆ known) :
    (deployInTurn c nodes).Follows (.visiting known) fun _ t => t = .visiting known := by
  induction nodes with
  | nil => rfl
  | cons node rest ih =>
    refine Procedure.ensures_bind.2 (visits_outside.mono ?_)
    rintro r t ⟨rfl, es, leads⟩
    cases r with
    | error e => rfl
    | ok deployed =>
      have same := (Cluster.deployNode_leads_ok leads).1
      have member : deployed.params ∈ known := by
        rw [same]
        exact configured List.mem_cons_self
      refine Procedure.ensures_bind.2 ((visits_register member).mono ?_)
      rintro - t rfl
      exact ih fun other mem => configured (List.mem_cons_of_mem _ mem)

theorem visits_registerAll {results : List (Except Error (Node β))}
    (configured : ∀ n, .ok n ∈ results → n.params ∈ known) :
    (registerAll results).Follows (.visiting known) fun _ t => t = .visiting known := by
  induction results with
  | nil => rfl
  | cons r rest ih =>
    have others := ih fun n mem => configured n (List.mem_cons_of_mem _ mem)
    cases r with
    | error e => exact Procedure.ensures_bind.2 others
    | ok n =>
      refine Procedure.ensures_bind.2 ((visits_register (configured n List.mem_cons_self)).mono ?_)
      rintro - t rfl
      exact others

/-- What comes up in a pool are nodes that it was given. -/
theorem pool_params {workers slots : Nat} (atOnce : c.setting.factory.strategy = .concurrent slots)
    {es fs : List (Event Testbed.outside)} {ready : List (Node β) × Option Error}
    {outcome : Pool.Outcome (Except Error (Node β))}
    (prepared : (c.prepareAll nodes).Leads es ready)
    (pooled : (Pool.run workers (ready.1.map Node.deployOnWorker)).Leads fs outcome) :
    ∀ n, .ok n ∈ outcome.completed → n.params ∈ nodes := by
  intro n mem
  obtain ⟨parts, followed, interleaved, sums⟩ := Pool.run_leads pooled
  obtain ⟨ds, trials, leads, -, results⟩ :=
    Cluster.prepareAll_leads atOnce prepared followed [] interleaved
  have gave : some (.ok n) ∈ parts.map (·.2) := by
    obtain ⟨part, listed, result⟩ := List.mem_filterMap.1 (sums.completed.mem_iff.1 mem)
    exact List.mem_map.2 ⟨part, listed, result⟩
  have undertaken : some (.ok n) ∈ ds.map (·.result) := by
    rw [results]
    exact List.mem_append_left _ gave
  obtain ⟨d, hd, result⟩ := List.mem_map.1 undertaken
  have up := leads d hd
  rw [result] at up
  rw [(Cluster.deployment_leads_ok up).1]
  exact trials.inOrder.subset (List.mem_map_of_mem hd)

theorem visits_deployNodes (configured : c.params.nodes ⊆ known) :
    (deployNodes c).Follows (.visiting known) fun _ t => t = .visiting known := by
  unfold deployNodes
  cases strategy : c.setting.factory.strategy with
  | sequential => exact visits_deployInTurn configured
  | concurrent workers =>
    refine Procedure.ensures_bind.2 (visits_outside.mono ?_)
    rintro ready t ⟨rfl, es, prepared⟩
    refine Procedure.ensures_bind.2 (visits_outside.mono ?_)
    rintro outcome t ⟨rfl, fs, pooled⟩
    have up := pool_params strategy prepared pooled
    have members := visits_registerAll fun n mem => configured (up n mem)
    refine Procedure.ensures_bind.2 (members.mono ?_)
    rintro undeployed t rfl
    cases ready.2.or (undeployed.or (Cluster.poolFailure outcome)) with
    | some e => rfl
    | none => rfl

omit [Backend β] in
theorem visits_bootstrap {setting : ClusterSetting β} :
    VisitsFrom known (bootstrap setting) := by
  refine Procedure.ensures_bind.2 (visits_access (fun _ => rfl) fun params => ?_)
  refine Procedure.ensures_bind.2 (visits_access (fun _ => rfl) fun members => ?_)
  refine visits_outside.mono ?_
  rintro r t ⟨rfl, -⟩
  exact ⟨params.nodes, rfl⟩

theorem visits_deploy {setting : ClusterSetting β} : VisitsFrom known (deploy setting) := by
  refine Procedure.ensures_bind.2 (visits_access (fun _ => rfl) fun params => ?_)
  have nodes := visits_deployNodes (c := .ofParams setting params) fun _ mem => mem
  refine Procedure.ensures_bind.2 (nodes.mono ?_)
  rintro r t rfl
  cases r with
  | ok u => exact visits_bootstrap
  | error e => exact ⟨params.nodes, rfl⟩

theorem visits_act {action : Backend.Action} {name : String} {member : Node β} :
    (act action name member).Follows (.visiting known) fun _ t => t = .visiting known :=
  Procedure.ensures_bind.2 (visits_access (fun _ => rfl) fun _ =>
    visits_outside.mono fun _ _ h => h.1)

omit [Backend β] in
theorem visits_note {name : String} {b : β} :
    (access (.note name b)).Follows (.visiting known) fun _ t => t = .visiting known :=
  visits_access (fun _ => rfl) fun _ => rfl

theorem visits_actOn {action : Backend.Action} {name : String} {member : Node β} :
    (actOn action name member).Follows (.visiting known) fun _ t => t = .visiting known := by
  refine Procedure.ensures_bind.2 (visits_act.mono ?_)
  rintro o t rfl
  exact Procedure.ensures_bind.2 visits_note

theorem visits_performOn {name : String} {action : Backend.Action} :
    VisitsFrom (β := β) known (performOn name action) := by
  refine Procedure.ensures_bind.2 (visits_access (fun _ => rfl) fun members => ?_)
  cases members.find? name with
  | none => exact ⟨known, rfl⟩
  | some member => exact Procedure.ensures_bind.2 (visits_actOn.mono fun _ _ eq => ⟨known, eq⟩)

theorem visits_performAll {op : Operation} {summary : TeardownSummary}
    {rest : List (String × Node β)} : VisitsFrom known (performAll op summary rest) := by
  induction rest generalizing summary with
  | nil => exact ⟨known, rfl⟩
  | cons e rest ih =>
    refine Procedure.ensures_bind.2 (visits_actOn.mono ?_)
    rintro r t rfl
    exact ih

theorem visits_perform {op : Operation} : VisitsFrom (β := β) known (perform op) :=
  Procedure.ensures_bind.2 (visits_access (fun _ => rfl) fun _ => visits_performAll)

theorem visits_destroyAll {summary : TeardownSummary} {rest : List (String × Node β)} :
    VisitsFrom known (destroyAll summary rest) := by
  induction rest generalizing summary with
  | nil => exact ⟨known, rfl⟩
  | cons e rest ih =>
    refine Procedure.ensures_bind.2 (visits_act.mono ?_)
    rintro ⟨r, n⟩ t rfl
    cases r with
    | error e =>
      refine Procedure.ensures_bind.2 (visits_note.mono ?_)
      rintro - t rfl
      exact ih
    | ok u =>
      refine Procedure.ensures_bind.2 (visits_access (fun _ => rfl) fun _ => ?_)
      refine Procedure.ensures_bind.2 (visits_outside.mono ?_)
      rintro - t ⟨rfl, -⟩
      exact ih

theorem visits_destroy : VisitsFrom (β := β) known destroy :=
  Procedure.ensures_bind.2 (visits_access (fun _ => rfl) fun _ => visits_destroyAll)

end

/-! ## Additions -/

section

variable [Backend β] {setting : ClusterSetting β} {node : NodeParams} {base : ClusterParams}

/-- A node is enrolled, or nothing was changed. -/
theorem enroll_follows : (enroll setting base node).Follows (.holding node base) fun r t =>
    t = if r.isOk then .registered node else .holding node base := by
  unfold enroll
  cases added : base.addNode node with
  | error e => rfl
  | ok grown =>
    have holds : (Standing.holding node base).Works := trivial
    refine Procedure.ensures_bind.2 ((follows_work holds).mono ?_)
    rintro r t ⟨rfl, es, leads⟩
    cases r with
    | error e => rfl
    | ok deployed =>
      have same := (Cluster.deployNode_leads_ok leads).1
      have write (u) : (Standing.holding node base).after (β := β) ⟨.access (.write grown), u⟩ =
          .written node base := if_pos added
      have insert (old) : (Standing.written node base).after (β := β)
          ⟨.access (.insert deployed), old⟩ = .registered node := if_pos same
      refine Procedure.ensures_bind.2 (follows_access.2 fun u => ?_)
      rw [write]
      refine ⟨nofun, Procedure.ensures_bind.2 ?_⟩
      refine Procedure.ensures_bind.2 (follows_access.2 fun old => ?_)
      rw [insert]
      have lists : (Standing.registered node).Works := trivial
      refine ⟨nofun, (follows_work lists).mono ?_⟩
      rintro - t ⟨rfl, -⟩
      rfl

theorem add_follows : (add setting node).Follows (.waiting node) fun r t =>
    t = .ended node r.isOk := by
  refine Procedure.ensures_bind.2 (follows_access.2 fun base => ⟨nofun, ?_⟩)
  refine Procedure.ensures_bind.2 (enroll_follows.mono ?_)
  rintro r t rfl
  refine Procedure.ensures_bind.2 (follows_access.2 fun _ => ?_)
  cases r with
  | ok n => exact ⟨nofun, rfl⟩
  | error e => exact ⟨nofun, rfl⟩

/-- An addition has nothing bootstrapped. -/
def Quiet : Request β → Prop
  | .access _ => True
  | .outside c => ¬c.IsBootstrap

omit [Backend β] in
theorem within_outside {C : Request β → Prop} {p : Work α}
    (h : p.Within fun c => C (.outside c)) : (outside (β := β) p).Within C := by
  induction p with
  | done a => trivial
  | call c next ih => exact ⟨h.1, fun a d => ih a d (h.2 a d)⟩
  | pause d p ih => exact ih h
  | clock next ih => exact fun t => ih t (h t)

theorem register_quiet [Detached β] {n : Node β} : (register n).Within Quiet := by
  refine (Procedure.within_ask.2 trivial).bind fun old => within_outside ?_
  cases old with
  | none => exact Procedure.within_pure _
  | some old => exact Detached.release old.backend

theorem add_quiet [Detached β] : (add setting node).Within Quiet := by
  refine (Procedure.within_ask.2 trivial).bind fun base => Procedure.Within.bind ?_ fun r =>
    (Procedure.within_ask.2 trivial).bind fun _ => Procedure.within_pure _
  unfold enroll
  split
  · exact Procedure.within_pure _
  · have up : ((Cluster.ofParams setting base).deployNode node).Within (¬Call.IsBootstrap ·) :=
      Cluster.deployNode_within id Detached.deploy Detached.release
    refine (within_outside up).bind fun r => ?_
    cases r with
    | error e => exact Procedure.within_pure _
    | ok deployed =>
      refine (Procedure.within_ask.2 trivial).bind fun _ => ?_
      exact register_quiet.bind fun _ => Procedure.within_pure _

end

end Task

namespace Cluster.Act

variable {β : Type} [Backend β] {setting : ClusterSetting β}

/-- Where a task stands before it did anything. -/
def standing : Cluster.Act → Standing
  | .add node => .waiting node
  | .deploy | .bootstrap | .onNode _ _ | .stop _ | .kill | .destroy => .visiting []

theorem task_follows (act : Cluster.Act) :
    (act.task setting).Follows act.standing fun r t => t.Closes r := by
  have closes {r : Except Error Unit} {t : Standing} (visits : ∃ known, t = .visiting known) :
      t.Closes r := by
    obtain ⟨known, rfl⟩ := visits
    trivial
  cases act with
  | deploy => exact Task.visits_deploy.mono fun _ _ => closes
  | bootstrap => exact Task.visits_bootstrap.mono fun _ _ => closes
  | add node =>
    refine Procedure.ensures_map.2 (Task.add_follows.mono ?_)
    rintro r t rfl
    cases r with
    | ok n => rfl
    | error e => rfl
  | onNode name action =>
    exact Procedure.ensures_map.2 (Task.visits_performOn.mono fun _ _ => closes)
  | stop timeout => exact Procedure.ensures_map.2 (Task.visits_perform.mono fun _ _ => closes)
  | kill => exact Procedure.ensures_map.2 (Task.visits_perform.mono fun _ _ => closes)
  | destroy => exact Procedure.ensures_map.2 (Task.visits_destroy.mono fun _ _ => closes)

theorem task_quiet [Detached β] (node : NodeParams) :
    (Act.add node |>.task setting).Within Task.Quiet :=
  Task.add_quiet.map _

end Cluster.Act

end Testbed
