import Testbed.Proofs.Cluster.Isolation
import Testbed.Proofs.Cluster.Ownership
/-!
# Clusters that are shared

Several tasks may use a cluster at once, and what one does can fall between any two things that
another does. What a task does to the cluster in one piece is an `Access`: the parameters stand
behind a lock that a task can keep, the members are read or changed one access at a time. Here the
operations of a cluster are tasks (`Cluster.Act.task`).

A task that has the cluster to itself (`Task.alone`) makes the calls of the operation it stands for
and leaves the cluster as that does (`Cluster.Act.alone_task`).
-/

namespace Testbed

/-- What is done to a cluster in one piece. -/
inductive Access (β : Type) where
  /-- Takes the lock of the parameters and reads them. -/
  | lock
  | write (p : ClusterParams)
  | unlock
  /-- Reads the parameters, with the lock held for no longer than that. -/
  | params
  | members
  /-- Makes a node a member. Answered with the member that had its name. -/
  | insert (n : Node β)
  /-- Asks what the backend of a node has become, given what it was when the node was found. -/
  | look (name : String) (b : β)
  /-- Leaves a member with what its backend has become. -/
  | note (name : String) (b : β)
  | erase (name : String)

@[reducible]
def Access.Answer {β : Type} : Access β → Type
  | .lock | .params => ClusterParams
  | .members => NameMap (Node β)
  | .insert _ => Option (Node β)
  | .look _ _ => β
  | .write _ | .unlock | .note _ _ | .erase _ => Unit

/-- What a cluster that nobody else uses answers, and what it is afterwards. -/
def Access.apply {β : Type} (c : Cluster β) : (a : Access β) → a.Answer × Cluster β
  | .lock | .params => (c.params, c)
  | .write p => ((), { c with params := p })
  | .unlock => ((), c)
  | .members => (c.members, c)
  | .insert n => (c.members.find? n.name, { c with members := c.members.insert n.name n })
  | .look name b => (((c.members.find? name).map Node.backend).getD b, c)
  | .note name b => ((),
    match c.members.find? name with
    | some n => { c with members := c.members.insert name { n with backend := b } }
    | none => c)
  | .erase name => ((), { c with members := c.members.erase name })

/-- What is asked of the cluster, or of all that is outside. -/
inductive Request (β : Type) where
  | access (a : Access β)
  | outside (c : Call)

@[reducible]
def Request.Answer {β : Type} : Request β → Type
  | .access a => a.Answer
  | .outside c => c.Answer

@[reducible]
def sharing (β : Type) : Interface := ⟨Request β, Request.Answer⟩

/-- What somebody does who shares a cluster with others. -/
abbrev Task (β α : Type) := Procedure (sharing β) α

namespace Task

variable {α β γ : Type}

def access (a : Access β) : Task β a.Answer := Procedure.ask (I := sharing β) (.access a)

/-- Work that leaves the cluster alone. -/
def outside : Work α → Task β α
  | .done a => .done a
  | .call c next => .call (.outside c) fun a d => outside (next a d)
  | .pause d p => .pause d (outside p)
  | .clock next => .clock fun t => outside (next t)

section

variable [Backend β]

/-! ## Deploying -/

/-- Gives up the member that a new one replaced. -/
def giveUp : Option (Node β) → Work Unit
  | some old => Backend.release old.backend
  | none => return ()

def register (n : Node β) : Task β Unit := do
  outside (giveUp (← access (.insert n)))

def deployInTurn (c : Cluster β) : List NodeParams → Task β (Except Error Unit)
  | [] => return .ok ()
  | node :: rest => do
    match ← outside (c.deployNode node) with
    | .ok deployed =>
      register deployed
      deployInTurn c rest
    | .error e => return .error e

def registerAll : List (Except Error (Node β)) → Task β (Option Error)
  | [] => return none
  | .ok deployed :: rest => do
    register deployed
    registerAll rest
  | .error e :: rest => do
    let _ ← registerAll rest
    return some e

def deployAtOnce (c : Cluster β) (workers : Nat) (nodes : List NodeParams) :
    Task β (Except Error Unit) := do
  let (ready, unprepared) ← outside (c.prepareAll nodes)
  let outcome ← outside (Pool.run workers (ready.map Node.deployOnWorker))
  let undeployed ← registerAll outcome.completed
  match unprepared.or (undeployed.or (Cluster.poolFailure outcome)) with
  | some e => return .error e
  | none => return .ok ()

def deployNodes (c : Cluster β) : Task β (Except Error Unit) :=
  match c.setting.factory.strategy with
  | .sequential => deployInTurn c c.params.nodes
  | .concurrent workers => deployAtOnce c workers c.params.nodes

def bootstrap (setting : ClusterSetting β) : Task β (Except Error Unit) := do
  let params ← access .params
  let members ← access .members
  outside (Cluster.mk setting params members).bootstrap.run

/-- Deploys the nodes that are configured at the start, and bootstraps those that are configured
once they are up. -/
def deploy (setting : ClusterSetting β) : Task β (Except Error Unit) := do
  let params ← access .params
  match ← deployNodes (.ofParams setting params) with
  | .ok () => bootstrap setting
  | .error e => return .error e

/-- Adds a node to the parameters it was checked against. -/
def enroll (setting : ClusterSetting β) (params : ClusterParams) (node : NodeParams) :
    Task β (Except Error (Node β)) :=
  match params.addNode node with
  | .error e => return .error e
  | .ok grown => do
    match ← outside ((Cluster.ofParams setting params).deployNode node) with
    | .error e => return .error e
    | .ok deployed =>
      access (.write grown)
      register deployed
      return .ok deployed

/-- The lock is held from the check of the node until it is a member. -/
def add (setting : ClusterSetting β) (node : NodeParams) : Task β (Except Error (Node β)) := do
  let params ← access .lock
  let r ← enroll setting params node
  access .unlock
  return r

/-! ## Acting on nodes -/

/-- Acts on a node that was found, as it is by now. -/
def act (action : Backend.Action) (name : String) (member : Node β) :
    Task β (Outcome (Node β)) := do
  let b ← access (.look name member.backend)
  outside (action.onNode { member with backend := b })

def actOn (action : Backend.Action) (name : String) (member : Node β) :
    Task β (Except Error Unit) := do
  let (r, after) ← act action name member
  access (.note name after.backend)
  return r

def performOn (name : String) (action : Backend.Action) :
    Task β (Option (Except Error Unit)) := do
  match (← access .members).find? name with
  | none => return none
  | some member => return some (← actOn action name member)

def performAll (op : Operation) (summary : TeardownSummary) :
    List (String × Node β) → Task β TeardownSummary
  | [] => return summary
  | (name, member) :: rest => do
    let r ← actOn (.perform op) name member
    performAll op (summary.count (Cluster.failed r)) rest

/-- Does an operation to all that are members at the start. -/
def perform (op : Operation) : Task β TeardownSummary := do
  performAll op .empty (← access .members).entries

def destroyAll (summary : TeardownSummary) : List (String × Node β) → Task β TeardownSummary
  | [] => return summary
  | (name, member) :: rest => do
    match ← act .destroy name member with
    | (.ok (), gone) =>
      access (.erase name)
      outside (Backend.release gone.backend)
      destroyAll (summary.count false) rest
    | (.error _, kept) =>
      access (.note name kept.backend)
      destroyAll (summary.count true) rest

def destroy : Task β TeardownSummary := do
  destroyAll .empty (← access .members).entries

end

end Task

/-- What somebody does who does this to a cluster that is shared. -/
def Cluster.Act.task {β : Type} [Backend β] (setting : ClusterSetting β) :
    Cluster.Act → Task β (Except Error Unit)
  | .deploy => Task.deploy setting
  | .bootstrap => Task.bootstrap setting
  | .add node => (·.map fun _ => ()) <$> Task.add setting node
  | .onNode name action => (·.getD (.ok ())) <$> Task.performOn name action
  | .stop timeout => (fun _ => .ok ()) <$> Task.perform (.stop timeout)
  | .kill => (fun _ => .ok ()) <$> Task.perform .kill
  | .destroy => (fun _ => .ok ()) <$> Task.destroy

/-! ## Without others -/

namespace Task

variable {α β γ : Type}

/-- What a task does that has the cluster to itself. -/
def alone (c : Cluster β) : Task β α → Work (α × Cluster β)
  | .done a => .done (a, c)
  | .call (.access a) next => alone (a.apply c).2 (next (a.apply c).1 .zero)
  | .call (.outside call) next => .call call fun a d => alone c (next a d)
  | .pause d p => .pause d (alone c p)
  | .clock next => .clock fun t => alone c (next t)

theorem alone_bind (c : Cluster β) (p : Task β α) (f : α → Task β γ) :
    alone c (p >>= f) = alone c p >>= fun o => alone o.2 (f o.1) := by
  change alone c (p.bind f) = (alone c p).bind fun o => alone o.2 (f o.1)
  induction p generalizing c with
  | done a => rfl
  | call r next ih =>
    cases r with
    | access a => simp only [Procedure.bind, alone, ih]
    | outside call => simp only [Procedure.bind, alone, ih]
  | pause d p ih => simp only [Procedure.bind, alone, ih]
  | clock next ih => simp only [Procedure.bind, alone, ih]

theorem alone_pure (c : Cluster β) (a : α) : alone c (pure a) = pure (a, c) := rfl

theorem alone_map (c : Cluster β) (f : α → γ) (p : Task β α) :
    alone c (f <$> p) = (fun o => (f o.1, o.2)) <$> alone c p := by
  rw [map_eq_pure_bind, alone_bind, map_eq_pure_bind]
  rfl

theorem alone_access (c : Cluster β) (a : Access β) : alone c (access a) = pure (a.apply c) := rfl

theorem alone_outside (c : Cluster β) (p : Work α) : alone c (outside p) = (·, c) <$> p := by
  rw [map_eq_pure_bind]
  change _ = p.bind fun a => .done (a, c)
  induction p with
  | done a => rfl
  | call call next ih => simp only [outside, alone, Procedure.bind, ih]
  | pause d p ih => simp only [outside, alone, Procedure.bind, ih]
  | clock next ih => simp only [outside, alone, Procedure.bind, ih]

section

variable [Backend β]

/-! ### Deploying -/

theorem register_eq (c : Cluster β) (n : Node β) :
    c.register n = (do
      giveUp (c.members.find? n.name)
      return { c with members := c.members.insert n.name n }) := by
  unfold Cluster.register
  cases c.members.find? n.name with
  | none => rfl
  | some old => rfl

theorem alone_register (c : Cluster β) (n : Node β) :
    alone c (register n) = (do
      giveUp (c.members.find? n.name)
      return ((), { c with members := c.members.insert n.name n })) := by
  unfold register
  rw [alone_bind, alone_access, pure_bind, alone_outside, map_eq_pure_bind]
  rfl

variable {c t : Cluster β}

theorem alone_deployInTurn {nodes : List NodeParams} (same : c.setting = t.setting) :
    alone c (deployInTurn t nodes) = c.deployInTurn nodes := by
  induction nodes generalizing c with
  | nil => rfl
  | cons node rest ih =>
    have first : t.deployNode node = c.deployNode node := by
      unfold Cluster.deployNode Cluster.prepare Cluster.logDir
      rw [same]
    unfold deployInTurn Cluster.deployInTurn
    rw [alone_bind, alone_outside, bind_map_left, first]
    refine congrArg (c.deployNode node >>= ·) (funext fun r => ?_)
    cases r with
    | error e => rfl
    | ok deployed =>
      have later := ih (c := { c with members := c.members.insert deployed.name deployed }) same
      simp only [alone_bind, alone_register, register_eq, bind_assoc, pure_bind, later]

theorem alone_registerAll {results : List (Except Error (Node β))} :
    alone c (registerAll results) = c.registerAll results := by
  induction results generalizing c with
  | nil => rfl
  | cons r rest ih =>
    cases r with
    | ok deployed =>
      unfold registerAll Cluster.registerAll
      simp only [alone_bind, alone_register, register_eq, bind_assoc, pure_bind, ih]
    | error e =>
      unfold registerAll Cluster.registerAll
      rw [alone_bind, ih]
      rfl

omit [Backend β] in
/-- Nodes are made ready by the setting alone. -/
theorem prepareAll_congr {nodes : List NodeParams} (same : c.setting = t.setting) :
    c.prepareAll nodes = t.prepareAll nodes := by
  induction nodes with
  | nil => rfl
  | cons node rest ih =>
    unfold Cluster.prepareAll Cluster.prepare Cluster.logDir
    rw [ih, same]

theorem alone_deployAtOnce {workers : Nat} {nodes : List NodeParams}
    (same : c.setting = t.setting) :
    alone c (deployAtOnce t workers nodes) = c.deployAtOnce workers nodes := by
  have prepared : t.prepareAll nodes = c.prepareAll nodes := prepareAll_congr same.symm
  unfold deployAtOnce Cluster.deployAtOnce
  rw [alone_bind, alone_outside, bind_map_left, prepared]
  refine congrArg (c.prepareAll nodes >>= ·) (funext fun ready => ?_)
  simp only [alone_bind, alone_outside, bind_map_left, alone_registerAll]
  refine congrArg (_ >>= ·) (funext fun outcome => ?_)
  refine congrArg (_ >>= ·) (funext fun undeployed => ?_)
  cases ready.2.or (undeployed.1.or (Cluster.poolFailure outcome)) with
  | none => rfl
  | some e => rfl

theorem alone_deployNodes (c : Cluster β) :
    alone c (deployNodes (.ofParams c.setting c.params)) = c.deployNodes := by
  unfold deployNodes Cluster.deployNodes
  change alone c (match c.setting.factory.strategy with
    | .sequential => deployInTurn (.ofParams c.setting c.params) c.params.nodes
    | .concurrent workers =>
      deployAtOnce (.ofParams c.setting c.params) workers c.params.nodes) = _
  cases c.setting.factory.strategy with
  | sequential => exact alone_deployInTurn rfl
  | concurrent workers => exact alone_deployAtOnce rfl

omit [Backend β] in
theorem alone_bootstrap (c : Cluster β) :
    alone c (bootstrap c.setting) = (·, c) <$> c.bootstrap.run := by
  unfold bootstrap
  rw [alone_bind, alone_access, pure_bind, alone_bind, alone_access, pure_bind]
  exact alone_outside c c.bootstrap.run

section

variable {es : List (Event Testbed.outside)}

theorem register_setting {n : Node β} {c' : Cluster β} (leads : (c.register n).Leads es c') :
    c'.setting = c.setting := by
  rw [register_eq] at leads
  obtain ⟨_, _, _, -, -, last⟩ := Procedure.leads_bind.1 leads
  rw [(Procedure.leads_pure.1 last).2]

theorem deployInTurn_setting {nodes : List NodeParams} {o : ClusterOutcome β Unit}
    (leads : (c.deployInTurn nodes).Leads es o) : o.2.setting = c.setting := by
  induction nodes generalizing c es with
  | nil => rw [(Procedure.leads_pure.1 leads).2]
  | cons node rest ih =>
    obtain ⟨_, _, r, -, -, later⟩ := Procedure.leads_bind.1 leads
    cases r with
    | error e => rw [(Procedure.leads_pure.1 later).2]
    | ok deployed =>
      obtain ⟨_, _, c', -, registered, turns⟩ := Procedure.leads_bind.1 later
      exact (ih turns).trans (register_setting registered)

theorem registerAll_setting {results : List (Except Error (Node β))}
    {o : Option Error × Cluster β} (leads : (c.registerAll results).Leads es o) :
    o.2.setting = c.setting := by
  induction results generalizing c es o with
  | nil => rw [(Procedure.leads_pure.1 leads).2]
  | cons r rest ih =>
    cases r with
    | ok deployed =>
      obtain ⟨_, _, c', -, registered, others⟩ := Procedure.leads_bind.1 leads
      exact (ih others).trans (register_setting registered)
    | error e =>
      obtain ⟨_, _, o', -, others, last⟩ := Procedure.leads_bind.1 leads
      rw [(Procedure.leads_pure.1 last).2]
      have kept := ih others
      exact kept

theorem deployNodes_setting {o : ClusterOutcome β Unit} (leads : c.deployNodes.Leads es o) :
    o.2.setting = c.setting := by
  unfold Cluster.deployNodes at leads
  cases strategy : c.setting.factory.strategy with
  | sequential =>
    rw [strategy] at leads
    exact deployInTurn_setting leads
  | concurrent workers =>
    rw [strategy] at leads
    obtain ⟨_, _, ready, -, -, pooled⟩ := Procedure.leads_bind.1 leads
    obtain ⟨_, _, outcome, -, -, joined⟩ := Procedure.leads_bind.1 pooled
    obtain ⟨_, _, undeployed, -, registered, last⟩ := Procedure.leads_bind.1 joined
    have kept := registerAll_setting registered
    dsimp only at last
    split at last
    · rw [(Procedure.leads_pure.1 last).2]
      exact kept
    · rw [(Procedure.leads_pure.1 last).2]
      exact kept

end

theorem alone_deploy (c : Cluster β) : alone c (deploy c.setting) = c.deploy := by
  unfold deploy Cluster.deploy
  rw [alone_bind, alone_access, pure_bind, alone_bind]
  change (alone c (deployNodes (.ofParams c.setting c.params)) >>= _) = _
  rw [alone_deployNodes]
  refine Procedure.bind_congr fun es o leads => ?_
  have setting := deployNodes_setting leads
  obtain ⟨_ | _, c'⟩ := o
  · rfl
  · change alone c' (bootstrap c.setting) = _
    rw [← setting]
    exact (alone_bootstrap c').trans (map_eq_pure_bind _ _)

theorem alone_add (c : Cluster β) (node : NodeParams) :
    alone c (add c.setting node) = c.add node := by
  unfold add Cluster.add enroll
  rw [alone_bind, alone_access, pure_bind, alone_bind]
  change (alone c (match c.params.addNode node with | .error e => _ | .ok grown => _) >>= _) = _
  cases c.params.addNode node with
  | error e => rfl
  | ok grown =>
    rw [alone_bind, alone_outside, bind_map_left, bind_assoc]
    refine congrArg (c.deployNode node >>= ·) (funext fun r => ?_)
    cases r with
    | error e => rfl
    | ok deployed =>
      simp only [alone_bind, alone_register, register_eq, bind_assoc, pure_bind]
      rfl

/-! ### Acting on nodes -/

/-- An action changes nothing of a node but its backend. -/
theorem onNode_eq (action : Backend.Action) (n : Node β) : ∃ p : Work (Outcome β),
    action.onNode n = (fun o => (o.1, { n with backend := o.2 })) <$> p := by
  cases action with
  | perform op => exact ⟨_, Node.perform_eq op n⟩
  | destroy => exact ⟨Backend.destroy n.backend, (map_eq_pure_bind _ _).symm⟩

section

variable {name : String} {member : Node β}

theorem alone_act {action : Backend.Action} (found : c.members.find? name = some member) :
    alone c (act action name member) = (·, c) <$> action.onNode member := by
  unfold act
  rw [alone_bind, alone_access, pure_bind]
  change alone c (outside (action.onNode
    { member with backend := ((c.members.find? name).map Node.backend).getD member.backend })) = _
  rw [found]
  exact alone_outside c _

omit [Backend β] in
/-- What is noted of a member is its backend only. -/
theorem alone_note {b : β} (found : c.members.find? name = some member) :
    alone c (access (.note name b)) =
      pure ((), { c with members := c.members.insert name { member with backend := b } }) := by
  rw [alone_access]
  change pure ((), match c.members.find? name with | some n => _ | none => c) = _
  rw [found]

theorem alone_actOn {action : Backend.Action} (found : c.members.find? name = some member) :
    alone c (actOn action name member) =
      (fun o => (o.1, { c with members := c.members.insert name o.2 })) <$>
        action.onNode member := by
  obtain ⟨p, eq⟩ := onNode_eq action member
  unfold actOn
  rw [alone_bind, alone_act found, eq]
  simp only [map_eq_pure_bind, bind_assoc, pure_bind, alone_bind, alone_note found, alone_pure]

theorem alone_performOn (c : Cluster β) (name : String) (action : Backend.Action) :
    alone c (performOn name action) =
      (fun r => (r.map (·.1), (r.map (·.2)).getD c)) <$> c.performOn name action.onNode := by
  unfold performOn Cluster.performOn
  rw [alone_bind, alone_access, pure_bind]
  change alone c (match c.members.find? name with | none => _ | some member => _) = _
  cases found : c.members.find? name with
  | none => rfl
  | some member =>
    simp only [alone_bind, alone_actOn found, bind_map_left, alone_pure, map_bind, map_pure,
      Option.map_some, Option.getD_some]

/-- The members that are left to act on are still there. -/
theorem alone_performAll {op : Operation} {summary : TeardownSummary}
    {rest : List (String × Node β)} (distinct : (rest.map Prod.fst).Nodup)
    (present : ∀ e ∈ rest, c.members.find? e.1 = some e.2) :
    alone c (performAll op summary rest) = c.performAll op summary rest := by
  induction rest generalizing c summary with
  | nil => rfl
  | cons e rest ih =>
    obtain ⟨name, member⟩ := e
    have found := present (name, member) List.mem_cons_self
    obtain ⟨fresh, distinct⟩ := List.nodup_cons.1 distinct
    unfold performAll Cluster.performAll
    rw [alone_bind, alone_actOn found, bind_map_left]
    refine congrArg (member.perform op >>= ·) (funext fun o => ?_)
    refine ih distinct fun e' mem => ?_
    have apart : e'.1 ≠ name := fun same => fresh (List.mem_map.2 ⟨e', mem, same⟩)
    exact (NameMap.find?_insert_of_ne apart).trans (present e' (List.mem_cons_of_mem _ mem))

theorem alone_perform (c : Cluster β) (op : Operation) :
    alone c (perform op) = c.performAll op .empty c.members.entries := by
  unfold perform
  rw [alone_bind, alone_access, pure_bind]
  exact alone_performAll c.members.keys_nodup fun e mem => NameMap.mem_entries.1 mem

theorem alone_destroyAll {summary : TeardownSummary} {rest : List (String × Node β)}
    (distinct : (rest.map Prod.fst).Nodup)
    (present : ∀ e ∈ rest, c.members.find? e.1 = some e.2) :
    alone c (destroyAll summary rest) = c.destroyAll summary rest := by
  induction rest generalizing c summary with
  | nil => rfl
  | cons e rest ih =>
    obtain ⟨name, member⟩ := e
    have found := present (name, member) List.mem_cons_self
    obtain ⟨fresh, distinct⟩ := List.nodup_cons.1 distinct
    have apart {e'} (mem : e' ∈ rest) : e'.1 ≠ name :=
      fun same => fresh (List.mem_map.2 ⟨e', mem, same⟩)
    have left {e'} (mem : e' ∈ rest) := present e' (List.mem_cons_of_mem _ mem)
    obtain ⟨p, eq⟩ := onNode_eq .destroy member
    change member.destroy = _ at eq
    unfold destroyAll Cluster.destroyAll
    rw [alone_bind, alone_act found]
    change ((·, c) <$> member.destroy >>= _) = _
    rw [eq]
    simp only [bind_map_left]
    refine congrArg (p >>= ·) (funext fun o => ?_)
    obtain ⟨_ | _, b⟩ := o
    · change alone c (access (.note name b) >>= fun _ => destroyAll (summary.count true) rest) = _
      rw [alone_bind, alone_note found, pure_bind]
      refine ih distinct fun e' mem => ?_
      exact (NameMap.find?_insert_of_ne (apart mem)).trans (left mem)
    · change alone c (access (.erase name) >>= fun _ => outside (Backend.release b) >>= fun _ =>
        destroyAll (summary.count false) rest) = _
      rw [alone_bind, alone_access, pure_bind, alone_bind, alone_outside, bind_map_left]
      refine congrArg (Backend.release b >>= ·) (funext fun _ => ?_)
      refine ih distinct fun e' mem => ?_
      exact (NameMap.find?_erase_of_ne (apart mem)).trans (left mem)

theorem alone_destroy (c : Cluster β) : alone c destroy = c.destroy := by
  unfold destroy
  rw [alone_bind, alone_access, pure_bind]
  exact alone_destroyAll c.members.keys_nodup fun e mem => NameMap.mem_entries.1 mem

end

end

end Task

/-- Done alone, a task does what the operation that it stands for does. -/
theorem Cluster.Act.alone_task (act : Cluster.Act) (c : Cluster Physical) :
    (act.task c.setting).alone c = act.apply c := by
  cases act with
  | deploy => exact Task.alone_deploy c
  | bootstrap => exact Task.alone_bootstrap c
  | add node => exact (Task.alone_map c _ _).trans (congrArg _ (Task.alone_add c node))
  | onNode name action =>
    refine (Task.alone_map c _ _).trans ?_
    rw [Task.alone_performOn, ← comp_map]
    refine congrArg (· <$> c.performOn name action.onNode) (funext fun r => ?_)
    cases r with
    | none => rfl
    | some o => rfl
  | stop timeout => exact (Task.alone_map c _ _).trans (congrArg _ (Task.alone_perform c _))
  | kill => exact (Task.alone_map c _ _).trans (congrArg _ (Task.alone_perform c _))
  | destroy => exact (Task.alone_map c _ _).trans (congrArg _ (Task.alone_destroy c))

end Testbed
