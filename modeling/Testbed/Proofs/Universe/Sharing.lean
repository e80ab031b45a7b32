import Testbed.Proofs.Universe.Admission
/-!
# Universes that are shared

A universe may be asked for several things at once, and what one task does can fall between any two
things that another does. What a task does to the universe in one piece is an `Access`: it checks
and changes the state as it is let in, it sets the state later on, it records the address of a host,
it reads or changes the table of clusters. Here the demands are tasks (`Demand.task`).

A task that has the universe to itself (`Task.alone`) makes the calls of the demand it stands for
and leaves the universe as that does (`Demand.alone_task`).
-/

namespace Testbed

namespace Universe

/-- What is done to a universe in one piece. -/
inductive Access where
  /-- Checks the state, and changes it if the demand is let in. -/
  | enter (d : Demand)
  /-- Sets the state, whatever it is. -/
  | setState (s : UniverseState)
  | record (host address : String)
  | addresses
  | put (c : Cluster Physical)
  | clusters

@[reducible]
def Access.Answer : Access → Type
  | .enter _ => Except Error Unit
  | .setState _ | .record _ _ | .put _ => Unit
  | .addresses => NameMap String
  | .clusters => NameMap (Cluster Physical)

/-- What a universe answers, and what it is afterwards. -/
def Access.apply (u : Universe) : (a : Access) → a.Answer × Universe
  | .enter d =>
    match d.accept u with
    | .ok v => (.ok (), v)
    | .error e => (.error e, u)
  | .setState s => ((), { u with state := s })
  | .record host address => ((), { u with addresses := u.addresses.insert host address })
  | .addresses => (u.addresses, u)
  | .put c => ((), u.putCluster c)
  | .clusters => (u.clusters, u)

/-- What is asked of the universe, or of all that is outside. -/
inductive Request where
  | access (a : Access)
  | outside (c : Call)

@[reducible]
def Request.Answer : Request → Type
  | .access a => a.Answer
  | .outside c => c.Answer

@[reducible]
def sharing : Interface := ⟨Request, Request.Answer⟩

/-- What somebody does who shares a universe with others. -/
abbrev Task (α : Type) := Procedure sharing α

namespace Task

variable {α γ : Type}

def access (a : Access) : Task a.Answer := Procedure.ask (I := sharing) (.access a)

/-- Work that leaves the universe alone. -/
def outside : Work α → Task α
  | .done a => .done a
  | .call c next => .call (.outside c) fun a d => outside (next a d)
  | .pause d p => .pause d (outside p)
  | .clock next => .clock fun t => outside (next t)

/-! ## Deploying -/

def recordConfigured : List (String × Option String) → Task Unit
  | [] => return ()
  | (host, some address) :: rest => do
    access (.record host address)
    recordConfigured rest
  | (_, none) :: rest => recordConfigured rest

def recordAll : List (String × Except Error String) → Task (Option Error)
  | [] => return none
  | (host, .ok address) :: rest => do
    access (.record host address)
    recordAll rest
  | (_, .error e) :: rest => do
    let _ ← recordAll rest
    return some e

def provision (workers : Nat) (vm : VmParams) : Task (Except Error Unit) := do
  recordConfigured vm.hosts.entries
  let outcome ← outside (Pool.run workers ((unaddressed vm).map (provisionOnWorker vm)))
  let failure ← recordAll outcome.completed
  match failure.or (Cluster.poolFailure outcome) with
  | some e => return .error e
  | none => do
    access (.setState .deploying)
    return .ok ()

/-- The factory of a universe whose hosts have these addresses. -/
def factoryFor (u : Universe) (addresses : NameMap String) : Factory Physical :=
  { u with addresses := addresses }.factory

/-- Makes the environment ready, and gives the factory for the nodes. -/
def prepare (u : Universe) : Task (Except Error (Factory Physical)) :=
  match u.environment with
  | .docker => do
    let ready ← outside (askEngine (.ensureNetwork u.params.networkName))
    return ready.map fun _ => u.factory
  | .vm vm => do
    match ← provision u.params.workers.toNat vm with
    | .error e => return .error e
    | .ok () => return .ok (factoryFor u (← access .addresses))

def deployClusters (u : Universe) (factory : Factory Physical) :
    List ClusterParams → Task (Except Error Unit)
  | [] => return .ok ()
  | params :: rest => do
    let cluster ← outside (u.newCluster factory params)
    access (.put cluster)
    let (r, cluster) ← outside cluster.deploy
    access (.put cluster)
    match r with
    | .ok () => deployClusters u factory rest
    | .error e => return .error e

/-- What a deployment does once it was let in. -/
def deployment (u : Universe) : Task (Except Error Unit) := do
  match ← prepare u with
  | .error e => return .error e
  | .ok factory =>
    match ← deployClusters u factory u.params.clusters.values with
    | .error e => return .error e
    | .ok () => do
      access (.setState .bootstrapped)
      return .ok ()

/-! ## Tearing down -/

def tearDown (act : Cluster Physical → Work (TeardownSummary × Cluster Physical))
    (summary : TeardownSummary) : List (Cluster Physical) → Task TeardownSummary
  | [] => return summary
  | cluster :: rest => do
    let (s, cluster) ← outside (act cluster)
    access (.put cluster)
    tearDown act (summary.merge s) rest

def stopping (u : Universe) : Task TeardownSummary := do
  tearDown (·.stop u.params.timeout) .empty (← access .clusters).values

def destruction (u : Universe) : Task TeardownSummary := do
  let summary ← tearDown Cluster.destroy .empty (← access .clusters).values
  outside u.releaseEnvironment
  return summary

end Task

/-- What is done for a demand that was let in. -/
def Demand.labour (u : Universe) : Demand → Task (Except Error (Option TeardownSummary))
  | .deploy => (·.map fun _ => none) <$> Task.deployment u
  | .shutDown => (fun s => .ok (some s)) <$> Task.stopping u
  | .destroy => (fun s => .ok (some s)) <$> Task.destruction u

/-- What somebody does who demands something of a universe that is shared. -/
def Demand.task (u : Universe) (d : Demand) : Task (Except Error (Option TeardownSummary)) := do
  match ← Task.access (.enter d) with
  | .error e => return .error e
  | .ok () => d.labour u

/-! ## Without others -/

namespace Task

variable {α γ : Type} {u t : Universe}

/-- What a task does that has the universe to itself. -/
def alone (u : Universe) : Task α → Work (α × Universe)
  | .done a => .done (a, u)
  | .call (.access a) next => alone (a.apply u).2 (next (a.apply u).1 .zero)
  | .call (.outside call) next => .call call fun a d => alone u (next a d)
  | .pause d p => .pause d (alone u p)
  | .clock next => .clock fun t => alone u (next t)

theorem alone_bind (u : Universe) (p : Task α) (f : α → Task γ) :
    alone u (p >>= f) = alone u p >>= fun o => alone o.2 (f o.1) := by
  change alone u (p.bind f) = (alone u p).bind fun o => alone o.2 (f o.1)
  induction p generalizing u with
  | done a => rfl
  | call r next ih =>
    cases r with
    | access a => simp only [Procedure.bind, alone, ih]
    | outside call => simp only [Procedure.bind, alone, ih]
  | pause d p ih => simp only [Procedure.bind, alone, ih]
  | clock next ih => simp only [Procedure.bind, alone, ih]

theorem alone_pure (u : Universe) (a : α) : alone u (pure a) = pure (a, u) := rfl

theorem alone_map (u : Universe) (f : α → γ) (p : Task α) :
    alone u (f <$> p) = (fun o => (f o.1, o.2)) <$> alone u p := by
  rw [map_eq_pure_bind, alone_bind, map_eq_pure_bind]
  rfl

theorem alone_access (u : Universe) (a : Access) : alone u (access a) = pure (a.apply u) := rfl

theorem alone_outside (u : Universe) (p : Work α) : alone u (outside p) = (·, u) <$> p := by
  rw [map_eq_pure_bind]
  change _ = p.bind fun a => .done (a, u)
  induction p with
  | done a => rfl
  | call call next ih => simp only [outside, alone, Procedure.bind, ih]
  | pause d p ih => simp only [outside, alone, Procedure.bind, ih]
  | clock next ih => simp only [outside, alone, Procedure.bind, ih]

theorem alone_recordConfigured {hosts : List (String × Option String)} :
    alone u (recordConfigured hosts) = pure ((), u.recordConfigured hosts) := by
  induction hosts generalizing u with
  | nil => rfl
  | cons host rest ih =>
    obtain ⟨name, _ | address⟩ := host
    · exact ih
    · exact ih

theorem alone_recordAll {results : List (String × Except Error String)} :
    alone u (recordAll results) = pure (u.recordAll results) := by
  induction results generalizing u with
  | nil => rfl
  | cons result rest ih =>
    obtain ⟨name, e | address⟩ := result
    · unfold recordAll
      rw [alone_bind, ih]
      rfl
    · exact ih

theorem alone_provision {vm : VmParams} :
    alone u (provision u.params.workers.toNat vm) = u.provision vm := by
  have workers : (u.recordConfigured vm.hosts.entries).params = u.params := by
    rw [recordConfigured_rest]
  unfold provision Universe.provision
  rw [alone_bind, alone_recordConfigured, pure_bind, alone_bind, alone_outside, bind_map_left]
  dsimp only
  rw [workers]
  refine congrArg (_ >>= ·) (funext fun outcome => ?_)
  rw [alone_bind, alone_recordAll, pure_bind]
  generalize (u.recordConfigured vm.hosts.entries).recordAll outcome.completed = recorded
  obtain ⟨failure, w⟩ := recorded
  dsimp only
  cases failure.or (Cluster.poolFailure outcome) with
  | none => rfl
  | some e => rfl

/-- A deployment uses no more of a universe than what it was made of. -/
structure Akin (t u : Universe) : Prop where
  params : t.params = u.params
  environment : t.environment = u.environment
  bootstrapper : t.bootstrapper = u.bootstrapper

theorem Akin.factory (akin : Akin t u) : factoryFor t u.addresses = u.factory := by
  unfold factoryFor Universe.factory
  rw [akin.params, akin.environment]

theorem alone_prepare (akin : Akin t u) : alone u (prepare t) =
    (fun o => (o.1.map fun _ => o.2.factory, o.2)) <$> u.prepareEnvironment := by
  unfold prepare prepareEnvironment
  rw [akin.environment]
  cases environment : u.environment with
  | docker =>
    have factory : t.factory = u.factory := by
      unfold Universe.factory
      rw [akin.environment, environment, akin.params]
    dsimp only
    rw [alone_bind, alone_outside, bind_map_left, akin.params, factory, map_bind]
    rfl
  | vm vm =>
    dsimp only
    rw [akin.params, alone_bind, alone_provision]
    have prepares : u.prepareEnvironment = u.provision vm := by
      unfold prepareEnvironment
      rw [environment]
    rw [map_eq_pure_bind]
    refine Procedure.bind_congr fun es o leads => ?_
    rw [← prepares] at leads
    have rest := prepareEnvironment_rest leads
    obtain ⟨_ | _, w⟩ := o
    · rfl
    · have later : Akin t w := by
        change w = { u with state := w.state, addresses := w.addresses } at rest
        rw [rest]
        exact ⟨akin.params, akin.environment, akin.bootstrapper⟩
      change (pure (Except.ok (factoryFor t w.addresses), w) : Work _) = _
      rw [later.factory]
      rfl

theorem alone_deployClusters (akin : Akin t u) {factory : Factory Physical}
    {rest : List ClusterParams} :
    alone u (deployClusters t factory rest) = u.deployClusters factory rest := by
  induction rest generalizing u with
  | nil => rfl
  | cons params rest ih =>
    have new : t.newCluster factory params = u.newCluster factory params := by
      unfold newCluster
      rw [akin.params, akin.bootstrapper]
    unfold deployClusters Universe.deployClusters
    rw [alone_bind, alone_outside, bind_map_left, new]
    refine congrArg (u.newCluster factory params >>= ·) (funext fun c => ?_)
    rw [alone_bind, alone_access, pure_bind, alone_bind]
    change (alone (u.putCluster c) (outside c.deploy) >>= _) = _
    rw [alone_outside, bind_map_left]
    refine congrArg (c.deploy >>= ·) (funext fun o => ?_)
    obtain ⟨_ | _, c'⟩ := o
    · rfl
    · exact ih (u := (u.putCluster c).putCluster c') ⟨akin.params, akin.environment,
        akin.bootstrapper⟩

theorem alone_deployment (akin : Akin t u) : alone u (deployment t) =
    u.prepareEnvironment >>= fun
      | (.error e, u) => pure (.error e, u)
      | (.ok (), u) => u.populate := by
  unfold deployment
  rw [alone_bind, alone_prepare akin, bind_map_left]
  refine Procedure.bind_congr fun es o leads => ?_
  have rest := prepareEnvironment_rest leads
  obtain ⟨_ | _, w⟩ := o
  · rfl
  · have later : Akin t w := by
      change w = { u with state := w.state, addresses := w.addresses } at rest
      rw [rest]
      exact ⟨akin.params, akin.environment, akin.bootstrapper⟩
    change alone w (deployClusters t w.factory t.params.clusters.values >>= _) = w.populate
    unfold populate
    rw [alone_bind, alone_deployClusters later, later.params]
    refine congrArg (_ >>= ·) (funext fun o => ?_)
    obtain ⟨_ | _, v⟩ := o
    · rfl
    · rfl

theorem alone_tearDown {act : Cluster Physical → Work (TeardownSummary × Cluster Physical)}
    {summary : TeardownSummary} {rest : List (Cluster Physical)} :
    alone u (tearDown act summary rest) = u.tearDown act summary rest := by
  induction rest generalizing u summary with
  | nil => rfl
  | cons c rest ih =>
    unfold tearDown Universe.tearDown
    rw [alone_bind, alone_outside, bind_map_left]
    refine congrArg (act c >>= ·) (funext fun o => ?_)
    exact ih

theorem tearDown_rest {act : Cluster Physical → Work (TeardownSummary × Cluster Physical)}
    {summary : TeardownSummary} {rest : List (Cluster Physical)} {es : List (Event Testbed.outside)}
    {o : TeardownSummary × Universe} (leads : (u.tearDown act summary rest).Leads es o) :
    o.2 = { u with clusters := o.2.clusters } := by
  induction rest generalizing u es summary with
  | nil => rw [(Procedure.leads_pure.1 leads).2]
  | cons c rest ih =>
    obtain ⟨_, _, r, -, -, leads⟩ := Procedure.leads_bind.1 leads
    have kept := ih leads
    exact kept

theorem alone_stopping (u : Universe) : alone u (stopping t) =
    u.tearDown (·.stop t.params.timeout) .empty u.clusters.values := by
  unfold stopping
  rw [alone_bind, alone_access, pure_bind]
  exact alone_tearDown

theorem alone_destruction (akin : Akin t u) : alone u (destruction t) = (do
    let (s, u) ← u.tearDown Cluster.destroy .empty u.clusters.values
    u.releaseEnvironment
    return (s, u)) := by
  unfold destruction
  rw [alone_bind, alone_access, pure_bind, alone_bind]
  change (alone u (tearDown Cluster.destroy .empty u.clusters.values) >>= _) = _
  rw [alone_tearDown]
  refine Procedure.bind_congr fun es o leads => ?_
  have released : t.releaseEnvironment = o.2.releaseEnvironment := by
    unfold releaseEnvironment
    rw [tearDown_rest leads, akin.environment, akin.params]
  rw [alone_bind, alone_outside, bind_map_left, released]
  rfl

end Task

namespace Demand

variable {u v : Universe} {d : Demand} {e : Error}

theorem alone_task_ok (accepted : d.accept u = .ok v) :
    (d.task u).alone u = (d.labour u).alone v := by
  have entered : Access.apply u (.enter d) = (.ok (), v) := by
    simp only [Access.apply, accepted]
  unfold task
  rw [Task.alone_bind, Task.alone_access, entered]
  rfl

theorem alone_task_error (refused : d.accept u = .error e) :
    (d.task u).alone u = pure (.error e, u) := by
  have entered : Access.apply u (.enter d) = (.error e, u) := by
    simp only [Access.apply, refused]
  unfold task
  rw [Task.alone_bind, Task.alone_access, entered]
  rfl

/-- A demand that is let in changes the state only. -/
theorem akin_of_accept (accepted : d.accept u = .ok v) : Task.Akin u v := by
  cases d with
  | deploy =>
    change u.beginDeploy = .ok v at accepted
    unfold beginDeploy at accepted
    split at accepted <;> cases accepted
    exact ⟨rfl, rfl, rfl⟩
  | shutDown | destroy =>
    change u.beginTeardown _ _ = .ok v at accepted
    unfold beginTeardown at accepted
    split at accepted <;> cases accepted
    exact ⟨rfl, rfl, rfl⟩

/-- Done alone, a task does what the demand that it stands for does. -/
theorem alone_task (u : Universe) (d : Demand) : (d.task u).alone u = d.perform u := by
  cases accepts : d.accept u with
  | error e =>
    rw [alone_task_error accepts]
    cases d with
    | deploy =>
      change u.beginDeploy = .error e at accepts
      unfold perform Universe.deploy
      rw [accepts]
      rfl
    | shutDown =>
      change u.beginTeardown .shutDown "shut down" = .error e at accepts
      unfold perform Universe.shutDown
      rw [accepts]
      rfl
    | destroy =>
      change u.beginTeardown .destroyed "destroy" = .error e at accepts
      unfold perform Universe.destroy
      rw [accepts]
      rfl
  | ok v =>
    have akin := akin_of_accept accepts
    rw [alone_task_ok accepts]
    cases d with
    | deploy =>
      change u.beginDeploy = .ok v at accepts
      unfold labour perform Universe.deploy
      rw [Task.alone_map, Task.alone_deployment akin, accepts]
      rfl
    | shutDown =>
      change u.beginTeardown .shutDown "shut down" = .ok v at accepts
      unfold labour perform Universe.shutDown
      rw [Task.alone_map, Task.alone_stopping, akin.params, accepts]
      simp only [map_eq_pure_bind, bind_assoc, pure_bind]
      rfl
    | destroy =>
      change u.beginTeardown .destroyed "destroy" = .ok v at accepts
      unfold labour perform Universe.destroy
      rw [Task.alone_map, Task.alone_destruction akin, accepts]
      simp only [map_eq_pure_bind, bind_assoc, pure_bind]
      rfl

end Demand

end Universe

end Testbed
