import Testbed.Proofs.Fault.Suffering
import Testbed.Proofs.Universe.Reach
/-!
# The rounds of the fault loop

A `Bout` is what one round comes to: a fault is brought about on a node that can suffer it, held for
a while and healed. The loop goes through bouts, one after the other, and does nothing else but wait
and pick (`Course`). So whatever is picked, and whenever the signal to shut down comes, no more than
one node suffers at any time, and the loop leaves a universe behind that is what it was
(`run_course`).
-/

namespace Testbed

open Lab (Engine)

variable {σ : Type}

/-- Asked at a moment, a node says that it runs and that no rules are in place. -/
structure Physical.Healthy (peers : Peers outside σ) (m : Moment σ) (b : Physical) : Prop where
  running : ((Backend.state b).run peers m).1 = .ok .running
  clear : ((Backend.faultRules b).run peers m).1 = .ok []

/-- The state of a node that suffers from a fault. -/
def Fault.state : Fault → NodeState
  | .partition => .running
  | .pause => .paused
  | .stop | .kill => .stopped

/-- The nodes run in the same container. -/
def Physical.Shares (b b' : Physical) : Prop :=
  ∃ name, b.container? = some name ∧ b'.container? = some name

/-- The member of a name, of the cluster of a name. -/
def Universe.member? (u : Universe) (cluster node : String) : Option (Node Physical) :=
  (u.clusters.find? cluster).bind (·.members.find? node)

/-- An operation on a member. -/
def Universe.operate (u : Universe) (cluster node : String) (op : Operation) :
    Work (Outcome Universe) :=
  u.onCluster cluster (.onNode node (.perform op))

namespace FaultLoop

/-- A fault that is brought about on a node, held and healed. -/
structure Bout (σ : Type) where
  cluster : Cluster Physical
  name : String
  node : Node Physical
  fault : Fault
  /-- The universe while the fault is held. -/
  during : Universe
  struck : Moment σ
  held : Moment σ
  released : Moment σ
  healed : Moment σ

namespace Bout

variable (u : Universe) (b : Bout σ)

def injection : Work (Outcome Universe) :=
  u.operate b.cluster.name b.name (b.fault.injection u.params.timeout)

def healing : Work (Outcome Universe) :=
  b.during.operate b.cluster.name b.name b.fault.healing

/-- All that happens between the moment when the fault is brought about and the one when it is
healed. -/
def history (peers : Peers outside σ) (hold : Duration) : List (Event outside × σ) :=
  (b.injection u).history peers b.struck ++ (awaitShutdown hold).history peers b.held ++
    b.healing.history peers b.released

/-- A bout that a universe passes. -/
structure Passes (peers : Peers outside σ) (hold : Duration) : Prop where
  member : (b.cluster, b.name, b.node) ∈ u.nodes
  supported : b.fault ∈ Fault.supported b.node.backend
  injected : (b.injection u).run peers b.struck = ((.ok (), b.during), b.held)
  waited : ((awaitShutdown hold).run peers b.held).2 = b.released
  suffers : ∃ ill, b.during.member? b.cluster.name b.name = some ill ∧
    ((Backend.state ill.backend).run peers b.released).1 = .ok b.fault.state
  /-- The universe is again what it was. -/
  healed : b.healing.run peers b.released = ((.ok (), u), b.healed)
  /-- Nothing is done to other nodes, and they are well all the time unless they share the
  container. -/
  others : ∀ x ∈ u.nodes, (x.1.name, x.2.1) ≠ (b.cluster.name, b.name) →
    b.during.member? x.1.name x.2.1 = some x.2.2 ∧
      (¬x.2.2.backend.Shares b.node.backend →
        ∀ y ∈ b.history u peers hold, ∀ clock, x.2.2.backend.Healthy peers ⟨clock, y.2⟩)

end Bout

/-- What goes on in so many rounds, from one moment to another: the loop waits, and unless it is told
to shut down it picks a node and a fault and goes through a bout. -/
inductive Course (peers : Peers outside σ) (interval : Duration) (u : Universe) :
    Nat → Moment σ → List (Bout σ) → List (Event outside × σ) → Moment σ → Prop
  | over {m : Moment σ} : Course peers interval u 0 m [] [] m
  | told {rounds : Nat} {m last : Moment σ} :
      (awaitShutdown interval).run peers m = (true, last) →
      Course peers interval u (rounds + 1) m [] ((awaitShutdown interval).history peers m) last
  | idle {rounds : Nat} {m waited last : Moment σ} {bouts : List (Bout σ)}
      {later : List (Event outside × σ)} :
      (awaitShutdown interval).run peers m = (false, waited) → u.nodes = [] →
      Course peers interval u rounds waited bouts later last →
      Course peers interval u (rounds + 1) m bouts
        ((awaitShutdown interval).history peers m ++ later) last
  | bout {rounds : Nat} {m waited picked last : Moment σ} {bouts : List (Bout σ)}
      {later : List (Event outside × σ)} (b : Bout σ) :
      (awaitShutdown interval).run peers m = (false, waited) →
      (pick u.nodes).run peers waited = (some (b.cluster, b.name, b.node), picked) →
      (pick (Fault.supported b.node.backend)).run peers picked = (some b.fault, b.struck) →
      b.Passes u peers interval →
      Course peers interval u rounds b.healed bouts later last →
      Course peers interval u (rounds + 1) m (b :: bouts)
        ((awaitShutdown interval).history peers m ++
          (((pick u.nodes).history peers waited ++
            ((pick (Fault.supported b.node.backend)).history peers picked ++
              b.history u peers interval)) ++ later)) last

end FaultLoop

/-! ## Nodes in their places -/

namespace Physical

variable {b b' : Physical} {e t : Engine} {s : Condition} {peers : Peers outside σ}
  {view : σ → Engine} {m : Moment σ}

theorem Healthy.well (healthy : b.Healthy peers m) (obey : peers.Obey view Faultless)
    (reached : Backend.Reached b) : b.Well (view m.state) := by
  cases b with
  | container c =>
    have state := Container.state_offHost.faultless (@Container.ensures_state c (view m.state))
    have up : (view m.state).Up c.name := (state.run obey).1 healthy.running
    refine ⟨matches_up.2 ?_, (Container.shows_up (reached_created reached)).2 up⟩
    obtain ⟨k, found, runs, awake⟩ := up
    have rules := Container.faultRules_offHost.faultless (Container.ensures_told found runs awake)
    have told := (rules.run obey).symm.trans healthy.clear
    exact ⟨k, found, runs, awake, List.flatMap_eq_nil_iff.1 (Except.ok.inj told)⟩
  | process p =>
    have fits : p.Matches ⟨.running, true⟩ :=
      ⟨.inl rfl, Except.ok.inj healthy.running, reached_launchable reached⟩
    exact ⟨fits, fits.shows⟩

theorem Stands.healthy (well : b.Well (view m.state)) (obey : peers.Obey view Faultless) :
    b.Healthy peers m := by
  refine ⟨((shows_state well.shows).run obey).1, ?_⟩
  cases b with
  | container c =>
    obtain ⟨k, found, runs, awake, clear⟩ := matches_up.1 well.fits
    have rules := Container.faultRules_offHost.faultless (Container.ensures_told found runs awake)
    refine (rules.run obey).trans ?_
    rw [List.flatMap_eq_nil_iff.2 clear]
  | process p => rfl

/-- Nodes that share a container are well together. -/
theorem Shares.well (shares : b'.Shares b) (well : b.Well t) (before : b'.Well e) : b'.Well t := by
  obtain ⟨name, own, other⟩ := shares
  cases b' with
  | process p => cases own
  | container c' =>
    cases b with
    | process p => cases other
    | container c =>
      have same : c'.name = c.name := Option.some.inj (own.trans other.symm)
      obtain ⟨fits, shows⟩ := well
      refine ⟨⟨fits.live, ?_⟩, ⟨before.shows.deployed, shows.state, ?_⟩⟩
      · rw [same]
        exact fits.found
      · rw [same]
        exact shows.shown

/-- Work that is not about the container of a node leaves it in its condition. -/
theorem Stands.spared {α : Type} {p : Work α} (stands : b.Stands s (view m.state))
    (obey : peers.Obey view Faultless)
    (spares : ∀ name, b.container? = some name → p.Within (Call.Spares name)) :
    (∀ y ∈ p.history peers m, b.Stands s (view y.2)) ∧
      b.Stands s (view (p.run peers m).2.state) := by
  refine ⟨fun y mem => stands.aside fun name own => ?_, stands.aside fun name own => ?_⟩
  · exact (spares name own).unchanged.history obey y mem
  · exact (spares name own).unchanged.run obey

/-- An operation that brings a fault about or heals it keeps the backend of a container. -/
theorem fault_keeps {c : Container} {ev : FaultEvent} {es : List (Event outside)}
    {o : Outcome Physical} (leads : (Backend.perform ev.operation (container c)).Leads es o) :
    o.2 = container c := by
  obtain ⟨o', performed, rfl⟩ := Procedure.leads_map.1 leads
  cases ev with
  | inject fault timeout | heal fault =>
    cases fault with
    | partition | pause | stop | kill =>
      exact congrArg Physical.container (Container.keeping_eq performed)

/-- A node that is well again after a fault is what it was before. -/
theorem recovered_eq (ev ev' : FaultEvent) {es fs : List (Event outside)} {o o' : Outcome Physical}
    (struck : (Backend.perform ev.operation b).Leads es o)
    (heals : (Backend.perform ev'.operation o.2).Leads fs o') (before : b.Well e)
    (after : o'.2.Well t) : o'.2 = b := by
  cases b with
  | container c =>
    rw [fault_keeps struck] at heals
    exact fault_keeps heals
  | process p =>
    have alike := (perform_alike struck).trans (perform_alike heals)
    cases same : o'.2 with
    | container c =>
      rw [same] at alike
      exact alike.elim
    | process p' =>
      rw [same] at alike after
      obtain ⟨x, rfl⟩ := alike
      have stays : x = p.state := after.shows.state.trans before.shows.state.symm
      rw [stays]

/-- A fault that the backend supports is brought about. -/
theorem Stands.struck {fault : Fault} (well : b.Well (view m.state)) (obey : peers.Obey view Faultless)
    (supported : fault ∈ Fault.supported b) (timeout : Duration) :
    ∃ ill held, (Backend.perform (fault.injection timeout) b).run peers m = ((.ok (), ill), held) ∧
      ill.Suffers fault timeout (view held.state) := by
  have harmed := (inject_stands well supported timeout).run obey
  generalize (Backend.perform (fault.injection timeout) b).run peers m = o at harmed
  obtain ⟨⟨r, ill⟩, held⟩ := o
  obtain ⟨rfl, suffers⟩ := harmed
  exact ⟨ill, held, rfl, suffers⟩

/-- What was brought about is healed, and the node is again what it was. -/
theorem Stands.healed {fault : Fault} {timeout : Duration} {ill : Physical}
    {es : List (Event outside)} (suffers : ill.Suffers fault timeout (view m.state))
    (obey : peers.Obey view Faultless) (supported : fault ∈ Fault.supported b) (before : b.Well e)
    (struck : (Backend.perform (fault.injection timeout) b).Leads es (.ok (), ill)) :
    ∃ healed, (Backend.perform fault.healing ill).run peers m = ((.ok (), b), healed) ∧
      b.Well (view healed.state) := by
  have supported' : fault ∈ Fault.supported ill := by
    rwa [supported_alike (perform_alike struck)]
  have heals := Procedure.leads_run peers (Backend.perform fault.healing ill) m
  have recovered := (heal_stands suffers supported').run obey
  generalize (Backend.perform fault.healing ill).run peers m = o at heals recovered
  obtain ⟨⟨r, b'⟩, healed⟩ := o
  obtain ⟨rfl, well⟩ := recovered
  have same : b' = b :=
    recovered_eq (.inject fault timeout) (.heal fault) struck heals before well
  subst same
  exact ⟨healed, rfl, well⟩

/-- The state of a node that suffers is told. -/
theorem Stands.told {fault : Fault} {timeout : Duration}
    (suffers : b.Suffers fault timeout (view m.state)) (obey : peers.Obey view Faultless) :
    ((Backend.state b).run peers m).1 = .ok fault.state := by
  rw [((shows_state suffers.shows).run obey).1]
  cases fault <;> rfl

end Physical

namespace Universe

variable {u : Universe} {c : Cluster Physical} {key : String} {node : Node Physical}

/-- The universe with another node in the place of a member. -/
def replace (u : Universe) (c : Cluster Physical) (key : String) (node : Node Physical) : Universe :=
  u.putCluster { c with members := c.members.insert key node }

theorem Staffed.find_nodes (staffed : u.Staffed) {x : Cluster Physical × String × Node Physical}
    (mem : x ∈ u.nodes) :
    u.clusters.find? x.1.name = some x.1 ∧ x.1.members.find? x.2.1 = some x.2.2 := by
  obtain ⟨listed, member⟩ := mem_nodes.1 mem
  refine ⟨?_, NameMap.mem_entries.1 member⟩
  obtain ⟨⟨name, c⟩, registered, same⟩ := List.mem_map.1 listed
  have found := NameMap.mem_entries.1 registered
  rw [← same, staffed.registered name c found]
  exact found

theorem Staffed.reached_nodes (staffed : u.Staffed)
    {x : Cluster Physical × String × Node Physical} (mem : x ∈ u.nodes) :
    Backend.Reached x.2.2.backend := by
  obtain ⟨listed, member⟩ := mem_nodes.1 mem
  exact staffed.values x.1 listed x.2 member

theorem replace_replace {node' : Node Physical} : ((u.replace c key node).replace
    { c with members := c.members.insert key node } key node') = u.replace c key node' := by
  unfold replace putCluster
  simp only [NameMap.insert_insert, Cluster.name]

theorem replace_again {node' : Node Physical} :
    (u.replace c key node).replace c key node' = u.replace c key node' := by
  unfold replace putCluster
  simp only [NameMap.insert_insert, Cluster.name]

theorem replace_found (found : u.clusters.find? c.name = some c)
    (member : c.members.find? key = some node) : u.replace c key node = u := by
  unfold replace putCluster
  rw [NameMap.insert_found member]
  exact congrArg (fun clusters => { u with clusters := clusters }) (NameMap.insert_found found)

theorem member?_replace_self : (u.replace c key node).member? c.name key = some node := by
  have found : (u.replace c key node).clusters.find? c.name =
      some { c with members := c.members.insert key node } := NameMap.find?_insert_self
  unfold member?
  rw [found]
  exact NameMap.find?_insert_self

theorem member?_replace_other {cluster name : String} (found : u.clusters.find? c.name = some c)
    (other : (cluster, name) ≠ (c.name, key)) :
    (u.replace c key node).member? cluster name = u.member? cluster name := by
  unfold member? replace
  rw [find?_putCluster]
  split
  · rename_i same
    have same : cluster = c.name := same
    subst same
    have ne : name ≠ key := fun eq => other (eq ▸ rfl)
    rw [found, Option.bind_some, Option.bind_some, NameMap.find?_insert_of_ne ne]
  · rfl

/-- An operation on a member puts what comes of it in its place. -/
theorem operate_eq (op : Operation) (found : u.clusters.find? c.name = some c)
    (member : c.members.find? key = some node) : u.operate c.name key op =
      (fun o => (o.1, u.replace c key o.2)) <$> node.perform op := by
  unfold operate onCluster
  rw [found]
  have performed : c.performOn key (Backend.Action.onNode (.perform op)) =
      (fun o => some (o.1, { c with members := c.members.insert key o.2 })) <$> node.perform op := by
    unfold Cluster.performOn
    rw [member]
    exact (map_eq_pure_bind _ _).symm
  change (fun o => (o.1, u.putCluster o.2)) <$> ((·.getD (.ok (), c)) <$>
    c.performOn key (Backend.Action.onNode (.perform op))) = _
  rw [performed, Functor.map_map, Functor.map_map]
  rfl

end Universe

/-! ## Bouts -/

theorem Node.run_perform (node : Node Physical) {op : Operation} {peers : Peers outside σ}
    {m last : Moment σ} {r : Except Error Unit} {b : Physical}
    (ran : (Backend.perform op node.backend).run peers m = ((r, b), last)) :
    (node.perform op).run peers m = ((r, { node with backend := b }), last) := by
  rw [Node.perform_eq, Procedure.run_map, ran]

theorem Node.perform_spares (node : Node Physical) {name : String}
    (other : node.backend.container? ≠ some name) (op : Operation) :
    (node.perform op).Within (Call.Spares name) := by
  rw [Node.perform_eq]
  exact (Physical.perform_spares other op).map _

namespace FaultLoop

variable {u : Universe} {c : Cluster Physical} {key : String} {node : Node Physical} {fault : Fault}
  {peers : Peers outside σ} {view : σ → Engine} {m : Moment σ}

/-- All nodes of a universe are well. -/
def AllWell (u : Universe) (e : Engine) : Prop := ∀ x ∈ u.nodes, x.2.2.backend.Well e

theorem performIn_eq (u : Universe) (c : Cluster Physical) (key : String) (op : Operation)
    (node : Node Physical) : performIn u c key op node =
      (fun o => (o.1, o.2, u.replace c key o.2)) <$> node.perform op :=
  (map_eq_pure_bind _ _).symm

theorem suffer_eq (u : Universe) (hold : Duration) (c : Cluster Physical) (key : String)
    (node : Node Physical) (fault : Fault) : suffer u hold c key node fault =
      performIn u c key (fault.injection u.params.timeout) node >>= fun o =>
        match o with
        | (.error e, _, v) => pure (.error e, v)
        | (.ok (), ill, v) => awaitShutdown hold >>= fun _ =>
            (fun o => (o.1, o.2.2)) <$> performIn v c key fault.healing ill := by
  unfold suffer
  refine bind_congr fun o => ?_
  obtain ⟨r, ill, v⟩ := o
  cases r with
  | error e => rfl
  | ok _ =>
    change ((fun _ => ()) <$> awaitShutdown hold) >>= _ = _
    rw [bind_map_left]
    refine bind_congr fun _ => ?_
    exact (map_eq_pure_bind _ _).symm

/-- A fault that was brought about is held and healed. -/
theorem suffer_held {hold : Duration} {ill : Node Physical} {held : Moment σ}
    (injected : (node.perform (fault.injection u.params.timeout)).run peers m =
      ((.ok (), ill), held)) :
    (suffer u hold c key node fault).run peers m =
      ((fun o => (o.1, u.replace c key o.2)) <$>
        (awaitShutdown hold >>= fun _ => ill.perform fault.healing)).run peers held := by
  rw [suffer_eq, Procedure.run_bind, performIn_eq, Procedure.run_map, injected]
  dsimp only
  rw [Procedure.run_bind, Procedure.run_map, performIn_eq, Procedure.run_map, Procedure.run_map,
    Procedure.run_bind, Universe.replace_again]

/-- A fault that could not be brought about is neither held nor healed. -/
theorem suffer_failed {hold : Duration} {err : Error} {ill : Node Physical} {held : Moment σ}
    (injected : (node.perform (fault.injection u.params.timeout)).run peers m =
      ((.error err, ill), held)) :
    (suffer u hold c key node fault).run peers m = ((.error err, u.replace c key ill), held) := by
  rw [suffer_eq, Procedure.run_bind, performIn_eq, Procedure.run_map, injected]
  rfl

theorem round_run {hold : Duration} {picked struck : Moment σ}
    (picks : (pick u.nodes).run peers m = (some (c, key, node), picked))
    (picks' : (pick (Fault.supported node.backend)).run peers picked = (some fault, struck)) :
    (round u hold).run peers m = (suffer u hold c key node fault).run peers struck := by
  unfold round
  rw [Procedure.run_bind, picks]
  dsimp only
  rw [Procedure.run_bind, picks']

/-- What is brought about on a member is healed in the same place. -/
theorem operate_replaced {ill : Node Physical} {op : Operation} :
    (u.replace c key ill).operate c.name key op =
      (fun o => (o.1, u.replace c key o.2)) <$> ill.perform op := by
  let c' : Cluster Physical := { c with members := c.members.insert key ill }
  have found : (u.replace c key ill).clusters.find? c'.name = some c' := NameMap.find?_insert_self
  have member : c'.members.find? key = some ill := NameMap.find?_insert_self
  have operated := Universe.operate_eq op found member
  simp only [c', Universe.replace_replace] at operated
  exact operated

/-- A node whose container no part of a bout is about is well all the time. -/
theorem Bout.spared (b : Bout σ) {b' : Physical} {hold : Duration}
    (well : b'.Well (view b.struck.state)) (obey : peers.Obey view Faultless)
    (injected : ((b.injection u).run peers b.struck).2 = b.held)
    (waited : ((awaitShutdown hold).run peers b.held).2 = b.released)
    (healed : (b.healing.run peers b.released).2 = b.healed)
    (injects : ∀ name, b'.container? = some name → (b.injection u).Within (Call.Spares name))
    (heals : ∀ name, b'.container? = some name → b.healing.Within (Call.Spares name)) :
    (∀ y ∈ b.history u peers hold, b'.Well (view y.2)) ∧ b'.Well (view b.healed.state) := by
  have first := well.spared obey injects
  rw [injected] at first
  have second := first.2.spared obey fun name _ => awaitShutdown_spares hold
  rw [waited] at second
  have third := second.2.spared obey heals
  rw [healed] at third
  refine ⟨fun y mem => ?_, third.2⟩
  rcases List.mem_append.1 mem with mem | mem
  · rcases List.mem_append.1 mem with mem | mem
    · exact first.1 y mem
    · exact second.1 y mem
  · exact third.1 y mem

/-- A node that is well passes a bout with every fault that it can suffer. -/
theorem suffer_passes (obey : peers.Obey view Faultless) (staffed : u.Staffed)
    (well : AllWell u (view m.state)) (mem : (c, key, node) ∈ u.nodes)
    (supported : fault ∈ Fault.supported node.backend) (hold : Duration) :
    ∃ b : Bout σ, b.Passes u peers hold ∧ (b.cluster, b.name, b.node) = (c, key, node) ∧
      b.fault = fault ∧ b.struck = m ∧
      (suffer u hold c key node fault).run peers m = ((.ok (), u), b.healed) ∧
      (suffer u hold c key node fault).history peers m = b.history u peers hold ∧
      AllWell u (view b.healed.state) := by
  obtain ⟨found, member⟩ := staffed.find_nodes mem
  have before := well _ mem
  obtain ⟨ill, held, strikes, suffers⟩ := before.struck obey supported u.params.timeout
  have struck := Procedure.leads_run peers
    (Backend.perform (fault.injection u.params.timeout) node.backend) m
  rw [strikes] at struck
  generalize waits : ((awaitShutdown hold).run peers held).2 = released
  have still : ill.Suffers fault u.params.timeout (view released.state) := by
    rw [← waits]
    exact (suffers.spared obey fun _ _ => awaitShutdown_spares hold).2
  obtain ⟨healed, heals, recovered⟩ := still.healed obey supported before struck
  let sick : Node Physical := { node with backend := ill }
  let b : Bout σ := ⟨c, key, node, fault, u.replace c key sick, m, held, released, healed⟩
  have injects : b.injection u = (fun o => (o.1, u.replace c key o.2)) <$>
      node.perform (fault.injection u.params.timeout) := Universe.operate_eq _ found member
  have cures : b.healing = (fun o => (o.1, u.replace c key o.2)) <$> sick.perform fault.healing :=
    operate_replaced
  have injected : (b.injection u).run peers m = ((.ok (), b.during), held) := by
    rw [injects, Procedure.run_map, Node.run_perform node strikes]
  have cured : b.healing.run peers released = ((.ok (), u), healed) := by
    rw [cures, Procedure.run_map, Node.run_perform sick heals]
    exact congrArg (fun v => ((Except.ok (), v), healed)) (Universe.replace_found found member)
  have aside {b' : Physical} (well' : b'.Well (view m.state)) (apart : ¬b'.Shares node.backend) :
      (∀ y ∈ b.history u peers hold, b'.Well (view y.2)) ∧ b'.Well (view healed.state) := by
    have other (name) (own : b'.container? = some name) : node.backend.container? ≠ some name :=
      fun same => apart ⟨name, own, same⟩
    have stays : ill.container? = node.backend.container? := Physical.perform_container? struck
    refine b.spared well' obey (congrArg Prod.snd injected) waits (congrArg Prod.snd cured)
      (fun name own => ?_) fun name own => ?_
    · rw [injects]
      exact (Node.perform_spares node (other name own) _).map _
    · rw [cures]
      exact (Node.perform_spares sick (stays ▸ other name own) _).map _
  have place : b.during.member? c.name key = some sick := Universe.member?_replace_self
  refine ⟨b, ⟨mem, supported, injected, waits, ⟨sick, place, still.told obey⟩, cured, ?_⟩, rfl, rfl,
    rfl, ?_, ?_, ?_⟩
  · intro x listed elsewhere
    obtain ⟨found', member'⟩ := staffed.find_nodes listed
    constructor
    · rw [Universe.member?_replace_other found elsewhere]
      unfold Universe.member?
      rw [found', Option.bind_some, member']
    · intro apart y mem clock
      have well_y := (aside (well x listed) apart).1 y mem
      exact Physical.Stands.healthy (m := ⟨clock, y.2⟩) well_y obey
  · rw [suffer_held (Node.run_perform node strikes), Procedure.run_map, Procedure.run_bind, waits,
      Node.run_perform sick heals]
    exact congrArg (fun v => ((Except.ok (), v), healed)) (Universe.replace_found found member)
  · rw [suffer_eq, Procedure.history_bind, performIn_eq, Procedure.history_map, Procedure.run_map,
      Node.run_perform node strikes]
    dsimp only
    rw [Procedure.history_bind, waits, Procedure.history_map, performIn_eq, Procedure.history_map]
    unfold Bout.history
    rw [injects, cures, Procedure.history_map, Procedure.history_map, List.append_assoc]
  · intro x listed
    by_cases apart : x.2.2.backend.Shares node.backend
    · exact apart.well recovered (well x listed)
    · exact (aside (well x listed) apart).2

/-! ## Rounds -/

theorem AllWell.spared {α : Type} {p : Work α} (well : AllWell u (view m.state))
    (obey : peers.Obey view Faultless) (spares : ∀ name, p.Within (Call.Spares name)) :
    (∀ y ∈ p.history peers m, AllWell u (view y.2)) ∧
      AllWell u (view (p.run peers m).2.state) := by
  have each (x) (listed : x ∈ u.nodes) :=
    (well x listed).spared (p := p) obey fun name _ => spares name
  exact ⟨fun y mem x listed => (each x listed).1 y mem, fun x listed => (each x listed).2⟩

/-- Something is picked from every list that is not empty. -/
theorem pick_run {α : Type} (l : List α) (peers : Peers outside σ) (m : Moment σ) :
    l = [] ∨ ∃ a ∈ l, ((pick l).run peers m).1 = some a := by
  cases l with
  | nil => exact .inl rfl
  | cons a rest =>
    right
    have leads := Procedure.leads_run peers (pick (a :: rest)) m
    generalize ((pick (a :: rest)).run peers m).1 = picked at leads ⊢
    cases picked with
    | none =>
      obtain ⟨_, _, i, -, -, last⟩ := Procedure.leads_bind.1 leads
      cases (Procedure.leads_pure.1 last).2
    | some b => exact ⟨b, pick_mem leads, rfl⟩

theorem supported_ne_nil {b : Physical} : Fault.supported b ≠ [] := by
  unfold Fault.supported
  split <;> decide

/-- A round is a bout, unless there is no node. -/
theorem round_passes (obey : peers.Obey view Faultless) (staffed : u.Staffed)
    (well : AllWell u (view m.state)) (hold : Duration) :
    (u.nodes = [] ∧ (round u hold).run peers m = ((.ok (), u), m) ∧
      (round u hold).history peers m = []) ∨
    ∃ (b : Bout σ) (picked : Moment σ), b.Passes u peers hold ∧
      (pick u.nodes).run peers m = (some (b.cluster, b.name, b.node), picked) ∧
      (pick (Fault.supported b.node.backend)).run peers picked = (some b.fault, b.struck) ∧
      (round u hold).run peers m = ((.ok (), u), b.healed) ∧
      (round u hold).history peers m = (pick u.nodes).history peers m ++
        ((pick (Fault.supported b.node.backend)).history peers picked ++
          b.history u peers hold) ∧
      AllWell u (view b.healed.state) := by
  rcases pick_run u.nodes peers m with empty | ⟨⟨c, key, node⟩, mem, chosen⟩
  · refine .inl ⟨empty, ?_, ?_⟩
    · unfold round
      rw [empty]
      rfl
    · unfold round
      rw [empty]
      rfl
  · right
    have first := (well.spared (p := pick u.nodes) obey fun _ => pick_spares _).2
    generalize picks : (pick u.nodes).run peers m = o at chosen first
    obtain ⟨_, picked⟩ := o
    cases chosen
    rcases pick_run (Fault.supported node.backend) peers picked with empty | ⟨fault, supported, chosen⟩
    · exact absurd empty supported_ne_nil
    · have second := (first.spared (p := pick (Fault.supported node.backend)) obey
        fun _ => pick_spares _).2
      generalize picks' : (pick (Fault.supported node.backend)).run peers picked = o at chosen second
      obtain ⟨_, struck⟩ := o
      cases chosen
      obtain ⟨b, passes, same, rfl, rfl, runs, history, well'⟩ :=
        suffer_passes obey staffed second mem supported hold
      cases same
      refine ⟨b, picked, passes, rfl, picks', ?_, ?_, well'⟩
      · exact (round_run picks picks').trans runs
      · unfold round
        rw [Procedure.history_bind, picks]
        dsimp only
        rw [Procedure.history_bind, picks']
        exact congrArg _ (congrArg _ history)

/-- Outside of bouts all nodes are well. -/
def Calm (peers : Peers outside σ) (view : σ → Engine) (u : Universe) (hold : Duration)
    (bouts : List (Bout σ)) (y : Event outside × σ) : Prop :=
  (∃ b ∈ bouts, y ∈ b.history u peers hold) ∨ AllWell u (view y.2)

theorem run_course (obey : peers.Obey view Faultless) (staffed : u.Staffed)
    (well : AllWell u (view m.state)) (interval : Duration) (rounds : Nat) :
    ∃ bouts last, Course peers interval u rounds m bouts
        ((run interval rounds u).history peers m) last ∧
      (run interval rounds u).run peers m = (u, last) ∧ AllWell u (view last.state) ∧
      ∀ y ∈ (run interval rounds u).history peers m, Calm peers view u interval bouts y := by
  induction rounds generalizing m with
  | zero => exact ⟨[], m, .over, rfl, well, fun y mem => by cases mem⟩
  | succ rounds ih =>
    obtain ⟨quiet, well₁⟩ := well.spared (p := awaitShutdown interval) obey
      fun _ => awaitShutdown_spares interval
    unfold run
    rw [Procedure.run_bind, Procedure.history_bind]
    generalize waits : (awaitShutdown interval).run peers m = o at well₁ ⊢
    obtain ⟨told, waited⟩ := o
    cases told with
    | true =>
      refine ⟨[], waited, ?_, rfl, well₁, ?_⟩
      · simp only [if_true]
        rw [show (pure u : Work Universe).history peers waited = [] from rfl, List.append_nil]
        exact .told waits
      · intro y mem
        rw [if_pos rfl, show (pure u : Work Universe).history peers waited = [] from rfl,
          List.append_nil] at mem
        exact .inr (quiet y mem)
    | false =>
      simp only [Bool.false_eq_true, if_false]
      rw [Procedure.run_bind, Procedure.history_bind]
      rcases round_passes obey staffed well₁ interval with ⟨empty, runs, history⟩ |
          ⟨b, picked, passes, picks, picks', runs, history, well₂⟩
      · rw [runs, history]
        obtain ⟨bouts, last, course, same, well', calm⟩ := ih well₁
        refine ⟨bouts, last, .idle waits empty course, same, well', fun y mem => ?_⟩
        rcases List.mem_append.1 mem with mem | mem
        · exact .inr (quiet y mem)
        · exact calm y mem
      · rw [runs, history]
        obtain ⟨bouts, last, course, same, well', calm⟩ := ih well₂
        refine ⟨b :: bouts, last, ?_, same, well', ?_⟩
        · exact .bout b waits picks picks' passes course
        · obtain ⟨quiet', well_picked⟩ := well₁.spared (p := pick u.nodes) obey fun _ => pick_spares _
          rw [picks] at well_picked
          have quiet'' := (well_picked.spared (p := pick (Fault.supported b.node.backend)) obey
            fun _ => pick_spares _).1
          intro y mem
          rcases List.mem_append.1 mem with mem | mem
          · exact .inr (quiet y mem)
          rcases List.mem_append.1 mem with mem | mem
          · rcases List.mem_append.1 mem with mem | mem
            · exact .inr (quiet' y mem)
            rcases List.mem_append.1 mem with mem | mem
            · exact .inr (quiet'' y mem)
            · exact .inl ⟨b, List.mem_cons_self, mem⟩
          · rcases calm y mem with ⟨b', listed, inside⟩ | well
            · exact .inl ⟨b', List.mem_cons_of_mem _ listed, inside⟩
            · exact .inr well

/-- Whatever is picked, and whenever the signal to shut down comes, all that the loop does is to wait,
to pick and to go through bouts, one after the other. Outside of these all nodes run and have no
rules, and so they do in the end. -/
theorem faults_healed (obey : peers.Obey view Faultless) (reached : u.Reached)
    (healthy : ∀ x ∈ u.nodes, x.2.2.backend.Healthy peers m) (interval : Duration) (rounds : Nat) :
    ∃ bouts last, (run interval rounds u).run peers m = (u, last) ∧
      Course peers interval u rounds m bouts ((run interval rounds u).history peers m) last ∧
      (∀ y ∈ (run interval rounds u).history peers m,
        (∃ b ∈ bouts, y ∈ b.history u peers interval) ∨
          ∀ x ∈ u.nodes, ∀ clock, x.2.2.backend.Healthy peers ⟨clock, y.2⟩) ∧
      ∀ x ∈ u.nodes, x.2.2.backend.Healthy peers last := by
  have well : AllWell u (view m.state) := fun x listed =>
    (healthy x listed).well obey (reached.staffed.reached_nodes listed)
  obtain ⟨bouts, last, course, same, well', calm⟩ :=
    run_course obey reached.staffed well interval rounds
  refine ⟨bouts, last, same, course, fun y mem => (calm y mem).imp_right ?_, fun x listed => ?_⟩
  · intro well_y x listed clock
    have well_x := well_y x listed
    exact Physical.Stands.healthy (m := ⟨clock, y.2⟩) well_x obey
  · exact (well' x listed).healthy obey

/-- An engine beside peers that pick the last of everything, and that say to shut down after so many
waits. -/
def restless : Peers outside (Engine × Nat) where
  answer _ s c :=
    match c with
    | .awaitShutdown _ => ((s.2 == 0, .zero), (s.1, s.2 - 1))
    | .pick n => ((Fin.last n, .zero), s)
    | c => (((s.1.answerExactly c).1, .zero), ((s.1.answerExactly c).2, s.2))

theorem restless_obey : restless.Obey Prod.fst Faultless := by
  intro clock s c
  cases c with
  | awaitShutdown limit | pick n =>
    exact .elsewhere (fun _ h => by cases h) (fun _ _ h => by cases h)
  | engine c | shell c | hypervisor c | file c | program name args | bootstrap r | act node action
  | abandon n | freshId | timeStamp => exact .of_exact (Engine.peers_obey clock s.1 _)

/-- Two nodes that were deployed. -/
def deployedPair : UniverseOutcome Unit × Moment Engine :=
  (Universe.inEnvironment (UniverseParams.default.withCluster
    { ClusterParams.named "alpha" with nodes := [.ofPort 9000, .ofPort 9001] }) .docker
      .delegated).deploy.run Engine.peers ⟨.zero, .empty Engine.defaultInfo []⟩

theorem deployedPair_reached : deployedPair.1.2.Reached := by
  let params := UniverseParams.default.withCluster
    { ClusterParams.named "alpha" with nodes := [.ofPort 9000, .ofPort 9001] }
  have ready : Universe.docker params .delegated =
      .ok (Universe.inEnvironment params .docker .delegated) :=
    Universe.docker_of_valid (toOption_eq_some.1 (by decide +kernel)) rfl
  exact .done .deploy (.created (.inl ready)) (Procedure.leads_run Engine.peers _ _)

/-- The signal to shut down comes while the second fault is held. -/
theorem faults_healed_pair :
    let u := deployedPair.1.2
    let m : Moment (Engine × Nat) := ⟨.zero, deployedPair.2.state, 3⟩
    ∃ bouts last, (run .zero 5 u).run restless m = (u, last) ∧
      Course restless .zero u 5 m bouts ((run .zero 5 u).history restless m) last ∧
      (∀ y ∈ (run .zero 5 u).history restless m,
        (∃ b ∈ bouts, y ∈ b.history u restless .zero) ∨
          ∀ x ∈ u.nodes, ∀ clock, x.2.2.backend.Healthy restless ⟨clock, y.2⟩) ∧
      ∀ x ∈ u.nodes, x.2.2.backend.Healthy restless last := by
  intro u m
  have healthy : ∀ x ∈ u.nodes, x.2.2.backend.Healthy restless m := by
    have looked : u.nodes.all (fun x =>
        ((Backend.state x.2.2.backend).run restless m).1.toOption = some .running &&
          ((Backend.faultRules x.2.2.backend).run restless m).1.toOption = some []) = true := by
      decide +kernel
    intro x listed
    have told := List.all_eq_true.1 looked x listed
    simp only [Bool.and_eq_true, decide_eq_true_eq] at told
    exact ⟨toOption_eq_some.1 told.1, toOption_eq_some.1 told.2⟩
  exact faults_healed restless_obey deployedPair_reached healthy .zero 5

end FaultLoop

end Testbed
