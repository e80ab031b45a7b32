import Testbed.Proofs.Container.Calls
import Testbed.Proofs.Engine.Conduct
/-!
# Deployments leave all or nothing

On an engine of which any call may fail without an effect, all containers are as before, beside which
the new one stands once it was created (`Joined`). It is joined by the first call of a deployment,
changed by the next two and taken away when one of these fails. So only where that fails too
something is left of a deployment that did not succeed (`deploy_atomic`).
-/

namespace Testbed

open Lab (Engine SimulatedContainer)
open Lab.Engine (Fallible)

/-! ## One container more -/

/-- The containers are those of before, and one of a name that was free. -/
structure Lab.Engine.Joined (e t : Engine) (k : SimulatedContainer) : Prop where
  free : e.containers.find? k.spec.name = none
  found : ∀ name, t.containers.find? name =
    if name = k.spec.name then some k else e.containers.find? name

namespace Lab.Engine

variable {e s t : Engine} {k : SimulatedContainer}

theorem Joined.self (joined : e.Joined t k) : t.containers.find? k.spec.name = some k := by
  rw [joined.found, if_pos rfl]

theorem joined_create {spec : ContainerSpec} {a : Except Error String}
    (step : Fallible e ⟨.engine (.create spec), a⟩ t) :
    (∃ id, a = .ok id) ∧ e.Joined t (.ofSpec spec) ∨
      (∃ err, a = .error err) ∧ t.containers = e.containers := by
  rcases step.engine with ⟨rfl, rfl⟩ | ⟨⟨err, rfl⟩, rfl⟩
  · cases vacant : e.containers.find? spec.name with
    | none =>
      left
      refine ⟨⟨_, create_answer vacant⟩, vacant, ?_⟩
      intro name
      rw [perform, find?_create]
      by_cases same : name = spec.name
      · simp [same, vacant, SimulatedContainer.ofSpec]
      · simp [same, SimulatedContainer.ofSpec]
    | some k =>
      right
      have taken : e.containers.contains spec.name = true := NameMap.contains_iff.2 ⟨k, vacant⟩
      simp [perform, create, taken]
  · exact .inr ⟨⟨err, rfl⟩, rfl⟩

/-- A call that changes the new container leaves all others alone. -/
theorem Joined.update {f : SimulatedContainer → SimulatedContainer} (joined : e.Joined s k)
    (same : (f k).spec = k.spec) :
    (s.update k.spec.name f).1 = .ok () ∧ e.Joined (s.update k.spec.name f).2 (f k) := by
  constructor
  · simp [Engine.update, withContainer, joined.self]
  · constructor
    · rw [same]
      exact joined.free
    · intro name
      rw [find?_update, same, joined.found]
      split <;> rfl

theorem Joined.remove (joined : e.Joined s k) : (s.remove k.spec.name).1 = .ok () ∧
    (s.remove k.spec.name).2.containers = e.containers := by
  have there : s.containers.contains k.spec.name = true :=
    NameMap.contains_iff.2 ⟨k, joined.self⟩
  constructor
  · simp [Engine.remove, there]
  · apply NameMap.ext_find?
    intro name value
    rw [find?_remove, joined.found]
    split
    · rename_i same
      rw [same, joined.free]
    · rfl

theorem Joined.connect {network : String} {a : Except Error Unit} (joined : e.Joined s k)
    (step : Fallible s ⟨.engine (.connect k.spec.name network), a⟩ t) :
    a = .ok () ∧ e.Joined t { k with network := some network } ∨
      (∃ err, a = .error err) ∧ e.Joined t k := by
  rcases step.engine with ⟨rfl, rfl⟩ | ⟨⟨err, rfl⟩, rfl⟩
  · exact .inl (joined.update (f := ({ · with network := some network })) rfl)
  · exact .inr ⟨⟨err, rfl⟩, joined⟩

theorem Joined.start {a : Except Error Unit} (joined : e.Joined s k)
    (step : Fallible s ⟨.engine (.start k.spec.name), a⟩ t) :
    a = .ok () ∧ e.Joined t { k with running := true } ∨
      (∃ err, a = .error err) ∧ e.Joined t k := by
  rcases step.engine with ⟨rfl, rfl⟩ | ⟨⟨err, rfl⟩, rfl⟩
  · exact .inl (joined.update (f := ({ · with running := true })) rfl)
  · exact .inr ⟨⟨err, rfl⟩, joined⟩

theorem Joined.removed {a : Except Error Unit} (joined : e.Joined s k)
    (step : Fallible s ⟨.engine (.remove k.spec.name), a⟩ t) :
    a = .ok () ∧ t.containers = e.containers ∨ (∃ err, a = .error err) ∧ e.Joined t k := by
  rcases step.engine with ⟨rfl, rfl⟩ | ⟨⟨err, rfl⟩, rfl⟩
  · exact .inl joined.remove
  · exact .inr ⟨⟨err, rfl⟩, joined⟩

end Lab.Engine

namespace Container

open Lab.Engine (Joined)

variable {c : Container} {es : List (Event outside)} {o : Outcome Container} {e t : Engine}

/-! ## What is left -/

/-- The container that is made of a backend, with the arguments of its command line. -/
def made (c : Container) (arguments : String) (running : Bool) (network : Option String) :
    SimulatedContainer where
  spec :=
    { name := c.name
      image := c.image
      hostname := c.name
      cmd := ["sh", "-c", "java -cp *.jar " ++ c.mainClass ++ " " ++ arguments]
      port := c.params.port
      privileged := true }
  running := running
  paused := false
  network := network
  rules := []

/-- A deployment that did not succeed left the containers as they were, or beside them a container
that it failed to remove, which is not running and is guarded. -/
def Undone (c : Container) (e t : Engine) (es : List (Event outside)) (guarded : Bool) : Prop :=
  t.containers = e.containers ∨
    (∃ err, ⟨.engine (.remove c.name), .error err⟩ ∈ es) ∧ guarded = true ∧
      ∃ arguments network, c.params.commandLine = .ok arguments ∧
        e.Joined t (c.made arguments false network)

/-- What comes of a deployment, told by the containers before and after it. -/
structure Settles (c : Container) (e t : Engine) (es : List (Event outside))
    (o : Outcome Container) : Prop where
  deployed : o.1 = .ok () → ∃ arguments, c.params.commandLine = .ok arguments ∧
    e.Joined t (c.made arguments true (some c.network))
  undone : ∀ err, o.1 = .error err → c.Undone e t es o.2.guarded
  unfit : ∀ err, c.params.commandLine = .error err →
    (∃ reason, err = .config reason) ∧ es = [] ∧ o.1 = .error err
  told : ∀ arguments, c.params.commandLine = .ok arguments → ∀ err, o.1 = .error err →
    ∃ reason, err = .deployment c.name reason

theorem spec_ok {spec : ContainerSpec} (fit : c.spec = .ok spec) :
    ∃ arguments, c.params.commandLine = .ok arguments ∧
      .ofSpec spec = c.made arguments false none := by
  unfold Container.spec at fit
  cases line : c.params.commandLine with
  | error err =>
    rw [line] at fit
    cases fit
  | ok arguments =>
    rw [line] at fit
    cases fit
    exact ⟨arguments, rfl, rfl⟩

theorem commandLine_config {err : Error} (unfit : c.params.commandLine = .error err) :
    ∃ reason, err = .config reason := by
  unfold NodeParams.commandLine NodeParams.storageFlags at unfit
  split at unfit
  · cases unfit
  · split at unfit
    · cases unfit
      exact ⟨_, rfl⟩
    · cases unfit

theorem givenUp_path (path : Fallible.Path e c.givenUp t) : t = e := by
  unfold givenUp at path
  split at path
  · obtain ⟨s, step, rest⟩ := Conduct.path_cons.1 path
    rw [← Conduct.path_nil.1 rest]
    cases step
    rfl
  · exact (Conduct.path_nil.1 path).symm

section

variable {arguments : String} {network : Option String} {id : String} {a : Except Error Unit}

/-- A container that was created is made of the backend, and nothing else has changed. -/
theorem created_path {spec : ContainerSpec} (fit : c.spec = .ok spec)
    (path : Fallible.Path e (⟨.engine (.create spec), .ok id⟩ :: c.givenUp ++ es) t) :
    ∃ arguments s, c.params.commandLine = .ok arguments ∧
      e.Joined s (c.made arguments false none) ∧ Fallible.Path s es t := by
  obtain ⟨s, created, later⟩ := Conduct.path_cons.1 path
  obtain ⟨u, released, rest⟩ := Conduct.path_append.1 later
  obtain ⟨arguments, line, made⟩ := spec_ok fit
  rcases Lab.Engine.joined_create created with ⟨-, joined⟩ | ⟨⟨_, failed⟩, -⟩
  · rw [givenUp_path released] at rest
    rw [made] at joined
    exact ⟨arguments, s, line, joined, rest⟩
  · cases failed

theorem removal_undoes {s : Engine} (line : c.params.commandLine = .ok arguments)
    (joined : e.Joined s (c.made arguments false network))
    (step : Fallible s ⟨.engine (.remove c.name), a⟩ t)
    (called : ⟨.engine (.remove c.name), a⟩ ∈ es) : c.Undone e t es (c.takenBack a).guarded := by
  rcases joined.removed step with ⟨-, same⟩ | ⟨⟨err, rfl⟩, left⟩
  · exact .inl same
  · exact .inr ⟨⟨err, called⟩, rfl, arguments, network, line, left⟩

theorem settles_of_undone {reason : String} {c' : Container}
    (line : c.params.commandLine = .ok arguments) (undone : c.Undone e t es c'.guarded) :
    c.Settles e t es (.error (.deployment c.name reason), c') := by
  constructor
  · intro ok
    cases ok
  · exact fun _ _ => undone
  · intro err unfit
    cases line.symm.trans unfit
  · intro _ _ err failed
    cases failed
    exact ⟨reason, rfl⟩

end

theorem settles_of_started {arguments : String} {c' : Container}
    (line : c.params.commandLine = .ok arguments)
    (joined : e.Joined t (c.made arguments true (some c.network))) :
    c.Settles e t es (.ok (), c') := by
  constructor
  · exact fun _ => ⟨arguments, line, joined⟩
  · intro err failed
    cases failed
  · intro err unfit
    cases line.symm.trans unfit
  · intro _ _ err failed
    cases failed

theorem settles_of_unfit {err : Error} (unfit : c.params.commandLine = .error err) :
    c.Settles e e [] (.error err, c) := by
  constructor
  · intro ok
    cases ok
  · exact fun _ _ => .inl rfl
  · intro err' unfit'
    cases unfit.symm.trans unfit'
    exact ⟨commandLine_config unfit, rfl, rfl⟩
  · intro _ line
    cases unfit.symm.trans line

theorem Deploys.settles (course : c.Deploys es o) (path : Fallible.Path e es t) :
    c.Settles e t es o := by
  cases course with
  | unfit unfit =>
    rw [← Conduct.path_nil.1 path]
    apply settles_of_unfit
    unfold Container.spec at unfit
    cases line : c.params.commandLine with
    | error err =>
      rw [line] at unfit
      cases unfit
      rfl
    | ok arguments =>
      rw [line] at unfit
      cases unfit
  | uncreated fit =>
    obtain ⟨arguments, line, -⟩ := spec_ok fit
    obtain ⟨s, created, done⟩ := Conduct.path_cons.1 path
    rw [← Conduct.path_nil.1 done]
    rcases Lab.Engine.joined_create created with ⟨⟨_, ok⟩, -⟩ | ⟨-, same⟩
    · cases ok
    · exact settles_of_undone line (.inl same)
  | unconnected fit =>
    obtain ⟨arguments, s, line, joined, rest⟩ := created_path fit path
    simp only [Conduct.path_cons, Conduct.path_nil] at rest
    obtain ⟨u, connected, v, removed, rfl⟩ := rest
    rcases joined.connect connected with ⟨ok, -⟩ | ⟨-, kept⟩
    · cases ok
    · exact settles_of_undone line (removal_undoes line kept removed (by simp))
  | unstarted fit =>
    obtain ⟨arguments, s, line, joined, rest⟩ := created_path fit path
    simp only [Conduct.path_cons, Conduct.path_nil] at rest
    obtain ⟨u, connected, v, started, w, removed, rfl⟩ := rest
    rcases joined.connect connected with ⟨-, attached⟩ | ⟨⟨_, failed⟩, -⟩
    · rcases attached.start started with ⟨ok, -⟩ | ⟨-, kept⟩
      · cases ok
      · exact settles_of_undone line (removal_undoes line kept removed (by simp))
    · cases failed
  | started fit =>
    obtain ⟨arguments, s, line, joined, rest⟩ := created_path fit path
    simp only [Conduct.path_cons, Conduct.path_nil] at rest
    obtain ⟨u, connected, v, started, rfl⟩ := rest
    rcases joined.connect connected with ⟨-, attached⟩ | ⟨⟨_, failed⟩, -⟩
    · rcases attached.start started with ⟨-, runs⟩ | ⟨⟨_, failed⟩, -⟩
      · exact settles_of_started line runs
      · cases failed
    · cases failed

variable {σ : Type} {peers : Peers outside σ} {view : σ → Engine}

/-- A deployment that succeeds adds its container to those that there are, running and attached. One
that fails adds none, unless the removal of what was created fails too. -/
theorem deploy_atomic (obey : peers.Obey view Fallible) (c : Container) (m : Moment σ) :
    let es := c.deploy.trace peers m
    let o := (c.deploy.run peers m).1
    c.Deploys es o ∧
      c.Settles (view m.state) (view (c.deploy.run peers m).2.state) es o := by
  intro es o
  have course : c.Deploys es o := deploy_leads (Procedure.leads_run peers c.deploy m)
  exact ⟨course, course.settles (Procedure.path_run obey c.deploy m)⟩

/-- An engine that loses the calls it is told to, beside peers that let everything succeed. -/
def lossy : Peers outside (Engine × List Bool) where
  answer _ s c :=
    match c with
    | .engine c =>
      if s.2.head? = some true then ((c.refuse (.internal "lost"), .zero), (s.1, s.2.tail))
      else (((s.1.perform c).1, .zero), ((s.1.perform c).2, s.2.tail))
    | c => (((s.1.answerExactly c).1, .zero), s)

theorem lossy_obey : lossy.Obey Prod.fst Fallible := by
  intro clock s c
  cases c with
  | engine c =>
    dsimp only [lossy]
    split
    · exact .refused c _
    · exact .performed c
  | shell c | hypervisor c | file c | program name args | bootstrap r | act node action
  | abandon n | freshId | timeStamp | pick n | awaitShutdown limit =>
    exact .elsewhere fun _ h => by cases h

/-- A container does not start and cannot be removed either. It is left beside another one that was
there before. -/
theorem deploy_atomic_twiceLost :
    let c := ofNode (.ofPort 9000) .default "universe-net" "/logs"
    let other : ContainerSpec := ⟨"other", "image", "other", [], 80, false⟩
    let e := ((Engine.empty Engine.defaultInfo []).create other).2
    let m : Moment (Engine × List Bool) := ⟨.zero, e, [false, false, true, true]⟩
    let t := (c.deploy.run lossy m).2.state.1
    lossy.Obey Prod.fst Fallible ∧ (c.deploy.trace lossy m).length = 4 ∧
      (∃ err, (c.deploy.run lossy m).1.1 = .error err) ∧
      c.Undone e t (c.deploy.trace lossy m) true ∧
      t.containers.entries.map (·.1) = ["node9000", "other"] := by
  intro c other e m t
  have none : (c.deploy.run lossy m).1.1.toOption = none := by decide +kernel
  have guarded : (c.deploy.run lossy m).1.2.guarded = true := by decide +kernel
  obtain ⟨-, settles⟩ := deploy_atomic lossy_obey c m
  cases result : (c.deploy.run lossy m).1.1 with
  | ok u =>
    rw [result] at none
    cases none
  | error err =>
    have undone := settles.undone err result
    rw [guarded] at undone
    exact ⟨lossy_obey, by decide +kernel, ⟨err, rfl⟩, undone, by decide +kernel⟩

end Container

end Testbed
