import Mathlib.Logic.Function.Basic
import Testbed.Proofs.Universe.Sharing
/-!
# Whether the end of a universe is final

Demands on one universe take turns in any order (`Run`). A universe that is destroyed should stay
so, and one that is shut down should only be destroyed (`Final`). A teardown makes sure of that as
it is let in, for it checks the state and changes it in one piece. A deployment checks the state
once and sets it again long after, whatever it has become meanwhile. So only a deployment that was
let in before can undo a teardown, and one that has ended cannot (`shared_final`); that it does
happen is `destroyed_returns`.
-/

namespace Testbed

namespace Universe

/-! ## Taking turns -/

/-- A universe that is shared, and what each task has still to do. -/
structure System where
  shared : Universe
  rest : Nat → Task (Except Error (Option TeardownSummary))

/-- A universe, and demands that have not begun. -/
def System.new (u : Universe) (demands : Nat → Demand) : System :=
  ⟨u, fun i => (demands i).task u⟩

/-- A request of one task. -/
structure Move where
  task : Nat
  event : Event sharing
  before : Universe
  after : Universe

/-- The tasks take turns, in whatever order, and all that is outside answers as it likes. -/
inductive Run (start : System) : List Move → System → Prop
  | nil : Run start [] start
  | access {ms : List Move} {s : System} {i : Nat} {a : Access} {d : Duration}
      {next : a.Answer → Duration → Task (Except Error (Option TeardownSummary))} :
    Run start ms s → s.rest i = .call (.access a) next →
    Run start (ms ++ [⟨i, ⟨.access a, (a.apply s.shared).1⟩, s.shared, (a.apply s.shared).2⟩])
      ⟨(a.apply s.shared).2, Function.update s.rest i (next (a.apply s.shared).1 d)⟩
  | outside {ms : List Move} {s : System} {i : Nat} {c : Call} {a : c.Answer} {d : Duration}
      {next : c.Answer → Duration → Task (Except Error (Option TeardownSummary))} :
    Run start ms s → s.rest i = .call (.outside c) next →
    Run start (ms ++ [⟨i, ⟨.outside c, a⟩, s.shared, s.shared⟩])
      ⟨s.shared, Function.update s.rest i (next a d)⟩
  | pause {ms : List Move} {s : System} {i : Nat} {d : Duration}
      {next : Task (Except Error (Option TeardownSummary))} :
    Run start ms s → s.rest i = .pause d next →
    Run start ms ⟨s.shared, Function.update s.rest i next⟩
  | clock {ms : List Move} {s : System} {i : Nat} {now : Duration}
      {next : Duration → Task (Except Error (Option TeardownSummary))} :
    Run start ms s → s.rest i = .clock next →
    Run start ms ⟨s.shared, Function.update s.rest i (next now)⟩
  /-- What clusters have become is left open, for all tasks act on them. -/
  | drift {ms : List Move} {s : System} (clusters : NameMap (Cluster Physical)) :
    Run start ms s → Run start ms ⟨{ s.shared with clusters := clusters }, s.rest⟩

/-- What may come after a state if teardowns are final. -/
def Final (s t : UniverseState) : Prop :=
  (s = .destroyed → t = .destroyed) ∧ (s = .shutDown → t = .shutDown ∨ t = .destroyed)

theorem Final.refl (s : UniverseState) : Final s s := ⟨id, .inl⟩

theorem Final.trans {s t r : UniverseState} (first : Final s t) (second : Final t r) :
    Final s r := by
  refine ⟨fun ended => second.1 (first.1 ended), fun down => ?_⟩
  rcases first.2 down with down | ended
  · exact second.2 down
  · exact .inr (second.1 ended)

/-! ## What a task may do -/

section

variable {u v : Universe} {d : Demand}

/-- A demand that is let in is final for what it finds. -/
theorem accept_final (accepted : d.accept u = .ok v) : Final u.state v.state := by
  cases d with
  | deploy =>
    change u.beginDeploy = .ok v at accepted
    unfold beginDeploy at accepted
    split at accepted <;> cases accepted
    rename_i untouched
    exact ⟨fun ended => (by simp [untouched] at ended), fun down => (by simp [untouched] at down)⟩
  | shutDown =>
    change u.beginTeardown _ _ = .ok v at accepted
    unfold beginTeardown at accepted
    split at accepted <;> cases accepted
    rename_i running
    exact ⟨fun ended => absurd (.inr ended) running, fun down => .inl rfl⟩
  | destroy =>
    change u.beginTeardown _ _ = .ok v at accepted
    unfold beginTeardown at accepted
    split at accepted <;> cases accepted
    exact ⟨fun _ => rfl, fun _ => .inr rfl⟩

/-- What a demand may ask of the universe once it was let in. -/
def Demand.May (d : Demand) : Request → Prop
  | .access (.enter _) => False
  | .access (.setState s) => d = .deploy ∧ (s = .deploying ∨ s = .bootstrapped)
  | _ => True

theorem outside_within {α : Type} {C : Request → Prop} (calls : ∀ c, C (.outside c)) (p : Work α) :
    (Task.outside p).Within C := by
  induction p with
  | done a => trivial
  | call c next ih => exact ⟨calls c, fun a d => ih a d⟩
  | pause t p ih => exact ih
  | clock next ih => exact fun t => ih t

theorem access_within {C : Request → Prop} {a : Access} (allowed : C (.access a)) :
    (Task.access a).Within C :=
  Procedure.within_ask.2 allowed

theorem provision_within {workers : Nat} {vm : VmParams} :
    (Task.provision workers vm).Within Demand.deploy.May := by
  have recorded (hosts : List (String × Option String)) :
      (Task.recordConfigured hosts).Within Demand.deploy.May := by
    induction hosts with
    | nil => trivial
    | cons host rest ih =>
      obtain ⟨name, _ | address⟩ := host
      · exact ih
      · exact (access_within trivial).bind fun _ => ih
  have found (results : List (String × Except Error String)) :
      (Task.recordAll results).Within Demand.deploy.May := by
    induction results with
    | nil => trivial
    | cons result rest ih =>
      obtain ⟨name, e | address⟩ := result
      · exact ih.bind fun _ => Procedure.within_pure _
      · exact (access_within trivial).bind fun _ => ih
  refine (recorded _).bind fun _ => (outside_within (fun _ => trivial) _).bind fun outcome => ?_
  refine (found _).bind fun failure => ?_
  split
  · exact Procedure.within_pure _
  · exact (access_within ⟨rfl, .inl rfl⟩).bind fun _ => Procedure.within_pure _

theorem deployment_within : (Task.deployment u).Within Demand.deploy.May := by
  have prepared : (Task.prepare u).Within Demand.deploy.May := by
    unfold Task.prepare
    split
    · exact (outside_within (fun _ => trivial) _).bind fun _ => Procedure.within_pure _
    · refine provision_within.bind fun ready => ?_
      split
      · exact Procedure.within_pure _
      · exact (access_within trivial).bind fun _ => Procedure.within_pure _
  have populated (factory : Factory Physical) (rest : List ClusterParams) :
      (Task.deployClusters u factory rest).Within Demand.deploy.May := by
    induction rest with
    | nil => trivial
    | cons params rest ih =>
      refine (outside_within (fun _ => trivial) _).bind fun c => ?_
      refine (access_within trivial).bind fun _ => ?_
      refine (outside_within (fun _ => trivial) _).bind fun o => ?_
      refine (access_within trivial).bind fun _ => ?_
      split
      · exact ih
      · exact Procedure.within_pure _
  refine prepared.bind fun ready => ?_
  split
  · exact Procedure.within_pure _
  · refine (populated _ _).bind fun r => ?_
    split
    · exact Procedure.within_pure _
    · exact (access_within ⟨rfl, .inr rfl⟩).bind fun _ => Procedure.within_pure _

theorem tearDown_within {act : Cluster Physical → Work (TeardownSummary × Cluster Physical)}
    {summary : TeardownSummary} {rest : List (Cluster Physical)} :
    (Task.tearDown act summary rest).Within d.May := by
  induction rest generalizing summary with
  | nil => trivial
  | cons c rest ih =>
    refine (outside_within (fun _ => trivial) _).bind fun o => ?_
    exact (access_within trivial).bind fun _ => ih

/-- Whoever was let in does not enter again, and only a deployment sets the state. -/
theorem labour_within : (d.labour u).Within d.May := by
  cases d with
  | deploy => exact deployment_within.map _
  | shutDown => exact Procedure.Within.map ((access_within trivial).bind fun _ => tearDown_within) _
  | destroy =>
    refine Procedure.Within.map ((access_within trivial).bind fun _ => ?_) _
    refine tearDown_within.bind fun _ => (outside_within (fun _ => trivial) _).bind fun _ => ?_
    exact Procedure.within_pure _

/-- What a task has still to do: all of it, what comes after it was let in, or nothing. -/
inductive Phase where
  | waiting
  | inside
  | out

def Phase.Stands (u : Universe) (d : Demand) (p : Task (Except Error (Option TeardownSummary))) :
    Phase → Prop
  | .waiting => p = d.task u
  | .inside => p.Within d.May
  | .out => p.Within fun _ => False

/-- The demand was let in. -/
def Entered (d : Demand) (i : Nat) (ms : List Move) : Prop :=
  ∃ m ∈ ms, m.task = i ∧ m.event = ⟨.access (.enter d), .ok ()⟩

/-- A deployment that was let in before sets the state, whatever it is. -/
structure Undoes (d : Demand) (earlier : List Move) (m : Move) : Prop where
  deploys : d = .deploy
  entered : Entered .deploy m.task earlier
  sets : ∃ s, (s = .deploying ∨ s = .bootstrapped) ∧ m.event.call = .access (.setState s) ∧
    m.after = { m.before with state := s }

variable {a : Access} {next : a.Answer → Duration → Task (Except Error (Option TeardownSummary))}

/-- A task begins by asking to be let in, and then has its labour to do or nothing. -/
theorem task_eq : d.task u = .call (.access (.enter d)) fun (r : Except Error Unit) t =>
    Procedure.after t (match r with
      | .error e => .done (.error e)
      | .ok () => d.labour u) := by
  refine congrArg (Procedure.call (I := sharing) (.access (.enter d)))
    (funext fun r => funext fun t => ?_)
  change (Procedure.after t (Procedure.done r)).bind _ = _
  unfold Procedure.after
  split
  · cases r <;> rfl
  · cases r <;> rfl

/-- Whoever is about to do anything else than to ask something of the universe has begun. -/
theorem ne_task {p : Task (Except Error (Option TeardownSummary))}
    (other : ∀ a next, p ≠ .call (.access a) next) : p ≠ d.task u := by
  rw [task_eq]
  exact other _ _

/-- A task that waits is let in, or it is over. -/
theorem waiting_access (waits : .call (.access a) next = d.task u) (w : Universe) (t : Duration) :
    (∃ v, d.accept w = .ok v ∧ (a.apply w).2 = v ∧ (next (a.apply w).1 t).Within d.May ∧
        (⟨.access a, (a.apply w).1⟩ : Event sharing) = ⟨.access (.enter d), .ok ()⟩) ∨
      (∃ e, d.accept w = .error e) ∧ (a.apply w).2 = w ∧
        (next (a.apply w).1 t).Within fun _ => False := by
  rw [task_eq] at waits
  cases waits
  cases accepts : d.accept w with
  | ok v =>
    have entered : Access.apply w (.enter d) = (.ok (), v) := by
      simp only [Access.apply, accepts]
    rw [entered]
    exact .inl ⟨v, rfl, rfl, Procedure.within_after.2 labour_within, rfl⟩
  | error e =>
    have refused : Access.apply w (.enter d) = (.error e, w) := by
      simp only [Access.apply, accepts]
    rw [refused]
    exact .inr ⟨⟨e, rfl⟩, rfl, Procedure.within_after.2 trivial⟩

/-- Only a deployment that was let in may set a state that is not final. -/
theorem inside_access (allowed : d.May (.access a)) (w : Universe) :
    (a.apply w).2.state = w.state ∨ d = .deploy ∧
      ∃ s, (s = .deploying ∨ s = .bootstrapped) ∧ a = .setState s := by
  cases a with
  | enter d' => exact allowed.elim
  | setState s => exact .inr ⟨allowed.1, s, allowed.2, rfl⟩
  | record host address | addresses | put c | clusters => exact .inl rfl

end

/-! ## Whole runs -/

section

variable {u : Universe} {demands : Nat → Demand} {ms more : List Move} {s t : System}

/-- Every task stands somewhere, and whoever is inside was let in. -/
def Phases (u : Universe) (demands : Nat → Demand) (ms : List Move) (s : System) : Prop :=
  ∀ i, ∃ phase : Phase, phase.Stands u (demands i) (s.rest i) ∧
    (phase = .inside → Entered (demands i) i ms)

theorem Phases.update {v : Universe} {i : Nat} {p : Task _} (phases : Phases u demands ms s)
    (phase : Phase) (stands : phase.Stands u (demands i) p)
    (entered : phase = .inside → Entered (demands i) i more) (grows : ms ⊆ more) :
    Phases u demands more ⟨v, Function.update s.rest i p⟩ := by
  intro j
  by_cases same : j = i
  · subst same
    exact ⟨phase, by simpa using stands, entered⟩
  · obtain ⟨other, stood, inside⟩ := phases j
    refine ⟨other, by simpa [Function.update_of_ne same] using stood, fun is => ?_⟩
    obtain ⟨m, mem, mine, event⟩ := inside is
    exact ⟨m, grows mem, mine, event⟩

/-- What a turn of a task leads to. -/
theorem Phases.access {i : Nat} {a : Access} {d : Duration}
    {next : a.Answer → Duration → Task (Except Error (Option TeardownSummary))}
    (phases : Phases u demands ms s) (here : s.rest i = .call (.access a) next) :
    let m : Move := ⟨i, ⟨.access a, (a.apply s.shared).1⟩, s.shared, (a.apply s.shared).2⟩
    Phases u demands (ms ++ [m])
        ⟨(a.apply s.shared).2, Function.update s.rest i (next (a.apply s.shared).1 d)⟩ ∧
      (Final m.before.state m.after.state ∨ Undoes (demands i) ms m) := by
  intro m
  have grows : ms ⊆ ms ++ [m] := List.subset_append_left ms [m]
  obtain ⟨phase, stands, entered⟩ := phases i
  rw [here] at stands
  cases phase with
  | waiting =>
    rcases waiting_access stands s.shared d with
      ⟨v, accepted, after, within, event⟩ | ⟨-, after, finished⟩
    · have final : Final m.before.state m.after.state := by
        change Final s.shared.state (a.apply s.shared).2.state
        rw [after]
        exact accept_final accepted
      refine ⟨phases.update .inside within (fun _ => ?_) grows, .inl final⟩
      exact ⟨m, List.mem_append_right ms List.mem_cons_self, rfl, event⟩
    · have final : Final m.before.state m.after.state := by
        change Final s.shared.state (a.apply s.shared).2.state
        rw [after]
        exact .refl _
      exact ⟨phases.update .out finished nofun grows, .inl final⟩
  | inside =>
    obtain ⟨allowed, within⟩ := stands
    have mine := entered rfl
    refine ⟨phases.update .inside (within _ d) (fun _ => ?_) grows, ?_⟩
    · obtain ⟨m', mem, own, event⟩ := mine
      exact ⟨m', grows mem, own, event⟩
    · rcases inside_access allowed s.shared with same | ⟨deploys, later, among, rfl⟩
      · refine .inl ?_
        change Final s.shared.state (a.apply s.shared).2.state
        rw [same]
        exact .refl _
      · refine .inr ⟨deploys, ?_, later, among, rfl, rfl⟩
        rw [deploys] at mine
        exact mine
  | out => exact stands.1.elim

theorem Phases.outside {i : Nat} {c : Call} {x : c.Answer} {d : Duration}
    {next : c.Answer → Duration → Task (Except Error (Option TeardownSummary))}
    (phases : Phases u demands ms s) (here : s.rest i = .call (.outside c) next) :
    Phases u demands (ms ++ [⟨i, ⟨.outside c, x⟩, s.shared, s.shared⟩])
      ⟨s.shared, Function.update s.rest i (next x d)⟩ := by
  have grows := List.subset_append_left ms [⟨i, ⟨.outside c, x⟩, s.shared, s.shared⟩]
  obtain ⟨phase, stands, entered⟩ := phases i
  rw [here] at stands
  cases phase with
  | waiting => exact absurd stands (ne_task nofun)
  | inside =>
    refine phases.update .inside (stands.2 x d) (fun _ => ?_) grows
    obtain ⟨m, mem, own, event⟩ := entered rfl
    exact ⟨m, grows mem, own, event⟩
  | out => exact stands.1.elim

/-- Whatever leaves a task with what it had to do leaves it where it stands. -/
theorem Phases.idle {i : Nat} {p : Task (Except Error (Option TeardownSummary))} {v : Universe}
    (phases : Phases u demands ms s) (begun : s.rest i ≠ (demands i).task u)
    (within : ∀ C, (s.rest i).Within C → p.Within C) :
    Phases u demands ms ⟨v, Function.update s.rest i p⟩ := by
  obtain ⟨phase, stands, entered⟩ := phases i
  have same : ms ⊆ ms := List.Subset.refl ms
  cases phase with
  | waiting => exact absurd stands begun
  | inside => exact phases.update .inside (within _ stands) entered same
  | out => exact phases.update .out (within _ stands) nofun same

theorem run_phases (run : Run (.new u demands) ms s) : Phases u demands ms s ∧
    ∀ earlier m later, ms = earlier ++ m :: later →
      Final m.before.state m.after.state ∨ Undoes (demands m.task) earlier m := by
  have snoc {ms : List Move} {new : Move}
      (old : ∀ earlier m later, ms = earlier ++ m :: later →
        Final m.before.state m.after.state ∨ Undoes (demands m.task) earlier m)
      (last : Final new.before.state new.after.state ∨ Undoes (demands new.task) ms new) :
      ∀ earlier m later, ms ++ [new] = earlier ++ m :: later →
        Final m.before.state m.after.state ∨ Undoes (demands m.task) earlier m := by
    intro earlier m later eq
    rcases List.eq_nil_or_concat later with rfl | ⟨rest, x, rfl⟩
    · obtain ⟨rfl, same⟩ := List.append_inj' eq rfl
      cases same
      exact last
    · rw [List.concat_eq_append, ← List.cons_append, ← List.append_assoc] at eq
      exact old earlier m rest (List.append_inj' eq rfl).1
  induction run with
  | nil => exact ⟨fun i => ⟨.waiting, rfl, nofun⟩, by simp⟩
  | access _ here ih =>
    obtain ⟨later, last⟩ := ih.1.access here
    exact ⟨later, snoc ih.2 last⟩
  | outside _ here ih => exact ⟨ih.1.outside here, snoc ih.2 (.inl (.refl _))⟩
  | pause _ here ih =>
    refine ⟨ih.1.idle (here ▸ ne_task nofun) fun C within => ?_, ih.2⟩
    rwa [here] at within
  | @clock _ _ _ now _ _ here ih =>
    refine ⟨ih.1.idle (here ▸ ne_task nofun) fun C within => ?_, ih.2⟩
    rw [here] at within
    exact within now
  | drift clusters _ ih => exact ⟨ih.1, ih.2⟩

/-- No deployment is under way. -/
def Settled (u : Universe) (demands : Nat → Demand) (s : System) : Prop :=
  ∀ i, demands i = .deploy →
    s.rest i = Demand.deploy.task u ∨ (s.rest i).Within fun _ => False

theorem Settled.update {v : Universe} {i : Nat} {p : Task (Except Error (Option TeardownSummary))}
    (settled : Settled u demands s) (finished : demands i = .deploy → p.Within fun _ => False) :
    Settled u demands ⟨v, Function.update s.rest i p⟩ := by
  intro j deploys
  dsimp only
  by_cases same : j = i
  · subst same
    rw [Function.update_self]
    exact .inr (finished deploys)
  · rw [Function.update_of_ne same]
    exact settled j deploys

/-- A deployment that has begun is over. -/
theorem Settled.finished {i : Nat} (settled : Settled u demands s)
    (begun : s.rest i ≠ (demands i).task u) (deploys : demands i = .deploy) :
    (s.rest i).Within fun _ => False := by
  rw [deploys] at begun
  exact (settled i deploys).resolve_left begun

/-- Where no deployment is under way, one that comes too late is refused. -/
theorem Settled.access {i : Nat} {a : Access} {d : Duration}
    {next : a.Answer → Duration → Task (Except Error (Option TeardownSummary))}
    (settled : Settled u demands s) (here : s.rest i = .call (.access a) next)
    (deploys : demands i = .deploy) (begun : s.shared.state ≠ .empty) :
    (a.apply s.shared).2 = s.shared ∧
      (next (a.apply s.shared).1 d).Within fun _ => False := by
  rcases settled i deploys with waits | finished
  · rcases waiting_access (here.symm.trans waits) s.shared d with
      ⟨v, accepted, -⟩ | ⟨-, kept, finished⟩
    · change s.shared.beginDeploy = .ok v at accepted
      unfold beginDeploy at accepted
      rw [if_neg begun] at accepted
      cases accepted
    · exact ⟨kept, finished⟩
  · rw [here] at finished
    exact finished.1.elim

theorem Final.ended {x y : UniverseState} (final : Final x y)
    (ended : x = .shutDown ∨ x = .destroyed) : y = .shutDown ∨ y = .destroyed := by
  rcases ended with down | gone
  · exact final.2 down
  · exact .inr (final.1 gone)

theorem settled_run (phases : Phases u demands ms s) (settled : Settled u demands s)
    (ended : s.shared.state = .shutDown ∨ s.shared.state = .destroyed) (run : Run s more t) :
    (∃ ms, Phases u demands ms t) ∧ Settled u demands t ∧
      Final s.shared.state t.shared.state := by
  induction run with
  | nil => exact ⟨⟨ms, phases⟩, settled, .refl _⟩
  | @access _ s' i a d next _ here ih =>
    obtain ⟨⟨ms', phases'⟩, settled', final⟩ := ih
    obtain ⟨later, turn⟩ := phases'.access (d := d) here
    refine ⟨⟨_, later⟩, ?_⟩
    by_cases deploys : demands i = .deploy
    · have begun : s'.shared.state ≠ .empty := by
        rcases final.ended ended with down | gone
        · simp [down]
        · simp [gone]
      obtain ⟨kept, finished⟩ := settled'.access (d := d) here deploys begun
      refine ⟨settled'.update fun _ => finished, ?_⟩
      dsimp only
      rw [kept]
      exact final
    · refine ⟨settled'.update fun same => absurd same deploys, ?_⟩
      rcases turn with stays | undoes
      · exact final.trans stays
      · exact absurd undoes.deploys deploys
  | @outside _ s' i c x d next _ here ih =>
    obtain ⟨⟨ms', phases'⟩, settled', final⟩ := ih
    have begun : s'.rest i ≠ (demands i).task u := here ▸ ne_task nofun
    refine ⟨⟨_, phases'.outside (x := x) (d := d) here⟩, settled'.update fun deploys => ?_, final⟩
    have finished := settled'.finished begun deploys
    rw [here] at finished
    exact finished.1.elim
  | @pause _ s' i d next _ here ih =>
    obtain ⟨⟨ms', phases'⟩, settled', final⟩ := ih
    have begun : s'.rest i ≠ (demands i).task u := here ▸ ne_task nofun
    have rest (C : Request → Prop) (within : (s'.rest i).Within C) : next.Within C := by
      rwa [here] at within
    exact ⟨⟨ms', phases'.idle begun rest⟩,
      settled'.update fun deploys => rest _ (settled'.finished begun deploys), final⟩
  | @clock _ s' i now next _ here ih =>
    obtain ⟨⟨ms', phases'⟩, settled', final⟩ := ih
    have begun : s'.rest i ≠ (demands i).task u := here ▸ ne_task nofun
    have rest (C : Request → Prop) (within : (s'.rest i).Within C) : (next now).Within C := by
      rw [here] at within
      exact within now
    exact ⟨⟨ms', phases'.idle begun rest⟩,
      settled'.update fun deploys => rest _ (settled'.finished begun deploys), final⟩
  | drift clusters _ ih => exact ih

/-- However demands take turns, nothing but a deployment that was let in before undoes a teardown,
and a teardown is final once no deployment is under way. -/
theorem shared_final (run : Run (.new u demands) ms s) :
    (∀ earlier m later, ms = earlier ++ m :: later →
      Final m.before.state m.after.state ∨ Undoes (demands m.task) earlier m) ∧
    (Settled u demands s → ∀ more t, Run s more t → Final s.shared.state t.shared.state) := by
  obtain ⟨phases, moves⟩ := run_phases run
  refine ⟨moves, fun settled more t continued => ?_⟩
  by_cases ended : s.shared.state = .shutDown ∨ s.shared.state = .destroyed
  · exact (settled_run phases settled ended continued).2.2
  · exact ⟨fun gone => absurd (.inr gone) ended, fun down => absurd (.inl down) ended⟩

end

/-- A universe without clusters. -/
def bare : Universe := inEnvironment .default .docker .delegated

/-- One demands the deployment of a universe, all others its destruction. -/
def overlap (i : Nat) : Demand := if i = 0 then .deploy else .destroy

theorem shared_final_overlap : ∃ ms s, Run (.new bare overlap) ms s ∧ Settled bare overlap s ∧
    s.shared.state = .destroyed ∧ ∀ more t, Run s more t → t.shared.state = .destroyed := by
  have begun : Run (.new bare overlap) [] (.new bare overlap) := .nil
  obtain ⟨ms, s, run, waits, state⟩ : ∃ ms s, Run (.new bare overlap) ms s ∧
      s.rest 0 = Demand.deploy.task bare ∧ s.shared.state = .destroyed :=
    ⟨_, _, .access (i := 1) (a := .enter .destroy) (d := .zero) begun rfl, rfl, rfl⟩
  have settled : Settled bare overlap s := by
    intro i deploys
    unfold overlap at deploys
    split at deploys
    · rename_i first
      rw [first]
      exact .inl waits
    · cases deploys
  refine ⟨ms, s, run, settled, state, fun more t continued => ?_⟩
  exact ((shared_final run).2 settled more t continued).1 state

/-- A deployment that was let in first brings a destroyed universe back. -/
theorem destroyed_returns :
    Universe.docker .default .delegated = .ok bare ∧ ∃ ms s, Run (.new bare overlap) ms s ∧
      ∃ m ∈ ms, m.before.state = .destroyed ∧ m.after.state = .bootstrapped := by
  have begun : Run (.new bare overlap) [] (.new bare overlap) := .nil
  have deploying := Run.access (i := 0) (a := .enter .deploy) (d := .zero) begun rfl
  have destroyed := Run.access (i := 1) (a := .enter .destroy) (d := .zero) deploying rfl
  have swept := Run.access (i := 1) (a := .clusters) (d := .zero) destroyed rfl
  have connected := Run.outside (i := 0) (c := .engine (.ensureNetwork "universe-net"))
    (a := .ok ()) (d := .zero) swept rfl
  have bootstrapped := Run.access (i := 0) (a := .setState .bootstrapped) (d := .zero) connected rfl
  exact ⟨rfl, _, _, bootstrapped, _, List.mem_append_right _ List.mem_cons_self, rfl, rfl⟩

end Universe

end Testbed
