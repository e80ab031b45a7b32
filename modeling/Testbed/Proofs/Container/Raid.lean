import Testbed.Proofs.Container.Guard
/-!
# Containers that others take away

An engine does not fail by itself, but before every call others may take containers away (`Raided`).
What a missing container does to one operation is told operation by operation: those that end a node
do not mind, and those that look first do nothing more. A container that is missing stays so until
another one of its name is created, which only a deployment does, with its first call.
-/

namespace Testbed

open Lab (Engine)

namespace Lab.Engine

variable {e t : Engine} {name : String}

/-- Others take containers away. -/
def raid (e : Engine) (names : List String) : Engine :=
  names.foldl (fun e n => (e.perform (.remove n)).2) e

theorem find?_raid {names : List String} : (e.raid names).containers.find? name =
    if name ∈ names then none else e.containers.find? name := by
  induction names generalizing e with
  | nil => rfl
  | cons n names ih =>
    have first : (e.perform (.remove n)).2.containers.find? name = _ := find?_remove
    change ((e.perform (.remove n)).2.raid names).containers.find? name = _
    rw [ih, first]
    by_cases same : name = n <;> simp [same]

/-- The conduct of an engine without failures of which others may take containers away before any
call. Other peers leave those alone that there still are. -/
inductive Raided : Conduct outside Engine
  | performed {e : Engine} (names : List String) (c : EngineCall) :
      Raided e ⟨.engine c, ((e.raid names).perform c).1⟩ ((e.raid names).perform c).2
  | elsewhere {e : Engine} (names : List String) {ev : Event outside} :
      (∀ c, ev.call ≠ .engine c) → Raided e ev (e.raid names)

theorem Raided.engine {c : EngineCall} {a : c.Answer} (step : Raided e ⟨.engine c, a⟩ t) :
    ∃ s : Engine, a = (s.perform c).1 ∧ t = (s.perform c).2 := by
  cases step with
  | performed names c => exact ⟨e.raid names, rfl, rfl⟩
  | elsewhere names other => exact absurd rfl (other c)

theorem has_raid {names : List String} (there : (e.raid names).Has name) : e.Has name := by
  obtain ⟨k, found⟩ := there
  rw [find?_raid] at found
  split at found
  · cases found
  · exact ⟨k, found⟩

/-- A container that there is was there before, or was created just now. -/
theorem Raided.has {ev : Event outside} (step : Raided e ev t) (there : t.Has name) :
    e.Has name ∨ ev.Creates name := by
  cases step with
  | performed names c => exact (has_perform there).imp_left has_raid
  | elsewhere names _ => exact .inl (has_raid there)

/-- A container that is missing stays so until it is created. -/
theorem Raided.missing {es : List (Event outside)} (path : Raided.Path e es t)
    (missing : ¬e.Has name) (uncreated : ¬Created name es) : ¬t.Has name := by
  induction path with
  | nil => exact missing
  | @cons s u t ev es step _ ih =>
    have first : ¬ev.Creates name := fun creates =>
      uncreated ⟨ev, List.mem_cons_self, creates⟩
    refine ih (fun there => ?_) fun ⟨later, mem, creates⟩ =>
      uncreated ⟨later, List.mem_cons_of_mem _ mem, creates⟩
    exact (step.has there).elim missing first

/-- What cannot be done to a container fails only because the container is missing. -/
theorem forgiven_withContainer {f : SimulatedContainer → Except Error Unit × SimulatedContainer}
    (done : ∀ k, (f k).1 = .ok ()) :
    Container.forgiveMissing (e.withContainer name f).1 = .ok () := by
  unfold withContainer
  split
  · rfl
  · rw [done]
    rfl

theorem forgiven_remove : Container.forgiveMissing (e.remove name).1 = .ok () := by
  unfold Engine.remove
  split <;> rfl

/-- A container is reported as missing exactly if it is. -/
theorem Raided.inspect {a : Except Error (Option ContainerStatus)}
    (step : Raided e ⟨.engine (.inspect name), a⟩ t) :
    ∃ found : Option SimulatedContainer, a = .ok (found.map (·.status)) ∧
      (t.Has name ↔ found.isSome = true) := by
  obtain ⟨s, rfl, same⟩ := step.engine
  obtain rfl : t = s := same
  refine ⟨t.containers.find? name, rfl, ?_⟩
  change (∃ k, t.containers.find? name = some k) ↔ _
  rw [Option.isSome_iff_exists]

end Lab.Engine

namespace Container

open Lab.Engine (Raided)

variable {c : Container} {e : Engine} {es : List (Event outside)} {o : Outcome Container}

/-! ## Operations that end a node -/

theorem status_endures : c.status.run.Ensures Raided (fun _ => True) e fun r _ =>
    ∃ status, r = .ok status := by
  refine Procedure.ensures_map.2 (Procedure.ensures_ask.2 fun a t step => ⟨trivial, ?_⟩)
  obtain ⟨found, rfl, -⟩ := step.inspect
  exact ⟨_, rfl⟩

/-- What is only done to a container that is not down may find it missing. -/
theorem forgiving_endures (p : ContainerStatus → Bool) (work : Work (Except Error Unit))
    (asked : ∀ t, work.Ensures Raided (fun _ => True) t fun a _ => forgiveMissing a = .ok ()) :
    (do
      let status ← c.status
      if p status then .ofAnswer (forgiveMissing <$> work) : Attempt Unit).run.Ensures Raided
        (fun _ => True) e fun r _ => r = .ok () := by
  refine Attempt.ensures_bind.2 (status_endures.mono ?_)
  rintro _ t ⟨status, rfl⟩
  dsimp only
  split
  · exact Procedure.ensures_map.2 (asked t)
  · rfl

theorem stop_endures (timeout : Duration) :
    (c.stop timeout).run.Ensures Raided (fun _ => True) e fun r _ => r = .ok () := by
  refine forgiving_endures (fun status => status.running || status.paused)
    (askEngine (.stop c.name timeout)) fun t => Procedure.ensures_ask.2 fun a u step => ⟨trivial, ?_⟩
  obtain ⟨s, rfl, -⟩ := step.engine
  exact Lab.Engine.forgiven_withContainer fun _ => rfl

theorem kill_endures : c.kill.run.Ensures Raided (fun _ => True) e fun r _ => r = .ok () := by
  refine forgiving_endures (fun status => status.running || status.paused)
    (askEngine (.kill c.name)) fun t => Procedure.ensures_ask.2 fun a u step => ⟨trivial, ?_⟩
  obtain ⟨s, rfl, -⟩ := step.engine
  exact Lab.Engine.forgiven_withContainer fun _ => rfl

theorem remove_endures : c.remove.Ensures Raided (fun _ => True) e fun o _ => o.1 = .ok () := by
  refine Attempt.ensures_changing.2 ?_
  refine Procedure.ensures_map.2 (Procedure.ensures_ask.2 fun a u step => ⟨trivial, ?_⟩)
  obtain ⟨s, rfl, -⟩ := step.engine
  have forgiven : forgiveMissing (s.perform (.remove c.name)).1 = .ok () :=
    Lab.Engine.forgiven_remove
  rw [forgiven]

theorem destroy_endures :
    (Backend.destroy c).Ensures Raided (fun _ => True) e fun o _ => o.1 = .ok () := by
  refine Procedure.ensures_bind.2 (Procedure.ensures_true.mono fun _ _ _ => ?_)
  refine Procedure.ensures_bind.2 (Procedure.ensures_true.mono fun _ _ _ => ?_)
  exact remove_endures

/-- The actions that end a node, given how long a stop may take. -/
def ending (timeout : Duration) : List Backend.Action :=
  [.perform (.stop timeout), .perform .kill, .perform .remove, .destroy]

theorem ending_endures {timeout : Duration} {action : Backend.Action}
    (ends : action ∈ ending timeout) :
    (action.apply c).Ensures Raided (fun _ => True) e fun o _ => o.1 = .ok () := by
  simp only [ending, List.mem_cons, List.not_mem_nil, or_false] at ends
  rcases ends with rfl | rfl | rfl | rfl
  · exact Attempt.ensures_keeping.2 (stop_endures timeout)
  · exact Attempt.ensures_keeping.2 kill_endures
  · exact remove_endures
  · exact destroy_endures

/-! ## Operations that look first -/

/-- What comes of an operation that finds no container when it looks. -/
def foundMissing (c : Container) (op : Operation) : Except Error Unit :=
  if op = .restart then .error (.notFound ("container " ++ c.name)) else .ok ()

theorem status_leads {r : Except Error ContainerStatus} (leads : c.status.run.Leads es r) :
    ∃ a, es = [⟨.engine (.inspect c.name), a⟩] ∧ r = a.map (·.getD .down) := by
  obtain ⟨a, asked, rfl⟩ := Procedure.leads_map.1 leads
  exact ⟨a, Procedure.leads_ask.1 asked, rfl⟩

/-- What is not done to a container that is down is not done to one that is missing. -/
theorem looks_first_at_status {p : ContainerStatus → Bool} {act : Attempt Unit}
    {r : Except Error Unit} (spares : p .down = false)
    (leads : (do
      let status ← c.status
      if p status then act).run.Leads es r) :
    ∃ a rest, es = ⟨.engine (.inspect c.name), a⟩ :: rest ∧
      (a = .ok none → rest = [] ∧ r = .ok ()) := by
  rcases Attempt.leads_bind.1 leads with ⟨_, rest, status, rfl, looked, acted⟩ | ⟨err, failed, -⟩
  · obtain ⟨a, rfl, told⟩ := status_leads looked
    refine ⟨a, rest, rfl, ?_⟩
    rintro rfl
    obtain rfl : status = .down := Except.ok.inj told
    rw [spares] at acted
    exact Procedure.leads_pure.1 acted
  · obtain ⟨a, rfl, told⟩ := status_leads failed
    refine ⟨a, [], rfl, ?_⟩
    rintro rfl
    cases told

/-- An operation that finds no container does nothing more. -/
theorem looks_first {op : Operation} (looks : op ∈ [.pause, .resume, .restart])
    (leads : (c.perform op).Leads es o) :
    ∃ a rest, es = ⟨.engine (.inspect c.name), a⟩ :: rest ∧
      (a = .ok none → rest = [] ∧ o.1 = c.foundMissing op) := by
  simp only [List.mem_cons, List.not_mem_nil, or_false] at looks
  rcases looks with rfl | rfl | rfl
  · obtain ⟨r, paused, rfl⟩ := Procedure.leads_map.1 leads
    exact looks_first_at_status (p := fun status => status.running && !status.paused) rfl paused
  · obtain ⟨r, resumed, rfl⟩ := Procedure.leads_map.1 leads
    exact looks_first_at_status (p := fun status => status.paused) rfl resumed
  · obtain ⟨r, restarted, rfl⟩ := Procedure.leads_map.1 leads
    rcases Attempt.leads_bind.1 restarted with
      ⟨_, rest, found, rfl, looked, acted⟩ | ⟨err, failed, -⟩
    · refine ⟨.ok found, rest, by rw [Procedure.leads_ask.1 looked]; rfl, ?_⟩
      intro missing
      obtain rfl := Except.ok.inj missing
      exact Procedure.leads_pure.1 acted
    · refine ⟨.error err, [], Procedure.leads_ask.1 failed, nofun⟩

/-! ## Where containers are created -/

/-- A deployment creates a container with its first call or not at all, and remembers it. -/
theorem Deploys.creates (course : c.Deploys es o) : ¬Created c.name es.tail ∧
    (c.deployed = true ∨ Created c.name es → o.2.deployed = true) := by
  have givenUp_idle : ¬Created c.name c.givenUp := by
    unfold givenUp
    split <;> simp [Created, Event.Creates]
  cases course with
  | unfit | uncreated => simp [Created, Event.Creates]
  | unconnected | unstarted | started =>
    refine ⟨?_, fun _ => rfl⟩
    rw [List.cons_append, List.tail_cons, created_append]
    exact fun created => created.elim givenUp_idle (by simp [Created, Event.Creates])

theorem action_idle {action : Backend.Action} (other : action ≠ .perform .deploy) :
    (action.apply c).Idle := by
  cases action with
  | perform op =>
    refine perform_idle ?_
    rintro rfl
    exact other rfl
  | destroy =>
    exact (perform_idle (by simp)).bind fun _ => (perform_idle (by simp)).bind fun _ => remove_idle

theorem not_created_of_idle {α : Type} {p : Work α} {a : α} (name : String) (idle : p.Idle)
    (leads : p.Leads es a) : ¬Created name es := by
  rintro ⟨ev, mem, spec, id, -, rfl⟩
  exact idle.leads leads _ mem trivial

/-- Only a deployment creates the container, and with its first call. -/
theorem action_creates {action : Backend.Action} (leads : (action.apply c).Leads es o) :
    (Created c.name es → action = .perform .deploy ∧ ¬Created c.name es.tail) ∧
      (c.deployed = true ∨ Created c.name es → o.2.deployed = true) := by
  rcases action_cases leads with ⟨rfl, course⟩ | ⟨removal, removed⟩ | ⟨other, -, same⟩
  · obtain ⟨once, kept⟩ := course.creates
    exact ⟨fun _ => ⟨rfl, once⟩, kept⟩
  · have other : action ≠ .perform .deploy := by
      rcases removal with rfl | rfl <;> simp
    have uncreated := not_created_of_idle c.name (action_idle other) leads
    refine ⟨fun created => absurd created uncreated, fun known => ?_⟩
    have deployed := known.resolve_right uncreated
    rcases removed with rfl | ⟨err, rfl⟩ <;> exact deployed
  · have uncreated := not_created_of_idle c.name (action_idle other) leads
    refine ⟨fun created => absurd created uncreated, fun known => ?_⟩
    rw [same]
    exact known.resolve_right uncreated

variable {σ : Type} {peers : Peers outside σ} {view : σ → Engine}

/-- Every stint is an action on a backend for the same container. -/
theorem mem_stints {actions : List Backend.Action} {m : Moment σ} {s : Stint}
    (mem : s ∈ stints peers actions c m) :
    ∃ (c' : Container) (o : Outcome Container), c.Same c' ∧ (s.action.apply c').Leads s.events o := by
  induction actions generalizing c m with
  | nil => simp [stints] at mem
  | cons action actions ih =>
    have leads := Procedure.leads_run peers (action.apply c) m
    rcases List.mem_cons.1 mem with rfl | later
    · exact ⟨c, _, .refl c, leads⟩
    · obtain ⟨c', o, same, leads'⟩ := ih later
      exact ⟨c', o, (action_same leads).trans same, leads'⟩

/-- A backend remembers that its container was created. -/
theorem actions_deployed (peers : Peers outside σ) (actions : List Backend.Action) (c : Container)
    (m : Moment σ) :
    let work := inTurn (actions.map Backend.Action.apply) c
    c.deployed = true ∨ Created c.name (work.trace peers m) →
      (work.run peers m).1.deployed = true := by
  induction actions generalizing c m with
  | nil =>
    rintro work (deployed | ⟨ev, mem, -⟩)
    · exact deployed
    · cases mem
  | cons action actions ih =>
    have leads := Procedure.leads_run peers (action.apply c) m
    obtain ⟨-, remembers⟩ := action_creates leads
    intro work created
    have later := ih ((action.apply c).run peers m).1.2 ((action.apply c).run peers m).2
    rw [(action_same leads).name] at later
    have split : work.trace peers m = _ := Procedure.trace_bind peers (action.apply c) _ m
    rw [split, created_append, ← or_assoc] at created
    have ran : (work.run peers m).1 = _ :=
      congrArg Prod.fst (Procedure.run_bind peers (action.apply c) _ m)
    rw [ran]
    exact later (created.imp_left remembers)

/-! ## States that are reported -/

theorem state_idle : (Backend.state c).Idle := by
  refine Procedure.Within.bind (Procedure.within_ask.2 id) fun found => ?_
  obtain err | _ | status := found <;> exact Procedure.within_pure _

/-- A container that was created and is missing when it is looked at is reported as destroyed. -/
theorem state_endures (deployed : c.deployed = true) :
    (Backend.state c).Ensures Raided (fun _ => True) e fun r t =>
      ¬t.Has c.name → r = .ok .destroyed := by
  refine Procedure.ensures_bind.2 (Procedure.ensures_ask.2 fun a t step => ⟨trivial, ?_⟩)
  obtain ⟨found, rfl, there⟩ := step.inspect
  cases found with
  | none =>
    intro _
    simp [deployed]
  | some k => exact fun missing => absurd (there.2 rfl) missing

/-- What is called on the way is what is called in the stints. -/
theorem trace_stints (peers : Peers outside σ) (actions : List Backend.Action) (c : Container)
    (m : Moment σ) : (inTurn (actions.map Backend.Action.apply) c).trace peers m =
      (stints peers actions c m).flatMap (·.events) := by
  induction actions generalizing c m with
  | nil => rfl
  | cons action actions ih =>
    have split := Procedure.trace_bind peers (action.apply c)
      (fun o => inTurn (actions.map Backend.Action.apply) o.2) m
    rw [ih] at split
    exact split

/-! ## Whatever others take away -/

/-- An operation that looks first does nothing more if the container is missing then. -/
theorem looks_history (obey : peers.Obey view Raided) {op : Operation}
    (looks : op ∈ [.pause, .resume, .restart]) (c : Container) (m : Moment σ) :
    ∃ x rest, (c.perform op).history peers m = x :: rest ∧
      (∃ a, x.1 = ⟨.engine (.inspect c.name), a⟩) ∧
      (¬(view x.2).Has c.name → rest = [] ∧ ((c.perform op).run peers m).1.1 = c.foundMissing op) := by
  obtain ⟨a, events, called, missing⟩ :=
    looks_first looks (Procedure.leads_run peers (c.perform op) m)
  obtain ⟨x, rest, split, first, later⟩ := List.map_eq_cons_iff.1 called
  have path := Procedure.path_until obey (split.trans (List.nil_append _).symm)
  obtain ⟨_, looked, last⟩ := Conduct.path_cons.1 path
  obtain rfl := Conduct.path_nil.1 last
  change Raided _ x.1 _ at looked
  rw [first] at looked
  obtain ⟨found, rfl, there⟩ := looked.inspect
  refine ⟨x, rest, split, ⟨_, first⟩, fun gone => ?_⟩
  have none_found : found = none := by
    rw [there] at gone
    simpa using gone
  obtain ⟨rfl, result⟩ := missing (by rw [none_found]; rfl)
  exact ⟨List.map_eq_nil_iff.1 later, result⟩

theorem missing_until_created (obey : peers.Obey view Raided) {α : Type} {p : Work α}
    {m : Moment σ} {name : String} {before after : List (Event outside × σ)}
    {x : Event outside × σ} (split : p.history peers m = before ++ x :: after)
    (missing : ¬(view x.2).Has name) (uncreated : ¬Created name (after.map (·.1))) :
    (∀ y ∈ after, ¬(view y.2).Has name) ∧ ¬(view (p.run peers m).2.state).Has name := by
  obtain ⟨q, n, start, rest, last⟩ := Procedure.history_rest split
  rw [← start] at missing
  constructor
  · intro y mem
    obtain ⟨between, later, parts⟩ := List.append_of_mem mem
    refine Raided.missing (Procedure.path_until obey (rest.trans parts)) missing ?_
    intro created
    apply uncreated
    rw [parts, List.append_cons, List.map_append, created_append]
    exact .inl created
  · have path := Procedure.path_run obey q n
    rw [Procedure.trace, rest, last] at path
    exact Raided.missing path missing uncreated

/-- A container that was created and is missing at a moment is reported as destroyed, unless it is
created again. -/
theorem destroyed_told (obey : peers.Obey view Raided) {actions : List Backend.Action}
    {m : Moment σ} {before after : List (Event outside × σ)} {x : Event outside × σ}
    (split : (inTurn (actions.map Backend.Action.apply) c >>= Backend.state).history peers m =
      before ++ x :: after)
    (created : Created c.name (before.map (·.1))) (missing : ¬(view x.2).Has c.name)
    (uncreated : ¬Created c.name (after.map (·.1))) :
    ((inTurn (actions.map Backend.Action.apply) c >>= Backend.state).run peers m).1 =
      .ok .destroyed := by
  let work := inTurn (actions.map Backend.Action.apply) c
  have gone := (missing_until_created obey split missing uncreated).2
  have deployed : (work.run peers m).1.deployed = true := by
    have known : Created c.name ((work >>= Backend.state).trace peers m) := by
      rw [Procedure.trace, split, List.map_append, created_append]
      exact .inl created
    rw [Procedure.trace_bind, created_append] at known
    have looks := not_created_of_idle c.name state_idle
      (Procedure.leads_run peers (Backend.state (work.run peers m).1) (work.run peers m).2)
    exact actions_deployed peers actions c m (.inr (known.resolve_right looks))
  have own_name : (work.run peers m).1.name = c.name := (actions_guarded peers actions c m).1.name
  rw [Procedure.run_bind] at gone ⊢
  have reported := (state_endures deployed).run obey (m := (work.run peers m).2)
  exact reported (by rwa [own_name])

/-- On an engine that does not fail, but of which others take containers away at any moment: what
ends a node succeeds, what looks first does nothing more once its container is missing, and a
container that is missing stays so, and is reported as destroyed, until a deployment creates it
anew. -/
theorem missing_tolerated (obey : peers.Obey view Raided) (params : NodeParams)
    (service : ServiceParams) (network logDir : String) (actions : List Backend.Action)
    (m : Moment σ) :
    let c := ofNode params service network logDir
    let work := inTurn (actions.map Backend.Action.apply) c
    let c' := (work.run peers m).1
    let m' := (work.run peers m).2
    let told := work >>= Backend.state
    (∀ timeout, ∀ action ∈ ending timeout, ((action.apply c').run peers m').1.1 = .ok ()) ∧
      (∀ op ∈ [.pause, .resume, .restart], ∃ x rest,
        (c'.perform op).history peers m' = x :: rest ∧
        (∃ a, x.1 = ⟨.engine (.inspect c.name), a⟩) ∧
        (¬(view x.2).Has c.name →
          rest = [] ∧ ((c'.perform op).run peers m').1.1 = c.foundMissing op)) ∧
      (∀ before x after, work.history peers m = before ++ x :: after →
        ¬(view x.2).Has c.name → ¬Created c.name (after.map (·.1)) →
        ∀ y ∈ after, ¬(view y.2).Has c.name) ∧
      work.trace peers m = (stints peers actions c m).flatMap (·.events) ∧
      (∀ s ∈ stints peers actions c m, Created c.name s.events →
        s.action = .perform .deploy ∧ ¬Created c.name s.events.tail) ∧
      ∀ before x after, told.history peers m = before ++ x :: after →
        Created c.name (before.map (·.1)) → ¬(view x.2).Has c.name →
        ¬Created c.name (after.map (·.1)) → (told.run peers m).1 = .ok .destroyed := by
  intro c work c' m' told
  have own_name : c'.name = c.name := (actions_guarded peers actions c m).1.name
  refine ⟨?_, ?_, ?_, trace_stints peers actions c m, ?_, ?_⟩
  · intro timeout action ends
    exact (ending_endures ends).run obey
  · intro op looks
    have looked := looks_history obey looks c' m'
    rw [foundMissing, own_name] at looked
    exact looked
  · intro before x after split missing uncreated
    exact (missing_until_created obey split missing uncreated).1
  · intro s mem created
    obtain ⟨k, o, same, leads⟩ := mem_stints mem
    rw [← same.name] at created ⊢
    exact (action_creates leads).1 created
  · intro before x after split created missing uncreated
    exact destroyed_told obey split created missing uncreated

/-- Peers that let everything succeed, and on whose engine others take a container away before some
of the calls. -/
def raiders (name : String) : Peers outside (Engine × List Bool) where
  answer _ s c :=
    let e := s.1.raid (if s.2.head? = some true then [name] else [])
    (((e.answerExactly c).1, .zero), ((e.answerExactly c).2, s.2.tail))

theorem raiders_obey (name : String) : (raiders name).Obey Prod.fst Raided := by
  intro clock s c
  cases c with
  | engine c => exact .performed _ c
  | shell c =>
    cases c with
    | run host cmd => exact .elsewhere _ fun _ h => by cases h
    | copy host source target => exact .elsewhere _ fun _ h => by cases h
  | hypervisor c | file c | program name args | bootstrap r | act node action | abandon n | freshId
  | timeStamp | pick n | awaitShutdown limit => exact .elsewhere _ fun _ h => by cases h

/-- The container is taken away after it was looked at and before it is killed. -/
theorem missing_tolerated_killed :
    let c := ofNode (.ofPort 9000) .default "universe-net" "/logs"
    let peers := raiders c.name
    let m : Moment (Engine × List Bool) :=
      ⟨.zero, Engine.empty Engine.defaultInfo [], [false, false, false, false, true]⟩
    let work := inTurn ([.perform .deploy].map Backend.Action.apply) c
    let c' := (work.run peers m).1
    let m' := (work.run peers m).2
    peers.Obey Prod.fst Raided ∧
      ((c'.perform .kill).history peers m').map (·.2.1.containers.keys) = [["node9000"], []] ∧
      ((c'.perform .kill).run peers m').1.1 = .ok () := by
  have kills : Backend.Action.perform .kill ∈ ending .zero := by simp [ending]
  have applied (k : Container) : (Backend.Action.perform .kill).apply k = k.perform .kill := rfl
  -- nothing is introduced under a name, as runs that are spelled alike need not be carried out
  have tolerated := missing_tolerated
    (raiders_obey (ofNode (.ofPort 9000) .default "universe-net" "/logs").name) (.ofPort 9000)
    .default "universe-net" "/logs" [.perform .deploy]
    ⟨.zero, Engine.empty Engine.defaultInfo [], [false, false, false, false, true]⟩
  have ended := tolerated.1 .zero _ kills
  rw [applied] at ended
  exact ⟨raiders_obey _, by decide +kernel, ended⟩

end Container

end Testbed
