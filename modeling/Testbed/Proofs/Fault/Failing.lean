import Testbed.Proofs.Container.Interruption
import Testbed.Proofs.Fault.Rounds
/-!
# Rounds that fail

While a round brings a fault about any call of the engine may fail, before or after it had its
effect; from then on the engine works (`Unsteady`). A round heals only what it was told to have
brought about. So a node is well again after a round if and only if bringing the fault about
succeeded, or failed before anything was done to the container; otherwise what was done is left as it
is (`round_restores_iff`), although healing would make up for it (`heal_stage`).
-/

namespace Testbed

open Lab (Engine SimulatedContainer)
open Lab.Engine (Lossy)

variable {σ : Type}

/-! ## Engines that fail for a while -/

/-- The conduct of an engine that may fail for a while, and works from then on. The flag says that it
may still fail. -/
inductive Unsteady : Conduct outside (Engine × Bool)
  | failing {e t : Engine} {ev : Event outside} (still : Bool) :
      Lossy e ev t → Unsteady (e, true) ev (t, still)
  | working {e t : Engine} {ev : Event outside} :
      Faultless e ev t → Unsteady (e, false) ev (t, false)

theorem Faultless.lossy {e t : Engine} {ev : Event outside} (step : Faultless e ev t) :
    Lossy e ev t := by
  cases step with
  | performed c => exact .performed c
  | ran _ | unmatched _ _ _ => exact .elsewhere (fun _ h => by cases h)
  | elsewhere other _ => exact .elsewhere other

theorem Unsteady.lossy {s t : Engine × Bool} {ev : Event outside} (step : Unsteady s ev t) :
    Lossy s.1 ev t.1 := by
  cases step with
  | failing still step => exact step
  | working step => exact step.lossy

/-- An engine that works goes on to work. -/
theorem Procedure.Ensures.working {α : Type} {p : Work α} {e : Engine} {always : Engine → Prop}
    {post : α → Engine → Prop} (h : p.Ensures Faultless always e post) :
    p.Ensures Unsteady (fun s => always s.1) (e, false) fun a s => post a s.1 := by
  induction p generalizing e with
  | done a => exact h
  | call c next ih =>
    intro a d s step
    cases step with
    | working step => exact ⟨(h a d _ step).1, ih a d (h a d _ step).2⟩
  | pause d p ih => exact ih h
  | clock next ih => exact fun t => ih t (h t)

/-! ## Healing what was brought about in part -/

namespace Physical

variable {b : Physical} {c : Container} {e : Engine} {s : Condition} {fault : Fault}
  {info : NetworkInfo} {k k' : SimulatedContainer}

/-- Asked without failures, a node would say that it runs and that no rules are in place. -/
def Sound (b : Physical) (e : Engine) : Prop := b.Healthy Engine.peers ⟨.zero, e⟩

theorem sound_iff (reached : Backend.Reached b) : b.Sound e ↔ b.Matches ⟨.running, true⟩ e := by
  constructor
  · intro sound
    exact matches_start (m := ⟨.zero, e⟩) Engine.peers_obey reached sound.running sound.clear
  · intro fits
    obtain ⟨running, clear⟩ := matches_end (m := ⟨.zero, e⟩) Engine.peers_obey fits
    exact ⟨running, clear⟩

theorem stands_holds (created : c.deployed = true) (holds : e.Holds info c.name k)
    (fits : k.Matches s) (live : s.Live) : (container c).Stands s e := by
  refine ⟨⟨live, k, holds.found, fits⟩, created, ?_, ?_⟩
  · rcases live with eq | eq | eq <;> simp [eq]
  · rw [holds.found, Option.map_some, fits.status]
    obtain ⟨x, reached⟩ := s
    rcases live with rfl | rfl | rfl <;> rfl

theorem supported_container (fault : Fault) : fault ∈ Fault.supported (container c) := by
  have all : Fault.supported (container c) = Fault.all := rfl
  rw [all]
  cases fault <;> decide

/-- Healing makes up for a fault that was brought about in part like for a whole one. -/
theorem heal_stage (created : c.deployed = true) (holds : e.Holds info c.name k')
    (stage : k.Stage info fault k') (intact : k.Intact) :
    (Backend.perform fault.healing (container c)).Ensures Faultless (fun _ => True) e fun o t =>
      o.1 = .ok () ∧ o.2.Well t := by
  obtain ⟨s, mends, fits⟩ := stage.matches intact
  exact heal_mends (stands_holds created holds fits mends.live) mends (supported_container fault)

end Physical

namespace FaultLoop

variable {u : Universe} {cluster : Cluster Physical} {key : String} {node : Node Physical}
  {fault : Fault} {c : Container} {e : Engine} {info : NetworkInfo} {k k' : SimulatedContainer}

/-! ## The parts of a round -/

/-- Work that is not about a container leaves it as it is, whatever fails. -/
theorem holds_spared {α : Type} {p : Work α} {name : String} (spares : p.Within (Call.Spares name))
    (holds : e.Holds info name k) :
    p.Ensures Lossy (fun _ => True) e fun _ t => t.Holds info name k :=
  spares.ensures holds fun _ _ _ aside step holds => ⟨trivial, step.holds aside holds⟩

theorem injected_lossy (docker : node.backend = .container c) (holds : e.Holds info c.name k)
    (intact : k.Intact) (timeout : Duration) :
    (node.perform (fault.injection timeout)).Ensures Lossy (fun _ => True) e fun o t =>
      o.2 = node ∧ ∃ k', k.Stage info fault k' ∧ t.Holds info c.name k' := by
  have staged : (Backend.perform (fault.injection timeout) (Physical.container c)).Ensures Lossy
      (fun _ => True) e fun _ t => ∃ k', k.Stage info fault k' ∧ t.Holds info c.name k' :=
    Procedure.ensures_map.2 (Container.inject_stage holds intact fault timeout)
  rw [Node.perform_eq, docker]
  refine Procedure.ensures_map.2 (staged.leads.mono ?_)
  rintro o t ⟨stage, es, leads⟩
  have same : o.2 = .container c := @Physical.fault_keeps c (.inject fault timeout) es o leads
  refine ⟨?_, stage⟩
  rw [same, ← docker]

/-- A fault that is held and healed leaves a node that is well, whatever stage it was at. -/
theorem healed_working (docker : node.backend = .container c) (created : c.deployed = true)
    (holds : e.Holds info c.name k') (stage : k.Stage info fault k') (intact : k.Intact)
    (hold : Duration) :
    (awaitShutdown hold >>= fun _ => node.perform fault.healing).Ensures Unsteady (fun _ => True)
      (e, false) fun o s => o.1 = .ok () ∧ o.2 = node ∧ node.backend.Well s.1 := by
  have waits : (awaitShutdown hold).Ensures Faultless (fun _ => True) e
      fun _ t => t.Holds info c.name k' :=
    (holds_spared (awaitShutdown_spares hold) holds).weaken (fun _ _ _ => Faultless.lossy)
      fun _ h => h
  have heals : (awaitShutdown hold >>= fun _ => node.perform fault.healing).Ensures Faultless
      (fun _ => True) e fun o t => o.1 = .ok () ∧ o.2 = node ∧ node.backend.Well t := by
    refine Procedure.ensures_bind.2 (waits.mono fun _ t holds => ?_)
    have healed := Physical.heal_stage created holds stage intact
    rw [Node.perform_eq, docker]
    refine Procedure.ensures_map.2 (healed.leads.mono ?_)
    rintro o t ⟨⟨succeeded, well⟩, es, leads⟩
    have same : o.2 = .container c := @Physical.fault_keeps c (.heal fault) es o leads
    rw [same] at well ⊢
    refine ⟨succeeded, ?_, well⟩
    rw [← docker]
  exact heals.working

/-- Only the container as it was is sound. -/
theorem sound_left (docker : node.backend = .container c)
    (reached : Backend.Reached node.backend) (holds : e.Holds info c.name k')
    (stage : k.Stage info fault k') (intact : k.Intact) : node.backend.Sound e ↔ k' = k := by
  rw [Physical.sound_iff reached, ← stage.intact_iff intact, docker]
  refine Physical.matches_up.trans ?_
  rw [holds.found]
  constructor
  · rintro ⟨k'', same, running, awake, clear⟩
    rw [Option.some.inj same]
    exact ⟨running, awake, clear⟩
  · intro intact'
    exact ⟨k', rfl, intact'.running, intact'.awake, intact'.clear⟩

/-! ## Whole rounds -/

variable {peers : Peers outside σ} {m picked struck : Moment σ}

theorem picked_mem {α : Type} {l : List α} {a : α} (picks : (pick l).run peers m = (some a, picked)) :
    a ∈ l := by
  have leads := Procedure.leads_run peers (pick l) m
  rw [picks] at leads
  exact pick_mem leads

/-- Picking leaves all containers as they are. -/
theorem holds_picked {α : Type} {view : σ → Engine} (obey : peers.Obey view Lossy) {name : String}
    {l : List α} {a : Option α} (picks : (pick l).run peers m = (a, picked))
    (holds : (view m.state).Holds info name k) : (view picked.state).Holds info name k := by
  have kept := (holds_spared (pick_spares l) holds).run obey
  rwa [picks] at kept

/-- A fault that was brought about is healed once the engine works again. -/
theorem suffer_heals {view : σ → Engine × Bool} {held : Moment σ} (obey : peers.Obey view Unsteady)
    (docker : node.backend = .container c) (created : c.deployed = true)
    (place : u.replace cluster key node = u)
    (injected : (node.perform (fault.injection u.params.timeout)).run peers struck =
      ((.ok (), node), held))
    (recovered : (view held.state).2 = false) (holds : (view held.state).1.Holds info c.name k')
    (stage : k.Stage info fault k') (intact : k.Intact) (hold : Duration) :
    ∃ healed, (suffer u hold cluster key node fault).run peers struck = ((.ok (), u), healed) ∧
      node.backend.Well (view healed.state).1 := by
  have state : view held.state = ((view held.state).1, false) := by
    rw [← recovered]
  have heals := healed_working docker created holds stage intact hold
  rw [← state] at heals
  obtain ⟨succeeded, again, well⟩ := heals.run obey
  rw [suffer_held injected, Procedure.run_map]
  generalize (awaitShutdown hold >>= fun _ => node.perform fault.healing).run peers held = o at *
  obtain ⟨⟨r, node'⟩, healed⟩ := o
  cases succeeded
  cases again
  refine ⟨healed, ?_, well⟩
  rw [place]

/-- A node that was sound is so again after a round if and only if its fault was brought about, or
was not and nothing was done to its container either. Where bringing it about fails, that is the end
of the round, and the container is left at a stage of the fault. -/
theorem round_restores_iff {view : σ → Engine × Bool} (obey : peers.Obey view Unsteady)
    (reached : u.Reached)
    (picks : (pick u.nodes).run peers m = (some (cluster, key, node), picked))
    (picks' : (pick (Fault.supported node.backend)).run peers picked = (some fault, struck))
    (docker : node.backend = .container c) (sound : node.backend.Sound (view m.state).1)
    (recovers : (view ((node.perform (fault.injection u.params.timeout)).run peers
      struck).2.state).2 = false) (hold : Duration) :
    let injected := (node.perform (fault.injection u.params.timeout)).run peers struck
    let before := (view m.state).1.containers.find? c.name
    let left := (view injected.2.state).1.containers.find? c.name
    let done := (round u hold).run peers m
    (node.backend.Sound (view done.2.state).1 ↔ injected.1.1 = .ok () ∨ left = before) ∧
      done.1 = (injected.1.1, u) ∧
      (∀ err, injected.1.1 = .error err → done.2 = injected.2) ∧
      ∃ k k', before = some k ∧ left = some k' ∧ k.Stage (view m.state).1.info fault k' := by
  intro injected before left done
  have listed : (cluster, key, node) ∈ u.nodes := picked_mem picks
  have reached_node := reached.staffed.reached_nodes listed
  obtain ⟨found, member⟩ := reached.staffed.find_nodes listed
  have place : u.replace cluster key node = u := Universe.replace_found found member
  have fits := (Physical.sound_iff reached_node).1 sound
  rw [docker] at fits
  obtain ⟨k, found_k, running, awake, clear⟩ := Physical.matches_up.1 fits
  have intact : k.Intact := ⟨running, awake, clear⟩
  -- picking leaves the container as it is, and bringing the fault about leaves a stage of it
  have lossy : peers.Obey (fun s => (view s).1) Lossy := fun clock s c => (obey clock s c).lossy
  have holds : (view m.state).1.Holds (view m.state).1.info c.name k := ⟨rfl, found_k⟩
  have holds_struck := holds_picked lossy picks' (holds_picked lossy picks holds)
  obtain ⟨same, k', stage, holds_left⟩ :=
    (injected_lossy docker holds_struck intact u.params.timeout).run lossy
  have left_eq : left = some k' := holds_left.found
  have runs : done = (suffer u hold cluster key node fault).run peers struck :=
    round_run picks picks'
  have whole : injected = ((injected.1.1, node), injected.2) := by
    rw [← same]
  cases outcome : injected.1.1 with
  | error err =>
    rw [outcome] at whole
    have ends : done = ((.error err, u), injected.2) := by
      rw [runs, suffer_failed whole, place]
    refine ⟨?_, by rw [ends], fun _ _ => by rw [ends], k, k', found_k, left_eq, stage⟩
    rw [ends, sound_left docker reached_node holds_left stage intact, left_eq,
      show before = some k from found_k]
    simp
  | ok u' =>
    rw [outcome] at whole
    have created : c.deployed = true := by
      have created := Physical.reached_created reached_node
      rwa [docker] at created
    obtain ⟨healed, ends, well⟩ :=
      suffer_heals obey docker created place whole recovers holds_left stage intact hold
    rw [← runs] at ends
    refine ⟨?_, by rw [ends], nofun, k, k', found_k, left_eq, stage⟩
    rw [ends]
    exact iff_of_true ((Physical.sound_iff reached_node).2 well.fits) (.inl rfl)

/-! ## An engine that trips -/

/-- An engine of which one call fails, without an effect: the one of a number, counted from now on.
Beside it the first of everything is picked. -/
def tripping : Peers outside (Engine × Nat) where
  answer _ s call :=
    match call with
    | .engine c =>
      if s.2 = 1 then ((c.refuse (.internal "interrupted"), .zero), (s.1, 0))
      else (((s.1.perform c).1, .zero), ((s.1.perform c).2, s.2 - 1))
    | call => (((s.1.answerExactly call).1, .zero), ((s.1.answerExactly call).2, s.2))

/-- Whether the engine is still to trip. -/
def ahead (s : Engine × Nat) : Engine × Bool := (s.1, s.2 ≠ 0)

theorem tripping_obey : tripping.Obey ahead Unsteady := by
  intro clock s call
  obtain ⟨e, n⟩ := s
  have exact_step := Faultless.of_exact (Engine.peers_obey clock e call)
  rcases n with _ | _ | n
  · cases call <;> exact .working exact_step
  · cases call with
    | engine c => exact .failing false (.failed (.refused c _) (.inl rfl))
    | _ => exact .failing true exact_step.lossy
  · cases call <;> exact .failing true exact_step.lossy

theorem tripping_picks {α : Type} {l : List α} {a : α} (first : l.head? = some a)
    (m : Moment (Engine × Nat)) : (pick l).run tripping m = (some a, m) := by
  obtain ⟨rest, rfl⟩ := List.head?_eq_some_iff.1 first
  rfl

/-- What a round leaves of two nodes when the third rule for the first of them is not put in
place. -/
def trippedPair : UniverseOutcome Unit × Moment (Engine × Nat) :=
  (round deployedPair.1.2 .zero).run tripping ⟨.zero, deployedPair.2.state, 7⟩

/-- The round is one in which only bringing the fault about fails, on a node that was sound. -/
theorem trippedPair_first :
    let u := deployedPair.1.2
    let m : Moment (Engine × Nat) := ⟨.zero, deployedPair.2.state, 7⟩
    ∃ (cluster : Cluster Physical) (key : String) (node : Node Physical) (c : Container),
      (pick u.nodes).run tripping m = (some (cluster, key, node), m) ∧
      (pick (Fault.supported node.backend)).run tripping m = (some .partition, m) ∧
      node.backend = .container c ∧ node.backend.Sound (ahead m.state).1 ∧
      (ahead ((node.perform (Fault.partition.injection u.params.timeout)).run tripping
        m).2.state).2 = false ∧
      ¬ node.backend.Sound (ahead trippedPair.2.state).1 := by
  intro u m
  have looked : u.nodes.head?.any (fun x => x.2.2.backend.container?.isSome &&
      ((Backend.state x.2.2.backend).run Engine.peers ⟨.zero, m.state.1⟩).1.toOption =
        some .running &&
      ((Backend.faultRules x.2.2.backend).run Engine.peers ⟨.zero, m.state.1⟩).1.toOption =
        some [] &&
      !(ahead ((x.2.2.perform (Fault.partition.injection u.params.timeout)).run tripping
        m).2.state).2 &&
      ((Backend.faultRules x.2.2.backend).run Engine.peers
        ⟨.zero, trippedPair.2.state.1⟩).1.toOption ≠ some []) = true := by
    decide +kernel
  obtain ⟨⟨cluster, key, node⟩, first, facts⟩ := (Option.any_eq_true _ _).1 looked
  simp only [Bool.and_eq_true, Bool.not_eq_true', decide_eq_true_eq] at facts
  obtain ⟨⟨⟨⟨contained, running⟩, clear⟩, recovers⟩, rules⟩ := facts
  obtain ⟨params, endpoint, backend⟩ := node
  cases backend with
  | process p => cases contained
  | container c =>
    have sound : (Physical.container c).Sound m.state.1 :=
      ⟨toOption_eq_some.1 running, toOption_eq_some.1 clear⟩
    refine ⟨cluster, key, _, c, tripping_picks first m, tripping_picks rfl m, rfl, sound, recovers,
      fun still => rules ?_⟩
    rw [toOption_eq_some]
    exact still.clear

/-- A round that trips over the third rule leaves the first two. -/
theorem round_restores_iff_tripped :
    let u := deployedPair.1.2
    let m : Moment (Engine × Nat) := ⟨.zero, deployedPair.2.state, 7⟩
    ∃ (node : Node Physical) (c : Container), node.backend = .container c ∧
      let injected := (node.perform (Fault.partition.injection u.params.timeout)).run tripping m
      let before := m.state.1.containers.find? c.name
      let left := injected.2.state.1.containers.find? c.name
      (node.backend.Sound trippedPair.2.state.1 ↔ injected.1.1 = .ok () ∨ left = before) ∧
        trippedPair.1 = (injected.1.1, u) ∧
        (∀ err, injected.1.1 = .error err → trippedPair.2 = injected.2) ∧
        ∃ k k', before = some k ∧ left = some k' ∧ k.Stage m.state.1.info .partition k' := by
  intro u m
  obtain ⟨cluster, key, node, c, picks, picks', docker, sound, recovers, -⟩ := trippedPair_first
  exact ⟨node, c, docker, round_restores_iff tripping_obey deployedPair_reached picks picks' docker
    sound recovers .zero⟩

/-- Not every node that was sound is so again after a round in which only bringing the fault about
failed. -/
theorem partition_stays_in_part :
    ¬ ∀ (peers : Peers outside (Engine × Nat)) (view : Engine × Nat → Engine × Bool)
        (u : Universe) (cluster : Cluster Physical) (key : String) (node : Node Physical)
        (c : Container) (fault : Fault) (m picked struck : Moment (Engine × Nat))
        (hold : Duration), peers.Obey view Unsteady → u.Reached →
      (pick u.nodes).run peers m = (some (cluster, key, node), picked) →
      (pick (Fault.supported node.backend)).run peers picked = (some fault, struck) →
      node.backend = .container c → node.backend.Sound (view m.state).1 →
      (view ((node.perform (fault.injection u.params.timeout)).run peers
        struck).2.state).2 = false →
      node.backend.Sound (view ((round u hold).run peers m).2.state).1 := by
  intro restores
  obtain ⟨cluster, key, node, c, picks, picks', docker, sound, recovers, stays⟩ := trippedPair_first
  exact stays (restores tripping ahead deployedPair.1.2 cluster key node c .partition _ _ _ .zero
    tripping_obey deployedPair_reached picks picks' docker sound recovers)

end FaultLoop

end Testbed
