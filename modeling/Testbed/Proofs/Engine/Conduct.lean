import Testbed.Lab.Engine
import Testbed.Proofs.NameMap
import Testbed.Proofs.Procedure.Conduct
/-!
# Engines that fail

`Engine.perform` is an engine by itself. A `Faulty` engine may refuse any call with an error that is
allowed, its packet filter may fail to add or to flush rules, and before every call containers may
go down. An `Exact` engine does none of this, and shells do what they are told.

What a call does to one container is told by `find?_create` and its like; the container that a call
is not about is left as it is (`find?_perform_other`). There is a container only where one was
created and not removed (`Faulty.has`, `Faulty.remove`).
-/

namespace Testbed

/-- The container that a call changes. -/
def EngineCall.target? : EngineCall → Option String
  | .create spec => some spec.name
  | .start c | .stop c _ | .kill c | .pause c | .unpause c | .restart c | .remove c | .exec c _
  | .connect c _ => some c
  | .logs _ | .inspect _ | .networkInfo _ | .ensureNetwork _ | .removeNetwork _ => none

/-- A container of the name came into being. -/
def Event.Creates (name : String) (ev : Event outside) : Prop :=
  ∃ spec id, spec.name = name ∧ ev = ⟨.engine (.create spec), .ok id⟩

namespace Lab.Engine

variable {e : Engine} {name other : String}

/-! ## What one call does -/

theorem find?_withContainer {α : Type}
    {f : SimulatedContainer → Except Error α × SimulatedContainer} :
    (e.withContainer other f).2.containers.find? name =
      if name = other then (e.containers.find? name).map fun c => (f c).2
      else e.containers.find? name := by
  unfold withContainer
  split
  · rename_i missing
    split
    · rename_i same
      rw [same, missing]
      rfl
    · rfl
  · rename_i c found
    simp only [NameMap.find?_insert]
    split
    · rename_i same
      rw [same, found]
      rfl
    · rfl

theorem find?_update {f : SimulatedContainer → SimulatedContainer} :
    (e.update other f).2.containers.find? name =
      if name = other then (e.containers.find? name).map f else e.containers.find? name :=
  find?_withContainer

theorem find?_updated {f : SimulatedContainer → SimulatedContainer} {c : SimulatedContainer}
    (found : e.containers.find? name = some c) :
    (e.update name f).2.containers.find? name = some (f c) := by
  rw [find?_update, if_pos rfl, found]
  rfl

theorem find?_create {spec : ContainerSpec} :
    (e.create spec).2.containers.find? name =
      if name = spec.name ∧ e.containers.find? name = none then some (.ofSpec spec)
      else e.containers.find? name := by
  unfold create
  split
  · rename_i taken
    obtain ⟨c, found⟩ := NameMap.contains_iff.1 taken
    split
    · rename_i both
      rw [both.1, found] at both
      cases both.2
    · rfl
  · rename_i vacant
    rw [Bool.not_eq_true, NameMap.contains_eq_false_iff] at vacant
    simp only [NameMap.find?_insert]
    by_cases same : name = spec.name
    · rw [same, vacant]
      simp
    · simp [same]

theorem find?_remove :
    (e.remove other).2.containers.find? name =
      if name = other then none else e.containers.find? name := by
  unfold remove
  split
  · exact NameMap.find?_erase
  · rename_i missing
    rw [Bool.not_eq_true, NameMap.contains_eq_false_iff] at missing
    split
    · rename_i same
      rw [same]
      exact missing
    · rfl

theorem find?_exec {cmd : List String} :
    (e.exec other cmd).2.containers.find? name =
      if name = other then (e.containers.find? name).map fun c =>
        if !c.running || c.paused then c else (c.exec cmd).2
      else e.containers.find? name := by
  unfold exec
  rw [find?_withContainer]
  congr 2
  funext c
  split <;> rfl

/-- A call leaves a container alone that it is not about. -/
theorem find?_perform_other {c : EngineCall} (aside : c.target? ≠ some name) :
    (e.perform c).2.containers.find? name = e.containers.find? name := by
  cases c with
  | create spec =>
    have ne : name ≠ spec.name := fun eq => aside (eq ▸ rfl)
    simp [perform, find?_create, ne]
  | remove n =>
    have ne : name ≠ n := fun eq => aside (eq ▸ rfl)
    simp [perform, find?_remove, ne]
  | exec n cmd =>
    have ne : name ≠ n := fun eq => aside (eq ▸ rfl)
    simp [perform, find?_exec, ne]
  | start n | stop n d | kill n | pause n | unpause n | restart n | connect n network =>
    have ne : name ≠ n := fun eq => aside (eq ▸ rfl)
    simp [perform, find?_update, ne]
  | logs n =>
    simp only [perform, find?_withContainer]
    split
    · exact Option.map_id'
    · rfl
  | removeNetwork n =>
    simp only [perform, removeNetwork]
    split <;> rfl
  | inspect n | networkInfo n | ensureNetwork n => rfl

theorem info_withContainer {α : Type}
    {f : SimulatedContainer → Except Error α × SimulatedContainer} :
    (e.withContainer name f).2.info = e.info := by
  unfold withContainer
  split <;> rfl

@[simp]
theorem info_perform {c : EngineCall} : (e.perform c).2.info = e.info := by
  cases c with
  | create spec =>
    simp only [perform, create]
    split <;> rfl
  | remove n =>
    simp only [perform, remove]
    split <;> rfl
  | removeNetwork n =>
    simp only [perform, removeNetwork]
    split <;> rfl
  | start n | stop n d | kill n | pause n | unpause n | restart n | connect n network
  | exec n cmd | logs n => exact info_withContainer
  | inspect n | networkInfo n | ensureNetwork n => rfl

/-! ## Containers that go down -/

/-- Containers go down on their own. -/
def crash (e : Engine) (names : List String) : Engine :=
  names.foldl (fun e n => (e.perform (.kill n)).2) e

@[simp]
theorem info_crash {names : List String} : (e.crash names).info = e.info := by
  induction names generalizing e with
  | nil => rfl
  | cons n names ih => exact ih.trans info_perform

theorem find?_crash {names : List String} :
    (e.crash names).containers.find? name =
      if name ∈ names then (e.containers.find? name).map .down else e.containers.find? name := by
  induction names generalizing e with
  | nil => rfl
  | cons n names ih =>
    have first : (e.perform (.kill n)).2.containers.find? name = _ := find?_update
    change ((e.perform (.kill n)).2.crash names).containers.find? name = _
    rw [ih, first]
    by_cases same : name = n
    · subst same
      by_cases mem : name ∈ names
      · simp only [mem, if_true, List.mem_cons, true_or, Option.map_map]
        rfl
      · simp [mem]
    · simp [same]

/-! ## Which containers there are -/

def Has (e : Engine) (name : String) : Prop := ∃ k, e.containers.find? name = some k

theorem has_crash {names : List String} : (e.crash names).Has name ↔ e.Has name := by
  unfold Has
  rw [find?_crash]
  split
  · cases e.containers.find? name <;> simp
  · rfl

theorem create_answer {spec : ContainerSpec} (vacant : e.containers.find? spec.name = none) :
    (e.create spec).1 = .ok ("id-" ++ spec.name) := by
  unfold create
  rw [NameMap.contains_eq_false_iff.2 vacant]
  rfl

/-- A container that there is now was there before, or was created just now. -/
theorem has_perform {c : EngineCall} (there : (e.perform c).2.Has name) :
    e.Has name ∨ Event.Creates name ⟨.engine c, (e.perform c).1⟩ := by
  obtain ⟨k, found⟩ := there
  cases c with
  | create spec =>
    rw [perform, find?_create] at found
    split at found
    · rename_i new
      obtain ⟨rfl, vacant⟩ := new
      refine .inr ⟨spec, "id-" ++ spec.name, rfl, ?_⟩
      rw [perform, create_answer vacant]
    · exact .inl ⟨k, found⟩
  | remove n =>
    rw [perform, find?_remove] at found
    split at found
    · cases found
    · exact .inl ⟨k, found⟩
  | exec n cmd =>
    rw [perform, find?_exec] at found
    split at found
    · obtain ⟨k', found, -⟩ := Option.map_eq_some_iff.1 found
      exact .inl ⟨k', found⟩
    · exact .inl ⟨k, found⟩
  | start n | stop n d | kill n | pause n | unpause n | restart n | connect n network =>
    rw [perform, find?_update] at found
    split at found
    · obtain ⟨k', found, -⟩ := Option.map_eq_some_iff.1 found
      exact .inl ⟨k', found⟩
    · exact .inl ⟨k, found⟩
  | logs n | inspect n | networkInfo n | ensureNetwork n | removeNetwork n =>
    rw [find?_perform_other (by simp [EngineCall.target?])] at found
    exact .inl ⟨k, found⟩

/-! ## Conduct -/

/-- The conduct of an engine that may fail, with the given errors only. Other peers do as they like,
but leave its containers alone, which may go down at any time. -/
inductive Faulty (allowed : Error → Prop) : Conduct outside Engine
  | performed {e : Engine} (names : List String) (c : EngineCall) :
      Faulty allowed e ⟨.engine c, ((e.crash names).perform c).1⟩ ((e.crash names).perform c).2
  | refused {e : Engine} (names : List String) (c : EngineCall) {err : Error} :
      allowed err → Faulty allowed e ⟨.engine c, c.refuse err⟩ (e.crash names)
  | unfiltered {e : Engine} (names : List String) {name action : String} {rest : List String}
      {output : CommandOutput} : action = "-A" ∨ action = "-F" → output.success = false →
      Faulty allowed e ⟨.engine (.exec name ("iptables" :: action :: rest)), .ok output⟩
        (e.crash names)
  | elsewhere {e : Engine} (names : List String) {ev : Event outside} :
      (∀ c, ev.call ≠ .engine c) → Faulty allowed e ev (e.crash names)

/-- The conduct of an engine without failures, beside a shell of which the same is true. -/
inductive Exact : Conduct outside Engine
  | performed {e : Engine} (c : EngineCall) :
      Exact e ⟨.engine c, (e.perform c).1⟩ (e.perform c).2
  | ran {e : Engine} {host cmd : String} {output : CommandOutput} :
      output.success = true → Exact e ⟨.shell (.run host cmd), .ok output⟩ e
  | elsewhere {e : Engine} {ev : Event outside} :
      (∀ c, ev.call ≠ .engine c) → (∀ host cmd, ev.call ≠ .shell (.run host cmd)) → Exact e ev e

theorem Exact.faulty {allowed : Error → Prop} {e t : Engine} {ev : Event outside}
    (step : Exact e ev t) : Faulty allowed e ev t := by
  cases step with
  | performed c => exact .performed [] c
  | ran _ => exact .elsewhere [] (fun c h => by cases h)
  | elsewhere other _ => exact .elsewhere [] other

theorem Exact.engine {e t : Engine} {c : EngineCall} {a : c.Answer}
    (step : Exact e ⟨.engine c, a⟩ t) : a = (e.perform c).1 ∧ t = (e.perform c).2 := by
  cases step with
  | performed c => exact ⟨rfl, rfl⟩
  | elsewhere other _ => exact absurd rfl (other c)

theorem Faulty.has {allowed : Error → Prop} {e t : Engine} {ev : Event outside}
    (step : Faulty allowed e ev t) (there : t.Has name) : e.Has name ∨ ev.Creates name := by
  cases step with
  | performed names c => exact (has_perform there).imp_left has_crash.1
  | refused names c _ | unfiltered names _ _ | elsewhere names _ => exact .inl (has_crash.1 there)

/-- The conduct of an engine of which any call may fail, but none without an effect that it should
have. Other peers leave its containers alone. -/
inductive Fallible : Conduct outside Engine
  | performed {e : Engine} (c : EngineCall) :
      Fallible e ⟨.engine c, (e.perform c).1⟩ (e.perform c).2
  | refused {e : Engine} (c : EngineCall) (err : Error) : Fallible e ⟨.engine c, c.refuse err⟩ e
  | elsewhere {e : Engine} {ev : Event outside} : (∀ c, ev.call ≠ .engine c) → Fallible e ev e

theorem Fallible.engine {e t : Engine} {c : EngineCall} {a : c.Answer}
    (step : Fallible e ⟨.engine c, a⟩ t) :
    a = (e.perform c).1 ∧ t = (e.perform c).2 ∨ (∃ err, a = c.refuse err) ∧ t = e := by
  cases step with
  | performed c => exact .inl ⟨rfl, rfl⟩
  | refused c err => exact .inr ⟨⟨err, rfl⟩, rfl⟩
  | elsewhere other => exact absurd rfl (other c)

/-- A container is gone unless its removal fails with an error that is allowed. -/
theorem Faulty.remove {allowed : Error → Prop} {e t : Engine} {a : Except Error Unit}
    (step : Faulty allowed e ⟨.engine (.remove name), a⟩ t) :
    ¬t.Has name ∨ ∃ err, a = .error err ∧ allowed err := by
  cases step with
  | performed names c =>
    left
    rintro ⟨k, found⟩
    rw [perform, find?_remove, if_pos rfl] at found
    cases found
  | refused names c ok => exact .inr ⟨_, rfl, ok⟩
  | elsewhere names other => exact absurd rfl (other _)

/-- An engine without failures, beside peers that let everything succeed at once. -/
def answerExactly (e : Engine) : (c : Call) → c.Answer × Engine
  | .engine c => e.perform c
  | .shell (.run _ _) => (.ok ⟨"", 0⟩, e)
  | .shell (.copy _ _ _) => (.ok (), e)
  | .hypervisor c => (c.refuse (.internal "no hypervisor"), e)
  | .file _ => (.ok (), e)
  | .program _ _ => (.ok ⟨.code 0, []⟩, e)
  | .bootstrap _ => (.ok (), e)
  | .act _ _ => (some (.ok ()), e)
  | .abandon _ => ((), e)
  | .freshId => (.ofRandom 0, e)
  | .timeStamp => ("", e)
  | .pick _ => (⟨0, Nat.succ_pos _⟩, e)
  | .awaitShutdown _ => (true, e)

def peers : Peers outside Engine :=
  ⟨fun _ e c => (((e.answerExactly c).1, .zero), (e.answerExactly c).2)⟩

theorem peers_obey : peers.Obey id Exact := by
  intro clock e c
  cases c with
  | engine c => exact .performed c
  | shell c =>
    cases c with
    | run host cmd => exact .ran rfl
    | copy host source target => exact .elsewhere (fun _ h => by cases h) (fun _ _ h => by cases h)
  | hypervisor c | file c | program name args | bootstrap r | act node action | abandon n | freshId
  | timeStamp | pick n | awaitShutdown limit =>
    exact .elsewhere (fun _ h => by cases h) (fun _ _ h => by cases h)

/-! ## Containers that are up -/

/-- The container runs commands. -/
def Up (e : Engine) (name : String) : Prop :=
  ∃ k, e.containers.find? name = some k ∧ k.running = true ∧ k.paused = false

theorem SimulatedContainer.exec_status (k : SimulatedContainer) (cmd : List String) :
    (k.exec cmd).2.status = k.status := by
  unfold SimulatedContainer.exec
  split
  · unfold SimulatedContainer.filter
    split <;> rfl
  · rfl

/-- A command in a container that is up is carried out, and the container stays up. -/
theorem Exact.exec {e t : Engine} {cmd : List String} {a : Except Error CommandOutput}
    {k : SimulatedContainer} (step : Exact e ⟨.engine (.exec name cmd), a⟩ t)
    (found : e.containers.find? name = some k) (running : k.running = true)
    (paused : k.paused = false) :
    a = .ok (k.exec cmd).1 ∧ t.containers.find? name = some (k.exec cmd).2 := by
  obtain ⟨rfl, rfl⟩ := step.engine
  constructor
  · simp [perform, Engine.exec, withContainer, found, running, paused]
  · simp [perform, find?_exec, found, running, paused]

/-- A command in a container that is down fails and changes nothing. -/
theorem Exact.exec_down {e t : Engine} {cmd : List String} {a : Except Error CommandOutput}
    {k : SimulatedContainer} (step : Exact e ⟨.engine (.exec name cmd), a⟩ t)
    (found : e.containers.find? name = some k) (down : k.running = false ∨ k.paused = true) :
    (∃ err, a = .error err) ∧ t.containers.find? name = some k := by
  obtain ⟨rfl, rfl⟩ := step.engine
  constructor
  · simp [perform, Engine.exec, withContainer, found, down]
  · simp [perform, find?_exec, found, down]

theorem Exact.up {e t : Engine} {cmd : List String} {a : Except Error CommandOutput}
    (step : Exact e ⟨.engine (.exec name cmd), a⟩ t) (up : e.Up name) :
    (∃ k : SimulatedContainer, a = .ok (k.exec cmd).1) ∧ t.Up name := by
  obtain ⟨k, found, running, paused⟩ := up
  obtain ⟨answer, after⟩ := step.exec found running paused
  have status := SimulatedContainer.exec_status k cmd
  have same := ContainerStatus.mk.inj status
  exact ⟨⟨k, answer⟩, _, after, same.1.trans running, same.2.trans paused⟩

end Lab.Engine

end Testbed
