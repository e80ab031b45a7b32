import Testbed.Lab.World
import Testbed.Proofs.Engine.Conduct
/-!
# Engines that are shared

Others keep containers on the same engine, and a container that the testbed abandons is killed at
some later time. A `Communal` engine may fail before or after it carried a call out, and may answer
what it likes, but it creates no container in the place of another. So a container stays as it is that
was there before, that others leave alone, and that no call of the testbed is about (`Kept.step`).

The engine in memory is shared in this sense, whatever failures it is told to inject
(`World.peers_shared`).
-/

namespace Testbed

open Lab (Engine SimulatedContainer World)

/-- An engine and the containers that are still to be killed in the background. -/
structure Daemon where
  engine : Engine
  abandoned : List String

namespace Daemon

def find? (d : Daemon) (name : String) : Option SimulatedContainer :=
  d.engine.containers.find? name

/-- What goes on in the background. Abandoned containers are killed, and others do as they like with
the containers that they do not leave alone. -/
structure Drift (alone : String → Prop) (d d' : Daemon) : Prop where
  abandoned : ∀ name ∈ d'.abandoned, name ∈ d.abandoned
  kept : ∀ name, alone name → name ∉ d.abandoned → d'.find? name = d.find? name

variable {alone : String → Prop} {name : String} {k : SimulatedContainer} {d d' d'' : Daemon}

theorem Drift.refl (d : Daemon) : Drift alone d d := ⟨fun _ mem => mem, fun _ _ _ => rfl⟩

theorem Drift.trans (first : Drift alone d d') (second : Drift alone d' d'') :
    Drift alone d d'' where
  abandoned name mem := first.abandoned name (second.abandoned name mem)
  kept name left spared := by
    have still : name ∉ d'.abandoned := fun mem => spared (first.abandoned name mem)
    rw [second.kept name left still, first.kept name left spared]

end Daemon

/-- An engine that has a container of the name does not say that it created one. -/
def EngineCall.Honest (e : Engine) : (c : EngineCall) → c.Answer → Prop
  | .create spec, .ok _ => e.containers.find? spec.name = none
  | _, _ => True

/-- The conduct of an engine that others use as well. They leave some containers alone. -/
inductive Communal (alone : String → Prop) : Conduct outside Daemon
  | carriedOut {d d' : Daemon} {c : EngineCall} {a : c.Answer} :
      d.Drift alone d' → c.Honest d'.engine a →
      Communal alone d ⟨.engine c, a⟩ { d' with engine := (d'.engine.perform c).2 }
  | ignored {d d' : Daemon} {c : EngineCall} {a : c.Answer} :
      d.Drift alone d' → c.Honest d'.engine a → Communal alone d ⟨.engine c, a⟩ d'
  | abandoned {d d' : Daemon} {name : String} :
      d.Drift alone d' →
      Communal alone d ⟨.abandon name, ()⟩ { d' with abandoned := d'.abandoned ++ [name] }
  | elsewhere {d d' : Daemon} {ev : Event outside} :
      (∀ c, ev.call ≠ .engine c) → (∀ name, ev.call ≠ .abandon name) → d.Drift alone d' →
      Communal alone d ev d'

/-- Who leaves more containers alone leaves fewer alone. -/
theorem Communal.mono {alone alone' : String → Prop} {d d' : Daemon} {ev : Event outside}
    (fewer : ∀ name, alone' name → alone name) (call : Communal alone d ev d') :
    Communal alone' d ev d' := by
  have drift {d d' : Daemon} (drift : d.Drift alone d') : d.Drift alone' d' :=
    ⟨drift.abandoned, fun name left => drift.kept name (fewer name left)⟩
  cases call with
  | carriedOut background honest => exact .carriedOut (drift background) honest
  | ignored background honest => exact .ignored (drift background) honest
  | abandoned background => exact .abandoned (drift background)
  | elsewhere other unabandoned background =>
    exact .elsewhere other unabandoned (drift background)

/-! ## Containers that stay as they are -/

/-- The call leaves the container alone. -/
def Call.Spares (name : String) : Call → Prop
  | .engine c => c.target? ≠ some name
  | .abandon c => c ≠ name
  | _ => True

theorem Communal.spared {alone : String → Prop} {name : String} {d d' : Daemon} {ev : Event outside}
    (call : Communal alone d ev d') (left : alone name) (spares : ev.call.Spares name)
    (spared : name ∉ d.abandoned) : d'.find? name = d.find? name ∧ name ∉ d'.abandoned := by
  have background {d' : Daemon} (drift : d.Drift alone d') :
      d'.find? name = d.find? name ∧ name ∉ d'.abandoned :=
    ⟨drift.kept name left spared, fun mem => spared (drift.abandoned name mem)⟩
  cases call with
  | carriedOut drift _ =>
    obtain ⟨same, spared⟩ := background drift
    exact ⟨(Engine.find?_perform_other spares).trans same, spared⟩
  | ignored drift _ => exact background drift
  | abandoned drift =>
    obtain ⟨same, spared⟩ := background drift
    refine ⟨same, fun mem => ?_⟩
    rcases List.mem_append.1 mem with mem | mem
    · exact spared mem
    · exact spares (List.mem_singleton.1 mem).symm
  | elsewhere _ _ drift => exact background drift

/-- The container is there as it was, and nobody is going to kill it. -/
structure Kept (name : String) (k : SimulatedContainer) (d : Daemon) : Prop where
  found : d.find? name = some k
  spared : name ∉ d.abandoned

namespace Kept

variable {alone : String → Prop} {name : String} {k : SimulatedContainer} {d d' : Daemon}

theorem drift (kept : Kept name k d) (background : d.Drift alone d') (left : alone name) :
    Kept name k d' where
  found := (background.kept name left kept.spared).trans kept.found
  spared mem := kept.spared (background.abandoned name mem)

theorem step {ev : Event outside} (kept : Kept name k d) (spares : ev.call.Spares name)
    (call : Communal alone d ev d') (left : alone name) : Kept name k d' := by
  obtain ⟨same, spared⟩ := call.spared left spares kept.spared
  exact ⟨same.trans kept.found, spared⟩

/-- A container that is there is not created, and is not changed by the attempt. -/
theorem create {spec : ContainerSpec} {a : Except Error String} (kept : Kept name k d)
    (same : spec.name = name) (call : Communal alone d ⟨.engine (.create spec), a⟩ d')
    (left : alone name) :
    (∃ e, a = .error e) ∧ Kept name k d' := by
  have refused {d' : Daemon} (before : Kept name k d')
      (honest : EngineCall.Honest d'.engine (.create spec) a) : ∃ e, a = .error e := by
    cases a with
    | error e => exact ⟨e, rfl⟩
    | ok id =>
      have vacant : d'.find? spec.name = none := honest
      rw [same, before.found] at vacant
      cases vacant
  cases call with
  | carriedOut background honest =>
    have before := kept.drift background left
    refine ⟨refused before honest, ?_, before.spared⟩
    have taken := before.found
    unfold Daemon.find? at taken ⊢
    simp only [Engine.perform, Engine.find?_create, taken]
    simp
  | ignored background honest =>
    have before := kept.drift background left
    exact ⟨refused before honest, before⟩
  | elsewhere other _ _ => exact absurd rfl (other _)

end Kept

/-! ## The engine in memory -/

namespace Lab

namespace Engine

variable {e : Engine} {c : EngineCall} {alone : String → Prop} {abandoned : List String}

theorem honest_refuse (err : Error) : c.Honest e (c.refuse err) := by
  cases c <;> trivial

theorem honest_perform : c.Honest e (e.perform c).1 := by
  cases c with
  | create spec =>
    change EngineCall.Honest e (.create spec) (e.create spec).1
    by_cases taken : e.containers.contains spec.name = true
    · rw [create, if_pos taken]
      trivial
    · rw [create, if_neg taken]
      exact NameMap.contains_eq_false_iff.1 (Bool.eq_false_iff.2 taken)
  | start n | stop n d | kill n | pause n | unpause n | restart n | remove n | exec n cmd
  | inspect n | connect n network | networkInfo n | ensureNetwork n | removeNetwork n | logs n =>
    trivial

/-- Writing a log and using up rules leaves the containers alone. -/
theorem drift_of_containers {e' : Engine} (same : e'.containers = e.containers) :
    Daemon.Drift alone ⟨e, abandoned⟩ ⟨e', abandoned⟩ :=
  ⟨fun _ mem => mem, fun name _ _ => congrArg (·.find? name) same⟩

/-- Calls are carried out or ignored, whatever the rules make of the answers. -/
theorem answer_shared :
    Communal alone ⟨e, abandoned⟩ ⟨.engine c, (e.answer c).1⟩ ⟨(e.answer c).2, abandoned⟩ := by
  have performed {e' : Engine} (same : e'.containers = e.containers) :
      Communal alone ⟨e, abandoned⟩ ⟨.engine c, (e'.perform c).1⟩ ⟨(e'.perform c).2, abandoned⟩ :=
    .carriedOut (drift_of_containers same) honest_perform
  unfold answer
  dsimp only
  generalize deviate (callName c) (callText c) e.rules = deviation
  obtain _ | ⟨d, rules⟩ := deviation
  · exact performed rfl
  dsimp only
  generalize d.injection = injection
  obtain _ | i := injection
  · cases c with
    | exec n cmd =>
      dsimp only [performWith]
      generalize d.output? = output
      cases output with
      | none => exact performed rfl
      | some output => exact .ignored (drift_of_containers rfl) trivial
    | logs n =>
      dsimp only [performWith]
      generalize d.stdout = text
      cases text with
      | none => exact performed rfl
      | some text => exact .ignored (drift_of_containers rfl) trivial
    | inspect n => exact .ignored (drift_of_containers rfl) trivial
    | create spec | start n | stop n d | kill n | pause n | unpause n | restart n | remove n
    | connect n network | networkInfo n | ensureNetwork n | removeNetwork n =>
      exact performed rfl
  · exact .ignored (drift_of_containers rfl) (honest_refuse _)

end Engine

namespace World

def daemon (w : World) : Daemon := ⟨w.engine, w.abandoned⟩

theorem settle_kept {name : String} {names : List String} {e : Engine} (spared : name ∉ names) :
    (names.foldl (fun e c => (e.answer (.kill c)).2) e).containers.find? name =
      e.containers.find? name := by
  induction names generalizing e with
  | nil => rfl
  | cons n names ih =>
    have other : n ≠ name := fun same => spared (same ▸ List.mem_cons_self)
    have later : name ∉ names := fun mem => spared (List.mem_cons_of_mem _ mem)
    have call : Communal (fun _ => True) ⟨e, []⟩ ⟨.engine (.kill n), (e.answer (.kill n)).1⟩
        ⟨(e.answer (.kill n)).2, []⟩ := Engine.answer_shared
    have spares : Call.Spares name (.engine (.kill n)) := fun same => other (Option.some.inj same)
    rw [List.foldl_cons, ih later]
    exact (call.spared trivial spares (List.not_mem_nil)).1

/-- Killing the abandoned containers goes on in the background. -/
theorem settle_drift (w : World) (alone : String → Prop) : w.daemon.Drift alone w.settle.daemon where
  abandoned name mem := by cases mem
  kept name _ spared := settle_kept spared

/-- Nobody but the testbed uses the engine in memory. -/
theorem peers_shared (alone : String → Prop) : peers.Obey daemon (Communal alone) := by
  intro clock w c
  cases c with
  | engine c => exact Engine.answer_shared
  | abandon name => exact .abandoned (.refl _)
  | file c | program name args =>
    exact .elsewhere (fun _ h => by cases h) (fun _ h => by cases h) (w.settle_drift alone)
  | bootstrap r =>
    have same : (w.bootstrap r).2.daemon = w.daemon := by
      unfold bootstrap
      dsimp only
      split <;> rfl
    have drift : w.daemon.Drift alone (w.bootstrap r).2.daemon := by
      rw [same]
      exact .refl _
    exact .elsewhere (fun _ h => by cases h) (fun _ h => by cases h) drift
  | shell c | hypervisor c | act node action | freshId | timeStamp | pick n
  | awaitShutdown limit =>
    exact .elsewhere (fun _ h => by cases h) (fun _ h => by cases h) (.refl _)

end World

end Lab

end Testbed
