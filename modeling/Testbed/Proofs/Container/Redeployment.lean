import Mathlib.Data.List.Basic
import Testbed.Proofs.Container.Guard
import Testbed.Proofs.Engine.Sharing
/-!
# Containers that are deployed once more

A container that is abandoned is killed by its name and at some later time, when another container may
have the name. On a `Delayed` engine, from which others may take containers away, a deployment that
succeeds leaves a container that is up. It stays up while abandoned containers are killed, unless it is
to be killed itself (`Delayed.started`, `Daemon.Elapses.spared`).

That is so only after a deployment that took the place of a container which was still owed to be taken
away: there and nowhere else the backend abandons what has its own name (`abandons_iff`). A container
that was removed by its backend is deployed once more without that (`redeployed_until_killed`).
-/

namespace Testbed

open Lab (Engine SimulatedContainer)

/-! ## What goes on in the background -/

namespace Daemon

/-- What goes on between calls. Others take containers away if they may, and abandoned containers are
killed, in any order. -/
inductive Elapses (taken : String → Prop) : Daemon → Daemon → Prop
  | still (d : Daemon) : Elapses taken d d
  | removed {e : Engine} {abandoned : List String} {d' : Daemon} (n : String) : taken n →
      Elapses taken ⟨(e.perform (.remove n)).2, abandoned⟩ d' → Elapses taken ⟨e, abandoned⟩ d'
  | killed {e : Engine} {before after : List String} {d' : Daemon} (n : String) :
      Elapses taken ⟨(e.perform (.kill n)).2, before ++ after⟩ d' →
        Elapses taken ⟨e, before ++ n :: after⟩ d'

/-- All that are abandoned are killed. -/
def settle (d : Daemon) : Daemon :=
  ⟨d.abandoned.foldl (fun e n => (e.perform (.kill n)).2) d.engine, []⟩

/-- The container runs and is not paused. -/
def Up (name : String) (d : Daemon) : Prop := (d.find? name).map (·.status) = some ⟨true, false⟩

instance (name : String) (d : Daemon) : Decidable (d.Up name) :=
  inferInstanceAs (Decidable (_ = _))

/-- If there is a container of the name then it is not paused. -/
def Unpaused (name : String) (d : Daemon) : Prop := ∀ k, d.find? name = some k → k.paused = false

variable {taken : String → Prop} {name n : String} {d d' : Daemon} {e : Engine} {l : List String}

theorem find?_removed : find? ⟨(e.perform (.remove n)).2, l⟩ name =
    if name = n then none else find? ⟨e, l⟩ name :=
  Engine.find?_remove

theorem find?_killed : find? ⟨(e.perform (.kill n)).2, l⟩ name =
    if name = n then (find? ⟨e, l⟩ name).map .down else find? ⟨e, l⟩ name :=
  Engine.find?_update

theorem Elapses.abandoned (elapses : d.Elapses taken d') (mem : n ∈ d'.abandoned) :
    n ∈ d.abandoned := by
  induction elapses with
  | still d => exact mem
  | removed _ _ _ ih => exact ih mem
  | @killed e before after d' m _ ih =>
    rcases List.mem_append.1 (ih mem) with first | last
    · exact List.mem_append_left _ first
    · exact List.mem_append_right _ (List.mem_cons_of_mem _ last)

/-- A container that nobody takes away and that is not abandoned stays as it is. -/
theorem Elapses.spared (elapses : d.Elapses taken d') (left : ¬taken name)
    (spared : name ∉ d.abandoned) : d'.find? name = d.find? name := by
  induction elapses with
  | still d => rfl
  | @removed e l d' n allowed _ ih =>
    have other : name ≠ n := fun same => left (same ▸ allowed)
    rw [ih spared, find?_removed, if_neg other]
  | @killed e before after d' n _ ih =>
    have other : name ≠ n := by
      rintro rfl
      exact spared (List.mem_append_right _ List.mem_cons_self)
    have rest : name ∉ before ++ after := by
      intro mem
      rcases List.mem_append.1 mem with first | last
      · exact spared (List.mem_append_left _ first)
      · exact spared (List.mem_append_right _ (List.mem_cons_of_mem _ last))
    rw [ih rest, find?_killed, if_neg other]
    rfl

theorem Elapses.unpaused (elapses : d.Elapses taken d') (unpaused : d.Unpaused name) :
    d'.Unpaused name := by
  induction elapses with
  | still d => exact unpaused
  | @removed e l d' n _ _ ih =>
    refine ih fun k found => ?_
    rw [find?_removed] at found
    split at found
    · cases found
    · exact unpaused k found
  | @killed e before after d' n _ ih =>
    refine ih fun k found => ?_
    rw [find?_killed] at found
    split at found
    · obtain ⟨k', -, rfl⟩ := Option.map_eq_some_iff.1 found
      rfl
    · exact unpaused k found

/-- Nothing of that brings a container up. -/
theorem Elapses.not_up (elapses : d.Elapses taken d') (down : ¬d.Up name) : ¬d'.Up name := by
  induction elapses with
  | still d => exact down
  | @removed e l d' n _ _ ih =>
    refine ih fun up => ?_
    unfold Up at up
    rw [find?_removed] at up
    split at up
    · cases up
    · exact down up
  | @killed e before after d' n _ ih =>
    refine ih fun up => ?_
    unfold Up at up
    rw [find?_killed] at up
    split at up
    · obtain ⟨k, found, status⟩ := Option.map_eq_some_iff.1 up
      obtain ⟨k', -, rfl⟩ := Option.map_eq_some_iff.1 found
      cases status
    · exact down up

theorem settle_elapses (taken : String → Prop) (d : Daemon) : d.Elapses taken d.settle := by
  obtain ⟨e, abandoned⟩ := d
  induction abandoned generalizing e with
  | nil => exact .still _
  | cons n rest ih => exact @Elapses.killed taken e [] rest _ n (ih _)

/-- A container that is abandoned is down in the end. -/
theorem settle_down (mem : name ∈ d.abandoned) : ¬d.settle.Up name := by
  obtain ⟨e, abandoned⟩ := d
  induction abandoned generalizing e with
  | nil => cases mem
  | cons n rest ih =>
    by_cases same : n = name
    · have down : ¬Up name ⟨(e.perform (.kill n)).2, rest⟩ := by
        unfold Up
        rw [find?_killed, if_pos same.symm]
        cases find? ⟨e, rest⟩ name <;> simp [SimulatedContainer.down, SimulatedContainer.status]
      exact (settle_elapses (fun _ => True) ⟨_, rest⟩).not_up down
    · have later : name ∈ rest := by
        rcases List.mem_cons.1 mem with first | later
        · exact absurd first.symm same
        · exact later
      exact ih _ later

end Daemon

/-- The conduct of an engine without failures. Before any call others may take containers away, and
some of the abandoned containers may be killed. -/
inductive Delayed : Conduct outside Daemon
  | carriedOut {d d' : Daemon} {c : EngineCall} : d.Elapses (fun _ => True) d' →
      Delayed d ⟨.engine c, (d'.engine.perform c).1⟩ { d' with engine := (d'.engine.perform c).2 }
  | abandoned {d d' : Daemon} {n : String} : d.Elapses (fun _ => True) d' →
      Delayed d ⟨.abandon n, ()⟩ { d' with abandoned := d'.abandoned ++ [n] }
  | elsewhere {d d' : Daemon} {ev : Event outside} : (∀ c, ev.call ≠ .engine c) →
      (∀ n, ev.call ≠ .abandon n) → d.Elapses (fun _ => True) d' → Delayed d ev d'

namespace Delayed

open Daemon (Up Unpaused)

variable {name n : String} {d t : Daemon} {es : List (Event outside)}

/-- Only what was abandoned is killed. -/
theorem step_pending {ev : Event outside} (step : Delayed d ev t) (mem : n ∈ t.abandoned) :
    n ∈ d.abandoned ∨ ev = ⟨.abandon n, ()⟩ := by
  cases step with
  | carriedOut elapses => exact .inl (elapses.abandoned mem)
  | abandoned elapses =>
    rcases List.mem_append.1 mem with before | now
    · exact .inl (elapses.abandoned before)
    · rw [List.mem_singleton.1 now]
      exact .inr rfl
  | elsewhere _ _ elapses => exact .inl (elapses.abandoned mem)

theorem path_pending (path : Delayed.Path d es t) (mem : n ∈ t.abandoned) :
    n ∈ d.abandoned ∨ ⟨.abandon n, ()⟩ ∈ es := by
  induction path with
  | nil => exact .inl mem
  | cons step _ ih =>
    rcases ih mem with before | later
    · rcases step_pending step before with before | rfl
      · exact .inl before
      · exact .inr List.mem_cons_self
    · exact .inr (List.mem_cons_of_mem _ later)

theorem engine {c : EngineCall} {a : c.Answer} (step : Delayed d ⟨.engine c, a⟩ t) :
    ∃ d', d.Elapses (fun _ => True) d' ∧ a = (d'.engine.perform c).1 ∧
      t = { d' with engine := (d'.engine.perform c).2 } := by
  cases step with
  | carriedOut elapses => exact ⟨_, elapses, rfl, rfl⟩
  | elsewhere other _ _ => exact absurd rfl (other c)

theorem created {spec : ContainerSpec} {id : String}
    (step : Delayed d ⟨.engine (.create spec), .ok id⟩ t) : t.Unpaused spec.name := by
  obtain ⟨d', -, created, rfl⟩ := step.engine
  have vacant : d'.engine.containers.find? spec.name = none := by
    change .ok id = (d'.engine.create spec).1 at created
    unfold Engine.create at created
    split at created
    · cases created
    · rename_i free
      exact NameMap.contains_eq_false_iff.1 (Bool.eq_false_iff.2 free)
  intro k found
  change (d'.engine.create spec).2.containers.find? spec.name = some k at found
  rw [Engine.find?_create, if_pos ⟨rfl, vacant⟩] at found
  cases found
  rfl

theorem abandoning (step : Delayed d ⟨.abandon n, ()⟩ t) (unpaused : d.Unpaused name) :
    t.Unpaused name := by
  cases step with
  | abandoned elapses => exact elapses.unpaused unpaused
  | elsewhere _ other _ => exact absurd rfl (other n)

theorem connected {network : String} {a : Except Error Unit}
    (step : Delayed d ⟨.engine (.connect name network), a⟩ t) (unpaused : d.Unpaused name) :
    t.Unpaused name := by
  obtain ⟨d', elapses, -, rfl⟩ := step.engine
  intro k found
  change (d'.engine.update name _).2.containers.find? name = some k at found
  rw [Engine.find?_update, if_pos rfl] at found
  obtain ⟨k', found', rfl⟩ := Option.map_eq_some_iff.1 found
  exact elapses.unpaused unpaused k' found'

/-- A container that was started is up, whatever went on before. -/
theorem started (step : Delayed d ⟨.engine (.start name), .ok ()⟩ t) (unpaused : d.Unpaused name) :
    t.Up name := by
  obtain ⟨d', elapses, done, rfl⟩ := step.engine
  change .ok () = (d'.engine.update name _).1 at done
  have there : ∃ k, d'.find? name = some k := by
    unfold Engine.update Engine.withContainer at done
    split at done
    · cases done
    · rename_i k found
      exact ⟨k, found⟩
  obtain ⟨k, found⟩ := there
  have unpaused := elapses.unpaused unpaused k found
  change (Option.map _ ((d'.engine.update name _).2.containers.find? name)) = _
  rw [Engine.find?_updated found]
  simp [SimulatedContainer.status, unpaused]

end Delayed

/-! ## What a deployment abandons -/

namespace Container

open Procedure (Within)

variable {c : Container} {es : List (Event outside)} {o : Outcome Container} {d t : Daemon}

/-- A container is up when its deployment succeeds. -/
theorem Deploys.up (course : c.Deploys es o) (succeeds : o.1 = .ok ())
    (path : Delayed.Path d es t) : t.Up c.name := by
  cases course with
  | unfit _ | uncreated _ | unconnected _ | unstarted _ => cases succeeds
  | @started spec id fit =>
    obtain ⟨s, created, later⟩ := Conduct.path_cons.1 path
    obtain ⟨u, released, rest⟩ := Conduct.path_append.1 later
    obtain ⟨v, connected, rest⟩ := Conduct.path_cons.1 rest
    obtain ⟨w, started, last⟩ := Conduct.path_cons.1 rest
    cases Conduct.path_nil.1 last
    have unpaused : s.Unpaused c.name := by
      rw [← spec_name fit]
      exact created.created
    have unpaused : u.Unpaused c.name := by
      unfold givenUp at released
      split at released
      · obtain ⟨_, abandoned, done⟩ := Conduct.path_cons.1 released
        cases Conduct.path_nil.1 done
        exact abandoned.abandoning unpaused
      · cases Conduct.path_nil.1 released
        exact unpaused
    exact started.started (connected.connected unpaused)

theorem mem_givenUp : (⟨.abandon c.name, ()⟩ : Event outside) ∈ c.givenUp ↔ c.guarded = true := by
  unfold givenUp
  split <;> simp_all

theorem abandons_created {spec : ContainerSpec} {id : String} {rest : List (Event outside)}
    (fit : c.spec = .ok spec) (spares : ⟨.abandon c.name, ()⟩ ∉ rest) :
    let all := ⟨.engine (.create spec), .ok id⟩ :: c.givenUp ++ rest
    ⟨.abandon c.name, ()⟩ ∈ all ↔ c.guarded = true ∧ Created c.name all := by
  intro all
  have created : Created c.name all := ⟨_, List.mem_cons_self, spec, id, spec_name fit, rfl⟩
  have other : (⟨.abandon c.name, ()⟩ : Event outside) ≠ ⟨.engine (.create spec), .ok id⟩ := by
    intro same
    cases same
  rw [and_iff_left created, List.mem_append, or_iff_left spares, List.mem_cons, or_iff_right other,
    mem_givenUp]

/-- A guarded backend abandons what has its name when it creates a container. -/
theorem Deploys.abandons_iff (course : c.Deploys es o) :
    ⟨.abandon c.name, ()⟩ ∈ es ↔ c.guarded = true ∧ Created c.name es := by
  cases course with
  | unfit _ => simp [Created]
  | uncreated _ => simp [Created, Event.Creates]
  | unconnected fit => exact abandons_created fit (by simp)
  | unstarted fit => exact abandons_created fit (by simp)
  | started fit => exact abandons_created fit (by simp)

theorem perform_loyal {op : Operation} (other : op ≠ .deploy) :
    (c.perform op).Within fun call : Call => ∀ n, call ≠ .abandon n := by
  by_cases tends : op ≠ .disconnect ∧ op ≠ .remove
  · refine (perform_tends ⟨other, tends⟩).mono ?_
    rintro _ tended n rfl
    cases tended
  · cases op with
    | deploy => exact absurd rfl other
    | disconnect =>
      refine Attempt.within_keeping _ (disconnect_filtering.mono ?_)
      rintro _ filtering n rfl
      cases filtering
    | remove =>
      refine Attempt.within_changing _ _ (Within.map (Procedure.within_ask.2 ?_) _)
      rintro n ⟨⟩
    | stop timeout | kill | pause | resume | reconnect | restart | collectLogs =>
      exact absurd ⟨by simp, by simp⟩ tends

theorem action_loyal {action : Backend.Action} (other : action ≠ .perform .deploy) :
    (action.apply c).Within fun call : Call => ∀ n, call ≠ .abandon n := by
  cases action with
  | perform op => exact perform_loyal fun same => other (congrArg _ same)
  | destroy =>
    refine Within.bind (perform_loyal (by simp)) fun killed => ?_
    refine Within.bind (perform_loyal (by simp)) fun collected => ?_
    exact perform_loyal (by simp)

/-- A backend abandons what has its name in a deployment that creates a container while it is guarded,
and at no other time. -/
theorem abandons_iff {action : Backend.Action} (leads : (action.apply c).Leads es o) :
    ⟨.abandon c.name, ()⟩ ∈ es ↔
      c.guarded = true ∧ (⟨action, es, o.1⟩ : Stint).Creates c.name := by
  by_cases deploys : action = .perform .deploy
  · cases deploys
    rw [(deploy_leads leads).abandons_iff]
    simp [Stint.Creates]
  · constructor
    · intro mem
      exact absurd rfl ((action_loyal deploys).leads leads _ mem c.name)
    · rintro ⟨-, created⟩
      exact absurd created.1 deploys

/-! ## All actions -/

variable {σ : Type} {peers : Peers outside σ}

theorem inTurn_append {β : Type} (acts later : List (β → Work (Outcome β))) (b : β) :
    inTurn (acts ++ later) b = inTurn acts b >>= inTurn later := by
  induction acts generalizing b with
  | nil => rfl
  | cons act acts ih => simp only [List.cons_append, inTurn, ih, bind_assoc]

/-- A stint is what its action comes to after those before it. -/
theorem stints_split {actions : List Backend.Action} {m : Moment σ} {before after : List Stint}
    {s : Stint} (split : stints peers actions c m = before ++ s :: after) :
    ∃ first : List Backend.Action, before = stints peers first c m ∧
      let reached := (inTurn (first.map Backend.Action.apply) c).run peers m
      s = ⟨s.action, (s.action.apply reached.1).trace peers reached.2,
        ((s.action.apply reached.1).run peers reached.2).1.1⟩ := by
  induction before generalizing actions c m with
  | nil =>
    cases actions with
    | nil => cases split
    | cons action rest =>
      refine ⟨[], rfl, ?_⟩
      obtain ⟨rfl, -⟩ := List.cons.inj split
      rfl
  | cons head before ih =>
    cases actions with
    | nil => cases split
    | cons action rest =>
      obtain ⟨rfl, later⟩ := List.cons.inj split
      obtain ⟨first, rfl, is⟩ := ih later
      refine ⟨action :: first, rfl, ?_⟩
      rw [List.map_cons, inTurn, Procedure.run_bind]
      exact is

/-- Who is still to be killed was abandoned on the way, unless that goes back to before. -/
theorem stints_pending {view : σ → Daemon} (obey : peers.Obey view Delayed) {n : String}
    {actions : List Backend.Action} {m : Moment σ}
    (mem : n ∈ (view ((inTurn (actions.map Backend.Action.apply) c).run peers m).2.state).abandoned) :
    n ∈ (view m.state).abandoned ∨
      ∃ s ∈ stints peers actions c m, ⟨.abandon n, ()⟩ ∈ s.events := by
  induction actions generalizing c m with
  | nil => exact .inl mem
  | cons action rest ih =>
    rw [List.map_cons, inTurn, Procedure.run_bind] at mem
    rcases ih mem with before | ⟨s, listed, abandoned⟩
    · have path := Procedure.path_run obey (action.apply c) m
      rcases Delayed.path_pending path before with before | now
      · exact .inl before
      · exact .inr ⟨_, List.mem_cons_self, now⟩
    · exact .inr ⟨s, List.mem_cons_of_mem _ listed, abandoned⟩

/-- A stint created a container in the place of one that was owed to be taken away. -/
def Replaces (name : String) (before : List Stint) (s : Stint) : Prop :=
  s.Creates name ∧ Owed name before

/-- Of all that is done to a new backend, what replaces a container abandons its name. -/
theorem abandons_iff_replaces (fresh : c.guarded = false) {actions : List Backend.Action}
    {m : Moment σ} {before after : List Stint} {s : Stint}
    (split : stints peers actions c m = before ++ s :: after) :
    ⟨.abandon c.name, ()⟩ ∈ s.events ↔ Replaces c.name before s := by
  obtain ⟨first, rfl, is⟩ := stints_split split
  obtain ⟨same, guarded⟩ := actions_guarded peers first c m
  have leads := Procedure.leads_run peers
    (s.action.apply ((inTurn (first.map Backend.Action.apply) c).run peers m).1)
    ((inTurn (first.map Backend.Action.apply) c).run peers m).2
  have abandons := abandons_iff leads
  rw [same.name, guarded, fresh] at abandons
  rw [is]
  unfold Replaces
  rw [and_comm]
  simpa using abandons

/-- On an engine that others take containers from and that is late to kill, a deployment that succeeds
leaves a container that is up, and it stays up for as long as only abandoned containers are killed,
unless it has the name of one of them. That takes a deployment which replaced a container that was
owed to be taken away. Each of these abandons the name. -/
theorem redeployed_until_killed {view : σ → Daemon} (obey : peers.Obey view Delayed)
    (params : NodeParams) (service : ServiceParams) (network logDir : String)
    (actions : List Backend.Action) (m : Moment σ) (quiet : (view m.state).abandoned = []) :
    let c := ofNode params service network logDir
    let reached := (inTurn (actions.map Backend.Action.apply) c).run peers m
    let deployed := (reached.1.perform .deploy).run peers reached.2
    let d := view deployed.2.state
    let all := stints peers (actions ++ [.perform .deploy]) c m
    (deployed.1.1 = .ok () → d.Up c.name ∧
      (c.name ∉ d.abandoned → ∀ d', d.Elapses (fun _ => False) d' → d'.Up c.name) ∧
      (c.name ∈ d.abandoned → ¬d.settle.Up c.name)) ∧
    (c.name ∈ d.abandoned →
      ∃ before s after, all = before ++ s :: after ∧ Replaces c.name before s) ∧
    ∀ before s after, all = before ++ s :: after →
      (⟨.abandon c.name, ()⟩ ∈ s.events ↔ Replaces c.name before s) := by
  intro c reached deployed d all
  obtain ⟨same, -⟩ := actions_guarded peers actions c m
  refine ⟨fun succeeds => ?_, fun pending => ?_, fun _ _ _ => abandons_iff_replaces rfl⟩
  · have path := Procedure.path_run obey (reached.1.perform .deploy) reached.2
    have course := deploy_leads (Procedure.leads_run peers (reached.1.perform .deploy) reached.2)
    have up : d.Up c.name := by
      rw [← same.name]
      exact course.up succeeds path
    refine ⟨up, fun spared d' elapses => ?_, Daemon.settle_down⟩
    unfold Daemon.Up
    rw [elapses.spared id spared]
    exact up
  · have last : d = view ((inTurn ((actions ++ [Backend.Action.perform .deploy]).map
        Backend.Action.apply) c).run peers m).2.state := by
      rw [List.map_append, inTurn_append, Procedure.run_bind, List.map_singleton, inTurn,
        Procedure.run_bind]
      rfl
    rw [last] at pending
    rcases stints_pending obey pending with before | ⟨s, listed, abandoned⟩
    · rw [quiet] at before
      cases before
    · obtain ⟨before, after, split⟩ := List.append_of_mem listed
      exact ⟨before, s, after, split, (abandons_iff_replaces rfl split).1 abandoned⟩

/-- Peers that let everything succeed, and kill nothing before the world settles. On their engine
others take a container away before some of the calls. -/
def laggards (name : String) : Peers outside (Daemon × List Bool) where
  answer _ s c :=
    let e := if s.2.head? = some true then (s.1.engine.perform (.remove name)).2 else s.1.engine
    match c with
    | .engine c => (((e.perform c).1, .zero), (⟨(e.perform c).2, s.1.abandoned⟩, s.2.tail))
    | .abandon n => (((), .zero), (⟨e, s.1.abandoned ++ [n]⟩, s.2.tail))
    | c => (((e.answerExactly c).1, .zero), (⟨e, s.1.abandoned⟩, s.2.tail))

theorem laggards_obey (name : String) : (laggards name).Obey Prod.fst Delayed := by
  intro clock s c
  obtain ⟨⟨e, abandoned⟩, script⟩ := s
  have elapses : Daemon.Elapses (fun _ => True) ⟨e, abandoned⟩
      ⟨if script.head? = some true then (e.perform (.remove name)).2 else e, abandoned⟩ := by
    split
    · exact .removed name trivial (.still _)
    · exact .still _
  cases c with
  | engine c => exact .carriedOut elapses
  | abandon n => exact .abandoned elapses
  | shell c | hypervisor c | file c | program name args | bootstrap r | act node action | freshId
  | timeStamp | pick n | awaitShutdown limit =>
    exact .elsewhere (fun _ h => by cases h) (fun _ h => by cases h) elapses

/-- A backend that removed its container itself can be deployed once more. -/
theorem redeployed_until_killed_removed :
    let c := ofNode (.ofPort 9000) .default "universe-net" "/logs"
    let peers := laggards c.name
    let m : Moment (Daemon × List Bool) := ⟨.zero, ⟨Engine.empty Engine.defaultInfo [], []⟩, []⟩
    let actions : List Backend.Action := [.perform .deploy, .perform .remove]
    let reached := (inTurn (actions.map Backend.Action.apply) c).run peers m
    let deployed := (reached.1.perform .deploy).run peers reached.2
    peers.Obey Prod.fst Delayed ∧ m.state.1.abandoned = [] ∧ deployed.1.1 = .ok () ∧
      deployed.2.state.1.settle.Up c.name := by
  have redeployed := redeployed_until_killed
    (laggards_obey (ofNode (.ofPort 9000) .default "universe-net" "/logs").name) (.ofPort 9000)
    .default "universe-net" "/logs" [.perform .deploy, .perform .remove]
    ⟨.zero, ⟨Engine.empty Engine.defaultInfo [], []⟩, []⟩ rfl
  refine ⟨laggards_obey _, rfl, by decide +kernel, ?_⟩
  exact (redeployed.1 (by decide +kernel)).2.1 (by decide +kernel) _ (Daemon.settle_elapses _ _)

/-- A container is taken away behind the back of its backend and deployed once more. What is left of
the first one is to be killed, and that kills the second one. -/
theorem redeployment_killed :
    let c := ofNode (.ofPort 9000) .default "universe-net" "/logs"
    let peers := laggards c.name
    let m : Moment (Daemon × List Bool) :=
      ⟨.zero, ⟨Engine.empty Engine.defaultInfo [], []⟩, [false, false, false, true]⟩
    let first := (c.perform .deploy).run peers m
    let second := (first.1.2.perform .deploy).run peers first.2
    peers.Obey Prod.fst Delayed ∧ first.1.1 = .ok () ∧ second.1.1 = .ok () ∧
      second.2.state.1.Up c.name ∧
      second.2.state.1.Elapses (fun _ => False) second.2.state.1.settle ∧
      ¬second.2.state.1.settle.Up c.name := by
  intro c peers m first second
  exact ⟨laggards_obey _, by decide +kernel, by decide +kernel, by decide +kernel,
    Daemon.settle_elapses _ _, by decide +kernel⟩

end Container

end Testbed
