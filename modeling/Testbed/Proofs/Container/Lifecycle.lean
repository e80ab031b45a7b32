import Testbed.Proofs.Container.Ownership
import Testbed.Proofs.Lifecycle.Automaton
/-!
# The life of a container

On an engine without failures a container follows the automaton. What an inspection shows of it
(`NodeState.shown`) is all that there is to its state, so that every operation is settled by what it
sees first and by the one call that it makes then.
-/

namespace Testbed

open Lab (Engine SimulatedContainer)

/-- What an inspection shows of a node. -/
def NodeState.shown : NodeState → Option ContainerStatus
  | .running => some ⟨true, false⟩
  | .paused => some ⟨true, true⟩
  | .stopped => some .down
  | .destroyed | .undeployed => none

namespace Container

variable {c : Container} {s s' : NodeState} {e t : Engine}

/-- The node of a container was deployed, and is in a state. -/
structure Shows (c : Container) (s : NodeState) (e : Engine) : Prop where
  deployed : c.deployed = true
  state : s ≠ .undeployed
  shown : (e.containers.find? c.name).map (·.status) = s.shown

theorem Shows.missing (h : c.Shows .destroyed e) : e.containers.find? c.name = none :=
  Option.map_eq_none_iff.1 h.shown

/-- A call that is not about the container leaves it as it is. -/
theorem Shows.aside {ev : Event outside} (h : c.Shows s e)
    (other : ∀ call, ev.call = .engine call → call.target? ≠ some c.name)
    (step : Faultless e ev t) : c.Shows s t := by
  cases step with
  | performed call =>
    refine ⟨h.deployed, h.state, ?_⟩
    rw [Engine.find?_perform_other (other call rfl)]
    exact h.shown
  | ran _ | unmatched _ _ _ | elsewhere _ _ => exact h

/-- A change to a container that is there succeeds, and what it makes of it is shown. -/
theorem Shows.update (h : c.Shows s e) (s' : NodeState) {st : ContainerStatus}
    (present : s.shown = some st) {f : SimulatedContainer → SimulatedContainer}
    (state : s' ≠ .undeployed)
    (becomes : ∀ k : SimulatedContainer, k.status = st → some (f k).status = s'.shown) :
    (e.update c.name f).1 = .ok () ∧ c.Shows s' (e.update c.name f).2 := by
  obtain ⟨k, found, status⟩ := Option.map_eq_some_iff.1 (h.shown.trans present)
  refine ⟨?_, h.deployed, state, ?_⟩
  · simp [Engine.update, Engine.withContainer, found]
  · rw [Engine.find?_updated found]
    exact becomes k status

/-! ## Looking and acting -/

theorem shows_inspect (h : c.Shows s e)
    {post : Except Error (Option ContainerStatus) → Engine → Prop} (next : post (.ok s.shown) e) :
    (askEngine (.inspect c.name)).Ensures Faultless (fun _ => True) e post := by
  refine Procedure.ensures_ask.2 fun a t step => ⟨trivial, ?_⟩
  obtain ⟨rfl, rfl⟩ := step.engine
  simpa only [Engine.perform, h.shown] using next

theorem shows_status (h : c.Shows s e) {post : Except Error ContainerStatus → Engine → Prop}
    (next : post (.ok (s.shown.getD .down)) e) :
    c.status.run.Ensures Faultless (fun _ => True) e post :=
  Procedure.ensures_map.2 (shows_inspect h next)

/-- A container that is up goes down, and one that is down stays so. -/
theorem shows_ended (h : c.Shows s e) {step : LifecycleStep} {p : Attempt Unit}
    (ends : step = .kill ∨ ∃ timeout, step = .stop timeout)
    (down : ∀ st, s.shown = some st → p.run.Ensures Faultless (fun _ => True) e
      fun r t => r = .ok () ∧ c.Shows .stopped t) :
    Follows Shows (Attempt.keeping (c.status >>= fun status =>
      if status.running || status.paused then p else pure ()) c) s step e := by
  refine Attempt.ensures_keeping.2 (Attempt.ensures_bind.2 (shows_status h ?_))
  have verdict : s.verdict step = .ok () := by
    rcases ends with rfl | ⟨timeout, rfl⟩ <;> cases s <;> rfl
  have goes (up : s = .running ∨ s = .paused) : s.after step = .stopped := by
    rcases ends with rfl | ⟨timeout, rfl⟩ <;> rcases up with rfl | rfl <;> rfl
  have stays (down : s = .stopped ∨ s = .destroyed) : s.after step = s := by
    rcases ends with rfl | ⟨timeout, rfl⟩ <;> rcases down with rfl | rfl <;> rfl
  rw [verdict]
  cases s with
  | undeployed => exact absurd rfl h.state
  | running =>
    rw [goes (.inl rfl)]
    exact (down _ rfl).mono fun r t done => ⟨by rw [done.1]; rfl, done.2⟩
  | paused =>
    rw [goes (.inr rfl)]
    exact (down _ rfl).mono fun r t done => ⟨by rw [done.1]; rfl, done.2⟩
  | stopped =>
    rw [stays (.inl rfl)]
    exact ⟨rfl, h⟩
  | destroyed =>
    rw [stays (.inr rfl)]
    exact ⟨rfl, h⟩

theorem Shows.down {st : ContainerStatus} (h : c.Shows s e) (present : s.shown = some st) :
    forgiveMissing (e.update c.name .down).1 = .ok () ∧
      c.Shows .stopped (e.update c.name .down).2 := by
  have stopped := h.update .stopped present (by simp) (f := .down) fun _ _ => rfl
  exact ⟨by rw [stopped.1, forgiveMissing], stopped.2⟩

theorem shows_stop (h : c.Shows s e) (timeout : Duration) :
    Follows Shows ((c.stop timeout).keeping c) s (.stop timeout) e := by
  refine shows_ended h (.inr ⟨timeout, rfl⟩) fun st present => ?_
  refine Procedure.ensures_map.2 (Procedure.ensures_ask.2 fun a t step => ⟨trivial, ?_⟩)
  obtain ⟨rfl, rfl⟩ := step.engine
  exact h.down present

theorem shows_kill (h : c.Shows s e) : Follows Shows (c.kill.keeping c) s .kill e := by
  refine shows_ended h (.inl rfl) fun st present => ?_
  refine Procedure.ensures_map.2 (Procedure.ensures_ask.2 fun a t step => ⟨trivial, ?_⟩)
  obtain ⟨rfl, rfl⟩ := step.engine
  exact h.down present

theorem shows_pause (h : c.Shows s e) : Follows Shows (c.pause.keeping c) s .pause e := by
  refine Attempt.ensures_keeping.2 (Attempt.ensures_bind.2 (shows_status h ?_))
  cases s with
  | undeployed => exact absurd rfl h.state
  | running =>
    refine Procedure.ensures_ask.2 fun a t step => ⟨trivial, ?_⟩
    obtain ⟨rfl, rfl⟩ := step.engine
    have paused := h.update .paused rfl (by simp) (f := ({ · with paused := true }))
      fun k status => by rw [NodeState.shown, ← (ContainerStatus.mk.inj status).1]; rfl
    exact ⟨congrArg (·.mapError Error.kind) paused.1, paused.2⟩
  | paused | stopped | destroyed => exact ⟨rfl, h⟩

theorem shows_resume (h : c.Shows s e) : Follows Shows (c.resume.keeping c) s .resume e := by
  refine Attempt.ensures_keeping.2 (Attempt.ensures_bind.2 (shows_status h ?_))
  cases s with
  | undeployed => exact absurd rfl h.state
  | paused =>
    refine Procedure.ensures_ask.2 fun a t step => ⟨trivial, ?_⟩
    obtain ⟨rfl, rfl⟩ := step.engine
    have resumed := h.update .running rfl (by simp) (f := ({ · with paused := false }))
      fun k status => by rw [NodeState.shown, ← (ContainerStatus.mk.inj status).1]; rfl
    exact ⟨congrArg (·.mapError Error.kind) resumed.1, resumed.2⟩
  | running | stopped | destroyed => exact ⟨rfl, h⟩

theorem shows_restart (h : c.Shows s e) : Follows Shows (c.restart.keeping c) s .restart e := by
  refine Attempt.ensures_keeping.2 (Attempt.ensures_bind.2 (shows_inspect h ?_))
  cases s with
  | undeployed => exact absurd rfl h.state
  | stopped =>
    refine Procedure.ensures_ask.2 fun a t step => ⟨trivial, ?_⟩
    obtain ⟨rfl, rfl⟩ := step.engine
    have started := h.update .running rfl (by simp)
      (f := ({ · with running := true, paused := false })) fun _ _ => rfl
    exact ⟨congrArg (·.mapError Error.kind) started.1, started.2⟩
  | running | paused | destroyed => exact ⟨rfl, h⟩

/-! ## From deployment to destruction -/

theorem collectLogs_aside : c.collectLogs.run.Within fun call : Call =>
    ∀ asked, call = .engine asked → asked.target? ≠ some c.name := by
  have logs : ∀ asked, Call.engine (.logs c.name) = .engine asked →
      asked.target? ≠ some c.name := by
    rintro _ same
    cases same
    simp [EngineCall.target?]
  refine Attempt.within_bind (Procedure.within_ask.2 logs) fun _ => ?_
  exact Attempt.within_bind (Attempt.within_files fun _ same => by cases same) fun _ =>
    Attempt.within_files fun _ same => by cases same

theorem shows_collectLogs (h : c.Shows s e) :
    c.collectLogs.run.Ensures Faultless (fun _ => True) e fun _ t => c.Shows s t :=
  collectLogs_aside.ensures h fun _ _ _ other step shows => ⟨trivial, shows.aside other step⟩

theorem shows_remove (h : c.Shows s e) : Follows Shows c.remove s .destroy e := by
  refine Attempt.ensures_changing.2 (Procedure.ensures_map.2 (Procedure.ensures_ask.2 ?_))
  intro a t step
  obtain ⟨rfl, rfl⟩ := step.engine
  have gone : Shows { c with guarded := false } .destroyed (e.remove c.name).2 := by
    refine ⟨h.deployed, by simp, ?_⟩
    change ((e.remove c.name).2.containers.find? c.name).map _ = none
    rw [Engine.find?_remove, if_pos rfl]
    rfl
  refine ⟨trivial, ?_⟩
  have forgiven : forgiveMissing (e.remove c.name).1 = .ok () := by
    unfold Engine.remove
    split <;> rfl
  simp only [Engine.perform, forgiven, NodeState.verdict_destroy, NodeState.after_destroy]
  exact ⟨rfl, gone⟩

theorem shows_destroy (h : c.Shows s e) : Follows Shows (Backend.destroy c) s .destroy e := by
  refine Procedure.ensures_bind.2 ((shows_kill h).mono fun o t killed => ?_)
  refine Procedure.ensures_bind.2 (Attempt.ensures_keeping.2 ((shows_collectLogs killed.2).mono ?_))
  exact fun r u collected => (shows_remove collected).destroy

theorem shows_step (h : c.Shows s e) (step : LifecycleStep) :
    Follows Shows (step.action.apply c) s step e := by
  cases step with
  | stop timeout => exact shows_stop h timeout
  | kill => exact shows_kill h
  | pause => exact shows_pause h
  | resume => exact shows_resume h
  | restart => exact shows_restart h
  | destroy => exact shows_destroy h

theorem shows_connectAndStart (h : c.Shows .stopped e) :
    c.connectAndStart.run.Ensures Faultless (fun _ => True) e fun r t =>
      r = .ok () ∧ c.Shows .running t := by
  refine Attempt.ensures_bind.2 (Procedure.ensures_ask.2 fun a t step => ⟨trivial, ?_⟩)
  obtain ⟨rfl, rfl⟩ := step.engine
  have connected := h.update .stopped rfl (by simp)
    (f := ({ · with network := some c.network })) fun _ status => congrArg some status
  simp only [Engine.perform]
  rw [connected.1]
  refine Procedure.ensures_ask.2 fun a t step => ⟨trivial, ?_⟩
  obtain ⟨rfl, rfl⟩ := step.engine
  exact connected.2.update .running rfl (by simp) (f := ({ · with running := true }))
    fun k status => by rw [NodeState.shown, ← (ContainerStatus.mk.inj status).2]; rfl

/-- A container that was just created is stopped. -/
theorem shows_created {spec : ContainerSpec} {id : String} (name : spec.name = c.name)
    (created : (e.create spec).1 = .ok id) :
    Shows { c with deployed := true, guarded := true } .stopped (e.create spec).2 := by
  refine ⟨rfl, by simp, ?_⟩
  change ((e.create spec).2.containers.find? c.name).map _ = _
  have vacant : e.containers.find? spec.name = none := by
    unfold Engine.create at created
    split at created
    · cases created
    · rename_i vacant
      exact NameMap.contains_eq_false_iff.1 (Bool.not_eq_true _ ▸ vacant)
  rw [Engine.find?_create, if_pos ⟨name.symm, name ▸ vacant⟩]
  rfl

/-- A container that is deployed runs. One that is guarded would be left to be killed. -/
theorem shows_deploy (unguarded : c.guarded = false) :
    c.deploy.Ensures Faultless (fun _ => True) e fun o t =>
      o.1 = .ok () → o.2.Shows .running t := by
  unfold deploy
  cases ready : c.spec with
  | error err => exact fun h => by cases h
  | ok spec =>
    refine Procedure.ensures_bind.2 (Procedure.ensures_ask.2 fun a t step => ⟨trivial, ?_⟩)
    obtain ⟨rfl, rfl⟩ := step.engine
    cases created : (e.perform (.create spec)).1 with
    | error err => exact fun h => by cases h
    | ok id =>
      have stopped := shows_created (spec_name ready) created
      have released : c.release = pure () := if_neg (by simp [unguarded])
      rw [released]
      refine Procedure.ensures_bind.2 (Procedure.ensures_bind.2 ?_)
      refine (shows_connectAndStart stopped).mono ?_
      rintro _ t ⟨rfl, runs⟩
      exact fun _ => runs

end Container

end Testbed
