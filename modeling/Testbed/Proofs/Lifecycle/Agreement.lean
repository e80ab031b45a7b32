import Testbed.Proofs.Cluster.Ownership
import Testbed.Proofs.Container.Lifecycle
import Testbed.Proofs.RemoteProcess.Lifecycle
/-!
# Containers and remote processes live alike

Nothing that is seen of a node while steps of its life are taken tells whether it is a container or a
process on a remote host, as long as nobody fails: both show what the automaton says
(`lifecycles_agree`).
-/

namespace Testbed

open Lab (Engine)

namespace Physical

variable {b : Physical} {s : NodeState} {e : Engine}

/-- The node of a backend was deployed, and is in a state. -/
def Shows : Physical → NodeState → Engine → Prop
  | .container c, s, e => c.Shows s e
  | .process p, s, _ => p.Shows s

theorem destroy_process (p : RemoteProcess) : Backend.destroy (process p) =
    (fun o => (o.1, process o.2)) <$> Backend.destroy p := by
  have performs (op : Operation) (p : RemoteProcess) : Backend.perform op (process p) =
      (fun o => (o.1, process o.2)) <$> Backend.perform op p := rfl
  simp [Backend.destroy, performs]

theorem apply_container (action : Backend.Action) (c : Container) :
    action.apply (container c) = (fun o => (o.1, container o.2)) <$> action.apply c := by
  cases action with
  | perform op => rfl
  | destroy => exact destroy_container c

theorem apply_process (action : Backend.Action) (p : RemoteProcess) :
    action.apply (process p) = (fun o => (o.1, process o.2)) <$> action.apply p := by
  cases action with
  | perform op => rfl
  | destroy => exact destroy_process p

theorem shows_step (h : b.Shows s e) (step : LifecycleStep) :
    Follows Shows (step.action.apply b) s step e := by
  cases b with
  | container c =>
    rw [apply_container]
    exact Procedure.ensures_map.2 (Container.shows_step h step)
  | process p =>
    rw [apply_process]
    exact Procedure.ensures_map.2 (RemoteProcess.shows_step h step)

/-- The state that a node is in is the one that is told. -/
theorem shows_state (h : b.Shows s e) : (Backend.state b).Ensures Faultless (fun _ => True) e
    fun r t => r = .ok s ∧ b.Shows s t := by
  cases b with
  | container c =>
    refine Procedure.ensures_bind.2 (Container.shows_inspect h ?_)
    cases s with
    | undeployed => exact absurd rfl h.state
    | running | paused | stopped => exact ⟨rfl, h⟩
    | destroyed =>
      refine ⟨?_, h⟩
      simp [h.deployed]
  | process p => exact ⟨congrArg Except.ok h.state, h⟩

/-- No container is left to be killed when the backend is deployed. -/
def Unguarded : Physical → Prop
  | .container c => c.guarded = false
  | .process _ => True

theorem shows_deploy (unguarded : b.Unguarded) :
    (Backend.perform .deploy b).Ensures Faultless (fun _ => True) e
      fun o t => o.1 = .ok () → o.2.Shows .running t := by
  cases b with
  | container c => exact Procedure.ensures_map.2 (Container.shows_deploy unguarded)
  | process p =>
    refine Procedure.ensures_map.2 (Procedure.ensures_true.leads.mono ?_)
    rintro ⟨r, p'⟩ t ⟨-, es, deployed⟩ succeeded
    cases succeeded
    exact RemoteProcess.deploy_leads_ok deployed

end Physical

/-! ## Whole lives -/

namespace Node

/-- Takes steps, one after the other, and looks at the node after each. -/
def observe {β : Type} [Backend β] : List LifecycleStep → Node β → Work (List Sighting)
  | [], _ => return []
  | step :: steps, n => do
    let (r, n) ← step.action.onNode n
    let state ← Backend.state n.backend
    return ⟨r.mapError Error.kind, state⟩ :: (← n.observe steps)

variable {n : Node Physical} {s : NodeState} {e : Engine}

theorem shows_step (h : n.backend.Shows s e) (step : LifecycleStep) :
    Follows (fun n s e => n.backend.Shows s e) (step.action.onNode n) s step e := by
  have steps := Physical.shows_step h step
  cases step with
  | stop timeout | kill | pause | resume | restart | destroy => exact Procedure.ensures_bind.2 steps

theorem ensures_observe {steps : List LifecycleStep} (h : n.backend.Shows s e) :
    (n.observe steps).Ensures Faultless (fun _ => True) e fun seen _ =>
      seen = s.sightings steps := by
  induction steps generalizing n s e with
  | nil => rfl
  | cons step steps ih =>
    refine Procedure.ensures_bind.2 ((shows_step h step).mono fun o t taken => ?_)
    refine Procedure.ensures_bind.2 ((Physical.shows_state taken.2).mono fun r u told => ?_)
    refine Procedure.ensures_bind.2 ((ih told.2).mono fun seen v rest => ?_)
    rw [taken.1, told.1, rest]
    exact rfl

theorem ensures_deploy (unguarded : n.backend.Unguarded) :
    n.deploy.Ensures Faultless (fun _ => True) e
      fun r t => ∀ deployed, r = .ok deployed → deployed.backend.Shows .running t := by
  refine Procedure.ensures_bind.2 ((Physical.shows_deploy unguarded).mono fun o t shows => ?_)
  rcases o with ⟨r, b⟩
  cases r with
  | ok u =>
    rintro _ same
    cases same
    exact shows rfl
  | error err =>
    exact Procedure.ensures_bind.2 (Procedure.ensures_true.mono fun _ _ _ _ h => by cases h)

/-- A node that was deployed is seen to do what the automaton says. -/
theorem observe_deployed {σ : Type} {peers : Peers outside σ} {view : σ → Engine}
    (obey : peers.Obey view Faultless) {m : Moment σ} {deployed : Node Physical}
    (unguarded : n.backend.Unguarded) (deploys : (n.deploy.run peers m).1 = .ok deployed)
    (steps : List LifecycleStep) :
    ((deployed.observe steps).run peers (n.deploy.run peers m).2).1 =
      NodeState.running.sightings steps := by
  have runs := (ensures_deploy unguarded).run obey deployed deploys
  exact (ensures_observe runs).run obey

end Node

/-- Two nodes that were deployed, each among peers of its own, show the same while the same steps are
taken, and that is what the automaton says. -/
theorem lifecycles_agree {σ σ' : Type} {peers : Peers outside σ} {peers' : Peers outside σ'}
    {view : σ → Engine} {view' : σ' → Engine} (obey : peers.Obey view Faultless)
    (obey' : peers'.Obey view' Faultless) {m : Moment σ} {m' : Moment σ'}
    {n n' deployed deployed' : Node Physical} (unguarded : n.backend.Unguarded)
    (unguarded' : n'.backend.Unguarded) (deploys : (n.deploy.run peers m).1 = .ok deployed)
    (deploys' : (n'.deploy.run peers' m').1 = .ok deployed') (steps : List LifecycleStep) :
    let seen := ((deployed.observe steps).run peers (n.deploy.run peers m).2).1
    let seen' := ((deployed'.observe steps).run peers' (n'.deploy.run peers' m').2).1
    seen = seen' ∧ seen = NodeState.running.sightings steps := by
  have here := Node.observe_deployed obey unguarded deploys steps
  have there := Node.observe_deployed obey' unguarded' deploys' steps
  exact ⟨here.trans there.symm, here⟩

/-- A container and a process are paused, stopped, started again and destroyed, after which they
cannot be started. -/
theorem lifecycles_agree_destroyed :
    let container := Container.ofNode (.ofPort 9000) .default "testnet" "/logs"
    let process := RemoteProcess.ofNode (.ofPort 9001) "10.0.0.1" .default "/logs"
    let n : Node Physical := ⟨.ofPort 9000, "node9000:9000", .container container⟩
    let n' : Node Physical := ⟨.ofPort 9001, "10.0.0.1:9001", .process process⟩
    let deployed : Node Physical :=
      { n with backend := .container { container with deployed := true, guarded := true } }
    let deployed' : Node Physical :=
      { n' with backend := .process { process with state := .running } }
    let m : Moment Engine := ⟨.zero, .empty Engine.defaultInfo []⟩
    let steps : List LifecycleStep := [.pause, .stop .zero, .restart, .destroy, .restart]
    let seen := ((deployed.observe steps).run Engine.peers (n.deploy.run Engine.peers m).2).1
    let seen' := ((deployed'.observe steps).run Engine.peers (n'.deploy.run Engine.peers m).2).1
    seen = seen' ∧ seen = NodeState.running.sightings steps := by
  intro container process n n' deployed deployed' m steps
  have obey : Engine.peers.Obey id Faultless := fun clock e c =>
    .of_exact (Engine.peers_obey clock e c)
  have deploys : (n.deploy.run Engine.peers m).1 = .ok deployed :=
    toOption_eq_some.1 (by decide +kernel)
  have deploys' : (n'.deploy.run Engine.peers m).1 = .ok deployed' :=
    toOption_eq_some.1 (by decide +kernel)
  have unguarded : n.backend.Unguarded := rfl
  have unguarded' : n'.backend.Unguarded := trivial
  exact lifecycles_agree obey obey unguarded unguarded' deploys deploys' steps

end Testbed
