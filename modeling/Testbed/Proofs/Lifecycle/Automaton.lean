import Testbed.Proofs.Container.Calls
import Testbed.Proofs.Engine.Conduct
import Testbed.Proofs.RemoteProcess.Commands
/-!
# The life of a node

What becomes of a node that is deployed is an automaton over its states (`NodeState.after`). A step
that has nothing to do succeeds; only a node that is destroyed cannot be started again
(`NodeState.verdict`). `NodeState.sightings` is all that is seen of a node while steps are taken, one
after the other.
-/

namespace Testbed

open Lab (Engine)

/-- What is done to a node that is deployed. -/
inductive LifecycleStep where
  | stop (timeout : Duration)
  | kill
  | pause
  | resume
  | restart
  | destroy
  deriving DecidableEq, Repr

def LifecycleStep.action : LifecycleStep → Backend.Action
  | .stop timeout => .perform (.stop timeout)
  | .kill => .perform .kill
  | .pause => .perform .pause
  | .resume => .perform .resume
  | .restart => .perform .restart
  | .destroy => .destroy

/-- What came of a step, up to the wording of a failure, and the state that is told afterwards. -/
structure Sighting where
  outcome : Except String Unit
  state : Except Error NodeState

namespace NodeState

/-- The state that a step leaves a node in. -/
def after : NodeState → LifecycleStep → NodeState
  | .running, .stop _ | .running, .kill | .paused, .stop _ | .paused, .kill => .stopped
  | .running, .pause => .paused
  | .paused, .resume => .running
  | .stopped, .restart => .running
  | _, .destroy => .destroyed
  | s, _ => s

/-- The kind of failure that a step comes to, if it fails. -/
def verdict : NodeState → LifecycleStep → Except String Unit
  | .destroyed, .restart => .error "NotFound"
  | _, _ => .ok ()

def sightings (s : NodeState) : List LifecycleStep → List Sighting
  | [] => []
  | step :: steps => ⟨s.verdict step, .ok (s.after step)⟩ :: (s.after step).sightings steps

@[simp]
theorem after_destroy (s : NodeState) : s.after .destroy = .destroyed := by
  cases s <;> rfl

@[simp]
theorem verdict_destroy (s : NodeState) : s.verdict .destroy = .ok () := by
  cases s <;> rfl

end NodeState

/-! ## Peers without failures -/

/-- The conduct of an engine without failures, beside shells that carry out every command. A signal
that finds no process to go to is none. -/
inductive Faultless : Conduct outside Engine
  | performed {e : Engine} (c : EngineCall) :
      Faultless e ⟨.engine c, (e.perform c).1⟩ (e.perform c).2
  | ran {e : Engine} {host cmd : String} {output : CommandOutput} :
      output.success = true → Faultless e ⟨.shell (.run host cmd), .ok output⟩ e
  | unmatched {e : Engine} {host : String} (p : RemoteProcess) (flag : String)
      {output : CommandOutput} : output.exitCode = RemoteProcess.noMatch →
      Faultless e ⟨.shell (.run host (p.signalCommand flag)), .ok output⟩ e
  | elsewhere {e : Engine} {ev : Event outside} :
      (∀ c, ev.call ≠ .engine c) → (∀ host cmd, ev.call ≠ .shell (.run host cmd)) →
      Faultless e ev e

namespace Faultless

variable {e t : Engine}

theorem of_exact {ev : Event outside} (step : Engine.Exact e ev t) : Faultless e ev t := by
  cases step with
  | performed c => exact .performed c
  | ran succeeds => exact .ran succeeds
  | elsewhere other other' => exact .elsewhere other other'

theorem engine {c : EngineCall} {a : c.Answer} (step : Faultless e ⟨.engine c, a⟩ t) :
    a = (e.perform c).1 ∧ t = (e.perform c).2 := by
  cases step with
  | performed c => exact ⟨rfl, rfl⟩
  | elsewhere other _ => exact absurd rfl (other c)

theorem sent {host cmd : String} {a : Except Error CommandOutput}
    (step : Faultless e ⟨.shell (.run host cmd), a⟩ t) : RemoteProcess.Sent a ∧ t = e := by
  cases step with
  | ran succeeds => exact ⟨⟨_, rfl, .inl succeeds⟩, rfl⟩
  | unmatched p flag none => exact ⟨⟨_, rfl, .inr none⟩, rfl⟩
  | elsewhere _ other => exact absurd rfl (other _ _)

theorem done {host cmd : String} {a : Except Error CommandOutput}
    (step : Faultless e ⟨.shell (.run host cmd), a⟩ t)
    (other : ∀ (p : RemoteProcess) flag, cmd ≠ p.signalCommand flag) : RemoteProcess.Done a := by
  cases step with
  | ran succeeds => exact ⟨_, rfl, succeeds⟩
  | unmatched p flag none => exact absurd rfl (other p flag)
  | elsewhere _ other => exact absurd rfl (other _ _)

end Faultless

/-- A backend that is told to be in a state takes a step of the automaton. -/
abbrev Follows {β : Type} (shows : β → NodeState → Engine → Prop) (work : Work (Outcome β))
    (s : NodeState) (step : LifecycleStep) (e : Engine) : Prop :=
  work.Ensures Faultless (fun _ => True) e fun o t =>
    o.1.mapError Error.kind = s.verdict step ∧ shows o.2 (s.after step) t

/-- Where it ends, a destruction is the same from every state. -/
theorem Follows.destroy {β : Type} {shows : β → NodeState → Engine → Prop}
    {work : Work (Outcome β)} {s s' : NodeState} {e : Engine} (h : Follows shows work s .destroy e) :
    Follows shows work s' .destroy e := by
  simpa only [Follows, NodeState.verdict_destroy, NodeState.after_destroy] using h

end Testbed
