import Testbed.Proofs.Fault.Condition
import Testbed.Proofs.RemoteProcess.Lifecycle
/-!
# What faults do to remote processes

On hosts without failures every operation that brings about or heals a fault does to the process of a
node what `Condition.after` says (`matches_after`). A process is always reachable, and but for that
the condition of a node that is live is the state that the automaton gives (`Condition.state_after`).
-/

namespace Testbed

open Lab (Engine)
open Lab.Engine (Exact)

theorem Condition.state_after {s : Condition} (live : s.Live) {step : LifecycleStep} {op : Operation}
    (same : step.action = .perform op) : (s.after op).state = s.state.after step := by
  cases step <;> cases same <;> rcases live with eq | eq | eq <;>
    simp [Condition.after, NodeState.after, eq]

namespace RemoteProcess

variable {p : RemoteProcess} {e : Engine} {s : Condition}

/-- The process of a node is in a condition. -/
structure Matches (p : RemoteProcess) (s : Condition) : Prop where
  live : s.Live
  state : p.state = s.state
  launchable : ∃ cmd, p.launchCommand = .ok cmd

theorem Matches.shows (h : p.Matches s) : p.Shows s.state := by
  refine ⟨h.state, ?_, h.launchable⟩
  rcases h.live with eq | eq | eq <;> simp [eq]

/-- What takes a step of the automaton does to a node that is live what its condition says. -/
theorem matches_step (h : p.Matches s) {work : Work (Outcome RemoteProcess)} {step : LifecycleStep}
    {op : Operation} (same : step.action = .perform op) (takes : Steps work s.state step e) :
    work.Ensures Exact (fun _ => True) e fun o _ => o.2.Matches (s.after op) := by
  refine (takes.weaken (fun _ _ _ => Faultless.of_exact) fun _ => id).mono ?_
  rintro o t ⟨-, shows⟩
  exact ⟨Condition.after_live h.live op, shows.state.trans (Condition.state_after h.live same).symm,
    shows.launchable⟩

/-- Processes cannot be cut off, and so need not be taken back. -/
theorem Matches.unsupported (h : p.Matches s) :
    p.Matches (s.after .disconnect) ∧ p.Matches (s.after .reconnect) :=
  ⟨⟨Condition.after_live h.live _, by simp [h.state], h.launchable⟩,
    ⟨Condition.after_live h.live _, by simp [h.state], h.launchable⟩⟩

theorem matches_after (ev : FaultEvent) (h : p.Matches s) :
    (p.perform ev.operation).Ensures Exact (fun _ => True) e
      fun o _ => o.2.Matches (s.after ev.operation) := by
  cases ev with
  | inject fault timeout =>
    cases fault with
    | partition => exact h.unsupported.1
    | pause => exact matches_step h rfl (shows_pause h.shows)
    | stop => exact matches_step h rfl (shows_stop h.shows timeout)
    | kill => exact matches_step h rfl (shows_kill h.shows)
  | heal fault =>
    cases fault with
    | partition => exact h.unsupported.2
    | pause => exact matches_step h rfl (shows_resume h.shows)
    | stop | kill => exact matches_step h rfl (shows_restart h.shows)

end RemoteProcess

end Testbed
