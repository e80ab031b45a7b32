import Testbed.Proofs.Lifecycle.Automaton
import Testbed.Proofs.RemoteProcess.Tracking
/-!
# The life of a remote process

On a host without failures the state that is tracked of a process follows the automaton. No command
tells how the process does, so that every step is settled by the tracked state. It does not matter
whether a stop is in time, for a process that is killed has stopped as well.
-/

namespace Testbed.RemoteProcess

open Lab (Engine)

variable {p : RemoteProcess} {s : NodeState} {e : Engine}

/-- The process of a node was deployed, and is in a state. What was launched can be launched again. -/
structure Shows (p : RemoteProcess) (s : NodeState) : Prop where
  state : p.state = s
  deployed : s ≠ .undeployed
  launchable : ∃ cmd, p.launchCommand = .ok cmd

theorem Shows.move (h : p.Shows s) {s' : NodeState} (deployed : s' ≠ .undeployed) :
    ({ p with state := s' } : RemoteProcess).Shows s' :=
  ⟨rfl, deployed, h.launchable⟩

/-! ## Commands on a host without failures -/

theorem ensures_sent {operation flag : String} {post : Except Error Unit → Engine → Prop}
    (sent : post (.ok ()) e) :
    (p.signal operation flag).run.Ensures Faultless (fun _ => True) e post := by
  refine ensures_signal fun a t step => ?_
  obtain ⟨taken, rfl⟩ := step.sent
  exact ⟨trivial, fun _ => sent, fun failed => absurd taken failed⟩

/-- Signals get through or take too long. -/
theorem ensures_sentWithin {operation : String} {limit : Duration} {flags : List String}
    {post : Option (Except Error Unit) → Engine → Prop} (sent : post (some (.ok ())) e)
    (late : post none e) :
    (p.signalWithin operation limit flags).Ensures Faultless (fun _ => True) e post := by
  induction flags generalizing limit with
  | nil => exact sent
  | cons flag flags ih =>
    refine ensures_signalWithin_cons fun a t step => ?_
    obtain ⟨taken, rfl⟩ := step.sent
    exact ⟨trivial, late, fun _ left => ih, fun failed => absurd taken failed⟩

theorem ensures_launched (launchable : ∃ cmd, p.launchCommand = .ok cmd) {operation : String}
    {post : Except Error Unit → Engine → Prop} (launched : post (.ok ()) e) :
    (p.launch operation).run.Ensures Faultless (fun _ => True) e post := by
  obtain ⟨known, launches⟩ := launchable
  refine ensures_launch (fun err unknown => ?_) fun cmd launches a t step => ?_
  · cases launches.symm.trans unknown
  · obtain ⟨-, rfl⟩ := step.sent
    have done := step.done fun q flag => signalCommand_ne_launchCommand flag launches
    exact ⟨trivial, fun _ => launched, fun failed => absurd done failed⟩

/-! ## The steps of the automaton -/

/-- The engine has no part in the steps of a process. -/
abbrev Steps (work : Work (Outcome RemoteProcess)) (s : NodeState) (step : LifecycleStep)
    (e : Engine) : Prop :=
  Follows (fun p s _ => p.Shows s) work s step e

theorem shows_kill (h : p.Shows s) : Steps p.kill s .kill e := by
  unfold kill
  rw [h.state, if_neg h.deployed]
  refine Attempt.ensures_changing.2 (ensures_sent ?_)
  cases s with
  | undeployed => exact absurd rfl h.deployed
  | running | paused | stopped | destroyed => exact ⟨rfl, h.move (by simp)⟩

theorem shows_stop (h : p.Shows s) (timeout : Duration) :
    Steps (p.stop timeout) s (.stop timeout) e := by
  unfold stop stopFlags
  rw [h.state]
  cases s with
  | undeployed => exact absurd rfl h.deployed
  | running | paused =>
    exact Procedure.ensures_bind.2 (ensures_sentWithin ⟨rfl, h.move (by simp)⟩ (shows_kill h))
  | stopped | destroyed => exact ⟨rfl, h⟩

theorem shows_pause (h : p.Shows s) : Steps p.pause s .pause e := by
  unfold pause
  rw [h.state]
  cases s with
  | undeployed => exact absurd rfl h.deployed
  | running => exact Attempt.ensures_changing.2 (ensures_sent ⟨rfl, h.move (by simp)⟩)
  | paused | stopped | destroyed => exact ⟨rfl, h⟩

theorem shows_resume (h : p.Shows s) : Steps p.resume s .resume e := by
  unfold resume
  rw [h.state]
  cases s with
  | undeployed => exact absurd rfl h.deployed
  | paused => exact Attempt.ensures_changing.2 (ensures_sent ⟨rfl, h.move (by simp)⟩)
  | running | stopped | destroyed => exact ⟨rfl, h⟩

theorem shows_restart (h : p.Shows s) : Steps p.restart s .restart e := by
  unfold restart
  rw [h.state]
  cases s with
  | undeployed => exact absurd rfl h.deployed
  | stopped =>
    exact Attempt.ensures_changing.2 (ensures_launched h.launchable ⟨rfl, h.move (by simp)⟩)
  | running | paused | destroyed => exact ⟨rfl, h⟩

/-! ## From deployment to destruction -/

theorem shows_remove (h : p.Shows s) : Steps p.remove s .destroy e := by
  refine Attempt.ensures_changing.2 (Attempt.ensures_discard.2 (ensures_run fun a t step => ?_))
  have done := step.done fun q flag same => by
    have letters := congrArg (fun cmd : String => cmd.toList.head?) same
    rw [head_signalCommand] at letters
    simp [removeDirCommand, String.toList_append] at letters
  obtain ⟨output, rfl, -⟩ := done
  refine ⟨trivial, s.verdict_destroy.symm, ?_⟩
  rw [s.after_destroy]
  exact h.move (by simp)

/-- Whatever a node that is destroyed was before, it ends destroyed. -/
theorem shows_destroy (h : p.Shows s) : Steps (Backend.destroy p) s .destroy e := by
  refine Procedure.ensures_bind.2 ((shows_kill h).mono fun o t killed => ?_)
  refine Procedure.ensures_bind.2 (Attempt.ensures_keeping.2 ?_)
  exact Procedure.ensures_true.mono fun r u _ => (shows_remove killed.2).destroy

theorem shows_step (h : p.Shows s) (step : LifecycleStep) :
    Steps (step.action.apply p) s step e := by
  cases step with
  | stop timeout => exact shows_stop h timeout
  | kill => exact shows_kill h
  | pause => exact shows_pause h
  | resume => exact shows_resume h
  | restart => exact shows_restart h
  | destroy => exact shows_destroy h

/-- A process that was deployed runs. -/
theorem deploy_leads_ok {es : List (Event outside)} {p' : RemoteProcess}
    (deployed : p.deploy.Leads es (.ok (), p')) : p'.Shows .running := by
  have launchable := deploy_launchable deployed
  obtain ⟨_, _, r, -, -, last⟩ := Procedure.leads_bind.1 deployed
  cases r with
  | ok u =>
    cases (Procedure.leads_pure.1 last).2
    exact ⟨rfl, by simp, launchable⟩
  | error err => cases (Procedure.leads_pure.1 last).2

end Testbed.RemoteProcess
