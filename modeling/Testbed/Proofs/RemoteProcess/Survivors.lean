import Testbed.Proofs.RemoteProcess.Host
/-!
# No process survives its node

What is tracked of a process is only an approximation: the process may be gone, and after a stop that
failed it may end later. But the tracked state says enough about the processes of the node
(`Consistent`), and every operation keeps that (`keeps_step`), whatever fails. So there is never more
than one process, and none is left when the tracked state is `stopped` (`stopped_leaves_none`).
-/

namespace Testbed.RemoteProcess

/-- What the tracked state says about the processes of the node. -/
structure Consistent (s : NodeState) (l : List HostProcess) : Prop where
  single : Single l
  active : s = .running → ∀ x ∈ l, x = .active
  suspended : s = .paused → ∀ x ∈ l, x ≠ .active
  down : s = .stopped → l = []

variable {p : RemoteProcess} {s : NodeState} {l : List HostProcess}

theorem Consistent.gone (s : NodeState) : Consistent s [] :=
  ⟨Nat.zero_le 1, by simp, by simp, by simp⟩

theorem Consistent.launched : Consistent .running [.active] :=
  ⟨Nat.le_refl 1, by simp, by simp, by simp⟩

theorem Consistent.signalled (h : Consistent s l) (g : Signal) : Single (l.filterMap g.act) :=
  Nat.le_trans (List.length_filterMap_le _ _) h.single

/-- An operation leaves the processes of the node consistent with the state that is tracked then. -/
abbrev Keeps (p : RemoteProcess) (work : Work (Outcome RemoteProcess)) (l : List HostProcess) :
    Prop :=
  work.Ensures (Hosts p) Single l fun o t => Consistent o.2.state t

/-- A signal that is not sent changes nothing. -/
theorem keeps_signal (h : Consistent p.state l) (g : Signal) {operation : String} {s' : NodeState}
    (becomes : Consistent s' (l.filterMap g.act)) :
    p.Keeps ((p.signal operation g.flag).changing p { p with state := s' }) l := by
  refine Attempt.ensures_changing.2 (ensures_signal fun a t step => ?_)
  obtain ⟨sent, unsent⟩ := Hosts.signal rfl step
  by_cases taken : Sent a
  · obtain rfl := sent taken
    exact ⟨becomes.single, fun _ => becomes, fun failed => absurd taken failed⟩
  · obtain rfl := unsent taken
    exact ⟨h.single, fun succeeded => absurd succeeded taken, fun _ _ => h⟩

theorem keeps_kill (h : Consistent p.state l) : p.Keeps p.kill l := by
  unfold kill
  split
  · exact h
  · refine keeps_signal h .kill ?_
    rw [Signal.kill_leaves]
    exact .gone _

theorem keeps_pause (h : Consistent p.state l) : p.Keeps p.pause l := by
  unfold pause
  split
  · exact keeps_signal h .suspend
      ⟨h.signalled .suspend, by simp, fun _ => Signal.suspend_leaves, by simp⟩
  · exact h

theorem keeps_resume (h : Consistent p.state l) : p.Keeps p.resume l := by
  unfold resume
  split
  · exact keeps_signal h .resume
      ⟨h.signalled .resume, fun _ => Signal.resume_leaves, by simp, by simp⟩
  · exact h

/-- What comes after a signal that may be sent or not, and in time or too late. -/
theorem keeps_signalWithin {g : Signal} {flags : List String} {limit : Duration}
    {operation : String} {post : Option (Except Error Unit) → List HostProcess → Prop}
    (h : Consistent s l) (pending : Consistent s (l.filterMap g.act))
    (fallback : ∀ r t, r ≠ some (.ok ()) → Consistent s t → post r t)
    (next : ∀ left, (p.signalWithin operation left flags).Ensures (Hosts p) Single
      (l.filterMap g.act) post) :
    (p.signalWithin operation limit (g.flag :: flags)).Ensures (Hosts p) Single l post := by
  refine ensures_signalWithin_cons fun a t step => ?_
  obtain ⟨sent, unsent⟩ := Hosts.signal rfl step
  by_cases taken : Sent a
  · obtain rfl := sent taken
    exact ⟨pending.single, fallback _ _ (by simp) pending, fun _ => next,
      fun failed => absurd taken failed⟩
  · obtain rfl := unsent taken
    exact ⟨h.single, fallback _ _ (by simp) h, fun succeeded => absurd succeeded taken,
      fun _ _ => fallback _ _ (by simp) h⟩

/-- Whatever is left of a stop that failed, the process is killed. -/
theorem keeps_fallback (r : Option (Except Error Unit)) (t : List HostProcess) :
    r ≠ some (.ok ()) → Consistent p.state t →
      p.Keeps (match r with
        | some (.ok ()) => return (.ok (), { p with state := .stopped })
        | _ => p.kill) t := by
  intro failed left
  rcases r with _ | (err | _)
  · exact keeps_kill left
  · exact keeps_kill left
  · exact absurd rfl failed

/-- A process that is suspended is asked to end before it is continued, so that it ends then. -/
theorem keeps_stop (h : Consistent p.state l) (timeout : Duration) :
    p.Keeps (p.stop timeout) l := by
  unfold stop
  cases signals : p.stopFlags with
  | none => exact h
  | some flags =>
    unfold stopFlags at signals
    refine Procedure.ensures_bind.2 ?_
    cases state : p.state with
    | undeployed | stopped | destroyed =>
      rw [state] at signals
      cases signals
    | running =>
      rw [state] at signals
      cases signals
      have ended := Signal.terminate_leaves (h.active state)
      refine keeps_signalWithin (g := .terminate) h (ended ▸ .gone _) keeps_fallback fun _ => ?_
      rw [ended]
      exact .gone _
    | paused =>
      rw [state] at signals
      cases signals
      have pending : Consistent p.state (l.filterMap Signal.terminate.act) :=
        ⟨h.signalled .terminate, by simp [state], fun _ => Signal.terminate_pends, by simp [state]⟩
      refine keeps_signalWithin (g := .terminate) h pending keeps_fallback fun _ => ?_
      have ended := Signal.terminate_resume_leaves (l := l)
      refine keeps_signalWithin (g := .resume) pending (ended ▸ .gone _) keeps_fallback fun _ => ?_
      rw [ended]
      exact .gone _

/-- Only where a process was stopped is one launched. -/
theorem keeps_restart (h : Consistent p.state l) : p.Keeps p.restart l := by
  unfold restart
  cases state : p.state with
  | running | paused | undeployed | destroyed => exact h
  | stopped =>
    rw [h.down state]
    refine Attempt.ensures_changing.2
      (ensures_launch (fun _ _ => .gone _) fun cmd launches a t step => ?_)
    obtain ⟨done, undone⟩ := step.launch launches
    by_cases succeeds : Done a
    · obtain rfl := done succeeds
      exact ⟨Nat.le_refl 1, fun _ => .launched, fun failed => absurd succeeds failed⟩
    · obtain rfl := undone succeeds
      exact ⟨Nat.zero_le 1, fun succeeded => absurd succeeded succeeds, fun _ _ => .gone _⟩

/-! ## From deployment to destruction -/

theorem keeps_collectLogs (h : Consistent p.state l) :
    p.Keeps (p.collectLogs.keeping p) l := by
  have bound : p.collectLogs.run.Within p.Aside :=
    Attempt.within_bind (aside_run _ (showLogCommand_not_acts p)) fun _ =>
      Attempt.within_bind (Attempt.within_files fun _ same => nomatch same) fun _ =>
        Attempt.within_files fun _ same => nomatch same
  refine Attempt.ensures_keeping.2 ((ensures_aside bound h.single).mono ?_)
  rintro r _ rfl
  exact h

/-- A node whose kill failed may be destroyed with a process left, which is not stopped then. -/
theorem keeps_remove (h : Consistent p.state l) : p.Keeps p.remove l := by
  have bound := Attempt.within_discard (aside_run "remove" (removeDirCommand_not_acts p))
  refine Attempt.ensures_changing.2 ((ensures_aside bound h.single).mono ?_)
  rintro r _ rfl
  cases r with
  | ok u => exact ⟨h.single, by simp, by simp, by simp⟩
  | error err => exact h

theorem keeps_destroy (h : Consistent p.state l) : p.Keeps (Backend.destroy p) l := by
  refine Procedure.ensures_bind.2 ((keeps_kill h).leads.mono ?_)
  rintro ⟨_, q⟩ t ⟨consistent, es, killed⟩
  -- the host answers to the process as it is tracked after the kill
  refine Procedure.Ensures.weaken (R := Hosts q) ?_
    (fun _ _ _ step => step.tracks (kill_tracks killed)) fun _ => id
  refine Procedure.ensures_bind.2 (Attempt.ensures_keeping.2 ?_)
  exact (Attempt.ensures_keeping.1 (keeps_collectLogs consistent)).mono fun _ _ => keeps_remove

theorem keeps_step (h : Consistent p.state l) (step : LifecycleStep) :
    p.Keeps (step.action.apply p) l := by
  cases step with
  | stop timeout => exact keeps_stop h timeout
  | kill => exact keeps_kill h
  | pause => exact keeps_pause h
  | resume => exact keeps_resume h
  | restart => exact keeps_restart h
  | destroy => exact keeps_destroy h

/-- A deployment that succeeds has launched the only process. -/
theorem keeps_deploy : p.deploy.Ensures (Hosts p) Single [] fun o t =>
    o.1 = .ok () → Consistent o.2.state t := by
  refine Attempt.ensures_changing.2 (Attempt.ensures_wrap.2 (Attempt.ensures_bind.2 ?_))
  have created := Attempt.within_discard (aside_run "deploy" (createDirCommand_not_acts p))
  have none : Single [] := Nat.zero_le 1
  refine (ensures_aside created none).mono ?_
  rintro (err | _) _ rfl
  · exact fun failed => nomatch failed
  have copied : (askShell (.copy p.address p.artifact p.remoteArtifact)).Within p.Aside :=
    Procedure.within_ask.2 fun _ same => nomatch same
  refine Attempt.ensures_bind.2 ((ensures_aside copied none).mono ?_)
  rintro (err | _) _ rfl
  · exact fun failed => nomatch failed
  refine ensures_launch (fun _ _ failed => nomatch failed) fun cmd launches a t step => ?_
  obtain ⟨done, undone⟩ := step.launch launches
  by_cases succeeds : Done a
  · obtain rfl := done succeeds
    exact ⟨Nat.le_refl 1, fun _ _ => Consistent.launched, fun failed => absurd succeeds failed⟩
  · obtain rfl := undone succeeds
    exact ⟨none, fun succeeded => absurd succeeded succeeds, fun _ _ failed => nomatch failed⟩

/-! ## Whole lives -/

theorem action_tracks {action : Backend.Action} {es : List (Event outside)}
    {o : Outcome RemoteProcess} (acted : (action.apply p).Leads es o) : p.Tracks o.2 := by
  cases action with
  | perform op => exact perform_tracks acted
  | destroy =>
    obtain ⟨_, _, killed, -, kill, acted⟩ := Procedure.leads_bind.1 acted
    obtain ⟨_, _, collected, -, collect, remove⟩ := Procedure.leads_bind.1 acted
    have kept : killed.2.Tracks collected.2 := @perform_tracks killed.2 _ .collectLogs _ collect
    exact ((kill_tracks kill).trans kept).trans (@perform_tracks collected.2 _ .remove _ remove)

/-- Deploys a process and takes steps, whatever comes of any. -/
def live (p : RemoteProcess) (steps : List LifecycleStep) : Work RemoteProcess := do
  let (_, p) ← p.deploy
  inTurn (steps.map fun step => step.action.apply) p

theorem keeps_steps {q : RemoteProcess} (tracks : p.Tracks q) (h : Consistent q.state l)
    (steps : List LifecycleStep) :
    (inTurn (steps.map fun step => step.action.apply) q).Ensures (Hosts p) Single l
      fun q t => p.Tracks q ∧ Consistent q.state t := by
  refine ensures_inTurn ?_ ⟨tracks, h⟩
  rintro act mem q l ⟨tracks, h⟩
  obtain ⟨step, -, rfl⟩ := List.mem_map.1 mem
  refine Procedure.Ensures.weaken (R := Hosts q) ?_ (fun _ _ _ call => call.tracks tracks)
    fun _ => id
  exact (keeps_step h step).leads.mono fun o t ⟨h, es, acted⟩ =>
    ⟨tracks.trans (action_tracks acted), h⟩

/-- After a deployment that succeeded, whatever is done then and whatever fails: a process that is
tracked as stopped has left none on its host, and there never is more than one. -/
theorem stopped_leaves_none {σ : Type} {peers : Peers outside σ} {view : σ → List HostProcess}
    (obey : peers.Obey view (Hosts p)) {m : Moment σ} (vacant : view m.state = [])
    (deployed : (p.deploy.run peers m).1.1 = .ok ()) (steps : List LifecycleStep) :
    (((p.live steps).run peers m).1.state = .stopped →
        view ((p.live steps).run peers m).2.state = []) ∧
      ∀ x ∈ (p.live steps).history peers m, (view x.2).length ≤ 1 := by
  have deploys : p.deploy.Ensures (Hosts p) Single (view m.state) fun o t =>
      o.1 = .ok () → p.Tracks o.2 ∧ Consistent o.2.state t := by
    rw [vacant]
    refine keeps_deploy.leads.mono fun o t ⟨kept, es, placed⟩ succeeded => ⟨?_, kept succeeded⟩
    exact @perform_tracks p es .deploy o placed
  obtain ⟨tracks, consistent⟩ := deploys.run obey deployed
  have kept := keeps_steps tracks consistent steps
  refine ⟨fun stopped => ?_, fun x mem => ?_⟩
  · rw [live, Procedure.run_bind] at stopped ⊢
    exact (kept.run obey).2.down stopped
  · rw [live, Procedure.history_bind] at mem
    rcases List.mem_append.1 mem with mem | mem
    · exact deploys.history obey x mem
    · exact kept.history obey x mem

/-- A process is paused and then stopped, but only the first of two signals is in time, and the host
loses the one that kills. Killed again, the process is gone. -/
theorem stopped_leaves_none_cut_off :
    let p := ofNode (.ofPort 9000) "10.0.0.1" .default "/logs"
    let host := FlakyHost.peers p ⟨10⟩
    let m : Moment FlakyHost := ⟨.zero, [false, false, false, false, false, true], []⟩
    let life := p.live [.pause, .stop ⟨15⟩, .kill]
    (life.run host m).1.state = .stopped ∧ (life.run host m).2.state.processes = [] ∧
      ∀ x ∈ life.history host m, x.2.processes.length ≤ 1 := by
  intro p host m life
  have deployed : (p.deploy.run host m).1.1 = .ok () := toOption_eq_some.1 (by decide +kernel)
  have stopped : (life.run host m).1.state = .stopped := by decide +kernel
  have none := stopped_leaves_none (FlakyHost.peers_obey p ⟨10⟩) (m := m) rfl deployed
    [.pause, .stop ⟨15⟩, .kill]
  exact ⟨stopped, none.1 stopped, none.2⟩

end Testbed.RemoteProcess
