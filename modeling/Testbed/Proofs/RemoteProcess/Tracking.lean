import Testbed.Backend.RemoteProcess
import Testbed.Proofs.Procedure.History
/-!
# What is tracked of a process

Operations change the tracked state of a process and nothing else (`Tracks`), so that a process that
was deployed can be launched again (`deploy_launchable`).
-/

namespace Testbed.RemoteProcess

variable {p p' : RemoteProcess} {es : List (Event outside)}

/-- An operation changes the state of a process at most. -/
def Tracks (p p' : RemoteProcess) : Prop := ∃ x, p' = { p with state := x }

theorem Tracks.refl (p : RemoteProcess) : p.Tracks p := ⟨p.state, rfl⟩

theorem Tracks.trans {p'' : RemoteProcess} (h : p.Tracks p') (h' : p'.Tracks p'') :
    p.Tracks p'' := by
  obtain ⟨x, rfl⟩ := h
  obtain ⟨y, rfl⟩ := h'
  exact ⟨y, rfl⟩

theorem changing_tracks {a : Attempt Unit} {o : Outcome RemoteProcess} (tracks : p.Tracks p')
    (h : (a.changing p p').Leads es o) : p.Tracks o.2 := by
  obtain ⟨_, _, r, -, -, h⟩ := Procedure.leads_bind.1 h
  cases r with
  | ok u =>
    rw [(Procedure.leads_pure.1 h).2]
    exact tracks
  | error e =>
    rw [(Procedure.leads_pure.1 h).2]
    exact .refl p

theorem kill_tracks {o : Outcome RemoteProcess} (h : p.kill.Leads es o) : p.Tracks o.2 := by
  unfold kill at h
  split at h
  · rw [(Procedure.leads_pure.1 h).2]
    exact .refl p
  · exact changing_tracks ⟨_, rfl⟩ h

theorem stop_tracks {timeout : Duration} {o : Outcome RemoteProcess}
    (h : (p.stop timeout).Leads es o) : p.Tracks o.2 := by
  unfold stop at h
  split at h
  · rw [(Procedure.leads_pure.1 h).2]
    exact .refl p
  · obtain ⟨_, _, sent, -, -, h⟩ := Procedure.leads_bind.1 h
    split at h
    · rw [(Procedure.leads_pure.1 h).2]
      exact ⟨_, rfl⟩
    · exact kill_tracks h

theorem perform_tracks {op : Operation} {o : Outcome RemoteProcess}
    (h : (p.perform op).Leads es o) : p.Tracks o.2 := by
  cases op with
  | deploy => exact changing_tracks ⟨_, rfl⟩ h
  | remove => exact changing_tracks ⟨_, rfl⟩ h
  | kill => exact kill_tracks h
  | stop timeout => exact stop_tracks h
  | pause =>
    change p.pause.Leads es o at h
    unfold pause at h
    split at h
    · exact changing_tracks ⟨_, rfl⟩ h
    · rw [(Procedure.leads_pure.1 h).2]
      exact .refl p
  | resume =>
    change p.resume.Leads es o at h
    unfold resume at h
    split at h
    · exact changing_tracks ⟨_, rfl⟩ h
    · rw [(Procedure.leads_pure.1 h).2]
      exact .refl p
  | restart =>
    change p.restart.Leads es o at h
    unfold restart at h
    split at h
    · exact changing_tracks ⟨_, rfl⟩ h
    all_goals
      rw [(Procedure.leads_pure.1 h).2]
      exact .refl p
  | disconnect | reconnect =>
    rw [(Procedure.leads_pure.1 h).2]
    exact .refl p
  | collectLogs =>
    obtain ⟨r, -, rfl⟩ := Procedure.leads_map.1 h
    exact .refl p

theorem launch_launchable {operation : String} {u : Unit}
    (h : (p.launch operation).run.Leads es (.ok u)) : ∃ cmd, p.launchCommand = .ok cmd := by
  obtain ⟨_, _, cmd, -, known, -⟩ := Attempt.leads_bind_ok.1 h
  exact ⟨cmd, (Procedure.leads_pure.1 known).2.symm⟩

/-- Deploying a process launches it. -/
theorem deploy_launchable (h : p.deploy.Leads es (.ok (), p')) :
    ∃ cmd, p'.launchCommand = .ok cmd := by
  obtain ⟨x, rfl⟩ : p.Tracks p' := @perform_tracks p es .deploy _ h
  obtain ⟨_, _, r, -, placed, h⟩ := Procedure.leads_bind.1 h
  obtain ⟨r', placing, rfl⟩ := Procedure.leads_map.1 placed
  cases r' with
  | error e => cases (Procedure.leads_pure.1 h).2
  | ok u =>
    obtain ⟨_, _, _, -, -, rest⟩ := Attempt.leads_bind_ok.1 placing
    obtain ⟨_, _, _, -, -, launched⟩ := Attempt.leads_bind_ok.1 rest
    exact launch_launchable launched

end Testbed.RemoteProcess
