import Mathlib.Data.List.Forall2
import Testbed.Proofs.Cluster.Isolation
import Testbed.Proofs.Engine.Conduct
import Testbed.Proofs.RemoteProcess.Commands
import Testbed.Proofs.RemoteProcess.Tracking
/-!
# Which exit codes count

An operation of a process succeeds if all that it asked for was answered well (`perform_ok_iff`). For
a launch that is the code zero, and for a signal also the one which says that no process matched. The
commands that create the directory of a node, show its log and remove the directory are not judged by
their codes at all. They need an answer, and no code in it makes a difference to what is done
(`perform_overlooks`), neither to the state of a process that is deployed or removed nor to whether a
cluster lets go of a node (`destroy_lets_go`).
-/

namespace Testbed

namespace Procedure

variable {I : Interface} {α β : Type} {same : Event I → Event I → Prop}

/-- It makes no difference to the procedure which of two answers it is given, if they count for the
same. -/
def Overlooks (same : Event I → Event I → Prop) (p : Procedure I α) : Prop :=
  ∀ es fs r, List.Forall₂ same es fs → p.Leads es r → p.Leads fs r

theorem overlooks_pure (a : α) : (pure a : Procedure I α).Overlooks same := by
  intro es fs r pairs leads
  obtain ⟨rfl, rfl⟩ := leads_pure.1 leads
  cases pairs
  exact leads

theorem Overlooks.bind {p : Procedure I α} {f : α → Procedure I β} (first : p.Overlooks same)
    (rest : ∀ a, (f a).Overlooks same) : (p >>= f).Overlooks same := by
  intro es fs r pairs leads
  obtain ⟨es₁, es₂, a, rfl, leads₁, leads₂⟩ := leads_bind.1 leads
  have pairs₁ := List.forall₂_take es₁.length pairs
  have pairs₂ := List.forall₂_drop es₁.length pairs
  rw [List.take_left] at pairs₁
  rw [List.drop_left] at pairs₂
  have joined := (first _ _ _ pairs₁ leads₁).bind (rest a _ _ _ pairs₂ leads₂)
  rwa [List.take_append_drop] at joined

theorem Overlooks.map {p : Procedure I α} (h : p.Overlooks same) (f : α → β) :
    (f <$> p).Overlooks same := by
  rw [map_eq_pure_bind]
  exact h.bind fun a => overlooks_pure (f a)

/-- Procedures whose calls have answers that count for themselves only. -/
theorem Within.overlooks {C : I.Call → Prop} {p : Procedure I α} (within : p.Within C)
    (told : ∀ e f, C e.call → same e f → e = f) : p.Overlooks same := by
  intro es fs r pairs leads
  have calls := within.leads leads
  have unchanged : es = fs := by
    clear leads
    induction pairs with
    | nil => rfl
    | cons pair _ ih =>
      have head := told _ _ (calls _ List.mem_cons_self) pair
      have tail := ih fun e mem => calls e (List.mem_cons_of_mem _ mem)
      rw [head, tail]
  rwa [← unchanged]

end Procedure

namespace Attempt

variable {α β : Type} {same : Event outside → Event outside → Prop}
  {passes : Event outside → Prop} {es : List (Event outside)}

theorem overlooks_bind {p : Attempt α} {f : α → Attempt β} (first : p.run.Overlooks same)
    (rest : ∀ a, (f a).run.Overlooks same) : (p >>= f).run.Overlooks same := by
  rw [ExceptT.run_bind]
  refine first.bind fun r => ?_
  cases r with
  | ok a => exact rest a
  | error e => exact Procedure.overlooks_pure _

theorem overlooks_changing {γ : Type} {p : Attempt Unit} (h : p.run.Overlooks same) (b after : γ) :
    (p.changing b after).Overlooks same := by
  refine h.bind fun r => ?_
  cases r with
  | ok a => exact Procedure.overlooks_pure _
  | error e => exact Procedure.overlooks_pure _

/-- Whether the attempt succeeds is judged by what its calls are answered. -/
def Judged (passes : Event outside → Prop) (p : Attempt α) : Prop :=
  ∀ es r, p.run.Leads es r → ((∃ a, r = .ok a) ↔ ∀ e ∈ es, passes e)

theorem Judged.bind {p : Attempt α} {f : α → Attempt β} (first : p.Judged passes)
    (rest : ∀ a, (f a).Judged passes) : (p >>= f).Judged passes := by
  intro es r leads
  rcases leads_bind.1 leads with ⟨fs, gs, a, rfl, start, later⟩ | ⟨e, start, rfl⟩
  · have passed := (first fs _ start).1 ⟨a, rfl⟩
    rw [rest a gs r later]
    constructor
    · intro passed' e mem
      exact (List.mem_append.1 mem).elim (passed e) (passed' e)
    · intro all e mem
      exact all e (List.mem_append_right _ mem)
  · constructor
    · rintro ⟨_, ⟨⟩⟩
    · intro all
      obtain ⟨_, ⟨⟩⟩ := (first es _ start).2 all

theorem judged_answer {c : Call} {f : c.Answer → Except Error α}
    (told : ∀ a, (∃ x, f a = .ok x) ↔ passes ⟨c, a⟩) :
    (ofAnswer (f <$> Procedure.ask (I := outside) c)).Judged passes := by
  intro es r leads
  obtain ⟨a, asked, rfl⟩ := Procedure.leads_map.1 leads
  rw [Procedure.leads_ask.1 asked, told a]
  simp

theorem Judged.wrap {p : Attempt α} (h : p.Judged passes) (f : Error → Error) :
    (p.wrap f).Judged passes := by
  intro es r leads
  obtain ⟨r, inner, rfl⟩ := Procedure.leads_map.1 leads
  rw [← h es r inner]
  cases r <;> simp [Except.mapError]

theorem Judged.discard {p : Attempt α} (h : p.Judged passes) :
    (discard p : Attempt Unit).Judged passes := by
  intro es r leads
  change ((fun _ => ()) <$> p).run.Leads es r at leads
  rw [ExceptT.run_map] at leads
  obtain ⟨r, inner, rfl⟩ := Procedure.leads_map.1 leads
  rw [← h es r inner]
  cases r <;> simp [Except.map]

theorem Judged.changing {γ : Type} {p : Attempt Unit} {b after : γ} {o : Outcome γ}
    (h : p.Judged passes) (leads : (p.changing b after).Leads es o) :
    o.1 = .ok () ↔ ∀ e ∈ es, passes e := by
  obtain ⟨fs, gs, r, rfl, inner, last⟩ := Procedure.leads_bind.1 leads
  have judged := h fs r inner
  cases r with
  | ok a =>
    obtain ⟨rfl, rfl⟩ := Procedure.leads_pure.1 last
    simpa using judged
  | error e =>
    obtain ⟨rfl, rfl⟩ := Procedure.leads_pure.1 last
    simpa using judged

theorem Judged.keeping {γ : Type} {p : Attempt Unit} {b : γ} {o : Outcome γ}
    (h : p.Judged passes) (leads : (p.keeping b).Leads es o) :
    o.1 = .ok () ↔ ∀ e ∈ es, passes e := by
  obtain ⟨r, inner, rfl⟩ := Procedure.leads_map.1 leads
  rw [← h es r inner]
  cases r <;> simp

end Attempt

namespace RemoteProcess

variable {p : RemoteProcess} {op : Operation} {cmd operation : String}
  {es : List (Event outside)} {o : Outcome RemoteProcess}

/-! ## What succeeds -/

/-- The commands whose exit codes are not looked at. -/
def unjudged (p : RemoteProcess) : List String :=
  [p.createDirCommand, p.showLogCommand, p.removeDirCommand]

/-- The answer is one that an operation goes on from. -/
def Passes (p : RemoteProcess) : Event outside → Prop
  | ⟨.shell (.run _ cmd), a⟩ => ∃ output, a = .ok output ∧
      (output.exitCode = 0 ∨ cmd ∈ p.unjudged ∨
        (∃ g : Signal, cmd = p.signalCommand g.flag) ∧ output.exitCode = noMatch)
  | ⟨.shell (.copy _ _ _), a⟩ => a = .ok ()
  | ⟨.file _, a⟩ => a = .ok ()
  | _ => True

/-- The process is in a state for the operation, and there is a command line if it is launched. -/
def Admits (p : RemoteProcess) : Operation → Prop
  | .deploy => ∃ cmd, p.launchCommand = .ok cmd
  | .restart =>
    match p.state with
    | .stopped => ∃ cmd, p.launchCommand = .ok cmd
    | .running | .paused => True
    | .undeployed | .destroyed => False
  | .disconnect | .reconnect => False
  | _ => True

theorem unjudged_not_acts (listed : cmd ∈ p.unjudged) : ¬p.Acts cmd := by
  simp only [unjudged, List.mem_cons, List.not_mem_nil, or_false] at listed
  rcases listed with rfl | rfl | rfl
  · exact createDirCommand_not_acts p
  · exact showLogCommand_not_acts p
  · exact removeDirCommand_not_acts p

theorem passes_signal (g : Signal) {a : Except Error CommandOutput} :
    p.Passes ⟨.shell (.run p.address (p.signalCommand g.flag)), a⟩ ↔ Sent a := by
  have signal : ∃ h : Signal, p.signalCommand g.flag = p.signalCommand h.flag := ⟨g, rfl⟩
  have judged : p.signalCommand g.flag ∉ p.unjudged :=
    fun listed => unjudged_not_acts listed (.inl signal)
  simp [Passes, Sent, CommandOutput.success, signal, judged]

theorem passes_launch (launches : p.launchCommand = .ok cmd) {a : Except Error CommandOutput} :
    p.Passes ⟨.shell (.run p.address cmd), a⟩ ↔ Done a := by
  have judged : cmd ∉ p.unjudged := fun listed => unjudged_not_acts listed (.inr launches)
  have other : ¬∃ g : Signal, cmd = p.signalCommand g.flag := by
    rintro ⟨g, same⟩
    exact signalCommand_ne_launchCommand g.flag launches same
  simp [Passes, Done, CommandOutput.success, judged, other]

theorem run_judged (listed : cmd ∈ p.unjudged) : (p.run operation cmd).Judged p.Passes := by
  refine Attempt.Judged.wrap ?_ _
  intro es r leads
  rw [Procedure.leads_ask.1 leads]
  cases r with
  | ok output => simp [Passes, listed]
  | error e => simp [Passes]

theorem copy_judged : (Attempt.ofAnswer
    (askShell (.copy p.address p.artifact p.remoteArtifact))).Judged p.Passes := by
  intro es r leads
  rw [Procedure.leads_ask.1 leads]
  cases r with
  | ok u => simp [Passes]
  | error e => simp [Passes]

theorem files_judged (f : FileCall) : (askFiles f).Judged p.Passes := by
  refine Attempt.judged_answer fun a => ?_
  cases a with
  | ok u => simp [Passes, Except.mapError]
  | error e => simp [Passes, Except.mapError]

theorem signal_judged (g : Signal) : (p.signal operation g.flag).Judged p.Passes := by
  refine Attempt.judged_answer fun a => ?_
  rw [passes_signal g]
  constructor
  · rintro ⟨_, checked⟩
    by_contra failed
    obtain ⟨err, refused⟩ := checkSignal_not_sent p operation g.flag failed
    cases checked.symm.trans refused
  · exact fun sent => ⟨(), checkSignal_sent sent⟩

theorem run_leads {r : Except Error CommandOutput} :
    (p.run operation cmd).run.Leads es r ↔
      ∃ a : Except Error CommandOutput, es = [⟨.shell (.run p.address cmd), a⟩] ∧
        r = a.mapError (p.failure operation) := by
  constructor
  · intro leads
    obtain ⟨a, asked, rfl⟩ := Procedure.leads_map.1 leads
    exact ⟨a, Procedure.leads_ask.1 asked, rfl⟩
  · rintro ⟨a, rfl, rfl⟩
    exact Procedure.leads_map.2 ⟨a, Procedure.leads_ask.2 rfl, rfl⟩

theorem discard_run_leads {r : Except Error Unit} :
    (discard (p.run operation cmd) : Attempt Unit).run.Leads es r ↔
      ∃ a : Except Error CommandOutput, es = [⟨.shell (.run p.address cmd), a⟩] ∧
        r = (a.mapError (p.failure operation)).map fun _ => () := by
  change ((fun _ => ()) <$> p.run operation cmd).run.Leads es r ↔ _
  rw [ExceptT.run_map]
  constructor
  · intro leads
    obtain ⟨r, run, rfl⟩ := Procedure.leads_map.1 leads
    obtain ⟨a, rfl, rfl⟩ := run_leads.1 run
    exact ⟨a, rfl, rfl⟩
  · rintro ⟨a, rfl, rfl⟩
    exact Procedure.leads_map.2 ⟨_, run_leads.2 ⟨a, rfl, rfl⟩, rfl⟩

theorem launch_judged (launches : p.launchCommand = .ok cmd) :
    (p.launch operation).Judged p.Passes := by
  intro es r leads
  unfold launch at leads
  rw [launches] at leads
  change ((p.run operation cmd >>= fun output : CommandOutput =>
    if !output.success then
      throw (.node p.name operation ("launch exited with " ++ toString output.exitCode))
    else pure ()) : Attempt Unit).run.Leads es r at leads
  obtain ⟨fs, gs, output, rfl, run, checked⟩ | ⟨e, run, rfl⟩ := Attempt.leads_bind.1 leads
  · obtain ⟨a, rfl, answered⟩ := run_leads.1 run
    cases a with
    | error e => cases answered
    | ok said =>
      cases answered
      cases succeeds : output.success with
      | true =>
        rw [succeeds] at checked
        obtain ⟨rfl, rfl⟩ := Procedure.leads_pure.1 checked
        simp [passes_launch launches, Done, succeeds]
      | false =>
        rw [succeeds] at checked
        obtain ⟨rfl, rfl⟩ := Procedure.leads_pure.1 checked
        simp [passes_launch launches, Done, succeeds]
  · obtain ⟨a, rfl, answered⟩ := run_leads.1 run
    cases a with
    | error e => simp [passes_launch launches, Done]
    | ok said => cases answered

/-- Without a command line nothing is launched. -/
theorem launch_unknown {err : Error} (unknown : p.launchCommand = .error err)
    {r : Except Error Unit} (leads : (p.launch operation).run.Leads es r) : r = .error err := by
  unfold launch at leads
  rw [unknown] at leads
  exact (Procedure.leads_pure.1 leads).2

theorem place_judged (launches : p.launchCommand = .ok cmd) : p.place.Judged p.Passes :=
  (run_judged (by simp [unjudged])).discard.bind fun _ =>
    copy_judged.bind fun _ => launch_judged launches

theorem place_unknown {err : Error} (unknown : p.launchCommand = .error err)
    {r : Except Error Unit} (leads : p.place.run.Leads es r) : r ≠ .ok () := by
  rintro rfl
  obtain ⟨_, _, _, -, -, rest⟩ := Attempt.leads_bind_ok.1 leads
  obtain ⟨_, _, _, -, -, launch⟩ := Attempt.leads_bind_ok.1 rest
  cases launch_unknown unknown launch

theorem collectLogs_judged : p.collectLogs.Judged p.Passes :=
  (run_judged (by simp [unjudged])).bind fun _ =>
    (files_judged _).bind fun _ => files_judged _

theorem deploy_unknown {err : Error} (unknown : p.launchCommand = .error err)
    (leads : p.deploy.Leads es o) : o.1 ≠ .ok () := by
  obtain ⟨fs, gs, r, rfl, wrapped, last⟩ := Procedure.leads_bind.1 leads
  obtain ⟨r, placed, rfl⟩ := Procedure.leads_map.1 wrapped
  cases r with
  | ok u => exact absurd rfl (place_unknown unknown placed)
  | error e =>
    rw [(Procedure.leads_pure.1 last).2]
    simp

theorem restart_ok_iff (leads : p.restart.Leads es o) :
    o.1 = .ok () ↔ p.Admits .restart ∧ ∀ e ∈ es, p.Passes e := by
  unfold restart at leads
  simp only [Admits]
  cases tracked : p.state with
  | stopped =>
    simp only [tracked] at leads
    cases launches : p.launchCommand with
    | error err =>
      obtain ⟨fs, gs, r, rfl, launch, last⟩ := Procedure.leads_bind.1 leads
      cases launch_unknown launches launch
      rw [(Procedure.leads_pure.1 last).2]
      simp
    | ok cmd =>
      have judged := (launch_judged launches).changing leads
      simp [judged]
  | running | paused | undeployed | destroyed =>
    simp only [tracked] at leads
    obtain ⟨rfl, rfl⟩ := Procedure.leads_pure.1 leads
    simp

/-- Of the operations, only a stop can go on from an answer that it does not like. -/
theorem perform_ok_iff (steady : ∀ timeout, op ≠ .stop timeout)
    (leads : (p.perform op).Leads es o) :
    o.1 = .ok () ↔ p.Admits op ∧ ∀ e ∈ es, p.Passes e := by
  have idle {b : RemoteProcess}
      (leads : (pure (.ok (), b) : Work (Outcome RemoteProcess)).Leads es o) :
      o.1 = .ok () ↔ ∀ e ∈ es, p.Passes e := by
    obtain ⟨rfl, rfl⟩ := Procedure.leads_pure.1 leads
    simp
  cases op with
  | deploy =>
    cases launches : p.launchCommand with
    | error err => simp [deploy_unknown launches leads, Admits, launches]
    | ok cmd =>
      have judged := ((place_judged launches).wrap _).changing leads
      simp [judged, Admits, launches]
  | restart => exact restart_ok_iff leads
  | stop timeout => exact absurd rfl (steady timeout)
  | disconnect | reconnect =>
    obtain ⟨rfl, rfl⟩ := Procedure.leads_pure.1 leads
    simp [Admits]
  | kill =>
    change p.kill.Leads es o at leads
    unfold kill at leads
    simp only [Admits, true_and]
    split at leads
    · exact idle leads
    · exact (signal_judged .kill).changing leads
  | pause =>
    change p.pause.Leads es o at leads
    unfold pause at leads
    simp only [Admits, true_and]
    split at leads
    · exact (signal_judged .suspend).changing leads
    · exact idle leads
  | resume =>
    change p.resume.Leads es o at leads
    unfold resume at leads
    simp only [Admits, true_and]
    split at leads
    · exact (signal_judged .resume).changing leads
    · exact idle leads
  | collectLogs =>
    simp only [Admits, true_and]
    exact collectLogs_judged.keeping leads
  | remove =>
    simp only [Admits, true_and]
    exact (run_judged (by simp [unjudged])).discard.changing leads

/-! ## What makes no difference -/

/-- The events differ at most in the exit code of a command that is not judged by it. -/
def Recodes (p : RemoteProcess) (e f : Event outside) : Prop :=
  e = f ∨ ∃ host cmd output code, cmd ∈ p.unjudged ∧
    e = ⟨.shell (.run host cmd), .ok output⟩ ∧
    f = ⟨.shell (.run host cmd), .ok { output with exitCode := code }⟩

/-- Calls to the host other than those commands. -/
def Told (p : RemoteProcess) (c : Call) : Prop :=
  ∀ host cmd, c = .shell (.run host cmd) → cmd ∉ p.unjudged

theorem told_acts {host : String} (acts : p.Acts cmd) : p.Told (.shell (.run host cmd)) := by
  rintro _ _ ⟨⟩ listed
  exact unjudged_not_acts listed acts

theorem overlooks_of_told {α : Type} {q : Work α} (within : q.Within p.Told) :
    q.Overlooks p.Recodes := by
  refine within.overlooks ?_
  rintro e f told (rfl | ⟨host, cmd, output, code, listed, rfl, -⟩)
  · rfl
  · exact absurd listed (told host cmd rfl)

/-- What follows a command may use what it printed. -/
theorem run_overlooks {α : Type} {f : CommandOutput → Attempt α}
    (blind : ∀ output code, f { output with exitCode := code } = f output)
    (rest : ∀ output, (f output).run.Overlooks p.Recodes) :
    (p.run operation cmd >>= f).run.Overlooks p.Recodes := by
  intro es fs r pairs leads
  obtain ⟨_, gs, output, rfl, run, later⟩ | ⟨e, run, rfl⟩ := Attempt.leads_bind.1 leads
  · obtain ⟨a, rfl, answered⟩ := run_leads.1 run
    cases pairs with
    | cons pair pairs =>
      have later' := rest output _ _ _ pairs later
      rcases pair with rfl | ⟨host, cmd, output, code, listed, is, rfl⟩
      · exact Attempt.leads_bind.2 (.inl ⟨_, _, output, rfl, run, later'⟩)
      · cases is
        cases answered
        rw [← blind output code] at later'
        refine Attempt.leads_bind.2 (.inl ⟨[_], _, _, rfl, run_leads.2 ?_, later'⟩)
        exact ⟨.ok { output with exitCode := code }, rfl, rfl⟩
  · obtain ⟨a, rfl, answered⟩ := run_leads.1 run
    cases pairs with
    | cons pair pairs =>
      cases pairs
      rcases pair with rfl | ⟨host, cmd, output, code, listed, is, -⟩
      · exact leads
      · cases is
        cases answered

theorem discard_run_overlooks :
    (discard (p.run operation cmd) : Attempt Unit).run.Overlooks p.Recodes := by
  change ((fun _ => ()) <$> p.run operation cmd).run.Overlooks p.Recodes
  rw [map_eq_pure_bind]
  exact run_overlooks (fun _ _ => rfl) fun _ => Procedure.overlooks_pure _

theorem signal_overlooks (g : Signal) :
    (p.signal operation g.flag).run.Overlooks p.Recodes :=
  overlooks_of_told (Procedure.Within.map (Procedure.within_ask.2 (told_acts (.inl ⟨g, rfl⟩))) _)

theorem launch_overlooks : (p.launch operation).run.Overlooks p.Recodes := by
  unfold launch
  cases launches : p.launchCommand with
  | error e => exact Procedure.overlooks_pure _
  | ok cmd =>
    have acts : p.Told (.shell (.run p.address cmd)) := told_acts (.inr launches)
    have checked : ((p.run operation cmd >>= fun output : CommandOutput =>
        if !output.success then
          throw (.node p.name operation ("launch exited with " ++ toString output.exitCode))
        else pure ()) : Attempt Unit).run.Overlooks p.Recodes := by
      refine Attempt.overlooks_bind (overlooks_of_told (run_within _ acts)) fun output => ?_
      split <;> exact Procedure.overlooks_pure _
    exact checked

theorem appendLog_overlooks {dir name contents : String} :
    (appendLog dir name contents).run.Overlooks p.Recodes := by
  have told (f : FileCall) : p.Told (.file f) := by
    rintro _ _ ⟨⟩
  refine overlooks_of_told (Attempt.within_bind (Attempt.within_files (told _)) fun _ => ?_)
  exact Attempt.within_files (told _)

theorem place_overlooks : p.place.run.Overlooks p.Recodes := by
  have told : p.Told (.shell (.copy p.address p.artifact p.remoteArtifact)) := by
    rintro _ _ ⟨⟩
  refine Attempt.overlooks_bind discard_run_overlooks fun _ => ?_
  refine Attempt.overlooks_bind (overlooks_of_told (Procedure.within_ask.2 told)) fun _ => ?_
  exact launch_overlooks

theorem collectLogs_overlooks : p.collectLogs.run.Overlooks p.Recodes :=
  run_overlooks (fun _ _ => rfl) fun _ => appendLog_overlooks

/-- Whether such a command fails makes no difference to what an operation does and comes to. -/
theorem perform_overlooks (steady : ∀ timeout, op ≠ .stop timeout) :
    (p.perform op).Overlooks p.Recodes := by
  cases op with
  | deploy => exact Attempt.overlooks_changing (place_overlooks.map _) _ _
  | stop timeout => exact absurd rfl (steady timeout)
  | disconnect | reconnect => exact Procedure.overlooks_pure _
  | kill =>
    change p.kill.Overlooks p.Recodes
    unfold kill
    split
    · exact Procedure.overlooks_pure _
    · exact Attempt.overlooks_changing (signal_overlooks .kill) _ _
  | pause =>
    change p.pause.Overlooks p.Recodes
    unfold pause
    split
    · exact Attempt.overlooks_changing (signal_overlooks .suspend) _ _
    · exact Procedure.overlooks_pure _
  | resume =>
    change p.resume.Overlooks p.Recodes
    unfold resume
    split
    · exact Attempt.overlooks_changing (signal_overlooks .resume) _ _
    · exact Procedure.overlooks_pure _
  | restart =>
    change p.restart.Overlooks p.Recodes
    unfold restart
    split
    · exact Attempt.overlooks_changing launch_overlooks _ _
    all_goals exact Procedure.overlooks_pure _
  | collectLogs => exact collectLogs_overlooks.map _
  | remove => exact Attempt.overlooks_changing discard_run_overlooks _ _

/-! ## What is let go -/

theorem remove_leads (leads : p.remove.Leads es o) :
    ∃ a : Except Error CommandOutput, es = [⟨.shell (.run p.address p.removeDirCommand), a⟩] ∧
      (o.1 = .ok () ↔ ∃ output, a = .ok output) := by
  obtain ⟨fs, gs, r, rfl, inner, last⟩ := Procedure.leads_bind.1 leads
  obtain ⟨a, rfl, rfl⟩ := discard_run_leads.1 inner
  cases a with
  | ok output =>
    obtain ⟨rfl, rfl⟩ := Procedure.leads_pure.1 last
    exact ⟨.ok output, rfl, by simp⟩
  | error e =>
    obtain ⟨rfl, rfl⟩ := Procedure.leads_pure.1 last
    exact ⟨.error e, rfl, by simp⟩

/-- A node that is destroyed is removed at last, and only that this was answered counts. -/
theorem destroy_ends (leads : (Backend.destroy p).Leads es o) :
    ∃ before, ∃ a : Except Error CommandOutput,
      es = before ++ [⟨.shell (.run p.address p.removeDirCommand), a⟩] ∧
        (o.1 = .ok () ↔ ∃ output, a = .ok output) := by
  obtain ⟨es₁, _, killed, rfl, kill, leads⟩ := Procedure.leads_bind.1 leads
  obtain ⟨es₂, es₃, collected, rfl, collect, remove⟩ := Procedure.leads_bind.1 leads
  obtain ⟨x, same⟩ := (perform_tracks kill).trans (perform_tracks collect)
  obtain ⟨a, rfl, counts⟩ := remove_leads remove
  refine ⟨es₁ ++ es₂, a, ?_, counts⟩
  rw [same, List.append_assoc]
  rfl

end RemoteProcess

namespace Cluster

variable {σ : Type} {peers : Peers outside σ}

/-- A member leaves a cluster that is destroyed if its removal was answered, with any exit code. -/
theorem destroy_lets_go (c : Cluster RemoteProcess) (m : Moment σ) :
    ∀ v ∈ c.visits peers Node.destroy m,
      let p := v.subject.2.backend
      ∃ before, ∃ a : Except Error CommandOutput,
        v.events = before ++ [⟨.shell (.run p.address p.removeDirCommand), a⟩] ∧
          (v.subject.1 ∉ (c.destroy.run peers m).1.2.members.keys ↔ ∃ output, a = .ok output) := by
  intro v mem p
  obtain ⟨-, events, result⟩ := Procedure.of_mem_visits mem
  have leads := Procedure.leads_run peers v.subject.2.destroy v.start
  rw [← events, ← result] at leads
  obtain ⟨_, _, o, eq, destroyed, last⟩ := Procedure.leads_bind.1 leads
  obtain ⟨rfl, after⟩ := Procedure.leads_pure.1 last
  rw [List.append_nil] at eq
  obtain ⟨before, a, is, counts⟩ := RemoteProcess.destroy_ends destroyed
  refine ⟨before, a, eq.trans is, ?_⟩
  have stays := (destroy_sweeps c m).mem_keys mem
  rw [stays, ← counts, after]
  cases o.1 <;> simp [failed]

end Cluster

namespace RemoteProcess

variable {p : RemoteProcess} {cmd : String}

theorem launch_leads (launches : p.launchCommand = .ok cmd) {operation : String} :
    (p.launch operation).run.Leads [⟨.shell (.run p.address cmd), .ok ⟨"", 0⟩⟩] (.ok ()) := by
  unfold launch
  rw [launches]
  refine Attempt.leads_bind.2 (.inl ⟨[], [_], cmd, rfl, Procedure.leads_pure.2 ⟨rfl, rfl⟩, ?_⟩)
  refine Attempt.leads_bind.2 (.inl ⟨[_], [], ⟨"", 0⟩, rfl, run_leads.2 ⟨.ok _, rfl, rfl⟩, ?_⟩)
  exact Procedure.leads_pure.2 ⟨rfl, rfl⟩

/-- The process is deployed, whatever became of its directory. -/
theorem deploy_leads (launches : p.launchCommand = .ok cmd) (created : CommandOutput) :
    (p.perform .deploy).Leads
      [⟨.shell (.run p.address p.createDirCommand), .ok created⟩,
        ⟨.shell (.copy p.address p.artifact p.remoteArtifact), .ok ()⟩,
        ⟨.shell (.run p.address cmd), .ok ⟨"", 0⟩⟩] (.ok (), { p with state := .running }) := by
  have asked : (discard (p.run "deploy" p.createDirCommand) : Attempt Unit).run.Leads
      [⟨.shell (.run p.address p.createDirCommand), .ok created⟩] (.ok ()) :=
    discard_run_leads.2 ⟨.ok created, rfl, rfl⟩
  have copied : (Attempt.ofAnswer
      (askShell (.copy p.address p.artifact p.remoteArtifact))).run.Leads
      [⟨.shell (.copy p.address p.artifact p.remoteArtifact), .ok ()⟩] (.ok ()) :=
    Procedure.leads_ask.2 rfl
  have placed : p.place.run.Leads _ (.ok ()) :=
    Attempt.leads_bind.2 (.inl ⟨_, _, (), rfl, asked,
      Attempt.leads_bind.2 (.inl ⟨_, _, (), rfl, copied, launch_leads launches⟩)⟩)
  have wrapped : (p.place.wrap fun e => .deployment p.name e.message).run.Leads _ (.ok ()) :=
    Procedure.leads_map.2 ⟨_, placed, rfl⟩
  exact Procedure.leads_bind.2 ⟨_, [], _, rfl, wrapped, Procedure.leads_pure.2 ⟨rfl, rfl⟩⟩

/-- An operation that is not a stop succeeds if its launches and signals, and no other commands, came
to codes that it accepts. The codes of the other commands make no difference to what is done and to
what comes of it, also when a cluster is destroyed. -/
theorem operations_judge_codes (p : RemoteProcess) (op : Operation)
    (steady : ∀ timeout, op ≠ .stop timeout) :
    (∀ es o, (p.perform op).Leads es o → (o.1 = .ok () ↔ p.Admits op ∧ ∀ e ∈ es, p.Passes e)) ∧
    (∀ es fs o, List.Forall₂ p.Recodes es fs → (p.perform op).Leads es o →
      (p.perform op).Leads fs o) ∧
    ∀ {σ : Type} (peers : Peers outside σ) (c : Cluster RemoteProcess) (m : Moment σ),
      ∀ v ∈ c.visits peers Node.destroy m,
        let p := v.subject.2.backend
        ∃ before, ∃ a : Except Error CommandOutput,
          v.events = before ++ [⟨.shell (.run p.address p.removeDirCommand), a⟩] ∧
            (v.subject.1 ∉ (c.destroy.run peers m).1.2.members.keys ↔ ∃ output, a = .ok output) :=
  ⟨fun _ _ => perform_ok_iff steady, perform_overlooks steady,
    fun _ c m => c.destroy_lets_go m⟩

theorem launches_9000 : (ofNode (.ofPort 9000) "10.0.0.5" .default "logs").launchCommand =
    .ok ("sh -c 'nohup java -cp ./node9000/*.jar org.corfudb.infrastructure.CorfuServer " ++
      "-a 0.0.0.0 -l /tmp/ -d INFO 9000 > ./node9000/server.log 2>&1 &'") := by
  decide +kernel

/-- A deployment in which the directory could not be created. -/
theorem operations_judge_codes_deploy :
    let p := ofNode (.ofPort 9000) "10.0.0.5" .default "logs"
    (∀ timeout, Operation.deploy ≠ .stop timeout) ∧
      ∃ es, ⟨.shell (.run p.address p.createDirCommand), .ok ⟨"", 1⟩⟩ ∈ es ∧
        (p.perform .deploy).Leads es (.ok (), { p with state := .running }) ∧
        p.Admits .deploy ∧ ∀ e ∈ es, p.Passes e := by
  intro p
  have steady : ∀ timeout, Operation.deploy ≠ .stop timeout := by simp
  obtain ⟨judged, recoded, -⟩ := operations_judge_codes p .deploy steady
  have other : p.Recodes ⟨.shell (.run p.address p.createDirCommand), .ok ⟨"", 0⟩⟩
      ⟨.shell (.run p.address p.createDirCommand), .ok ⟨"", 1⟩⟩ :=
    .inr ⟨_, _, ⟨"", 0⟩, 1, by simp [unjudged], rfl, rfl⟩
  have deployed := recoded _ _ _ (.cons other (.cons (.inl rfl) (.cons (.inl rfl) .nil)))
    (deploy_leads launches_9000 ⟨"", 0⟩)
  exact ⟨steady, _, List.mem_cons_self, deployed, (judged _ _ deployed).1 rfl⟩

/-- A host on which every command exits with one. -/
def denying : Peers outside Unit where
  answer _ s c :=
    match c with
    | .shell (.run _ _) => ((.ok ⟨"", 1⟩, .zero), s)
    | c => ((((Lab.Engine.empty Lab.Engine.defaultInfo []).answerExactly c).1, .zero), s)

/-- A cluster of one node. -/
def alone (p : RemoteProcess) : Cluster RemoteProcess where
  setting := ⟨.processes .default ∅ 1, .delegated, "/logs", "corfu", ""⟩
  params := .named "corfu"
  members := .ofList [(p.name, ⟨p.params, p.address ++ ":" ++ p.params.portText, p⟩)]

/-- A node runs without its directory, and is gone where its directory is not. -/
theorem failed_commands_overlooked :
    let p := ofNode (.ofPort 9000) "10.0.0.5" .default "logs"
    let m : Moment Unit := ⟨.zero, ()⟩
    (∃ es, ⟨.shell (.run p.address p.createDirCommand), .ok ⟨"", 1⟩⟩ ∈ es ∧
      (p.perform .deploy).Leads es (.ok (), { p with state := .running })) ∧
    (p.perform .remove).Leads [⟨.shell (.run p.address p.removeDirCommand), .ok ⟨"", 1⟩⟩]
      (.ok (), { p with state := .destroyed }) ∧
    (p.alone.destroy.run denying m).1.1 = ⟨1, 0⟩ ∧
    (p.alone.destroy.run denying m).1.2.members.keys = [] ∧
    ¬∀ (p : RemoteProcess) (op : Operation) (es : List (Event outside)) (o : Outcome RemoteProcess),
      (∀ timeout, op ≠ .stop timeout) → (p.perform op).Leads es o → o.1 = .ok () →
        ∀ host cmd output, ⟨.shell (.run host cmd), .ok output⟩ ∈ es →
          output.exitCode = 0 ∨
            (∃ g : Signal, cmd = p.signalCommand g.flag) ∧ output.exitCode = noMatch := by
  intro p m
  have deployed := deploy_leads launches_9000 ⟨"", 1⟩
  have removed := Procedure.leads_run denying (p.perform .remove) m
  refine ⟨⟨_, List.mem_cons_self, deployed⟩, removed, by decide +kernel, by decide +kernel, ?_⟩
  intro claimed
  have code := claimed p .remove _ _ (by simp) removed rfl _ _ _ (List.mem_singleton.2 rfl)
  rcases code with zero | ⟨signal, -⟩
  · cases zero
  · exact removeDirCommand_not_acts p (.inl signal)

end RemoteProcess

end Testbed
