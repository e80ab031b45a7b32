import Testbed.Backend.RemoteProcess
import Testbed.Proofs.Procedure.Conduct
/-!
# The commands of a remote process

Four signals and the command that launches it act on the process of a node. No command is taken for
another: a signal is told by its flag (`signalCommand_injective`), and all other commands begin with
other letters (`not_acts`).

What an operation comes to is what its commands are answered, whoever answers (`ensures_signal`,
`ensures_signalWithin_cons`, `ensures_launch`). All calls that it makes to the host are among a few
(`Issues`, `perform_issues`).
-/

namespace Testbed.RemoteProcess

inductive Signal where
  | terminate
  | kill
  | suspend
  | resume
  deriving DecidableEq, Repr

namespace Signal

def flag : Signal → String
  | .terminate => terminateFlag
  | .kill => killFlag
  | .suspend => suspendFlag
  | .resume => continueFlag

theorem flag_injective {g h : Signal} (same : g.flag = h.flag) : g = h := by
  cases g <;> cases h <;> first | rfl | exact absurd same (by decide)

end Signal

variable {p : RemoteProcess} {cmd : String}

/-! ## Telling commands apart -/

theorem signalCommand_injective {f g : String} (same : p.signalCommand f = p.signalCommand g) :
    f = g := by
  have chars := congrArg String.toList same
  simp only [signalCommand, String.toList_append, List.append_cancel_left_eq,
    List.append_cancel_right_eq] at chars
  exact String.toList_inj.1 chars

theorem head_signalCommand (p : RemoteProcess) (flag : String) :
    (p.signalCommand flag).toList.head? = some 'p' := by
  simp [signalCommand, String.toList_append]

theorem head_launchCommand (launches : p.launchCommand = .ok cmd) :
    cmd.toList.head? = some 's' := by
  unfold launchCommand at launches
  cases line : p.params.commandLine with
  | error e =>
    rw [line] at launches
    cases launches
  | ok arguments =>
    rw [line] at launches
    cases launches
    simp [String.toList_append]

theorem signalCommand_ne_launchCommand {q : RemoteProcess} (flag : String)
    (launches : p.launchCommand = .ok cmd) : cmd ≠ q.signalCommand flag := by
  rintro rfl
  have letters := (head_launchCommand launches).symm.trans (head_signalCommand q flag)
  exact absurd letters (by decide)

/-- The command is a signal to the process of the node, or launches it. -/
def Acts (p : RemoteProcess) (cmd : String) : Prop :=
  (∃ g : Signal, cmd = p.signalCommand g.flag) ∨ p.launchCommand = .ok cmd

theorem not_acts (letter : Char) (head : cmd.toList.head? = some letter)
    (other : letter ≠ 'p' ∧ letter ≠ 's') : ¬p.Acts cmd := by
  rintro (⟨g, rfl⟩ | launches)
  · exact other.1 (Option.some.inj (head.symm.trans (head_signalCommand p g.flag)))
  · exact other.2 (Option.some.inj (head.symm.trans (head_launchCommand launches)))

theorem createDirCommand_not_acts (p : RemoteProcess) : ¬p.Acts p.createDirCommand :=
  not_acts 'm' (by simp [createDirCommand, String.toList_append]) (by decide)

theorem showLogCommand_not_acts (p : RemoteProcess) : ¬p.Acts p.showLogCommand :=
  not_acts 'c' (by simp [showLogCommand, String.toList_append]) (by decide)

theorem removeDirCommand_not_acts (p : RemoteProcess) : ¬p.Acts p.removeDirCommand :=
  not_acts 'r' (by simp [removeDirCommand, String.toList_append]) (by decide)

/-! ## What commands come to -/

/-- A signal was sent, to a process or to none. -/
def Sent (a : Except Error CommandOutput) : Prop :=
  ∃ output, a = .ok output ∧ (output.success = true ∨ output.exitCode = noMatch)

/-- A command was carried out. -/
def Done (a : Except Error CommandOutput) : Prop :=
  ∃ output, a = .ok output ∧ output.success = true

theorem checkSignal_sent {operation flag : String} {a : Except Error CommandOutput}
    (sent : Sent a) :
    p.checkSignal operation flag a = .ok () := by
  obtain ⟨output, rfl, taken⟩ := sent
  simp [checkSignal, taken]

theorem checkSignal_not_sent (p : RemoteProcess) (operation flag : String)
    {a : Except Error CommandOutput} (failed : ¬Sent a) :
    ∃ err, p.checkSignal operation flag a = .error err := by
  cases a with
  | error e => exact ⟨_, rfl⟩
  | ok output =>
    have refused : ¬(output.success = true ∨ output.exitCode = noMatch) :=
      fun taken => failed ⟨output, rfl, taken⟩
    simp only [not_or, Bool.not_eq_true] at refused
    simp [checkSignal, refused]

section

variable {τ : Type} {R : Conduct outside τ} {always : τ → Prop} {s : τ} {operation flag : String}

theorem ensures_signal {post : Except Error Unit → τ → Prop}
    (answered : ∀ a t, R s ⟨.shell (.run p.address (p.signalCommand flag)), a⟩ t →
      always t ∧ (Sent a → post (.ok ()) t) ∧ (¬Sent a → ∀ err, post (.error err) t)) :
    (p.signal operation flag).run.Ensures R always s post := by
  refine Procedure.ensures_map.2 (Procedure.ensures_ask.2 fun a t step => ?_)
  obtain ⟨always_t, taken, failed⟩ := answered a t step
  refine ⟨always_t, ?_⟩
  by_cases sent : Sent a
  · rw [checkSignal_sent sent]
    exact taken sent
  · obtain ⟨err, error⟩ := checkSignal_not_sent p operation flag sent
    rw [error]
    exact failed sent err

theorem ensures_askWithin {limit : Duration} {c : Call}
    {post : Option (c.Answer × Duration) → τ → Prop}
    (answered : ∀ a t, R s ⟨c, a⟩ t → always t ∧ post none t ∧ ∀ left, post (some (a, left)) t) :
    (Procedure.askWithin (I := outside) limit c).Ensures R always s post := by
  intro a d t step
  obtain ⟨always_t, late, inTime⟩ := answered a t step
  refine ⟨always_t, ?_⟩
  dsimp only
  split
  · exact Procedure.ensures_after.2 (inTime _)
  · exact Procedure.ensures_after.2 late

/-- The time may be over with the first signal, whatever became of that. -/
theorem ensures_signalWithin_cons {flags : List String} {limit : Duration}
    {post : Option (Except Error Unit) → τ → Prop}
    (answered : ∀ a t, R s ⟨.shell (.run p.address (p.signalCommand flag)), a⟩ t →
      always t ∧ post none t ∧
        (Sent a → ∀ left, (p.signalWithin operation left flags).Ensures R always t post) ∧
        (¬Sent a → ∀ err, post (some (.error err)) t)) :
    (p.signalWithin operation limit (flag :: flags)).Ensures R always s post := by
  refine Procedure.ensures_bind.2 (ensures_askWithin fun a t step => ?_)
  obtain ⟨always_t, late, taken, failed⟩ := answered a t step
  refine ⟨always_t, late, fun left => ?_⟩
  by_cases sent : Sent a
  · simp only [checkSignal_sent sent]
    exact taken sent left
  · obtain ⟨err, error⟩ := checkSignal_not_sent p operation flag sent
    simp only [error]
    exact failed sent err

theorem ensures_run {post : Except Error CommandOutput → τ → Prop}
    (answered : ∀ a t, R s ⟨.shell (.run p.address cmd), a⟩ t →
      always t ∧ post (a.mapError (p.failure operation)) t) :
    (p.run operation cmd).run.Ensures R always s post :=
  Attempt.ensures_wrap.2 (Procedure.ensures_ask.2 answered)

theorem ensures_launch {post : Except Error Unit → τ → Prop}
    (unknown : ∀ err, p.launchCommand = .error err → post (.error err) s)
    (answered : ∀ cmd, p.launchCommand = .ok cmd → ∀ a t,
      R s ⟨.shell (.run p.address cmd), a⟩ t →
        always t ∧ (Done a → post (.ok ()) t) ∧ (¬Done a → ∀ err, post (.error err) t)) :
    (p.launch operation).run.Ensures R always s post := by
  refine Attempt.ensures_bind.2 (Procedure.ensures_pure.2 ?_)
  cases launches : p.launchCommand with
  | error err => exact unknown err launches
  | ok cmd =>
    refine Attempt.ensures_bind.2 (ensures_run fun a t step => ?_)
    obtain ⟨always_t, done, failed⟩ := answered cmd launches a t step
    refine ⟨always_t, ?_⟩
    cases a with
    | error e => exact failed (fun ⟨_, h, _⟩ => by cases h) _
    | ok output =>
      cases succeeds : output.success with
      | true =>
        simp only [mapError_ok, succeeds, Bool.not_true]
        exact done ⟨output, rfl, succeeds⟩
      | false =>
        simp only [mapError_ok, succeeds, Bool.not_false, if_true]
        refine failed ?_ _
        rintro ⟨_, same, yes⟩
        cases same
        cases succeeds.symm.trans yes

end

/-! ## Which calls are made -/

/-- The calls that are made to the host of a node. -/
inductive Issues (p : RemoteProcess) : ShellCall → Prop
  | created : Issues p (.run p.address p.createDirCommand)
  | copied : Issues p (.copy p.address p.artifact p.remoteArtifact)
  | launched {cmd : String} : p.launchCommand = .ok cmd → Issues p (.run p.address cmd)
  | signalled (g : Signal) : Issues p (.run p.address (p.signalCommand g.flag))
  | shown : Issues p (.run p.address p.showLogCommand)
  | removed : Issues p (.run p.address p.removeDirCommand)

section

open Procedure (Within)

variable {C : Call → Prop}

theorem run_within (operation : String) (issued : C (.shell (.run p.address cmd))) :
    (p.run operation cmd).run.Within C :=
  Attempt.within_wrap (Procedure.within_ask.2 issued)

section

variable (shell : ∀ s, p.Issues s → C (.shell s))

include shell

theorem signal_issues (g : Signal) (operation : String) :
    (p.signal operation g.flag).run.Within C :=
  Within.map (Procedure.within_ask.2 (shell _ (.signalled g))) _

theorem signalWithin_issues {operation : String} {limit : Duration} {flags : List String}
    (signals : ∀ flag ∈ flags, ∃ g : Signal, flag = g.flag) :
    (p.signalWithin operation limit flags).Within C := by
  induction flags generalizing limit with
  | nil => exact Procedure.within_pure _
  | cons flag flags ih =>
    obtain ⟨g, rfl⟩ := signals flag List.mem_cons_self
    have asked : (Procedure.askWithin (I := outside) limit
        (.shell (.run p.address (p.signalCommand g.flag)))).Within C := by
      refine ⟨shell _ (.signalled g), fun a d => ?_⟩
      dsimp only
      split <;> exact Procedure.within_after.2 trivial
    refine asked.bind fun answered => ?_
    obtain _ | ⟨answer, left⟩ := answered
    · exact Procedure.within_pure _
    · dsimp only
      split
      · exact ih fun flag mem => signals flag (List.mem_cons_of_mem _ mem)
      · exact Procedure.within_pure _

theorem launch_issues (operation : String) : (p.launch operation).run.Within C := by
  unfold launch
  cases launches : p.launchCommand with
  | error e => exact Procedure.within_pure _
  | ok cmd =>
    have issued : C (.shell (.run p.address cmd)) := shell _ (.launched launches)
    have checked : ((p.run operation cmd >>= fun output : CommandOutput =>
        if !output.success then
          throw (.node p.name operation ("launch exited with " ++ toString output.exitCode))
        else pure ()) : Attempt Unit).run.Within C := by
      refine Attempt.within_bind (run_within _ issued) fun output => ?_
      split <;> exact Procedure.within_pure _
    exact checked

theorem deploy_issues : p.deploy.Within C := by
  refine Attempt.within_changing _ _ (Attempt.within_wrap ?_)
  have created := shell _ .created
  refine Attempt.within_bind (Attempt.within_discard (run_within _ created)) fun _ => ?_
  exact Attempt.within_bind (Procedure.within_ask.2 (shell _ .copied)) fun _ =>
    launch_issues shell _

theorem kill_issues : p.kill.Within C := by
  unfold kill
  split
  · exact Procedure.within_pure _
  · exact Attempt.within_changing _ _ (signal_issues shell .kill _)

theorem stop_issues (timeout : Duration) : (p.stop timeout).Within C := by
  unfold stop
  split
  · exact Procedure.within_pure _
  · rename_i flags asked
    have signals : ∀ flag ∈ flags, ∃ g : Signal, flag = g.flag := by
      unfold stopFlags at asked
      split at asked <;> cases asked
      · simpa using ⟨Signal.terminate, rfl⟩
      · simpa using ⟨⟨Signal.terminate, rfl⟩, Signal.resume, rfl⟩
    refine (signalWithin_issues shell signals).bind fun sent => ?_
    split
    · exact Procedure.within_pure _
    · exact kill_issues shell

/-- The operations of a process use its host, by calls of its own, and files. -/
theorem perform_issues (file : ∀ f, C (.file f)) (op : Operation) : (p.perform op).Within C := by
  cases op with
  | deploy => exact deploy_issues shell
  | stop timeout => exact stop_issues shell timeout
  | kill => exact kill_issues shell
  | pause =>
    change p.pause.Within C
    unfold pause
    split
    · exact Attempt.within_changing _ _ (signal_issues shell .suspend _)
    · exact Procedure.within_pure _
  | resume =>
    change p.resume.Within C
    unfold resume
    split
    · exact Attempt.within_changing _ _ (signal_issues shell .resume _)
    · exact Procedure.within_pure _
  | restart =>
    change p.restart.Within C
    unfold restart
    split
    · exact Attempt.within_changing _ _ (launch_issues shell _)
    all_goals exact Procedure.within_pure _
  | disconnect | reconnect => exact Procedure.within_pure _
  | collectLogs =>
    have shown := run_within "collect logs of" (shell _ .shown)
    refine Attempt.within_keeping _ (Attempt.within_bind shown fun output => ?_)
    exact Attempt.within_bind (Attempt.within_files (file _)) fun _ =>
      Attempt.within_files (file _)
  | remove =>
    exact Attempt.within_changing _ _ (Attempt.within_discard (run_within _ (shell _ .removed)))

end

theorem deploy_within (shell : ∀ c, C (.shell c)) : p.deploy.Within C :=
  deploy_issues fun s _ => shell s

/-- The operations of a process use its host and files. -/
theorem perform_within (shell : ∀ c, C (.shell c)) (file : ∀ f, C (.file f)) (op : Operation) :
    (p.perform op).Within C :=
  perform_issues (fun s _ => shell s) file op

end

end Testbed.RemoteProcess
