import Testbed.Proofs.Procedure.Timeline
import Testbed.Proofs.RemoteProcess.Host
/-!
# Stopping a process within a limit

The signals that ask a process to go (`Graceful`) are sent one after the other. What would come of
them without a limit is a volley, of which those are sent that begin in time and follow no failure
(`signalWithin_taken`). So whether and when a process is killed is told by where in the volley the
first failure stands and where the limit falls (`stop_keeps_limit`).
-/

namespace Testbed.RemoteProcess

open Procedure (Runs)

/-- The signals that ask a process to go. -/
inductive Graceful : NodeState → List Signal → Prop
  | running : Graceful .running [.terminate]
  | paused : Graceful .paused [.terminate, .resume]

abbrev signalCall (p : RemoteProcess) (g : Signal) : Call :=
  .shell (.run p.address (p.signalCommand g.flag))

/-- What was called is a command that sends a signal, and it was sent. -/
def Taken : Dispatch outside → Prop
  | ⟨.shell (.run _ _), reply⟩ => Sent reply.answer
  | _ => False

variable {p : RemoteProcess} {σ : Type} {peers : Peers outside σ} {m done : Moment σ}
  {line before after : List (Dispatch outside)} {d : Dispatch outside} {signals : List Signal}
  {limit start time : Duration} {operation : String} {o : Outcome RemoteProcess}

theorem signalCall_injective {g h : Signal} (same : p.signalCall g = p.signalCall h) : g = h := by
  injection same with same
  injection same with _ same
  exact Signal.flag_injective (signalCommand_injective same)

theorem stopFlags_graceful (graceful : Graceful p.state signals) :
    p.stopFlags = some (signals.map Signal.flag) := by
  unfold stopFlags
  generalize p.state = state at graceful ⊢
  cases graceful <;> rfl

theorem stopFlags_none (running : p.state ≠ .running) (paused : p.state ≠ .paused) :
    p.stopFlags = none := by
  unfold stopFlags
  cases state : p.state with
  | running => exact absurd state running
  | paused => exact absurd state paused
  | undeployed | stopped | destroyed => rfl

/-! ## Volleys -/

/-- Either all signals are sent in time, or one fails in time, or the limit is over with one. -/
theorem fate (limit : Nat) (line : List (Dispatch outside)) :
    ((∀ d ∈ line, Taken d) ∧ (waited line).nanos ≤ limit) ∨
      ∃ before d after, line = before ++ d :: after ∧ (∀ d ∈ before, Taken d) ∧
        (¬Taken d ∧ (waited (before ++ [d])).nanos ≤ limit ∨
          (waited before).nanos ≤ limit ∧ limit < (waited (before ++ [d])).nanos) := by
  induction line generalizing limit with
  | nil => exact .inl ⟨by simp, Nat.zero_le _⟩
  | cons d rest ih =>
    by_cases late : limit < d.reply.delay.nanos
    · exact .inr ⟨[], d, rest, rfl, by simp, .inr ⟨Nat.zero_le _, by simpa using late⟩⟩
    · by_cases taken : Taken d
      · have all {before : List (Dispatch outside)} (rest : ∀ d ∈ before, Taken d) :
            ∀ x ∈ d :: before, Taken x := List.forall_mem_cons.2 ⟨taken, rest⟩
        rcases ih (limit - d.reply.delay.nanos) with
          ⟨rest, inTime⟩ | ⟨before, x, after, rfl, rest, ends⟩
        · left
          refine ⟨all rest, ?_⟩
          simp only [nanos_waited_cons]
          omega
        · right
          refine ⟨d :: before, x, after, rfl, all rest, ?_⟩
          simp only [List.cons_append, nanos_waited_cons]
          rcases ends with ⟨failed, inTime⟩ | ⟨begun, exceeded⟩
          · exact .inl ⟨failed, by omega⟩
          · exact .inr ⟨by omega, by omega⟩
      · exact .inr ⟨[], d, rest, rfl, by simp, .inl ⟨taken, by simpa using late⟩⟩

/-- None of the signals that ask a process to go kills it. -/
theorem graceful_spares {state : NodeState} (graceful : Graceful state signals)
    (split : peers.volley (signals.map p.signalCall) m = before ++ d :: after) :
    ∀ x ∈ before ++ [d], x.call ≠ p.signalCall .kill := by
  intro x mem kill
  have sent : x ∈ peers.volley (signals.map p.signalCall) m := by
    rw [split, List.append_cons]
    exact List.mem_append_left _ mem
  obtain ⟨g, asked, same⟩ := List.mem_map.1 (Peers.mem_volley sent)
  have kills : g = .kill := signalCall_injective (same.trans kill)
  rw [kills] at asked
  cases graceful <;> simp at asked

/-! ## Signals within a limit -/

section

variable {g : Signal} {flags : List String}

theorem signalWithin_goes_on {r : Option (Except Error Unit)}
    (inTime : (peers.reply (p.signalCall g) m).delay.nanos ≤ limit.nanos)
    (sent : Sent (peers.reply (p.signalCall g) m).answer)
    (rest : (p.signalWithin operation
      ⟨limit.nanos - (peers.reply (p.signalCall g) m).delay.nanos⟩ flags).Runs peers
      (peers.answered (p.signalCall g) m) line r done) :
    (p.signalWithin operation limit (g.flag :: flags)).Runs peers m
      (⟨p.signalCall g, peers.reply (p.signalCall g) m⟩ :: line) r done := by
  refine (Procedure.runs_askWithin inTime).bind ?_
  dsimp only
  rw [checkSignal_sent sent]
  exact rest

theorem signalWithin_fails (operation : String) (limit : Duration) (flags : List String)
    (inTime : (peers.reply (p.signalCall g) m).delay.nanos ≤ limit.nanos)
    (failed : ¬Sent (peers.reply (p.signalCall g) m).answer) :
    ∃ err, (p.signalWithin operation limit (g.flag :: flags)).Runs peers m
      [⟨p.signalCall g, peers.reply (p.signalCall g) m⟩] (some (.error err))
      (peers.answered (p.signalCall g) m) := by
  obtain ⟨err, error⟩ := checkSignal_not_sent p operation g.flag failed
  refine ⟨err, (Procedure.runs_askWithin inTime).bind ?_⟩
  dsimp only
  rw [error]
  exact Procedure.runs_pure _

theorem signalWithin_late (operation : String) (limit : Duration) (flags : List String)
    (late : limit.nanos < (peers.reply (p.signalCall g) m).delay.nanos) :
    (p.signalWithin operation limit (g.flag :: flags)).Runs peers m
      [⟨p.signalCall g, peers.reply (p.signalCall g) m⟩] none
      ⟨m.clock + limit, (peers.answered (p.signalCall g) m).state⟩ :=
  (Procedure.runs_askWithin_late late).bind (Procedure.runs_pure _)

end

/-- When the first signals of a volley were sent in time, the others are sent in the time that is
left. -/
theorem signalWithin_taken (operation : String) (limit : Duration)
    (split : peers.volley (signals.map p.signalCall) m = before ++ after)
    (taken : ∀ d ∈ before, Taken d) (inTime : (waited before).nanos ≤ limit.nanos) :
    ∃ (left : List Signal) (now : Moment σ), peers.volley (left.map p.signalCall) now = after ∧
      now.clock = m.clock + waited before ∧
      ∀ line r done, (p.signalWithin operation ⟨limit.nanos - (waited before).nanos⟩
          (left.map Signal.flag)).Runs peers now line r done →
        (p.signalWithin operation limit (signals.map Signal.flag)).Runs peers m (before ++ line) r
          done := by
  induction before generalizing signals m limit with
  | nil => exact ⟨signals, m, split, rfl, fun _ _ _ => id⟩
  | cons d before ih =>
    cases signals with
    | nil => cases split
    | cons g signals =>
      obtain ⟨rfl, others⟩ := List.cons.inj split
      obtain ⟨sent, rest⟩ := List.forall_mem_cons.1 taken
      simp only [nanos_waited_cons] at inTime
      obtain ⟨left, now, later, clock, runs⟩ :=
        ih ⟨limit.nanos - (peers.reply (p.signalCall g) m).delay.nanos⟩ others rest
          (Nat.le_sub_of_add_le' inTime)
      refine ⟨left, now, later, ?_, ?_⟩
      · rw [clock]
        apply Duration.eq_of_nanos
        simp [Peers.answered, Nat.add_assoc]
      · intro line r done goesOn
        apply signalWithin_goes_on (by omega) sent
        apply runs
        rw [Nat.sub_sub]
        exact goesOn

/-! ## Stopping -/

/-- After some signals a process is killed at a time, and what comes of it is what comes of that. -/
def KilledAt (p : RemoteProcess) (time : Duration) (signals line : List (Dispatch outside))
    (o : Outcome RemoteProcess) : Prop :=
  ∃ kill : Reply outside (p.signalCall .kill),
    kill.time = time ∧ line = signals ++ [⟨p.signalCall .kill, kill⟩] ∧
      (Sent kill.answer → o = (.ok (), { p with state := .stopped })) ∧
      (¬Sent kill.answer → ∃ err,
        p.checkSignal "kill" killFlag kill.answer = .error err ∧ o = (.error err, p))

/-- How a process is stopped that has so long to go, told by what would come of a volley of
signals. -/
structure StopsWithin (p : RemoteProcess) (limit start : Duration)
    (volley line : List (Dispatch outside)) (o : Outcome RemoteProcess) : Prop where
  graceful : (∀ d ∈ volley, Taken d) → (waited volley).nanos ≤ limit.nanos →
    line = volley ∧ o = (.ok (), { p with state := .stopped })
  failed : ∀ before d after, volley = before ++ d :: after → (∀ d ∈ before, Taken d) →
    ¬Taken d → (waited (before ++ [d])).nanos ≤ limit.nanos →
    p.KilledAt (start + waited (before ++ [d])) (before ++ [d]) line o
  late : ∀ before d after, volley = before ++ d :: after → (∀ d ∈ before, Taken d) →
    (waited before).nanos ≤ limit.nanos → limit.nanos < (waited (before ++ [d])).nanos →
    p.KilledAt (start + limit) (before ++ [d]) line o
  ok_iff : o.1 = .ok () ↔
    (∀ d ∈ volley, Taken d) ∧ (waited volley).nanos ≤ limit.nanos ∨
      ∃ kill : Reply outside (p.signalCall .kill), ⟨_, kill⟩ ∈ line ∧ Sent kill.answer

theorem KilledAt.ok_iff {sent : List (Dispatch outside)} (killed : p.KilledAt time sent line o)
    (graceful : ∀ d ∈ sent, d.call ≠ p.signalCall .kill) : o.1 = .ok () ↔
      ∃ kill : Reply outside (p.signalCall .kill), ⟨_, kill⟩ ∈ line ∧ Sent kill.answer := by
  obtain ⟨kill, -, rfl, taken, failed⟩ := killed
  constructor
  · intro ok
    by_cases sent : Sent kill.answer
    · exact ⟨kill, by simp, sent⟩
    · obtain ⟨err, -, rfl⟩ := failed sent
      cases ok
  · rintro ⟨other, mem, sent⟩
    rcases List.mem_append.1 mem with early | last
    · exact absurd rfl (graceful _ early)
    · cases List.mem_singleton.1 last
      rw [taken sent]

theorem kill_runs (peers : Peers outside σ) (before : List (Dispatch outside)) (m : Moment σ)
    (live : p.state = .running ∨ p.state = .paused) : ∃ o done,
    p.kill.Runs peers m [⟨p.signalCall .kill, peers.reply (p.signalCall .kill) m⟩] o done ∧
      p.KilledAt m.clock before
        (before ++ [⟨p.signalCall .kill, peers.reply (p.signalCall .kill) m⟩]) o := by
  have signals := (Procedure.runs_ask peers (p.signalCall .kill) m).map
    (p.checkSignal "kill" killFlag)
  have is : p.kill = (p.signal "kill" killFlag).changing p { p with state := .stopped } := by
    unfold kill
    rcases live with state | state <;> simp [state]
  rw [is]
  by_cases sent : Sent (peers.reply (p.signalCall .kill) m).answer
  · rw [checkSignal_sent sent] at signals
    exact ⟨_, _, signals.bind (Procedure.runs_pure _), _, rfl, rfl, fun _ => rfl,
      fun failed => absurd sent failed⟩
  · obtain ⟨err, error⟩ := checkSignal_not_sent p "kill" killFlag sent
    rw [error] at signals
    exact ⟨_, _, signals.bind (Procedure.runs_pure _), _, rfl, rfl, fun taken => absurd taken sent,
      fun _ => ⟨err, error, rfl⟩⟩

theorem stop_kills {sent : Option (Except Error Unit)} (graceful : Graceful p.state signals)
    (signalled : (p.signalWithin "stop" limit (signals.map Signal.flag)).Runs peers m before sent
      done) (other : sent ≠ some (.ok ())) :
    p.KilledAt done.clock before ((p.stop limit).timeline peers m)
      ((p.stop limit).run peers m).1 := by
  have live : p.state = .running ∨ p.state = .paused := by
    generalize p.state = state at graceful ⊢
    cases graceful <;> simp
  obtain ⟨o, last, kills, killed⟩ := kill_runs peers before done live
  have stops : (p.stop limit).Runs peers m
      (before ++ [⟨p.signalCall .kill, peers.reply (p.signalCall .kill) done⟩]) o last := by
    unfold stop
    rw [stopFlags_graceful graceful]
    refine signalled.bind ?_
    match sent, other with
    | none, _ => exact kills
    | some (.error e), _ => exact kills
    | some (.ok ()), other => exact absurd rfl other
  rw [stops.timeline, stops.run]
  exact killed

section

variable (graceful : Graceful p.state signals)

include graceful

theorem stop_graceful
    (taken : ∀ d ∈ peers.volley (signals.map p.signalCall) m, Taken d)
    (inTime : (waited (peers.volley (signals.map p.signalCall) m)).nanos ≤ limit.nanos) :
    ∃ done, (p.stop limit).Runs peers m (peers.volley (signals.map p.signalCall) m)
      (.ok (), { p with state := .stopped }) done := by
  obtain ⟨left, now, none, -, runs⟩ :=
    signalWithin_taken "stop" limit (List.append_nil _).symm taken inTime
  cases left with
  | cons g left => cases none
  | nil =>
    have signalled := runs _ _ _ (Procedure.runs_pure _)
    rw [List.append_nil] at signalled
    refine ⟨now, ?_⟩
    unfold stop
    rw [stopFlags_graceful graceful, ← List.append_nil (peers.volley _ _)]
    exact signalled.bind (Procedure.runs_pure _)

theorem stop_failed (split : peers.volley (signals.map p.signalCall) m = before ++ d :: after)
    (taken : ∀ d ∈ before, Taken d) (failed : ¬Taken d)
    (inTime : (waited (before ++ [d])).nanos ≤ limit.nanos) :
    p.KilledAt (m.clock + waited (before ++ [d])) (before ++ [d]) ((p.stop limit).timeline peers m)
      ((p.stop limit).run peers m).1 := by
  simp only [nanos_waited_append, nanos_waited_cons, nanos_waited_nil] at inTime
  obtain ⟨left, now, later, clock, runs⟩ :=
    signalWithin_taken "stop" limit split taken (by omega)
  cases left with
  | nil => cases later
  | cons g left =>
    obtain ⟨rfl, -⟩ := List.cons.inj later
    obtain ⟨err, fails⟩ :=
      signalWithin_fails "stop" ⟨limit.nanos - (waited before).nanos⟩ (left.map Signal.flag)
        (Nat.le_sub_of_add_le' inTime) failed
    have killed := stop_kills graceful (runs _ _ _ fails) (by simp)
    have time : (peers.answered (p.signalCall g) now).clock =
        m.clock + waited (before ++ [⟨p.signalCall g, peers.reply (p.signalCall g) now⟩]) := by
      apply Duration.eq_of_nanos
      simp [Peers.answered, clock, Nat.add_assoc]
    rw [time] at killed
    exact killed

theorem stop_late (split : peers.volley (signals.map p.signalCall) m = before ++ d :: after)
    (taken : ∀ d ∈ before, Taken d) (begun : (waited before).nanos ≤ limit.nanos)
    (exceeded : limit.nanos < (waited (before ++ [d])).nanos) :
    p.KilledAt (m.clock + limit) (before ++ [d]) ((p.stop limit).timeline peers m)
      ((p.stop limit).run peers m).1 := by
  simp only [nanos_waited_append, nanos_waited_cons, nanos_waited_nil] at exceeded
  obtain ⟨left, now, later, clock, runs⟩ := signalWithin_taken "stop" limit split taken begun
  cases left with
  | nil => cases later
  | cons g left =>
    obtain ⟨rfl, -⟩ := List.cons.inj later
    have late :=
      signalWithin_late "stop" ⟨limit.nanos - (waited before).nanos⟩ (left.map Signal.flag)
        (Nat.sub_lt_left_of_lt_add begun exceeded)
    have killed := stop_kills graceful (runs _ _ _ late) (by simp)
    have time : now.clock + ⟨limit.nanos - (waited before).nanos⟩ = m.clock + limit := by
      apply Duration.eq_of_nanos
      simp only [clock, Duration.nanos_add]
      omega
    rw [time] at killed
    exact killed

theorem stop_ok_iff : ((p.stop limit).run peers m).1.1 = .ok () ↔
    (∀ d ∈ peers.volley (signals.map p.signalCall) m, Taken d) ∧
        (waited (peers.volley (signals.map p.signalCall) m)).nanos ≤ limit.nanos ∨
      ∃ kill : Reply outside (p.signalCall .kill),
        ⟨_, kill⟩ ∈ (p.stop limit).timeline peers m ∧ Sent kill.answer := by
  rcases fate limit.nanos (peers.volley (signals.map p.signalCall) m) with
    ⟨taken, inTime⟩ | ⟨before, d, after, split, taken, ⟨failed, inTime⟩ | ⟨begun, exceeded⟩⟩
  · obtain ⟨done, stops⟩ := stop_graceful graceful taken inTime
    rw [stops.run]
    exact ⟨fun _ => .inl ⟨taken, inTime⟩, fun _ => rfl⟩
  · have killed := stop_failed graceful split taken failed inTime
    rw [killed.ok_iff (graceful_spares graceful split)]
    refine (or_iff_right ?_).symm
    rintro ⟨all, -⟩
    exact failed (all d (by simp [split]))
  · have killed := stop_late graceful split taken begun exceeded
    rw [killed.ok_iff (graceful_spares graceful split)]
    refine (or_iff_right ?_).symm
    rintro ⟨-, inTime⟩
    rw [split] at inTime
    simp only [nanos_waited_append, nanos_waited_cons, nanos_waited_nil] at inTime exceeded
    omega

end

/-- A process that is neither running nor paused is left alone. Any other is asked to go by signals,
one after the other, and is killed when one of them fails or when the limit is over. -/
theorem stop_keeps_limit (peers : Peers outside σ) (p : RemoteProcess) (limit : Duration)
    (m : Moment σ) :
    let stop := p.stop limit
    (∀ signals, Graceful p.state signals →
      p.StopsWithin limit m.clock (peers.volley (signals.map p.signalCall) m)
        (stop.timeline peers m) (stop.run peers m).1) ∧
    (p.state ≠ .running → p.state ≠ .paused → stop.Runs peers m [] (.ok (), p) m) := by
  intro stop
  constructor
  · intro signals graceful
    constructor
    · intro taken inTime
      obtain ⟨done, stops⟩ := stop_graceful graceful taken inTime
      exact ⟨stops.timeline, congrArg Prod.fst stops.run⟩
    · intro before d after split taken failed inTime
      exact stop_failed graceful split taken failed inTime
    · intro before d after split taken begun exceeded
      exact stop_late graceful split taken begun exceeded
    · exact stop_ok_iff graceful
  · intro running paused
    change (p.stop limit).Runs peers m [] (.ok (), p) m
    unfold RemoteProcess.stop
    rw [stopFlags_none running paused]
    exact Procedure.runs_pure _

/-- The first of two signals takes ten of fifteen units of time. When the second is not done in the
other five the process is killed, of which the host does not hear. -/
theorem stop_keeps_limit_paused :
    let p := { ofNode (.ofPort 9000) "10.0.0.1" .default "/logs" with state := .paused }
    let host := FlakyHost.peers p ⟨10⟩
    let m : Moment FlakyHost := ⟨.zero, [false, false, true], [.suspended false]⟩
    ∃ terminated resumed, p.KilledAt ⟨15⟩ [terminated, resumed]
      ((p.stop ⟨15⟩).timeline host m) ((p.stop ⟨15⟩).run host m).1 ∧
      ((p.stop ⟨15⟩).run host m).1.2 = p := by
  intro p host m
  have keeps := (stop_keeps_limit host p ⟨15⟩ m).1 _ .paused
  have told : (host.reply (p.signalCall .terminate) m).answer = .ok ⟨"", 0⟩ :=
    toOption_eq_some.1 (by decide +kernel)
  have taken : Taken ⟨p.signalCall .terminate, host.reply (p.signalCall .terminate) m⟩ :=
    ⟨_, told, .inl rfl⟩
  have killed := keeps.late [_] _ [] rfl (List.forall_mem_singleton.2 taken) (by decide) (by decide)
  exact ⟨_, _, killed, by decide +kernel⟩

end Testbed.RemoteProcess
