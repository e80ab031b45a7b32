import Testbed.Proofs.Engine.Conduct
import Testbed.Proofs.Procedure.Timeline
import Testbed.Proofs.Provision
/-!
# How long a host is waited for

A host is looked up and, if there is no machine of its name, made and powered on (`Finds`). Then the
machine is asked for its address. What it would say if it were asked for ever is a series of
replies, of which those up to the first that is not empty are asked for, as far as the attempts go
(`poll_runs`). So the calls, the result and the time slept are told by where that reply stands
(`host_polls`).
-/

namespace Testbed.Provision

open Procedure (Runs)

variable {vm : VmParams} {name : String} {σ : Type} {peers : Peers outside σ}

theorem forHost_runs {α : Type} {p : Work (Except Error α)} {line : List (Dispatch outside)}
    {answer : Except Error α} {m done : Moment σ} (name : String)
    (h : p.Runs peers m line answer done) :
    (forHost name p).run.Runs peers m line
      (answer.mapError fun e => .provisioning name e.message) done :=
  h.map _

/-! ## The machine of a host -/

abbrev findCall (name : String) : Call := .hypervisor (.find name)

abbrev cloneCall (vm : VmParams) (name : String) : Call :=
  .hypervisor (.clone vm.templateVm name vm.customization)

abbrev powerOnCall (id : String) : Call := .hypervisor (.powerOn id)

abbrev guestIpCall (id : String) : Call := .hypervisor (.guestIp id)

/-- What is called to find the machine of a host or to make it, and what that comes to. -/
inductive Finds (vm : VmParams) (name : String) :
    List (Dispatch outside) → Except Error String → Prop
  | unsought {sought : Reply outside (findCall name)} {e : Error} : sought.answer = .error e →
      Finds vm name [⟨_, sought⟩] (.error (.provisioning name e.message))
  | found {sought : Reply outside (findCall name)} {id : String} :
      sought.answer = .ok (some id) → Finds vm name [⟨_, sought⟩] (.ok id)
  | uncloned {sought : Reply outside (findCall name)} {cloned : Reply outside (cloneCall vm name)}
      {e : Error} : sought.answer = .ok none → cloned.answer = .error e →
      Finds vm name [⟨_, sought⟩, ⟨_, cloned⟩] (.error (.provisioning name e.message))
  | unpowered {sought : Reply outside (findCall name)} {cloned : Reply outside (cloneCall vm name)}
      {id : String} {powered : Reply outside (powerOnCall id)} {e : Error} :
      sought.answer = .ok none → cloned.answer = .ok id → powered.answer = .error e →
      Finds vm name [⟨_, sought⟩, ⟨_, cloned⟩, ⟨_, powered⟩]
        (.error (.provisioning name e.message))
  | made {sought : Reply outside (findCall name)} {cloned : Reply outside (cloneCall vm name)}
      {id : String} {powered : Reply outside (powerOnCall id)} :
      sought.answer = .ok none → cloned.answer = .ok id → powered.answer = .ok () →
      Finds vm name [⟨_, sought⟩, ⟨_, cloned⟩, ⟨_, powered⟩] (.ok id)

theorem machine_runs (peers : Peers outside σ) (vm : VmParams) (name : String) (m : Moment σ) :
    ∃ line result start,
    (machine vm name).run.Runs peers m line result start ∧ Finds vm name line result ∧
      start.clock = m.clock + waited line := by
  have seeks := forHost_runs name (Procedure.runs_ask peers (findCall name) m)
  cases sought : (peers.reply (findCall name) m).answer with
  | error e =>
    rw [sought] at seeks
    exact ⟨_, _, _, Attempt.runs_bind_error seeks, .unsought sought, rfl⟩
  | ok found =>
    rw [sought] at seeks
    cases found with
    | some id =>
      have finds : (machine vm name).run.Runs peers m _ (.ok id) _ :=
        Attempt.runs_bind seeks (Procedure.runs_pure _)
      exact ⟨_, _, _, finds, .found sought, rfl⟩
    | none =>
      let m₁ := peers.answered (findCall name) m
      let m₂ := peers.answered (cloneCall vm name) m₁
      have clones := forHost_runs name (Procedure.runs_ask peers (cloneCall vm name) m₁)
      cases cloned : (peers.reply (cloneCall vm name) m₁).answer with
      | error e =>
        rw [cloned] at clones
        have fails : (machine vm name).run.Runs peers m _ (.error _) _ :=
          Attempt.runs_bind seeks (Attempt.runs_bind_error clones)
        refine ⟨_, _, _, fails, .uncloned sought cloned, ?_⟩
        apply Duration.eq_of_nanos
        simp [Peers.answered, m₁, Nat.add_assoc]
      | ok id =>
        rw [cloned] at clones
        have powers := forHost_runs name (Procedure.runs_ask peers (powerOnCall id) m₂)
        have clock : (peers.answered (powerOnCall id) m₂).clock = m.clock + waited
            [⟨_, peers.reply (findCall name) m⟩, ⟨_, peers.reply (cloneCall vm name) m₁⟩,
              ⟨_, peers.reply (powerOnCall id) m₂⟩] := by
          apply Duration.eq_of_nanos
          simp [Peers.answered, m₁, m₂, Nat.add_assoc]
        cases powered : (peers.reply (powerOnCall id) m₂).answer with
        | error e =>
          rw [powered] at powers
          have fails : (machine vm name).run.Runs peers m _ (.error _) _ :=
            Attempt.runs_bind seeks (Attempt.runs_bind clones (Attempt.runs_bind_error powers))
          exact ⟨_, _, _, fails, .unpowered sought cloned powered, clock⟩
        | ok u =>
          rw [powered] at powers
          have makes : (machine vm name).run.Runs peers m _ (.ok id) _ :=
            Attempt.runs_bind seeks (Attempt.runs_bind clones
              (Attempt.runs_bind powers (Procedure.runs_pure _)))
          exact ⟨_, _, _, makes, .made sought cloned powered, clock⟩

/-! ## The address of a machine -/

/-- What is made of a reply that is not empty. -/
inductive Reports (name : String) : Except Error (Option String) → Except Error String → Prop
  | address (address : String) : Reports name (.ok (some address)) (.ok address)
  | failure (e : Error) : Reports name (.error e) (.error (.provisioning name e.message))

/-- The failure when all attempts are over that began at a time. -/
def givenUp (name : String) (start now : Duration) : Error :=
  .timeout ("ip address of host " ++ name) ⟨now.nanos - start.nanos⟩

/-- It gives the time that was slept and that answers took. -/
theorem givenUp_again {c : Call} {pause : Duration} {m : Moment σ} (n : Nat) :
    givenUp name m.clock ((peers.again c pause)^[n] m).clock =
      .timeout ("ip address of host " ++ name)
        (waited (peers.series c pause m n) + ⟨n * pause.nanos⟩) := by
  rw [givenUp, Peers.clock_iterate]
  congr 1
  apply Duration.eq_of_nanos
  simp only [Duration.nanos_add]
  omega

section

variable {interval start : Duration} {id : String} {attempts : Nat} {m : Moment σ}

theorem poll_gives_up : (poll interval name id start 0).run.Runs peers m []
    (.error (givenUp name start m.clock)) m :=
  Attempt.runs_bind (Attempt.runs_lift ⟨rfl, rfl⟩) (Procedure.runs_pure _)

/-- A reply that is not empty ends the poll. -/
theorem poll_settles (interval : Duration) (name : String) (start : Duration) (attempts : Nat)
    (settled : (peers.reply (guestIpCall id) m).answer ≠ .ok none) :
    ∃ result, Reports name (peers.reply (guestIpCall id) m).answer result ∧
      (poll interval name id start (attempts + 1)).run.Runs peers m
        [⟨guestIpCall id, peers.reply (guestIpCall id) m⟩] result
        (peers.answered (guestIpCall id) m) := by
  have asks := forHost_runs name (Procedure.runs_ask peers (guestIpCall id) m)
  cases told : (peers.reply (guestIpCall id) m).answer with
  | error e =>
    rw [told] at asks
    exact ⟨_, .failure e, Attempt.runs_bind_error asks⟩
  | ok found =>
    cases found with
    | none => exact absurd told settled
    | some address =>
      rw [told] at asks
      exact ⟨_, .address address, Attempt.runs_bind asks (Procedure.runs_pure _)⟩

/-- After one that is empty the poll begins again. -/
theorem poll_goes_on {line : List (Dispatch outside)} {result : Except Error String}
    {done : Moment σ} (empty : (peers.reply (guestIpCall id) m).answer = .ok none)
    (rest : (poll interval name id start attempts).run.Runs peers
      (peers.again (guestIpCall id) interval m) line result done) :
    (poll interval name id start (attempts + 1)).run.Runs peers m
      (⟨guestIpCall id, peers.reply (guestIpCall id) m⟩ :: line) result done := by
  have asks := forHost_runs name (Procedure.runs_ask peers (guestIpCall id) m)
  rw [empty] at asks
  have sleeps := Attempt.runs_lift
    (Procedure.runs_sleep peers interval (peers.answered (guestIpCall id) m))
  exact Attempt.runs_bind asks (Attempt.runs_bind sleeps rest)

end

/-- The replies that are asked for are those up to the first that is not empty, or all. -/
theorem poll_runs (peers : Peers outside σ) (interval : Duration) (name id : String)
    (start : Duration) (attempts : Nat) (m : Moment σ) :
    ∃ empty ≤ attempts,
      (∀ j < empty, (peers.replies (guestIpCall id) interval m j).answer = .ok none) ∧
      (empty = attempts ∧
          (poll interval name id start attempts).run.Runs peers m
            (peers.series (guestIpCall id) interval m empty)
            (.error (givenUp name start ((peers.again (guestIpCall id) interval)^[empty] m).clock))
            ((peers.again (guestIpCall id) interval)^[empty] m) ∨
        empty < attempts ∧ ∃ result,
          Reports name (peers.replies (guestIpCall id) interval m empty).answer result ∧
          (poll interval name id start attempts).run.Runs peers m
            (peers.series (guestIpCall id) interval m (empty + 1)) result
            (peers.answered (guestIpCall id)
              ((peers.again (guestIpCall id) interval)^[empty] m))) := by
  induction attempts generalizing m with
  | zero => exact ⟨0, Nat.le_refl 0, by simp, .inl ⟨rfl, poll_gives_up⟩⟩
  | succ attempts ih =>
    by_cases told : (peers.reply (guestIpCall id) m).answer = .ok none
    · obtain ⟨empty, le, empties, ends⟩ := ih (peers.again (guestIpCall id) interval m)
      refine ⟨empty + 1, by omega, ?_, ?_⟩
      · intro j lt
        cases j with
        | zero => exact told
        | succ j => exact empties j (by omega)
      · rcases ends with ⟨all, runs⟩ | ⟨lt, result, reports, runs⟩
        · left
          rw [Peers.series_succ]
          exact ⟨by omega, poll_goes_on told runs⟩
        · right
          rw [Peers.series_succ]
          exact ⟨by omega, result, reports, poll_goes_on told runs⟩
    · obtain ⟨result, reports, runs⟩ := poll_settles interval name start attempts told
      exact ⟨0, Nat.zero_le _, by simp, .inr ⟨Nat.succ_pos _, result, reports, runs⟩⟩

/-! ## From the host to its address -/

/-- The number of polls, how many of them were empty, and what came of them, told by what the
machine would say at each. -/
structure Polls (name : String) (trial : Nat → Except Error (Option String)) (limit : Nat)
    (elapsed : Duration) (made empty : Nat) (result : Except Error String) : Prop where
  empties : empty ≤ made ∧ ∀ j < made, trial j = .ok none ↔ j < empty
  untilSettled : ∀ k < limit, (∀ j < k, trial j = .ok none) → trial k ≠ .ok none → made = k + 1
  reported : ∀ address, result = .ok address ↔
    ∃ k < limit, (∀ j < k, trial j = .ok none) ∧ trial k = .ok (some address)
  failed : ∀ k < limit, (∀ j < k, trial j = .ok none) → ∀ e, trial k = .error e →
    result = .error (.provisioning name e.message)
  timedOut : (∀ k < limit, trial k = .ok none) →
    made = limit ∧ result = .error (.timeout ("ip address of host " ++ name) elapsed)

section

variable {trial : Nat → Except Error (Option String)} {limit empty : Nat} {elapsed : Duration}
  {result : Except Error String}

/-- The first reply that is not empty is found at one place only. -/
theorem first_settled {k : Nat} (empties : ∀ j < empty, trial j = .ok none)
    (settled : trial empty ≠ .ok none) (before : ∀ j < k, trial j = .ok none)
    (at_k : trial k ≠ .ok none) : k = empty := by
  rcases Nat.lt_trichotomy k empty with lt | eq | gt
  · exact absurd (empties k lt) at_k
  · exact eq
  · exact absurd (before empty gt) settled

theorem polls_of_settled (empties : ∀ j < empty, trial j = .ok none) (lt : empty < limit)
    (reports : Reports name (trial empty) result) :
    Polls name trial limit elapsed (empty + 1) empty result := by
  have settled : trial empty ≠ .ok none := by
    intro none
    rw [none] at reports
    cases reports
  constructor
  · refine ⟨by omega, ?_⟩
    intro j below
    constructor
    · intro none
      by_cases eq : j = empty
      · rw [eq] at none
        exact absurd none settled
      · omega
    · exact empties j
  · intro k _ before at_k
    rw [first_settled empties settled before at_k]
  · intro address
    constructor
    · rintro rfl
      refine ⟨empty, lt, empties, ?_⟩
      cases told : trial empty with
      | error e =>
        rw [told] at reports
        cases reports
      | ok found =>
        rw [told] at reports
        cases reports
        rfl
    · rintro ⟨k, _, before, at_k⟩
      rw [← first_settled empties settled before (by simp [at_k]), at_k] at reports
      cases reports
      rfl
  · intro k _ before e at_k
    rw [← first_settled empties settled before (by simp [at_k]), at_k] at reports
    cases reports
    rfl
  · intro all
    exact absurd (all empty lt) settled

theorem polls_of_empty (empties : ∀ j < limit, trial j = .ok none) : Polls name trial limit elapsed
    limit limit (.error (.timeout ("ip address of host " ++ name) elapsed)) := by
  constructor
  · exact ⟨Nat.le_refl _, fun j lt => ⟨fun _ => lt, empties j⟩⟩
  · intro k lt _ settled
    exact absurd (empties k lt) settled
  · intro address
    constructor
    · intro same
      cases same
    · rintro ⟨k, lt, _, told⟩
      cases (empties k lt).symm.trans told
  · intro k lt _ e told
    cases (empties k lt).symm.trans told
  · exact fun _ => ⟨rfl, rfl⟩

end

/-- A host is looked up once, and cloned and powered on only if it is not found. If any of this
fails nothing else is called. Else its machine is asked for an address until it says anything, at
most as often as there are attempts and with a pause after each time that it has none. -/
theorem host_polls (peers : Peers outside σ) (vm : VmParams) (name : String) (m : Moment σ) :
    let work := (host vm name).run
    let line := work.timeline peers m
    let result := (work.run peers m).1
    let limit := vm.ipPollAttempts.toNat
    ∃ setup found start, (machine vm name).run.Runs peers m setup found start ∧
      Finds vm name setup found ∧
      (∀ err, found = .error err → line = setup ∧ result = .error err) ∧
      ∀ id, found = .ok id → ∃ made empty,
        let asked := peers.series (guestIpCall id) vm.ipPollInterval start made
        line = setup ++ asked ∧
        Polls name (fun k => (peers.replies (guestIpCall id) vm.ipPollInterval start k).answer)
          limit (waited asked + ⟨limit * vm.ipPollInterval.nanos⟩) made empty result ∧
        (work.run peers m).2.clock =
          m.clock + waited line + ⟨empty * vm.ipPollInterval.nanos⟩ := by
  intro work line result limit
  obtain ⟨setup, found, start, finds, how, clock⟩ := machine_runs peers vm name m
  refine ⟨setup, found, start, finds, how, ?_, ?_⟩
  · rintro err rfl
    have stops : work.Runs peers m setup (.error err) start := Attempt.runs_bind_error finds
    exact ⟨stops.timeline, congrArg Prod.fst stops.run⟩
  · rintro id rfl
    have begins : (ExceptT.lift Procedure.now : Attempt Duration).run.Runs peers start []
        (.ok start.clock) start := Attempt.runs_lift ⟨rfl, rfl⟩
    obtain ⟨empty, le, empties, ends⟩ :=
      poll_runs peers vm.ipPollInterval name id start.clock limit start
    rcases ends with ⟨all, polls⟩ | ⟨lt, told, reports, polls⟩
    · have runs : work.Runs peers m _ _ _ :=
        Attempt.runs_bind finds (Attempt.runs_bind begins polls)
      have total := peers.clock_iterate (guestIpCall id) vm.ipPollInterval start empty
      refine ⟨empty, empty, runs.timeline, ?_, ?_⟩
      · have gives : result = .error (givenUp name start.clock _) := congrArg Prod.fst runs.run
        rw [gives, givenUp_again, all]
        exact polls_of_empty (all ▸ empties)
      · exact runs.clock clock total
    · have runs : work.Runs peers m _ _ _ :=
        Attempt.runs_bind finds (Attempt.runs_bind begins polls)
      have total := peers.clock_answered (guestIpCall id) vm.ipPollInterval start empty
      refine ⟨empty + 1, empty, runs.timeline, ?_, ?_⟩
      · have gives : result = told := congrArg Prod.fst runs.run
        rw [gives]
        exact polls_of_settled empties lt reports
      · exact runs.clock clock total

/-- A hypervisor that has no machine yet, and no address for the next polls, beside peers that let
everything succeed at once. -/
def sluggish : Peers outside Nat where
  answer _ n c :=
    match c with
    | .hypervisor (.find _) => ((.ok none, ⟨1⟩), n)
    | .hypervisor (.clone _ name _) => ((.ok name, ⟨1⟩), n)
    | .hypervisor (.powerOn _) => ((.ok (), ⟨1⟩), n)
    | .hypervisor (.guestIp _) => ((.ok (if n = 0 then some "10.0.0.7" else none), ⟨1⟩), n - 1)
    | c => ((((Lab.Engine.empty Lab.Engine.defaultInfo []).answerExactly c).1, .zero), n)

/-- A machine is made, and it has an address when it is asked for the third time. -/
theorem host_polls_third :
    let vm : VmParams := ⟨"", "", "", "template", "", "", ∅, .default, ⟨10⟩, 5⟩
    let m : Moment Nat := ⟨.zero, 2⟩
    ((host vm "a").run.run sluggish m).1 = .ok "10.0.0.7" ∧
      ((host vm "a").run.timeline sluggish m).length = 6 ∧
      ((host vm "a").run.run sluggish m).2.clock = ⟨26⟩ := by
  intro vm m
  obtain ⟨setup, found, start, finds, -, -, polled⟩ := host_polls sluggish vm "a" m
  have begun : (machine vm "a").run.run sluggish m = (.ok "a", ⟨⟨3⟩, 2⟩) := rfl
  cases finds.run.symm.trans begun
  obtain ⟨made, empty, line, polls, clock⟩ := polled "a" rfl
  have empties : ∀ j < 2, (sluggish.replies (guestIpCall "a") vm.ipPollInterval
      ⟨⟨3⟩, 2⟩ j).answer = .ok none := by
    intro j lt
    have either : j = 0 ∨ j = 1 := by omega
    rcases either with rfl | rfl <;> rfl
  have settled : (sluggish.replies (guestIpCall "a") vm.ipPollInterval ⟨⟨3⟩, 2⟩ 2).answer =
      .ok (some "10.0.0.7") := rfl
  have three : made = 3 := polls.untilSettled 2 (by decide) empties (by simp [settled])
  have result := (polls.reported "10.0.0.7").2 ⟨2, by decide, empties, settled⟩
  subst three
  have two : empty = 2 := by
    have early : 1 < empty := (polls.empties.2 1 (by decide)).1 (empties 1 (by decide))
    have late : ¬2 < empty := by
      intro below
      have none := (polls.empties.2 2 (by decide)).2 below
      cases settled.symm.trans none
    omega
  subst two
  rw [clock, line, ← finds.timeline]
  exact ⟨result, rfl, rfl⟩

end Testbed.Provision
