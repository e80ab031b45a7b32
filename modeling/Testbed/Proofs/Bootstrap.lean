import Testbed.Bootstrap
import Testbed.Proofs.Engine.Conduct
import Testbed.Proofs.Layout
import Testbed.Proofs.Procedure.Timeline
/-!
# How often the tool is run

A bootstrap writes the layout to a file and runs the tool on it, again and again. What the tool
would come to if it were run for ever is a series of replies, of which a bootstrap makes those up to
the first success, and no more than its retries allow (`tryUpTo_runs`). So the number of attempts,
the result and the time slept are told by where the first success stands (`bootstrap_retries`).
-/

namespace Testbed.CommandBootstrapper

open Procedure (Runs)

variable {b : CommandBootstrapper} {r : BootstrapRequest} {σ : Type} {peers : Peers outside σ}

/-- The call that runs the tool on a file. -/
abbrev toolCall (b : CommandBootstrapper) (path : String) : Call :=
  .program b.program (b.args ++ [path])

/-- The tool was run and said that it succeeded. -/
def Succeeded (answer : Except FileError ProgramOutput) : Prop :=
  ∃ output, answer = .ok output ∧ output.status.success = true

theorem verdict_ok {answer : Except FileError ProgramOutput} (succeeded : Succeeded answer) :
    b.verdict answer = .ok () := by
  obtain ⟨output, rfl, success⟩ := succeeded
  simp [verdict, success]

theorem verdict_error {answer : Except FileError ProgramOutput} (failed : ¬Succeeded answer) :
    ∃ reason, b.verdict answer = .error reason := by
  cases answer with
  | error e => exact ⟨_, rfl⟩
  | ok output =>
    cases success : output.status.success with
    | true => exact absurd ⟨output, rfl, success⟩ failed
    | false => simp [verdict, success]

/-! ## Attempts -/

theorem tryOnce_runs (b : CommandBootstrapper) (peers : Peers outside σ) (path : String)
    (m : Moment σ) :
    (b.tryOnce path).Runs peers m [⟨b.toolCall path, peers.reply (b.toolCall path) m⟩]
      (b.verdict (peers.reply (b.toolCall path) m).answer) (peers.answered (b.toolCall path) m) :=
  (Procedure.runs_ask peers (b.toolCall path) m).map b.verdict

/-- The attempts are those up to the first success, or all. -/
theorem tryUpTo_runs (b : CommandBootstrapper) (peers : Peers outside σ) (path : String)
    (pause : Duration) (retries : Nat) (m : Moment σ) :
    ∃ last ≤ retries,
      (∀ j < last, ¬Succeeded (peers.replies (b.toolCall path) pause m j).answer) ∧
      (Succeeded (peers.replies (b.toolCall path) pause m last).answer ∨ last = retries) ∧
      (b.tryUpTo path pause retries).Runs peers m
        (peers.series (b.toolCall path) pause m (last + 1))
        (b.verdict (peers.replies (b.toolCall path) pause m last).answer)
        (peers.answered (b.toolCall path) ((peers.again (b.toolCall path) pause)^[last] m)) := by
  induction retries generalizing m with
  | zero => exact ⟨0, Nat.le_refl 0, by simp, .inr rfl, tryOnce_runs b peers path m⟩
  | succ retries ih =>
    have once := tryOnce_runs b peers path m
    by_cases success : Succeeded (peers.reply (b.toolCall path) m).answer
    · have ok := verdict_ok (b := b) success
      have stops : (b.tryUpTo path pause (retries + 1)).Runs peers m
          [⟨b.toolCall path, peers.reply (b.toolCall path) m⟩] (.ok ())
          (peers.answered (b.toolCall path) m) := by
        rw [ok] at once
        exact once.bind (Procedure.runs_pure _)
      refine ⟨0, Nat.zero_le _, by simp, .inl success, ?_⟩
      rw [show b.verdict (peers.replies (b.toolCall path) pause m 0).answer = .ok () from ok]
      exact stops
    · obtain ⟨reason, failed⟩ := verdict_error (b := b) success
      obtain ⟨last, le, before, at_last, rest⟩ := ih (peers.again (b.toolCall path) pause m)
      refine ⟨last + 1, by omega, ?_, ?_, ?_⟩
      · intro j lt
        cases j with
        | zero => exact success
        | succ j => exact before j (by omega)
      · rcases at_last with succeeded | all
        · exact .inl succeeded
        · exact .inr (by omega)
      · rw [failed] at once
        rw [Peers.series_succ]
        exact once.bind (Runs.slept (m := peers.answered (b.toolCall path) m) rest)

/-! ## The layout file -/

abbrev placing (b : CommandBootstrapper) : Call := .file (.createDir b.workDir)

abbrev writing (b : CommandBootstrapper) (r : BootstrapRequest) : Call :=
  .file (.write (b.layoutFile r) r.layout.render)

/-- What is called to write the layout file, and what that comes to. -/
inductive Writes (b : CommandBootstrapper) (r : BootstrapRequest) :
    List (Dispatch outside) → Except Error Unit → Prop
  | unplaced {placed : Reply outside b.placing} {e : FileError} :
      placed.answer = .error e → Writes b r [⟨_, placed⟩] (.error (.file e))
  | unwritten {placed : Reply outside b.placing} {wrote : Reply outside (b.writing r)}
      {e : FileError} : placed.answer = .ok () → wrote.answer = .error e →
      Writes b r [⟨_, placed⟩, ⟨_, wrote⟩] (.error (.file e))
  | written {placed : Reply outside b.placing} {wrote : Reply outside (b.writing r)} :
      placed.answer = .ok () → wrote.answer = .ok () →
      Writes b r [⟨_, placed⟩, ⟨_, wrote⟩] (.ok ())

theorem askFiles_runs (peers : Peers outside σ) (c : FileCall) (m : Moment σ) :
    (askFiles c).run.Runs peers m [⟨.file c, peers.reply (I := outside) (.file c) m⟩]
      ((peers.reply (I := outside) (.file c) m).answer.mapError Error.file)
      (peers.answered (I := outside) (.file c) m) :=
  (Procedure.runs_ask peers (.file c) m).map fun answer => answer.mapError Error.file

theorem writeLayout_runs (peers : Peers outside σ) (b : CommandBootstrapper) (r : BootstrapRequest)
    (m : Moment σ) :
    ∃ line written start, (b.writeLayout r).run.Runs peers m line written start ∧
      b.Writes r line written ∧ start.clock = m.clock + waited line := by
  have places := askFiles_runs peers (.createDir b.workDir) m
  cases placed : (peers.reply b.placing m).answer with
  | error e =>
    rw [placed] at places
    exact ⟨_, _, _, Attempt.runs_bind_error places, .unplaced placed, rfl⟩
  | ok u =>
    rw [placed] at places
    have writes := askFiles_runs peers (.write (b.layoutFile r) r.layout.render)
      (peers.answered b.placing m)
    have both : (b.writeLayout r).run.Runs peers m _ _ _ := Attempt.runs_bind places writes
    have clock : (peers.answered (b.writing r) (peers.answered b.placing m)).clock = m.clock +
        waited [⟨_, peers.reply b.placing m⟩,
          ⟨_, peers.reply (b.writing r) (peers.answered b.placing m)⟩] := by
      apply Duration.eq_of_nanos
      simp [Peers.answered, Nat.add_assoc]
    cases wrote : (peers.reply (b.writing r) (peers.answered b.placing m)).answer with
    | error e =>
      rw [wrote] at both
      exact ⟨_, _, _, both, .unwritten placed wrote, clock⟩
    | ok u =>
      rw [wrote] at both
      exact ⟨_, _, _, both, .written placed wrote, clock⟩

/-! ## From the layout to the last attempt -/

/-- The number of attempts and their result, told by what the tool would come to at each. -/
structure Tries (b : CommandBootstrapper) (r : BootstrapRequest)
    (trial : Nat → Except FileError ProgramOutput) (limit made : Nat) (result : Except Error Unit) :
    Prop where
  untilSuccess : ∀ k, (∀ j < k, ¬Succeeded (trial j)) → Succeeded (trial k) →
    made = min (k + 1) limit
  withoutSuccess : (∀ k, ¬Succeeded (trial k)) → made = limit
  succeeds : result = .ok () ↔ ∃ k < limit, Succeeded (trial k)
  exhausted : (∀ k < limit, ¬Succeeded (trial k)) → ∃ reason,
    b.verdict (trial (limit - 1)) = .error reason ∧
      result = .error (.bootstrap r.cluster limit reason)

theorem tries_of_last {trial : Nat → Except FileError ProgramOutput} {limit last : Nat}
    {result : Except Error Unit} (count : limit = r.retries.toNat + 1) (lt : last < limit)
    (before : ∀ j < last, ¬Succeeded (trial j))
    (stops : Succeeded (trial last) ∨ last + 1 = limit)
    (is : result = (b.verdict (trial last)).mapError (exhausted r)) :
    b.Tries r trial limit (last + 1) result := by
  have first (k : Nat) (success : Succeeded (trial k)) : last ≤ k := by
    by_cases le : last ≤ k
    · exact le
    · exact absurd success (before k (by omega))
  have failed (fails : ¬Succeeded (trial last)) : ∃ reason,
      b.verdict (trial last) = .error reason ∧
        result = .error (.bootstrap r.cluster limit reason) := by
    obtain ⟨reason, verdict⟩ := verdict_error (b := b) fails
    refine ⟨reason, verdict, ?_⟩
    rw [is, verdict, count]
    rfl
  constructor
  · intro k none success
    have le := first k success
    rcases stops with succeeded | all
    · by_cases eq : last = k
      · omega
      · exact absurd succeeded (none last (by omega))
    · omega
  · intro none
    rcases stops with succeeded | all
    · exact absurd succeeded (none last)
    · exact all
  · constructor
    · intro ok
      by_cases success : Succeeded (trial last)
      · exact ⟨last, lt, success⟩
      · obtain ⟨reason, -, error⟩ := failed success
        cases ok.symm.trans error
    · rintro ⟨k, below, success⟩
      have le := first k success
      have succeeded : Succeeded (trial last) := by
        rcases stops with succeeded | all
        · exact succeeded
        · have eq : last = k := by omega
          rw [eq]
          exact success
      rw [is, verdict_ok succeeded]
      rfl
  · intro none
    have all : last + 1 = limit := stops.resolve_left (none last lt)
    have eq : limit - 1 = last := by omega
    rw [eq]
    exact failed (none last lt)

/-- The layout is written once, and if that fails nothing else is done. Else the tool is run on the
file until it succeeds, at most one time more than there are retries, with a pause between any two
attempts and none at the end. -/
theorem bootstrap_retries {r : BootstrapRequest} (bounded : r.retries < 4294967295)
    (peers : Peers outside σ) (b : CommandBootstrapper) (m : Moment σ) :
    let work := (b.bootstrap r).run
    let line := work.timeline peers m
    let result := (work.run peers m).1
    let tool := b.toolCall (b.layoutFile r)
    Layout.parse r.layout.render = .ok r.layout ∧
    ∃ setup written start, (b.writeLayout r).run.Runs peers m setup written start ∧
      b.Writes r setup written ∧
      (∀ err, written = .error err → line = setup ∧ result = .error err) ∧
      (written = .ok () → ∃ made,
        line = setup ++ peers.series tool r.retryTimeout start made ∧
        b.Tries r (fun k => (peers.replies tool r.retryTimeout start k).answer)
          (r.retries + 1).toNat made result ∧
        (work.run peers m).2.clock =
          m.clock + waited line + ⟨(made - 1) * r.retryTimeout.nanos⟩) := by
  intro work line result tool
  obtain ⟨setup, written, start, writes, how, clock⟩ := writeLayout_runs peers b r m
  refine ⟨r.layout.conveyed.decode .pretty, setup, written, start, writes, how, ?_, ?_⟩
  · rintro err rfl
    have stops : work.Runs peers m setup (.error err) start := Attempt.runs_bind_error writes
    exact ⟨stops.timeline, congrArg Prod.fst stops.run⟩
  · rintro rfl
    obtain ⟨last, le, before, stops, tries⟩ :=
      tryUpTo_runs b peers (b.layoutFile r) r.retryTimeout r.retries.toNat start
    have runs : work.Runs peers m _ _ _ := Attempt.runs_bind writes (tries.map _)
    have count : (r.retries + 1).toNat = r.retries.toNat + 1 := by
      have below := UInt32.lt_iff_toNat_lt.1 bounded
      rw [UInt32.toNat_add]
      exact Nat.mod_eq_of_lt (Nat.succ_lt_succ below)
    refine ⟨last + 1, runs.timeline, ?_, ?_⟩
    · apply tries_of_last count (by omega) before
      · rcases stops with succeeded | all
        · exact .inl succeeded
        · exact .inr (by omega)
      · exact congrArg Prod.fst runs.run
    · have total := peers.clock_answered (b.toolCall (b.layoutFile r)) r.retryTimeout start last
      exact runs.clock clock total

/-- A tool that exits with the given codes, one after the other, beside peers that let everything
succeed at once. -/
def fickle : Peers outside (List Nat) where
  answer _ codes c :=
    match c with
    | .program _ _ => ((.ok ⟨.code (codes.headD 0), []⟩, ⟨3⟩), codes.tail)
    | c => ((((Lab.Engine.empty Lab.Engine.defaultInfo []).answerExactly c).1, .zero), codes)

/-- Of four attempts that are allowed the third succeeds. -/
theorem bootstrap_retries_third :
    let b : CommandBootstrapper := ⟨"tool", ["--layout"], "/work"⟩
    let r : BootstrapRequest := ⟨"alpha", Layout.extreme, 3, ⟨10⟩⟩
    let m : Moment (List Nat) := ⟨.zero, [1, 2, 0, 0]⟩
    r.retries < 4294967295 ∧ ((b.bootstrap r).run.run fickle m).1 = .ok () ∧
      ((b.bootstrap r).run.timeline fickle m).length = 5 ∧
      ((b.bootstrap r).run.run fickle m).2.clock = ⟨29⟩ := by
  intro b r m
  have bounded : r.retries < 4294967295 := by decide
  obtain ⟨-, setup, written, start, writes, -, -, tries⟩ :=
    bootstrap_retries bounded fickle b m
  have begun : (b.writeLayout r).run.run fickle m = (.ok (), ⟨.zero, [1, 2, 0, 0]⟩) := rfl
  have done := writes.run.symm.trans begun
  cases done
  obtain ⟨made, line, tries, clock⟩ := tries rfl
  have fails : ∀ j < 2, ¬Succeeded (fickle.replies (b.toolCall (b.layoutFile r)) r.retryTimeout
      ⟨.zero, [1, 2, 0, 0]⟩ j).answer := by
    rintro j lt ⟨output, same, success⟩
    have either : j = 0 ∨ j = 1 := by omega
    rcases either with rfl | rfl
    · cases same
      cases success
    · cases same
      cases success
  have succeeds : Succeeded (fickle.replies (b.toolCall (b.layoutFile r)) r.retryTimeout
      ⟨.zero, [1, 2, 0, 0]⟩ 2).answer := ⟨_, rfl, rfl⟩
  have three : made = 3 := tries.untilSuccess 2 fails succeeds
  have ok := tries.succeeds.2 ⟨2, by decide, succeeds⟩
  subst three
  rw [clock, line]
  rw [← writes.timeline]
  exact ⟨bounded, ok, rfl, rfl⟩

end Testbed.CommandBootstrapper
