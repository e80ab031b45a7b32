import Mathlib.Algebra.BigOperators.Fin
import Mathlib.Algebra.BigOperators.Intervals
import Mathlib.Algebra.Order.BigOperators.Group.Finset
import Mathlib.Combinatorics.Enumerative.DoubleCounting
import Mathlib.Tactic.Ring
import Testbed.Proofs.Pool.Recording
/-!
# How long a pool takes

Tasks of known lengths keep a pool busy for as long as they take in all, counted once for every task
that runs at a time (`Timetable.work`). At no time do more run than there are slots, and until the
task begins that ends last no fewer do. So the time until all have ended lies between the work that
falls to each slot and that much more what the longest task makes the others wait (`run_makespan`).
-/

namespace Testbed

open Finset (range)

/-- Whatever its calls are answered, the procedure pauses for so many nanoseconds in all. -/
def Procedure.Lasts {I : Interface} {α : Type} (p : Procedure I α) (n : Nat) : Prop :=
  ∀ k r, p.Takes k r → k = n

namespace Pool

variable {I : Interface} {α σ : Type}

/-! ## When a task runs -/

/-- A task runs from one time to another. -/
structure Runs (log : List (Stamp α)) (i since till : Nat) : Prop where
  began : ⟨since, .began i⟩ ∈ log
  ended : ∃ result, ⟨till, .ended i result⟩ ∈ log

section

variable {log : List (Stamp α)} {i : Nat}

theorem mem_begun : i ∈ begun log ↔ ∃ time, ⟨time, .began i⟩ ∈ log := by
  unfold begun
  rw [List.mem_filterMap]
  constructor
  · rintro ⟨⟨time, mark⟩, mem, eq⟩
    cases mark with
    | began => exact ⟨time, Option.some.inj eq ▸ mem⟩
    | ended => cases eq
  · rintro ⟨time, mem⟩
    exact ⟨_, mem, rfl⟩

theorem mem_ended : i ∈ ended log ↔ ∃ time result, ⟨time, .ended i result⟩ ∈ log := by
  unfold ended
  rw [List.mem_filterMap]
  constructor
  · rintro ⟨⟨time, mark⟩, mem, eq⟩
    cases mark with
    | began => cases eq
    | ended task result => exact ⟨time, result, Option.some.inj eq ▸ mem⟩
  · rintro ⟨time, result, mem⟩
    exact ⟨_, mem, rfl⟩

/-- Of elements that give something different each, one gives it. -/
theorem eq_of_nodup_filterMap {β γ : Type} {f : β → Option γ} {l : List β}
    (distinct : (l.filterMap f).Nodup) {a b : β} {c : γ} (ha : a ∈ l) (hb : b ∈ l)
    (fa : f a = some c) (fb : f b = some c) : a = b := by
  induction l with
  | nil => cases ha
  | cons d l ih =>
    have rest : (l.filterMap f).Nodup := distinct.sublist ((List.sublist_cons_self d l).filterMap f)
    have first (fd : f d = some c) : ∀ e ∈ l, f e ≠ some c := by
      intro e mem fe
      rw [List.filterMap_cons_some fd] at distinct
      exact (List.nodup_cons.1 distinct).1 (List.mem_filterMap.2 ⟨e, mem, fe⟩)
    rcases List.mem_cons.1 ha with rfl | ha' <;> rcases List.mem_cons.1 hb with rfl | hb'
    · rfl
    · exact absurd fb (first fa b hb')
    · exact absurd fa (first fb a ha')
    · exact ih rest ha' hb'

/-- What only one stamp tells is told from its time on. -/
theorem mem_filterMap_upTo {f : Stamp α → Option Nat} {s : Stamp α}
    (distinct : (log.filterMap f).Nodup) (mem : s ∈ log) (tells : f s = some i) (time : Nat) :
    i ∈ (upTo time log).filterMap f ↔ s.time ≤ time := by
  unfold upTo
  rw [List.mem_filterMap]
  constructor
  · rintro ⟨other, among, same⟩
    obtain ⟨mem', early⟩ := List.mem_filter.1 among
    rw [eq_of_nodup_filterMap distinct mem mem' tells same]
    exact of_decide_eq_true early
  · intro early
    exact ⟨s, List.mem_filter.2 ⟨mem, decide_eq_true early⟩, tells⟩

end

namespace Timetable

variable {slots length : Nat} {tasks : List (Procedure I (Option α))} {log : List (Stamp α)}
  {outcome : Outcome α} {i since till : Nat}

theorem nodup_begun (t : Timetable slots tasks log length outcome) : (begun log).Nodup := by
  rw [t.begins]
  exact List.nodup_range

theorem nodup_ended (t : Timetable slots tasks log length outcome) : (ended log).Nodup :=
  t.ends.nodup_iff.2 List.nodup_range

/-- Every task runs at some time. -/
theorem exists_runs (t : Timetable slots tasks log length outcome) (given : i < tasks.length) :
    ∃ since till, Runs log i since till := by
  have began : i ∈ begun log := by
    rw [t.begins]
    exact List.mem_range.2 given
  have ended : i ∈ ended log := t.ends.mem_iff.2 (List.mem_range.2 given)
  obtain ⟨since, began⟩ := mem_begun.1 began
  obtain ⟨till, ended⟩ := mem_ended.1 ended
  exact ⟨since, till, began, ended⟩

/-- A task that runs does so for as long as it takes, and no longer than the pool. -/
theorem takes_of_runs (t : Timetable slots tasks log length outcome)
    (runs : Runs log i since till) :
    since ≤ till ∧ till ≤ length ∧
      ∃ task result, tasks[i]? = some task ∧ task.Takes (till - since) result := by
  obtain ⟨result, ended⟩ := runs.ended
  obtain ⟨since', task, began, le, given, takes⟩ := t.takes till i result ended
  have same : Stamp.mk since (.began i) = Stamp.mk since' (.began i) :=
    eq_of_nodup_filterMap t.nodup_begun runs.began began rfl rfl
  obtain rfl : since = since' := congrArg Stamp.time same
  exact ⟨le, t.lasts _ ended, task, result, given, takes⟩

theorem lasts_of_runs (t : Timetable slots tasks log length outcome) {lengths : List Nat}
    (lasts : List.Forall₂ Procedure.Lasts tasks lengths) (runs : Runs log i since till) {d : Nat}
    (given : lengths[i]? = some d) : till - since = d := by
  obtain ⟨-, -, task, result, task_given, takes⟩ := t.takes_of_runs runs
  obtain ⟨short, rfl⟩ := List.getElem?_eq_some_iff.1 given
  obtain ⟨short', rfl⟩ := List.getElem?_eq_some_iff.1 task_given
  exact lasts.get short' short _ result takes

theorem mem_begun_upTo (t : Timetable slots tasks log length outcome)
    (runs : Runs log i since till) (time : Nat) : i ∈ begun (upTo time log) ↔ since ≤ time :=
  mem_filterMap_upTo t.nodup_begun runs.began rfl time

theorem mem_running_upTo (t : Timetable slots tasks log length outcome)
    (runs : Runs log i since till) (time : Nat) :
    i ∈ running (upTo time log) ↔ since ≤ time ∧ time < till := by
  obtain ⟨result, ended⟩ := runs.ended
  have stopped : i ∈ Pool.ended (upTo time log) ↔ till ≤ time :=
    mem_filterMap_upTo t.nodup_ended ended rfl time
  unfold running
  rw [List.mem_filter, t.mem_begun_upTo runs, decide_eq_true_eq, stopped, Nat.not_le]

/-- The tasks that run at a time are counted by when they begin and end. -/
theorem length_running_upTo (t : Timetable slots tasks log length outcome)
    {starts stops : Nat → Nat}
    (runs : ∀ i < tasks.length, Runs log i (starts i) (stops i)) (time : Nat) :
    (running (upTo time log)).length =
      ((range tasks.length).filter fun i => starts i ≤ time ∧ time < stops i).card := by
  have sublist : (running (upTo time log)).Sublist (begun log) :=
    List.filter_sublist.trans (List.filter_sublist.filterMap _)
  rw [← List.toFinset_card_of_nodup (t.nodup_begun.sublist sublist)]
  congr 1
  ext i
  rw [List.mem_toFinset, Finset.mem_filter, Finset.mem_range]
  constructor
  · intro mem
    have given : i < tasks.length := List.mem_range.1 (t.begins ▸ sublist.subset mem)
    exact ⟨given, (t.mem_running_upTo (runs i given) time).1 mem⟩
  · rintro ⟨given, running⟩
    exact (t.mem_running_upTo (runs i given) time).2 running

/-! ## The work of a pool -/

/-- Every task counts at each time at which it runs. -/
theorem sum_running (t : Timetable slots tasks log length outcome) {starts stops : Nat → Nat}
    (runs : ∀ i < tasks.length, Runs log i (starts i) (stops i)) :
    ∑ time ∈ range length, (running (upTo time log)).length =
      ∑ i ∈ range tasks.length, (stops i - starts i) := by
  have counted := Finset.sum_card_bipartiteAbove_eq_sum_card_bipartiteBelow
    (fun time i => starts i ≤ time ∧ time < stops i) (s := range length)
    (t := range tasks.length)
  refine Eq.trans ?_ (counted.trans ?_)
  · exact Finset.sum_congr rfl fun time _ => t.length_running_upTo runs time
  · refine Finset.sum_congr rfl fun i mem => ?_
    obtain ⟨-, le, -⟩ := t.takes_of_runs (runs i (Finset.mem_range.1 mem))
    rw [← Nat.card_Ico]
    congr 1
    ext time
    simp only [Finset.bipartiteBelow, Finset.mem_filter, Finset.mem_range, Finset.mem_Ico]
    omega

/-- All that runs at any time comes to what the tasks take. -/
theorem work (t : Timetable slots tasks log length outcome) {lengths : List Nat}
    (lasts : List.Forall₂ Procedure.Lasts tasks lengths) :
    ∑ time ∈ range length, (running (upTo time log)).length = lengths.sum := by
  have hours : ∀ i, ∃ since till, i < tasks.length → Runs log i since till := by
    intro i
    by_cases given : i < tasks.length
    · obtain ⟨since, till, runs⟩ := t.exists_runs given
      exact ⟨since, till, fun _ => runs⟩
    · exact ⟨0, 0, fun given' => absurd given' given⟩
  choose starts stops runs using hours
  rw [t.sum_running runs, lasts.length_eq, Finset.sum_range, ← Fin.sum_univ_getElem]
  refine Finset.sum_congr rfl fun i _ => ?_
  have given : i.1 < tasks.length := i.2.trans_eq lasts.length_eq.symm
  exact t.lasts_of_runs lasts (runs i.1 given) (List.getElem?_eq_getElem i.2)

/-- There is no more work than there is time for on all slots. -/
theorem work_le (t : Timetable slots tasks log length outcome) :
    ∑ time ∈ range length, (running (upTo time log)).length ≤ slots * length := by
  have each : ∀ time ∈ range length, (running (upTo time log)).length ≤ slots :=
    fun time _ => t.bounded _ (upTo_isPrefix t.inOrder time)
  calc ∑ time ∈ range length, (running (upTo time log)).length
      ≤ (range length).card • slots := Finset.sum_le_card_nsmul _ _ _ each
    _ = slots * length := by rw [Finset.card_range, smul_eq_mul, Nat.mul_comm]

/-- As long as a task has still to begin all slots are taken. -/
theorem busy_before (t : Timetable slots tasks log length outcome) (runs : Runs log i since till)
    {time : Nat} (before : time < since) : (running (upTo time log)).length = slots := by
  refine t.busy time ?_
  have sublist : (begun (upTo time log)).Sublist (begun log) := List.filter_sublist.filterMap _
  have absent : i ∉ begun (upTo time log) :=
    fun mem => Nat.not_le.2 before ((t.mem_begun_upTo runs time).1 mem)
  have present : i ∈ begun log := mem_begun.2 ⟨since, runs.began⟩
  have whole : (begun log).length = tasks.length := by rw [t.begins, List.length_range]
  by_contra all
  have same := sublist.eq_of_length_le (by omega)
  exact absent (same ▸ present)

/-- Until a task begins all slots are taken, and from then on it runs. -/
theorem le_work (t : Timetable slots tasks log length outcome) (runs : Runs log i since length) :
    slots * since + (length - since) ≤
      ∑ time ∈ range length, (running (upTo time log)).length := by
  obtain ⟨le, -, -⟩ := t.takes_of_runs runs
  have before : ∑ time ∈ range since, (running (upTo time log)).length = slots * since := by
    rw [Finset.sum_congr rfl fun time mem => t.busy_before runs (Finset.mem_range.1 mem),
      Finset.sum_const, Finset.card_range, smul_eq_mul, Nat.mul_comm]
  have each : ∀ time ∈ Finset.Ico since length, 1 ≤ (running (upTo time log)).length := by
    intro time mem
    have at_work := (t.mem_running_upTo runs time).2 (Finset.mem_Ico.1 mem)
    exact List.length_pos_of_mem at_work
  have afterwards := Finset.card_nsmul_le_sum _ _ _ each
  rw [Nat.card_Ico, smul_eq_mul, Nat.mul_one] at afterwards
  rw [← Finset.sum_range_add_sum_Ico _ le, before]
  exact Nat.add_le_add_left afterwards _

theorem length_le_of_mem (t : Timetable slots tasks log length outcome) {lengths : List Nat}
    (lasts : List.Forall₂ Procedure.Lasts tasks lengths) {d : Nat} (mem : d ∈ lengths) :
    d ≤ length := by
  obtain ⟨i, short, given⟩ := List.mem_iff_getElem.1 mem
  obtain ⟨since, till, runs⟩ := t.exists_runs (i := i) (lasts.length_eq ▸ short)
  obtain ⟨-, le, -⟩ := t.takes_of_runs runs
  have takes := t.lasts_of_runs lasts runs (List.getElem?_eq_some_iff.2 ⟨short, given⟩)
  omega

/-- Some task ends last. -/
theorem exists_last (t : Timetable slots tasks log length outcome) {lengths : List Nat}
    (lasts : List.Forall₂ Procedure.Lasts tasks lengths) (some : lengths ≠ []) :
    ∃ i since, ∃ d ∈ lengths, Runs log i since length ∧ length = since + d := by
  obtain ⟨rfl, -⟩ | ⟨i, result, ended⟩ := t.returns
  · cases lasts
    exact absurd rfl some
  obtain ⟨since, task, began, le, given, -⟩ := t.takes length i result ended
  have runs : Runs log i since length := ⟨began, result, ended⟩
  have short : i < lengths.length := lasts.length_eq ▸ (List.getElem?_eq_some_iff.1 given).1
  have takes := t.lasts_of_runs lasts runs (List.getElem?_eq_getElem short)
  exact ⟨i, since, lengths[i], List.getElem_mem short, runs, by omega⟩

/-- The other slots may be empty while the last task runs, and at no other time. -/
theorem slots_mul_le (t : Timetable slots tasks log length outcome) {lengths : List Nat}
    (lasts : List.Forall₂ Procedure.Lasts tasks lengths) (some : lengths ≠ [])
    (positive : 0 < slots) :
    slots * length ≤ lengths.sum + (slots - 1) * lengths.max some := by
  obtain ⟨i, since, d, mem, runs, rfl⟩ := t.exists_last lasts some
  obtain ⟨others, rfl⟩ := Nat.exists_eq_add_one.2 positive
  have work := t.le_work runs
  rw [t.work lasts, Nat.add_sub_cancel_left] at work
  have longest : d ≤ lengths.max some := List.le_max_of_mem mem
  calc (others + 1) * (since + d) = (others + 1) * since + d + others * d := by ring
    _ ≤ lengths.sum + others * lengths.max some :=
      Nat.add_le_add work (Nat.mul_le_mul_left others longest)

end Timetable

/-- A pool is done no sooner than its longest task is by itself, and no sooner than all tasks are on
slots that never stand empty; later than that by no more than what the other slots lose while the
longest task runs. -/
theorem run_makespan (peers : Peers I σ) (workers : Nat) {tasks : List (Procedure I (Option α))}
    {lengths : List Nat} (lasts : List.Forall₂ Procedure.Lasts tasks lengths)
    (some : lengths ≠ []) (m : Moment σ) :
    ∃ length, ((run workers tasks).run peers m).2.clock = m.clock + ⟨length⟩ ∧
      lengths.max some ≤ length ∧
      lengths.sum ≤ max workers 1 * length ∧
      max workers 1 * length ≤ lengths.sum + (max workers 1 - 1) * lengths.max some := by
  have positive : 0 < max workers 1 := Nat.lt_of_lt_of_le Nat.one_pos (Nat.le_max_right ..)
  have kept := Shift.kept_opening tasks positive
  obtain ⟨log, s, state, turns, goes, finished⟩ :=
    Shift.closes peers m.clock m.state [] kept.lined
  have timetable := (kept.turns turns).timetable positive finished
  have bare := goes.bare
  rw [Shift.bare_opening, Shift.bare_over finished] at bare
  refine ⟨s.clock, congrArg (·.2.clock) bare, ?_, ?_, timetable.slots_mul_le lasts some positive⟩
  · exact timetable.length_le_of_mem lasts (List.max_mem some)
  · rw [← timetable.work lasts]
    exact timetable.work_le

/-! ## Tasks that only wait -/

/-- Waits and then gives a result, or dies. -/
def nap (d : Duration) (result : Option α) : Procedure I (Option α) := do
  Procedure.sleep d
  return result

theorem lasts_nap (d : Duration) (result : Option α) :
    (nap d result : Procedure I (Option α)).Lasts d.nanos := by
  intro k r takes
  change (Procedure.bind (Procedure.after d (.done ())) fun _ => .done result).Takes k r at takes
  unfold Procedure.after at takes
  split at takes
  · rename_i none
    cases takes
    exact none.symm
  · cases takes with
    | pause takes =>
      cases takes
      rfl

/-- Peers of those who never call. -/
def nobody : Peers ⟨Empty, fun _ => Unit⟩ Unit := ⟨fun _ _ c => nomatch c⟩

/-- Two slots, of which one is empty while the longest task runs that comes last; another dies. -/
theorem run_makespan_uneven : ∃ length,
    ((run 2 [nap (.ofMillis 1) (some 1), nap (.ofMillis 1) none, nap (.ofMillis 2) (some 3)]).run
      nobody ⟨.zero, ()⟩).2.clock = .zero + ⟨length⟩ ∧
    [1000000, 1000000, 2000000] ≠ ([] : List Nat) ∧
    2000000 ≤ length ∧ 4000000 ≤ 2 * length ∧ 2 * length ≤ 4000000 + (2 - 1) * 2000000 := by
  have lasts := List.Forall₂.cons (lasts_nap (I := ⟨Empty, fun _ => Unit⟩) (.ofMillis 1) (some 1))
    (.cons (lasts_nap (.ofMillis 1) none) (.cons (lasts_nap (.ofMillis 2) (some 3)) .nil))
  obtain ⟨length, clock, longest, least, most⟩ :=
    run_makespan nobody 2 lasts (by decide) ⟨.zero, ()⟩
  exact ⟨length, clock, by decide, longest, least, most⟩

end Pool

end Testbed
