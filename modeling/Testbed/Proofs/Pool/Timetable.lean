import Mathlib.Data.List.Perm.Subperm
import Testbed.Pool
/-!
# The timetable of a pool

Somebody who stands beside a pool writes down when each task begins, when it ends and what it gave
(`watch`, `recording`). The log tells which tasks run at what time (`running`, `upTo`), and a
`Timetable` says that they were run as the slots of the pool allow: every task once and in order,
never more at a time than there are slots, and never fewer while one has still to begin.

A task takes as long as its pauses add up to, whatever its calls are answered (`Procedure.Takes`).
-/

namespace Testbed

/-- With some answers, the procedure pauses for so many nanoseconds and ends with a result. -/
inductive Procedure.Takes {I : Interface} {α : Type} : Procedure I α → Nat → α → Prop
  | done (a : α) : Takes (.done a) 0 a
  | call {c : I.Call} {next : I.Answer c → Duration → Procedure I α} {a : I.Answer c} {d : Duration}
      {n : Nat} {r : α} : Takes (next a d) n r → Takes (.call c next) n r
  | pause {d : Duration} {p : Procedure I α} {n : Nat} {r : α} :
      Takes p n r → Takes (.pause d p) (d.nanos + n) r
  | clock {next : Duration → Procedure I α} {t : Duration} {n : Nat} {r : α} :
      Takes (next t) n r → Takes (.clock next) n r

namespace Pool

/-! ## Watching -/

/-- What is written down about a task, which goes by its number. A task that dies gives nothing. -/
inductive Mark (α : Type) where
  | began (task : Nat)
  | ended (task : Nat) (result : Option α)

/-- A mark, and how many nanoseconds had passed when it was made. -/
structure Stamp (α : Type) where
  time : Nat
  mark : Mark α

/-- The calls of an interface, and marks besides. -/
inductive Observed (I : Interface) (α : Type) where
  | call (c : I.Call)
  | mark (m : Mark α)

@[reducible]
def Observed.Answer {I : Interface} {α : Type} : Observed I α → Type
  | .call c => I.Answer c
  | .mark _ => Unit

@[reducible]
def observed (I : Interface) (α : Type) : Interface := ⟨Observed I α, Observed.Answer⟩

section

variable {I : Interface} {α β σ : Type}

/-- A procedure that makes no marks. -/
def unmarked : Procedure I β → Procedure (observed I α) β
  | .done b => .done b
  | .call c next => .call (.call c) fun a d => unmarked (next a d)
  | .pause d p => .pause d (unmarked p)
  | .clock next => .clock fun t => unmarked (next t)

def mark (m : Mark α) : Procedure (observed I α) Unit :=
  Procedure.ask (I := observed I α) (.mark m)

/-- Follows a task to its end and marks that. -/
def conclude (number : Nat) (task : Procedure I (Option α)) :
    Procedure (observed I α) (Option α) := do
  let result ← unmarked task
  mark (.ended number result)
  return result

/-- Follows a task from its beginning, which is marked as well. -/
def watch (number : Nat) (task : Procedure I (Option α)) :
    Procedure (observed I α) (Option α) := do
  mark (.began number)
  conclude number task

/-- Watches tasks that are numbered from zero. -/
def watchAll (tasks : List (Procedure I (Option α))) :
    List (Procedure (observed I α) (Option α)) :=
  tasks.zipIdx.map fun task => watch task.2 task.1

/-- Peers beside somebody who writes down the marks, with the time since a moment. -/
def recording (peers : Peers I σ) (start : Duration) :
    Peers (observed I α) (σ × List (Stamp α)) where
  answer clock s
    | .call c => ((peers.answer clock s.1 c).1, ((peers.answer clock s.1 c).2, s.2))
    | .mark m => (((), .zero), (s.1, s.2 ++ [⟨clock.nanos - start.nanos, m⟩]))

/-! ## Reading a log -/

def Mark.began? : Mark α → Option Nat
  | .began task => some task
  | .ended _ _ => none

def Mark.ended? : Mark α → Option Nat
  | .began _ => none
  | .ended task _ => some task

def Mark.result? : Mark α → Option (Option α)
  | .began _ => none
  | .ended _ result => some result

/-- The tasks that began, in the order in which they did. -/
def begun (log : List (Stamp α)) : List Nat := log.filterMap (·.mark.began?)

def ended (log : List (Stamp α)) : List Nat := log.filterMap (·.mark.ended?)

/-- What the tasks gave that ended. -/
def results (log : List (Stamp α)) : List (Option α) := log.filterMap (·.mark.result?)

/-- The tasks that began and did not end. -/
def running (log : List (Stamp α)) : List Nat := (begun log).filter (· ∉ ended log)

/-- All that happened up to a time. -/
def upTo (time : Nat) (log : List (Stamp α)) : List (Stamp α) :=
  log.filter (·.time ≤ time)

/-- The tasks were run as so many slots allow, in so many nanoseconds. -/
structure Timetable (slots : Nat) (tasks : List (Procedure I (Option α)))
    (log : List (Stamp α)) (length : Nat) (outcome : Outcome α) : Prop where
  inOrder : log.Pairwise (·.time ≤ ·.time)
  /-- Every task begins once, in the order in which they were given. -/
  begins : begun log = List.range tasks.length
  /-- Every task ends once. -/
  ends : (ended log).Perm (List.range tasks.length)
  /-- From its beginning to its end a task does what it has to, and takes as long as that. -/
  takes : ∀ time i result, ⟨time, .ended i result⟩ ∈ log → ∃ since task,
    ⟨since, .began i⟩ ∈ log ∧ since ≤ time ∧ tasks[i]? = some task ∧
      task.Takes (time - since) result
  /-- At no point of the log do more tasks run than there are slots. -/
  bounded : ∀ past, past <+: log → (running past).length ≤ slots
  /-- At every time at which some task has still to begin all slots are taken. -/
  busy : ∀ time, (begun (upTo time log)).length < tasks.length →
    (running (upTo time log)).length = slots
  /-- It is over when the last task has ended. -/
  lasts : ∀ s ∈ log, s.time ≤ length
  returns : tasks = [] ∧ length = 0 ∨ ∃ i result, ⟨length, .ended i result⟩ ∈ log
  completed : outcome.completed = (results log).filterMap id
  failed : outcome.failed = true ↔ none ∈ results log

end

/-! ## What a log tells -/

section

variable {α : Type} {log : List (Stamp α)}

theorem begun_append (log more : List (Stamp α)) : begun (log ++ more) = begun log ++ begun more :=
  List.filterMap_append

theorem ended_append (log more : List (Stamp α)) : ended (log ++ more) = ended log ++ ended more :=
  List.filterMap_append

theorem results_append (log more : List (Stamp α)) :
    results (log ++ more) = results log ++ results more :=
  List.filterMap_append

/-- Of tasks that began once, those that ended do not run. -/
theorem length_running (distinct : (begun log).Nodup) (distinct' : (ended log).Nodup)
    (subset : ended log ⊆ begun log) :
    (running log).length + (ended log).length = (begun log).length := by
  have finished : ((begun log).filter (· ∈ ended log)).Perm (ended log) := by
    refine (List.perm_ext_iff_of_nodup (distinct.filter _) distinct').2 fun i => ?_
    simp only [List.mem_filter, decide_eq_true_eq]
    exact ⟨And.right, fun mem => ⟨subset mem, mem⟩⟩
  have parts := List.length_eq_length_filter_add (l := begun log) (· ∈ ended log)
  have rest : (begun log).filter (fun i => !decide (i ∈ ended log)) = running log := by
    unfold running
    simp
  rw [rest, finished.length_eq] at parts
  omega

/-- What happened up to a time is how a log begins that is in order. -/
theorem upTo_isPrefix (inOrder : log.Pairwise (·.time ≤ ·.time)) (time : Nat) :
    upTo time log <+: log := by
  unfold upTo
  induction log with
  | nil => exact List.nil_prefix
  | cons s rest ih =>
    obtain ⟨first, inOrder⟩ := List.pairwise_cons.1 inOrder
    by_cases early : s.time ≤ time
    · rw [List.filter_cons_of_pos (by simpa using early)]
      exact (List.prefix_cons_inj s).2 (ih inOrder)
    · have none : (s :: rest).filter (·.time ≤ time) = [] := by
        refine List.filter_eq_nil_iff.2 fun t mem => ?_
        rcases List.mem_cons.1 mem with rfl | mem
        · simpa using early
        · have later := first t mem
          simp only [decide_eq_true_eq]
          omega
      rw [none]
      exact List.nil_prefix

theorem upTo_eq_self {time : Nat} (past : ∀ s ∈ log, s.time ≤ time) : upTo time log = log :=
  List.filter_eq_self.2 fun s mem => by simpa using past s mem

theorem upTo_append_later {time : Nat} {later : List (Stamp α)}
    (after : ∀ s ∈ later, time < s.time) : upTo time (log ++ later) = upTo time log := by
  have none : later.filter (·.time ≤ time) = [] := by
    refine List.filter_eq_nil_iff.2 fun s mem => ?_
    have := after s mem
    simp only [decide_eq_true_eq]
    omega
  unfold upTo
  rw [List.filter_append, none, List.append_nil]

/-- What comes of noting results one after the other. -/
theorem foldl_note (results : List (Option α)) (o : Outcome α) :
    (results.foldl .note o).completed = o.completed ++ results.filterMap id ∧
      ((results.foldl .note o).failed = true ↔ o.failed = true ∨ none ∈ results) := by
  induction results generalizing o with
  | nil => simp
  | cons r rest ih =>
    obtain ⟨completed, failed⟩ := ih (o.note r)
    rw [List.foldl_cons, completed, failed]
    cases r with
    | none => simp [Outcome.note]
    | some a => simp [Outcome.note]

end

end Pool

end Testbed
