import Testbed.Procedure
/-!
# A pool of workers

A pool runs tasks, at most so many at a time, and starts them in the order in which they were given.
Tasks take turns only where they pause: the one whose pause ends first goes on, and of several the
one that began to pause first. A task that gives nothing died, and the pool goes on without it.

The running tasks stand in the order in which they go on. The schedule ends because every step makes
some task smaller or ends it (`Load`).
-/

namespace Testbed

namespace Procedure

variable {I : Interface} {α : Type}

/-- What is left of a procedure after its first step. -/
inductive Child : Procedure I α → Procedure I α → Prop
  | answered (c : I.Call) (next : I.Answer c → Duration → Procedure I α) (a : I.Answer c)
      (d : Duration) : Child (next a d) (.call c next)
  | resumed (d : Duration) (p : Procedure I α) : Child p (.pause d p)
  | told (next : Duration → Procedure I α) (t : Duration) : Child (next t) (.clock next)

theorem acc_child (p : Procedure I α) : Acc Child p := by
  induction p with
  | done a => exact ⟨_, fun _ h => nomatch h⟩
  | call c next ih => exact ⟨_, fun _ h => match h with | .answered _ _ a d => ih a d⟩
  | pause d p ih => exact ⟨_, fun _ h => match h with | .resumed _ _ => ih⟩
  | clock next ih => exact ⟨_, fun _ h => match h with | .told _ t => ih t⟩

/-- One of several procedures takes a step; their order does not matter. -/
def Advance (after before : List (Procedure I α)) : Prop :=
  ∃ p q rest, before.Perm (p :: rest) ∧ after.Perm (q :: rest) ∧ Child q p

theorem acc_advance_perm {a b : List (Procedure I α)} (h : a.Perm b) (acc : Acc Advance a) :
    Acc Advance b :=
  ⟨_, fun _ ⟨p, q, rest, before, after, child⟩ =>
    acc.inv ⟨p, q, rest, h.trans before, after, child⟩⟩

theorem acc_advance_cons {p : Procedure I α} (hp : Acc Child p) {l : List (Procedure I α)}
    (hl : Acc Advance l) : Acc Advance (p :: l) := by
  induction hp generalizing l with
  | intro p _ ihp =>
    induction hl with
    | intro l hl ihl =>
      refine ⟨_, fun y ⟨p', q, rest, before, after, child⟩ => ?_⟩
      rcases List.mem_cons.1 (before.mem_iff.2 List.mem_cons_self) with rfl | mem
      · have same := (List.perm_cons _).1 before
        refine acc_advance_perm ?_ (ihp q child (l := l) ⟨l, hl⟩)
        exact ((same.cons q).trans after.symm)
      · obtain ⟨s, t, rfl⟩ := List.append_of_mem mem
        have moved : (s ++ p' :: t).Perm (p' :: (s ++ t)) := List.perm_middle
        have others : (p :: (s ++ t)).Perm rest := by
          refine (List.perm_cons p').1 (.trans (.swap p p' _) ?_)
          exact ((moved.symm.cons p).trans before)
        refine acc_advance_perm ?_ (ihl (q :: (s ++ t)) ⟨p', q, s ++ t, moved, .refl _, child⟩)
        exact (List.Perm.swap q p _).trans ((others.cons q).trans after.symm)

theorem acc_advance (l : List (Procedure I α)) : Acc Advance l := by
  induction l with
  | nil => exact ⟨_, fun _ ⟨_, _, _, before, _⟩ => absurd before.length_eq (by simp)⟩
  | cons p l ih => exact acc_advance_cons (acc_child p) ih

end Procedure

namespace Pool

variable {I : Interface} {α : Type}

/-- What is left to do: how many tasks, and the running ones among them. -/
structure Load (I : Interface) (α : Type) where
  count : Nat
  running : List (Procedure I α)

/-- There is less to do when a task ended, or when a running task took a step. -/
instance : WellFoundedRelation (Load I α) where
  rel := InvImage (Prod.Lex Nat.lt Procedure.Advance) fun l => (l.count, l.running)
  wf := InvImage.wf _ (Prod.lex ⟨Nat.lt, Nat.lt_wfRel.wf⟩ ⟨_, ⟨Procedure.acc_advance⟩⟩).wf

theorem load_lt_of_count {a b : Load I α} (h : a.count < b.count) : WellFoundedRelation.rel a b :=
  .left _ _ h

theorem load_lt_of_advance {a b : Load I α} (h : a.count = b.count)
    (step : Procedure.Advance a.running b.running) : WellFoundedRelation.rel a b := by
  obtain ⟨n, l⟩ := a
  obtain ⟨m, k⟩ := b
  cases h
  exact .right _ step

/-- A task that has a worker: when it goes on, in nanoseconds since the pool was started, and what
is left of it. -/
structure Running (I : Interface) (α : Type) where
  ready : Nat
  rest : Procedure I (Option α)

/-- Puts a task behind all that go on no later than it. -/
def enqueue (t : Running I α) : List (Running I α) → List (Running I α)
  | [] => [t]
  | u :: rest => if u.ready ≤ t.ready then u :: enqueue t rest else t :: u :: rest

theorem enqueue_perm (t : Running I α) (l : List (Running I α)) : (enqueue t l).Perm (t :: l) := by
  induction l with
  | nil => exact .refl _
  | cons u l ih =>
    simp only [enqueue]
    split
    · exact (ih.cons u).trans (.swap t u l)
    · exact .refl _

theorem length_enqueue (t : Running I α) (l : List (Running I α)) :
    (enqueue t l).length = l.length + 1 :=
  (enqueue_perm t l).length_eq

/-- What became of the tasks: the results in the order in which they came, and whether a task
died. -/
structure Outcome (α : Type) where
  completed : List α
  failed : Bool
  deriving DecidableEq, Repr

namespace Outcome

def empty : Outcome α := ⟨[], false⟩

/-- Notes how one more task ended. -/
def note (o : Outcome α) : Option α → Outcome α
  | some a => { o with completed := o.completed ++ [a] }
  | none => { o with failed := true }

end Outcome

def load (running : List (Running I α)) (waiting : List (Procedure I (Option α))) :
    Load I (Option α) :=
  ⟨running.length + waiting.length, running.map Running.rest⟩

/-- Follows the schedule from a moment on. -/
def schedule (clock : Nat) (running : List (Running I α)) (waiting : List (Procedure I (Option α)))
    (outcome : Outcome α) : Procedure I (Outcome α) :=
  match running with
  | [] => .done outcome
  | ⟨ready, rest⟩ :: others =>
    .after ⟨ready - clock⟩ <|
      match rest with
      | .done result =>
        match waiting with
        | [] => schedule ready others [] (outcome.note result)
        | task :: waiting =>
          schedule ready (enqueue ⟨ready, task⟩ others) waiting (outcome.note result)
      | .call c next =>
        .call c fun a d => schedule ready (⟨ready, next a d⟩ :: others) waiting outcome
      | .pause d rest => schedule ready (enqueue ⟨ready + d.nanos, rest⟩ others) waiting outcome
      | .clock next =>
        .clock fun t => schedule ready (⟨ready, next t⟩ :: others) waiting outcome
termination_by load running waiting
decreasing_by
  · exact load_lt_of_count (by simp [load])
  · exact load_lt_of_count (by simp [load, length_enqueue])
  · exact load_lt_of_advance (by simp [load])
      ⟨_, _, others.map Running.rest, .refl _, .refl _, .answered c next a d⟩
  · exact load_lt_of_advance (by simp [load, length_enqueue])
      ⟨_, _, others.map Running.rest, .refl _, (enqueue_perm _ others).map Running.rest,
        .resumed d rest⟩
  · exact load_lt_of_advance (by simp [load])
      ⟨_, _, others.map Running.rest, .refl _, .refl _, .told next t⟩

/-- Runs all tasks on so many workers, or on one if there are none. There is no bound on the workers
here. A pool whose slots are the permits of a semaphore has one: where permits are counted in a word
of 64 bits less three, there are at most 2 ^ 61 - 1, and a pool with more is not made at all. -/
def run (workers : Nat) (tasks : List (Procedure I (Option α))) : Procedure I (Outcome α) :=
  let slots := max workers 1
  schedule 0 ((tasks.take slots).map (⟨0, ·⟩)) (tasks.drop slots) .empty

end Pool

end Testbed
