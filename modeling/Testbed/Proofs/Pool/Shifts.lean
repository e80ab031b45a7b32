import Mathlib.Data.List.Sort
import Testbed.Proofs.Pool.Timetable
/-!
# How a pool works through its tasks

A schedule of watched tasks goes on in turns (`Turn`): the first task in line begins, works, pauses
or ends, and one that ended makes room for the next that waits. What every turn keeps is said in
parts: how the line stands (`Lined`), where each task is (`Enrolled`), what the tasks do (`Traced`)
and what the log tells of all that (`Logged`). Once nobody is at work any more the log is a
timetable (`Kept.timetable`).
-/

namespace Testbed

namespace Pool

variable {I : Interface} {α : Type}

/-- A task that has a worker: when it goes on, since when it has been at work if it has begun, and
what is left of it. -/
structure Post (I : Interface) (α : Type) where
  number : Nat
  ready : Nat
  since : Option Nat
  rest : Procedure I (Option α)

namespace Post

/-- Puts a post behind all that go on no later than it. -/
def enqueue (p : Post I α) (l : List (Post I α)) : List (Post I α) :=
  l.orderedInsert (fun p q => p.ready < q.ready) p

/-- The number of a task that has still to begin. -/
def fresh? (p : Post I α) : Option Nat :=
  match p.since with
  | none => some p.number
  | some _ => none

@[simp]
theorem fresh_of_none (i ready : Nat) (rest : Procedure I (Option α)) :
    fresh? ⟨i, ready, none, rest⟩ = some i := rfl

@[simp]
theorem fresh_of_some (i ready since : Nat) (rest : Procedure I (Option α)) :
    fresh? ⟨i, ready, some since, rest⟩ = none := rfl

/-- Posts stand in the order in which the tasks do, whatever is made of these. -/
theorem map_enqueue {J : Interface} {β : Type} {f : Post I α → Running J β}
    (same : ∀ p, (f p).ready = p.ready) (p : Post I α) (l : List (Post I α)) :
    (p.enqueue l).map f = Pool.enqueue (f p) (l.map f) := by
  unfold enqueue
  induction l with
  | nil => rfl
  | cons q l ih =>
    simp only [List.orderedInsert_cons, List.map_cons, Pool.enqueue, same]
    by_cases later : p.ready < q.ready
    · rw [if_pos later, if_neg (Nat.not_le.2 later)]
      rfl
    · rw [if_neg later, if_pos (Nat.not_lt.1 later), List.map_cons, ih]

theorem enqueue_perm (p : Post I α) (l : List (Post I α)) : (p.enqueue l).Perm (p :: l) :=
  List.perm_orderedInsert _ p l

theorem enqueue_ne_nil (p : Post I α) (l : List (Post I α)) : p.enqueue l ≠ [] := by
  intro empty
  have length := (p.enqueue_perm l).length_eq
  rw [empty] at length
  cases length

theorem enqueue_sorted {p : Post I α} {l : List (Post I α)}
    (sorted : l.Pairwise (·.ready ≤ ·.ready)) : (p.enqueue l).Pairwise (·.ready ≤ ·.ready) := by
  unfold enqueue
  induction l with
  | nil => simp
  | cons q l ih =>
    obtain ⟨first, rest⟩ := List.pairwise_cons.1 sorted
    rw [List.orderedInsert_cons]
    split
    · rename_i later
      refine List.pairwise_cons.2 ⟨fun k mem => ?_, sorted⟩
      rcases List.mem_cons.1 mem with rfl | mem
      · exact Nat.le_of_lt later
      · have := first k mem
        omega
    · rename_i before
      refine List.pairwise_cons.2 ⟨fun k mem => ?_, ih rest⟩
      rcases (List.mem_orderedInsert _).1 mem with rfl | mem
      · omega
      · exact first k mem

/-- A task that has begun changes nothing about those that have not. -/
theorem fresh_enqueue_begun {p : Post I α} (begun : p.fresh? = none) (l : List (Post I α)) :
    (p.enqueue l).filterMap fresh? = l.filterMap fresh? := by
  unfold enqueue
  rw [List.orderedInsert_eq_take_drop, List.filterMap_append, List.filterMap_cons_none begun,
    ← List.filterMap_append, List.takeWhile_append_dropWhile]

/-- A task that is to begin at once does so behind all others that are. -/
theorem fresh_enqueue {p : Post I α} {l : List (Post I α)} {i : Nat} (isFresh : p.fresh? = some i)
    (prompt : ∀ q ∈ l, q.since = none → q.ready ≤ p.ready)
    (sorted : l.Pairwise (·.ready ≤ ·.ready)) :
    (p.enqueue l).filterMap fresh? = l.filterMap fresh? ++ [i] := by
  unfold enqueue
  induction l with
  | nil => simp [isFresh]
  | cons q l ih =>
    obtain ⟨first, rest⟩ := List.pairwise_cons.1 sorted
    rw [List.orderedInsert_cons]
    split
    · rename_i later
      -- all from `q` on go on later, and none of them is to begin
      have none : (q :: l).filterMap fresh? = [] := by
        refine List.filterMap_eq_nil_iff.2 fun k mem => ?_
        have after : p.ready < k.ready := by
          rcases List.mem_cons.1 mem with rfl | mem
          · exact later
          · exact Nat.lt_of_lt_of_le later (first k mem)
        cases since : k.since with
        | none => exact absurd (prompt k mem since) (Nat.not_le.2 after)
        | some b => simp [fresh?, since]
      rw [List.filterMap_cons_some isFresh, none]
      rfl
    · have later := ih (fun k mem => prompt k (List.mem_cons_of_mem q mem)) rest
      rw [List.filterMap_cons, List.filterMap_cons, later]
      cases q.fresh? <;> rfl

end Post

/-- What a pool has come to by a time, and what it has still to do. -/
structure Shift (I : Interface) (α : Type) where
  clock : Nat
  posts : List (Post I α)
  waiting : List (Procedure I (Option α) × Nat)
  outcome : Outcome α

/-- One step of a pool. -/
inductive Turn : Shift I α → List (Stamp α) → Shift I α → Prop
  | begins {clock i ready : Nat} {task : Procedure I (Option α)} {others : List (Post I α)}
      {waiting : List (Procedure I (Option α) × Nat)} {o : Outcome α} :
    Turn ⟨clock, ⟨i, ready, none, task⟩ :: others, waiting, o⟩ [⟨ready, .began i⟩]
      ⟨ready, ⟨i, ready, some ready, task⟩ :: others, waiting, o⟩
  | works {clock i ready since : Nat} {before after : Procedure I (Option α)}
      {others : List (Post I α)} {waiting : List (Procedure I (Option α) × Nat)} {o : Outcome α} :
    (∀ n r, after.Takes n r → before.Takes n r) →
    Turn ⟨clock, ⟨i, ready, some since, before⟩ :: others, waiting, o⟩ []
      ⟨ready, ⟨i, ready, some since, after⟩ :: others, waiting, o⟩
  | pauses {clock i ready since : Nat} {d : Duration} {rest : Procedure I (Option α)}
      {others : List (Post I α)} {waiting : List (Procedure I (Option α) × Nat)} {o : Outcome α} :
    Turn ⟨clock, ⟨i, ready, some since, .pause d rest⟩ :: others, waiting, o⟩ []
      ⟨ready, Post.enqueue ⟨i, ready + d.nanos, some since, rest⟩ others, waiting, o⟩
  | leaves {clock i ready since : Nat} {r : Option α} {others : List (Post I α)} {o : Outcome α} :
    Turn ⟨clock, ⟨i, ready, some since, .done r⟩ :: others, [], o⟩ [⟨ready, .ended i r⟩]
      ⟨ready, others, [], o.note r⟩
  | makesRoom {clock i ready since j : Nat} {r : Option α} {task : Procedure I (Option α)}
      {others : List (Post I α)} {waiting : List (Procedure I (Option α) × Nat)} {o : Outcome α} :
    Turn ⟨clock, ⟨i, ready, some since, .done r⟩ :: others, (task, j) :: waiting, o⟩
      [⟨ready, .ended i r⟩]
      ⟨ready, Post.enqueue ⟨j, ready, none, task⟩ others, waiting, o.note r⟩

/-- Turns one after the other, and all that was marked meanwhile. -/
inductive Turns : Shift I α → List (Stamp α) → Shift I α → Prop
  | none {s : Shift I α} : Turns s [] s
  | first {s t u : Shift I α} {es fs : List (Stamp α)} :
      Turn s es t → Turns t fs u → Turns s (es ++ fs) u

variable {clock i : Nat} {p q : Post I α} {others : List (Post I α)}
  {waiting waiting' : List (Procedure I (Option α) × Nat)} {o o' : Outcome α} {slots : Nat}
  {tasks : List (Procedure I (Option α))} {s t : Shift I α} {log es : List (Stamp α)}

/-! ## The line -/

/-- Posts stand in the order in which they go on, and tasks that have still to begin do so at once.
As long as tasks wait every slot has its post. -/
structure Shift.Lined (slots : Nat) (s : Shift I α) : Prop where
  sorted : s.posts.Pairwise (·.ready ≤ ·.ready)
  ahead : ∀ p ∈ s.posts, s.clock ≤ p.ready
  prompt : ∀ p ∈ s.posts, p.since = none → p.ready = s.clock
  atMost : s.posts.length ≤ slots
  full : s.waiting ≠ [] → s.posts.length = slots

namespace Shift.Lined

/-- The line stays as it is until the first post goes on. -/
theorem advance (lined : Lined slots ⟨clock, p :: others, waiting, o⟩) :
    Lined slots ⟨p.ready, p :: others, waiting, o⟩ := by
  have first : ∀ q ∈ p :: others, p.ready ≤ q.ready := by
    intro q mem
    rcases List.mem_cons.1 mem with rfl | mem
    · exact Nat.le_refl _
    · exact (List.pairwise_cons.1 lined.sorted).1 q mem
  refine ⟨lined.sorted, first, fun q mem isFresh => ?_, lined.atMost, lined.full⟩
  have now : q.ready = clock := lined.prompt q mem isFresh
  have ahead : clock ≤ p.ready := lined.ahead p List.mem_cons_self
  exact Nat.le_antisymm (now ▸ ahead) (first q mem)

/-- The first post is at work. -/
theorem replace (lined : Lined slots ⟨clock, p :: others, waiting, o⟩)
    (same : q.ready = p.ready) (begun : q.since ≠ none) :
    Lined slots ⟨clock, q :: others, waiting, o⟩ := by
  obtain ⟨sorted, ahead, prompt, atMost, full⟩ := lined
  obtain ⟨first, rest⟩ := List.pairwise_cons.1 sorted
  refine ⟨List.pairwise_cons.2 ⟨same ▸ first, rest⟩, ?_, ?_, atMost, full⟩
  · intro k mem
    rcases List.mem_cons.1 mem with rfl | mem
    · exact same ▸ ahead p List.mem_cons_self
    · exact ahead k (List.mem_cons_of_mem p mem)
  · intro k mem isFresh
    rcases List.mem_cons.1 mem with rfl | mem
    · exact absurd isFresh begun
    · exact prompt k (List.mem_cons_of_mem p mem) isFresh

/-- Another post comes in place of the first one, wherever that is in the line. -/
theorem requeue (lined : Lined slots ⟨clock, p :: others, waiting, o⟩) (ahead : clock ≤ q.ready)
    (prompt : q.since = none → q.ready = clock) (fewer : waiting' ≠ [] → waiting ≠ []) :
    Lined slots ⟨clock, q.enqueue others, waiting', o'⟩ := by
  have perm := q.enqueue_perm others
  have length : (q.enqueue others).length = (p :: others).length := perm.length_eq
  refine ⟨Post.enqueue_sorted (List.pairwise_cons.1 lined.sorted).2, ?_, ?_, ?_, ?_⟩
  · intro k mem
    rcases List.mem_cons.1 (perm.mem_iff.1 mem) with rfl | mem
    · exact ahead
    · exact lined.ahead k (List.mem_cons_of_mem p mem)
  · intro k mem
    rcases List.mem_cons.1 (perm.mem_iff.1 mem) with rfl | mem
    · exact prompt
    · exact lined.prompt k (List.mem_cons_of_mem p mem)
  · exact length ▸ lined.atMost
  · exact fun some => length ▸ lined.full (fewer some)

/-- The first post is not needed any more, because no task waits for it. -/
theorem dismiss (lined : Lined slots ⟨clock, p :: others, [], o⟩) :
    Lined slots ⟨clock, others, [], o'⟩ where
  sorted := (List.pairwise_cons.1 lined.sorted).2
  ahead q mem := lined.ahead q (List.mem_cons_of_mem p mem)
  prompt q mem := lined.prompt q (List.mem_cons_of_mem p mem)
  atMost := Nat.le_of_succ_le lined.atMost
  full none := absurd rfl none

theorem turn (lined : s.Lined slots) (turn : Turn s es t) : t.Lined slots := by
  cases turn with
  | begins => exact lined.advance.replace rfl (by simp)
  | works => exact lined.advance.replace rfl (by simp)
  | pauses => exact lined.advance.requeue (Nat.le_add_right _ _) (by simp) id
  | leaves => exact lined.advance.dismiss
  | makesRoom => exact lined.advance.requeue (Nat.le_refl _) (fun _ => rfl) (by simp)

/-- While time passes before a turn, all tasks that have a worker are at work. -/
theorem fresh_eq_nil (lined : s.Lined slots) (turn : Turn s es t) (passes : s.clock < t.clock) :
    s.posts.filterMap Post.fresh? = [] := by
  have first : ∀ q ∈ s.posts, t.clock ≤ q.ready := by
    cases turn with
    | begins | works | pauses | leaves | makesRoom => exact lined.advance.ahead
  refine List.filterMap_eq_nil_iff.2 fun q mem => ?_
  cases since : q.since with
  | some b => simp [Post.fresh?, since]
  | none =>
    have now := lined.prompt q mem since
    have later := first q mem
    omega

/-- A turn comes no earlier than the one before, and what it marks is marked then. -/
theorem time (lined : s.Lined slots) (turn : Turn s es t) :
    s.clock ≤ t.clock ∧ ∀ e ∈ es, e.time = t.clock := by
  cases turn with
  | begins | leaves | makesRoom => exact ⟨lined.ahead _ List.mem_cons_self, by simp⟩
  | works | pauses => exact ⟨lined.ahead _ List.mem_cons_self, by simp⟩

end Shift.Lined

/-! ## Where the tasks are -/

/-- Every task waits, has still to begin, is at work or has ended, and tasks begin in order. -/
structure Shift.Enrolled (count : Nat) (log : List (Stamp α)) (s : Shift I α) : Prop where
  begins : begun log ++ (s.posts.filterMap Post.fresh? ++ s.waiting.map (·.2)) = List.range count
  ends : (ended log ++ (s.posts.map Post.number ++ s.waiting.map (·.2))).Perm (List.range count)

namespace Shift.Enrolled

variable {count : Nat}

theorem turn (lined : s.Lined slots) (enrolled : s.Enrolled count log) (turn : Turn s es t) :
    t.Enrolled count (log ++ es) := by
  obtain ⟨begins, ends⟩ := enrolled
  constructor
  · rw [begun_append, ← begins]
    cases turn with
    | begins => simp [begun, Mark.began?, List.filterMap_cons]
    | works => simp [begun, List.filterMap_cons]
    | pauses =>
      rw [Post.fresh_enqueue_begun rfl]
      simp [begun, List.filterMap_cons]
    | leaves => simp [begun, Mark.began?, List.filterMap_cons]
    | @makesRoom clock _ ready _ _ _ _ others _ _ =>
      have line := lined.advance
      have prompt : ∀ q ∈ others, q.since = none → q.ready ≤ ready := fun q mem isFresh =>
        Nat.le_of_eq (line.prompt q (List.mem_cons_of_mem _ mem) isFresh)
      rw [Post.fresh_enqueue rfl prompt (List.pairwise_cons.1 line.sorted).2]
      simp [begun, Mark.began?, List.filterMap_cons]
  · rw [ended_append]
    refine List.Perm.trans ?_ ends
    cases turn with
    | begins => simp [ended, Mark.ended?]
    | works => simp [ended]
    | @pauses _ i ready since d rest others =>
      let later : Post I α := ⟨i, ready + d.nanos, some since, rest⟩
      have same : ((later.enqueue others).map Post.number).Perm (i :: others.map Post.number) :=
        (later.enqueue_perm others).map Post.number
      simpa [ended] using (same.append_right _).append_left _
    | leaves => simp [ended, Mark.ended?]
    | @makesRoom _ i ready _ j r task others waiting =>
      have same : ((Post.enqueue ⟨j, ready, none, task⟩ others).map Post.number).Perm
          (j :: others.map Post.number) := (Post.enqueue_perm _ others).map Post.number
      have joined : ((Post.enqueue ⟨j, ready, none, task⟩ others).map Post.number ++
          waiting.map (·.2)).Perm (others.map Post.number ++ j :: waiting.map (·.2)) :=
        (same.append_right _).trans List.perm_middle.symm
      simpa [ended, Mark.ended?] using (joined.cons i).append_left _

theorem length_begun (enrolled : s.Enrolled count log) :
    (begun log).length + (s.posts.filterMap Post.fresh?).length + s.waiting.length = count := by
  have whole := congrArg List.length enrolled.begins
  simp only [List.length_append, List.length_map, List.length_range] at whole
  omega

theorem length_ended (enrolled : s.Enrolled count log) :
    (ended log).length + s.posts.length + s.waiting.length = count := by
  have whole := enrolled.ends.length_eq
  simp only [List.length_append, List.length_map, List.length_range] at whole
  omega

theorem nodup_begun (enrolled : s.Enrolled count log) : (begun log).Nodup := by
  have distinct := List.nodup_range (n := count)
  rw [← enrolled.begins] at distinct
  exact (List.nodup_append.1 distinct).1

theorem nodup_ended (enrolled : s.Enrolled count log) : (ended log).Nodup :=
  (List.nodup_append.1 (enrolled.ends.nodup_iff.2 List.nodup_range)).1

/-- Only a task that began has ended. -/
theorem ended_subset (enrolled : s.Enrolled count log) : ended log ⊆ begun log := by
  intro i mem
  have apart := (List.nodup_append.1 (enrolled.ends.nodup_iff.2 List.nodup_range)).2.2
  have somewhere : i ∈ List.range count := enrolled.ends.subset (List.mem_append_left _ mem)
  rw [← enrolled.begins] at somewhere
  rcases List.mem_append.1 somewhere with began | elsewhere
  · exact began
  -- a task that has still to begin has a post or waits, and one that ended has not
  · have here : i ∈ s.posts.map Post.number ++ s.waiting.map (·.2) := by
      rcases List.mem_append.1 elsewhere with isFresh | waits
      · obtain ⟨p, post, eq⟩ := List.mem_filterMap.1 isFresh
        have number : p.number = i := by
          cases since : p.since with
          | none => simpa [Post.fresh?, since] using eq
          | some b => simp [Post.fresh?, since] at eq
        exact List.mem_append_left _ (List.mem_map.2 ⟨p, post, number⟩)
      · exact List.mem_append_right _ waits
    exact absurd rfl (apart i mem i here)

end Shift.Enrolled

/-! ## What the tasks do -/

/-- A post has the task of its number: all of it if the task has still to begin, and what is left
after the time since then. -/
def Post.Follows (tasks : List (Procedure I (Option α))) (log : List (Stamp α)) (p : Post I α) :
    Prop :=
  ∃ task, tasks[p.number]? = some task ∧
    match p.since with
    | none => p.rest = task
    | some since => since ≤ p.ready ∧ ⟨since, .began p.number⟩ ∈ log ∧
        ∀ n r, p.rest.Takes n r → task.Takes (p.ready - since + n) r

theorem Post.Follows.append (follows : p.Follows tasks log) (es : List (Stamp α)) :
    p.Follows tasks (log ++ es) := by
  obtain ⟨i, ready, since, rest⟩ := p
  obtain ⟨task, given, rest⟩ := follows
  cases since with
  | none => exact ⟨task, given, rest⟩
  | some since =>
    obtain ⟨le, began, takes⟩ := rest
    exact ⟨task, given, le, List.mem_append_left es began, takes⟩

/-- What is told of a task that ended. -/
def Accounted (tasks : List (Procedure I (Option α))) (log : List (Stamp α)) (time i : Nat)
    (r : Option α) : Prop :=
  ∃ since task, ⟨since, .began i⟩ ∈ log ∧ since ≤ time ∧ tasks[i]? = some task ∧
    task.Takes (time - since) r

/-- A task that has nothing left has taken as long as it does take. -/
theorem Post.Follows.accounted {ready since : Nat} {r : Option α}
    (follows : Post.Follows tasks log ⟨i, ready, some since, .done r⟩) :
    Accounted tasks log ready i r := by
  obtain ⟨task, given, le, began, takes⟩ := follows
  exact ⟨since, task, began, le, given, takes 0 r (.done r)⟩

/-- Posts follow their tasks, those that wait are whole, and those that ended are accounted for. -/
structure Shift.Traced (tasks : List (Procedure I (Option α))) (log : List (Stamp α))
    (s : Shift I α) : Prop where
  waits : ∀ task ∈ s.waiting, tasks[task.2]? = some task.1
  posts : ∀ p ∈ s.posts, p.Follows tasks log
  ends : ∀ time i r, ⟨time, .ended i r⟩ ∈ log → Accounted tasks log time i r

namespace Shift.Traced

theorem append (traced : s.Traced tasks log) (es : List (Stamp α))
    (ends : ∀ time i r, ⟨time, .ended i r⟩ ∈ es → Accounted tasks log time i r) :
    s.Traced tasks (log ++ es) where
  waits := traced.waits
  posts p mem := (traced.posts p mem).append es
  ends time i r mem := by
    have accounted : Accounted tasks log time i r := by
      rcases List.mem_append.1 mem with before | now
      · exact traced.ends time i r before
      · exact ends time i r now
    obtain ⟨since, task, began, rest⟩ := accounted
    exact ⟨since, task, List.mem_append_left es began, rest⟩

/-- Another post comes in place of the first one. -/
theorem replace {posts : List (Post I α)} {clock' : Nat}
    (traced : Traced tasks log ⟨clock, p :: others, waiting, o⟩) (follows : q.Follows tasks log)
    (fewer : waiting' ⊆ waiting) (perm : posts.Perm (q :: others)) :
    Traced tasks log ⟨clock', posts, waiting', o'⟩ where
  waits task mem := traced.waits task (fewer mem)
  posts k mem := by
    rcases List.mem_cons.1 (perm.mem_iff.1 mem) with rfl | mem
    · exact follows
    · exact traced.posts k (List.mem_cons_of_mem p mem)
  ends := traced.ends

theorem dismiss {clock' : Nat} (traced : Traced tasks log ⟨clock, p :: others, waiting, o⟩) :
    Traced tasks log ⟨clock', others, waiting, o'⟩ where
  waits := traced.waits
  posts q mem := traced.posts q (List.mem_cons_of_mem p mem)
  ends := traced.ends

theorem turn (traced : s.Traced tasks log) (turn : Turn s es t) : t.Traced tasks (log ++ es) := by
  cases turn with
  | @begins clock i ready task others waiting o =>
    obtain ⟨whole, given, same⟩ := traced.posts _ List.mem_cons_self
    have same : task = whole := same
    have takes : ∀ n r, task.Takes n r → whole.Takes (ready - ready + n) r := by
      intro n r h
      rw [Nat.sub_self, Nat.zero_add, ← same]
      exact h
    have follows : Post.Follows tasks (log ++ [⟨ready, .began i⟩]) ⟨i, ready, some ready, task⟩ :=
      ⟨whole, given, Nat.le_refl ready, by simp, takes⟩
    exact (traced.append _ (by simp)).replace follows (List.Subset.refl _) (.refl _)
  | @works clock i ready since before after others waiting o step =>
    obtain ⟨task, given, le, began, takes⟩ := traced.posts _ List.mem_cons_self
    have follows : Post.Follows tasks log ⟨i, ready, some since, after⟩ :=
      ⟨task, given, le, began, fun n r h => takes n r (step n r h)⟩
    rw [List.append_nil]
    exact traced.replace follows (List.Subset.refl _) (.refl _)
  | @pauses clock i ready since d rest others waiting o =>
    obtain ⟨task, given, le, began, takes⟩ := traced.posts _ List.mem_cons_self
    have le : since ≤ ready := le
    have later : ∀ n r, rest.Takes n r → task.Takes (ready + d.nanos - since + n) r := by
      intro n r h
      have sum : ready + d.nanos - since + n = ready - since + (d.nanos + n) := by omega
      rw [sum]
      exact takes _ r (.pause h)
    have follows : Post.Follows tasks log ⟨i, ready + d.nanos, some since, rest⟩ :=
      ⟨task, given, Nat.le_add_right_of_le le, began, later⟩
    rw [List.append_nil]
    exact traced.replace follows (List.Subset.refl _) (Post.enqueue_perm _ others)
  | @leaves clock i ready since r others o =>
    have accounted := (traced.posts _ List.mem_cons_self).accounted
    refine (traced.append [⟨ready, .ended i r⟩] ?_).dismiss
    rintro time j r' mem
    cases List.mem_singleton.1 mem
    exact accounted
  | @makesRoom clock i ready since j r task others waiting o =>
    have accounted := (traced.posts _ List.mem_cons_self).accounted
    have isFresh : Post.Follows tasks (log ++ [⟨ready, .ended i r⟩]) ⟨j, ready, none, task⟩ :=
      ⟨task, traced.waits (task, j) List.mem_cons_self, rfl⟩
    refine (traced.append [⟨ready, .ended i r⟩] ?_).replace isFresh (List.subset_cons_self _ _)
      (Post.enqueue_perm _ others)
    rintro time k r' mem
    cases List.mem_singleton.1 mem
    exact accounted

end Shift.Traced

/-! ## What the log tells -/

/-- No more tasks run than there are slots, at no point of the log, and no fewer at any time so far
at which some task had still to begin. -/
structure Shift.Logged (slots count : Nat) (log : List (Stamp α)) (s : Shift I α) : Prop where
  inOrder : log.Pairwise (·.time ≤ ·.time)
  past : ∀ e ∈ log, e.time ≤ s.clock
  bounded : ∀ before, before <+: log →
    ended before ⊆ begun before ∧ (begun before).length ≤ (ended before).length + slots
  busy : ∀ time, time < s.clock → (begun (upTo time log)).length < count →
    (begun (upTo time log)).length = (ended (upTo time log)).length + slots
  outcome : s.outcome = (results log).foldl .note .empty
  returns : s.posts = [] → count = 0 ∧ s.clock = 0 ∨ ∃ i r, ⟨s.clock, .ended i r⟩ ∈ log

namespace Shift.Logged

variable {count : Nat}

theorem inOrder_turn (logged : s.Logged slots count log) (lined : s.Lined slots)
    (turn : Turn s es t) :
    (log ++ es).Pairwise (·.time ≤ ·.time) ∧ ∀ e ∈ log ++ es, e.time ≤ t.clock := by
  obtain ⟨later, now⟩ := lined.time turn
  have before : ∀ e ∈ log, e.time ≤ t.clock := fun e mem => (logged.past e mem).trans later
  constructor
  · refine List.pairwise_append.2 ⟨logged.inOrder, ?_, ?_⟩
    · exact List.pairwise_of_forall_mem_list fun e mem f mem' => by rw [now e mem, now f mem']
    · exact fun e mem f mem' => now f mem' ▸ before e mem
  · intro e mem
    rcases List.mem_append.1 mem with mem | mem
    · exact before e mem
    · exact Nat.le_of_eq (now e mem)

theorem bounded_turn (logged : s.Logged slots count log) (lined : t.Lined slots)
    (enrolled : t.Enrolled count (log ++ es)) (turn : Turn s es t) (before : List (Stamp α))
    (isPrefix : before <+: log ++ es) :
    ended before ⊆ begun before ∧ (begun before).length ≤ (ended before).length + slots := by
  have short : es = [] ∨ ∃ e, es = [e] := by
    cases turn with
    | begins | leaves | makesRoom => exact .inr ⟨_, rfl⟩
    | works | pauses => exact .inl rfl
  have cut : before <+: log ∨ before = log ++ es := by
    rcases short with rfl | ⟨e, rfl⟩
    · exact .inl (List.append_nil log ▸ isPrefix)
    · exact (List.prefix_concat_iff.1 isPrefix).symm
  rcases cut with earlier | rfl
  · exact logged.bounded before earlier
  · have begins := enrolled.length_begun
    have ends := enrolled.length_ended
    have atMost := lined.atMost
    exact ⟨enrolled.ended_subset, by omega⟩

theorem busy_turn (logged : s.Logged slots count log) (lined : s.Lined slots)
    (enrolled : s.Enrolled count log) (turn : Turn s es t) (time : Nat) (past : time < t.clock)
    (some : (begun (upTo time (log ++ es))).length < count) :
    (begun (upTo time (log ++ es))).length = (ended (upTo time (log ++ es))).length + slots := by
  have later : ∀ e ∈ es, time < e.time := fun e mem => (lined.time turn).2 e mem ▸ past
  rw [upTo_append_later later] at some ⊢
  by_cases before : time < s.clock
  · exact logged.busy time before some
  -- nothing happens until the turn, and all that have a worker are at work
  · have passes : s.clock < t.clock := by omega
    have all : upTo time log = log :=
      upTo_eq_self fun e mem => (logged.past e mem).trans (Nat.not_lt.1 before)
    rw [all] at some ⊢
    have noneFresh := lined.fresh_eq_nil turn passes
    have begins := enrolled.length_begun
    have ends := enrolled.length_ended
    rw [noneFresh, List.length_nil, Nat.add_zero] at begins
    have waits : s.waiting ≠ [] := by
      intro empty
      rw [empty, List.length_nil] at begins
      omega
    have full := lined.full waits
    omega

theorem turn (logged : s.Logged slots count log) (lined : s.Lined slots)
    (enrolled : s.Enrolled count log) (turn : Turn s es t) :
    t.Logged slots count (log ++ es) := by
  obtain ⟨inOrder, past⟩ := logged.inOrder_turn lined turn
  refine ⟨inOrder, past, logged.bounded_turn (lined.turn turn) (enrolled.turn lined turn) turn,
    logged.busy_turn lined enrolled turn, ?_, ?_⟩
  · rw [results_append, List.foldl_append, ← logged.outcome]
    cases turn with
    | begins | works | pauses | leaves | makesRoom => rfl
  · intro finished
    cases turn with
    | begins | works => cases finished
    | pauses | makesRoom => exact absurd finished (Post.enqueue_ne_nil _ _)
    | @leaves _ i _ _ r => exact .inr ⟨i, r, by simp⟩

end Shift.Logged

/-! ## The whole schedule -/

/-- All that every turn keeps. -/
structure Shift.Kept (slots : Nat) (tasks : List (Procedure I (Option α))) (log : List (Stamp α))
    (s : Shift I α) : Prop where
  lined : s.Lined slots
  enrolled : s.Enrolled tasks.length log
  traced : s.Traced tasks log
  logged : s.Logged slots tasks.length log

namespace Shift.Kept

theorem turn (kept : s.Kept slots tasks log) (turn : Turn s es t) :
    t.Kept slots tasks (log ++ es) where
  lined := kept.lined.turn turn
  enrolled := kept.enrolled.turn kept.lined turn
  traced := kept.traced.turn turn
  logged := kept.logged.turn kept.lined kept.enrolled turn

theorem turns (kept : s.Kept slots tasks log) (turns : Turns s es t) :
    t.Kept slots tasks (log ++ es) := by
  induction turns generalizing log with
  | none => rwa [List.append_nil]
  | first turn _ ih =>
    rw [← List.append_assoc]
    exact ih (kept.turn turn)

/-- When nobody is at work any more the log is a timetable. -/
theorem timetable (kept : s.Kept slots tasks log) (some : 0 < slots) (finished : s.posts = []) :
    Timetable slots tasks log s.clock s.outcome := by
  obtain ⟨lined, enrolled, traced, logged⟩ := kept
  have idle : s.waiting = [] := by
    by_contra waits
    have full := lined.full waits
    rw [finished, List.length_nil] at full
    omega
  have begins := enrolled.begins
  have ends := enrolled.ends
  simp only [finished, idle, List.filterMap_nil, List.map_nil, List.append_nil] at begins ends
  have runs : ∀ before, before <+: log →
      (running before).length + (ended before).length = (begun before).length := by
    intro before isPrefix
    refine length_running ?_ ?_ (logged.bounded before isPrefix).1
    · exact enrolled.nodup_begun.sublist (isPrefix.sublist.filterMap _)
    · exact enrolled.nodup_ended.sublist (isPrefix.sublist.filterMap _)
  refine ⟨logged.inOrder, begins, ends, traced.ends, ?_, ?_, logged.past, ?_, ?_, ?_⟩
  · intro before isPrefix
    have length := runs before isPrefix
    have bounded := (logged.bounded before isPrefix).2
    omega
  · intro time waits
    have length := runs _ (upTo_isPrefix logged.inOrder time)
    by_cases past : time < s.clock
    · have busy := logged.busy time past waits
      omega
    · have all : upTo time log = log :=
        upTo_eq_self fun e mem => (logged.past e mem).trans (Nat.not_lt.1 past)
      rw [all, begins, List.length_range] at waits
      omega
  · rcases logged.returns finished with ⟨noTask, start⟩ | last
    · exact .inl ⟨List.length_eq_zero_iff.1 noTask, start⟩
    · exact .inr last
  · rw [logged.outcome, (foldl_note _ _).1]
    rfl
  · rw [logged.outcome, (foldl_note _ _).2]
    simp [Outcome.empty]

end Shift.Kept

end Pool

end Testbed
