import Testbed.Proofs.Pool.Shifts
import Testbed.Proofs.Procedure.History
/-!
# Following a pool

Whoever follows a pool takes it through turns to the end. Watched or not it does the same and takes
as long, and what was written down is a timetable (`run_timetable`).
-/

namespace Testbed

namespace Pool

variable {I : Interface} {α σ : Type}

/-! ## Schedules, step by step -/

section

open Procedure (after run_after)

variable {peers : Peers I σ} {start : Duration} {now : Nat} {others : List (Running I α)}
  {waiting : List (Procedure I (Option α))} {o : Outcome α} {x : σ}

/-- A schedule does nothing until the first task goes on. -/
theorem run_schedule_wait {ready : Nat} (le : now ≤ ready) {rest : Procedure I (Option α)} :
    (schedule now (⟨ready, rest⟩ :: others) waiting o).run peers ⟨start + ⟨now⟩, x⟩ =
      (schedule ready (⟨ready, rest⟩ :: others) waiting o).run peers ⟨start + ⟨ready⟩, x⟩ := by
  have passed : start + ⟨now⟩ + ⟨ready - now⟩ = start + ⟨ready⟩ := by
    change Duration.mk (start.nanos + now + (ready - now)) = ⟨start.nanos + ready⟩
    congr 1
    omega
  have none : start + ⟨ready⟩ + ⟨ready - ready⟩ = start + ⟨ready⟩ := by
    rw [Nat.sub_self]
    rfl
  rw [schedule.eq_def, schedule.eq_def ready, run_after, run_after]
  simp only [passed, none]

theorem run_schedule_drained {r : Option α} {m : Moment σ} :
    (schedule now (⟨now, .done r⟩ :: others) [] o).run peers m =
      (schedule now others [] (o.note r)).run peers m := by
  rw [schedule]
  simp [after]

theorem run_schedule_refilled {r : Option α} {task : Procedure I (Option α)} {m : Moment σ} :
    (schedule now (⟨now, .done r⟩ :: others) (task :: waiting) o).run peers m =
      (schedule now (enqueue ⟨now, task⟩ others) waiting (o.note r)).run peers m := by
  rw [schedule]
  simp [after]

theorem run_schedule_call {c : I.Call} {next : I.Answer c → Duration → Procedure I (Option α)}
    {m : Moment σ} :
    (schedule now (⟨now, .call c next⟩ :: others) waiting o).run peers m =
      let r := peers.answer m.clock m.state c
      (schedule now (⟨now, next r.1.1 r.1.2⟩ :: others) waiting o).run peers
        { m with state := r.2 } := by
  rw [schedule]
  simp [after, Procedure.run]

theorem run_schedule_pause {d : Duration} {rest : Procedure I (Option α)} {m : Moment σ} :
    (schedule now (⟨now, .pause d rest⟩ :: others) waiting o).run peers m =
      (schedule now (enqueue ⟨now + d.nanos, rest⟩ others) waiting o).run peers m := by
  rw [schedule]
  simp [after]

theorem run_schedule_clock {next : Duration → Procedure I (Option α)} {m : Moment σ} :
    (schedule now (⟨now, .clock next⟩ :: others) waiting o).run peers m =
      (schedule now (⟨now, next m.clock⟩ :: others) waiting o).run peers m := by
  rw [schedule]
  simp [after, Procedure.run]

end

/-! ## Watched and not -/

namespace Post

/-- What is left of a task when nobody watches it. -/
def bare (p : Post I α) : Running I α := ⟨p.ready, p.rest⟩

def watched (p : Post I α) : Running (observed I α) α where
  ready := p.ready
  rest :=
    match p.since with
    | none => watch p.number p.rest
    | some _ => conclude p.number p.rest

theorem map_bare_enqueue (p : Post I α) (l : List (Post I α)) :
    (p.enqueue l).map bare = Pool.enqueue p.bare (l.map bare) :=
  map_enqueue (fun _ => rfl) p l

theorem map_watched_enqueue (p : Post I α) (l : List (Post I α)) :
    (p.enqueue l).map watched = Pool.enqueue p.watched (l.map watched) :=
  map_enqueue (fun _ => rfl) p l

end Post

namespace Shift

def bare (s : Shift I α) : Procedure I (Outcome α) :=
  schedule s.clock (s.posts.map Post.bare) (s.waiting.map (·.1)) s.outcome

def watched (s : Shift I α) : Procedure (observed I α) (Outcome α) :=
  schedule s.clock (s.posts.map Post.watched) (s.waiting.map fun task => watch task.2 task.1)
    s.outcome

/-- What is left to do for those who watch. -/
def load (s : Shift I α) : Load (observed I α) (Option α) :=
  Pool.load (s.posts.map Post.watched) (s.waiting.map fun task => watch task.2 task.1)

/-- Whoever follows a shift from a state of the peers follows another shift later on, from another
state and with more that was written down. -/
structure Goes (peers : Peers I σ) (start : Duration) (s : Shift I α) (x : σ)
    (log es : List (Stamp α)) (t : Shift I α) (y : σ) : Prop where
  bare : s.bare.run peers ⟨start + ⟨s.clock⟩, x⟩ = t.bare.run peers ⟨start + ⟨t.clock⟩, y⟩
  watched : s.watched.run (recording peers start) ⟨start + ⟨s.clock⟩, (x, log)⟩ =
    t.watched.run (recording peers start) ⟨start + ⟨t.clock⟩, (y, log ++ es)⟩

variable {peers : Peers I σ} {start : Duration} {s t u : Shift I α} {x y z : σ}
  {log es fs : List (Stamp α)} {clock i ready : Nat} {since : Option Nat}
  {rest : Procedure I (Option α)} {others : List (Post I α)}
  {waiting : List (Procedure I (Option α) × Nat)} {o : Outcome α}

theorem Goes.trans (first : Goes peers start s x log es t y)
    (next : Goes peers start t y (log ++ es) fs u z) : Goes peers start s x log (es ++ fs) u z where
  bare := first.bare.trans next.bare
  watched := by
    rw [first.watched, next.watched, List.append_assoc]

/-- Until the first post goes on nothing happens. -/
theorem Goes.later (le : clock ≤ ready)
    (goes : Goes peers start ⟨ready, ⟨i, ready, since, rest⟩ :: others, waiting, o⟩ x log es t y) :
    Goes peers start ⟨clock, ⟨i, ready, since, rest⟩ :: others, waiting, o⟩ x log es t y where
  bare := (run_schedule_wait le).trans goes.bare
  watched := (run_schedule_wait le).trans goes.watched

theorem stamped (time : Nat) : (start + ⟨time⟩ : Duration).nanos - start.nanos = time :=
  Nat.add_sub_cancel_left ..

theorem goes_begin :
    Goes peers start ⟨ready, ⟨i, ready, none, rest⟩ :: others, waiting, o⟩ x log
      [⟨ready, .began i⟩] ⟨ready, ⟨i, ready, some ready, rest⟩ :: others, waiting, o⟩ x where
  bare := rfl
  watched := by
    refine run_schedule_call.trans ?_
    simp only [recording, stamped]
    rfl

theorem goes_call {since : Nat} {c : I.Call}
    {next : I.Answer c → Duration → Procedure I (Option α)} :
    let r := peers.answer (start + ⟨ready⟩) x c
    Goes peers start ⟨ready, ⟨i, ready, some since, .call c next⟩ :: others, waiting, o⟩ x log []
      ⟨ready, ⟨i, ready, some since, next r.1.1 r.1.2⟩ :: others, waiting, o⟩ r.2 where
  bare := run_schedule_call
  watched := by
    rw [List.append_nil]
    exact run_schedule_call

theorem goes_clock {since : Nat} {next : Duration → Procedure I (Option α)} :
    Goes peers start ⟨ready, ⟨i, ready, some since, .clock next⟩ :: others, waiting, o⟩ x log []
      ⟨ready, ⟨i, ready, some since, next (start + ⟨ready⟩)⟩ :: others, waiting, o⟩ x where
  bare := run_schedule_clock
  watched := by
    rw [List.append_nil]
    exact run_schedule_clock

theorem goes_pause {since : Nat} {d : Duration} :
    Goes peers start ⟨ready, ⟨i, ready, some since, .pause d rest⟩ :: others, waiting, o⟩ x log []
      ⟨ready, Post.enqueue ⟨i, ready + d.nanos, some since, rest⟩ others, waiting, o⟩ x where
  bare := by
    refine run_schedule_pause.trans ?_
    simp only [Shift.bare, Post.map_bare_enqueue]
    rfl
  watched := by
    refine run_schedule_pause.trans ?_
    simp only [Shift.watched, Post.map_watched_enqueue, List.append_nil]
    rfl

theorem goes_leave {since : Nat} {r : Option α} :
    Goes peers start ⟨ready, ⟨i, ready, some since, .done r⟩ :: others, [], o⟩ x log
      [⟨ready, .ended i r⟩] ⟨ready, others, [], o.note r⟩ x where
  bare := run_schedule_drained
  watched := by
    refine run_schedule_call.trans ?_
    simp only [recording, stamped]
    exact run_schedule_drained

theorem goes_makeRoom {since j : Nat} {r : Option α} {task : Procedure I (Option α)} :
    Goes peers start ⟨ready, ⟨i, ready, some since, .done r⟩ :: others, (task, j) :: waiting, o⟩ x
      log [⟨ready, .ended i r⟩]
      ⟨ready, Post.enqueue ⟨j, ready, none, task⟩ others, waiting, o.note r⟩ x where
  bare := by
    refine run_schedule_refilled.trans ?_
    simp only [Shift.bare, Post.map_bare_enqueue]
    rfl
  watched := by
    refine run_schedule_call.trans ?_
    simp only [recording, stamped]
    refine run_schedule_refilled.trans ?_
    simp only [Shift.watched, Post.map_watched_enqueue]
    rfl

/-! ## To the end -/

/-- There is less to do after the first post did something, wherever it then stands. -/
theorem load_lt_of_child {p q : Post I α} {posts : List (Post I α)} {clock' : Nat} {o' : Outcome α}
    (perm : posts.Perm (q :: others)) (child : Procedure.Child q.watched.rest p.watched.rest) :
    WellFoundedRelation.rel (load ⟨clock', posts, waiting, o'⟩)
      (load ⟨clock, p :: others, waiting, o⟩) := by
  have rests := (perm.map Post.watched).map Running.rest
  refine load_lt_of_advance ?_ ⟨_, _, _, .refl _, rests, child⟩
  simp only [load, Pool.load, List.length_map, perm.length_eq, List.length_cons]

theorem child_begin :
    Procedure.Child (Post.watched ⟨i, ready, some ready, rest⟩).rest
      (Post.watched ⟨i, ready, none, rest⟩).rest :=
  .answered (I := observed I α) (.mark (.began i))
    (fun a d => (Procedure.after d (.done a)).bind fun _ => conclude i rest) () .zero

/-- There is less to do after a task ended and fewer wait. -/
theorem load_lt_of_length {t s : Shift I α}
    (less : t.posts.length + t.waiting.length < s.posts.length + s.waiting.length) :
    WellFoundedRelation.rel t.load s.load :=
  load_lt_of_count (by simpa [load, Pool.load] using less)

/-- A shift takes a turn as long as somebody is at work. -/
theorem proceeds (peers : Peers I σ) (start : Duration) (x : σ) (log : List (Stamp α)) {slots : Nat}
    (lined : s.Lined slots) (some : s.posts ≠ []) :
    ∃ es t y, Turn s es t ∧ Goes peers start s x log es t y ∧
      WellFoundedRelation.rel t.load s.load := by
  obtain ⟨clock, posts, waiting, o⟩ := s
  cases posts with
  | nil => exact absurd rfl some
  | cons p others =>
    have le := lined.ahead p List.mem_cons_self
    obtain ⟨i, ready, since, rest⟩ := p
    cases since with
    | none =>
      exact ⟨_, _, _, .begins, goes_begin.later le, load_lt_of_child (.refl _) child_begin⟩
    | some since =>
      cases rest with
      | call c next =>
        let r := peers.answer (start + ⟨ready⟩) x c
        let told := fun a d => conclude i (next a d)
        exact ⟨_, _, _, .works fun n r takes => .call takes, goes_call.later le,
          load_lt_of_child (.refl _) (.answered (I := observed I α) (.call c) told r.1.1 r.1.2)⟩
      | clock next =>
        let told := fun t => conclude i (next t)
        exact ⟨_, _, _, .works fun n r takes => .clock takes, goes_clock.later le,
          load_lt_of_child (.refl _) (.told told (start + Duration.mk ready))⟩
      | pause d rest =>
        exact ⟨_, _, _, .pauses, goes_pause.later le,
          load_lt_of_child (Post.enqueue_perm _ _) (.resumed d _)⟩
      | done r =>
        cases waiting with
        | nil => exact ⟨_, _, _, .leaves, goes_leave.later le, load_lt_of_length (by simp)⟩
        | cons next waiting =>
          have length := (Post.enqueue_perm ⟨next.2, ready, none, next.1⟩ others).length_eq
          refine ⟨_, _, _, .makesRoom, goes_makeRoom.later le, load_lt_of_length ?_⟩
          simp only [length, List.length_cons]
          omega

/-- Whoever follows a shift takes it through turns until nobody is at work any more. -/
theorem closes (peers : Peers I σ) (start : Duration) (x : σ) (log : List (Stamp α)) {slots : Nat}
    {s : Shift I α} (lined : s.Lined slots) :
    ∃ es t y, Turns s es t ∧ Goes peers start s x log es t y ∧ t.posts = [] := by
  by_cases finished : s.posts = []
  · exact ⟨[], s, x, .none, ⟨rfl, by rw [List.append_nil]⟩, finished⟩
  · obtain ⟨es, t, y, turn, goes, less⟩ := proceeds peers start x log lined finished
    obtain ⟨fs, u, z, turns, after, finished⟩ := closes peers start y (log ++ es) (lined.turn turn)
    exact ⟨es ++ fs, u, z, .first turn turns, goes.trans after, finished⟩
termination_by s.load
decreasing_by exact less

/-- There is nothing to follow when nobody is at work. -/
theorem bare_over (finished : s.posts = []) : s.bare = .done s.outcome := by
  unfold bare
  rw [finished, List.map_nil, schedule]

theorem watched_over (finished : s.posts = []) : s.watched = .done s.outcome := by
  unfold watched
  rw [finished, List.map_nil, schedule]

/-! ## The pool -/

/-- The shift that a pool begins with. -/
def opening (slots : Nat) (tasks : List (Procedure I (Option α))) : Shift I α where
  clock := 0
  posts := (tasks.zipIdx.take slots).map fun task => ⟨task.2, 0, none, task.1⟩
  waiting := tasks.zipIdx.drop slots
  outcome := .empty

variable {slots : Nat} {tasks : List (Procedure I (Option α))}

theorem bare_opening (workers : Nat) :
    (opening (max workers 1) tasks).bare = Pool.run workers tasks := by
  have all : tasks.zipIdx.map (·.1) = tasks := List.zipIdx_map_fst 0 tasks
  have first : (opening (max workers 1) tasks).posts.map Post.bare =
      (tasks.take (max workers 1)).map (⟨0, ·⟩) := by
    conv_rhs => rw [← all, ← List.map_take, List.map_map]
    exact List.map_map
  have rest : (opening (max workers 1) tasks).waiting.map (·.1) = tasks.drop (max workers 1) := by
    conv_rhs => rw [← all, ← List.map_drop]
    rfl
  unfold Shift.bare Pool.run
  rw [first, rest]
  rfl

theorem watched_opening (workers : Nat) :
    (opening (max workers 1) tasks).watched = Pool.run workers (watchAll tasks) := by
  have first : (opening (max workers 1) tasks).posts.map Post.watched =
      ((watchAll tasks).take (max workers 1)).map (⟨0, ·⟩) := by
    unfold watchAll
    rw [← List.map_take, List.map_map]
    exact List.map_map
  have rest : (opening (max workers 1) tasks).waiting.map (fun task => watch task.2 task.1) =
      (watchAll tasks).drop (max workers 1) := List.map_drop
  unfold Shift.watched Pool.run
  rw [first, rest]
  rfl

theorem length_opening (slots : Nat) (tasks : List (Procedure I (Option α))) :
    (opening slots tasks).posts.length = min slots tasks.length := by
  simp [opening]

theorem lined_opening : (opening slots tasks).Lined slots := by
  have first : ∀ p ∈ (opening slots tasks).posts, p.ready = 0 := by
    intro p mem
    obtain ⟨task, _, rfl⟩ := List.mem_map.1 mem
    rfl
  have length := length_opening slots tasks
  constructor
  · refine List.pairwise_of_forall_mem_list fun p mem q mem' => ?_
    rw [first p mem, first q mem']
  · exact fun p _ => Nat.zero_le p.ready
  · exact fun p mem _ => first p mem
  · omega
  · intro waits
    have more : slots < tasks.length := by
      by_contra few
      refine waits (List.drop_eq_nil_of_le ?_)
      rw [List.length_zipIdx]
      omega
    omega

theorem enrolled_opening : (opening slots tasks).Enrolled tasks.length [] := by
  have numbers : tasks.zipIdx.map (·.2) = List.range tasks.length := by
    rw [List.zipIdx_map_snd, List.range_eq_range']
  have fresh : (opening slots tasks).posts.filterMap Post.fresh? =
      (tasks.zipIdx.take slots).map (·.2) := by
    unfold opening
    rw [List.filterMap_map]
    exact congrFun List.filterMap_eq_map _
  have whole : (tasks.zipIdx.take slots).map (·.2) ++ (tasks.zipIdx.drop slots).map (·.2) =
      List.range tasks.length := by
    rw [← List.map_append, List.take_append_drop, numbers]
  constructor
  · rw [fresh]
    exact whole
  · have stand : (opening slots tasks).posts.map Post.number =
        (tasks.zipIdx.take slots).map (·.2) := List.map_map
    rw [stand]
    exact .of_eq whole

theorem traced_opening : (opening slots tasks).Traced tasks [] := by
  have numbered : ∀ task ∈ tasks.zipIdx, tasks[task.2]? = some task.1 := by
    intro task mem
    exact List.mem_zipIdx_iff_getElem?.1 mem
  refine ⟨fun task mem => numbered task (List.mem_of_mem_drop mem), ?_, by simp⟩
  intro p mem
  obtain ⟨task, first, rfl⟩ := List.mem_map.1 mem
  exact ⟨task.1, numbered task (List.mem_of_mem_take first), rfl⟩

theorem logged_opening (some : 0 < slots) : (opening slots tasks).Logged slots tasks.length [] := by
  refine ⟨.nil, by simp, ?_, ?_, rfl, ?_⟩
  · intro before isPrefix
    cases List.prefix_nil.1 isPrefix
    simp [begun, ended]
  · intro time past
    exact absurd past (Nat.not_lt_zero time)
  · intro finished
    have length := length_opening slots tasks
    rw [finished, List.length_nil] at length
    exact .inl ⟨by omega, rfl⟩

theorem kept_opening (tasks : List (Procedure I (Option α))) (some : 0 < slots) :
    (opening slots tasks).Kept slots tasks [] :=
  ⟨lined_opening, enrolled_opening, traced_opening, logged_opening some⟩

end Shift

/-- A pool runs its tasks as its workers allow, and is done when the last task has ended. Watching
it changes nothing. -/
theorem run_timetable (peers : Peers I σ) (workers : Nat) (tasks : List (Procedure I (Option α)))
    (m : Moment σ) :
    ∃ (length : Nat) (outcome : Outcome α) (state : σ) (log : List (Stamp α)),
      (run workers tasks).run peers m = (outcome, ⟨m.clock + ⟨length⟩, state⟩) ∧
      (run workers (watchAll tasks)).run (recording peers m.clock) ⟨m.clock, (m.state, [])⟩ =
        (outcome, ⟨m.clock + ⟨length⟩, (state, log)⟩) ∧
      Timetable (max workers 1) tasks log length outcome := by
  have some : 0 < max workers 1 := Nat.lt_of_lt_of_le Nat.one_pos (Nat.le_max_right ..)
  have kept := Shift.kept_opening tasks some
  obtain ⟨log, s, state, turns, goes, finished⟩ :=
    Shift.closes peers m.clock m.state [] kept.lined
  have timetable := (kept.turns turns).timetable some finished
  have bare := goes.bare
  have watched := goes.watched
  rw [Shift.bare_opening, Shift.bare_over finished] at bare
  rw [Shift.watched_opening, Shift.watched_over finished] at watched
  exact ⟨s.clock, s.outcome, state, log, bare, watched, timetable⟩

end Pool

end Testbed
