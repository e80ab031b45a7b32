import Mathlib.Logic.Function.Iterate
import Testbed.Proofs.Procedure.History
/-!
# When calls are made

`timeline` lists the calls that are made when a procedure is followed against peers, with the time
of each, its answer, and how long that took. What time there is beside the answers (`waited`) was
slept. `Runs` says all that following a procedure comes to, and is put together along its steps
(`Runs.bind`).

Peers can also be asked without a procedure: in a `volley` of calls each is made as soon as the one
before was answered, and `replies` are those to one call that is made over and over, each time when
a pause after the last answer is over.
-/

namespace Testbed

/-- What was said to a call that was made at a time, and how long that took. -/
structure Reply (I : Interface) (c : I.Call) where
  time : Duration
  answer : I.Answer c
  delay : Duration

structure Dispatch (I : Interface) where
  call : I.Call
  reply : Reply I call

variable {I : Interface} {α β σ : Type}

/-- The time in which answers were awaited. -/
def waited (line : List (Dispatch I)) : Duration :=
  line.foldr (fun d time => d.reply.delay + time) .zero

/-! ## Lengths of time -/

namespace Duration

theorem eq_of_nanos {a b : Duration} (same : a.nanos = b.nanos) : a = b :=
  congrArg Duration.mk same

@[simp]
theorem nanos_add (a b : Duration) : (a + b).nanos = a.nanos + b.nanos := rfl

@[simp]
theorem nanos_zero : Duration.zero.nanos = 0 := rfl

end Duration

@[simp]
theorem nanos_waited_nil : (waited ([] : List (Dispatch I))).nanos = 0 := rfl

@[simp]
theorem nanos_waited_cons (d : Dispatch I) (line : List (Dispatch I)) :
    (waited (d :: line)).nanos = d.reply.delay.nanos + (waited line).nanos := rfl

@[simp]
theorem nanos_waited_append (line later : List (Dispatch I)) :
    (waited (line ++ later)).nanos = (waited line).nanos + (waited later).nanos := by
  induction line with
  | nil => simp
  | cons d line ih =>
    simp only [List.cons_append, nanos_waited_cons, ih]
    omega

/-! ## Asking peers -/

namespace Peers

variable (peers : Peers I σ) (c : I.Call) (pause : Duration)

def reply (m : Moment σ) : Reply I c :=
  ⟨m.clock, (peers.answer m.clock m.state c).1.1, (peers.answer m.clock m.state c).1.2⟩

/-- The moment at which the answer to a call is there. -/
def answered (m : Moment σ) : Moment σ :=
  ⟨m.clock + (peers.reply c m).delay, (peers.answer m.clock m.state c).2⟩

/-- Calls that are made one after the other, each as soon as the one before was answered. -/
def volley : List I.Call → Moment σ → List (Dispatch I)
  | [], _ => []
  | c :: rest, m => ⟨c, peers.reply c m⟩ :: volley rest (peers.answered c m)

/-- The moment at which a call is made again, when a pause after its answer is over. -/
def again (m : Moment σ) : Moment σ :=
  { peers.answered c m with clock := (peers.answered c m).clock + pause }

/-- The replies to a call that is made over and over, with a pause after each answer. -/
def replies (m : Moment σ) (i : Nat) : Reply I c := peers.reply c ((peers.again c pause)^[i] m)

/-- So many of the calls that are made over and over. -/
def series (m : Moment σ) (n : Nat) : List (Dispatch I) :=
  (List.range n).map fun i => ⟨c, peers.replies c pause m i⟩

variable {peers c pause} {m : Moment σ}

theorem mem_volley {calls : List I.Call} {d : Dispatch I} (mem : d ∈ peers.volley calls m) :
    d.call ∈ calls := by
  induction calls generalizing m with
  | nil => cases mem
  | cons c calls ih =>
    rcases List.mem_cons.1 mem with rfl | mem
    · exact List.mem_cons_self
    · exact List.mem_cons_of_mem _ (ih mem)

theorem series_succ (n : Nat) : peers.series c pause m (n + 1) =
    ⟨c, peers.reply c m⟩ :: peers.series c pause (peers.again c pause m) n := by
  simp only [series, List.range_succ_eq_map, List.map_cons, List.map_map]
  rfl

/-- A call is made again when the answer before has come and the pause is over. -/
theorem time_replies_succ (i : Nat) : (peers.replies c pause m (i + 1)).time =
    (peers.replies c pause m i).time + (peers.replies c pause m i).delay + pause := by
  unfold replies
  rw [Function.iterate_succ_apply']
  rfl

variable (peers c pause) (m)

theorem clock_iterate (n : Nat) : ((peers.again c pause)^[n] m).clock =
    m.clock + waited (peers.series c pause m n) + ⟨n * pause.nanos⟩ := by
  induction n generalizing m with
  | zero =>
    apply Duration.eq_of_nanos
    simp [series]
  | succ n ih =>
    rw [Function.iterate_succ_apply, ih, series_succ]
    apply Duration.eq_of_nanos
    simp only [again, answered, Duration.nanos_add, nanos_waited_cons, Nat.succ_mul]
    omega

/-- With the last answer it is over: no pause follows. -/
theorem clock_answered (n : Nat) : (peers.answered c ((peers.again c pause)^[n] m)).clock =
    m.clock + waited (peers.series c pause m (n + 1)) + ⟨n * pause.nanos⟩ := by
  have snoc : peers.series c pause m (n + 1) =
      peers.series c pause m n ++ [⟨c, peers.replies c pause m n⟩] := by
    simp [series, List.range_succ]
  have start := congrArg Duration.nanos (clock_iterate peers c pause m n)
  rw [snoc]
  apply Duration.eq_of_nanos
  simp only [answered, Duration.nanos_add, nanos_waited_append, nanos_waited_cons,
    nanos_waited_nil] at start ⊢
  rw [start]
  simp only [replies]
  omega

end Peers

/-! ## Following a procedure -/

namespace Procedure

/-- The calls in the order in which they are made, each with its reply. -/
def timeline (peers : Peers I σ) : Procedure I α → Moment σ → List (Dispatch I)
  | .done _, _ => []
  | .call c next, m =>
    let r := peers.answer m.clock m.state c
    ⟨c, m.clock, r.1.1, r.1.2⟩ :: (next r.1.1 r.1.2).timeline peers { m with state := r.2 }
  | .pause d next, m => next.timeline peers { m with clock := m.clock + d }
  | .clock next, m => (next m.clock).timeline peers m

theorem timeline_bind (peers : Peers I σ) (p : Procedure I α) (f : α → Procedure I β)
    (m : Moment σ) :
    (p >>= f).timeline peers m =
      p.timeline peers m ++ (f (p.run peers m).1).timeline peers (p.run peers m).2 := by
  change (p.bind f).timeline peers m = _
  induction p generalizing m with
  | done a => rfl
  | call c next ih => simp only [bind, timeline, run, ih, List.cons_append]
  | pause d next ih => simp only [bind, timeline, run, ih]
  | clock next ih => simp only [bind, timeline, run, ih]

/-- All that following a procedure comes to: the calls it makes, what it gives, and the moment when
it is done. -/
structure Runs (peers : Peers I σ) (p : Procedure I α) (m : Moment σ) (line : List (Dispatch I))
    (a : α) (done : Moment σ) : Prop where
  timeline : p.timeline peers m = line
  run : p.run peers m = (a, done)

variable {peers : Peers I σ} {m done : Moment σ}

theorem runs_pure (a : α) : (pure a : Procedure I α).Runs peers m [] a m := ⟨rfl, rfl⟩

theorem Runs.bind {p : Procedure I α} {f : α → Procedure I β} {line later : List (Dispatch I)}
    {a : α} {b : β} {last : Moment σ} (first : p.Runs peers m line a done)
    (rest : (f a).Runs peers done later b last) :
    (p >>= f).Runs peers m (line ++ later) b last := by
  constructor
  · rw [timeline_bind, first.timeline, first.run, rest.timeline]
  · rw [run_bind, first.run, rest.run]

theorem Runs.map {p : Procedure I α} {line : List (Dispatch I)} {a : α}
    (h : p.Runs peers m line a done) (f : α → β) : (f <$> p).Runs peers m line (f a) done := by
  rw [map_eq_pure_bind, ← List.append_nil line]
  exact h.bind (runs_pure (f a))

/-- What is slept on the whole, when nothing is slept before the first part is over. -/
theorem Runs.clock {p : Procedure I α} {first rest : List (Dispatch I)} {a : α}
    {start : Moment σ} {slept : Duration} (runs : p.Runs peers m (first ++ rest) a done)
    (begun : start.clock = m.clock + waited first)
    (ends : done.clock = start.clock + waited rest + slept) :
    (p.run peers m).2.clock = m.clock + waited (p.timeline peers m) + slept := by
  rw [runs.run, runs.timeline]
  dsimp only
  rw [ends, begun]
  apply Duration.eq_of_nanos
  simp only [Duration.nanos_add, nanos_waited_append]
  omega

theorem timeline_after (peers : Peers I σ) (d : Duration) (p : Procedure I α) (m : Moment σ) :
    (after d p).timeline peers m = p.timeline peers { m with clock := m.clock + d } := by
  unfold after
  by_cases none : d.nanos = 0
  · have same : m.clock + d = m.clock := Duration.eq_of_nanos (by simp [none])
    rw [if_pos none, same]
  · rw [if_neg none]
    rfl

theorem runs_after {d : Duration} {p : Procedure I α} {line : List (Dispatch I)} {a : α}
    (h : p.Runs peers { m with clock := m.clock + d } line a done) :
    (after d p).Runs peers m line a done := by
  constructor
  · rw [timeline_after, h.timeline]
  · rw [run_after, h.run]

theorem runs_sleep (peers : Peers I σ) (d : Duration) (m : Moment σ) :
    (sleep d).Runs peers m [] () { m with clock := m.clock + d } :=
  runs_after (runs_pure ())

/-- After a pause it goes on as it would from a later moment. -/
theorem Runs.slept {p : Procedure I α} {d : Duration} {line : List (Dispatch I)} {a : α}
    (h : p.Runs peers { m with clock := m.clock + d } line a done) :
    (sleep d >>= fun _ => p).Runs peers m line a done :=
  (runs_sleep peers d m).bind h

/-- What a call leads to is what its answer leads to. -/
theorem runs_call {c : I.Call} {next : I.Answer c → Duration → Procedure I α}
    {line : List (Dispatch I)} {a : α}
    (h : (next (peers.reply c m).answer (peers.reply c m).delay).Runs peers
      ⟨m.clock, (peers.answered c m).state⟩ line a done) :
    (Procedure.call c next).Runs peers m (⟨c, peers.reply c m⟩ :: line) a done := by
  obtain ⟨calls, run⟩ := h
  constructor
  · rw [← calls]
    rfl
  · exact run

theorem runs_ask (peers : Peers I σ) (c : I.Call) (m : Moment σ) :
    (ask c).Runs peers m [⟨c, peers.reply c m⟩] (peers.reply c m).answer (peers.answered c m) :=
  runs_call (runs_after (runs_pure _))

/-- An answer that comes within the limit is waited for. -/
theorem runs_askWithin {limit : Duration} {c : I.Call}
    (inTime : (peers.reply c m).delay.nanos ≤ limit.nanos) :
    (askWithin limit c).Runs peers m [⟨c, peers.reply c m⟩]
      (some ((peers.reply c m).answer, ⟨limit.nanos - (peers.reply c m).delay.nanos⟩))
      (peers.answered c m) := by
  apply runs_call
  rw [if_pos inTime]
  exact runs_after (runs_pure _)

/-- An answer that does not is given up when the limit is over. -/
theorem runs_askWithin_late {limit : Duration} {c : I.Call}
    (late : limit.nanos < (peers.reply c m).delay.nanos) :
    (askWithin limit c).Runs peers m [⟨c, peers.reply c m⟩] none
      ⟨m.clock + limit, (peers.answered c m).state⟩ := by
  apply runs_call
  rw [if_neg (Nat.not_le.2 late)]
  exact runs_after (runs_pure _)

end Procedure

/-! ## Steps that can fail -/

namespace Attempt

variable {peers : Peers outside σ} {m done last : Moment σ} {line later : List (Dispatch outside)}

theorem runs_bind {p : Attempt α} {f : α → Attempt β} {a : α} {r : Except Error β}
    (first : p.run.Runs peers m line (.ok a) done)
    (rest : (f a).run.Runs peers done later r last) :
    (p >>= f).run.Runs peers m (line ++ later) r last := by
  rw [ExceptT.run_bind]
  exact first.bind rest

theorem runs_bind_error {p : Attempt α} {f : α → Attempt β} {e : Error}
    (failed : p.run.Runs peers m line (.error e) done) :
    (p >>= f).run.Runs peers m line (.error e) done := by
  rw [ExceptT.run_bind, ← List.append_nil line]
  exact failed.bind (Procedure.runs_pure _)

theorem runs_lift {p : Work α} {a : α} (h : p.Runs peers m line a done) :
    (ExceptT.lift p : Attempt α).run.Runs peers m line (.ok a) done :=
  h.map Except.ok

end Attempt

end Testbed
