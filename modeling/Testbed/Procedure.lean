import Testbed.Duration
/-!
# Procedures

An `Interface` lists calls and says what each is answered with. A `Procedure` is what somebody does
who can make these calls, as data: a finite tree of calls, pauses and looks at the clock. Nothing is
said about who answers; `Procedure.run` follows a procedure against peers that answer each call from
a state of their own, on a clock that only pauses move.

An answer comes with the time it takes to arrive. `ask` waits for it, `askWithin` gives up on it
when a limit is over.

Main statements: procedures are a lawful monad, and running a sequence is running its parts in turn
(`run_bind`). A procedure can be followed where another makes a call (`through_bind`).
-/

namespace Testbed

structure Interface where
  Call : Type
  Answer : Call → Type

inductive Procedure (I : Interface) (α : Type) where
  | done (a : α)
  | call (c : I.Call) (next : I.Answer c → Duration → Procedure I α)
  | pause (d : Duration) (next : Procedure I α)
  | clock (next : Duration → Procedure I α)

namespace Procedure

variable {I J : Interface} {α β : Type}

def bind : Procedure I α → (α → Procedure I β) → Procedure I β
  | .done a, f => f a
  | .call c next, f => .call c fun a d => (next a d).bind f
  | .pause d next, f => .pause d (next.bind f)
  | .clock next, f => .clock fun t => (next t).bind f

instance : Monad (Procedure I) where
  pure := .done
  bind := bind

theorem bind_done (p : Procedure I α) : p.bind .done = p := by
  induction p with
  | done a => rfl
  | call c next ih => simp only [bind, ih]
  | pause d next ih => simp only [bind, ih]
  | clock next ih => simp only [bind, ih]

theorem bind_assoc {γ : Type} (p : Procedure I α) (f : α → Procedure I β) (g : β → Procedure I γ) :
    (p.bind f).bind g = p.bind fun a => (f a).bind g := by
  induction p with
  | done a => rfl
  | call c next ih => simp only [bind, ih]
  | pause d next ih => simp only [bind, ih]
  | clock next ih => simp only [bind, ih]

instance : LawfulMonad (Procedure I) :=
  LawfulMonad.mk' (Procedure I) bind_done (fun _ _ => rfl) bind_assoc

/-- Waits, unless there is nothing to wait for. -/
def after (d : Duration) (p : Procedure I α) : Procedure I α :=
  if d.nanos = 0 then p else .pause d p

def sleep (d : Duration) : Procedure I Unit := after d (.done ())

/-- The time since the clock was started. -/
def now : Procedure I Duration := .clock .done

/-- Makes a call and waits for its answer. -/
def ask (c : I.Call) : Procedure I (I.Answer c) := .call c fun a d => after d (.done a)

/-- Makes a call and waits for its answer for at most so long. Gives the answer and the time that is
left, or nothing if the answer would come later. -/
def askWithin (limit : Duration) (c : I.Call) : Procedure I (Option (I.Answer c × Duration)) :=
  .call c fun a d =>
    if d.nanos ≤ limit.nanos then after d (.done (some (a, ⟨limit.nanos - d.nanos⟩)))
    else after limit (.done none)

end Procedure

/-! ## Following a procedure -/

/-- Peers that answer from a state. They know the time. -/
structure Peers (I : Interface) (σ : Type) where
  answer : (clock : Duration) → σ → (c : I.Call) → (I.Answer c × Duration) × σ

/-- The state of the peers and the time since the clock was started. -/
structure Moment (σ : Type) where
  clock : Duration
  state : σ

namespace Procedure

variable {I J : Interface} {α β σ : Type}

def run (peers : Peers I σ) : Procedure I α → Moment σ → α × Moment σ
  | .done a, m => (a, m)
  | .call c next, m =>
    let r := peers.answer m.clock m.state c
    (next r.1.1 r.1.2).run peers { m with state := r.2 }
  | .pause d next, m => next.run peers { m with clock := m.clock + d }
  | .clock next, m => (next m.clock).run peers m

theorem run_bind (peers : Peers I σ) (p : Procedure I α) (f : α → Procedure I β) (m : Moment σ) :
    (p >>= f).run peers m = (f (p.run peers m).1).run peers (p.run peers m).2 := by
  change (p.bind f).run peers m = _
  induction p generalizing m with
  | done a => rfl
  | call c next ih => simp only [bind, run, ih]
  | pause d next ih => simp only [bind, run, ih]
  | clock next ih => simp only [bind, run, ih]

theorem run_pure (peers : Peers I σ) (a : α) (m : Moment σ) :
    (pure a : Procedure I α).run peers m = (a, m) := rfl

end Procedure

/-! ## Procedures in place of calls -/

namespace Procedure

variable {I J : Interface} {α β : Type}

/-- Makes all calls at once and only adds up the time that waiting would take. -/
def deferred : Procedure J α → (waited : Duration) → Procedure J (α × Duration)
  | .done a, waited => .done (a, waited)
  | .call c next, waited => .call c fun a d => (next a d).deferred waited
  | .pause d next, waited => next.deferred (waited + d)
  | .clock next, waited => .clock fun t => (next (t + waited)).deferred waited

/-- Follows a procedure where another makes a call. The answer takes as long as that procedure. -/
def through (handle : (c : I.Call) → Procedure J (I.Answer c)) : Procedure I α → Procedure J α
  | .done a => .done a
  | .call c next => ((handle c).deferred .zero).bind fun r => (next r.1 r.2).through handle
  | .pause d next => .pause d (next.through handle)
  | .clock next => .clock fun t => (next t).through handle

/-- A procedure that follows others for its calls does its parts in turn. -/
theorem through_bind (handle : (c : I.Call) → Procedure J (I.Answer c)) (p : Procedure I α)
    (f : α → Procedure I β) : (p.bind f).through handle =
      (p.through handle).bind fun a => (f a).through handle := by
  induction p with
  | done a => rfl
  | call c next ih => simp only [bind, through, ih, bind_assoc]
  | pause d next ih => simp only [bind, through, ih]
  | clock next ih => simp only [bind, through, ih]

end Procedure

end Testbed
