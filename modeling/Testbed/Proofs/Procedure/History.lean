import Testbed.Backend
/-!
# What a procedure does when it is followed

`history` lists the calls that are made when a procedure is followed against peers, with the state of
the peers after each. `Leads` forgets the peers: a procedure that is given certain answers makes
certain calls and ends with a result. All that peers can bring about is among what `Leads` allows
(`leads_run`), so a fact about every `Leads` holds whoever answers.

`Within` bounds the calls of a procedure, whatever it is answered.

A procedure that goes through a list pays a visit to every subject on it, when the one before is
done with and whatever came of that (`visits`). `Loop` says that a procedure does this and nothing
else: its calls are those of the visits, one after the other, and its result is what they add up to
(`Loop.run`, `Loop.trace`).
-/

namespace Testbed

/-- A call and what it was answered. -/
structure Event (I : Interface) where
  call : I.Call
  answer : I.Answer call

namespace Procedure

variable {I : Interface} {α β σ : Type}

/-- The calls in the order in which they are made, each with the state that it leaves. -/
def history (peers : Peers I σ) : Procedure I α → Moment σ → List (Event I × σ)
  | .done _, _ => []
  | .call c next, m =>
    let r := peers.answer m.clock m.state c
    (⟨c, r.1.1⟩, r.2) :: (next r.1.1 r.1.2).history peers { m with state := r.2 }
  | .pause d next, m => next.history peers { m with clock := m.clock + d }
  | .clock next, m => (next m.clock).history peers m

def trace (peers : Peers I σ) (p : Procedure I α) (m : Moment σ) : List (Event I) :=
  (p.history peers m).map (·.1)

theorem history_bind (peers : Peers I σ) (p : Procedure I α) (f : α → Procedure I β)
    (m : Moment σ) :
    (p >>= f).history peers m =
      p.history peers m ++ (f (p.run peers m).1).history peers (p.run peers m).2 := by
  change (p.bind f).history peers m = _
  induction p generalizing m with
  | done a => rfl
  | call c next ih => simp only [bind, history, run, ih, List.cons_append]
  | pause d next ih => simp only [bind, history, run, ih]
  | clock next ih => simp only [bind, history, run, ih]

theorem run_map (peers : Peers I σ) (f : α → β) (p : Procedure I α) (m : Moment σ) :
    (f <$> p).run peers m = (f (p.run peers m).1, (p.run peers m).2) := by
  rw [map_eq_pure_bind, run_bind]
  rfl

/-- Waiting takes as long as it takes, nothing included. -/
theorem run_after (peers : Peers I σ) (d : Duration) (p : Procedure I α) (m : Moment σ) :
    (after d p).run peers m = p.run peers { m with clock := m.clock + d } := by
  unfold after
  by_cases none : d.nanos = 0
  · have same : m.clock + d = m.clock := congrArg Duration.mk (by rw [none, Nat.add_zero])
    rw [if_pos none, same]
  · rw [if_neg none]
    rfl

theorem history_map (peers : Peers I σ) (f : α → β) (p : Procedure I α) (m : Moment σ) :
    (f <$> p).history peers m = p.history peers m := by
  rw [map_eq_pure_bind, history_bind]
  exact List.append_nil _

theorem trace_bind (peers : Peers I σ) (p : Procedure I α) (f : α → Procedure I β) (m : Moment σ) :
    (p >>= f).trace peers m =
      p.trace peers m ++ (f (p.run peers m).1).trace peers (p.run peers m).2 := by
  unfold trace
  rw [history_bind, List.map_append]

/-- After every event there is a procedure left that makes the later calls and ends as the whole one
does. -/
theorem history_rest {peers : Peers I σ} {p : Procedure I α} {m : Moment σ}
    {before after : List (Event I × σ)} {x : Event I × σ}
    (split : p.history peers m = before ++ x :: after) :
    ∃ (q : Procedure I α) (n : Moment σ),
      n.state = x.2 ∧ q.history peers n = after ∧ q.run peers n = p.run peers m := by
  induction p generalizing m before with
  | done a => simp [history] at split
  | call c next ih =>
    cases before with
    | nil =>
      obtain ⟨rfl, rfl⟩ := List.cons.inj split
      exact ⟨_, _, rfl, rfl, rfl⟩
    | cons first before => exact ih _ _ (List.cons.inj split).2
  | pause d p ih => exact ih split
  | clock next ih => exact ih _ split

/-! ## With given answers -/

/-- Given the answers of the events, the procedure makes exactly their calls and ends with a
result. -/
inductive Leads : Procedure I α → List (Event I) → α → Prop
  | done (a : α) : Leads (.done a) [] a
  | call {c : I.Call} {next : I.Answer c → Duration → Procedure I α} {a : I.Answer c} {d : Duration}
      {es : List (Event I)} {r : α} : Leads (next a d) es r → Leads (.call c next) (⟨c, a⟩ :: es) r
  | pause {d : Duration} {p : Procedure I α} {es : List (Event I)} {r : α} :
      Leads p es r → Leads (.pause d p) es r
  | clock {next : Duration → Procedure I α} {t : Duration} {es : List (Event I)} {r : α} :
      Leads (next t) es r → Leads (.clock next) es r

theorem leads_run (peers : Peers I σ) (p : Procedure I α) (m : Moment σ) :
    p.Leads (p.trace peers m) (p.run peers m).1 := by
  unfold trace
  induction p generalizing m with
  | done a => exact .done a
  | call c next ih => exact .call (ih _ _ _)
  | pause d p ih => exact .pause (ih _)
  | clock next ih => exact .clock (ih _ _)

@[simp]
theorem leads_pure {a r : α} {es : List (Event I)} :
    (pure a : Procedure I α).Leads es r ↔ es = [] ∧ r = a := by
  constructor
  · intro h
    change (Procedure.done a).Leads es r at h
    cases h with
    | done => exact ⟨rfl, rfl⟩
  · rintro ⟨rfl, rfl⟩
    exact .done _

theorem Leads.bind {p : Procedure I α} {f : α → Procedure I β} {es fs : List (Event I)} {a : α}
    {b : β} (h : p.Leads es a) (k : (f a).Leads fs b) : (p >>= f).Leads (es ++ fs) b := by
  change (p.bind f).Leads _ _
  induction h with
  | done a => exact k
  | call _ ih => exact .call (ih k)
  | pause _ ih => exact .pause (ih k)
  | clock _ ih => exact .clock (ih k)

theorem leads_bind {p : Procedure I α} {f : α → Procedure I β} {es : List (Event I)} {b : β} :
    (p >>= f).Leads es b ↔
      ∃ fs gs a, es = fs ++ gs ∧ p.Leads fs a ∧ (f a).Leads gs b := by
  constructor
  · change (p.bind f).Leads es b → _
    intro h
    induction p generalizing es with
    | done a => exact ⟨[], es, a, rfl, .done a, h⟩
    | call c next ih =>
      cases h with
      | call h =>
        obtain ⟨fs, gs, x, rfl, hp, hf⟩ := ih _ _ h
        exact ⟨_ :: fs, gs, x, rfl, .call hp, hf⟩
    | pause d p ih =>
      cases h with
      | pause h =>
        obtain ⟨fs, gs, x, rfl, hp, hf⟩ := ih h
        exact ⟨fs, gs, x, rfl, .pause hp, hf⟩
    | clock next ih =>
      cases h with
      | clock h =>
        obtain ⟨fs, gs, x, rfl, hp, hf⟩ := ih _ h
        exact ⟨fs, gs, x, rfl, .clock hp, hf⟩
  · rintro ⟨fs, gs, a, rfl, hp, hf⟩
    exact hp.bind hf

/-- How a procedure goes on matters only for the results that it can lead to. -/
theorem bind_congr {p : Procedure I α} {f g : α → Procedure I β}
    (same : ∀ es a, p.Leads es a → f a = g a) : p >>= f = p >>= g := by
  change p.bind f = p.bind g
  induction p with
  | done a => exact same [] a (.done a)
  | call c next ih =>
    have later (a d) : (next a d).bind f = (next a d).bind g :=
      ih a d fun es b leads => same (⟨c, a⟩ :: es) b (.call leads)
    simp only [bind, later]
  | pause d p ih =>
    have later : p.bind f = p.bind g := ih fun es b leads => same es b (.pause leads)
    simp only [bind, later]
  | clock next ih =>
    have later (t) : (next t).bind f = (next t).bind g :=
      ih t fun es b leads => same es b (.clock leads)
    simp only [bind, later]

theorem leads_map {p : Procedure I α} {f : α → β} {es : List (Event I)} {b : β} :
    (f <$> p).Leads es b ↔ ∃ a, p.Leads es a ∧ b = f a := by
  rw [map_eq_pure_bind, leads_bind]
  constructor
  · rintro ⟨fs, gs, a, rfl, hp, hf⟩
    obtain ⟨rfl, rfl⟩ := leads_pure.1 hf
    exact ⟨a, by simpa using hp, rfl⟩
  · rintro ⟨a, hp, rfl⟩
    exact ⟨es, [], a, by simp, hp, leads_pure.2 ⟨rfl, rfl⟩⟩

@[simp]
theorem leads_after {d : Duration} {p : Procedure I α} {es : List (Event I)} {a : α} :
    (after d p).Leads es a ↔ p.Leads es a := by
  unfold after
  split
  · rfl
  · exact ⟨fun h => by cases h with | pause h => exact h, .pause⟩

@[simp]
theorem leads_ask {c : I.Call} {es : List (Event I)} {a : I.Answer c} :
    (ask c).Leads es a ↔ es = [⟨c, a⟩] := by
  constructor
  · intro h
    unfold ask at h
    cases h with
    | call h =>
      obtain ⟨rfl, rfl⟩ := leads_pure.1 (leads_after.1 h)
      rfl
  · rintro rfl
    exact .call (d := .zero) (leads_after.2 (.done a))

/-- Putting off all waiting changes no call. -/
theorem leads_of_deferred {p : Procedure I α} {waited : Duration} {es : List (Event I)}
    {r : α × Duration} (leads : (p.deferred waited).Leads es r) : p.Leads es r.1 := by
  induction p generalizing waited es with
  | done a =>
    cases leads
    exact .done a
  | call c next ih =>
    cases leads with
    | call leads => exact .call (ih _ _ leads)
  | pause d next ih => exact .pause (ih leads)
  | clock next ih =>
    cases leads with
    | clock leads => exact .clock (ih _ leads)

/-- Where a call is made by following another procedure, the calls of that one are made. -/
theorem leads_through_ask {J : Interface} {handle : (c : I.Call) → Procedure J (I.Answer c)}
    {c : I.Call} {es : List (Event J)} {a : I.Answer c}
    (leads : ((ask c).through handle).Leads es a) : (handle c).Leads es a := by
  have waits (d : Duration) (a : I.Answer c) :
      (after d (.done a) : Procedure I (I.Answer c)).through handle = after d (.done a) := by
    unfold after
    split <;> rfl
  change (((handle c).deferred .zero) >>= fun r =>
    (after r.2 (.done r.1)).through handle).Leads es a at leads
  obtain ⟨fs, gs, r, rfl, made, rest⟩ := leads_bind.1 leads
  rw [waits] at rest
  obtain ⟨rfl, rfl⟩ := leads_pure.1 (leads_after.1 rest)
  rw [List.append_nil]
  exact leads_of_deferred made

/-! ## Bounds on calls -/

/-- Whatever it is answered, the procedure only makes calls of the given kind. -/
def Within (C : I.Call → Prop) : Procedure I α → Prop
  | .done _ => True
  | .call c next => C c ∧ ∀ a d, (next a d).Within C
  | .pause _ p => p.Within C
  | .clock next => ∀ t, (next t).Within C

variable {C : I.Call → Prop}

@[simp]
theorem within_pure (a : α) : (pure a : Procedure I α).Within C := trivial

theorem Within.bind {p : Procedure I α} {f : α → Procedure I β} (hp : p.Within C)
    (hf : ∀ a, (f a).Within C) : (p >>= f).Within C := by
  change (p.bind f).Within C
  induction p with
  | done a => exact hf a
  | call c next ih => exact ⟨hp.1, fun a d => ih a d (hp.2 a d)⟩
  | pause d p ih => exact ih hp
  | clock next ih => exact fun t => ih t (hp t)

theorem Within.map {p : Procedure I α} (hp : p.Within C) (f : α → β) : (f <$> p).Within C := by
  rw [map_eq_pure_bind]
  exact hp.bind fun _ => trivial

theorem within_forM {f : α → Procedure I PUnit} {l : List α}
    (each : ∀ a ∈ l, (f a).Within C) : (l.forM f).Within C := by
  induction l with
  | nil => trivial
  | cons a rest ih =>
    exact (each a List.mem_cons_self).bind fun _ =>
      ih fun b mem => each b (List.mem_cons_of_mem _ mem)

@[simp]
theorem within_after {d : Duration} {p : Procedure I α} : (after d p).Within C ↔ p.Within C := by
  unfold after
  split <;> rfl

@[simp]
theorem within_ask {c : I.Call} : (ask c).Within C ↔ C c :=
  ⟨fun h => h.1, fun h => ⟨h, fun _ _ => within_after.2 trivial⟩⟩

theorem Within.mono {D : I.Call → Prop} (le : ∀ c, C c → D c) {p : Procedure I α}
    (h : p.Within C) : p.Within D := by
  induction p with
  | done a => trivial
  | call c next ih => exact ⟨le c h.1, fun a d => ih a d (h.2 a d)⟩
  | pause d p ih => exact ih h
  | clock next ih => exact fun t => ih t (h t)

theorem Within.leads {p : Procedure I α} (h : p.Within C) {es : List (Event I)} {a : α}
    (l : p.Leads es a) : ∀ e ∈ es, C e.call := by
  induction l with
  | done => simp
  | call _ ih =>
    intro e he
    rcases List.mem_cons.1 he with rfl | he
    · exact h.1
    · exact ih (h.2 _ _) e he
  | pause _ ih => exact ih h
  | clock _ ih => exact ih (h _)

end Procedure

/-! ## Visits -/

/-- What was done to one of several subjects when its turn came, and what came of it. -/
structure Visit (I : Interface) (σ α ρ : Type) where
  subject : α
  start : Moment σ
  events : List (Event I)
  result : ρ

namespace Procedure

variable {I : Interface} {α ρ σ τ : Type} {peers : Peers I σ} {act : α → Procedure I ρ}

/-- Acts on every subject once, in order, each time from where the one before left the peers. -/
def visits (peers : Peers I σ) (act : α → Procedure I ρ) :
    List α → Moment σ → List (Visit I σ α ρ)
  | [], _ => []
  | a :: rest, m =>
    let o := (act a).run peers m
    ⟨a, m, (act a).trace peers m, o.1⟩ :: visits peers act rest o.2

theorem visits_subjects {l : List α} {m : Moment σ} :
    (visits peers act l m).map (·.subject) = l := by
  induction l generalizing m with
  | nil => rfl
  | cons a rest ih => simp only [visits, List.map_cons, ih]

theorem length_visits {l : List α} {m : Moment σ} : (visits peers act l m).length = l.length := by
  rw [← List.length_map (·.subject), visits_subjects]

/-- A visit is what acting on its subject comes to. -/
theorem of_mem_visits {l : List α} {m : Moment σ} {v : Visit I σ α ρ}
    (mem : v ∈ visits peers act l m) :
    v.subject ∈ l ∧ v.events = (act v.subject).trace peers v.start ∧
      v.result = ((act v.subject).run peers v.start).1 := by
  induction l generalizing m with
  | nil => cases mem
  | cons a rest ih =>
    rcases List.mem_cons.1 mem with rfl | mem
    · exact ⟨List.mem_cons_self, rfl, rfl⟩
    · obtain ⟨listed, same⟩ := ih mem
      exact ⟨List.mem_cons_of_mem _ listed, same⟩

/-- The procedure acts on every subject and goes on, whatever came of it. -/
structure Loop (act : α → Procedure I ρ) (note : τ → α → ρ → τ)
    (p : τ → List α → Procedure I τ) : Prop where
  nil : ∀ t, p t [] = pure t
  cons : ∀ t a rest, p t (a :: rest) = act a >>= fun r => p (note t a r) rest

variable {note : τ → α → ρ → τ} {p : τ → List α → Procedure I τ}

theorem Loop.run (loop : Loop act note p) (t : τ) (l : List α) (m : Moment σ) :
    ((p t l).run peers m).1 =
      (visits peers act l m).foldl (fun t v => note t v.subject v.result) t := by
  induction l generalizing t m with
  | nil =>
    rw [loop.nil]
    rfl
  | cons a rest ih => rw [loop.cons, run_bind, ih, visits, List.foldl_cons]

theorem Loop.trace (loop : Loop act note p) (t : τ) (l : List α) (m : Moment σ) :
    (p t l).trace peers m = (visits peers act l m).flatMap (·.events) := by
  induction l generalizing t m with
  | nil =>
    rw [loop.nil]
    rfl
  | cons a rest ih => rw [loop.cons, trace_bind, ih, visits, List.flatMap_cons]

end Procedure

/-! ## Steps that can fail -/

theorem toOption_eq_some {ε α : Type} {r : Except ε α} {a : α} :
    r.toOption = some a ↔ r = .ok a := by
  cases r <;> simp [Except.toOption]

theorem mapError_ok {α : Type} {f : Error → Error} {a : α} :
    (Except.ok a).mapError f = .ok a := rfl

namespace Attempt

variable {α β : Type} {C : Call → Prop}

/-- An attempt goes on only from a step that succeeded. -/
theorem leads_bind {p : Attempt α} {f : α → Attempt β} {es : List (Event outside)}
    {r : Except Error β} :
    (p >>= f).run.Leads es r ↔
      (∃ fs gs a, es = fs ++ gs ∧ p.run.Leads fs (.ok a) ∧ (f a).run.Leads gs r) ∨
      ∃ e, p.run.Leads es (.error e) ∧ r = .error e := by
  rw [ExceptT.run_bind, Procedure.leads_bind]
  constructor
  · rintro ⟨fs, gs, a | a, rfl, hp, hf⟩
    · obtain ⟨rfl, rfl⟩ := Procedure.leads_pure.1 hf
      exact .inr ⟨a, by simpa using hp, rfl⟩
    · exact .inl ⟨fs, gs, a, rfl, hp, hf⟩
  · rintro (⟨fs, gs, a, rfl, hp, hf⟩ | ⟨e, hp, rfl⟩)
    · exact ⟨fs, gs, .ok a, rfl, hp, hf⟩
    · exact ⟨es, [], .error e, by simp, hp, Procedure.leads_pure.2 ⟨rfl, rfl⟩⟩

theorem leads_bind_ok {p : Attempt α} {f : α → Attempt β} {es : List (Event outside)} {b : β} :
    (p >>= f).run.Leads es (.ok b) ↔
      ∃ fs gs a, es = fs ++ gs ∧ p.run.Leads fs (.ok a) ∧ (f a).run.Leads gs (.ok b) := by
  rw [leads_bind]
  constructor
  · rintro (succeeded | ⟨e, -, h⟩)
    · exact succeeded
    · cases h
  · exact .inl

theorem within_bind {p : Attempt α} {f : α → Attempt β} (hp : p.run.Within C)
    (hf : ∀ a, (f a).run.Within C) : (p >>= f).run.Within C := by
  rw [ExceptT.run_bind]
  refine hp.bind fun r => ?_
  cases r with
  | ok a => exact hf a
  | error e => exact Procedure.within_pure _

theorem within_map {p : Attempt α} (f : α → β) (hp : p.run.Within C) : (f <$> p).run.Within C := by
  rw [ExceptT.run_map]
  exact hp.map _

theorem within_files {c : FileCall} (h : C (.file c)) : (askFiles c).run.Within C :=
  Procedure.Within.map (Procedure.within_ask.2 h) _

theorem within_discard {p : Attempt α} (hp : p.run.Within C) : (discard p).run.Within C :=
  within_map (fun _ => ()) hp

theorem within_wrap {p : Attempt α} {f : Error → Error} (hp : p.run.Within C) :
    (p.wrap f).run.Within C :=
  hp.map _

theorem within_keeping {p : Attempt Unit} (b : β) (hp : p.run.Within C) :
    (p.keeping b).Within C :=
  hp.map _

theorem within_changing {p : Attempt Unit} (b after : β) (hp : p.run.Within C) :
    (p.changing b after).Within C := by
  refine Procedure.Within.bind hp fun r => ?_
  cases r with
  | ok a => exact Procedure.within_pure _
  | error e => exact Procedure.within_pure _

end Attempt

end Testbed
