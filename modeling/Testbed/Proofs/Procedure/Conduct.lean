import Testbed.Proofs.Procedure.History
/-!
# Procedures against peers of a given conduct

A `Conduct` says what peers may do with a call: what they may answer in a state, and the state they
may be in then. It need not settle either, so that peers which fail, crash or take their time are
one conduct.

`Ensures` is what holds of a procedure against all peers of a conduct: every state on the way is as
it always should be, and the result and the last state are as they should be at the end. It is
proved along the steps of the procedure (`ensures_bind`, `ensures_ask`), or from a bound on its calls
(`Within.ensures`), and holds of every run (`Ensures.run`). What is known of given answers may be
added at the end (`Ensures.path`).
-/

namespace Testbed

abbrev Conduct (I : Interface) (σ : Type) := σ → Event I → σ → Prop

namespace Conduct

variable {I : Interface} {σ : Type}

/-- The conduct of peers that also remember all calls. -/
def recorded (R : Conduct I σ) : Conduct I (σ × List (Event I)) :=
  fun s e t => R s.1 e t.1 ∧ t.2 = s.2 ++ [e]

/-- The peers can get from one state to another by events, one after the other. -/
inductive Path (R : Conduct I σ) : σ → List (Event I) → σ → Prop
  | nil {s : σ} : R.Path s [] s
  | cons {s t u : σ} {e : Event I} {es : List (Event I)} :
      R s e t → R.Path t es u → R.Path s (e :: es) u

@[simp]
theorem path_nil {R : Conduct I σ} {s u : σ} : R.Path s [] u ↔ s = u := by
  constructor
  · intro path
    cases path
    rfl
  · rintro rfl
    exact .nil

@[simp]
theorem path_cons {R : Conduct I σ} {s u : σ} {e : Event I} {es : List (Event I)} :
    R.Path s (e :: es) u ↔ ∃ t, R s e t ∧ R.Path t es u := by
  constructor
  · intro path
    cases path with
    | cons step rest => exact ⟨_, step, rest⟩
  · rintro ⟨t, step, rest⟩
    exact .cons step rest

theorem path_append {R : Conduct I σ} {s u : σ} {es fs : List (Event I)} :
    R.Path s (es ++ fs) u ↔ ∃ t, R.Path s es t ∧ R.Path t fs u := by
  induction es generalizing s with
  | nil => simp
  | cons e es ih =>
    simp only [List.cons_append, path_cons, ih]
    constructor
    · rintro ⟨t, step, v, first, rest⟩
      exact ⟨v, ⟨t, step, first⟩, rest⟩
    · rintro ⟨v, ⟨t, step, first⟩, rest⟩
      exact ⟨t, step, v, first, rest⟩

theorem Path.recorded {R : Conduct I σ} {s t : σ × List (Event I)} {es : List (Event I)}
    (path : R.recorded.Path s es t) : t.2 = s.2 ++ es := by
  induction path with
  | nil => rw [List.append_nil]
  | cons step _ ih =>
    rw [ih, step.2, List.append_assoc]
    rfl

end Conduct

/-- Seen through a view of their states, the peers never leave a conduct. -/
def Peers.Obey {I : Interface} {σ τ : Type} (peers : Peers I σ) (view : σ → τ) (R : Conduct I τ) :
    Prop :=
  ∀ clock s c, R (view s) ⟨c, (peers.answer clock s c).1.1⟩ (view (peers.answer clock s c).2)

namespace Procedure

variable {I : Interface} {α β σ τ : Type}

/-- Against all peers of the conduct, only states in `always` are passed through, and the result and
the last state are in `post`. -/
def Ensures (R : Conduct I τ) (always : τ → Prop) :
    Procedure I α → τ → (post : α → τ → Prop) → Prop
  | .done a, s, post => post a s
  | .call c next, s, post =>
    ∀ a d t, R s ⟨c, a⟩ t → always t ∧ (next a d).Ensures R always t post
  | .pause _ p, s, post => p.Ensures R always s post
  | .clock next, s, post => ∀ t, (next t).Ensures R always s post

section

variable {R : Conduct I τ} {always : τ → Prop} {s : τ}

theorem Ensures.mono {p : Procedure I α} {post post' : α → τ → Prop}
    (h : p.Ensures R always s post) (le : ∀ a t, post a t → post' a t) :
    p.Ensures R always s post' := by
  induction p generalizing s with
  | done a => exact le a s h
  | call c next ih => exact fun a d t step => ⟨(h a d t step).1, ih a d (h a d t step).2⟩
  | pause d p ih => exact ih h
  | clock next ih => exact fun t => ih t (h t)

theorem Ensures.and {p : Procedure I α} {post post' : α → τ → Prop}
    (h : p.Ensures R always s post) (h' : p.Ensures R always s post') :
    p.Ensures R always s fun a t => post a t ∧ post' a t := by
  induction p generalizing s with
  | done a => exact ⟨h, h'⟩
  | call c next ih =>
    exact fun a d t step => ⟨(h a d t step).1, ih a d (h a d t step).2 (h' a d t step).2⟩
  | pause d p ih => exact ih h h'
  | clock next ih => exact fun t => ih t (h t) (h' t)

@[simp]
theorem ensures_pure {a : α} {post : α → τ → Prop} :
    (pure a : Procedure I α).Ensures R always s post ↔ post a s := .rfl

@[simp]
theorem ensures_bind {p : Procedure I α} {f : α → Procedure I β} {post : β → τ → Prop} :
    (p >>= f).Ensures R always s post ↔
      p.Ensures R always s fun a t => (f a).Ensures R always t post := by
  change (p.bind f).Ensures R always s post ↔ _
  induction p generalizing s with
  | done a => rfl
  | call c next ih => simp only [bind, Ensures, ih]
  | pause d p ih => simp only [bind, Ensures, ih]
  | clock next ih => simp only [bind, Ensures, ih]

@[simp]
theorem ensures_map {p : Procedure I α} {f : α → β} {post : β → τ → Prop} :
    (f <$> p).Ensures R always s post ↔ p.Ensures R always s fun a t => post (f a) t := by
  rw [map_eq_pure_bind]
  exact ensures_bind

@[simp]
theorem ensures_after {d : Duration} {p : Procedure I α} {post : α → τ → Prop} :
    (after d p).Ensures R always s post ↔ p.Ensures R always s post := by
  unfold after
  split <;> rfl

@[simp]
theorem ensures_ask {c : I.Call} {post : I.Answer c → τ → Prop} :
    (ask c).Ensures R always s post ↔ ∀ a t, R s ⟨c, a⟩ t → always t ∧ post a t := by
  constructor
  · intro h a t step
    exact ⟨(h a .zero t step).1, ensures_after.1 (h a .zero t step).2⟩
  · intro h a d t step
    exact ⟨(h a t step).1, ensures_after.2 (h a t step).2⟩

/-- If nothing is expected, nothing has to be shown. -/
theorem ensures_true {p : Procedure I α} :
    p.Ensures R (fun _ => True) s fun _ _ => True := by
  induction p generalizing s with
  | done a => trivial
  | call c next ih => exact fun a d t _ => ⟨trivial, ih a d⟩
  | pause d p ih => exact ih
  | clock next ih => exact fun t => ih t

/-- A relation to the start that every permitted call keeps holds at the end. -/
theorem Within.ensures {C : I.Call → Prop} {p : Procedure I α} (bound : p.Within C)
    {kept : τ → Prop} (start : kept s)
    (step : ∀ s e t, C e.call → R s e t → kept s → always t ∧ kept t) :
    p.Ensures R always s fun _ t => kept t := by
  induction p generalizing s with
  | done a => exact start
  | call c next ih =>
    intro a d t h
    have kept_t := step s ⟨c, a⟩ t bound.1 h start
    exact ⟨kept_t.1, ih a d (bound.2 a d) kept_t.2⟩
  | pause d p ih => exact ih bound start
  | clock next ih => exact fun t => ih t (bound t) start

/-- What holds against peers holds against those that do less. -/
theorem Ensures.weaken {R' : Conduct I τ} {always' : τ → Prop} {p : Procedure I α}
    {post : α → τ → Prop} (h : p.Ensures R always s post) (sub : ∀ s e t, R' s e t → R s e t)
    (le : ∀ t, always t → always' t) : p.Ensures R' always' s post := by
  induction p generalizing s with
  | done a => exact h
  | call c next ih =>
    intro a d t step
    obtain ⟨always_t, rest⟩ := h a d t (sub _ _ _ step)
    exact ⟨le t always_t, ih a d rest⟩
  | pause d p ih => exact ih h
  | clock next ih => exact fun t => ih t (h t)

/-- What is given at the end is what the answers of the peers lead to. -/
theorem Ensures.path {p : Procedure I α} {post : α → τ → Prop} (h : p.Ensures R always s post) :
    p.Ensures R always s fun a t => post a t ∧ ∃ es, p.Leads es a ∧ R.Path s es t := by
  induction p generalizing s with
  | done a => exact ⟨h, [], .done a, .nil⟩
  | call c next ih =>
    intro a d t step
    refine ⟨(h a d t step).1, (ih a d (h a d t step).2).mono ?_⟩
    rintro b u ⟨hb, es, leads, path⟩
    exact ⟨hb, _, .call leads, .cons step path⟩
  | pause d p ih =>
    refine Ensures.mono (p := p) (ih h) ?_
    rintro b u ⟨hb, es, leads, path⟩
    exact ⟨hb, es, .pause leads, path⟩
  | clock next ih =>
    intro t
    refine (ih t (h t)).mono ?_
    rintro b u ⟨hb, es, leads, path⟩
    exact ⟨hb, es, .clock leads, path⟩

theorem Ensures.leads {p : Procedure I α} {post : α → τ → Prop} (h : p.Ensures R always s post) :
    p.Ensures R always s fun a t => post a t ∧ ∃ es, p.Leads es a :=
  h.path.mono fun _ _ ⟨ha, es, leads, _⟩ => ⟨ha, es, leads⟩

/-- What is ensured holds of all answers that the peers may give. -/
theorem Ensures.of_leads {p : Procedure I α} {post : α → τ → Prop} {es : List (Event I)} {a : α}
    {t : τ} (h : p.Ensures R always s post) (leads : p.Leads es a) (path : R.Path s es t) :
    post a t := by
  induction leads generalizing s with
  | done a =>
    cases path
    exact h
  | call _ ih =>
    obtain ⟨u, step, rest⟩ := Conduct.path_cons.1 path
    exact ih (h _ _ u step).2 rest
  | pause _ ih => exact ih h path
  | clock _ ih => exact ih (h _) path

/-! ## What holds of every run -/

variable {peers : Peers I σ} {view : σ → τ}

theorem Ensures.run (obey : peers.Obey view R) {p : Procedure I α} {m : Moment σ}
    {post : α → τ → Prop} (h : p.Ensures R always (view m.state) post) :
    post (p.run peers m).1 (view (p.run peers m).2.state) := by
  induction p generalizing m with
  | done a => exact h
  | call c next ih => exact ih _ _ (h _ _ _ (obey m.clock m.state c)).2
  | pause d p ih => exact ih (m := { m with clock := m.clock + d }) h
  | clock next ih => exact ih _ (h _)

/-- The peers get from the first state to the last by what is called. -/
theorem path_run (obey : peers.Obey view R) (p : Procedure I α) (m : Moment σ) :
    R.Path (view m.state) (p.trace peers m) (view (p.run peers m).2.state) := by
  unfold trace
  induction p generalizing m with
  | done a => exact .nil
  | call c next ih =>
    exact .cons (obey m.clock m.state c)
      (ih _ _ { m with state := (peers.answer m.clock m.state c).2 })
  | pause d p ih => exact ih { m with clock := m.clock + d }
  | clock next ih => exact ih _ _

/-- The peers get from the first state to the one after any event by what is called up to then. -/
theorem path_until (obey : peers.Obey view R) {p : Procedure I α} {m : Moment σ}
    {before after : List (Event I × σ)} {x : Event I × σ}
    (split : p.history peers m = before ++ x :: after) :
    R.Path (view m.state) ((before ++ [x]).map (·.1)) (view x.2) := by
  induction p generalizing m before with
  | done a => simp [Procedure.history] at split
  | call c next ih =>
    cases before with
    | nil =>
      obtain ⟨rfl, -⟩ := List.cons.inj split
      exact .cons (obey m.clock m.state c) .nil
    | cons first before =>
      obtain ⟨rfl, rest⟩ := List.cons.inj split
      exact .cons (obey m.clock m.state c)
        (ih _ _ (m := { m with state := (peers.answer m.clock m.state c).2 }) rest)
  | pause d p ih => exact ih (m := { m with clock := m.clock + d }) split
  | clock next ih => exact ih _ split

/-- Every state on the way is as it always should be. -/
theorem Ensures.history (obey : peers.Obey view R) {p : Procedure I α} {m : Moment σ}
    {post : α → τ → Prop} (h : p.Ensures R always (view m.state) post) :
    ∀ x ∈ p.history peers m, always (view x.2) := by
  induction p generalizing m with
  | done a => simp [Procedure.history]
  | call c next ih =>
    have next_h := h _ (peers.answer m.clock m.state c).1.2 _ (obey m.clock m.state c)
    intro x hx
    rcases List.mem_cons.1 hx with rfl | hx
    · exact next_h.1
    · exact ih _ _ next_h.2 x hx
  | pause d p ih => exact ih (m := { m with clock := m.clock + d }) h
  | clock next ih => exact ih _ (h _)

end

/-- What holds of peers that remember all calls holds of the calls of every run. -/
theorem Ensures.run_recorded {R : Conduct I τ} {always : τ × List (Event I) → Prop}
    {peers : Peers I σ} {view : σ → τ} (obey : peers.Obey view R) {p : Procedure I α}
    {m : Moment σ} {es : List (Event I)} {post : α → τ × List (Event I) → Prop}
    (h : p.Ensures R.recorded always (view m.state, es) post) :
    post (p.run peers m).1 (view (p.run peers m).2.state, es ++ p.trace peers m) := by
  unfold trace
  induction p generalizing m es with
  | done a =>
    simp only [Procedure.history, List.map_nil, List.append_nil]
    exact h
  | call c next ih =>
    have rest := (h _ (peers.answer m.clock m.state c).1.2 (_, _)
      ⟨obey m.clock m.state c, rfl⟩).2
    simpa [Procedure.history, Procedure.run] using ih _ _ (m := ⟨m.clock, _⟩) rest
  | pause d p ih => exact ih (m := { m with clock := m.clock + d }) h
  | clock next ih => exact ih _ (h _)

/-- Peers that remember all calls end with those they began with and those that were made. -/
theorem Ensures.trace {R : Conduct I τ} {always : τ × List (Event I) → Prop}
    {s : τ × List (Event I)} {p : Procedure I α} {post : α → τ × List (Event I) → Prop}
    (h : p.Ensures R.recorded always s post) :
    p.Ensures R.recorded always s fun a t =>
      post a t ∧ ∃ es, t.2 = s.2 ++ es ∧ p.Leads es a :=
  h.path.mono fun _ _ ⟨ha, es, leads, path⟩ => ⟨ha, es, path.recorded, leads⟩

end Procedure

/-! ## One thing after another -/

/-- Does things to a backend, or whatever has one, one after the other and whatever comes of them. -/
def inTurn {β : Type} : List (β → Work (Outcome β)) → β → Work β
  | [], b => return b
  | act :: acts, b => do
    let (_, b) ← act b
    inTurn acts b

theorem ensures_inTurn {β τ : Type} {R : Conduct outside τ} {always : τ → Prop}
    {kept : β → τ → Prop} {acts : List (β → Work (Outcome β))}
    (step : ∀ act ∈ acts, ∀ b s, kept b s → (act b).Ensures R always s fun o t => kept o.2 t)
    {b : β} {s : τ} (start : kept b s) : (inTurn acts b).Ensures R always s kept := by
  induction acts generalizing b s with
  | nil => exact start
  | cons act acts ih =>
    refine Procedure.ensures_bind.2 ((step act List.mem_cons_self b s start).mono fun o t h => ?_)
    exact ih (fun act' mem => step act' (List.mem_cons_of_mem _ mem)) h

/-! ## Steps that can fail -/

namespace Attempt

variable {α β τ : Type} {R : Conduct outside τ} {always : τ → Prop} {s : τ}

@[simp]
theorem ensures_bind {p : Attempt α} {f : α → Attempt β} {post : Except Error β → τ → Prop} :
    (p >>= f).run.Ensures R always s post ↔
      p.run.Ensures R always s fun r t =>
        match r with
        | .ok a => (f a).run.Ensures R always t post
        | .error e => post (.error e) t := by
  rw [ExceptT.run_bind, Procedure.ensures_bind]
  refine iff_of_eq (congrArg (p.run.Ensures R always s) ?_)
  funext r t
  cases r <;> rfl

@[simp]
theorem ensures_discard {p : Attempt α} {post : Except Error Unit → τ → Prop} :
    (discard p).run.Ensures R always s post ↔
      p.run.Ensures R always s fun r t => post (r.map fun _ => ()) t := by
  change ((fun _ => ()) <$> p).run.Ensures R always s post ↔ _
  rw [ExceptT.run_map, Procedure.ensures_map]

@[simp]
theorem ensures_wrap {p : Attempt α} {f : Error → Error} {post : Except Error α → τ → Prop} :
    (p.wrap f).run.Ensures R always s post ↔
      p.run.Ensures R always s fun r t => post (r.mapError f) t :=
  Procedure.ensures_map

@[simp]
theorem ensures_keeping {p : Attempt Unit} {b : β} {post : Outcome β → τ → Prop} :
    (p.keeping b).Ensures R always s post ↔
      p.run.Ensures R always s fun r t => post (r, b) t :=
  Procedure.ensures_map

@[simp]
theorem ensures_changing {p : Attempt Unit} {b after : β} {post : Outcome β → τ → Prop} :
    (p.changing b after).Ensures R always s post ↔
      p.run.Ensures R always s fun r t =>
        match r with
        | .ok () => post (.ok (), after) t
        | .error e => post (.error e, b) t := by
  unfold changing
  rw [Procedure.ensures_bind]
  refine iff_of_eq (congrArg (p.run.Ensures R always s) ?_)
  funext r t
  cases r <;> rfl

end Attempt

end Testbed
