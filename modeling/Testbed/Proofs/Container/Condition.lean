import Testbed.Proofs.Container.Calls
import Testbed.Proofs.Engine.Table
import Testbed.Proofs.Fault.Condition
/-!
# What faults do to containers

On an engine without failures every operation that brings about or heals a fault does to the
container of a node what `Condition.after` says (`matches_after`). The container can be reached if
nothing of its packet filter shows; all rules that show are rules of the two chains, which a
reconnect takes out.
-/

namespace Testbed

open Procedure (Within)
open Lab (Engine SimulatedContainer)
open Lab.Engine (Exact)

/-- Every rule that shows in a listing is one of the two chains. -/
def Firewall.Tidy (table : List String) : Prop :=
  ∀ l ∈ table, parseRules l = [] ∨ ∃ chain : Chain, chain.lists l

/-- No rule shows in a listing. -/
def Firewall.Clear (table : List String) : Prop := ∀ l ∈ table, parseRules l = []

open Firewall (Tidy Clear)

/-- A container is in a condition. -/
structure Lab.SimulatedContainer.Matches (k : SimulatedContainer) (s : Condition) : Prop where
  running : k.running = true ↔ s.state = .running ∨ s.state = .paused
  paused : k.paused = true ↔ s.state = .paused
  tidy : Tidy k.rules
  clear : s.reachable = true → Clear k.rules

/-- What an inspection tells about a node in a condition. -/
def Condition.status (s : Condition) : ContainerStatus :=
  ⟨s.state = .running ∨ s.state = .paused, s.state = .paused⟩

theorem Lab.SimulatedContainer.Matches.status {k : SimulatedContainer} {s : Condition}
    (h : k.Matches s) : k.status = s.status := by
  have running : k.running = decide (s.state = .running ∨ s.state = .paused) :=
    Bool.eq_iff_iff.2 (h.running.trans (decide_eq_true_iff).symm)
  have paused : k.paused = decide (s.state = .paused) :=
    Bool.eq_iff_iff.2 (h.paused.trans (decide_eq_true_iff).symm)
  unfold SimulatedContainer.status Condition.status
  rw [running, paused]

namespace Container

variable {c : Container} {e t : Engine} {s : Condition} {k : SimulatedContainer}

/-- The container of a node is in a condition. -/
structure Matches (c : Container) (s : Condition) (e : Engine) : Prop where
  live : s.Live
  found : ∃ k, e.containers.find? c.name = some k ∧ k.Matches s

/-! ## Operations that look first -/

theorem ensures_status (h : c.Matches s e) {post : Except Error ContainerStatus → Engine → Prop}
    (next : post (.ok s.status) e) : c.status.run.Ensures Exact (fun _ => True) e post := by
  obtain ⟨k, found, m⟩ := h.found
  refine Procedure.ensures_map.2 (Procedure.ensures_ask.2 fun a t step => ⟨trivial, ?_⟩)
  obtain ⟨rfl, rfl⟩ := step.engine
  simpa [Engine.perform, found, Except.map, m.status] using next

/-- A call that makes one condition of another. -/
theorem ensures_asked {s' : Condition} (call : EngineCall) (k' : SimulatedContainer)
    (live : s'.Live) (effect : (e.perform call).2.containers.find? c.name = some k')
    (m : k'.Matches s') :
    (askEngine call).Ensures Exact (fun _ => True) e fun _ t => c.Matches s' t := by
  refine Procedure.ensures_ask.2 fun a t step => ⟨trivial, live, k', ?_, m⟩
  rw [step.engine.2]
  exact effect

theorem matches_pause (h : c.Matches s e) :
    c.pause.run.Ensures Exact (fun _ => True) e fun _ t => c.Matches (s.after .pause) t := by
  refine Attempt.ensures_bind.2 (ensures_status h ?_)
  have after := Condition.after_live h.live .pause
  obtain ⟨x, reached⟩ := s
  obtain ⟨live, k, found, m⟩ := h
  rcases live with rfl | rfl | rfl
  · exact ensures_asked (.pause c.name) { k with paused := true } after
      (Engine.find?_updated found)
      ⟨by simp [m.running, Condition.after], by simp [Condition.after], m.tidy, m.clear⟩
  · exact ⟨after, k, found, m⟩
  · exact ⟨after, k, found, m⟩

theorem matches_resume (h : c.Matches s e) :
    c.resume.run.Ensures Exact (fun _ => True) e fun _ t => c.Matches (s.after .resume) t := by
  refine Attempt.ensures_bind.2 (ensures_status h ?_)
  have after := Condition.after_live h.live .resume
  obtain ⟨x, reached⟩ := s
  obtain ⟨live, k, found, m⟩ := h
  rcases live with rfl | rfl | rfl
  · exact ⟨after, k, found, m⟩
  · exact ensures_asked (.unpause c.name) { k with paused := false } after
      (Engine.find?_updated found)
      ⟨by simp [m.running, Condition.after], by simp [Condition.after], m.tidy, m.clear⟩
  · exact ⟨after, k, found, m⟩

theorem Matches.down {k : SimulatedContainer} (m : k.Matches s) :
    k.down.Matches { s with state := .stopped } :=
  ⟨by simp [SimulatedContainer.down], by simp [SimulatedContainer.down], m.tidy, m.clear⟩

/-- An operation that ends a container does nothing to one that is down. -/
theorem ensures_ended (h : c.Matches s e) {p : Attempt Unit}
    (ends : p.run.Ensures Exact (fun _ => True) e
      fun _ t => c.Matches { s with state := .stopped } t) :
    (c.status >>= fun status => if status.running || status.paused then p else pure ()).run.Ensures
      Exact (fun _ => True) e fun _ t => c.Matches { s with state := .stopped } t := by
  refine Attempt.ensures_bind.2 (ensures_status h ?_)
  obtain ⟨x, reached⟩ := s
  rcases h.live with rfl | rfl | rfl
  · exact ends
  · exact ends
  · exact h

theorem matches_stop (h : c.Matches s e) (timeout : Duration) :
    (c.stop timeout).run.Ensures Exact (fun _ => True) e
      fun _ t => c.Matches (s.after (.stop timeout)) t := by
  obtain ⟨k, found, m⟩ := h.found
  exact ensures_ended h (Procedure.ensures_map.2 (ensures_asked (.stop c.name timeout) k.down
    (.inr (.inr rfl)) (Engine.find?_updated found) (Matches.down m)))

theorem matches_kill (h : c.Matches s e) :
    c.kill.run.Ensures Exact (fun _ => True) e fun _ t => c.Matches (s.after .kill) t := by
  obtain ⟨k, found, m⟩ := h.found
  exact ensures_ended h (Procedure.ensures_map.2 (ensures_asked (.kill c.name) k.down
    (.inr (.inr rfl)) (Engine.find?_updated found) (Matches.down m)))

theorem matches_restart (h : c.Matches s e) :
    c.restart.run.Ensures Exact (fun _ => True) e fun _ t => c.Matches (s.after .restart) t := by
  have after := Condition.after_live h.live .restart
  obtain ⟨x, reached⟩ := s
  obtain ⟨live, k, found, m⟩ := h
  refine Attempt.ensures_bind.2 (Procedure.ensures_ask.2 fun a t step => ⟨trivial, ?_⟩)
  obtain ⟨rfl, rfl⟩ := step.engine
  simp only [Engine.perform, found, Option.map_some, m.status]
  rcases live with rfl | rfl | rfl
  · exact ⟨after, k, found, m⟩
  · exact ⟨after, k, found, m⟩
  · exact ensures_asked (.restart c.name) { k with running := true, paused := false } after
      (Engine.find?_updated found)
      ⟨by simp [Condition.after], by simp [Condition.after], m.tidy, m.clear⟩

/-! ## The packet filter -/

theorem Matches.weaken (m : k.Matches s) : k.Matches (s.after .disconnect) :=
  ⟨by simp [m.running], by simp [m.paused], m.tidy,
    fun reached => m.clear (Condition.reachable_of_disconnect reached).2⟩

/-- Only in a container that runs are rules added, and only such of the chains. -/
theorem Matches.append (m : k.Matches (s.after .disconnect)) (rule : FilterRule)
    (running : k.running = true) (paused : k.paused = false) :
    (k.exec rule.appendCommand).2.Matches (s.after .disconnect) := by
  have up := m.running.1 running
  have awake : ¬ (s.after .disconnect).state = .paused := by
    rw [← m.paused, paused]
    simp
  rw [Condition.state_after_disconnect] at up awake
  rw [SimulatedContainer.exec_append]
  refine ⟨m.running, m.paused, fun l hl => ?_, fun reached => ?_⟩
  · rcases List.mem_append.1 hl with hl | hl
    · exact m.tidy l hl
    · rw [List.mem_singleton.1 hl]
      exact .inr ⟨rule.chain, rule.lists_text⟩
  · exact absurd (up.resolve_right awake) (Condition.reachable_of_disconnect reached).1

theorem matches_filtering {ev : Event outside} (h : c.Matches (s.after .disconnect) e)
    (call : c.Filtering ev.call) (step : Exact e ev t) : c.Matches (s.after .disconnect) t := by
  obtain ⟨live, k, found, m⟩ := h
  obtain ⟨call', answer⟩ := ev
  cases call with
  | info =>
    obtain ⟨-, rfl⟩ := step.engine
    exact ⟨live, k, found, m⟩
  | check rule =>
    by_cases down : k.running = false ∨ k.paused = true
    · exact ⟨live, k, (step.exec_down found down).2, m⟩
    · simp only [not_or, Bool.not_eq_false, Bool.not_eq_true] at down
      exact ⟨live, k, (step.exec found down.1 down.2).2, m⟩
  | append rule =>
    by_cases down : k.running = false ∨ k.paused = true
    · exact ⟨live, k, (step.exec_down found down).2, m⟩
    · simp only [not_or, Bool.not_eq_false, Bool.not_eq_true] at down
      exact ⟨live, _, (step.exec found down.1 down.2).2, Matches.append m rule down.1 down.2⟩

theorem matches_disconnect (h : c.Matches s e) :
    c.disconnect.run.Ensures Exact (fun _ => True) e
      fun _ t => c.Matches (s.after .disconnect) t := by
  have start : c.Matches (s.after .disconnect) e := by
    obtain ⟨live, k, found, m⟩ := h
    exact ⟨Condition.after_live live .disconnect, k, found, Matches.weaken m⟩
  exact disconnect_filtering.ensures start fun _ _ _ call step h =>
    ⟨trivial, matches_filtering h call step⟩

/-- Where a container runs, flushing a chain leaves no rule of it. -/
theorem ensures_flush {chain : Chain} {post : Except Error CommandOutput → Engine → Prop}
    (found : e.containers.find? c.name = some k)
    (runs : k.running = true → k.paused = false → ∀ r t, t.containers.find? c.name =
      some { k with rules := k.rules.filter fun l => !chain.lists l } → post (.ok r) t)
    (down : k.running = false ∨ k.paused = true → ∀ err t,
      t.containers.find? c.name = some k → post (.error err) t) :
    (c.filterChecked ["iptables", "-F", chain.text]).run.Ensures Exact (fun _ => True) e post := by
  refine Attempt.ensures_bind.2 (Attempt.ensures_wrap.2 (Procedure.ensures_ask.2 fun a t step => ?_))
  refine ⟨trivial, ?_⟩
  by_cases fails : k.running = false ∨ k.paused = true
  · obtain ⟨⟨err, rfl⟩, same⟩ := step.exec_down found fails
    exact down fails _ t same
  · simp only [not_or, Bool.not_eq_false, Bool.not_eq_true] at fails
    obtain ⟨rfl, after⟩ := step.exec found fails.1 fails.2
    rw [SimulatedContainer.exec_flush] at after ⊢
    exact runs fails.1 fails.2 _ t after

/-- Without the rules of the chains nothing shows. -/
theorem Matches.flushed (m : k.Matches s) {s' : Condition} (same : s'.state = s.state) :
    ({ k with rules := (k.rules.filter fun l => !Chain.input.lists l).filter fun l =>
      !Chain.output.lists l } : SimulatedContainer).Matches s' := by
  have clear : Clear ((k.rules.filter fun l => !Chain.input.lists l).filter fun l =>
      !Chain.output.lists l) := by
    intro l hl
    obtain ⟨hl, output⟩ := List.mem_filter.1 hl
    obtain ⟨hl, input⟩ := List.mem_filter.1 hl
    rcases m.tidy l hl with hidden | ⟨chain, own⟩
    · exact hidden
    · cases chain
      · simp [own] at input
      · simp [own] at output
  exact ⟨by rw [same]; exact m.running, by rw [same]; exact m.paused, fun l hl => .inl (clear l hl),
    fun _ => clear⟩

theorem matches_reconnect (h : c.Matches s e) :
    c.reconnect.run.Ensures Exact (fun _ => True) e
      fun _ t => c.Matches (s.after .reconnect) t := by
  have after := Condition.after_live h.live .reconnect
  obtain ⟨live, k, found, m⟩ := h
  rw [reconnect_eq]
  refine Attempt.ensures_bind.2 (Attempt.ensures_discard.2 (ensures_flush found ?_ ?_))
  · intro running paused r t found_t
    refine Attempt.ensures_bind.2 (Attempt.ensures_discard.2 (ensures_flush found_t ?_ ?_))
    · intro _ _ r' u found_u
      exact ⟨after, _, found_u, Matches.flushed m Condition.state_after_reconnect⟩
    · intro down
      rcases down with stopped | asleep
      · cases running.symm.trans stopped
      · cases paused.symm.trans asleep
  · intro down err t same
    have stays : s.state ≠ .running := by
      intro runs
      rcases down with stopped | asleep
      · exact absurd (m.running.2 (.inl runs)) (by simp [stopped])
      · exact absurd (runs.symm.trans (m.paused.1 asleep)) (by decide)
    rw [show s.after .reconnect = s from if_neg stays] at after ⊢
    exact ⟨after, k, same, m⟩

/-! ## All faults -/

theorem ensures_kept {p : Attempt Unit} {s' : Condition}
    (h : p.run.Ensures Exact (fun _ => True) e fun _ t => c.Matches s' t) :
    (p.keeping c).Ensures Exact (fun _ => True) e fun o t => o.2.Matches s' t :=
  Attempt.ensures_keeping.2 h

theorem matches_after (ev : FaultEvent) (h : c.Matches s e) :
    (c.perform ev.operation).Ensures Exact (fun _ => True) e
      fun o t => o.2.Matches (s.after ev.operation) t := by
  cases ev with
  | inject fault timeout =>
    cases fault with
    | partition => exact ensures_kept (matches_disconnect h)
    | pause => exact ensures_kept (matches_pause h)
    | stop => exact ensures_kept (matches_stop h timeout)
    | kill => exact ensures_kept (matches_kill h)
  | heal fault =>
    cases fault with
    | partition => exact ensures_kept (matches_reconnect h)
    | pause => exact ensures_kept (matches_resume h)
    | stop | kill => exact ensures_kept (matches_restart h)

/-! ## What is seen of a container -/

theorem ensures_state : (Backend.state c).Ensures Exact (fun _ => True) e fun r _ =>
    r = .ok .running ↔ e.Up c.name := by
  refine Procedure.ensures_bind.2 (Procedure.ensures_ask.2 fun a t step => ⟨trivial, ?_⟩)
  obtain ⟨rfl, rfl⟩ := step.engine
  unfold Engine.Up
  cases found : t.containers.find? c.name with
  | none =>
    simp only [Engine.perform, found, Option.map_none]
    cases c.deployed <;> simp
  | some k =>
    simp only [Engine.perform, found, Option.map_some, SimulatedContainer.status]
    cases running : k.running <;> cases paused : k.paused <;> simp [running, paused]

theorem ensures_told {k : SimulatedContainer} (found : e.containers.find? c.name = some k)
    (running : k.running = true) (paused : k.paused = false) :
    (Backend.faultRules c).Ensures Exact (fun _ => True) e fun r _ =>
      r = .ok (k.rules.flatMap Firewall.parseRules) := by
  refine Attempt.ensures_bind.2 (Attempt.ensures_bind.2 (Attempt.ensures_wrap.2
    (Procedure.ensures_ask.2 fun a t step => ⟨trivial, ?_⟩)))
  obtain ⟨rfl, -⟩ := step.exec found running paused
  rw [SimulatedContainer.exec_list]
  exact congrArg Except.ok (Firewall.parseRules_listing k.rules)

end Container

end Testbed
