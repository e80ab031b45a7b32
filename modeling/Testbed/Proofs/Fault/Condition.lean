import Testbed.Fault
/-!
# Faults that are healed in the order of brackets

A `Condition` is what faults can change about a node, and `Condition.after` is what an operation
makes of it. Healing does not undo a fault: a stop inside of a pause loses the pause, and a node that
is down can neither be cut off nor be taken back. But when faults are healed in the reverse order in
which they were brought about, a node ends as it began or runs, and one that could be reached still
can be (`Nested.settle_eq`).
-/

namespace Testbed

/-- How a node does, and whether it can be reached. -/
structure Condition where
  state : NodeState
  reachable : Bool
  deriving DecidableEq, Repr

namespace Condition

/-- The node is deployed. -/
def Live (s : Condition) : Prop :=
  s.state = .running ∨ s.state = .paused ∨ s.state = .stopped

/-- What an operation that brings about or heals a fault makes of a node. Commands for the packet
filter need a node that runs. -/
def after (s : Condition) : Operation → Condition
  | .pause => if s.state = .running then { s with state := .paused } else s
  | .resume => if s.state = .paused then { s with state := .running } else s
  | .stop _ | .kill => { s with state := .stopped }
  | .restart => if s.state = .stopped then { s with state := .running } else s
  | .disconnect => if s.state = .running then { s with reachable := false } else s
  | .reconnect => if s.state = .running then { s with reachable := true } else s
  | .deploy | .collectLogs | .remove => s

variable {s : Condition}

@[simp]
theorem state_after_disconnect : (s.after .disconnect).state = s.state := by
  simp only [after]
  split <;> rfl

@[simp]
theorem state_after_reconnect : (s.after .reconnect).state = s.state := by
  simp only [after]
  split <;> rfl

theorem reachable_of_disconnect (h : (s.after .disconnect).reachable = true) :
    s.state ≠ .running ∧ s.reachable = true := by
  simp only [after] at h
  split at h
  · cases h
  · exact ⟨‹_›, h⟩

end Condition

/-- A fault is brought about, with a limit for stopping the node, or healed. -/
inductive FaultEvent where
  | inject (fault : Fault) (timeout : Duration)
  | heal (fault : Fault)
  deriving DecidableEq, Repr

namespace FaultEvent

def operation : FaultEvent → Operation
  | .inject fault timeout => fault.injection timeout
  | .heal fault => fault.healing

def settle (s : Condition) (events : List FaultEvent) : Condition :=
  events.foldl (fun s ev => s.after ev.operation) s

end FaultEvent

/-- Every fault that is brought about is healed, in the order of brackets. -/
inductive Nested : List FaultEvent → Prop
  | nil : Nested []
  | append {u v : List FaultEvent} : Nested u → Nested v → Nested (u ++ v)
  | bracket {u : List FaultEvent} (fault : Fault) (timeout : Duration) :
      Nested u → Nested (.inject fault timeout :: (u ++ [.heal fault]))

/-- A node ends as it began or runs, and is no less reachable. -/
structure Condition.Recovers (s t : Condition) : Prop where
  state : t.state = s.state ∨ t.state = .running
  reachable : s.reachable = true → t.reachable = true

namespace Condition

variable {s t u : Condition}

theorem Recovers.refl (s : Condition) : s.Recovers s := ⟨.inl rfl, id⟩

theorem Recovers.trans (h : s.Recovers t) (h' : t.Recovers u) : s.Recovers u where
  state := by
    rcases h'.state with same | runs
    · rw [same]
      exact h.state
    · exact .inr runs
  reachable := h'.reachable ∘ h.reachable

theorem Recovers.live (h : s.Recovers t) (live : s.Live) : t.Live := by
  rcases h.state with same | runs
  · unfold Live
    rw [same]
    exact live
  · exact .inl runs

theorem after_live (live : s.Live) (op : Operation) : (s.after op).Live := by
  cases op <;> simp only [after] <;> (try split) <;> simp_all [Live]

/-- Healing a fault makes up for it, whatever became of the node in between. -/
theorem recovers_of_bracket (live : s.Live) (fault : Fault) (timeout : Duration)
    (between : (s.after (fault.injection timeout)).Recovers t) :
    s.Recovers (t.after fault.healing) := by
  obtain ⟨state, reachable⟩ := between
  obtain ⟨x, reached⟩ := s
  obtain ⟨y, reached'⟩ := t
  cases fault with
  | partition =>
    -- only a node that runs is cut off, and it still runs when it is taken back
    rcases live with rfl | rfl | rfl <;> rcases state with rfl | rfl <;>
      constructor <;> simp_all [after, Fault.injection, Fault.healing]
  | pause =>
    rcases live with rfl | rfl | rfl <;> rcases state with rfl | rfl <;>
      constructor <;> simp_all [after, Fault.injection, Fault.healing]
  | stop | kill =>
    -- a node that is down runs when it is started again, and so it cannot be paused by then
    rcases live with rfl | rfl | rfl <;> rcases state with rfl | rfl <;>
      constructor <;> simp_all [after, Fault.injection, Fault.healing]

end Condition

/-- Healing a fault makes up for a condition. Commands for the packet filter need a node that
runs. -/
structure Fault.Mends (fault : Fault) (s : Condition) : Prop where
  live : s.Live
  mended : s.after fault.healing = ⟨.running, true⟩
  filters : fault = .partition → s.state = .running

theorem Fault.mends_well (fault : Fault) : fault.Mends ⟨.running, true⟩ := by
  refine ⟨.inl rfl, ?_, fun _ => rfl⟩
  cases fault <;> rfl

theorem Fault.mends_injected (fault : Fault) (timeout : Duration) :
    fault.Mends (Condition.after ⟨.running, true⟩ (fault.injection timeout)) := by
  cases fault with
  | partition => exact ⟨.inl rfl, rfl, fun _ => rfl⟩
  | pause => exact ⟨.inr (.inl rfl), rfl, nofun⟩
  | stop | kill => exact ⟨.inr (.inr rfl), rfl, nofun⟩

theorem Nested.recovers {events : List FaultEvent} (nested : Nested events) {s : Condition}
    (live : s.Live) : s.Recovers (FaultEvent.settle s events) := by
  induction nested generalizing s with
  | nil => exact .refl s
  | @append u v _ _ ihu ihv =>
    have first := ihu live
    have second := ihv (first.live live)
    rw [FaultEvent.settle, List.foldl_append]
    exact first.trans second
  | @bracket u fault timeout _ ih =>
    have inner := ih (Condition.after_live live (fault.injection timeout))
    rw [FaultEvent.settle, List.foldl_cons, List.foldl_append]
    exact Condition.recovers_of_bracket live fault timeout inner

/-- A node that runs and can be reached does so in the end. -/
theorem Nested.settle_eq {events : List FaultEvent} (nested : Nested events) :
    FaultEvent.settle ⟨.running, true⟩ events = ⟨.running, true⟩ := by
  obtain ⟨state, reachable⟩ := nested.recovers (s := ⟨.running, true⟩) (.inl rfl)
  generalize FaultEvent.settle ⟨.running, true⟩ events = t at state reachable
  obtain ⟨x, reached⟩ := t
  simp only [or_self] at state
  rw [state, show reached = true from reachable rfl]

end Testbed
