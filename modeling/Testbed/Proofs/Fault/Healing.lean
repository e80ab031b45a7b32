import Testbed.Backend.Physical
import Testbed.Node
import Testbed.Proofs.Container.Condition
import Testbed.Proofs.Container.Partition
import Testbed.Proofs.RemoteProcess.Condition
import Testbed.Proofs.RemoteProcess.Tracking
/-!
# Faults leave no trace

A node that was deployed, runs and has no rules does so again after any faults that are healed in the
order of brackets, whichever of them failed on the way (`nested_faults_heal`).
-/

namespace Testbed

open Lab (Engine)
open Lab.Engine (Exact)

/-- A deploy of the backend succeeded, and anything may have been done to it since. -/
inductive Backend.Reached {β : Type} [Backend β] : β → Prop
  | deployed {b b' : β} {es : List (Event outside)} :
      (Backend.perform .deploy b).Leads es (.ok (), b') → Reached b'
  | acted {b b' : β} {r : Except Error Unit} {es : List (Event outside)}
      (action : Backend.Action) : Reached b → (action.apply b).Leads es (r, b') → Reached b'

namespace Physical

variable {b b' : Physical} {es : List (Event outside)}

/-- The backends are containers both, or processes of which one can be launched if the other can. -/
def Alike : Physical → Physical → Prop
  | .container _, .container _ => True
  | .process p, .process p' => p.Tracks p'
  | _, _ => False

theorem Alike.trans {b'' : Physical} (h : b.Alike b') (h' : b'.Alike b'') : b.Alike b'' := by
  cases b <;> cases b' <;> cases b'' <;> first | exact h.elim | exact h'.elim | skip
  · trivial
  · exact RemoteProcess.Tracks.trans h h'

theorem perform_alike {op : Operation} {o : Outcome Physical}
    (h : (Backend.perform op b).Leads es o) : b.Alike o.2 := by
  cases b with
  | container c =>
    obtain ⟨o', -, rfl⟩ := Procedure.leads_map.1 h
    trivial
  | process p =>
    obtain ⟨o', performed, rfl⟩ := Procedure.leads_map.1 h
    exact RemoteProcess.perform_tracks performed

theorem action_alike {action : Backend.Action} {o : Outcome Physical}
    (h : (action.apply b).Leads es o) : b.Alike o.2 := by
  cases action with
  | perform op => exact perform_alike h
  | destroy =>
    obtain ⟨_, _, killed, -, kill, h⟩ := Procedure.leads_bind.1 h
    obtain ⟨_, _, collected, -, collect, h⟩ := Procedure.leads_bind.1 h
    exact ((perform_alike kill).trans (perform_alike collect)).trans (perform_alike h)

/-- A process that was deployed can be launched. -/
def Launchable : Physical → Prop
  | .container _ => True
  | .process p => ∃ cmd, p.launchCommand = .ok cmd

theorem Launchable.alike (h : b.Launchable) (alike : b.Alike b') : b'.Launchable := by
  cases b with
  | container c =>
    cases b' with
    | container c' => trivial
    | process p' => exact alike.elim
  | process p =>
    cases b' with
    | container c' => exact alike.elim
    | process p' =>
      obtain ⟨x, rfl⟩ := alike
      exact h

theorem deploy_launchable (h : (Backend.perform .deploy b).Leads es (.ok (), b')) :
    b'.Launchable := by
  cases b with
  | container c =>
    obtain ⟨⟨r, c'⟩, -, eq⟩ := Procedure.leads_map.1 h
    cases eq
    trivial
  | process p =>
    obtain ⟨⟨r, p'⟩, deployed, eq⟩ := Procedure.leads_map.1 h
    cases eq
    exact RemoteProcess.deploy_launchable deployed

theorem reached_launchable (h : Backend.Reached b) : b.Launchable := by
  induction h with
  | deployed deployed => exact deploy_launchable deployed
  | acted action _ acted ih => exact ih.alike (action_alike acted)

/-- The node of a backend is in a condition. -/
def Matches (b : Physical) (s : Condition) (e : Engine) : Prop :=
  match b with
  | .container c => c.Matches s e
  | .process p => p.Matches s

theorem matches_after {s : Condition} {e : Engine} (ev : FaultEvent) (h : b.Matches s e) :
    (Backend.perform ev.operation b).Ensures Exact (fun _ => True) e
      fun o t => o.2.Matches (s.after ev.operation) t := by
  cases b with
  | container c => exact Procedure.ensures_map.2 (Container.matches_after ev h)
  | process p => exact Procedure.ensures_map.2 (RemoteProcess.matches_after ev h)

/-- A container that is up and has no rules runs and can be reached, and no other does. -/
theorem matches_up {c : Container} {e : Engine} : c.Matches ⟨.running, true⟩ e ↔
    ∃ k, e.containers.find? c.name = some k ∧ k.running = true ∧ k.paused = false ∧
      Firewall.Clear k.rules := by
  constructor
  · rintro ⟨-, k, found, fits⟩
    have awake : k.paused = false := by
      rw [← Bool.not_eq_true, fits.paused]
      simp
    exact ⟨k, found, fits.running.2 (.inl rfl), awake, fits.clear rfl⟩
  · rintro ⟨k, found, runs, awake, clear⟩
    exact ⟨.inl rfl, k, found, by simp [runs], by simp [awake], fun l hl => .inl (clear l hl),
      fun _ => clear⟩

theorem matches_start {σ : Type} {peers : Peers outside σ} {view : σ → Engine}
    (obey : peers.Obey view Exact) {m : Moment σ} (reached : Backend.Reached b)
    (running : ((Backend.state b).run peers m).1 = .ok .running)
    (clear : ((Backend.faultRules b).run peers m).1 = .ok []) :
    b.Matches ⟨.running, true⟩ (view m.state) := by
  cases b with
  | container c =>
    obtain ⟨k, found, runs, awake⟩ := (Container.ensures_state.run obey).1 running
    have told := (Container.ensures_told found runs awake).run obey
    have none : Firewall.Clear k.rules :=
      List.flatMap_eq_nil_iff.1 (Except.ok.inj (told.symm.trans clear))
    exact matches_up.2 ⟨k, found, runs, awake, none⟩
  | process p =>
    exact ⟨.inl rfl, Except.ok.inj running, reached_launchable reached⟩

theorem matches_end {σ : Type} {peers : Peers outside σ} {view : σ → Engine}
    (obey : peers.Obey view Exact) {m : Moment σ}
    (h : b.Matches ⟨.running, true⟩ (view m.state)) :
    ((Backend.state b).run peers m).1 = .ok .running ∧
      ((Backend.faultRules b).run peers m).1 = .ok [] := by
  cases b with
  | container c =>
    obtain ⟨k, found, runs, awake, none⟩ := matches_up.1 h
    refine ⟨(Container.ensures_state.run obey).2 ⟨k, found, runs, awake⟩, ?_⟩
    have told := (Container.ensures_told found runs awake).run obey
    rw [List.flatMap_eq_nil_iff.2 none] at told
    exact told
  | process p => exact ⟨congrArg Except.ok h.state, rfl⟩

end Physical

/-! ## Faults in the order of brackets -/

theorem ensures_events {events : List FaultEvent} {n : Node Physical} {s : Condition} {e : Engine}
    (h : n.backend.Matches s e) :
    (inTurn (events.map fun ev => Node.perform ev.operation) n).Ensures Exact (fun _ => True) e
      fun n' t => n'.backend.Matches (FaultEvent.settle s events) t := by
  induction events generalizing n s e with
  | nil => exact h
  | cons ev events ih =>
    refine Procedure.ensures_bind.2 (Procedure.ensures_bind.2 ?_)
    refine (Physical.matches_after ev h).mono fun o t after => ?_
    exact ih after

theorem nested_faults_heal {σ : Type} {peers : Peers outside σ} {view : σ → Engine}
    (obey : peers.Obey view Exact) {n : Node Physical} {m : Moment σ}
    (reached : Backend.Reached n.backend)
    (running : ((Backend.state n.backend).run peers m).1 = .ok .running)
    (clear : ((Backend.faultRules n.backend).run peers m).1 = .ok []) {events : List FaultEvent}
    (nested : Nested events) :
    let (n', m') := (inTurn (events.map fun ev => Node.perform ev.operation) n).run peers m
    ((Backend.state n'.backend).run peers m').1 = .ok .running ∧
      ((Backend.faultRules n'.backend).run peers m').1 = .ok [] := by
  have start := Physical.matches_start obey reached running clear
  have done := (@ensures_events events _ _ _ start).run obey
  rw [nested.settle_eq] at done
  exact Physical.matches_end obey done

/-- A container that was deployed. -/
def deployedContainer : Outcome Physical × Moment Engine :=
  (Backend.perform .deploy
    (Physical.container (.ofNode (.ofPort 9000) .default "testnet" "/logs"))).run Engine.peers
      ⟨.zero, .empty Engine.defaultInfo []⟩

theorem deployedContainer_reached : Backend.Reached deployedContainer.1.2 := by
  have succeeded : deployedContainer.1.1 = .ok () := toOption_eq_some.1 (by decide +kernel)
  have leads := Procedure.leads_run Engine.peers (Backend.perform .deploy
    (Physical.container (.ofNode (.ofPort 9000) .default "testnet" "/logs")))
      ⟨.zero, .empty Engine.defaultInfo []⟩
  have outcome : deployedContainer.1 = (.ok (), deployedContainer.1.2) := by
    rw [← succeeded]
  exact .deployed (outcome ▸ leads)

/-- A container is paused, and stopped and started again before it is resumed. -/
theorem nested_faults_heal_stopped :
    let (n', m') := (inTurn
      ([.inject .pause .zero, .inject .stop .zero, .heal .stop, .heal .pause].map
        fun ev : FaultEvent => Node.perform ev.operation)
      ⟨.ofPort 9000, "node9000:9000", deployedContainer.1.2⟩).run Engine.peers deployedContainer.2
    ((Backend.state n'.backend).run Engine.peers m').1 = .ok .running ∧
      ((Backend.faultRules n'.backend).run Engine.peers m').1 = .ok [] :=
  @nested_faults_heal _ Engine.peers id Engine.peers_obey
    ⟨.ofPort 9000, "node9000:9000", deployedContainer.1.2⟩ deployedContainer.2
    deployedContainer_reached (toOption_eq_some.1 (by decide +kernel))
    (toOption_eq_some.1 (by decide +kernel)) _
    (.bracket .pause .zero (.bracket .stop .zero .nil))

end Testbed
