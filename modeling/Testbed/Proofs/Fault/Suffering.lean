import Testbed.Proofs.Container.Bystander
import Testbed.Proofs.Fault.Healing
import Testbed.Proofs.Lifecycle.Agreement
/-!
# Nodes that suffer a fault

Without failures a node that runs and can be reached can be made to suffer every fault that its
backend supports, and to recover from it: bringing the fault about succeeds, and so does healing it
(`inject_stands`, `heal_stands`). Nodes that do not share its container do not notice
(`Stands.aside`).
-/

namespace Testbed

open Lab (Engine)
open Lab.Engine (Exact)
open Procedure (Within leads_bind leads_map leads_pure)

variable {es : List (Event outside)} {e t : Engine} {s : Condition}

/-! ## Peers without failures -/

/-- The call is no command for a host. -/
def Call.OffHost (c : Call) : Prop := ∀ host cmd, c ≠ .shell (.run host cmd)

theorem Faultless.exact {ev : Event outside} (step : Faultless e ev t) (off : ev.call.OffHost) :
    Exact e ev t := by
  cases step with
  | performed c => exact .performed c
  | ran _ | unmatched _ _ _ => exact absurd rfl (off _ _)
  | elsewhere other other' => exact .elsewhere other other'

/-- Where no commands are run on hosts, it does not matter what these say to signals. -/
theorem Procedure.Within.faultless {α : Type} {p : Work α} {always : Engine → Prop}
    {post : α → Engine → Prop} (within : p.Within Call.OffHost)
    (h : p.Ensures Exact always e post) : p.Ensures Faultless always e post := by
  induction p generalizing e with
  | done a => exact h
  | call c next ih =>
    intro a d t step
    obtain ⟨always_t, rest⟩ := h a d t (step.exact within.1)
    exact ⟨always_t, ih a d (within.2 a d) rest⟩
  | pause d p ih => exact ih within h
  | clock next ih => exact fun t => ih t (within t) (h t)

theorem Faultless.spared {name : String} {ev : Event outside} (step : Faultless e ev t)
    (spares : ev.call.Spares name) : t.containers.find? name = e.containers.find? name := by
  cases step with
  | performed c => exact Engine.find?_perform_other spares
  | ran _ | unmatched _ _ _ | elsewhere _ _ => rfl

/-- Work of which no call is about a container leaves it as it is, at every moment. -/
theorem Procedure.Within.unchanged {α : Type} {name : String} {p : Work α}
    (spares : p.Within (Call.Spares name)) :
    p.Ensures Faultless (fun t => t.containers.find? name = e.containers.find? name) e
      fun _ t => t.containers.find? name = e.containers.find? name := by
  refine spares.ensures rfl fun s ev t aside step same => ?_
  have kept := (step.spared aside).trans same
  exact ⟨kept, kept⟩

/-! ## Containers that were created -/

namespace Container

variable {c : Container}

theorem Deploys.created {o : Outcome Container} (course : c.Deploys es o) :
    c.deployed = true ∨ o.1 = .ok () → o.2.deployed = true := by
  cases course with
  | unfit _ | uncreated _ => simp
  | unconnected _ | unstarted _ | started _ => exact fun _ => rfl

theorem perform_created {op : Operation} {o : Outcome Container} (created : c.deployed = true)
    (leads : (c.perform op).Leads es o) : o.2.deployed = true := by
  rcases @action_cases c es o (.perform op) leads with
    ⟨-, course⟩ | ⟨-, rfl | ⟨err, rfl⟩⟩ | ⟨-, -, same⟩
  · exact course.created (.inl created)
  · exact created
  · exact created
  · rwa [same]

/-- A container that was created shows that it runs as long as it is up. -/
theorem shows_up (created : c.deployed = true) : c.Shows .running e ↔ e.Up c.name := by
  constructor
  · intro shows
    obtain ⟨k, found, status⟩ := Option.map_eq_some_iff.1 shows.shown
    obtain ⟨running, paused⟩ := ContainerStatus.mk.inj status
    exact ⟨k, found, running, paused⟩
  · rintro ⟨k, found, running, paused⟩
    refine ⟨created, by simp, ?_⟩
    rw [found]
    simp [NodeState.shown, Lab.SimulatedContainer.status, running, paused]

/-! ## Containers need no commands on hosts -/

theorem perform_offHost (op : Operation) : (c.perform op).Within Call.OffHost :=
  perform_within (fun _ _ => nofun) (fun _ => nofun) nofun op

theorem state_offHost : (Backend.state c).Within Call.OffHost := by
  refine Within.bind (Procedure.within_ask.2 nofun) fun found => ?_
  obtain e | _ | status := found <;> exact Procedure.within_pure _

theorem faultRules_offHost : (Backend.faultRules c).Within Call.OffHost :=
  Attempt.within_bind (filterChecked_within nofun) fun _ => Procedure.within_pure _

end Container

/-! ## Nodes in a condition -/

namespace Physical

variable {b b' : Physical} {fault : Fault}

/-- The name of the container that a node runs in, if it runs in one. -/
def container? : Physical → Option String
  | .container c => some c.name
  | .process _ => none

def Created : Physical → Prop
  | .container c => c.deployed = true
  | .process _ => True

theorem perform_created {op : Operation} {o : Outcome Physical} (created : b.Created)
    (leads : (Backend.perform op b).Leads es o) : o.2.Created := by
  cases b with
  | container c =>
    obtain ⟨o', performed, rfl⟩ := leads_map.1 leads
    exact Container.perform_created created performed
  | process p =>
    obtain ⟨o', -, rfl⟩ := leads_map.1 leads
    trivial

theorem reached_created (reached : Backend.Reached b) : b.Created := by
  induction reached with
  | @deployed b b' es deployed =>
    cases b with
    | container c =>
      obtain ⟨⟨r, c'⟩, performed, same⟩ := leads_map.1 deployed
      cases same
      exact (Container.deploy_leads performed).created (.inr rfl)
    | process p =>
      obtain ⟨⟨r, p'⟩, -, same⟩ := leads_map.1 deployed
      cases same
      trivial
  | acted action _ acted ih =>
    cases action with
    | perform op => exact perform_created ih acted
    | destroy =>
      obtain ⟨_, _, killed, -, kill, acted⟩ := leads_bind.1 acted
      obtain ⟨_, _, collected, -, collect, remove⟩ := leads_bind.1 acted
      exact perform_created (perform_created (perform_created ih kill) collect) remove

theorem perform_container? {op : Operation} {o : Outcome Physical}
    (leads : (Backend.perform op b).Leads es o) : o.2.container? = b.container? := by
  cases b with
  | container c =>
    obtain ⟨o', performed, rfl⟩ := leads_map.1 leads
    exact congrArg some (Container.perform_same performed).name
  | process p =>
    obtain ⟨o', -, rfl⟩ := leads_map.1 leads
    rfl

/-- The node of a backend was deployed, and is in a condition. -/
structure Stands (b : Physical) (s : Condition) (e : Engine) : Prop where
  fits : b.Matches s e
  shows : b.Shows s.state e

theorem Stands.live (stands : b.Stands s e) : s.Live := by
  cases b with
  | container c => exact stands.fits.live
  | process p => exact stands.fits.live

/-- What a node stands in depends on its own container only. -/
theorem Stands.aside (stands : b.Stands s e) (same : ∀ name, b.container? = some name →
    t.containers.find? name = e.containers.find? name) : b.Stands s t := by
  obtain ⟨fits, shows⟩ := stands
  cases b with
  | container c =>
    have same := same c.name rfl
    refine ⟨⟨fits.live, ?_⟩, ⟨shows.deployed, shows.state, ?_⟩⟩
    · rw [same]
      exact fits.found
    · rw [same]
      exact shows.shown
  | process p => exact ⟨fits, shows⟩

/-! ## Operations without failures -/

theorem verdict_of_live (live : s.Live) (step : LifecycleStep) :
    s.state.verdict step = .ok () := by
  rcases live with eq | eq | eq <;> rw [eq] <;> cases step <;> rfl

theorem succeeded_of_mapError {r : Except Error Unit}
    (h : r.mapError Error.kind = .ok ()) : r = .ok () := by
  cases r with
  | ok u => rfl
  | error err => cases h

/-- A fault that is a step of a node's life is brought about or healed. -/
theorem stands_step (ev : FaultEvent) (step : LifecycleStep) (stands : b.Stands s e)
    (same : step.action = .perform ev.operation) :
    (Backend.perform ev.operation b).Ensures Faultless (fun _ => True) e fun o t =>
      o.1 = .ok () ∧ o.2.Stands (s.after ev.operation) t := by
  have steps := shows_step stands.shows step
  unfold Follows at steps
  rw [same, verdict_of_live stands.live, ← Condition.state_after stands.live same] at steps
  have live := Condition.after_live stands.live ev.operation
  cases b with
  | container c =>
    have fits := (Container.perform_offHost ev.operation).faultless
      (Container.matches_after ev stands.fits)
    refine Procedure.ensures_map.2 ((fits.and (Procedure.ensures_map.1 steps)).mono ?_)
    rintro o t ⟨fits, verdict, shows⟩
    exact ⟨succeeded_of_mapError verdict, fits, shows⟩
  | process p =>
    refine Procedure.ensures_map.2 ((Procedure.ensures_map.1 steps).mono ?_)
    rintro o t ⟨verdict, shows⟩
    exact ⟨succeeded_of_mapError verdict, ⟨live, shows.state, shows.launchable⟩, shows⟩

/-- A container that runs is cut off or taken back. -/
theorem stands_filter {c : Container} (ev : FaultEvent) (stands : (container c).Stands s e)
    (runs : s.state = .running)
    (filters : ev.operation = .disconnect ∨ ev.operation = .reconnect) :
    (Backend.perform ev.operation (container c)).Ensures Faultless (fun _ => True) e fun o t =>
      o.1 = .ok () ∧ o.2.Stands (s.after ev.operation) t := by
  have created : c.deployed = true := stands.shows.deployed
  have shows : c.Shows .running e := runs ▸ stands.shows
  have up : e.Up c.name := (Container.shows_up created).1 shows
  have stays : (s.after ev.operation).state = .running := by
    rcases filters with eq | eq <;> rw [eq] <;> simp [runs]
  have done : (c.perform ev.operation).Ensures Exact (fun _ => True) e
      fun o t => o.1 = .ok () ∧ o.2 = c ∧ t.Up c.name := by
    rcases filters with eq | eq <;> rw [eq]
    · refine Attempt.ensures_keeping.2 ((Container.disconnect_exact up).mono fun r t h => ?_)
      exact ⟨h.1, rfl, h.2⟩
    · refine Attempt.ensures_keeping.2 ((Container.reconnect_exact up).mono fun r t h => ?_)
      exact ⟨h.1, rfl, h.2⟩
  have both := (Container.matches_after ev stands.fits).and done
  refine Procedure.ensures_map.2 (((Container.perform_offHost _).faultless both).mono ?_)
  rintro ⟨r, c'⟩ t ⟨fits, succeeded, same, up⟩
  cases same
  refine ⟨succeeded, fits, ?_⟩
  rw [stays]
  exact (Container.shows_up created).2 up

/-- A node runs and can be reached. -/
abbrev Well (b : Physical) (e : Engine) : Prop := b.Stands ⟨.running, true⟩ e

/-- The node of a backend suffers from a fault. -/
abbrev Suffers (b : Physical) (fault : Fault) (timeout : Duration) (e : Engine) : Prop :=
  b.Stands (Condition.after ⟨.running, true⟩ (fault.injection timeout)) e

theorem supported_partition {p : RemoteProcess} :
    Fault.partition ∉ Fault.supported (process p) := by
  have unsupported : Fault.supported (process p) = [.pause, .stop, .kill] := rfl
  rw [unsupported]
  decide

theorem inject_stands (well : b.Well e) (supported : fault ∈ Fault.supported b)
    (timeout : Duration) :
    (Backend.perform (fault.injection timeout) b).Ensures Faultless (fun _ => True) e fun o t =>
      o.1 = .ok () ∧ o.2.Suffers fault timeout t := by
  cases fault with
  | partition =>
    cases b with
    | container c => exact stands_filter (.inject .partition timeout) well rfl (.inl rfl)
    | process p => exact absurd supported supported_partition
  | pause => exact stands_step (.inject .pause timeout) .pause well rfl
  | stop => exact stands_step (.inject .stop timeout) (.stop timeout) well rfl
  | kill => exact stands_step (.inject .kill timeout) .kill well rfl

/-- A fault is healed wherever healing makes up for the condition of the node. -/
theorem heal_mends (stands : b.Stands s e) (mends : fault.Mends s)
    (supported : fault ∈ Fault.supported b) :
    (Backend.perform fault.healing b).Ensures Faultless (fun _ => True) e fun o t =>
      o.1 = .ok () ∧ o.2.Well t := by
  have healed : (Backend.perform fault.healing b).Ensures Faultless (fun _ => True) e fun o t =>
      o.1 = .ok () ∧ o.2.Stands (s.after fault.healing) t := by
    cases fault with
    | partition =>
      cases b with
      | container c => exact stands_filter (.heal .partition) stands (mends.filters rfl) (.inr rfl)
      | process p => exact absurd supported supported_partition
    | pause => exact stands_step (.heal .pause) .resume stands rfl
    | stop => exact stands_step (.heal .stop) .restart stands rfl
    | kill => exact stands_step (.heal .kill) .restart stands rfl
  rwa [mends.mended] at healed

theorem heal_stands {timeout : Duration} (suffers : b.Suffers fault timeout e)
    (supported : fault ∈ Fault.supported b) :
    (Backend.perform fault.healing b).Ensures Faultless (fun _ => True) e fun o t =>
      o.1 = .ok () ∧ o.2.Well t :=
  heal_mends suffers (fault.mends_injected timeout) supported

/-- What a backend supports is a matter of what it is. -/
theorem supported_alike (alike : b.Alike b') : Fault.supported b' = Fault.supported b := by
  cases b <;> cases b' <;> first | exact alike.elim | rfl

/-! ## Nodes elsewhere -/

theorem perform_spares {name : String} (other : b.container? ≠ some name) (op : Operation) :
    (Backend.perform op b).Within (Call.Spares name) := by
  cases b with
  | container c =>
    have other : c.name ≠ name := fun same => other (congrArg some same)
    exact Within.map (Container.perform_spares other op) _
  | process p =>
    have within : (p.perform op).Within (Call.Spares name) :=
      RemoteProcess.perform_within (fun _ => trivial) (fun _ => trivial) op
    exact within.map _

end Physical

end Testbed
