import Testbed.Proofs.Container.Ownership
import Testbed.Proofs.Engine.Sharing
/-!
# Containers of others

A container that is there before a node of the same name is deployed keeps the node from coming up:
its deployment fails and leaves a backend that is not guarded (`deploy_keeps`). Whatever is done to
a backend of another name is about other containers (`perform_keeps`, `destroy_keeps`).
-/

namespace Testbed

open Procedure (Within)
open Lab (SimulatedContainer)

variable {α β : Type} {name : String} {k : SimulatedContainer}

/-! ## Work that keeps a container as it is -/

/-- The work leaves a container as it is that others leave alone, and then the result is in `post`. -/
def Procedure.Keeps (name : String) (k : SimulatedContainer) (p : Work α) (post : α → Prop) :
    Prop :=
  ∀ d, Kept name k d →
    p.Ensures (Communal (· = name)) (Kept name k) d fun a t => Kept name k t ∧ post a

namespace Procedure

variable {p : Work α} {f : α → Work β} {post : α → Prop} {post' : β → Prop}

theorem keeps_pure {a : α} (h : post a) : (pure a : Work α).Keeps name k post :=
  fun _ kept => ⟨kept, h⟩

theorem Keeps.bind (first : p.Keeps name k post)
    (next : ∀ a, post a → (f a).Keeps name k post') : (p >>= f).Keeps name k post' := by
  intro d kept
  refine ensures_bind.2 ((first d kept).mono ?_)
  rintro a t ⟨kept, h⟩
  exact next a h t kept

theorem Keeps.map {f : α → β} (h : p.Keeps name k fun a => post' (f a)) :
    (f <$> p).Keeps name k post' :=
  fun d kept => ensures_map.2 (h d kept)

theorem Keeps.mono {post' : α → Prop} (h : p.Keeps name k post) (le : ∀ a, post a → post' a) :
    p.Keeps name k post' :=
  fun d kept => (h d kept).mono fun a _ h => ⟨h.1, le a h.2⟩

/-- What the answers lead to may be added to the result. -/
theorem Keeps.leads (h : p.Keeps name k post) :
    p.Keeps name k fun a => post a ∧ ∃ es, p.Leads es a :=
  fun d kept => (h d kept).leads.mono fun _ _ h => ⟨h.1.1, h.1.2, h.2⟩

/-- Work keeps a container that none of its calls is about. -/
theorem Within.keeps (spares : p.Within (Call.Spares name)) : p.Keeps name k fun _ => True := by
  intro d kept
  refine Ensures.mono (spares.ensures kept fun d ev t aside call kept => ?_)
    fun _ _ kept => ⟨kept, trivial⟩
  have kept_t : Kept name k t := kept.step aside call rfl
  exact ⟨kept_t, kept_t⟩

end Procedure

/-! ## Containers -/

namespace Container

variable {c : Container}

/-- The operations of a container use files and the engine, and are about no other container. -/
theorem perform_within {C : Call → Prop}
    (engine : ∀ asked : EngineCall, (∀ name, asked.target? = some name → name = c.name) →
      C (.engine asked)) (file : ∀ f, C (.file f)) (abandon : C (.abandon c.name))
    (op : Operation) : (c.perform op).Within C := by
  have own {asked : EngineCall} (about : asked.target? = some c.name) : C (.engine asked) :=
    engine asked fun _ same => Option.some.inj (same.symm.trans about)
  have none {asked : EngineCall} (about : asked.target? = none) : C (.engine asked) :=
    engine asked fun _ same => by cases same.symm.trans about
  have tends (call) (h : c.Tends call) : C call := by
    cases h with
    | file f => exact file f
    | inspect | logs => exact none rfl
    | stop timeout | kill | pause | unpause | restart | flush chain => exact own rfl
  have filtering (call) (h : c.Filtering call) : C call := by
    cases h with
    | info => exact none rfl
    | check rule | append rule => exact own rfl
  have places (call) (h : c.Places call) : C call := by
    cases h with
    | create ready => exact own (congrArg some (spec_name ready))
    | connect | start | remove => exact own rfl
    | abandon => exact abandon
  cases op with
  | deploy => exact deploy_places.mono places
  | disconnect => exact Attempt.within_keeping _ (disconnect_filtering.mono filtering)
  | remove => exact remove_places.mono places
  | stop timeout | kill | pause | resume | reconnect | restart | collectLogs =>
    exact (perform_tends ⟨by simp, by simp, by simp⟩).mono tends

theorem perform_spares (other : c.name ≠ name) (op : Operation) :
    (c.perform op).Within (Call.Spares name) :=
  perform_within (fun _ own same => other (own name same).symm) (fun _ => trivial) other op

theorem perform_keeps (other : c.name ≠ name) (op : Operation) :
    (c.perform op).Keeps name k fun o => o.2.name ≠ name := by
  refine (perform_spares other op).keeps.leads.mono ?_
  rintro o ⟨-, es, leads⟩
  rw [(perform_same leads).name]
  exact other

theorem destroy_keeps (other : c.name ≠ name) :
    (Backend.destroy c).Keeps name k fun o => o.2.name ≠ name :=
  (perform_keeps other .kill).bind fun killed other =>
    (perform_keeps (c := killed.2) other .collectLogs).bind fun collected other =>
      perform_keeps (c := collected.2) other .remove

/-- Giving the backend up leads to nothing if its container is that of somebody else. -/
def Unclaimed (name : String) (c : Container) : Prop := c.name = name → c.guarded = false

theorem release_spares (unclaimed : c.Unclaimed name) : c.release.Within (Call.Spares name) := by
  unfold release
  split
  · rename_i guarded
    refine Procedure.within_ask.2 fun same => ?_
    rw [unclaimed same] at guarded
    cases guarded
  · exact Procedure.within_pure ()

/-- A node does not come up in the place of a container that is there. -/
theorem deploy_keeps (unclaimed : c.Unclaimed name) :
    c.deploy.Keeps name k fun o => o.2.Unclaimed name ∧ (o.1 = .ok () → o.2.name ≠ name) := by
  by_cases same : c.name = name
  · unfold deploy
    split
    · exact Procedure.keeps_pure ⟨unclaimed, by simp⟩
    · rename_i spec ready
      intro d kept
      refine Procedure.ensures_bind.2 (Procedure.ensures_ask.2 fun a t call => ?_)
      obtain ⟨⟨e, rfl⟩, kept⟩ := kept.create ((spec_name ready).trans same) call rfl
      exact ⟨kept, kept, unclaimed, by simp⟩
  · refine (perform_keeps same .deploy).mono fun o other => ?_
    exact ⟨fun same => absurd same other, fun _ => other⟩

end Container

/-! ## As backends of a universe -/

namespace Physical

/-- The backend is for a container of another name. -/
def Apart (name : String) (b : Physical) : Prop :=
  ∃ c : Container, b = .container c ∧ c.name ≠ name

def Unclaimed (name : String) (b : Physical) : Prop :=
  ∃ c : Container, b = .container c ∧ c.Unclaimed name

variable {b : Physical}

theorem Apart.unclaimed (apart : b.Apart name) : b.Unclaimed name := by
  obtain ⟨c, rfl, other⟩ := apart
  exact ⟨c, rfl, fun same => absurd same other⟩

theorem deploy_keeps (unclaimed : b.Unclaimed name) :
    (Backend.perform .deploy b).Keeps name k fun o =>
      o.2.Unclaimed name ∧ (o.1 = .ok () → o.2.Apart name) := by
  obtain ⟨c, rfl, unclaimed⟩ := unclaimed
  refine Procedure.Keeps.map ((Container.deploy_keeps unclaimed).mono ?_)
  rintro o ⟨unclaimed, other⟩
  exact ⟨⟨o.2, rfl, unclaimed⟩, fun ok => ⟨o.2, rfl, other ok⟩⟩

theorem perform_keeps (apart : b.Apart name) (op : Operation) :
    (Backend.perform op b).Keeps name k fun o => o.2.Apart name := by
  obtain ⟨c, rfl, other⟩ := apart
  exact Procedure.Keeps.map ((Container.perform_keeps other op).mono fun o other =>
    ⟨o.2, rfl, other⟩)

theorem destroy_keeps (apart : b.Apart name) :
    (Backend.destroy b).Keeps name k fun o => o.2.Apart name := by
  obtain ⟨c, rfl, other⟩ := apart
  rw [destroy_container]
  exact Procedure.Keeps.map ((Container.destroy_keeps other).mono fun o other =>
    ⟨o.2, rfl, other⟩)

theorem release_spares (unclaimed : b.Unclaimed name) :
    (Backend.release b).Within (Call.Spares name) := by
  obtain ⟨c, rfl, unclaimed⟩ := unclaimed
  exact Container.release_spares unclaimed

/-- Looking at a node does not change what it runs in. -/
theorem look_spares (apart : b.Apart name) : (Backend.state b).Within (Call.Spares name) ∧
    (Backend.faultRules b).Within (Call.Spares name) := by
  obtain ⟨c, rfl, other⟩ := apart
  have listing : Call.Spares name (.engine (.exec c.name Firewall.listCommand)) :=
    fun same => other (Option.some.inj same)
  constructor
  · refine Within.bind (Procedure.within_ask.2 nofun) fun found => ?_
    obtain e | _ | status := found <;> exact Procedure.within_pure _
  · exact Attempt.within_bind (Container.filterChecked_within listing) fun _ =>
      Procedure.within_pure _

end Physical

end Testbed
