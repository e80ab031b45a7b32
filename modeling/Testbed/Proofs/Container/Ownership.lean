import Testbed.Backend.Physical
import Testbed.Proofs.Container.Calls
import Testbed.Proofs.Engine.Conduct
/-!
# Who answers for a container

Of the containers that were created and that there still are, each is `Accounted` for: somebody owns
its name, or it was left behind by the deployment that created it, which failed and could not remove
it. Calls that create no container keep this (`Accounted.idle`). A deployment that succeeds adds the
name of its container to those that are owned, and one that fails adds none (`deploy_accounted`).
-/

namespace Testbed

open Procedure (Within)
open Lab (Engine)
open Lab.Engine (Faulty)

def Call.IsCreate : Call → Prop
  | .engine (.create _) => True
  | _ => False

/-- The work creates no container. -/
abbrev Procedure.Idle {α : Type} (p : Work α) : Prop := p.Within fun c : Call => ¬c.IsCreate

/-- A container of the name was to be removed, and that failed although it may be there. -/
def Event.FailsToRemove (name : String) (ev : Event outside) : Prop :=
  ∃ err, err.isMissing = false ∧ ev = ⟨.engine (.remove name), .error err⟩

def Created (name : String) (es : List (Event outside)) : Prop := ∃ ev ∈ es, ev.Creates name

def RemovalFailed (name : String) (es : List (Event outside)) : Prop :=
  ∃ ev ∈ es, ev.FailsToRemove name

/-- The last container of the name was created by a deployment that also failed to remove it. -/
def LeftBehind (name : String) (es : List (Event outside)) : Prop :=
  ∃ (c : Container) (before deploy after : List (Event outside)) (o : Outcome Container),
    es = before ++ deploy ++ after ∧ c.name = name ∧ c.deploy.Leads deploy o ∧
      Created name deploy ∧ RemovalFailed name deploy ∧ ¬Created name after

theorem created_append {name : String} {es fs : List (Event outside)} :
    Created name (es ++ fs) ↔ Created name es ∨ Created name fs := by
  simp only [Created, List.mem_append, or_and_right, exists_or]

theorem removalFailed_append {name : String} {es fs : List (Event outside)} :
    RemovalFailed name (es ++ fs) ↔ RemovalFailed name es ∨ RemovalFailed name fs := by
  simp only [RemovalFailed, List.mem_append, or_and_right, exists_or]

theorem LeftBehind.removalFailed {name : String} {es : List (Event outside)}
    (left : LeftBehind name es) : RemovalFailed name es := by
  obtain ⟨c, before, deploy, after, o, rfl, -, -, -, failed, -⟩ := left
  exact removalFailed_append.2 (.inl (removalFailed_append.2 (.inr failed)))

theorem LeftBehind.append {name : String} {es fs : List (Event outside)}
    (left : LeftBehind name es) (none : ¬Created name fs) : LeftBehind name (es ++ fs) := by
  obtain ⟨c, before, deploy, after, o, rfl, same, leads, created, failed, last⟩ := left
  refine ⟨c, before, deploy, after ++ fs, o, ?_, same, leads, created, failed, ?_⟩
  · simp only [List.append_assoc]
  · rw [created_append]
    exact fun h => h.elim last none

/-! ## Accounting -/

/-- An engine of which no failure looks as if a container were missing, and all that was called. -/
abbrev Watched : Conduct outside (Engine × List (Event outside)) :=
  (Faulty fun err => err.isMissing = false).recorded

/-- What holds at the end of a piece of work, whatever the engine makes of it. -/
abbrev Procedure.Ends {α : Type} (p : Work α) (s : Engine × List (Event outside))
    (post : α → Engine × List (Event outside) → Prop) : Prop :=
  p.Ensures Watched (fun _ => True) s post

def Accounted (owned : String → Prop) (s : Engine × List (Event outside)) : Prop :=
  ∀ name, Created name s.2 → s.1.Has name → owned name ∨ LeftBehind name s.2

namespace Accounted

variable {owned owned' : String → Prop} {s t : Engine × List (Event outside)}

theorem mono (acc : Accounted owned s) (le : ∀ name, owned name → owned' name) :
    Accounted owned' s :=
  fun name created there => (acc name created there).imp_left (le name)

theorem drop {name : String} (acc : Accounted owned s) (gone : ¬s.1.Has name) :
    Accounted (fun n => owned n ∧ n ≠ name) s := by
  intro n created there
  refine (acc n created there).imp_left fun own => ⟨own, ?_⟩
  rintro rfl
  exact gone there

/-- One call adds at most the container that it creates. -/
theorem step {ev : Event outside} (call : Watched s ev t) (acc : Accounted owned s) :
    Accounted (fun name => owned name ∨ ev.Creates name) t := by
  intro name created there
  -- a container that was created earlier was there before the call
  by_cases now : ev.Creates name
  · exact .inl (.inr now)
  · have last : ¬Created name [ev] := by
      simpa [Created] using now
    rw [call.2, created_append] at created
    have before := (call.1.has there).resolve_right now
    rw [call.2]
    exact (acc name (created.resolve_right last) before).imp .inl fun left => left.append last

theorem keep {ev : Event outside} (call : Watched s ev t) (idle : ¬ev.call.IsCreate)
    (acc : Accounted owned s) : Accounted owned t := by
  refine (acc.step call).mono fun name own => own.resolve_right ?_
  rintro ⟨spec, id, -, rfl⟩
  exact idle trivial

theorem idle {α : Type} {p : Work α} (acc : Accounted owned s)
    (within : p.Idle) : p.Ends s fun _ t => Accounted owned t :=
  within.ensures acc fun _ _ _ aside call acc => ⟨trivial, acc.keep call aside⟩

end Accounted

/-! ## One container -/

namespace Container

variable {c : Container} {owned : String → Prop} {s t : Engine × List (Event outside)}

theorem spec_name {spec : ContainerSpec} (h : c.spec = .ok spec) : spec.name = c.name := by
  unfold Container.spec at h
  cases line : c.params.commandLine with
  | error e =>
    rw [line] at h
    cases h
  | ok arguments =>
    rw [line] at h
    cases h
    rfl

theorem idle_of_tends {call : Call} (h : c.Tends call) : ¬call.IsCreate := by
  cases h <;> exact id

theorem idle_of_filtering {call : Call} (h : c.Filtering call) : ¬call.IsCreate := by
  cases h <;> exact id

theorem connectAndStart_idle : c.connectAndStart.run.Idle :=
  Attempt.within_bind (Procedure.within_ask.2 id) fun _ =>
    Procedure.within_ask.2 id

theorem remove_idle : c.remove.Idle :=
  Attempt.within_changing _ _ (Within.map (Procedure.within_ask.2 id) _)

theorem perform_idle {op : Operation} (h : op ≠ .deploy) : (c.perform op).Idle := by
  by_cases tends : op ≠ .disconnect ∧ op ≠ .remove
  · exact (perform_tends ⟨h, tends⟩).mono fun _ => idle_of_tends
  · cases op with
    | deploy => exact absurd rfl h
    | disconnect =>
      exact Attempt.within_keeping _ (disconnect_filtering.mono fun _ => idle_of_filtering)
    | remove => exact remove_idle
    | stop timeout | kill | pause | resume | reconnect | restart | collectLogs =>
      exact absurd ⟨by simp, by simp⟩ tends

/-! ## Deploying -/

/-- A container of the name was created on the way, and may be owned. -/
structure Placed (name : String) (owned : String → Prop) (s t : Engine × List (Event outside)) :
    Prop where
  accounted : Accounted (fun n => owned n ∨ n = name) t
  grown : ∃ es, t.2 = s.2 ++ es ∧ Created name es

theorem Placed.keep {name : String} {ev : Event outside} {u : Engine × List (Event outside)}
    (placed : Placed name owned s t) (call : Watched t ev u) (idle : ¬ev.call.IsCreate) :
    Placed name owned s u := by
  obtain ⟨accounted, es, grown, created⟩ := placed
  refine ⟨accounted.keep call idle, es ++ [ev], ?_, created_append.2 (.inl created)⟩
  rw [call.2, grown, List.append_assoc]

theorem Placed.idle {α : Type} {p : Work α} {name : String} (placed : Placed name owned s t)
    (within : p.Idle) : p.Ends t fun _ u => Placed name owned s u :=
  within.ensures placed fun _ _ _ aside call placed => ⟨trivial, placed.keep call aside⟩

/-- What was created is not owned after a deployment that removed it or failed to. -/
theorem Placed.settle {es : List (Event outside)} {o : Outcome Container}
    (placed : Placed c.name owned s t) (grown : t.2 = s.2 ++ es) (leads : c.deploy.Leads es o)
    (kept : t.1.Has c.name → RemovalFailed c.name es) : Accounted owned t := by
  intro name created there
  rcases placed.accounted name created there with (own | rfl) | left
  · exact .inl own
  · obtain ⟨es', grown', new⟩ := placed.grown
    have same := List.append_cancel_left (grown'.symm.trans grown)
    rw [same] at new
    refine .inr ⟨c, s.2, es, [], o, ?_, rfl, leads, new, kept there, ?_⟩
    · rw [grown, List.append_nil]
    · simp [Created]
  · exact .inr left

theorem takeBack_settles (placed : Placed c.name owned s t) :
    c.takeBack.Ends t fun _ u => Placed c.name owned s u ∧
      (u.1.Has c.name → ∃ es, u.2 = s.2 ++ es ∧ RemovalFailed c.name es) := by
  unfold takeBack
  refine Procedure.ensures_bind.2 (Procedure.ensures_ask.2 fun a u call => ⟨trivial, ?_⟩)
  have placed_u : Placed c.name owned s u := placed.keep call id
  have removed : u.1.Has c.name → ∃ es, u.2 = s.2 ++ es ∧ RemovalFailed c.name es := by
    intro there
    obtain ⟨es, grown, -⟩ := placed.grown
    obtain ⟨err, rfl, present⟩ := call.1.remove.resolve_left (not_not_intro there)
    refine ⟨es ++ [⟨.engine (.remove c.name), .error err⟩], ?_, ?_⟩
    · rw [call.2, grown, List.append_assoc]
    · exact removalFailed_append.2 (.inr ⟨_, List.mem_singleton_self _, err, present, rfl⟩)
  cases a with
  | ok u => exact ⟨placed_u, removed⟩
  | error e => exact ⟨placed_u, removed⟩

theorem deploy_places_or_removes (acc : Accounted owned s) :
    c.deploy.Ends s fun o t => (o.1 ≠ .ok () ∧ Accounted owned t) ∨
      Placed c.name owned s t ∧ (o.1 = .ok () ∨
        (t.1.Has c.name → ∃ es, t.2 = s.2 ++ es ∧ RemovalFailed c.name es)) := by
  unfold deploy
  split
  · exact .inl ⟨by simp, acc⟩
  rename_i spec ready
  refine Procedure.ensures_bind.2 (Procedure.ensures_ask.2 fun a t call => ⟨trivial, ?_⟩)
  have added := acc.step call
  cases a with
  | error e =>
    -- a container of the name may be there, but not by this call
    refine .inl ⟨by simp, added.mono fun name own => own.resolve_right ?_⟩
    rintro ⟨_, _, -, h⟩
    cases h
  | ok identifier =>
    have placed : Placed c.name owned s t := by
      refine ⟨added.mono fun name => ?_, _, call.2, ?_⟩
      · rintro (own | ⟨_, _, rfl, h⟩)
        · exact .inl own
        · cases h
          exact .inr (spec_name ready)
      · exact ⟨_, List.mem_singleton_self _, spec, identifier, spec_name ready, rfl⟩
    refine Procedure.ensures_bind.2 ((placed.idle (release_within id)).mono fun _ u placed => ?_)
    refine Procedure.ensures_bind.2 ((placed.idle connectAndStart_idle).mono ?_)
    intro started v placed
    cases started with
    | ok _ => exact .inr ⟨placed, .inl rfl⟩
    | error e =>
      have settles := takeBack_settles (c := { c with deployed := true, guarded := true }) placed
      exact Procedure.ensures_bind.2 (settles.mono fun _ _ h => .inr ⟨h.1, .inr h.2⟩)

/-- A deployment that succeeds makes the node own its container. -/
theorem deploy_accounted (acc : Accounted owned s) :
    c.deploy.Ends s fun o t =>
      Accounted (fun name => owned name ∨ o.1 = .ok () ∧ name = c.name) t := by
  refine (deploy_places_or_removes acc).trace.mono ?_
  rintro o t ⟨⟨-, acc⟩ | ⟨placed, done⟩, es, grown, leads⟩
  · exact acc.mono fun _ => .inl
  · rcases done with ok | removed
    · refine placed.accounted.mono fun name own => own.imp_right fun same => ⟨ok, same⟩
    · refine (placed.settle grown leads fun there => ?_).mono fun _ => .inl
      obtain ⟨es', grown', failed⟩ := removed there
      rwa [List.append_cancel_left (grown.symm.trans grown')]

/-! ## Destroying -/

theorem remove_gone : c.remove.Ends s fun o t => o.1 = .ok () → ¬t.1.Has c.name := by
  refine Attempt.ensures_changing.2 (Procedure.ensures_map.2 (Procedure.ensures_ask.2 ?_))
  intro a t call
  refine ⟨trivial, ?_⟩
  rcases call.1.remove with gone | ⟨err, rfl, present⟩
  · cases a with
    | ok u => exact fun _ => gone
    | error e =>
      unfold forgiveMissing
      split <;> exact fun _ => gone
  · simp [forgiveMissing, present]

theorem remove_failed {es : List (Event outside)} {o : Outcome Container}
    (leads : c.remove.Leads es o) (failed : o.1 ≠ .ok ()) : RemovalFailed c.name es := by
  obtain ⟨fs, gs, r, rfl, asked, last⟩ := Procedure.leads_bind.1 leads
  obtain ⟨a, answered, rfl⟩ := Procedure.leads_map.1 asked
  refine removalFailed_append.2 (.inl ?_)
  rw [Procedure.leads_ask.1 answered]
  cases a with
  | ok u =>
    rw [(Procedure.leads_pure.1 last).2] at failed
    exact absurd rfl failed
  | error e =>
    refine ⟨_, List.mem_singleton_self _, e, ?_, rfl⟩
    cases missing : e.isMissing with
    | false => rfl
    | true =>
      simp only [forgiveMissing, missing, if_true] at last
      rw [(Procedure.leads_pure.1 last).2] at failed
      exact absurd rfl failed

theorem destroy_accounted (acc : Accounted owned s) :
    (Backend.destroy c).Ends s fun o t =>
      c.Same o.2 ∧ Accounted owned t ∧ (o.1 = .ok () → ¬t.1.Has c.name) := by
  refine Procedure.ensures_bind.2 ?_
  refine (acc.idle (@perform_idle c .kill (by simp))).leads.mono ?_
  rintro ⟨_, c'⟩ t ⟨acc, _, killed⟩
  refine Procedure.ensures_bind.2 ?_
  refine (acc.idle (@perform_idle c' .collectLogs (by simp))).leads.mono ?_
  rintro ⟨_, c''⟩ u ⟨acc, _, collected⟩
  have same := (perform_same killed).trans (perform_same collected)
  refine ((acc.idle remove_idle).and remove_gone).leads.mono ?_
  rintro o v ⟨⟨acc, gone⟩, _, removed⟩
  rw [← same.name]
  exact ⟨same.trans (@perform_same c'' _ o .remove removed), acc, gone⟩

theorem destroy_failed {es : List (Event outside)} {o : Outcome Container}
    (leads : (Backend.destroy c).Leads es o) (failed : o.1 ≠ .ok ()) : RemovalFailed c.name es := by
  obtain ⟨_, _, killed, rfl, kill, leads⟩ := Procedure.leads_bind.1 leads
  obtain ⟨_, _, collected, rfl, collect, removed⟩ := Procedure.leads_bind.1 leads
  have same := (perform_same kill).trans (perform_same collect)
  rw [← same.name]
  exact removalFailed_append.2 (.inr (removalFailed_append.2 (.inr (remove_failed removed failed))))

/-- Whatever is done to a node that owns its container, it still does. -/
theorem perform_accounted {op : Operation} (acc : Accounted owned s) (own : owned c.name) :
    (c.perform op).Ends s fun o t => c.Same o.2 ∧ Accounted owned t := by
  have kept : (c.perform op).Ends s fun _ t => Accounted owned t := by
    by_cases deploys : op = .deploy
    · rw [deploys]
      refine (deploy_accounted acc).mono fun o t acc => acc.mono fun name => ?_
      rintro (own' | ⟨-, rfl⟩)
      · exact own'
      · exact own
    · exact acc.idle (perform_idle deploys)
  exact kept.leads.mono fun o t h => ⟨perform_same h.2.choose_spec, h.1⟩

end Container

/-! ## As a backend of a universe -/

namespace Physical

/-- The backend is a container of the name. -/
def Contains (name : String) (b : Physical) : Prop :=
  ∃ c : Container, b = .container c ∧ c.name = name

theorem destroy_container (c : Container) : Backend.destroy (container c) =
    (fun o => (o.1, container o.2)) <$> Backend.destroy c := by
  have performs (op : Operation) (c : Container) : Backend.perform op (container c) =
      (fun o => (o.1, container o.2)) <$> Backend.perform op c := rfl
  simp [Backend.destroy, performs]

variable {name : String} {b : Physical} {owned : String → Prop}
  {s : Engine × List (Event outside)}

theorem deploy_accounted (is : b.Contains name) (acc : Accounted owned s) :
    (Backend.perform .deploy b).Ends s fun o t => o.2.Contains name ∧
      Accounted (fun n => owned n ∨ o.1 = .ok () ∧ n = name) t := by
  obtain ⟨c, rfl, rfl⟩ := is
  refine Procedure.ensures_map.2 ((Container.deploy_accounted acc).leads.mono ?_)
  rintro o t ⟨acc, _, leads⟩
  exact ⟨⟨o.2, rfl, (@Container.perform_same _ _ o .deploy leads).name⟩, acc⟩

theorem perform_accounted {op : Operation} (is : b.Contains name) (acc : Accounted owned s)
    (own : owned name) :
    (Backend.perform op b).Ends s fun o t => o.2.Contains name ∧ Accounted owned t := by
  obtain ⟨c, rfl, rfl⟩ := is
  refine Procedure.ensures_map.2 ((Container.perform_accounted acc own).mono ?_)
  rintro o t ⟨same, acc⟩
  exact ⟨⟨o.2, rfl, same.name⟩, acc⟩

theorem destroy_accounted (is : b.Contains name) (acc : Accounted owned s) :
    (Backend.destroy b).Ends s fun o t =>
      o.2.Contains name ∧ Accounted owned t ∧ (o.1 = .ok () → ¬t.1.Has name) := by
  obtain ⟨c, rfl, rfl⟩ := is
  rw [destroy_container]
  refine Procedure.ensures_map.2 ((Container.destroy_accounted acc).mono ?_)
  rintro o t ⟨same, acc, gone⟩
  exact ⟨⟨o.2, rfl, same.name⟩, acc, gone⟩

theorem destroy_failed {es : List (Event outside)} {o : Outcome Physical} (is : b.Contains name)
    (leads : (Backend.destroy b).Leads es o) (failed : o.1 ≠ .ok ()) : RemovalFailed name es := by
  obtain ⟨c, rfl, rfl⟩ := is
  rw [destroy_container] at leads
  obtain ⟨o', destroyed, rfl⟩ := Procedure.leads_map.1 leads
  exact Container.destroy_failed destroyed failed

end Physical

end Testbed
