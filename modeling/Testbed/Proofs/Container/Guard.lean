import Testbed.Client
import Testbed.Lab.World
import Testbed.Proofs.Container.Atomicity
import Testbed.Proofs.Container.Ownership
/-!
# Which containers are guarded

What is done to a container is taken down as `Stint`s, whoever answers and whatever happens to the
container in between. The container is guarded exactly if the last deployment that created it did
not take it away again and no removal succeeded since (`Owed`). Each stint settles that anew or
leaves it alone (`action_guarded`), so it holds after all of them. Giving up the backend then kills
the container once, and otherwise asks for nothing.
-/

namespace Testbed

open Lab (Engine World)

namespace Client.Engine

/-- Whatever is sent to the engine is one request. -/
theorem send_leads {method path : String} {query headers : List (String × String)}
    {body : Option Json} {es : List (Event wire)} {r : Except Error Http.Response}
    (leads : (send method path query headers body).run.Leads es r) :
    ∃ a, es = [⟨.engine ⟨method, address path query, headers, body⟩, a⟩] := by
  unfold send at leads
  rw [ExceptT.run_bind] at leads
  obtain ⟨fs, gs, r, rfl, asked, rest⟩ := Procedure.leads_bind.1 leads
  obtain ⟨a, answered, rfl⟩ := Procedure.leads_map.1 asked
  obtain rfl := Procedure.leads_ask.1 answered
  refine ⟨a, ?_⟩
  cases a with
  | error reason =>
    obtain ⟨rfl, -⟩ := Procedure.leads_pure.1 rest
    rfl
  | ok response =>
    dsimp only at rest
    split at rest <;>
    · obtain ⟨rfl, -⟩ := Procedure.leads_pure.1 rest
      rfl

end Client.Engine

namespace Container

/-- An action on a container, what was called for it and what came of it. -/
structure Stint where
  action : Backend.Action
  events : List (Event outside)
  result : Except Error Unit

namespace Stint

/-- A deployment whose container was created. -/
def Creates (name : String) (s : Stint) : Prop :=
  s.action = .perform .deploy ∧ Created name s.events

/-- The container was taken away on the way. -/
def TakesBack (name : String) (s : Stint) : Prop :=
  ⟨.engine (.remove name), .ok ()⟩ ∈ s.events

/-- A removal, by itself or at the end of a destruction, that succeeded. -/
def Removes (s : Stint) : Prop :=
  (s.action = .perform .remove ∨ s.action = .destroy) ∧ s.result = .ok ()

end Stint

/-- Somebody still has to take the container away: the last deployment that created it did not, and
no removal succeeded since. -/
def Owed (name : String) (stints : List Stint) : Prop :=
  ∃ before s after, stints = before ++ s :: after ∧ s.Creates name ∧ ¬s.TakesBack name ∧
    ∀ later ∈ after, ¬later.Creates name ∧ ¬later.Removes

section

variable {name : String} {s : Stint} {stints : List Stint}

theorem not_owed_nil : ¬Owed name [] := by
  rintro ⟨before, s, after, split, -⟩
  simp at split

theorem owed_cons : Owed name (s :: stints) ↔ Owed name stints ∨
    s.Creates name ∧ ¬s.TakesBack name ∧
      ∀ later ∈ stints, ¬later.Creates name ∧ ¬later.Removes := by
  constructor
  · rintro ⟨before, t, after, split, created⟩
    cases before with
    | nil =>
      obtain ⟨rfl, rfl⟩ := List.cons.inj split
      exact .inr created
    | cons first before =>
      obtain ⟨rfl, rfl⟩ := List.cons.inj split
      exact .inl ⟨before, t, after, rfl, created⟩
  · rintro (⟨before, t, after, rfl, created⟩ | created)
    · exact ⟨s :: before, t, after, rfl, created⟩
    · exact ⟨[], s, stints, rfl, created⟩

end

variable {c : Container} {es : List (Event outside)} {o : Outcome Container}

/-! ## One action -/

/-- What was called to take the container away is what the guard depends on. -/
theorem takenBack_guarded {removed : Except Error Unit} (before : List (Event outside))
    (kept : ⟨.engine (.remove c.name), .ok ()⟩ ∉ before) :
    (c.takenBack removed).guarded = true ↔
      ⟨.engine (.remove c.name), .ok ()⟩ ∉ before ++ [⟨.engine (.remove c.name), removed⟩] := by
  have last : ((⟨.engine (.remove c.name), .ok ()⟩ : Event outside) =
      ⟨.engine (.remove c.name), removed⟩) ↔ removed = .ok () := by
    constructor
    · intro same
      cases same
      rfl
    · rintro rfl
      rfl
  rw [List.mem_append, List.mem_singleton, last, takenBack]
  cases removed <;> simp [kept, Except.isOk, Except.toBool]

/-- A deployment that creates the container guards it unless it takes it away again; any other one
leaves the backend as it was. -/
theorem Deploys.guarded (course : c.Deploys es o) :
    Created c.name es ∧ (o.2.guarded = true ↔ ⟨.engine (.remove c.name), .ok ()⟩ ∉ es) ∨
      ¬Created c.name es ∧ o.2 = c := by
  have givenUp_spares : ⟨.engine (.remove c.name), .ok ()⟩ ∉ c.givenUp := by
    unfold givenUp
    split <;> simp
  cases course with
  | unfit => exact .inr ⟨by simp [Created], rfl⟩
  | uncreated => exact .inr ⟨by simp [Created, Event.Creates], rfl⟩
  | @unconnected spec id err removed fit =>
    refine .inl ⟨⟨_, List.mem_cons_self, spec, id, spec_name fit, rfl⟩, ?_⟩
    rw [takenBack_guarded (⟨.engine (.create spec), .ok id⟩ :: c.givenUp ++
      [⟨.engine (.connect c.name c.network), .error err⟩]) (by simp [givenUp_spares])]
    simp only [List.append_assoc, List.cons_append, List.nil_append]
  | @unstarted spec id err removed fit =>
    refine .inl ⟨⟨_, List.mem_cons_self, spec, id, spec_name fit, rfl⟩, ?_⟩
    rw [takenBack_guarded (⟨.engine (.create spec), .ok id⟩ :: c.givenUp ++
      [⟨.engine (.connect c.name c.network), .ok ()⟩, ⟨.engine (.start c.name), .error err⟩])
      (by simp [givenUp_spares])]
    simp only [List.append_assoc, List.cons_append, List.nil_append]
  | @started spec id fit =>
    refine .inl ⟨⟨_, List.mem_cons_self, spec, id, spec_name fit, rfl⟩, ?_⟩
    simp [givenUp_spares]

/-- A stint that creates the container settles anew whether it is guarded, and one that removes it
ends that. All others leave it alone. -/
theorem action_guarded {action : Backend.Action} (leads : (action.apply c).Leads es o) :
    let s : Stint := ⟨action, es, o.1⟩
    o.2.guarded = true ↔ s.Creates c.name ∧ ¬s.TakesBack c.name ∨
      c.guarded = true ∧ ¬s.Creates c.name ∧ ¬s.Removes := by
  intro s
  rcases action_cases leads with
    ⟨deploys, course⟩ | ⟨removal, removed⟩ | ⟨other, no_removal, same⟩
  · have stays : ¬s.Removes := by simp [s, Stint.Removes, deploys]
    rcases course.guarded with ⟨created, guarded⟩ | ⟨uncreated, same⟩
    · have creates : s.Creates c.name := ⟨deploys, created⟩
      simp only [creates, true_and, not_true, false_and, and_false, or_false]
      exact guarded
    · have creates_not : ¬s.Creates c.name := fun creates => uncreated creates.2
      simp only [creates_not, stays, same, false_and, false_or, not_false_eq_true, and_true]
  · have creates_not : ¬s.Creates c.name := by
      rcases removal with rfl | rfl <;> simp [s, Stint.Creates]
    have removes : s.Removes ↔ o.1 = .ok () := and_iff_right removal
    rcases removed with rfl | ⟨err, rfl⟩ <;> simp [creates_not, removes]
  · have creates_not : ¬s.Creates c.name := fun creates => other creates.1
    have stays : ¬s.Removes := fun removes => no_removal removes.1
    simp [creates_not, stays, same]

/-! ## All actions -/

variable {σ : Type} {peers : Peers outside σ}

/-- What is done to a container by actions one after the other. -/
def stints (peers : Peers outside σ) : List Backend.Action → Container → Moment σ → List Stint
  | [], _, _ => []
  | action :: actions, c, m =>
    let r := (action.apply c).run peers m
    ⟨action, (action.apply c).trace peers m, r.1.1⟩ :: stints peers actions r.1.2 r.2

/-- The guard after all actions, whatever it was before. -/
theorem actions_guarded (peers : Peers outside σ) (actions : List Backend.Action) (c : Container)
    (m : Moment σ) :
    let last := ((inTurn (actions.map Backend.Action.apply) c).run peers m).1
    let all := stints peers actions c m
    c.Same last ∧ (last.guarded = true ↔ Owed c.name all ∨
      c.guarded = true ∧ ∀ s ∈ all, ¬s.Creates c.name ∧ ¬s.Removes) := by
  induction actions generalizing c m with
  | nil => exact ⟨.refl c, by simp [inTurn, stints, not_owed_nil]; rfl⟩
  | cons action actions ih =>
    have leads := Procedure.leads_run peers (action.apply c) m
    have same := action_same leads
    have first := action_guarded leads
    dsimp only at first
    rw [List.map_cons, inTurn, Procedure.run_bind, stints]
    obtain ⟨later_same, later⟩ :=
      ih ((action.apply c).run peers m).1.2 ((action.apply c).run peers m).2
    refine ⟨same.trans later_same, later.trans ?_⟩
    rw [same.name, owed_cons, first, List.forall_mem_cons]
    constructor
    · rintro (owed | ⟨⟨creates, kept⟩ | ⟨guarded, left⟩, rest⟩)
      · exact .inl (.inl owed)
      · exact .inl (.inr ⟨creates, kept, rest⟩)
      · exact .inr ⟨guarded, left, rest⟩
    · rintro ((owed | ⟨creates, kept, rest⟩) | ⟨guarded, left, rest⟩)
      · exact .inl owed
      · exact .inr ⟨.inl ⟨creates, kept⟩, rest⟩
      · exact .inr ⟨.inr ⟨guarded, left⟩, rest⟩

/-! ## Giving the backend up -/

/-- The request over the wire that kills a container. -/
def killRequest (name : String) : WireCall :=
  .engine ⟨"POST", Client.Engine.address ("/containers/" ++ name ++ "/kill")
    [("signal", "SIGKILL")], [], none⟩

theorem release_unguarded (unguarded : c.guarded = false) : Backend.release c = pure () :=
  if_neg (by simp [unguarded])

theorem release_guarded (guarded : c.guarded = true) :
    Backend.release c = .ask (I := outside) (.abandon c.name) :=
  if_pos guarded

/-- A guarded container is killed once the world has settled. -/
theorem release_settles (guarded : c.guarded = true) (clock : Duration) (w : World) :
    ((Backend.release c).run World.peers ⟨clock, w⟩).2.state.settle.engine =
      (w.settle.engine.answer (.kill c.name)).2 := by
  have left : ((Backend.release c).run World.peers ⟨clock, w⟩).2.state =
      { w with abandoned := w.abandoned ++ [c.name] } := by
    rw [release_guarded guarded]
    rfl
  rw [left, World.settle, List.foldl_append]
  rfl

/-- To a guarded container exactly one request goes over the wire, which kills it. -/
theorem release_sends {τ : Type} (guarded : c.guarded = true) (sockets : Peers wire τ)
    (m : Moment τ) :
    ((Connection.engine.carry (Backend.release c)).trace sockets m).map Event.call =
      [killRequest c.name] := by
  have leads := Procedure.leads_run sockets (Connection.engine.carry (Backend.release c)) m
  rw [release_guarded guarded] at leads ⊢
  have abandoned := Procedure.leads_through_ask leads
  obtain ⟨_, killed, -⟩ := Procedure.leads_map.1 abandoned
  change ((fun _ => ()) <$> Client.Engine.send "POST" _ _ _ _).run.Leads _ _ at killed
  rw [ExceptT.run_map] at killed
  obtain ⟨_, sent, -⟩ := Procedure.leads_map.1 killed
  obtain ⟨a, request⟩ := Client.Engine.send_leads sent
  rw [request]
  rfl

/-- The container of a backend is guarded exactly if it is still owed that somebody takes it away.
Giving the backend up then kills the container, once, and otherwise asks for nothing. -/
theorem guarded_iff_owed (peers : Peers outside σ) (params : NodeParams) (service : ServiceParams)
    (network logDir : String) (actions : List Backend.Action) (m : Moment σ) :
    let c := ofNode params service network logDir
    let all := stints peers actions c m
    let last := ((inTurn (actions.map Backend.Action.apply) c).run peers m).1
    (last.guarded = true ↔ Owed c.name all) ∧
      (Owed c.name all →
        (∀ (τ : Type) (sockets : Peers wire τ) (n : Moment τ),
          ((Connection.engine.carry (Backend.release last)).trace sockets n).map Event.call =
            [killRequest c.name]) ∧
        ∀ (clock : Duration) (w : World),
          ((Backend.release last).run World.peers ⟨clock, w⟩).2.state.settle.engine =
            (w.settle.engine.answer (.kill c.name)).2) ∧
      (¬Owed c.name all →
        (∀ (τ : Type) (sockets : Peers wire τ) (n : Moment τ),
          (Connection.engine.carry (Backend.release last)).trace sockets n = []) ∧
        ∀ (clock : Duration) (w : World),
          ((Backend.release last).run World.peers ⟨clock, w⟩).2.state = w) := by
  intro c all last
  obtain ⟨same, guarded⟩ := actions_guarded peers actions c m
  have armed : last.guarded = true ↔ Owed c.name all := by
    have unguarded : c.guarded = false := rfl
    simpa [unguarded] using guarded
  have own_name : last.name = c.name := same.name
  refine ⟨armed, fun owed => ?_, fun settled => ?_⟩
  · rw [← own_name]
    exact ⟨fun _ => release_sends (armed.2 owed), release_settles (armed.2 owed)⟩
  · have unguarded : last.guarded = false := by
      rw [← Bool.not_eq_true, armed]
      exact settled
    rw [release_unguarded unguarded]
    exact ⟨fun _ _ _ => rfl, fun _ _ => rfl⟩

/-- A container that neither started nor could be removed is guarded until a destruction removes
it. -/
theorem guarded_iff_owed_lost :
    let c := ofNode (.ofPort 9000) .default "universe-net" "/logs"
    let m : Moment (Engine × List Bool) :=
      ⟨.zero, Engine.empty Engine.defaultInfo [], [false, true, true]⟩
    Owed c.name (stints lossy [.perform .deploy] c m) ∧
      ¬Owed c.name (stints lossy [.perform .deploy, .destroy] c m) := by
  intro c m
  constructor
  · obtain ⟨armed, -⟩ := guarded_iff_owed lossy (.ofPort 9000) .default "universe-net" "/logs"
      [.perform .deploy] m
    exact armed.1 (by decide +kernel)
  · obtain ⟨armed, -⟩ := guarded_iff_owed lossy (.ofPort 9000) .default "universe-net" "/logs"
      [.perform .deploy, .destroy] m
    intro owed
    exact absurd (armed.2 owed) (by decide +kernel)

end Container

end Testbed
