import Mathlib.Data.List.TakeWhile
import Testbed.Proofs.Cluster.Deployment
import Testbed.Proofs.Procedure.Conduct
/-!
# What becomes of nodes

Every node that is deployed comes to a fate: it cannot be prepared, it does not come up, or it does
(`Fate`). Fates are told from answers: as long as all calls are answered as they may be, a node comes
to its fate however it is deployed (`Meets`). Peers that answer every call always alike bring
stand-ins to a fate (`StandIn.meets_fate`).
-/

namespace Testbed

open Procedure (Leads)

/-- What becomes of a node that is deployed. -/
inductive Fate (β : Type) where
  | unprepared (e : Error)
  /-- The node is prepared, but its deployment fails or its worker dies. -/
  | down
  | up (n : Node β)

namespace Fate

variable {β : Type}

def unprepared? : Fate β → Option Error
  | .unprepared e => some e
  | .down | .up _ => none

def member? : Fate β → Option (Node β)
  | .up n => some n
  | .unprepared _ | .down => none

theorem unprepared?_eq_none {f : Fate β} {n : Node β} (up : f.member? = some n) :
    f.unprepared? = none := by
  cases f with
  | up n => rfl
  | unprepared e | down => cases up

end Fate

/-- The failure that a result is. -/
def failure? {α : Type} : Except Error α → Option Error
  | .ok _ => none
  | .error e => some e

namespace Cluster

/-! ## Nodes in their order -/

section

variable {β : Type} {fate : NodeParams → Fate β} {nodes : List NodeParams}

/-- The nodes that come up before the first that does not. -/
def untilDown (fate : NodeParams → Fate β) (nodes : List NodeParams) : List NodeParams :=
  nodes.takeWhile fun node => (fate node).member?.isSome

theorem untilDown_sublist : (untilDown fate nodes).Sublist nodes :=
  List.takeWhile_sublist _

theorem untilDown_of_up (up : ∀ node ∈ nodes, (fate node).member?.isSome) :
    untilDown fate nodes = nodes :=
  List.takeWhile_eq_self_iff.2 up

/-- The nodes before the first that cannot be prepared. -/
def untilUnprepared (fate : NodeParams → Fate β) (nodes : List NodeParams) : List NodeParams :=
  nodes.takeWhile fun node => (fate node).unprepared?.isNone

/-- The failure of the first node that cannot be prepared. -/
def firstUnprepared? (fate : NodeParams → Fate β) (nodes : List NodeParams) : Option Error :=
  nodes.findSome? fun node => (fate node).unprepared?

theorem untilUnprepared_sublist : (untilUnprepared fate nodes).Sublist nodes :=
  List.takeWhile_sublist _

theorem firstUnprepared?_eq_none (h : firstUnprepared? fate nodes = none) :
    untilUnprepared fate nodes = nodes := by
  refine List.takeWhile_eq_self_iff.2 fun node mem => ?_
  simpa using List.findSome?_eq_none_iff.1 h node mem

/-- Where every node comes up, all can be prepared. -/
theorem firstUnprepared?_of_up (up : ∀ node ∈ nodes, (fate node).member?.isSome) :
    firstUnprepared? fate nodes = none := by
  refine List.findSome?_eq_none_iff.2 fun node mem => ?_
  obtain ⟨n, hn⟩ := Option.isSome_iff_exists.1 (up node mem)
  exact Fate.unprepared?_eq_none hn

/-- In turn, no more nodes are tried than at once. -/
theorem untilDown_subset : untilDown fate nodes ⊆ untilUnprepared fate nodes := by
  induction nodes with
  | nil => exact List.Subset.refl _
  | cons node rest ih =>
    unfold untilDown untilUnprepared at ih ⊢
    cases up : (fate node).member? with
    | none => simp [up]
    | some n =>
      simp only [List.takeWhile_cons, up, Option.isSome_some, if_true, Fate.unprepared?_eq_none up,
        Option.isNone_none]
      exact List.cons_subset_cons node ih

end

/-! ## One node -/

variable {β : Type} [Backend β]

/-- The cluster, as it would be deployed by another strategy. -/
def under (c : Cluster β) (strategy : Strategy) : Cluster β :=
  { c with setting := { c.setting with factory := { c.setting.factory with strategy := strategy } } }

/-- As long as all calls are answered as they may be, a node comes to its fate. -/
structure Meets (c : Cluster β) (allowed : Event outside → Prop) (node : NodeParams) (f : Fate β) :
    Prop where
  prepared : ∀ es r, (c.prepare node).run.Leads es r → (∀ ev ∈ es, allowed ev) →
    failure? r = f.unprepared?
  deployed : ∀ es r, (c.deployment node).Leads es r → (∀ ev ∈ es, allowed ev) →
    r.bind Except.toOption = f.member?

/-! ## Peers that always answer alike -/

variable {answers : (call : Call) → call.Answer} {c : Cluster β} {node : NodeParams}
  {es : List (Event outside)}

omit [Backend β] in
theorem ask_alike {call : Call} {a : call.Answer}
    (h : (Procedure.ask (I := outside) call).Leads es a)
    (alike : ∀ ev ∈ es, ev.answer = answers ev.call) : a = answers call := by
  obtain rfl := Procedure.leads_ask.1 h
  exact alike ⟨call, a⟩ (List.mem_singleton_self _)

/-- The node as it is when it is prepared. -/
def ready (c : Cluster β) (answers : (call : Call) → call.Answer) (node : NodeParams) :
    Except Error (Node β) := do
  (answers (.file (.createDir (c.logDir node)))).mapError Error.file
  let endpoint ← c.setting.factory.endpoint node
  let backend ← c.setting.factory.backend node (c.logDir node)
  return ⟨node, endpoint, backend⟩

omit [Backend β] in
theorem prepare_ready {r : Except Error (Node β)} (h : (c.prepare node).run.Leads es r)
    (alike : ∀ ev ∈ es, ev.answer = answers ev.call) : r = c.ready answers node := by
  have made : ∀ fs (u : Except Error Unit), (askFiles (.createDir (c.logDir node))).run.Leads fs u →
      (∀ ev ∈ fs, ev.answer = answers ev.call) →
      u = (answers (.file (.createDir (c.logDir node)))).mapError Error.file := by
    intro fs u asked alike
    obtain ⟨a, called, rfl⟩ := Procedure.leads_map.1 asked
    rw [← ask_alike called alike]
  have given : ∀ {α : Type} (x : Except Error α) fs u, (Attempt.ofExcept x).run.Leads fs u →
      u = x := fun x fs u h => (Procedure.leads_pure.1 h).2
  unfold ready
  obtain ⟨fs, gs, u, rfl, created, h⟩ | ⟨e, created, rfl⟩ := Attempt.leads_bind.1 h
  swap
  · rw [← made _ _ created alike]
    rfl
  rw [← made fs _ created fun ev mem => alike ev (List.mem_append_left _ mem)]
  obtain ⟨_, _, endpoint, rfl, named, h⟩ | ⟨e, named, rfl⟩ := Attempt.leads_bind.1 h
  swap
  · rw [← given _ _ _ named]
    rfl
  rw [← given _ _ _ named]
  obtain ⟨_, _, backend, rfl, placed, h⟩ | ⟨e, placed, rfl⟩ := Attempt.leads_bind.1 h
  swap
  · rw [← given _ _ _ placed]
    rfl
  rw [← given _ _ _ placed, (Procedure.leads_pure.1 h).2]
  rfl

end Cluster

namespace StandIn

variable {answers : (call : Call) → call.Answer} {n : Node StandIn} {es : List (Event outside)}

/-- A stand-in that was made, once it was deployed. -/
def deployed? (answers : (call : Call) → call.Answer) (n : Node StandIn) : Option (Node StandIn) :=
  match answers (.act n.backend.name Operation.deploy.name) with
  | some (.ok ()) => some { n with backend := n.backend.after .deploy }
  | _ => none

/-- What becomes of a stand-in. -/
def fate (c : Cluster StandIn) (answers : (call : Call) → call.Answer) (node : NodeParams) :
    Fate StandIn :=
  match c.ready answers node with
  | .error e => .unprepared e
  | .ok n => (deployed? answers n).elim .down .up

theorem settle_deployed {o : Outcome StandIn} {r : Except Error (Node StandIn)}
    (h : (n.settle o).Leads es r) :
    r.toOption = o.1.toOption.map fun _ => { n with backend := o.2 } := by
  obtain ⟨x, s⟩ := o
  cases x with
  | ok u => rw [(Procedure.leads_pure.1 h).2]; rfl
  | error e =>
    obtain ⟨_, _, u, -, -, h⟩ := Procedure.leads_bind.1 h
    rw [(Procedure.leads_pure.1 h).2]
    rfl

theorem handOver_deployed {o : Option (Outcome StandIn)}
    (h : (n.backend.handOver .deploy).Leads es o) (alike : ∀ ev ∈ es, ev.answer = answers ev.call) :
    (o.bind fun o => o.1.toOption.map fun _ => { n with backend := o.2 }) = deployed? answers n := by
  obtain ⟨fs, gs, a, rfl, asked, h⟩ := Procedure.leads_bind.1 h
  obtain ⟨rfl, rfl⟩ := Procedure.leads_pure.1 h
  unfold deployed?
  rw [← Cluster.ask_alike asked fun ev mem => alike ev (List.mem_append_left _ mem)]
  rcases a with _ | (e | _) <;> rfl

theorem deployNode_deployed {c : Cluster StandIn} {node : NodeParams}
    {r : Except Error (Node StandIn)} (h : (c.deployNode node).Leads es r)
    (alike : ∀ ev ∈ es, ev.answer = answers ev.call) :
    r.toOption = (c.ready answers node).toOption.bind (deployed? answers) := by
  obtain ⟨fs, gs, prepared, rfl, prepare, h⟩ := Procedure.leads_bind.1 h
  rw [← Cluster.prepare_ready prepare fun ev mem => alike ev (List.mem_append_left _ mem)]
  cases prepared with
  | error e =>
    rw [(Procedure.leads_pure.1 h).2]
    rfl
  | ok n =>
    obtain ⟨gs, hs, o, rfl, performed, settled⟩ := Procedure.leads_bind.1 h
    obtain ⟨gs, _, handed, rfl, handOver, last⟩ := Procedure.leads_bind.1 performed
    have came := handOver_deployed handOver fun ev mem => alike ev (by simp [mem])
    rw [settle_deployed settled, (Procedure.leads_pure.1 last).2]
    refine Eq.trans ?_ came
    cases handed <;> rfl

theorem deployOnWorker_deployed {r : Option (Except Error (Node StandIn))}
    (h : n.deployOnWorker.Leads es r) (alike : ∀ ev ∈ es, ev.answer = answers ev.call) :
    r.bind Except.toOption = deployed? answers n := by
  obtain ⟨fs, gs, handed, rfl, handOver, h⟩ := Procedure.leads_bind.1 h
  rw [← handOver_deployed handOver fun ev mem => alike ev (List.mem_append_left _ mem)]
  cases handed with
  | none =>
    rw [(Procedure.leads_pure.1 h).2]
    rfl
  | some o =>
    obtain ⟨_, _, settled, rfl, settle, last⟩ := Procedure.leads_bind.1 h
    rw [(Procedure.leads_pure.1 last).2]
    exact settle_deployed settle

/-- Stand-ins come to whatever fates they are given. -/
theorem meets_fate (c : Cluster StandIn) (answers : (call : Call) → call.Answer)
    (node : NodeParams) :
    c.Meets (fun ev => ev.answer = answers ev.call) node (fate c answers node) := by
  have member : (fate c answers node).member? =
      (c.ready answers node).toOption.bind (deployed? answers) := by
    unfold fate
    cases c.ready answers node with
    | error e => rfl
    | ok n =>
      dsimp only [Except.toOption, Option.bind]
      cases deployed? answers n <;> rfl
  refine ⟨fun es r prepared alike => ?_, fun es r deployed alike => ?_⟩
  · rw [Cluster.prepare_ready prepared alike]
    unfold fate
    cases c.ready answers node with
    | error e => rfl
    | ok n =>
      dsimp only
      cases deployed? answers n <;> rfl
  · rw [member]
    unfold Cluster.deployment at deployed
    split at deployed
    · obtain ⟨r, inTurn, rfl⟩ := Procedure.leads_map.1 deployed
      exact deployNode_deployed inTurn alike
    · obtain ⟨fs, gs, prepared, rfl, prepare, h⟩ := Procedure.leads_bind.1 deployed
      rw [← Cluster.prepare_ready prepare fun ev mem => alike ev (List.mem_append_left _ mem)]
      cases prepared with
      | error e =>
        rw [(Procedure.leads_pure.1 h).2]
        rfl
      | ok n => exact deployOnWorker_deployed h fun ev mem => alike ev (List.mem_append_right _ mem)

end StandIn

/-- Peers that answer every call always alike, each after a time of its own. -/
def steadyPeers (answers : (call : Call) → call.Answer) (delay : Call → Duration) :
    Peers outside Unit :=
  ⟨fun _ _ call => ((answers call, delay call), ())⟩

theorem steadyPeers_alike {α : Type} {answers : (call : Call) → call.Answer}
    {delay : Call → Duration} {p : Work α} {m : Moment Unit} :
    ∀ ev ∈ p.trace (steadyPeers answers delay) m, ev.answer = answers ev.call := by
  unfold Procedure.trace
  induction p generalizing m with
  | done a => simp [Procedure.history]
  | call c next ih =>
    intro ev mem
    rcases List.mem_cons.1 mem with rfl | mem
    · rfl
    · exact ih _ _ ev mem
  | pause d p ih => exact ih
  | clock next ih => exact ih _

/-- The conduct of peers that answer every call always alike. -/
def Steady (answers : (call : Call) → call.Answer) : Conduct outside Unit :=
  fun _ ev _ => ev.answer = answers ev.call

theorem ensures_steady_ask {answers : (call : Call) → call.Answer} {call : Call}
    {post : call.Answer → Unit → Prop} (answered : post (answers call) ()) :
    (Procedure.ask (I := outside) call).Ensures (Steady answers) (fun _ => True) () post := by
  refine Procedure.ensures_ask.2 fun a _ same => ⟨trivial, ?_⟩
  obtain rfl : a = answers call := same
  exact answered

theorem path_steady {answers : (call : Call) → call.Answer} {es : List (Event outside)}
    (alike : ∀ ev ∈ es, ev.answer = answers ev.call) : (Steady answers).Path () es () := by
  induction es with
  | nil => exact .nil
  | cons ev es ih =>
    exact .cons (alike ev List.mem_cons_self) (ih fun f mem => alike f (List.mem_cons_of_mem _ mem))

end Testbed
