import Mathlib.Data.List.Nodup
import Testbed.Proofs.Cluster.Concurrency
/-!
# Members and configured nodes of a shared cluster

However many tasks share a cluster, and however what they do falls between each other, members are
configured nodes under names of their own, and the configured nodes have distinct endpoints and only
ever become more. An addition that fails changes nothing. One that succeeds appends its node, makes
it a member and does nothing else to the cluster. Additions take turns: none does anything outside
between the first and the last thing that another does there (`Run.membership`).
-/

namespace Testbed

variable {β : Type}

namespace Move

/-- The cluster is left as it was. -/
def Idle (m : Move β) : Prop := m.after.cluster = m.before.cluster

/-- The node is appended to those that are configured, and nothing else is done to the cluster. -/
def Appends (node : NodeParams) (m : Move β) : Prop :=
  m.after.cluster = { m.before.cluster with
    params := { m.before.cluster.params with nodes := m.before.cluster.params.nodes ++ [node] } }

/-- The node becomes a member under a free name, and nothing else is done to the cluster. -/
def Admits (node : NodeParams) (m : Move β) : Prop :=
  ∃ n : Node β, n.params = node ∧ m.before.cluster.members.find? node.name = none ∧
    m.after.cluster =
      { m.before.cluster with members := m.before.cluster.members.insert node.name n }

/-- A call to the outside. -/
def isOutside (m : Move β) : Bool :=
  match m.event.call with
  | .outside _ => true
  | .access _ => false

end Move

/-- The moves of one task. -/
def movesOf (i : Nat) (ms : List (Move β)) : List (Move β) := ms.filter (·.task = i)

/-- A node was added by two of these moves, and all others left the cluster as it was. -/
def Accepts (node : NodeParams) (ms : List (Move β)) : Prop :=
  ∃ before m m' after, ms = before ++ m :: m' :: after ∧
    (∀ k ∈ before ++ after, k.Idle) ∧ m.Appends node ∧ m'.Admits node

def Cluster.Act.adds : Cluster.Act → Bool
  | .add _ => true
  | .deploy | .bootstrap | .onNode _ _ | .stop _ | .kill | .destroy => false

/-- What additions did outside. -/
def labour (acts : Nat → Cluster.Act) (ms : List (Move β)) : List (Move β) :=
  ms.filter fun m => (acts m.task).adds && m.isOutside

namespace Steps

variable {admitted : List NodeParams} {i : Nat} {s t : Shared β} {e : Event (sharing β)}
  {stands u : Standing}

theorem subject (step : Steps admitted i stands s e u t) : u.subject? = stands.subject? := by
  cases step <;> rfl

theorem grows (step : Steps admitted i stands s e u t) :
    s.cluster.params.nodes <+: t.cluster.params.nodes := by
  cases step with
  | visit params _ _ _ =>
    rewrite [params]
    exact List.prefix_rfl
  | write _ added =>
    rw [(ClusterParams.addNode_eq_ok.1 added).2]
    exact List.prefix_append _ _
  | _ => exact List.prefix_rfl

/-- A task that is over takes no step. -/
theorem unfinished (step : Steps admitted i stands s e u t) (node : NodeParams) (accepted : Bool) :
    stands ≠ .ended node accepted := by
  rintro rfl
  cases step with
  | work held works => exact works

end Steps

/-- What the moves of an addition did that stands there. -/
def Standing.Tells (ms : List (Move β)) : Standing → Prop
  | .waiting _ => ms = []
  | .holding _ _ | .ended _ false => ∀ m ∈ ms, m.Idle
  | .written node _ => ∃ before m, ms = before ++ [m] ∧ (∀ k ∈ before, k.Idle) ∧ m.Appends node
  | .registered node | .ended node true => Accepts node ms
  | .visiting _ | .astray => True

theorem Cluster.Act.subject?_standing (act : Cluster.Act) :
    act.standing.subject?.isSome = act.adds := by
  cases act <;> rfl

theorem movesOf_append {i : Nat} {ms : List (Move β)} {m : Move β} :
    movesOf i (ms ++ [m]) = movesOf i ms ++ if m.task = i then [m] else [] := by
  unfold movesOf
  rw [List.filter_append]
  by_cases same : m.task = i <;> simp [same]

theorem labour_append {acts : Nat → Cluster.Act} {ms : List (Move β)} {m : Move β} :
    labour acts (ms ++ [m]) =
      labour acts ms ++ if (acts m.task).adds && m.isOutside then [m] else [] := by
  unfold labour
  rw [List.filter_append]
  by_cases counts : ((acts m.task).adds && m.isOutside) = true <;> simp [counts]

theorem labour_append_of_not {acts : Nat → Cluster.Act} {ms : List (Move β)} {m : Move β}
    (not : ((acts m.task).adds && m.isOutside) = false) :
    labour acts (ms ++ [m]) = labour acts ms := by
  rw [labour_append, not]
  exact List.append_nil _

theorem movesOf_labour_eq_nil {acts : Nat → Cluster.Act} {ms : List (Move β)} {i : Nat}
    (none : movesOf i ms = []) : movesOf i (labour acts ms) = [] := by
  unfold movesOf at *
  rw [List.filter_eq_nil_iff] at none ⊢
  exact fun m mem => none m (List.mem_of_mem_filter mem)

theorem Accepts.append {node : NodeParams} {ms : List (Move β)} {m : Move β}
    (accepts : Accepts node ms) (idle : m.Idle) : Accepts node (ms ++ [m]) := by
  obtain ⟨before, k, k', after, rfl, others, appends, admits⟩ := accepts
  refine ⟨before, k, k', after ++ [m], by simp, fun l mem => ?_, appends, admits⟩
  rw [← List.append_assoc] at mem
  rcases List.mem_append.1 mem with old | new
  · exact others l old
  · exact List.mem_singleton.1 new ▸ idle

theorem idle_append {ms : List (Move β)} {m : Move β} (others : ∀ k ∈ ms, k.Idle)
    (idle : m.Idle) : ∀ k ∈ ms ++ [m], k.Idle := by
  intro k mem
  rcases List.mem_append.1 mem with old | new
  · exact others k old
  · exact List.mem_singleton.1 new ▸ idle

theorem Steps.tells {admitted : List NodeParams} {i : Nat} {s t : Shared β}
    {e : Event (sharing β)} {stands u : Standing} {ms : List (Move β)}
    (step : Steps admitted i stands s e u t) (tells : stands.Tells ms) :
    u.Tells (ms ++ [⟨i, e, s, t⟩]) := by
  cases step with
  | visit => trivial
  | lock free =>
    have none : ms = [] := tells
    subst none
    exact idle_append (by simp) rfl
  | work held works =>
    cases stands with
    | holding node base => exact idle_append tells rfl
    | registered node => exact Accepts.append tells rfl
    | _ => exact works.elim
  | write held added =>
    cases (ClusterParams.addNode_eq_ok.1 added).2
    exact ⟨ms, _, rfl, tells, rfl⟩
  | refuse held => exact idle_append tells rfl
  | @insert _ n base held vacant =>
    obtain ⟨before, m, rfl, others, appends⟩ := tells
    exact ⟨before, m, _, [], List.append_assoc before [m] _, by simpa using others, appends,
      n, rfl, vacant, rfl⟩
  | unlock held => exact Accepts.append tells rfl

/-- What additions did outside was done by those that are over, one after the other, and then by the
one that holds the lock. -/
structure Turns (acts : Nat → Cluster.Act) (standing : Nat → Standing) (s : Shared β)
    (past : List Nat) (ms : List (Move β)) : Prop where
  distinct : past.Nodup
  ended : ∀ i ∈ past, ∃ node accepted, standing i = .ended node accepted
  all : labour acts ms = (past ++ s.holder.toList).flatMap fun i => movesOf i (labour acts ms)

namespace Turns

variable {acts : Nat → Cluster.Act} {standing : Nat → Standing} {s t : Shared β} {past : List Nat}
  {ms : List (Move β)} {m : Move β} {k : Nat} {u : Standing}

theorem ended_update (turns : Turns acts standing s past ms) (present : k ∉ past) :
    ∀ i ∈ past, ∃ node accepted, Function.update standing k u i = .ended node accepted := by
  intro i mem
  have other : i ≠ k := by
    rintro rfl
    exact present mem
  rw [Function.update_of_ne other]
  exact turns.ended i mem

/-- A move that does not count changes no turn that was used. -/
theorem stay (turns : Turns acts standing s past ms) (present : k ∉ past)
    (uncounted : labour acts (ms ++ [m]) = labour acts ms)
    (holder : t.holder.toList.flatMap (fun i => movesOf i (labour acts ms)) =
      s.holder.toList.flatMap fun i => movesOf i (labour acts ms)) :
    Turns acts (Function.update standing k u) t past (ms ++ [m]) where
  distinct := turns.distinct
  ended := turns.ended_update present
  all := by
    have all := turns.all
    rw [List.flatMap_append, ← holder, ← List.flatMap_append] at all
    rw [uncounted]
    exact all

/-- What the holder of the lock does is the last that was done in its turn. -/
theorem work (turns : Turns acts standing s past ms) (present : k ∉ past)
    (held : s.holder = some k) (mine : m.task = k) (adds : (acts k).adds = true)
    (outside : m.isOutside = true) :
    Turns acts (Function.update standing k u) s past (ms ++ [m]) where
  distinct := turns.distinct
  ended := turns.ended_update present
  all := by
    have all := turns.all
    have others : past.flatMap (fun i => movesOf i (labour acts ms ++ [m])) =
        past.flatMap fun i => movesOf i (labour acts ms) := by
      refine List.flatMap_congr fun i mem => ?_
      have other : m.task ≠ i := by
        rintro rfl
        exact present (mine ▸ mem)
      rw [movesOf_append, if_neg other, List.append_nil]
    have counted : labour acts (ms ++ [m]) = labour acts ms ++ [m] := by
      rw [labour_append, mine, adds, outside]
      rfl
    rw [held, Option.toList_some, List.flatMap_append, List.flatMap_singleton] at all ⊢
    rw [counted, others, movesOf_append, if_pos mine, ← List.append_assoc, ← all]

/-- With the lock the turn is given back. -/
theorem give (turns : Turns acts standing s past ms) (present : k ∉ past)
    (uncounted : labour acts (ms ++ [m]) = labour acts ms) (held : s.holder = some k)
    (free : t.holder = none) (ended : ∃ node accepted, u = .ended node accepted) :
    Turns acts (Function.update standing k u) t (past ++ [k]) (ms ++ [m]) where
  distinct := by
    refine List.nodup_append.2 ⟨turns.distinct, List.pairwise_singleton _ _, ?_⟩
    rintro i mem j single rfl
    exact present (List.mem_singleton.1 single ▸ mem)
  ended i mem := by
    rcases List.mem_append.1 mem with before | last
    · exact turns.ended_update present i before
    · rw [List.mem_singleton.1 last, Function.update_self]
      exact ended
  all := by
    have all := turns.all
    rw [held, Option.toList_some] at all
    rw [uncounted, free, Option.toList_none, List.append_nil]
    exact all

end Turns

/-- The node that was written down. -/
def Standing.entered? : Standing → Option NodeParams
  | .written node _ | .registered node | .ended node true => some node
  | .visiting _ | .waiting _ | .holding _ _ | .ended _ false | .astray => none

/-- A node is entered once the parameters had no other with its endpoint. -/
theorem Steps.entered {admitted : List NodeParams} {i : Nat} {s t : Shared β}
    {e : Event (sharing β)} {stands u : Standing} {node : NodeParams}
    (step : Steps admitted i stands s e u t) (entered : u.entered? = some node) :
    stands.entered? = some node ∨ s.cluster.params.addNode node = .ok t.cluster.params := by
  cases step with
  | visit => cases entered
  | lock free => cases entered
  | refuse held => cases entered
  | work held works => exact .inl entered
  | write held added =>
    cases entered
    exact .inr added
  | insert held vacant => exact .inl entered
  | unlock held => exact .inl entered

namespace Course

variable {start s : Shared β} {begun standing : Nat → Standing} {ms : List (Move β)}

theorem subject (course : Course start begun ms standing s) :
    ∀ i, (standing i).subject? = (begun i).subject? := by
  induction course with
  | nil => exact fun _ => rfl
  | snoc _ _ step ih =>
    exact (Function.forall_update_iff _ fun i (stands : Standing) =>
      stands.subject? = (begun i).subject?).2 ⟨step.subject.trans (ih _), fun i _ => ih i⟩

theorem grows (course : Course start begun ms standing s) :
    ∀ m ∈ ms, m.before.cluster.params.nodes <+: m.after.cluster.params.nodes := by
  induction course with
  | nil => simp
  | snoc _ _ step ih =>
    intro m mem
    rcases List.mem_append.1 mem with old | new
    · exact ih m old
    · rw [List.mem_singleton.1 new]
      exact step.grows

theorem appended (course : Course start begun ms standing s) :
    start.cluster.params.nodes <+: s.cluster.params.nodes := by
  induction course with
  | nil => exact List.prefix_rfl
  | snoc _ _ step ih => exact ih.trans step.grows

theorem tells (course : Course start begun ms standing s) (fresh : ∀ i, (begun i).Tells (β := β) [])
    (i : Nat) : (standing i).Tells (movesOf i ms) := by
  induction course with
  | nil => exact fresh i
  | @snoc ms _ _ _ _ j _ _ _ _ step ih =>
    rw [movesOf_append]
    by_cases same : i = j
    · subst same
      rw [Function.update_self, if_pos rfl]
      exact step.tells ih
    · rw [Function.update_of_ne same, if_neg (Ne.symm same), List.append_nil]
      exact ih

/-- Nodes that were entered are configured, and no two tasks entered the same endpoint. -/
theorem entered (course : Course start begun ms standing s)
    (fresh : ∀ i, (begun i).entered? = none) :
    (∀ i node, (standing i).entered? = some node → node ∈ s.cluster.params.nodes) ∧
      ∀ i j n m, (standing i).entered? = some n → (standing j).entered? = some m →
        n.endpoint = m.endpoint → i = j := by
  induction course with
  | nil => simp [fresh]
  | @snoc ms admitted standing s t k e u _ _ step ih =>
    obtain ⟨configured, apart⟩ := ih
    have was {j : Nat} {n : NodeParams} (now : (Function.update standing k u j).entered? = some n) :
        (standing j).entered? = some n ∨
          j = k ∧ s.cluster.params.addNode n = .ok t.cluster.params := by
      by_cases same : j = k
      · subst same
        rw [Function.update_self] at now
        exact (step.entered now).imp_right fun added => ⟨rfl, added⟩
      · rw [Function.update_of_ne same] at now
        exact .inl now
    have fresh {j : Nat} {n m : NodeParams} (old : (standing j).entered? = some n)
        (added : s.cluster.params.addNode m = .ok t.cluster.params) : n.endpoint ≠ m.endpoint :=
      (ClusterParams.addNode_eq_ok.1 added).1 n (configured j n old)
    constructor
    · intro j n now
      rcases was now with old | ⟨-, added⟩
      · exact step.grows.subset (configured j n old)
      · rw [(ClusterParams.addNode_eq_ok.1 added).2]
        exact List.mem_append_right _ List.mem_cons_self
    · intro i j n m nowI nowJ same
      rcases was nowI with oldI | ⟨rfl, addedI⟩
      · rcases was nowJ with oldJ | ⟨-, addedJ⟩
        · exact apart i j n m oldI oldJ same
        · exact absurd same (fresh oldI addedJ)
      · rcases was nowJ with oldJ | ⟨rfl, -⟩
        · exact absurd same.symm (fresh oldJ addedI)
        · rfl

/-- Additions that are over had their turns, and now it is that of the one that holds the lock. -/
theorem turns {acts : Nat → Cluster.Act}
    (course : Course start (fun i => (acts i).standing) ms standing s)
    (fresh : ∀ i, (acts i).standing.Tells (β := β) []) (free : start.holder = none) :
    ∃ past, Turns acts standing s past ms := by
  induction course with
  | nil => exact ⟨[], List.nodup_nil, by simp, by simp [free, labour]⟩
  | @snoc ms admitted standing s t k e u course sound step ih =>
    obtain ⟨past, turns⟩ := ih
    have present : k ∉ past := by
      intro mem
      obtain ⟨node, accepted, ended⟩ := turns.ended k mem
      exact step.unfinished node accepted ended
    have adds : (acts k).adds = (standing k).subject?.isSome := by
      rw [course.subject k, Cluster.Act.subject?_standing]
    have own := course.tells fresh k
    -- Only what additions do outside is counted.
    have inside (not : (Move.mk k e s t).isOutside = false) :
        labour acts (ms ++ [⟨k, e, s, t⟩]) = labour acts ms :=
      labour_append_of_not (by rw [not, Bool.and_false])
    generalize here : standing k = stands at step adds own
    cases step with
    | visit params holder members trusted =>
      have uncounted : labour acts (ms ++ [⟨k, e, s, t⟩]) = labour acts ms :=
        labour_append_of_not (by rw [adds]; rfl)
      exact ⟨past, turns.stay present uncounted (by rw [holder])⟩
    | lock free =>
      refine ⟨past, turns.stay present (inside rfl) ?_⟩
      rw [free]
      exact (List.flatMap_singleton ..).trans (movesOf_labour_eq_nil own)
    | work held works => exact ⟨past, turns.work present held rfl (adds.trans works.subject) rfl⟩
    | write held added => exact ⟨past, turns.stay present (inside rfl) (by rw [held])⟩
    | insert held vacant => exact ⟨past, turns.stay present (inside rfl) (by rw [held])⟩
    | refuse held => exact ⟨past ++ [k], turns.give present (inside rfl) held rfl ⟨_, _, rfl⟩⟩
    | unlock held => exact ⟨past ++ [k], turns.give present (inside rfl) held rfl ⟨_, _, rfl⟩⟩

end Course

/-! ## All runs -/

/-- What holds of a cluster that was shared by these tasks. -/
structure Membership (params : ClusterParams) (acts : Nat → Cluster.Act) (ms : List (Move β))
    (u : System β) : Prop where
  appended : params.nodes <+: u.shared.cluster.params.nodes
  grows : ∀ m ∈ ms, m.before.cluster.params.nodes <+: m.after.cluster.params.nodes
  distinct : (u.shared.cluster.params.nodes.map (·.endpoint)).Nodup
  members : ∀ name n, u.shared.cluster.members.find? name = some n →
    n.name = name ∧ n.params ∈ u.shared.cluster.params.nodes
  /-- An addition that failed changed nothing. -/
  rejected : ∀ i node e, acts i = .add node → u.rest i = .done (.error e) →
    ∀ m ∈ movesOf i ms, m.Idle
  /-- An addition that succeeded added its node and did nothing else to the cluster. -/
  accepted : ∀ i node, acts i = .add node → u.rest i = .done (.ok ()) →
    Accepts node (movesOf i ms)
  silent : ∀ i node, acts i = .add node →
    ∀ m ∈ movesOf i ms, ∀ r, m.event.call ≠ .outside (.bootstrap r)
  once : ∀ i j n m, acts i = .add n → acts j = .add m → n.port = m.port →
    u.rest i = .done (.ok ()) → u.rest j = .done (.ok ()) → i = j
  /-- Additions work one after the other, each in one go. -/
  apart : ∃ order : List Nat, order.Nodup ∧
    labour acts ms = order.flatMap fun i => movesOf i (labour acts ms)

namespace Run

variable [Backend β] {setting : ClusterSetting β} {params : ClusterParams}
  {acts : Nat → Cluster.Act} {ms : List (Move β)} {u : System β}

theorem quiet [Detached β] (run : Run (System.new setting params acts) ms u) :
    (∀ m ∈ ms, ∀ node, acts m.task = .add node → Task.Quiet m.event.call) ∧
      ∀ i node, acts i = .add node → (u.rest i).Within Task.Quiet := by
  have update {rest : Nat → Task β (Except Error Unit)} {i : Nat}
      {next : Task β (Except Error Unit)}
      (others : ∀ j node, acts j = .add node → (rest j).Within Task.Quiet)
      (mine : ∀ node, acts i = .add node → next.Within Task.Quiet) :
      ∀ j node, acts j = .add node → (Function.update rest i next j).Within Task.Quiet :=
    (Function.forall_update_iff rest fun j p => ∀ node, acts j = .add node →
      p.Within Task.Quiet).2 ⟨mine, fun j _ => others j⟩
  induction run with
  | nil =>
    refine ⟨by simp, fun i node adds => ?_⟩
    change ((acts i).task setting).Within Task.Quiet
    rw [adds]
    exact Cluster.Act.task_quiet node
  | @call ms u t i r next a d _ rest shares ih =>
    obtain ⟨earlier, later⟩ := ih
    have mine (node) (adds : acts i = .add node) :
        Task.Quiet r ∧ ∀ a d, (next a d).Within Task.Quiet := by
      have within := later i node adds
      rw [rest] at within
      exact within
    refine ⟨fun m mem => ?_, update later fun node adds => (mine node adds).2 a d⟩
    rcases List.mem_append.1 mem with old | new
    · exact earlier m old
    · rw [List.mem_singleton.1 new]
      exact fun node adds => (mine node adds).1
  | @pause ms u i d next _ rest ih =>
    obtain ⟨earlier, later⟩ := ih
    refine ⟨earlier, update later fun node adds => ?_⟩
    have mine := later i node adds
    rw [rest] at mine
    exact mine
  | @clock ms u i now next _ rest ih =>
    obtain ⟨earlier, later⟩ := ih
    refine ⟨earlier, update later fun node adds => ?_⟩
    have mine := later i node adds
    rw [rest] at mine
    exact mine now

theorem membership [Detached β] (ports : (params.nodes.map (·.port)).Nodup)
    (run : Run (System.new setting params acts) ms u) : Membership params acts ms u := by
  obtain ⟨admitted, standing, course, sound, follow⟩ := run.course ports
  have fresh (i) : (acts i).standing.Tells (β := β) [] := by
    cases acts i with
    | add node => rfl
    | _ => trivial
  have unentered (i) : (acts i).standing.entered? = none := by
    cases acts i with
    | _ => rfl
  -- An addition that is done stands where its result says.
  have finished {i node r} (adds : acts i = .add node) (done : u.rest i = .done r) :
      standing i = .ended node r.isOk := by
    have subject := course.subject i
    have closes := follow i
    rw [adds] at subject
    rw [done] at closes
    change (standing i).Closes r at closes
    generalize standing i = stands at subject closes
    cases stands with
    | ended node' accepted =>
      cases subject
      rw [closes]
    | visiting known => cases subject
    | _ => exact closes.elim
  obtain ⟨-, entered⟩ := course.entered unentered
  obtain ⟨past, turns⟩ := course.turns fresh rfl
  refine ⟨course.appended, course.grows, sound.distinct, ?_, ?_, ?_, ?_, ?_, ?_⟩
  · intro name n found
    exact (sound.members name n found).imp_right fun mem => sound.configured mem
  · intro i node e adds done
    have tells := course.tells fresh i
    rw [finished adds done] at tells
    exact tells
  · intro i node adds done
    have tells := course.tells fresh i
    rw [finished adds done] at tells
    exact tells
  · intro i node adds m mem r call
    obtain ⟨listed, mine⟩ := List.mem_filter.1 mem
    have quiet := run.quiet.1 m listed node (by rw [of_decide_eq_true mine]; exact adds)
    rw [call] at quiet
    exact quiet trivial
  · intro i j n m addsI addsJ same doneI doneJ
    refine entered i j n m ?_ ?_ (NodeParams.endpoint_eq_of_port_eq same)
    · rw [finished addsI doneI]
      rfl
    · rw [finished addsJ doneJ]
      rfl
  · refine ⟨past ++ u.shared.holder.toList, ?_, turns.all⟩
    refine List.nodup_append.2 ⟨turns.distinct, Option.toList_nodup _, ?_⟩
    rintro i mem j holds rfl
    obtain ⟨node, accepted, stands⟩ := turns.ended i mem
    have relies := sound.relies i
    rw [stands] at relies
    exact relies (Option.mem_toList.1 holds)

/-- Two tasks that want the same node, and tasks that kill all members. -/
def rivals : Nat → Cluster.Act
  | 0 | 1 => .add (.ofPort 9001)
  | _ => .kill

def contested : ClusterParams := ⟨"contested", .server, [], 3, .ofSecs 10⟩

/-- The first addition cannot deploy the node. The second one can, and gives the lock back after a
third task has found the new member. -/
theorem membership_contested : ∃ ms u,
    Run (.new ⟨.standIns .sequential "" [] [], .delegated, "logs", "corfu", "today"⟩ contested
      rivals) ms u ∧ u.rest 0 = .done (.error (.internal "no room")) ∧ u.rest 1 = .done (.ok ()) ∧
      Membership contested rivals ms u := by
  let setting : ClusterSetting StandIn :=
    ⟨.standIns .sequential "" [] [], .delegated, "logs", "corfu", "today"⟩
  have begun : Run (.new setting contested rivals) [] _ := .nil
  have first := Run.call (i := 0) (d := .zero) begun rfl (.access .lock)
  have prepared := Run.call (i := 0) (d := .zero) first rfl
    (.outside (.file (.createDir _)) (.ok ()))
  have failed := Run.call (i := 0) (d := .zero) prepared rfl
    (.outside (.act _ _) (some (.error (.internal "no room"))))
  have refused := Run.call (i := 0) (d := .zero) failed rfl (.access .unlock)
  have second := Run.call (i := 1) (d := .zero) refused rfl (.access .lock)
  have again := Run.call (i := 1) (d := .zero) second rfl
    (.outside (.file (.createDir _)) (.ok ()))
  have up := Run.call (i := 1) (d := .zero) again rfl (.outside (.act _ _) (some (.ok ())))
  have written := Run.call (i := 1) (d := .zero) up rfl (.access (.write _))
  have registered := Run.call (i := 1) (d := .zero) written rfl (.access (.insert _ _))
  have found := Run.call (i := 2) (d := .zero) registered rfl (.access (.members _))
  have returned := Run.call (i := 1) (d := .zero) found rfl (.access .unlock)
  exact ⟨_, _, returned, rfl, rfl, membership (by decide) returned⟩

end Run

end Testbed
