import Mathlib.Data.List.Nodup
import Testbed.Backend.Physical
import Testbed.Backend.StandIn
import Testbed.Cluster
import Testbed.Proofs.NameMap
import Testbed.Proofs.Procedure.History
/-!
# Teardowns of a cluster

A teardown pays a visit to every member, in ascending order of the names, and a failure of one keeps
it from no other (`Sweeps`). It counts its visits and those that failed. A stop and a kill keep all
members, a destruction keeps those that it could not destroy (`isolates`). To destroy a node is to
kill it, to collect its logs and to remove it, and only the removal counts (`destroy_demolishes`).
-/

namespace Testbed

namespace Backend

variable {β : Type} [Backend β]

/-- Gives a backend up if it was removed. -/
def leave (r : Except Error Unit) (b : β) : Work Unit :=
  match r with
  | .ok () => release b
  | .error _ => return ()

/-- Giving a backend up that was removed leads to nothing. -/
class Tidy (β : Type) [Backend β] : Prop where
  removed : ∀ b : β, (do let o ← perform .remove b; leave o.1 o.2; return o) = perform .remove b

theorem Tidy.of_release (nothing : ∀ b : β, release b = pure ()) : Tidy β where
  removed b := by
    have left (r : Except Error Unit) (b : β) : leave r b = pure () := by
      cases r with
      | ok _ => exact nothing b
      | error e => rfl
    simp only [left, pure_bind, bind_pure]

instance : Tidy StandIn := .of_release fun _ => rfl

instance : Tidy RemoteProcess := .of_release fun _ => rfl

instance : Tidy Container where
  removed c := by
    change (c.remove >>= fun o => leave o.1 o.2 >>= fun _ => pure o) = c.remove
    unfold Container.remove Attempt.changing
    rw [bind_assoc]
    refine congrArg _ (funext fun r => ?_)
    cases r with
    | ok _ => rfl
    | error e => rfl

/-- A backend that is another one in all but its type is as tidy. -/
theorem Tidy.removed_as {γ : Type} [Backend γ] [Tidy β] (f : β → γ) (b : β)
    (performed : perform .remove (f b) = (fun o => (o.1, f o.2)) <$> perform .remove b)
    (released : ∀ b, release (f b) = release b) :
    (do let o ← perform .remove (f b); leave o.1 o.2; return o) = perform .remove (f b) := by
  have left (r : Except Error Unit) (b : β) : leave r (f b) = leave r b := by
    cases r with
    | ok _ => exact released b
    | error e => rfl
  have mapped := congrArg (fun p => (fun o => (o.1, f o.2)) <$> p) (Tidy.removed b)
  simpa only [performed, left, map_bind, map_pure, bind_map_left] using mapped

instance : Tidy Physical where
  removed b := by
    cases b with
    | container c => exact Tidy.removed_as Physical.container c rfl fun _ => rfl
    | process p => exact Tidy.removed_as Physical.process p rfl fun _ => rfl

end Backend

/-! ## Nodes -/

namespace Node

variable {β σ : Type} [Backend β] {n : Node β} {peers : Peers outside σ} {m : Moment σ}

theorem perform_eq (op : Operation) (n : Node β) :
    n.perform op = (fun o => (o.1, { n with backend := o.2 })) <$> Backend.perform op n.backend :=
  (map_eq_pure_bind _ _).symm

theorem destroy_eq (n : Node β) : n.destroy = (do
    let (_, n) ← n.perform .kill
    let (_, n) ← n.perform .collectLogs
    n.perform .remove) := by
  simp only [destroy, Backend.destroy, perform, bind_assoc, pure_bind]

/-- A node is killed, its logs are collected and it is removed, whatever came of the steps before.
What comes of the removal is what comes of it all. -/
def Demolishes (peers : Peers outside σ) (n : Node β) (m : Moment σ) : Prop :=
  let killed := (n.perform .kill).run peers m
  let collected := (killed.1.2.perform .collectLogs).run peers killed.2
  let removed := (collected.1.2.perform .remove).run peers collected.2
  n.destroy.run peers m = removed ∧
    n.destroy.trace peers m = (n.perform .kill).trace peers m ++
      ((killed.1.2.perform .collectLogs).trace peers killed.2 ++
        (collected.1.2.perform .remove).trace peers collected.2)

theorem destroy_demolishes : n.Demolishes peers m := by
  unfold Demolishes
  rw [destroy_eq]
  simp only [Procedure.run_bind, Procedure.trace_bind, and_self]

/-- An operation changes nothing of a node but its backend. -/
theorem perform_keeps {op : Operation} :
    let o := (n.perform op).run peers m
    o.1.2.params = n.params ∧ o.1.2.endpoint = n.endpoint := by
  unfold perform
  simp only [Procedure.run_bind, Procedure.run_pure, and_self]

theorem destroy_keeps :
    let o := n.destroy.run peers m
    o.1.2.params = n.params ∧ o.1.2.endpoint = n.endpoint := by
  unfold destroy
  simp only [Procedure.run_bind, Procedure.run_pure, and_self]

theorem remove_leave [Backend.Tidy β] (n : Node β) :
    (do let o ← n.perform .remove; Backend.leave o.1 o.2.backend; return o) =
      n.perform .remove := by
  have mapped := congrArg (fun p => (fun o => (o.1, { n with backend := o.2 })) <$> p)
    (Backend.Tidy.removed n.backend)
  simpa only [perform_eq, map_bind, map_pure, bind_map_left] using mapped

/-- A node that was destroyed is given up without a call. -/
theorem destroy_leave [Backend.Tidy β] (n : Node β) :
    (do let o ← n.destroy; Backend.leave o.1 o.2.backend; return o) = n.destroy := by
  simp only [destroy_eq, bind_assoc, remove_leave]

end Node

/-! ## Members -/

namespace Cluster

variable {β σ : Type} {stays : Except Error Unit → Bool} {c : Cluster β}
  {peers : Peers outside σ} {m : Moment σ}

/-- The visits of a teardown, in ascending order of the names of the members. -/
def visits (peers : Peers outside σ) (act : Node β → Work (Outcome (Node β))) (c : Cluster β)
    (m : Moment σ) : List (Visit outside σ (String × Node β) (Outcome (Node β))) :=
  Procedure.visits peers (fun e => act e.2) c.members.entries m

/-- A teardown does the same to every member, once and whatever came of the ones before. Members
stay according to what came of their own turn. -/
structure Sweeps (peers : Peers outside σ) (act : Node β → Work (Outcome (Node β)))
    (stays : Except Error Unit → Bool) (c : Cluster β)
    (sweep : Work (TeardownSummary × Cluster β)) (m : Moment σ) : Prop where
  inOrder : (c.visits peers act m).map (·.subject) = c.members.entries
  ascending : (c.visits peers act m).Pairwise fun v w => v.subject.1 < w.subject.1
  calls : sweep.trace peers m = (c.visits peers act m).flatMap (·.events)
  nodes : (sweep.run peers m).1.1.nodes = c.members.entries.length
  failures : (sweep.run peers m).1.1.failures =
    (c.visits peers act m).countP (failed ·.result.1)
  members : (sweep.run peers m).1.2.members.entries =
    ((c.visits peers act m).filter (stays ·.result.1)).map fun v => (v.subject.1, v.result.2)
  /-- Of a member nothing changes but its backend. -/
  same : ∀ v ∈ c.visits peers act m,
    v.result.2.params = v.subject.2.params ∧ v.result.2.endpoint = v.subject.2.endpoint
  /-- Of the cluster nothing changes but the members. -/
  rest : { (sweep.run peers m).1.2 with members := c.members } = c

/-- Counts a visit and keeps the member or lets it go. -/
def note (stays : Except Error Unit → Bool) (t : TeardownSummary × Cluster β) (e : String × Node β)
    (o : Outcome (Node β)) : TeardownSummary × Cluster β :=
  (t.1.count (failed o.1),
    { t.2 with members := t.2.members.update e.1 (if stays o.1 then some o.2 else none) })

section

variable {t : TeardownSummary × Cluster β}
  {vs : List (Visit outside σ (String × Node β) (Outcome (Node β)))}

theorem foldl_count {α : Type} {failed : α → Bool} {l : List α} {s : TeardownSummary} :
    l.foldl (fun s a => s.count (failed a)) s =
      ⟨s.nodes + l.length, s.failures + l.countP failed⟩ := by
  induction l generalizing s with
  | nil => rfl
  | cons a l ih =>
    have failures : (s.count (failed a)).failures = s.failures + if failed a then 1 else 0 := by
      cases failed a <;> rfl
    rw [List.foldl_cons, ih, failures, List.countP_cons, List.length_cons, TeardownSummary.mk.injEq]
    simp only [TeardownSummary.count]
    omega

theorem foldl_note_summary : (vs.foldl (fun t v => note stays t v.subject v.result) t).1 =
    ⟨t.1.nodes + vs.length, t.1.failures + vs.countP (failed ·.result.1)⟩ :=
  (List.foldl_hom Prod.fst fun _ _ => rfl).symm.trans foldl_count

/-- What stays of the members that had their turn. -/
theorem foldl_note_members (all : vs.map (·.subject) = t.2.members.entries) :
    (vs.foldl (fun t v => note stays t v.subject v.result) t).2.members.entries =
      (vs.filter (stays ·.result.1)).map fun v => (v.subject.1, v.result.2) := by
  let kept (v : Visit outside σ (String × Node β) (Outcome (Node β))) :=
    if stays v.result.1 then some v.result.2 else none
  let membersOf (t : TeardownSummary × Cluster β) := t.2.members
  have unvisited : t.2.members.entries = [] ++ t.2.members.entries := rfl
  calc (vs.foldl (fun t v => note stays t v.subject v.result) t).2.members.entries
    _ = (vs.foldl (fun ms v => ms.update v.subject.1 (kept v)) t.2.members).entries :=
      congrArg NameMap.entries (List.foldl_hom membersOf fun _ _ => rfl).symm
    _ = vs.filterMap fun v => (kept v).map fun member => (v.subject.1, member) := by
      refine NameMap.entries_foldl_update unvisited ?_
      rw [← all, List.map_map]
      rfl
    _ = (vs.filter (stays ·.result.1)).map fun v => (v.subject.1, v.result.2) := by
      rw [← List.filterMap_eq_map, List.filterMap_filter]
      refine congrArg (vs.filterMap ·) (funext fun v => ?_)
      by_cases stay : stays v.result.1
      · simp [kept, stay]
      · simp [kept, stay]

theorem foldl_note_rest {ms : NameMap (Node β)} :
    { (vs.foldl (fun t v => note stays t v.subject v.result) t).2 with members := ms } =
      { t.2 with members := ms } := by
  induction vs generalizing t with
  | nil => rfl
  | cons v vs ih => exact ih

end

theorem Sweeps.of_loop {act : Node β → Work (Outcome (Node β))}
    {p : TeardownSummary × Cluster β → List (String × Node β) → Work (TeardownSummary × Cluster β)}
    (loop : Procedure.Loop (fun e => act e.2) (note stays) p)
    (keeps : ∀ n m, let o := (act n).run peers m
      o.1.2.params = n.params ∧ o.1.2.endpoint = n.endpoint) :
    c.Sweeps peers act stays (p (.empty, c) c.members.entries) m := by
  have swept : ((p (.empty, c) c.members.entries).run peers m).1 = _ := loop.run _ _ m
  have inOrder : (c.visits peers act m).map (·.subject) = c.members.entries :=
    Procedure.visits_subjects
  refine ⟨inOrder, ?_, loop.trace _ _ _, ?_, ?_, ?_, ?_, ?_⟩
  · have ascending := c.members.ascending
    unfold Ascending at ascending
    rwa [← inOrder, List.pairwise_map] at ascending
  · rw [swept, foldl_note_summary, Procedure.length_visits]
    exact Nat.zero_add _
  · rw [swept, foldl_note_summary]
    exact Nat.zero_add _
  · rw [swept, foldl_note_members inOrder]
    rfl
  · intro v mem
    obtain ⟨-, -, result⟩ := Procedure.of_mem_visits mem
    rw [result]
    exact keeps v.subject.2 v.start
  · rw [swept, foldl_note_rest]

theorem Sweeps.keys {act : Node β → Work (Outcome (Node β))}
    {sweep : Work (TeardownSummary × Cluster β)}
    (sweeps : c.Sweeps peers act (fun _ => true) sweep m) :
    (sweep.run peers m).1.2.members.keys = c.members.keys := by
  have all : (c.visits peers act m).filter (fun _ => true) = c.visits peers act m :=
    List.filter_eq_self.2 fun _ _ => rfl
  unfold NameMap.keys
  rw [sweeps.members, ← sweeps.inOrder, all, List.map_map, List.map_map]
  rfl

theorem Sweeps.mem_keys {act : Node β → Work (Outcome (Node β))}
    {sweep : Work (TeardownSummary × Cluster β)} (sweeps : c.Sweeps peers act stays sweep m)
    {v : Visit outside σ (String × Node β) (Outcome (Node β))} (mem : v ∈ c.visits peers act m) :
    v.subject.1 ∈ (sweep.run peers m).1.2.members.keys ↔ stays v.result.1 = true := by
  have distinct : ((c.visits peers act m).map (·.subject.1)).Nodup := by
    have keys := c.members.keys_nodup
    unfold NameMap.keys at keys
    rwa [← sweeps.inOrder, List.map_map] at keys
  unfold NameMap.keys
  rw [sweeps.members, List.map_map, List.mem_map]
  constructor
  · rintro ⟨w, stayed, same⟩
    obtain ⟨mem', stay⟩ := List.mem_filter.1 stayed
    rwa [← List.inj_on_of_nodup_map distinct mem' mem same]
  · intro stay
    exact ⟨v, List.mem_filter.2 ⟨mem, stay⟩, rfl⟩

theorem Sweeps.name {act : Node β → Work (Outcome (Node β))}
    {sweep : Work (TeardownSummary × Cluster β)} (sweeps : c.Sweeps peers act stays sweep m) :
    (sweep.run peers m).1.2.name = c.name := by
  have named := congrArg Cluster.name sweeps.rest
  exact named

variable [Backend β]

theorem performAll_loop (op : Operation) :
    Procedure.Loop (fun e => e.2.perform op) (note fun _ => true)
      fun t : TeardownSummary × Cluster β => t.2.performAll op t.1 where
  nil _ := rfl
  cons _ _ _ := rfl

theorem destroyAll_loop [Backend.Tidy β] :
    Procedure.Loop (fun e => e.2.destroy) (note failed)
      fun t : TeardownSummary × Cluster β => t.2.destroyAll t.1 where
  nil _ := rfl
  cons t e rest := by
    let goOn (o : Outcome (Node β)) := (note failed t e o).2.destroyAll (note failed t e o).1 rest
    calc t.2.destroyAll t.1 (e :: rest)
      _ = e.2.destroy >>= fun o => Backend.leave o.1 o.2.backend >>= fun _ => goOn o := by
        refine congrArg (e.2.destroy >>= ·) (funext fun o => ?_)
        obtain ⟨_ | _, member⟩ := o
        · rfl
        · rfl
      _ = (do let o ← e.2.destroy; Backend.leave o.1 o.2.backend; return o) >>= goOn := by
        simp only [bind_assoc, pure_bind]
      _ = e.2.destroy >>= goOn := by rw [Node.destroy_leave]

theorem stop_sweeps (c : Cluster β) (timeout : Duration) (m : Moment σ) :
    c.Sweeps peers (·.perform (.stop timeout)) (fun _ => true) (c.stop timeout) m :=
  .of_loop (performAll_loop (.stop timeout)) fun _ _ => Node.perform_keeps

theorem kill_sweeps (c : Cluster β) (m : Moment σ) :
    c.Sweeps peers (·.perform .kill) (fun _ => true) c.kill m :=
  .of_loop (performAll_loop .kill) fun _ _ => Node.perform_keeps

theorem destroy_sweeps [Backend.Tidy β] (c : Cluster β) (m : Moment σ) :
    c.Sweeps peers Node.destroy failed c.destroy m :=
  .of_loop destroyAll_loop fun _ _ => Node.destroy_keeps

/-- No failure of a member keeps a teardown from the others. -/
structure Isolates (peers : Peers outside σ) (c : Cluster β) (m : Moment σ) : Prop where
  stop : ∀ timeout,
    c.Sweeps peers (·.perform (.stop timeout)) (fun _ => true) (c.stop timeout) m
  kill : c.Sweeps peers (·.perform .kill) (fun _ => true) c.kill m
  destroy : c.Sweeps peers Node.destroy failed c.destroy m
  stopped : ∀ timeout, ((c.stop timeout).run peers m).1.2.members.keys = c.members.keys
  killed : (c.kill.run peers m).1.2.members.keys = c.members.keys

theorem isolates [Backend.Tidy β] (c : Cluster β) (m : Moment σ) : c.Isolates peers m where
  stop timeout := stop_sweeps c timeout m
  kill := kill_sweeps c m
  destroy := destroy_sweeps c m
  stopped timeout := (stop_sweeps c timeout m).keys
  killed := (kill_sweeps c m).keys

end Cluster

end Testbed
