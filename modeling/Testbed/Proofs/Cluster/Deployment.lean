import Testbed.Cluster
import Testbed.Proofs.NameMap
import Testbed.Proofs.Params.Identity
import Testbed.Proofs.Pool.Interleaving
/-!
# What becomes of the nodes of a cluster

A `Deployment` is what was done to get one node up, from its preparation to the answer of its
backend, and what it led to. Both strategies undertake such deployments in the order of the nodes and
go on to the next one unless there is a reason not to (`Trials`). What they make of the cluster is
settled by what the deployments led to, whatever their order (`deployNodes_leads`): the nodes that
came up are members, and the whole succeeds if and only if all configured nodes came up. Otherwise it
fails as one of them did (`Verdict`).
-/

namespace Testbed

open Procedure (Leads)

/-- The calls made for a node and what they led to: nothing if the worker died. -/
structure Deployment (β : Type) where
  node : NodeParams
  events : List (Event outside)
  result : Option (Except Error (Node β))

namespace Deployment

variable {β : Type}

/-- The node that came up. -/
def member? (d : Deployment β) : Option (Node β) := d.result.bind Except.toOption

def Succeeded (d : Deployment β) : Prop := ∃ n, d.result = some (.ok n)

theorem member?_eq_some {d : Deployment β} {n : Node β} :
    d.member? = some n ↔ d.result = some (.ok n) := by
  unfold member?
  rcases d.result with - | - | - <;> simp [Except.toOption]

end Deployment

/-- Every one of the nodes came up. -/
def AllUp {β : Type} (nodes : List NodeParams) (ds : List (Deployment β)) : Prop :=
  ds.map (·.node) = nodes ∧ ∀ d ∈ ds, d.Succeeded

namespace Cluster

variable {β : Type} [Backend β] {c c' : Cluster β} {es : List (Event outside)}

/-- All that is done to get one node up. -/
def deployment (c : Cluster β) (node : NodeParams) : Work (Option (Except Error (Node β))) :=
  match c.setting.factory.strategy with
  | .sequential => some <$> c.deployNode node
  | .concurrent _ => do
    match ← (c.prepare node).run with
    | .ok ready => ready.deployOnWorker
    | .error e => return some (.error e)

/-! ## One node -/

omit [Backend β] in
theorem prepare_leads_ok {node : NodeParams} {ready : Node β}
    (h : (c.prepare node).run.Leads es (.ok ready)) :
    ready.params = node ∧ c.setting.factory.endpoint node = .ok ready.endpoint := by
  unfold prepare at h
  obtain ⟨_, _, _, -, -, h⟩ := Attempt.leads_bind_ok.1 h
  obtain ⟨_, _, endpoint, -, he, h⟩ := Attempt.leads_bind_ok.1 h
  obtain ⟨_, _, backend, -, -, h⟩ := Attempt.leads_bind_ok.1 h
  have found := (Procedure.leads_pure.1 he).2
  cases (Procedure.leads_pure.1 h).2
  exact ⟨rfl, found.symm⟩

omit [Backend β] in
theorem prepare_within {C : Call → Prop} {node : NodeParams}
    (h : C (.file (.createDir (c.logDir node)))) : (c.prepare node).run.Within C := by
  refine Attempt.within_bind (Attempt.within_files h) fun _ => ?_
  refine Attempt.within_bind (Procedure.within_pure _) fun _ => ?_
  exact Attempt.within_bind (Procedure.within_pure _) fun _ => Procedure.within_pure _

theorem settle_leads_ok {n n' : Node β} {o : Outcome β} (h : (n.settle o).Leads es (.ok n')) :
    n'.params = n.params ∧ n'.endpoint = n.endpoint := by
  obtain ⟨r, b⟩ := o
  cases r with
  | ok u =>
    obtain ⟨-, eq⟩ := Procedure.leads_pure.1 h
    cases eq
    exact ⟨rfl, rfl⟩
  | error e =>
    obtain ⟨_, _, _, -, -, h⟩ := Procedure.leads_bind.1 h
    cases (Procedure.leads_pure.1 h).2

theorem deployNode_leads_ok {node : NodeParams} {n : Node β}
    (h : (c.deployNode node).Leads es (.ok n)) :
    n.params = node ∧ c.setting.factory.endpoint node = .ok n.endpoint := by
  obtain ⟨_, _, r, -, prepared, h⟩ := Procedure.leads_bind.1 h
  cases r with
  | error e => cases (Procedure.leads_pure.1 h).2
  | ok ready =>
    obtain ⟨_, _, o, -, -, settled⟩ := Procedure.leads_bind.1 h
    have kept := settle_leads_ok settled
    rw [kept.1, kept.2]
    exact prepare_leads_ok prepared

theorem deployment_leads_ok {node : NodeParams} {n : Node β}
    (h : (c.deployment node).Leads es (some (.ok n))) :
    n.params = node ∧ c.setting.factory.endpoint node = .ok n.endpoint := by
  unfold deployment at h
  split at h
  · obtain ⟨r, h, eq⟩ := Procedure.leads_map.1 h
    cases eq
    exact deployNode_leads_ok h
  · obtain ⟨_, _, r, -, prepared, h⟩ := Procedure.leads_bind.1 h
    cases r with
    | error e => cases (Procedure.leads_pure.1 h).2
    | ok ready =>
      obtain ⟨_, _, o, -, -, h⟩ := Procedure.leads_bind.1 h
      cases o with
      | none => cases (Procedure.leads_pure.1 h).2
      | some outcome =>
        obtain ⟨_, _, r, -, settled, h⟩ := Procedure.leads_bind.1 h
        obtain ⟨-, eq⟩ := Procedure.leads_pure.1 h
        cases eq
        have kept := settle_leads_ok settled
        rw [kept.1, kept.2]
        exact prepare_leads_ok prepared

theorem settle_within {C : Call → Prop} (release : ∀ b : β, (Backend.release b).Within C)
    (n : Node β) (o : Outcome β) : (n.settle o).Within C := by
  obtain ⟨r, b⟩ := o
  cases r with
  | ok u => exact Procedure.within_pure _
  | error e => exact (release b).bind fun _ => Procedure.within_pure _

theorem deployNode_within {C : Call → Prop} {node : NodeParams}
    (dir : C (.file (.createDir (c.logDir node))))
    (deploy : ∀ b : β, (Backend.perform .deploy b).Within C)
    (release : ∀ b : β, (Backend.release b).Within C) : (c.deployNode node).Within C := by
  refine (prepare_within dir).bind fun r => ?_
  cases r with
  | ok ready => exact (deploy _).bind fun _ => settle_within release _ _
  | error e => exact Procedure.within_pure _

/-- To get a node up takes a directory and what its backend does. -/
theorem deployment_within_of {C : Call → Prop} {node : NodeParams}
    (dir : C (.file (.createDir (c.logDir node))))
    (deploy : ∀ b : β, (Backend.perform .deploy b).Within C)
    (onWorker : ∀ b : β, (Backend.deployOnWorker b).Within C)
    (release : ∀ b : β, (Backend.release b).Within C) : (c.deployment node).Within C := by
  unfold deployment
  split
  · exact Procedure.Within.map (deployNode_within dir deploy release) _
  · refine (prepare_within dir).bind fun r => ?_
    cases r with
    | ok ready =>
      refine (onWorker _).bind fun o => ?_
      cases o with
      | some outcome => exact (settle_within release _ _).bind fun _ => Procedure.within_pure _
      | none => exact Procedure.within_pure _
    | error e => exact Procedure.within_pure _

/-- What is bounded for every deployment is bounded for all that are undertaken. -/
theorem interleaved_within {C : Call → Prop} (within : ∀ node, (c.deployment node).Within C)
    {ds : List (Deployment β)} (followed : ∀ d ∈ ds, (c.deployment d.node).Leads d.events d.result)
    (interleaved : Interleaving (ds.map (·.events)) es) : ∀ e ∈ es, C e.call := by
  intro e mem
  obtain ⟨_, listed, mem⟩ := interleaved.mem mem
  obtain ⟨d, hd, rfl⟩ := List.mem_map.1 listed
  exact (within d.node).leads (followed d hd) e mem

/-! ## Which nodes are tried -/

/-- The next node is tried after this one: in turn if this one came up, at once if it could be
prepared, whatever became of it then. -/
inductive Passes (c : Cluster β) (d : Deployment β) : Prop
  | up {n : Node β} : c.setting.factory.strategy = .sequential → d.result = some (.ok n) → Passes c d
  | prepared {workers : Nat} {before after : List (Event outside)} {ready : Node β} :
      c.setting.factory.strategy = .concurrent workers → d.events = before ++ after →
      (c.prepare d.node).run.Leads before (.ok ready) → ready.deployOnWorker.Leads after d.result →
      Passes c d

/-- No node is tried after this one. In turn it failed, at once it could not even be prepared. -/
inductive Halts (c : Cluster β) (d : Deployment β) (e : Error) : Prop
  | failed : c.setting.factory.strategy = .sequential → d.result = some (.error e) → Halts c d e
  | unprepared {workers : Nat} : c.setting.factory.strategy = .concurrent workers →
      (c.prepare d.node).run.Leads d.events (.error e) → d.result = some (.error e) → Halts c d e

/-- Nodes were tried in their order, all of them or up to one that failed in a way that keeps the
others from being tried. -/
inductive Trials (c : Cluster β) : List NodeParams → List (Deployment β) → Option Error → Prop
  | all : Trials c [] [] none
  | passes {d : Deployment β} {rest : List NodeParams} {ds : List (Deployment β)}
      {halt : Option Error} : c.Passes d → Trials c rest ds halt →
      Trials c (d.node :: rest) (d :: ds) halt
  | halts {d : Deployment β} {e : Error} {rest : List NodeParams} : c.Halts d e →
      Trials c (d.node :: rest) [d] (some e)

/-- What trials come to. If none of them kept others from being made all nodes came up, or one of them
failed with an error, or none did but a worker died. -/
inductive Verdict (ds : List (Deployment β)) : Option Error → Except Error Unit → Prop
  | halted {e : Error} : Verdict ds (some e) (.error e)
  | up : (∀ d ∈ ds, d.Succeeded) → Verdict ds none (.ok ())
  | failed {d : Deployment β} {e : Error} : d ∈ ds → d.result = some (.error e) →
      Verdict ds none (.error e)
  | died {d : Deployment β} : d ∈ ds → d.result = none →
      (∀ d' ∈ ds, ∀ e, d'.result ≠ some (.error e)) →
      Verdict ds none (.error (.internal "a worker died"))

section

variable {nodes : List NodeParams} {ds : List (Deployment β)} {halt : Option Error}
  {r : Except Error Unit}

/-- Who is a member has no part in this. -/
theorem Trials.congr (trials : c'.Trials nodes ds halt) (same : c'.setting = c.setting) :
    c.Trials nodes ds halt := by
  obtain ⟨setting, params, members⟩ := c
  cases same
  have passes {d : Deployment β} (passes : c'.Passes d) :
      Passes ⟨c'.setting, params, members⟩ d := by
    cases passes with
    | up turn up => exact .up turn up
    | prepared atOnce cut prepared worked => exact .prepared atOnce cut prepared worked
  have halts {d : Deployment β} {e : Error} (halts : c'.Halts d e) :
      Halts ⟨c'.setting, params, members⟩ d e := by
    cases halts with
    | failed turn failed => exact .failed turn failed
    | unprepared atOnce prepared failed => exact .unprepared atOnce prepared failed
  induction trials with
  | all => exact .all
  | passes first _ ih => exact .passes (passes first) ih
  | halts last => exact .halts (halts last)

theorem Trials.inOrder (trials : c.Trials nodes ds halt) : ds.map (·.node) <+: nodes := by
  induction trials with
  | all => exact List.prefix_refl _
  | passes _ _ ih => exact (List.prefix_cons_inj _).2 ih
  | halts _ => exact ⟨_, rfl⟩

theorem Trials.complete (trials : c.Trials nodes ds halt) (none : halt = none) :
    ds.map (·.node) = nodes := by
  induction trials with
  | all => rfl
  | passes _ _ ih => rw [List.map_cons, ih none]
  | halts _ => cases none

theorem Trials.halted {e : Error} (trials : c.Trials nodes ds halt) (some : halt = some e) :
    ∃ d ∈ ds, d.result = Option.some (.error e) := by
  induction trials with
  | all => cases some
  | passes _ _ ih =>
    obtain ⟨d, later, failed⟩ := ih some
    exact ⟨d, List.mem_cons_of_mem _ later, failed⟩
  | halts last =>
    cases some
    refine ⟨_, List.mem_cons_self, ?_⟩
    cases last with
    | failed _ failed => exact failed
    | unprepared _ _ failed => exact failed

omit [Backend β] in
/-- A node that came up changes nothing about what the others come to. -/
theorem Verdict.cons {d : Deployment β} (up : d.Succeeded) (verdict : Verdict ds halt r) :
    Verdict (d :: ds) halt r := by
  obtain ⟨n, up⟩ := up
  cases verdict with
  | halted => exact .halted
  | up all => exact .up (List.forall_mem_cons.2 ⟨⟨n, up⟩, all⟩)
  | failed mem failed => exact .failed (List.mem_cons_of_mem _ mem) failed
  | died mem died none =>
    refine .died (List.mem_cons_of_mem _ mem) died (List.forall_mem_cons.2 ⟨fun e failed => ?_, none⟩)
    cases up.symm.trans failed

/-- Trials come to nothing but success if and only if all nodes came up. -/
theorem Trials.succeeds_iff (trials : c.Trials nodes ds halt) (verdict : Verdict ds halt r) :
    r = .ok () ↔ AllUp nodes ds := by
  constructor
  · rintro rfl
    cases verdict with
    | up all => exact ⟨trials.complete rfl, all⟩
  · rintro ⟨-, all⟩
    cases verdict with
    | halted =>
      obtain ⟨d, mem, failed⟩ := trials.halted rfl
      obtain ⟨n, up⟩ := all d mem
      cases up.symm.trans failed
    | up _ => rfl
    | failed mem failed =>
      obtain ⟨n, up⟩ := all _ mem
      cases up.symm.trans failed
    | died mem died _ =>
      obtain ⟨n, up⟩ := all _ mem
      cases up.symm.trans died

end

/-! ## All nodes -/

/-- What deploying nodes by certain calls made of a cluster. -/
structure Deployed (c : Cluster β) (nodes : List NodeParams) (es : List (Event outside))
    (r : Except Error Unit) (c' : Cluster β) (ds : List (Deployment β)) : Prop where
  tried : ∃ halt, c.Trials nodes ds halt ∧ Verdict ds halt r
  followed : ∀ d ∈ ds, (c.deployment d.node).Leads d.events d.result
  interleaved : Interleaving (ds.map (·.events)) es
  setting : c'.setting = c.setting
  params : c'.params = c.params
  members : ∀ name n, c'.members.find? name = some n ↔
    c.members.find? name = some n ∨ ∃ d ∈ ds, d.result = some (.ok n) ∧ d.node.name = name

theorem Deployed.inOrder {nodes : List NodeParams} {r : Except Error Unit}
    {ds : List (Deployment β)} (deployed : c.Deployed nodes es r c' ds) :
    ds.map (·.node) <+: nodes := by
  obtain ⟨halt, trials, -⟩ := deployed.tried
  exact trials.inOrder

theorem Deployed.verdict {nodes : List NodeParams} {r : Except Error Unit}
    {ds : List (Deployment β)} (deployed : c.Deployed nodes es r c' ds) :
    r = .ok () ↔ AllUp nodes ds := by
  obtain ⟨halt, trials, verdict⟩ := deployed.tried
  exact trials.succeeds_iff verdict

/-- The nodes have names of their own that no member has. -/
structure Vacant (c : Cluster β) (nodes : List NodeParams) : Prop where
  distinct : (nodes.map NodeParams.name).Nodup
  free : ∀ node ∈ nodes, c.members.find? node.name = none

theorem register_leads {n : Node β} (free : c.members.find? n.name = none)
    (h : (c.register n).Leads es c') :
    es = [] ∧ c' = { c with members := c.members.insert n.name n } := by
  unfold register at h
  rw [free] at h
  exact Procedure.leads_pure.1 h

omit [Backend β] in
/-- A node that came up leaves the names of the others free. -/
theorem Vacant.tail {node : NodeParams} {rest : List NodeParams} {n : Node β}
    (vacant : c.Vacant (node :: rest)) (same : n.params = node) :
    ({ c with members := c.members.insert n.name n } : Cluster β).Vacant rest := by
  have distinct := List.nodup_cons.1 vacant.distinct
  refine ⟨distinct.2, fun other mem => ?_⟩
  have name : n.name = node.name := congrArg NodeParams.name same
  have ne : other.name ≠ n.name := fun eq =>
    distinct.1 (name ▸ eq ▸ List.mem_map_of_mem mem)
  rw [NameMap.find?_insert_of_ne ne]
  exact vacant.free other (List.mem_cons_of_mem _ mem)

theorem deployInTurn_leads (turn : c.setting.factory.strategy = .sequential)
    {nodes : List NodeParams} (vacant : c.Vacant nodes) {r : Except Error Unit}
    (h : (c.deployInTurn nodes).Leads es (r, c')) : ∃ ds, c.Deployed nodes es r c' ds := by
  induction nodes generalizing c es with
  | nil =>
    obtain ⟨rfl, eq⟩ := Procedure.leads_pure.1 h
    cases eq
    exact ⟨[], ⟨none, .all, .up (by simp)⟩, by simp, .done (by simp), rfl, rfl, by simp⟩
  | cons node rest ih =>
    obtain ⟨fs, gs, result, rfl, up, h⟩ := Procedure.leads_bind.1 h
    have first : (c.deployment node).Leads fs (some result) := by
      unfold deployment
      rw [turn]
      exact Procedure.leads_map.2 ⟨result, up, rfl⟩
    cases result with
    | error e =>
      obtain ⟨rfl, eq⟩ := Procedure.leads_pure.1 h
      cases eq
      let d : Deployment β := ⟨node, fs, some (.error e)⟩
      refine ⟨[d], ⟨some e, .halts (d := d) (.failed turn rfl), .halted⟩, by simpa [d] using first, ?_,
        rfl, rfl, by simp [d]⟩
      simpa using Interleaving.flatten [fs]
    | ok n =>
      have same := (deployNode_leads_ok up).1
      have name : n.name = node.name := congrArg NodeParams.name same
      obtain ⟨_, _, c₁, rfl, registered, h⟩ := Procedure.leads_bind.1 h
      have free : c.members.find? n.name = none := name ▸ vacant.free node List.mem_cons_self
      obtain ⟨rfl, rfl⟩ := register_leads free registered
      obtain ⟨ds, rest_deployed⟩ :=
        ih (c := { c with members := c.members.insert n.name n }) turn (vacant.tail same) h
      let d : Deployment β := ⟨node, fs, some (.ok n)⟩
      refine ⟨d :: ds, ?_, ?_, ?_, rest_deployed.setting, rest_deployed.params, ?_⟩
      · obtain ⟨halt, trials, verdict⟩ := rest_deployed.tried
        exact ⟨halt, .passes (d := d) (.up turn rfl) (trials.congr rfl), verdict.cons ⟨n, rfl⟩⟩
      · intro d hd
        rcases List.mem_cons.1 hd with rfl | hd
        · exact first
        · exact rest_deployed.followed d hd
      · simpa using @Interleaving.prepend _ [] _ _ _ rest_deployed.interleaved.cons_nil fs
      · intro key k
        rw [rest_deployed.members, NameMap.find?_insert_vacant free]
        simp only [List.mem_cons, exists_eq_or_imp, d, Option.some.injEq, Except.ok.injEq, name]
        grind

/-- Nodes that are prepared, and deployed in a pool later on. -/
theorem prepareAll_leads {workers : Nat}
    (atOnce : c.setting.factory.strategy = .concurrent workers) {nodes : List NodeParams}
    {ready : List (Node β)} {failure : Option Error}
    (h : (c.prepareAll nodes).Leads es (ready, failure))
    {parts : List (Pool.Part outside (Except Error (Node β)))}
    (followed : Pool.Followed (ready.map Node.deployOnWorker) parts)
    (others : List (List (Event outside))) {pool : List (Event outside)}
    (interleaved : Interleaving (others ++ parts.map (·.1)) pool) :
    ∃ ds : List (Deployment β), c.Trials nodes ds failure ∧
      (∀ d ∈ ds, (c.deployment d.node).Leads d.events d.result) ∧
      Interleaving (others ++ ds.map (·.events)) (es ++ pool) ∧
      ds.map (·.result) = parts.map (·.2) ++ failure.toList.map (some <| .error ·) := by
  induction nodes generalizing es ready failure parts others with
  | nil =>
    obtain ⟨rfl, eq⟩ := Procedure.leads_pure.1 h
    cases eq
    cases followed
    exact ⟨[], .all, by simp, by simpa using interleaved, by simp⟩
  | cons node rest ih =>
    obtain ⟨fs, gs, result, rfl, prepared, h⟩ := Procedure.leads_bind.1 h
    cases result with
    | error e =>
      obtain ⟨rfl, eq⟩ := Procedure.leads_pure.1 h
      cases eq
      cases followed
      have first : (c.deployment node).Leads fs (some (.error e)) := by
        unfold deployment
        rw [atOnce]
        exact Procedure.leads_bind.2
          ⟨fs, [], .error e, by simp, prepared, Procedure.leads_pure.2 ⟨rfl, rfl⟩⟩
      let d : Deployment β := ⟨node, fs, some (.error e)⟩
      refine ⟨[d], .halts (d := d) (.unprepared atOnce prepared rfl), by simpa [d] using first, ?_,
        by simp [d]⟩
      have alone : Interleaving (others ++ [[]]) pool := by
        simpa using interleaved.append_nil
      simpa using alone.prepend fs
    | ok n =>
      obtain ⟨gs, _, ⟨ready, failure⟩, rfl, prepared_rest, h⟩ := Procedure.leads_bind.1 h
      obtain ⟨rfl, eq⟩ := Procedure.leads_pure.1 h
      cases eq
      cases followed with
      | @cons _ part _ parts worked rest_followed =>
        have first : (c.deployment node).Leads (fs ++ part.1) part.2 := by
          unfold deployment
          rw [atOnce]
          exact prepared.bind worked
        obtain ⟨ds, trials, rest_leads, rest_interleaved, results⟩ :=
          ih prepared_rest rest_followed (others ++ [part.1]) (by simpa using interleaved)
        let d : Deployment β := ⟨node, fs ++ part.1, part.2⟩
        refine ⟨d :: ds, .passes (d := d) (.prepared atOnce rfl prepared worked) trials, ?_, ?_,
          by simp [d, results]⟩
        · intro d hd
          rcases List.mem_cons.1 hd with rfl | hd
          · exact first
          · exact rest_leads d hd
        · have joined : Interleaving (others ++ part.1 :: ds.map (·.events)) (gs ++ pool) := by
            simpa using rest_interleaved
          simpa using joined.prepend fs

theorem registerAll_leads {results : List (Except Error (Node β))}
    (distinct : ((results.filterMap Except.toOption).map Node.name).Nodup)
    (free : ∀ n, .ok n ∈ results → c.members.find? n.name = none) {failure : Option Error}
    (h : (c.registerAll results).Leads es (failure, c')) :
    es = [] ∧ c'.setting = c.setting ∧ c'.params = c.params ∧
      (∀ name n, c'.members.find? name = some n ↔
        c.members.find? name = some n ∨ .ok n ∈ results ∧ n.name = name) ∧
      (failure = none ↔ ∀ r ∈ results, ∃ n, r = .ok n) := by
  induction results generalizing c es failure with
  | nil =>
    obtain ⟨rfl, eq⟩ := Procedure.leads_pure.1 h
    cases eq
    exact ⟨rfl, rfl, rfl, by simp, by simp⟩
  | cons r rest ih =>
    cases r with
    | error e =>
      obtain ⟨_, _, ⟨earlier, c'⟩, rfl, registered, h⟩ := Procedure.leads_bind.1 h
      obtain ⟨rfl, eq⟩ := Procedure.leads_pure.1 h
      cases eq
      obtain ⟨rfl, setting, params, members, -⟩ :=
        ih distinct (fun n hn => free n (List.mem_cons_of_mem _ hn)) registered
      exact ⟨rfl, setting, params, by simpa using members, by simp⟩
    | ok n =>
      obtain ⟨_, _, c₁, rfl, registered, h⟩ := Procedure.leads_bind.1 h
      have vacant := free n List.mem_cons_self
      obtain ⟨rfl, rfl⟩ := register_leads vacant registered
      have distinct : n.name ∉ (rest.filterMap Except.toOption).map Node.name ∧
          ((rest.filterMap Except.toOption).map Node.name).Nodup := by
        simpa [Except.toOption] using distinct
      have other : ∀ k, .ok k ∈ rest → k.name ≠ n.name := by
        intro k hk eq
        refine distinct.1 (eq ▸ List.mem_map_of_mem ?_)
        exact List.mem_filterMap.2 ⟨.ok k, hk, rfl⟩
      obtain ⟨rfl, setting, params, members, verdict⟩ := ih distinct.2 (fun k hk => by
        rw [NameMap.find?_insert_of_ne (other k hk)]
        exact free k (List.mem_cons_of_mem _ hk)) h
      refine ⟨rfl, setting, params, fun name k => ?_, by simp [verdict]⟩
      rw [members, NameMap.find?_insert_vacant vacant]
      simp only [List.mem_cons, Except.ok.injEq]
      grind

/-- The failure that counts is that of a node. -/
theorem registerAll_failure {results : List (Except Error (Node β))} {e : Error}
    (h : (c.registerAll results).Leads es (some e, c')) : .error e ∈ results := by
  induction results generalizing c es c' with
  | nil => cases (Procedure.leads_pure.1 h).2
  | cons r rest ih =>
    cases r with
    | error e' =>
      obtain ⟨_, _, ⟨earlier, c'⟩, -, -, h⟩ := Procedure.leads_bind.1 h
      cases (Procedure.leads_pure.1 h).2
      exact List.mem_cons_self
    | ok n =>
      obtain ⟨_, _, c₁, -, -, h⟩ := Procedure.leads_bind.1 h
      exact List.mem_cons_of_mem _ (ih h)

omit [Backend β] in
/-- The members that came up under names of their own have such names. -/
theorem nodup_member_names {ds : List (Deployment β)}
    (distinct : (ds.map fun d => d.node.name).Nodup)
    (same : ∀ d ∈ ds, ∀ n, d.member? = some n → n.name = d.node.name) :
    ((ds.filterMap Deployment.member?).map Node.name).Nodup := by
  unfold List.Nodup at distinct ⊢
  rw [List.pairwise_map] at distinct ⊢
  rw [List.pairwise_filterMap]
  refine distinct.imp_of_mem fun {d d'} hd hd' ne n hn n' hn' => ?_
  rw [same d hd n hn, same d' hd' n' hn']
  exact ne

section

variable {ds : List (Deployment β)} {parts : List (Pool.Part outside (Except Error (Node β)))}
  {outcome : Pool.Outcome (Except Error (Node β))} {unprepared : Option Error}

omit [Backend β] in
/-- The nodes that came up in a pool are those that came up. -/
theorem members_completed (sums : Pool.Sums .empty parts outcome)
    (results : ds.map (·.result) = parts.map (·.2) ++ unprepared.toList.map (some <| .error ·)) :
    (outcome.completed.filterMap Except.toOption).Perm (ds.filterMap Deployment.member?) := by
  have all : ds.filterMap Deployment.member? =
      (ds.map (·.result)).filterMap (·.bind Except.toOption) := by
    rw [List.filterMap_map]
    rfl
  have parted : (parts.filterMap (·.2)).filterMap Except.toOption =
      (parts.map (·.2)).filterMap (·.bind Except.toOption) := by
    rw [List.filterMap_filterMap, List.filterMap_map]
    rfl
  have failed : (unprepared.toList.map (some <| .error ·)).filterMap
      (·.bind (Except.toOption (α := Node β) (ε := Error))) = [] := by
    cases unprepared <;> rfl
  rw [all, results, List.filterMap_append, failed, List.append_nil, ← parted]
  exact sums.completed.filterMap _

omit [Backend β] in
/-- A pool in which nothing failed is one in which every node came up. -/
theorem verdict_completed (sums : Pool.Sums .empty parts outcome)
    (results : ds.map (·.result) = parts.map (·.2) ++ unprepared.toList.map (some <| .error ·)) :
    unprepared = none ∧ (∀ r ∈ outcome.completed, ∃ n, r = .ok n) ∧ outcome.failed = false ↔
      ∀ d ∈ ds, d.Succeeded := by
  have all : (∀ d ∈ ds, d.Succeeded) ↔ ∀ x ∈ ds.map (·.result), ∃ n, x = some (.ok n) := by
    simp [Deployment.Succeeded]
  have completed : (∀ r ∈ outcome.completed, ∃ n, r = .ok n) ↔
      ∀ part ∈ parts, ∀ r, part.2 = some r → ∃ n, r = .ok n := by
    simp only [sums.completed.mem_iff]
    simp [Pool.Outcome.empty]
    grind
  have failed : outcome.failed = false ↔ ∀ part ∈ parts, part.2 ≠ none := by
    rw [sums.failed]
    simp [Pool.Outcome.empty]
  rw [all, results, completed, failed]
  cases unprepared with
  | some e => simp
  | none =>
    simp only [true_and, Option.toList_none, List.map_nil, List.append_nil, List.forall_mem_map]
    constructor
    · rintro ⟨ok, alive⟩ part hp
      obtain ⟨r, hr⟩ := Option.ne_none_iff_exists'.1 (alive part hp)
      obtain ⟨n, rfl⟩ := ok part hp r hr
      exact ⟨n, hr⟩
    · intro up
      constructor
      · intro part hp r hr
        obtain ⟨n, hn⟩ := up part hp
        exact ⟨n, Option.some.inj (hr.symm.trans hn)⟩
      · intro part hp died
        obtain ⟨n, hn⟩ := up part hp
        exact absurd (died.symm.trans hn) (by simp)

omit [Backend β] in
/-- What a pool comes to is what the nodes came to. -/
theorem verdict_pool (sums : Pool.Sums .empty parts outcome)
    (results : ds.map (·.result) = parts.map (·.2) ++ unprepared.toList.map (some <| .error ·))
    {undeployed : Option Error} (first : ∀ e, undeployed = some e → .error e ∈ outcome.completed)
    (none : undeployed = none → ∀ r ∈ outcome.completed, ∃ n, r = .ok n) :
    Verdict ds unprepared
      ((unprepared.or (undeployed.or (poolFailure outcome))).elim (.ok ()) .error) := by
  have all := verdict_completed sums results
  cases unprepared with
  | some e => exact .halted
  | none =>
    have given (x : Option (Except Error (Node β))) :
        (∃ d ∈ ds, d.result = x) ↔ ∃ part ∈ parts, part.2 = x := by
      rw [Option.toList_none, List.map_nil, List.append_nil] at results
      rw [← List.mem_map, results, List.mem_map]
    have gave (r : Except Error (Node β)) :
        r ∈ outcome.completed ↔ ∃ d ∈ ds, d.result = some r := by
      rw [given, sums.completed.mem_iff]
      simp [Pool.Outcome.empty]
    cases undeployed with
    | some e =>
      obtain ⟨d, mem, failed⟩ := (gave _).1 (first e rfl)
      exact .failed mem failed
    | none =>
      cases dead : outcome.failed with
      | false =>
        have alive : poolFailure outcome = Option.none := by simp [poolFailure, dead]
        rw [alive]
        exact .up (all.1 ⟨rfl, none rfl, dead⟩)
      | true =>
        have died : poolFailure outcome = some (.internal "a worker died") := by
          simp [poolFailure, dead]
        have lost : ∃ part ∈ parts, part.2 = Option.none := by
          have failed := sums.failed
          rw [dead] at failed
          simpa [Pool.Outcome.empty] using failed.symm
        obtain ⟨d, mem, result⟩ := (given _).2 lost
        rw [died]
        refine .died mem result fun d' mem' e failed => ?_
        obtain ⟨n, eq⟩ := none rfl _ ((gave _).2 ⟨d', mem', failed⟩)
        cases eq

end

theorem deployAtOnce_leads {workers : Nat}
    (atOnce : c.setting.factory.strategy = .concurrent workers) {nodes : List NodeParams}
    (vacant : c.Vacant nodes) {r : Except Error Unit}
    (h : (c.deployAtOnce workers nodes).Leads es (r, c')) : ∃ ds, c.Deployed nodes es r c' ds := by
  obtain ⟨fs, _, ⟨ready, unprepared⟩, rfl, prepared, h⟩ := Procedure.leads_bind.1 h
  obtain ⟨gs, _, outcome, rfl, pool, h⟩ := Procedure.leads_bind.1 h
  obtain ⟨_, hs, ⟨undeployed, c₁⟩, rfl, registered, last⟩ := Procedure.leads_bind.1 h
  obtain ⟨parts, followed, interleaved, sums⟩ := Pool.run_leads pool
  obtain ⟨ds, trials, leads, interleaved, results⟩ :=
    prepareAll_leads atOnce prepared followed [] (by simpa using interleaved)
  have inOrder := trials.inOrder
  have members := members_completed sums results
  have name : ∀ d ∈ ds, ∀ n, d.member? = some n → n.name = d.node.name := by
    intro d hd n hn
    have up := leads d hd
    rw [Deployment.member?_eq_some.1 hn] at up
    exact congrArg NodeParams.name (deployment_leads_ok up).1
  have up : ∀ n, .ok n ∈ outcome.completed ↔ ∃ d ∈ ds, d.result = some (.ok n) := by
    intro n
    have same := members.mem_iff (a := n)
    simp only [List.mem_filterMap, Deployment.member?_eq_some, toOption_eq_some] at same
    simpa using same
  have distinct : (ds.map fun d => d.node.name).Nodup := by
    refine List.Nodup.sublist ?_ vacant.distinct
    simpa [Function.comp_def] using inOrder.sublist.map NodeParams.name
  obtain ⟨rfl, setting, params, found, verdict⟩ := registerAll_leads
    ((members.map Node.name).nodup_iff.2 (nodup_member_names distinct name)) (fun n hn => by
      obtain ⟨d, hd, result⟩ := (up n).1 hn
      rw [name d hd n (Deployment.member?_eq_some.2 result)]
      exact vacant.free _ (inOrder.sublist.subset (List.mem_map_of_mem hd))) registered
  have tried := verdict_pool sums results (fun e some => registerAll_failure (some ▸ registered))
    verdict.1
  dsimp only at last
  generalize unprepared.or (undeployed.or (poolFailure outcome)) = failure at last tried
  have concluded : hs = [] ∧ c' = c₁ ∧ r = failure.elim (.ok ()) .error := by
    cases failure with
    | none =>
      obtain ⟨rfl, eq⟩ := Procedure.leads_pure.1 last
      cases eq
      exact ⟨rfl, rfl, rfl⟩
    | some e =>
      obtain ⟨rfl, eq⟩ := Procedure.leads_pure.1 last
      cases eq
      exact ⟨rfl, rfl, rfl⟩
  obtain ⟨rfl, rfl, rfl⟩ := concluded
  refine ⟨ds, ⟨unprepared, trials, tried⟩, leads, by simpa using interleaved, setting, params,
    fun key n => ?_⟩
  rw [found, up]
  constructor
  · rintro (old | ⟨⟨d, hd, result⟩, rfl⟩)
    · exact .inl old
    · exact .inr ⟨d, hd, result, (name d hd n (Deployment.member?_eq_some.2 result)).symm⟩
  · rintro (old | ⟨d, hd, result, rfl⟩)
    · exact .inl old
    · exact .inr ⟨⟨d, hd, result⟩, name d hd n (Deployment.member?_eq_some.2 result)⟩

theorem deployNodes_leads (vacant : c.Vacant c.params.nodes) {r : Except Error Unit}
    (h : c.deployNodes.Leads es (r, c')) : ∃ ds, c.Deployed c.params.nodes es r c' ds := by
  unfold deployNodes at h
  split at h
  · rename_i turn
    exact deployInTurn_leads turn vacant h
  · rename_i atOnce
    exact deployAtOnce_leads atOnce vacant h

end Cluster

end Testbed
