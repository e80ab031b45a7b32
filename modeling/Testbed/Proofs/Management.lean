import Testbed.Management
import Testbed.Proofs.Cluster.Bootstrapping
import Testbed.Proofs.NameMap
/-!
# Requests to a management client

A client serves requests one after another. Whatever these are, the roles of the servers, the epoch
and the log stay in step with the changes that were accepted (`InStep`), a removal is refused just
if there is nothing to remove (`Judges`), and the status says of each member whether it is marked as
down (`Reports`). All of it holds after every request (`requests_in_step`).
-/

namespace Testbed

/-- Of values that are computed from their names, every name keeps its own, however often it
comes. -/
theorem NameMap.find?_foldl_computed {α : Type} {f : String → α} {names : List String}
    {m : NameMap α} {key : String} :
    ((names.map fun name => (name, f name)).foldl (fun m e => m.insert e.1 e.2) m).find? key =
      if key ∈ names then some (f key) else m.find? key := by
  induction names generalizing m with
  | nil => simp
  | cons name names ih =>
    rw [List.map_cons, List.foldl_cons, ih, find?_insert]
    by_cases later : key ∈ names
    · simp [later]
    · by_cases here : key = name
      · simp [here]
      · simp [later, here]

theorem NameMap.find?_computed {α : Type} {f : String → α} {names : List String} {key : String} :
    (ofList (names.map fun name => (name, f name))).find? key =
      if key ∈ names then some (f key) else none :=
  find?_foldl_computed

/-! ## Reports -/

namespace StatusReport

variable {nodes : NameMap NodeStatus}

theorem mem_downNodes {r : StatusReport} {endpoint : String} :
    endpoint ∈ r.downNodes ↔ r.nodes.find? endpoint = some .down := by
  unfold downNodes
  rw [← NameMap.mem_entries]
  simp

theorem length_downNodes (nodes : NameMap NodeStatus) :
    (ofNodes nodes).downNodes.length = (nodes.values.filter (· = .down)).length := by
  unfold downNodes NameMap.values
  rw [List.length_map, List.filter_map, List.length_map]
  rfl

theorem stable_iff : (ofNodes nodes).status = .stable ↔ (ofNodes nodes).downNodes = [] := by
  rw [← List.length_eq_zero_iff, length_downNodes]
  unfold ofNodes
  by_cases none : (nodes.values.filter (· = .down)).length = 0
  · simp [none]
  · simp only [none, if_false, iff_false]
    split <;> exact nofun

theorem unavailable_iff : (ofNodes nodes).status = .unavailable ↔
    nodes.values ≠ [] ∧ ∀ status ∈ nodes.values, status = .down := by
  have all : (nodes.values.filter (· = .down)).length = nodes.values.length ↔
      ∀ status ∈ nodes.values, status = .down := by
    rw [List.length_filter_eq_length_iff]
    simp
  rw [← all, ne_eq, ← List.length_eq_zero_iff]
  unfold ofNodes
  dsimp only
  split
  · simp only [reduceCtorEq, false_iff]
    omega
  · split
    · simp only [true_iff]
      omega
    · simp only [reduceCtorEq, false_iff]
      omega

theorem degraded_iff {r : StatusReport} :
    r.status = .degraded ↔ r.status ≠ .stable ∧ r.status ≠ .unavailable := by
  cases r.status <;> simp

end StatusReport

namespace ManagementClient

/-! ## Serving -/

inductive Verb where
  | add
  | remove
  | forceRemove
  deriving DecidableEq

def Verb.text : Verb → String
  | .add => "add"
  | .remove => "remove"
  | .forceRemove => "force_remove"

/-- A request to change the members. -/
structure Change where
  verb : Verb
  endpoint : String
  retries : UInt32

namespace Change

def text (ch : Change) : String := requestText ch.verb.text ch.endpoint ch.retries

/-- What becomes of the members when the change is carried out. -/
def apply (members : List String) (ch : Change) : List String :=
  match ch.verb with
  | .add => members ++ [ch.endpoint]
  | .remove | .forceRemove => members.filter (· ≠ ch.endpoint)

end Change

inductive Request where
  | change (ch : Change)
  | markDown (endpoint : String)

/-- A client that refused is left as it was. -/
def settle (c : ManagementClient) :
    Except Error ManagementClient → Except Error Unit × ManagementClient
  | .ok changed => (.ok (), changed)
  | .error e => (.error e, c)

/-- What is answered to a request, and the client afterwards. -/
def serve (c : ManagementClient) : Request → Except Error Unit × ManagementClient
  | .change ⟨.add, endpoint, retries⟩ => (.ok (), c.addNode endpoint retries)
  | .change ⟨.remove, endpoint, retries⟩ => c.settle (c.removeNode endpoint retries)
  | .change ⟨.forceRemove, endpoint, retries⟩ => c.settle (c.forceRemoveNode endpoint retries)
  | .markDown endpoint => (.ok (), c.markDown endpoint)

/-- Serves requests one after another. Beside the client stands what was answered to each. -/
def serveAll (c : ManagementClient) :
    List Request → List (Request × Except Error Unit) × ManagementClient
  | [] => ([], c)
  | r :: rest =>
    let (log, last) := (c.serve r).2.serveAll rest
    ((r, (c.serve r).1) :: log, last)

def accepted? : Request × Except Error Unit → Option Change
  | (.change ch, .ok ()) => some ch
  | _ => none

/-- The changes that were accepted, in order. -/
def accepted (log : List (Request × Except Error Unit)) : List Change := log.filterMap accepted?

/-! ## What a client keeps -/

/-- All roles have the same servers, and all there is tells of the same changes. -/
structure InStep (servers : List String) (changes : List Change) (c : ManagementClient) : Prop where
  members : c.layout.layoutServers = changes.foldl Change.apply servers
  sequencers : c.layout.sequencers = c.layout.layoutServers
  stripes : c.layout.segments = [⟨.chainReplication, 0, -1, [⟨c.layout.layoutServers⟩]⟩]
  responsive : c.layout.unresponsiveServers = []
  epoch : c.layout.epoch = Int64.ofNat changes.length
  requests : c.requests = changes.map Change.text

/-- Nothing speaks of the endpoint. -/
structure Rid (endpoint : String) (c : ManagementClient) : Prop where
  layoutServers : endpoint ∉ c.layout.layoutServers
  sequencers : endpoint ∉ c.layout.sequencers
  logServers : ∀ segment ∈ c.layout.segments, ∀ stripe ∈ segment.stripes,
    endpoint ∉ stripe.logServers
  unresponsive : endpoint ∉ c.layout.unresponsiveServers
  down : endpoint ∉ c.down

def notMember (endpoint : String) : Error := .notFound (endpoint ++ " is not in the layout")

/-- How a client answers. -/
structure Judges (c : ManagementClient) : Prop where
  adds : ∀ endpoint retries, (c.serve (.change ⟨.add, endpoint, retries⟩)).1 = .ok ()
  refuses : ∀ ch : Change, ch.verb ≠ .add →
    ((c.serve (.change ch)).1 = .error (notMember ch.endpoint) ↔
      ch.endpoint ∉ c.layout.layoutServers)
  unchanged : ∀ r, (c.serve r).1 ≠ .ok () → (c.serve r).2 = c
  removes : ∀ ch : Change, ch.verb ≠ .add → ch.endpoint ∈ c.layout.layoutServers →
    (c.serve (.change ch)).1 = .ok () ∧ Rid ch.endpoint (c.serve (.change ch)).2 ∧
      ∀ other, other ≠ ch.endpoint → (other ∈ (c.serve (.change ch)).2.down ↔ other ∈ c.down)
  marks : ∀ endpoint other,
    other ∈ (c.serve (.markDown endpoint)).2.down ↔ other = endpoint ∨ other ∈ c.down

/-- What a client says about its cluster. -/
structure Reports (c : ManagementClient) : Prop where
  members : ∀ endpoint, endpoint ∈ c.clusterStatus.nodes.keys ↔ endpoint ∈ c.layout.layoutServers
  once : c.clusterStatus.nodes.keys.Nodup
  nodes : ∀ endpoint ∈ c.layout.layoutServers, c.clusterStatus.nodes.find? endpoint =
    some (if endpoint ∈ c.down then .down else .up)
  downNodes : ∀ endpoint, endpoint ∈ c.clusterStatus.downNodes ↔
    endpoint ∈ c.layout.layoutServers ∧ endpoint ∈ c.down
  stable : c.clusterStatus.status = .stable ↔ c.clusterStatus.downNodes = []
  unavailable : c.clusterStatus.status = .unavailable ↔
    c.layout.layoutServers ≠ [] ∧ ∀ endpoint ∈ c.layout.layoutServers, endpoint ∈ c.down
  degraded : c.clusterStatus.status = .degraded ↔
    (∃ endpoint ∈ c.layout.layoutServers, endpoint ∈ c.down) ∧
      ∃ endpoint ∈ c.layout.layoutServers, endpoint ∉ c.down

variable {servers : List String} {changes : List Change} {c : ManagementClient} {ch : Change}

/-- The client after a removal. -/
def without (c : ManagementClient) (ch : Change) : ManagementClient :=
  { c.change ch.text (·.filter (· ≠ ch.endpoint)) with
    down := c.down.filter (· ≠ ch.endpoint) }

theorem serve_add (add : ch.verb = .add) :
    c.serve (.change ch) = (.ok (), c.change ch.text (· ++ [ch.endpoint])) := by
  obtain ⟨verb, endpoint, retries⟩ := ch
  cases add
  rfl

/-- A member is removed in the same way whether it takes part or not. -/
theorem serve_removal (removal : ch.verb ≠ .add) : c.serve (.change ch) =
    if ch.endpoint ∈ c.layout.layoutServers then (.ok (), c.without ch)
    else (.error (notMember ch.endpoint), c) := by
  have removed (verb : Verb) (endpoint : String) (retries : UInt32) :
      c.settle (removeAs verb.text c endpoint retries) =
        if endpoint ∈ c.layout.layoutServers then (.ok (), c.without ⟨verb, endpoint, retries⟩)
        else (.error (notMember endpoint), c) := by
    unfold removeAs
    by_cases member : endpoint ∈ c.layout.layoutServers
    · rw [if_pos member, if_pos (List.contains_iff_mem.2 member)]
      rfl
    · rw [if_neg member, if_neg (mt List.contains_iff_mem.1 member)]
      rfl
  obtain ⟨verb, endpoint, retries⟩ := ch
  cases verb with
  | add => exact absurd rfl removal
  | remove => exact removed .remove endpoint retries
  | forceRemove => exact removed .forceRemove endpoint retries

/-! ### Changes -/

theorem accepted_cons (entry : Request × Except Error Unit)
    (log : List (Request × Except Error Unit)) :
    accepted (entry :: log) = accepted [entry] ++ accepted log :=
  List.filterMap_append (l := [entry])

theorem inStep_start (clusterId : Uuid) (servers : List String) :
    InStep servers [] (ofLayout (.complete clusterId servers)) :=
  ⟨rfl, rfl, rfl, rfl, rfl, rfl⟩

/-- A change is made to all roles and noted. -/
theorem InStep.change (h : InStep servers changes c) {f : List String → List String}
    (same : ∀ members, f members = Change.apply members ch) :
    InStep servers (changes ++ [ch]) (c.change ch.text f) where
  members := by
    rw [List.foldl_append, ← h.members]
    exact same _
  sequencers := congrArg f h.sequencers
  stripes := by
    change c.layout.segments.map _ = _
    rw [h.stripes]
    rfl
  responsive := h.responsive
  epoch := by
    rw [List.length_append, Int64.ofNat_add, ← h.epoch]
    rfl
  requests := by
    rw [List.map_append, ← h.requests]
    rfl

/-- The marks have no part in this. -/
theorem InStep.marked (h : InStep servers changes c) (down : List String) :
    InStep servers changes { c with down := down } :=
  ⟨h.members, h.sequencers, h.stripes, h.responsive, h.epoch, h.requests⟩

theorem InStep.serve (h : InStep servers changes c) (r : Request) :
    InStep servers (changes ++ accepted [(r, (c.serve r).1)]) (c.serve r).2 := by
  cases r with
  | markDown endpoint =>
    have none : accepted [(Request.markDown endpoint, .ok ())] = [] := rfl
    change InStep servers (changes ++ accepted [(.markDown endpoint, .ok ())])
      (c.markDown endpoint)
    rw [none, List.append_nil]
    exact h.marked _
  | change ch =>
    by_cases add : ch.verb = .add
    · rw [serve_add add]
      exact h.change fun members => by rw [Change.apply, add]
    · have same (members : List String) :
          members.filter (· ≠ ch.endpoint) = Change.apply members ch := by
        unfold Change.apply
        cases verb : ch.verb with
        | add => exact absurd verb add
        | remove | forceRemove => rfl
      rw [serve_removal add]
      split
      · exact (h.change same).marked _
      · have none : accepted [(.change ch, .error (notMember ch.endpoint))] = [] := rfl
        rw [none, List.append_nil]
        exact h

theorem asked_serveAll (c : ManagementClient) (requests : List Request) :
    (c.serveAll requests).1.map (·.1) = requests := by
  induction requests generalizing c with
  | nil => rfl
  | cons r rest ih => exact congrArg (r :: ·) (ih _)

/-- After every request all is in step with the changes accepted so far. -/
theorem InStep.serveAll (h : InStep servers changes c) (requests : List Request) :
    InStep servers (changes ++ accepted (c.serveAll requests).1) (c.serveAll requests).2 := by
  induction requests generalizing c changes with
  | nil => simpa [ManagementClient.serveAll, accepted] using h
  | cons r rest ih =>
    have later := ih (h.serve r)
    rw [List.append_assoc, ← accepted_cons] at later
    exact later

/-- The epoch counts the changes as long as a word can. -/
theorem InStep.toInt_epoch (h : InStep servers changes c)
    (few : changes.length < 9223372036854775808) : c.layout.epoch.toInt = changes.length := by
  rw [h.epoch]
  exact Int64.toInt_ofNat_of_lt few

/-! ### Answers -/

theorem InStep.judges (h : InStep servers changes c) : Judges c where
  adds _ _ := rfl
  refuses ch removal := by
    rw [serve_removal removal]
    split <;> simp_all
  unchanged r refused := by
    cases r with
    | markDown => exact absurd rfl refused
    | change ch =>
      by_cases add : ch.verb = .add
      · rw [serve_add add] at refused
        exact absurd rfl refused
      · rw [serve_removal add] at refused ⊢
        split at refused
        · exact absurd rfl refused
        · simp_all
  removes ch removal member := by
    have after := h.serve (.change ch)
    have gone : ch.endpoint ∉ (c.serve (.change ch)).2.layout.layoutServers := by
      rw [serve_removal removal, if_pos member]
      simp [without, ManagementClient.change, Layout.mapServers]
    refine ⟨by rw [serve_removal removal, if_pos member], ⟨gone, ?_, ?_, ?_, ?_⟩, ?_⟩
    · rwa [after.sequencers]
    · rw [after.stripes]
      simpa using gone
    · simp [after.responsive]
    · rw [serve_removal removal, if_pos member]
      simp [without]
    · intro other different
      rw [serve_removal removal, if_pos member]
      simp [without, different]
  marks endpoint other := by
    change other ∈ (if c.down.contains endpoint then c.down else endpoint :: c.down) ↔ _
    split
    · rename_i marked
      have marked := List.contains_iff_mem.1 marked
      constructor
      · exact .inr
      · rintro (rfl | mem)
        · exact marked
        · exact mem
    · exact List.mem_cons

section

variable {endpoint : String}

/-- What a client knows of an endpoint. -/
def statusOf (c : ManagementClient) (endpoint : String) : NodeStatus :=
  if c.down.contains endpoint then .down else .up

theorem statusOf_eq_down : c.statusOf endpoint = .down ↔ endpoint ∈ c.down := by
  unfold statusOf
  rw [← List.contains_iff_mem]
  split <;> simp_all

theorem find?_nodes (c : ManagementClient) (endpoint : String) :
    c.clusterStatus.nodes.find? endpoint =
      if endpoint ∈ c.layout.layoutServers then some (c.statusOf endpoint) else none :=
  NameMap.find?_computed (f := c.statusOf)

theorem found_iff {status : NodeStatus} : c.clusterStatus.nodes.find? endpoint = some status ↔
    endpoint ∈ c.layout.layoutServers ∧ c.statusOf endpoint = status := by
  rw [find?_nodes]
  split <;> simp_all

theorem mem_downNodes : endpoint ∈ c.clusterStatus.downNodes ↔
    endpoint ∈ c.layout.layoutServers ∧ endpoint ∈ c.down := by
  rw [StatusReport.mem_downNodes, found_iff, statusOf_eq_down]

theorem mem_values {status : NodeStatus} : status ∈ c.clusterStatus.nodes.values ↔
    ∃ endpoint ∈ c.layout.layoutServers, c.statusOf endpoint = status := by
  unfold NameMap.values
  rw [List.mem_map]
  constructor
  · rintro ⟨⟨endpoint, status⟩, mem, rfl⟩
    exact ⟨endpoint, found_iff.1 (NameMap.mem_entries.1 mem)⟩
  · rintro ⟨endpoint, listed⟩
    exact ⟨(endpoint, status), NameMap.mem_entries.2 (found_iff.2 listed), rfl⟩

theorem unavailable_iff : c.clusterStatus.status = .unavailable ↔
    c.layout.layoutServers ≠ [] ∧ ∀ endpoint ∈ c.layout.layoutServers, endpoint ∈ c.down := by
  have some : c.clusterStatus.nodes.values ≠ [] ↔ c.layout.layoutServers ≠ [] := by
    constructor
    · intro some
      obtain ⟨status, mem⟩ := List.exists_mem_of_ne_nil _ some
      obtain ⟨endpoint, member, -⟩ := mem_values.1 mem
      exact List.ne_nil_of_mem member
    · intro some
      obtain ⟨endpoint, member⟩ := List.exists_mem_of_ne_nil _ some
      exact List.ne_nil_of_mem (mem_values.2 ⟨endpoint, member, rfl⟩)
  have all : (∀ status ∈ c.clusterStatus.nodes.values, status = .down) ↔
      ∀ endpoint ∈ c.layout.layoutServers, endpoint ∈ c.down := by
    simp only [mem_values, ← statusOf_eq_down]
    exact ⟨fun h endpoint member => h _ ⟨endpoint, member, rfl⟩,
      fun h status ⟨endpoint, member, told⟩ => told ▸ h endpoint member⟩
  exact StatusReport.unavailable_iff.trans (and_congr some all)

end

theorem reports (c : ManagementClient) : Reports c where
  members endpoint := by
    rw [NameMap.mem_keys]
    simp only [found_iff]
    exact ⟨fun ⟨_, member, _⟩ => member, fun member => ⟨_, member, rfl⟩⟩
  once := NameMap.keys_nodup
  nodes endpoint member := by
    refine found_iff.2 ⟨member, ?_⟩
    simp only [statusOf, List.contains_iff_mem]
  downNodes _ := mem_downNodes
  stable := StatusReport.stable_iff
  unavailable := unavailable_iff
  degraded := by
    have stable : c.clusterStatus.status = .stable ↔ c.clusterStatus.downNodes = [] :=
      StatusReport.stable_iff
    rw [StatusReport.degraded_iff, ne_eq, ne_eq, stable, unavailable_iff,
      List.eq_nil_iff_forall_not_mem]
    simp only [mem_downNodes]
    constructor
    · rintro ⟨some, notAll⟩
      push Not at some notAll
      obtain ⟨endpoint, member, marked⟩ := some
      exact ⟨⟨endpoint, member, marked⟩, notAll (List.ne_nil_of_mem member)⟩
    · rintro ⟨⟨endpoint, member, marked⟩, other, member', unmarked⟩
      exact ⟨fun none => none endpoint ⟨member, marked⟩, fun all => unmarked (all.2 other member')⟩

/-- Whatever is asked of a client for a new cluster, after every request the servers have the same
roles, the epoch counts the accepted changes, in a word of 64 bits, and the log lists them. A
removal is refused just if the endpoint is no member, and then changes nothing; otherwise it leaves
nothing of the endpoint. The status lists the members and says whether none, all or some of them are
down. -/
theorem requests_in_step {servers : List String} (some : servers ≠ []) (distinct : servers.Nodup)
    (clusterId : Uuid) :
    ∃ c, ofServers clusterId servers = .ok c ∧ ∀ requests,
      let log := (c.serveAll requests).1
      let now := (c.serveAll requests).2
      log.map (·.1) = requests ∧ InStep servers (accepted log) now ∧
        ((accepted log).length < 9223372036854775808 →
          now.layout.epoch.toInt = (accepted log).length) ∧
        Judges now ∧ Reports now := by
  refine ⟨ofLayout (.complete clusterId servers), ?_, fun requests => ?_⟩
  · unfold ofServers
    rw [Layout.bootstrap_eq_ok some distinct]
    rfl
  · have kept := (inStep_start clusterId servers).serveAll requests
    rw [List.nil_append] at kept
    exact ⟨asked_serveAll _ requests, kept, kept.toInt_epoch, kept.judges, reports _⟩

/-- A member that is added again and removed in both places, one that is down, and one that is
unknown, until no member is left. -/
def turnover : List Request :=
  [.change ⟨.add, "a:1", 5⟩, .markDown "b:1", .change ⟨.remove, "c:1", 5⟩,
    .change ⟨.remove, "a:1", 5⟩, .change ⟨.forceRemove, "b:1", 0⟩]

theorem requests_in_step_emptied :
    ["a:1", "b:1"] ≠ ([] : List String) ∧ ["a:1", "b:1"].Nodup ∧
    ∃ c, ofServers (.ofRandom 0) ["a:1", "b:1"] = .ok c ∧
      (c.serveAll (turnover.take 4)).2.layout.sequencers = ["b:1"] ∧
      (c.serveAll (turnover.take 4)).2.clusterStatus.status = .unavailable ∧
      (c.serveAll turnover).2.layout.segments = [⟨.chainReplication, 0, -1, [⟨[]⟩]⟩] ∧
      (c.serveAll turnover).2.layout.epoch.toInt = 3 ∧
      (c.serveAll turnover).2.requests =
        ["add a:1 retries=5", "remove a:1 retries=5", "force_remove b:1 retries=0"] ∧
      (c.serveAll turnover).2.clusterStatus.status = .stable := by
  have some : ["a:1", "b:1"] ≠ ([] : List String) := by decide
  have distinct : ["a:1", "b:1"].Nodup := by decide
  obtain ⟨c, made, served⟩ := requests_in_step some distinct (.ofRandom 0)
  obtain ⟨-, early, -, -, told⟩ := served (turnover.take 4)
  obtain ⟨-, late, count, -, last⟩ := served turnover
  obtain rfl : ofLayout (.complete (.ofRandom 0) ["a:1", "b:1"]) = c :=
    Except.ok.inj <|
      (congrArg (·.map ofLayout) (Layout.bootstrap_eq_ok some distinct)).symm.trans made
  have few : (accepted ((ofLayout (.complete (.ofRandom 0) ["a:1", "b:1"])).serveAll
      turnover).1).length = 3 := by decide +kernel
  have left : ((ofLayout (.complete (.ofRandom 0) ["a:1", "b:1"])).serveAll
      (turnover.take 4)).2.layout.layoutServers = ["b:1"] := early.members
  have none : ((ofLayout (.complete (.ofRandom 0) ["a:1", "b:1"])).serveAll
      turnover).2.layout.layoutServers = [] := late.members
  refine ⟨some, distinct, _, made, early.sequencers.trans left, ?_, ?_, ?_, late.requests, ?_⟩
  · refine told.unavailable.2 ⟨by simp [left], ?_⟩
    rw [left]
    decide +kernel
  · rw [late.stripes, none]
  · rw [count (by rw [few]; decide), few]
    rfl
  · refine last.stable.2 (List.eq_nil_iff_forall_not_mem.2 fun endpoint mem => ?_)
    have member := ((last.downNodes endpoint).1 mem).1
    rw [none] at member
    cases member

end ManagementClient

end Testbed
