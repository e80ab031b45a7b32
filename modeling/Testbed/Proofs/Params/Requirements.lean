import Testbed.Params.Format
import Testbed.Proofs.NameMap
/-!
# What is asked of parameters

Validation goes through a list of requirements, in the order in which they are listed here, and
complains about the first one that is not met. Together the requirements say that the parameters are
valid: a cluster is registered under its own name, has servers on ports of their own, and with a
list of hosts places each of them on one of the hosts. What is read from a file is valid, and the
nodes of valid parameters can be started.
-/

namespace Testbed

/-- A condition on the parameters, and what is complained about where it is violated. -/
structure Requirement where
  met : Bool
  complaint : String
  deriving DecidableEq

namespace Requirement

/-- Complains about the first requirement that is not met. -/
def verdict (all : List Requirement) : Except Error Unit :=
  match all.find? (!·.met) with
  | none => .ok ()
  | some r => .error (.config r.complaint)

variable {all more : List Requirement}

theorem verdict_cons (r : Requirement) :
    verdict (r :: all) = if r.met then verdict all else .error (.config r.complaint) := by
  unfold verdict
  cases met : r.met <;> simp [met]

theorem verdict_append : verdict (all ++ more) = (verdict all >>= fun _ => verdict more) := by
  induction all with
  | nil => rfl
  | cons r rest ih =>
    rw [List.cons_append, verdict_cons, verdict_cons, ih]
    split <;> rfl

/-- A check that stands before others. -/
theorem verdict_guard {p : Prop} [Decidable p] {met : Bool} {complaint : String}
    {x : Except Error Unit} (violated : p ↔ met = false) (rest : x = verdict all) :
    (if p then .error (.config complaint) else x) = verdict (⟨met, complaint⟩ :: all) := by
  rw [verdict_cons, rest]
  cases met with
  | false => exact if_pos (violated.2 rfl)
  | true => exact if_neg (by simp [violated])

theorem verdict_eq_ok : verdict all = .ok () ↔ ∀ r ∈ all, r.met = true := by
  have none_violated : all.find? (!·.met) = none ↔ ∀ r ∈ all, r.met = true := by simp
  rw [← none_violated, verdict]
  cases all.find? (!·.met) <;> simp

theorem verdict_eq_error {err : Error} : verdict all = .error err ↔
    ∃ before r after, all = before ++ r :: after ∧ (∀ earlier ∈ before, earlier.met = true) ∧
      r.met = false ∧ err = .config r.complaint := by
  unfold verdict
  constructor
  · intro complained
    cases first : all.find? (!·.met) with
    | none =>
      rw [first] at complained
      cases complained
    | some r =>
      rw [first] at complained
      obtain ⟨violated, before, after, split, earlier⟩ := List.find?_eq_some_iff_append.1 first
      exact ⟨before, r, after, split, by simpa using earlier, by simpa using violated,
        (Except.error.inj complained).symm⟩
  · rintro ⟨before, r, after, split, earlier, violated, rfl⟩
    have first : all.find? (!·.met) = some r :=
      List.find?_eq_some_iff_append.2 ⟨by simpa using violated, before, after, split,
        by simpa using earlier⟩
    rw [first]

end Requirement

namespace NodeParams

/-- With a list of hosts, a node has to be placed on one of them. -/
def placement (vm : Option VmParams) (node : NodeParams) : List Requirement :=
  vm.toList.map fun v =>
    match node.host with
    | none => ⟨false, "Node " ++ node.name ++ " has no host assigned"⟩
    | some host => ⟨v.hosts.contains host,
        "Node " ++ node.name ++ " refers to unknown host " ++ host⟩

/-- What is asked of a node beside others, the ports of which are `taken`. -/
def requirements (cluster : String) (vm : Option VmParams) (taken : List UInt16)
    (node : NodeParams) : List Requirement :=
  ⟨!taken.contains node.port, "Duplicate port " ++ node.portText ++ " in cluster " ++ cluster⟩ ::
    ⟨node.persistence = .memory || !Text.allBlank node.logDir,
      "Invalid log dir in disk persistence mode for " ++ node.name⟩ ::
    node.placement vm

/-- A node that can be started, on one of the hosts if there is a list of them. -/
structure Valid (vm : Option VmParams) (node : NodeParams) : Prop where
  stored : node.persistence = .disk → ∃ ch ∈ node.logDir.toList, Text.isBlank ch = false
  placed : ∀ v, vm = some v → ∃ host ∈ v.hosts.keys, node.host = some host

variable {cluster : String} {vm : Option VmParams} {taken : List UInt16} {node : NodeParams}

/-- All that a command line can lack is a place to keep the data. -/
theorem commandLine_cases (node : NodeParams) :
    ((node.persistence = .memory || !Text.allBlank node.logDir) = true ∧
        ∃ arguments, node.commandLine = .ok arguments) ∨
      ((node.persistence = .memory || !Text.allBlank node.logDir) = false ∧
        node.commandLine =
          .error (.config ("Invalid log dir in disk persistence mode for " ++ node.name))) := by
  unfold commandLine storageFlags
  cases node.persistence with
  | memory => exact .inl ⟨rfl, _, rfl⟩
  | disk =>
    cases Text.allBlank node.logDir with
    | false => exact .inl ⟨rfl, _, rfl⟩
    | true => exact .inr ⟨rfl, rfl⟩

theorem checkHost_eq :
    ClusterParams.checkHost vm node = Requirement.verdict (node.placement vm) := by
  unfold ClusterParams.checkHost placement
  cases vm with
  | none => rfl
  | some v =>
    cases node.host with
    | none => rfl
    | some host =>
      rw [Option.toList_some, List.map_singleton, Requirement.verdict_cons]
      rfl

/-- A node is checked before the ones after it. -/
theorem checkNodes_cons {rest : List NodeParams} :
    ClusterParams.checkNodes cluster vm taken (node :: rest) =
      (Requirement.verdict (node.requirements cluster vm taken) >>= fun _ =>
        ClusterParams.checkNodes cluster vm (taken ++ [node.port]) rest) := by
  unfold requirements
  rw [ClusterParams.checkNodes, checkHost_eq, Requirement.verdict_cons, Requirement.verdict_cons]
  cases free : taken.contains node.port with
  | true => rfl
  | false =>
    obtain ⟨stored, arguments, line⟩ | ⟨missing, line⟩ := commandLine_cases node
    · rw [line, stored]
      rfl
    · rw [line, missing]
      rfl

theorem exists_not_blank {text : String} :
    (∃ ch ∈ text.toList, Text.isBlank ch = false) ↔ Text.allBlank text = false := by
  simp [Text.allBlank]

theorem placement_met : (∀ r ∈ node.placement vm, r.met = true) ↔
    ∀ v, vm = some v → ∃ host ∈ v.hosts.keys, node.host = some host := by
  unfold placement
  cases vm with
  | none => simp
  | some v =>
    cases node.host with
    | none => simp
    | some host => simp [NameMap.contains_iff, NameMap.mem_keys]

theorem stored_met : (node.persistence = .memory || !Text.allBlank node.logDir) = true ↔
    (node.persistence = .disk → ∃ ch ∈ node.logDir.toList, Text.isBlank ch = false) := by
  rw [exists_not_blank]
  cases node.persistence <;> simp

theorem requirements_met : (∀ r ∈ node.requirements cluster vm taken, r.met = true) ↔
    node.port ∉ taken ∧ node.Valid vm := by
  simp only [requirements, List.forall_mem_cons, placement_met, stored_met]
  constructor
  · rintro ⟨free, stored, placed⟩
    exact ⟨by simpa using free, stored, placed⟩
  · rintro ⟨free, valid⟩
    exact ⟨by simpa using free, valid.stored, valid.placed⟩

/-- A valid node can be started. -/
theorem Valid.commandLine (valid : node.Valid vm) :
    ∃ arguments, node.commandLine = .ok arguments := by
  obtain ⟨-, line⟩ | ⟨missing, -⟩ := commandLine_cases node
  · exact line
  · have stored := stored_met.2 valid.stored
    rw [missing] at stored
    cases stored

end NodeParams

namespace ClusterParams

/-- What is asked of a cluster registered under a name: first of itself, then of its nodes one after
the other, each beside those before it. -/
def requirements (vm : Option VmParams) (key : String) (c : ClusterParams) : List Requirement :=
  ⟨key = c.name, "Cluster registered as " ++ key ++ " is named " ++ c.name⟩ ::
    ⟨!Text.allBlank c.name, "Cluster name must not be empty"⟩ ::
    ⟨c.nodeType = .server, "Cluster " ++ c.name ++ " has node type " ++ c.nodeType.text ++
      ", only servers can be deployed"⟩ ::
    c.nodes.zipIdx.flatMap fun e => e.1.requirements c.name vm ((c.nodes.take e.2).map (·.port))

/-- A cluster of servers that can be deployed together, registered under its own name. -/
structure Valid (vm : Option VmParams) (key : String) (c : ClusterParams) : Prop where
  registered : c.name = key
  named : ∃ ch ∈ c.name.toList, Text.isBlank ch = false
  servers : c.nodeType = .server
  ports : (c.nodes.map (·.port)).Nodup
  nodes : ∀ node ∈ c.nodes, node.Valid vm

variable {c : ClusterParams} {vm : Option VmParams} {key : String}

/-- The nodes are checked in order, each beside those before it. -/
theorem checkNodes_eq (name : String) (vm : Option VmParams) (before after : List NodeParams) :
    checkNodes name vm (before.map (·.port)) after =
      Requirement.verdict ((after.zipIdx before.length).flatMap fun e =>
        e.1.requirements name vm (((before ++ after).take e.2).map (·.port))) := by
  induction after generalizing before with
  | nil => rfl
  | cons node rest ih =>
    have further := ih (before ++ [node])
    rw [List.map_append, List.length_append, List.append_assoc] at further
    rw [NodeParams.checkNodes_cons, List.zipIdx_cons, List.flatMap_cons,
      Requirement.verdict_append, List.take_left]
    exact congrArg _ (funext fun _ => further)

theorem checkCluster_eq :
    UniverseParams.checkCluster vm key c = Requirement.verdict (c.requirements vm key) := by
  have nodes := checkNodes_eq c.name vm [] c.nodes
  exact Requirement.verdict_guard (p := key ≠ c.name) (by simp)
    (Requirement.verdict_guard (p := Text.allBlank c.name) (by simp)
      (Requirement.verdict_guard (p := c.nodeType ≠ .server) (by simp) nodes))

/-- The ports are distinct if each differs from those before it. -/
theorem nodup_ports_iff {nodes : List NodeParams} : (nodes.map (·.port)).Nodup ↔
    ∀ e ∈ nodes.zipIdx, e.1.port ∉ (nodes.take e.2).map (·.port) := by
  unfold List.Nodup
  rw [List.pairwise_map, List.pairwise_iff_getElem]
  constructor
  · rintro apart ⟨node, i⟩ listed taken
    obtain ⟨bound, rfl⟩ := List.getElem?_eq_some_iff.1 (List.mk_mem_zipIdx_iff_getElem?.1 listed)
    obtain ⟨other, mem, same⟩ := List.mem_map.1 taken
    obtain ⟨j, earlier, rfl⟩ := List.mem_take_iff_getElem.1 mem
    exact apart j i (by omega) bound (by omega) same
  · intro free i j _ bound earlier same
    have listed : (nodes[j], j) ∈ nodes.zipIdx :=
      List.mk_mem_zipIdx_iff_getElem?.2 (List.getElem?_eq_getElem bound)
    refine free _ listed (List.mem_map.2 ⟨nodes[i], ?_, same⟩)
    exact List.mem_take_iff_getElem.2 ⟨i, by omega, rfl⟩

theorem requirements_met :
    (∀ r ∈ c.requirements vm key, r.met = true) ↔ c.Valid vm key := by
  have each : (∀ node ∈ c.nodes, node.Valid vm) ↔ ∀ e ∈ c.nodes.zipIdx, e.1.Valid vm := by
    have listed := List.forall_mem_map (f := Prod.fst) (l := c.nodes.zipIdx)
      (P := fun node : NodeParams => node.Valid vm)
    rwa [List.zipIdx_map_fst] at listed
  have nodes : (∀ r ∈ c.nodes.zipIdx.flatMap fun e =>
      e.1.requirements c.name vm ((c.nodes.take e.2).map (·.port)), r.met = true) ↔
      (c.nodes.map (·.port)).Nodup ∧ ∀ node ∈ c.nodes, node.Valid vm := by
    rw [nodup_ports_iff, each, List.forall_mem_flatMap]
    simp only [NodeParams.requirements_met, forall_and]
  simp only [requirements, List.forall_mem_cons, nodes]
  constructor
  · rintro ⟨registered, named, servers, ports, valid⟩
    exact ⟨by simpa using Eq.symm (of_decide_eq_true registered),
      NodeParams.exists_not_blank.2 (by simpa using named), by simpa using servers, ports, valid⟩
  · intro valid
    exact ⟨by simp [valid.registered], by simp [NodeParams.exists_not_blank.1 valid.named],
      by simp [valid.servers], valid.ports, valid.nodes⟩

end ClusterParams

namespace UniverseParams

/-- What is asked of the parameters, with the clusters in ascending order of their keys. -/
def requirements (p : UniverseParams) : List Requirement :=
  ⟨p.workers ≠ 0, "workers must be positive"⟩ ::
    ⟨!p.bootstrap.command.isEmpty, "bootstrap command must not be empty"⟩ ::
    p.clusters.entries.flatMap fun e => e.2.requirements p.vm e.1

structure Valid (p : UniverseParams) : Prop where
  workers : 0 < p.workers
  command : p.bootstrap.command ≠ []
  clusters : ∀ key c, p.clusters.find? key = some c → c.Valid p.vm key

variable {p : UniverseParams}

theorem checkClusters_eq (vm : Option VmParams) (entries : List (String × ClusterParams)) :
    (entries.forM fun e => checkCluster vm e.1 e.2) =
      Requirement.verdict (entries.flatMap fun e => e.2.requirements vm e.1) := by
  induction entries with
  | nil => rfl
  | cons e rest ih =>
    rw [List.flatMap_cons, Requirement.verdict_append, ← ih, ← ClusterParams.checkCluster_eq]
    rfl

theorem validate_eq (p : UniverseParams) : p.validate = Requirement.verdict p.requirements := by
  have clusters := checkClusters_eq p.vm p.clusters.entries
  exact Requirement.verdict_guard (p := p.workers = 0) (by simp)
    (Requirement.verdict_guard (p := p.bootstrap.command.isEmpty) (by simp) clusters)

theorem requirements_met : (∀ r ∈ p.requirements, r.met = true) ↔ p.Valid := by
  have clusters : (∀ r ∈ p.clusters.entries.flatMap fun e => e.2.requirements p.vm e.1,
      r.met = true) ↔ ∀ key c, p.clusters.find? key = some c → c.Valid p.vm key := by
    simp only [List.forall_mem_flatMap, ClusterParams.requirements_met, Prod.forall,
      NameMap.mem_entries]
  have some_worker : p.workers ≠ 0 ↔ 0 < p.workers := by
    simp only [UInt64.lt_iff_toNat_lt, ne_eq, ← UInt64.toNat_inj]
    simp [Nat.pos_iff_ne_zero]
  simp only [requirements, List.forall_mem_cons, clusters, decide_eq_true_eq, some_worker]
  constructor
  · rintro ⟨workers, command, valid⟩
    exact ⟨workers, by simpa using command, valid⟩
  · intro valid
    exact ⟨valid.workers, by simp [valid.command], valid.clusters⟩

theorem validate_eq_ok_iff : p.validate = .ok () ↔ p.Valid := by
  rw [validate_eq, Requirement.verdict_eq_ok, requirements_met]

/-- The nodes of valid parameters can all be started. -/
theorem Valid.commandLine (valid : p.Valid) {c : ClusterParams} (configured : c ∈ p.clusters.values)
    {node : NodeParams} (listed : node ∈ c.nodes) :
    ∃ arguments, node.commandLine = .ok arguments := by
  obtain ⟨⟨key, d⟩, entry, rfl⟩ := List.mem_map.1 configured
  exact ((valid.clusters key d (NameMap.mem_entries.1 entry)).nodes node listed).commandLine

theorem load_bytes (bytes : List UInt8) : load (.ok bytes) = (do
    let some document := Text.Utf8.strict? bytes | throw (Error.file .notText)
    let q ← (parse document).mapError Error.json
    q.validate
    return q) := rfl

/-- What is loaded is what the file says, if that is valid. -/
theorem load_eq_ok_iff {file : Except FileError (List UInt8)} : load file = .ok p ↔
    ∃ bytes document, file = .ok bytes ∧ Text.Utf8.strict? bytes = some document ∧
      parse document = .ok p ∧ p.Valid := by
  constructor
  · intro loaded
    cases file with
    | error e => cases loaded
    | ok bytes =>
      rw [load_bytes] at loaded
      cases text : Text.Utf8.strict? bytes with
      | none =>
        rw [text] at loaded
        cases loaded
      | some document =>
        rw [text] at loaded
        cases parsed : parse document with
        | error e =>
          simp only [parsed] at loaded
          cases loaded
        | ok q =>
          simp only [parsed] at loaded
          change (q.validate >>= fun _ => .ok q) = .ok p at loaded
          cases checked : q.validate with
          | error e =>
            rw [checked] at loaded
            cases loaded
          | ok u =>
            rw [checked] at loaded
            cases loaded
            exact ⟨bytes, document, rfl, text, parsed, validate_eq_ok_iff.1 checked⟩
  · rintro ⟨bytes, document, rfl, text, parsed, valid⟩
    rw [load_bytes, text]
    simp only [parsed]
    change (p.validate >>= fun _ => .ok p) = .ok p
    rw [validate_eq_ok_iff.2 valid]
    rfl

/-- Validation accepts exactly the valid parameters and otherwise complains about the first
requirement that is violated. Only valid parameters can be loaded, and their nodes can be started. -/
theorem validate_requirements (p : UniverseParams) :
    (p.validate = .ok () ↔ p.Valid) ∧
      (∀ err, p.validate = .error err ↔ ∃ before r after, p.requirements = before ++ r :: after ∧
        (∀ earlier ∈ before, earlier.met = true) ∧ r.met = false ∧ err = .config r.complaint) ∧
      (∀ file, load file = .ok p ↔ ∃ bytes document, file = .ok bytes ∧
        Text.Utf8.strict? bytes = some document ∧ parse document = .ok p ∧ p.Valid) ∧
      (p.Valid → ∀ c ∈ p.clusters.values, ∀ node ∈ c.nodes,
        ∃ arguments, node.commandLine = .ok arguments) := by
  refine ⟨validate_eq_ok_iff, ?_, fun _ => load_eq_ok_iff, ?_⟩
  · intro err
    rw [validate_eq]
    exact Requirement.verdict_eq_error
  · intro valid c configured node listed
    exact valid.commandLine configured listed

def paired : ClusterParams :=
  { ClusterParams.named "alpha" with nodes := [.ofPort 9000, .ofPort 9001] }

/-- A cluster registered under the name of another, whose nodes share a port. -/
def misnamed : ClusterParams :=
  { ClusterParams.named "gamma" with nodes := [.ofPort 9000, .ofPort 9000] }

/-- The name is complained about before the port, and without that cluster nothing is. -/
theorem validate_requirements_misnamed :
    validate { default with clusters := .ofList [("alpha", paired), ("beta", misnamed)] } =
        .error (.config "Cluster registered as beta is named gamma") ∧
      ∀ node ∈ paired.nodes, ∃ arguments, node.commandLine = .ok arguments := by
  constructor
  · let p : UniverseParams :=
      { default with clusters := .ofList [("alpha", paired), ("beta", misnamed)] }
    refine ((validate_requirements p).2.1 _).2 ⟨p.requirements.take 9,
      ⟨false, "Cluster registered as beta is named gamma"⟩, p.requirements.drop 10, ?_⟩
    decide
  · obtain ⟨accepted, -, -, started⟩ :=
      validate_requirements { default with clusters := .ofList [("alpha", paired)] }
    exact started (accepted.1 rfl) paired (List.mem_singleton_self _)

end UniverseParams

end Testbed
