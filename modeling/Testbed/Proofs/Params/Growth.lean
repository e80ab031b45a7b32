import Testbed.Proofs.Firewall
import Testbed.Proofs.Params.Validity
/-!
# How a cluster grows

Adding a node compares endpoints, validation compares ports, and both find the same. A node is added
just if its port is new, and a list of nodes is refused by validation for its ports at the node that
adding them one by one would refuse (`ports_tell_apart`). The rendering of a port is what carries
this: whatever is derived from it, down to the directory of the logs, gives the port back.
-/

namespace Testbed

/-! ## Directories of different nodes -/

namespace Path

/-- The components of a path of these characters. -/
def componentsOf (cs : List Char) : List String :=
  ((Text.split '/' cs).map String.ofList).filter fun c => c ≠ "" ∧ c ≠ "."

theorem componentsOf_append (as bs : List Char) :
    componentsOf (as ++ '/' :: bs) = componentsOf as ++ componentsOf bs := by
  unfold componentsOf
  rw [Text.split_append, List.map_append, List.filter_append]

/-- Joining puts the components of a relative path behind those of the base. -/
theorem components_join {base part : String} (relative : isAbsolute part = false) :
    components (join base part) = components base ++ components part := by
  unfold join
  rw [relative, Bool.false_or]
  split
  · rename_i empty
    obtain rfl : base = "" := String.isEmpty_iff.1 empty
    rfl
  · split
    · rename_i slash
      obtain ⟨front, ends⟩ := List.getLast?_eq_some_iff.1 slash
      change componentsOf (base ++ part).toList =
        componentsOf base.toList ++ componentsOf part.toList
      rw [String.toList_append, ends, List.append_assoc, List.singleton_append,
        componentsOf_append, componentsOf_append]
      simp [componentsOf, Text.split]
    · change componentsOf (base ++ "/" ++ part).toList = _
      rw [String.toList_append, String.toList_append, List.append_assoc]
      exact componentsOf_append base.toList part.toList

end Path

namespace NodeParams

variable {p q : NodeParams}

theorem slash_not_mem_name : '/' ∉ p.name.toList := by
  intro mem
  have digit : '/' ∈ Nat.toDigits 10 p.port.toNat := by
    simpa [name, String.toList_append, toList_portText] using mem
  exact absurd (Nat.isDigit_of_mem_toDigits (by decide) (by decide) digit) (by decide)

/-- The name of the node begins a component of its directory. -/
theorem components_serverLogDir (p : NodeParams) (root service stamp : String) {piece : List Char}
    {pieces : List (List Char)} (rest : Text.split '/' ('_' :: stamp.toList) = piece :: pieces) :
    Path.components (p.serverLogDir root service stamp) =
      Path.components (Path.join root service) ++ String.ofList (p.name.toList ++ piece) ::
        (pieces.map String.ofList).filter fun c => c ≠ "" ∧ c ≠ "." := by
  obtain ⟨more, begins⟩ : ∃ more, p.name.toList = 'n' :: more :=
    ⟨"ode".toList ++ p.portText.toList, by simp [name]⟩
  have relative : Path.isAbsolute (p.name ++ "_" ++ stamp) = false := by
    simp [Path.isAbsolute, begins]
  have own : Path.components (p.name ++ "_" ++ stamp) = String.ofList (p.name.toList ++ piece) ::
      (pieces.map String.ofList).filter fun c => c ≠ "" ∧ c ≠ "." := by
    have chars : (p.name ++ "_" ++ stamp).toList = p.name.toList ++ '_' :: stamp.toList := by simp
    have something : String.ofList (p.name.toList ++ piece) ≠ "" ∧
        String.ofList (p.name.toList ++ piece) ≠ "." := by
      simp [← String.toList_inj, begins]
    unfold Path.components
    rw [chars, Text.split_append_of_not_mem slash_not_mem_name rest, List.map_cons]
    exact List.filter_cons_of_pos (decide_eq_true something)
  rw [serverLogDir, Path.components_join relative, own]

theorem port_eq_of_serverLogDir_eq {root service stamp : String}
    (same : Path.components (p.serverLogDir root service stamp) =
      Path.components (q.serverLogDir root service stamp)) : p.port = q.port := by
  cases rest : Text.split '/' ('_' :: stamp.toList) with
  | nil => exact absurd rest (Text.split_ne_nil _ _)
  | cons piece pieces =>
    rw [components_serverLogDir p root service stamp rest,
      components_serverLogDir q root service stamp rest, List.append_cancel_left_eq,
      List.cons.injEq, String.ofList_inj, List.append_cancel_right_eq] at same
    exact port_eq_of_name_eq (String.toList_inj.1 same.1)

/-- What a node is called and where its things are tells its port. -/
theorem apart_of_port_ne (apart : p.port ≠ q.port) :
    p.name ≠ q.name ∧ p.endpoint ≠ q.endpoint ∧ ∀ root service stamp : String,
      Path.components (p.serverLogDir root service stamp) ≠
        Path.components (q.serverLogDir root service stamp) :=
  ⟨fun same => apart (port_eq_of_name_eq same), fun same => apart (port_eq_of_endpoint_eq same),
    fun _ _ _ same => apart (port_eq_of_serverLogDir_eq same)⟩

end NodeParams

/-! ## Nodes added one after another -/

namespace ClusterParams

variable {c d grown : ClusterParams} {vm : Option VmParams} {node : NodeParams}

def duplicateEndpoint (name : String) (node : NodeParams) : Error :=
  .config ("Duplicate endpoint " ++ node.endpoint ++ " in cluster " ++ name)

/-- The port of a node decides whether it can be added. -/
theorem addNode_eq (c : ClusterParams) (node : NodeParams) : c.addNode node =
    if node.port ∈ c.nodes.map (·.port) then .error (duplicateEndpoint c.name node)
    else .ok { c with nodes := c.nodes ++ [node] } := by
  have taken : c.nodes.any (·.endpoint = node.endpoint) = true ↔
      node.port ∈ c.nodes.map (·.port) := by
    simp only [List.any_eq_true, decide_eq_true_eq, List.mem_map]
    constructor
    · rintro ⟨other, mem, same⟩
      exact ⟨other, mem, NodeParams.port_eq_of_endpoint_eq same⟩
    · rintro ⟨other, mem, same⟩
      exact ⟨other, mem, NodeParams.endpoint_eq_of_port_eq same⟩
  unfold addNode
  simp only [taken]
  rfl

/-- Adds the nodes one after another, where one that is refused leaves the cluster as it is. Beside
the cluster stands what was answered for each of them. -/
def addEach (c : ClusterParams) :
    List NodeParams → List (NodeParams × Except Error Unit) × ClusterParams
  | [] => ([], c)
  | node :: rest =>
    match c.addNode node with
    | .ok grown => ((node, .ok ()) :: (grown.addEach rest).1, (grown.addEach rest).2)
    | .error e => ((node, .error e) :: (c.addEach rest).1, (c.addEach rest).2)

/-- The nodes that were not refused. -/
def accepted (log : List (NodeParams × Except Error Unit)) : List NodeParams :=
  (log.filter (·.2.isOk)).map (·.1)

/-- How nodes that are offered to a cluster are answered, and what the cluster has afterwards. -/
structure Grown (c : ClusterParams) (offered : List NodeParams)
    (log : List (NodeParams × Except Error Unit)) (grown : ClusterParams) : Prop where
  offered : log.map (·.1) = offered
  answered : ∀ before node answer after, log = before ++ (node, answer) :: after →
    answer = if node.port ∈ (c.nodes ++ accepted before).map (·.port) then
      .error (duplicateEndpoint c.name node) else .ok ()
  grown : grown = { c with nodes := c.nodes ++ accepted log }

section

variable {rest : List NodeParams} {log : List (NodeParams × Except Error Unit)}

theorem Grown.refused (taken : node.port ∈ c.nodes.map (·.port)) (later : Grown c rest log grown) :
    Grown c (node :: rest) ((node, .error (duplicateEndpoint c.name node)) :: log) grown where
  offered := by rw [List.map_cons, later.offered]
  answered before other answer after split := by
    cases before with
    | nil =>
      cases split
      simpa [accepted] using taken
    | cons entry before =>
      obtain ⟨rfl, further⟩ := List.cons.inj split
      exact later.answered before other answer after further
  grown := later.grown

theorem Grown.added (free : node.port ∉ c.nodes.map (·.port))
    (later : Grown { c with nodes := c.nodes ++ [node] } rest log grown) :
    Grown c (node :: rest) ((node, .ok ()) :: log) grown where
  offered := by rw [List.map_cons, later.offered]
  answered before other answer after split := by
    cases before with
    | nil =>
      cases split
      simpa [accepted] using free
    | cons entry before =>
      obtain ⟨rfl, further⟩ := List.cons.inj split
      have among := later.answered before other answer after further
      rwa [List.append_assoc] at among
  grown := by
    rw [later.grown, List.append_assoc]
    rfl

end

theorem grown_addEach (c : ClusterParams) (offered : List NodeParams) :
    Grown c offered (c.addEach offered).1 (c.addEach offered).2 := by
  induction offered generalizing c with
  | nil => exact ⟨rfl, by simp [addEach], by simp [addEach, accepted]⟩
  | cons node rest ih =>
    rw [addEach, addNode_eq]
    by_cases taken : node.port ∈ c.nodes.map (·.port)
    · rw [if_pos taken]
      exact (ih c).refused taken
    · rw [if_neg taken]
      exact (ih _).added taken

theorem nodup_ports_concat {nodes : List NodeParams} :
    ((nodes ++ [node]).map (·.port)).Nodup ↔
      (nodes.map (·.port)).Nodup ∧ node.port ∉ nodes.map (·.port) := by
  rw [List.map_append, List.map_singleton, List.nodup_append]
  simp

/-- Whatever is offered, no two nodes of the cluster get the same port. -/
theorem nodup_addEach (distinct : (c.nodes.map (·.port)).Nodup) (offered : List NodeParams) :
    ((c.addEach offered).2.nodes.map (·.port)).Nodup := by
  induction offered generalizing c with
  | nil => exact distinct
  | cons node rest ih =>
    rw [addEach, addNode_eq]
    by_cases taken : node.port ∈ c.nodes.map (·.port)
    · rw [if_pos taken]
      exact ih distinct
    · rw [if_neg taken]
      exact ih (nodup_ports_concat.2 ⟨distinct, taken⟩)

/-! ## A list of nodes -/

theorem nodup_named (name : String) : ((named name).nodes.map (·.port)).Nodup := List.nodup_nil

/-- All nodes of a list can be added just if their ports differ. -/
theorem foldlM_addNode {nodes : List NodeParams} (distinct : (c.nodes.map (·.port)).Nodup) :
    nodes.foldlM addNode c = .ok grown ↔
      ((c.nodes ++ nodes).map (·.port)).Nodup ∧ grown = { c with nodes := c.nodes ++ nodes } := by
  induction nodes generalizing c with
  | nil =>
    rw [List.foldlM_nil, List.append_nil]
    exact ⟨fun same => ⟨distinct, (Except.ok.inj same).symm⟩, fun same => congrArg _ same.2.symm⟩
  | cons node rest ih =>
    rw [List.foldlM_cons, addNode_eq]
    by_cases taken : node.port ∈ c.nodes.map (·.port)
    · rw [if_pos taken]
      refine ⟨nofun, fun ⟨differ, _⟩ => ?_⟩
      rw [List.map_append, List.nodup_append] at differ
      exact absurd rfl (differ.2.2 _ taken _ (List.mem_map.2 ⟨node, List.mem_cons_self, rfl⟩))
    · rw [if_neg taken]
      have next := ih (c := { c with nodes := c.nodes ++ [node] })
        (nodup_ports_concat.2 ⟨distinct, taken⟩)
      rw [List.append_assoc] at next
      exact next

theorem foldlM_eq_error {α β ε : Type} {f : β → α → Except ε β} {l : List α} {init : β} {e : ε} :
    l.foldlM f init = .error e ↔ ∃ before a after b, l = before ++ a :: after ∧
      before.foldlM f init = .ok b ∧ f b a = .error e := by
  constructor
  · intro failed
    induction l generalizing init with
    | nil => cases failed
    | cons a rest ih =>
      rw [List.foldlM_cons] at failed
      cases first : f init a with
      | error e' =>
        rw [first] at failed
        cases failed
        exact ⟨[], a, rest, init, rfl, rfl, first⟩
      | ok next =>
        rw [first] at failed
        obtain ⟨before, b, after, d, rfl, earlier, here⟩ := ih failed
        refine ⟨a :: before, b, after, d, rfl, ?_, here⟩
        rw [List.foldlM_cons, first]
        exact earlier
  · rintro ⟨before, a, after, b, rfl, earlier, here⟩
    rw [List.foldlM_append, earlier]
    change (f b a >>= fun b => after.foldlM f b) = _
    rw [here]
    rfl

/-- The nodes before it can be added one by one, and then it is refused. -/
def RefusedBehind (name : String) (before : List NodeParams) (node : NodeParams) : Prop :=
  ∃ d e, before.foldlM addNode (named name) = .ok d ∧ d.addNode node = .error e

theorem refusedBehind_iff {name : String} {before : List NodeParams} :
    RefusedBehind name before node ↔
      (before.map (·.port)).Nodup ∧ node.port ∈ before.map (·.port) := by
  constructor
  · rintro ⟨d, e, added, refused⟩
    obtain ⟨distinct, rfl⟩ := (foldlM_addNode (nodup_named name)).1 added
    rw [addNode_eq] at refused
    split at refused
    · rename_i taken
      exact ⟨distinct, taken⟩
    · cases refused
  · rintro ⟨distinct, taken⟩
    have added := (foldlM_addNode (nodup_named name)).2 ⟨distinct, rfl⟩
    refine ⟨_, duplicateEndpoint name node, added, ?_⟩
    rw [addNode_eq]
    exact if_pos taken

theorem checkNodes_append (name : String) (vm : Option VmParams) (taken : List UInt16)
    (before after : List NodeParams) :
    checkNodes name vm taken (before ++ after) = (checkNodes name vm taken before >>= fun _ =>
      checkNodes name vm (taken ++ before.map (·.port)) after) := by
  induction before generalizing taken with
  | nil =>
    rw [List.map_nil, List.append_nil]
    rfl
  | cons node rest ih =>
    rw [List.cons_append, NodeParams.checkNodes_cons, NodeParams.checkNodes_cons, ih, bind_assoc]
    simp

theorem validate_append (c : ClusterParams) (vm : Option VmParams)
    (before after : List NodeParams) :
    { c with nodes := before ++ after }.validate vm = ({ c with nodes := before }.validate vm >>=
      fun _ => checkNodes c.name vm (before.map (·.port)) after) := by
  have nodes := checkNodes_append c.name vm [] before after
  unfold validate
  by_cases unnamed : Text.allBlank c.name = true
  · simp only [unnamed, if_true]
    rfl
  · by_cases servers : c.nodeType = .server
    · simp only [unnamed, servers]
      exact nodes
    · simp only [unnamed, ne_eq, servers, not_false_eq_true, if_true]
      rfl

def duplicatePort (name : String) (node : NodeParams) : Error :=
  .config ("Duplicate port " ++ node.portText ++ " in cluster " ++ name)

theorem checkNodes_taken {name : String} {taken : List UInt16} {rest : List NodeParams}
    (mem : node.port ∈ taken) :
    checkNodes name vm taken (node :: rest) = .error (duplicatePort name node) := by
  rw [NodeParams.checkNodes_cons, NodeParams.requirements, Requirement.verdict_cons]
  simp only [List.contains_iff_mem.2 mem]
  rfl

/-- What else is complained about begins with another letter. -/
theorem head_complaint {r : Requirement} (mem : r ∈ node.placement vm) :
    r.complaint.toList.head? = some 'N' := by
  unfold NodeParams.placement at mem
  obtain ⟨v, -, rfl⟩ := List.mem_map.1 mem
  cases node.host <;> simp

theorem port_of_complaint {name text : String} {taken : List UInt16}
    (refused : Requirement.verdict (node.requirements name vm taken) =
      .error (.config ("Duplicate port " ++ text ++ " in cluster " ++ name))) :
    node.port ∈ taken ∧ text = node.portText := by
  obtain ⟨before, r, after, split, -, violated, said⟩ := Requirement.verdict_eq_error.1 refused
  have listed : r ∈ node.requirements name vm taken := by
    rw [split]
    exact List.mem_append_right _ List.mem_cons_self
  have chars := congrArg String.toList (Error.config.inj said)
  unfold NodeParams.requirements at listed
  rcases List.mem_cons.1 listed with rfl | listed
  · refine ⟨by simpa using violated, String.toList_inj.1 ?_⟩
    simpa using chars
  · rcases List.mem_cons.1 listed with rfl | placement
    · simp at chars
    · have first := head_complaint placement
      rw [← chars] at first
      simp at first

theorem taken_of_checkNodes {name text : String} {taken : List UInt16} {nodes : List NodeParams}
    (refused : checkNodes name vm taken nodes =
      .error (.config ("Duplicate port " ++ text ++ " in cluster " ++ name))) :
    ∃ before node after, nodes = before ++ node :: after ∧ text = node.portText ∧
      node.port ∈ taken ++ before.map (·.port) ∧ checkNodes name vm taken before = .ok () := by
  induction nodes generalizing taken with
  | nil => cases refused
  | cons node rest ih =>
    rw [NodeParams.checkNodes_cons] at refused
    cases own : Requirement.verdict (node.requirements name vm taken) with
    | error e =>
      rw [own] at refused
      cases refused
      obtain ⟨mem, rfl⟩ := port_of_complaint own
      exact ⟨[], node, rest, rfl, rfl, by simpa using mem, rfl⟩
    | ok _ =>
      rw [own] at refused
      obtain ⟨before, other, after, rfl, same, mem, earlier⟩ := ih refused
      refine ⟨node :: before, other, after, rfl, same, by simpa using mem, ?_⟩
      rw [NodeParams.checkNodes_cons, own]
      exact earlier

variable {before after : List NodeParams}

theorem validate_of_refused (vm : Option VmParams) (split : c.nodes = before ++ node :: after)
    (refused : RefusedBehind c.name before node) :
    c.validate vm = ({ c with nodes := before }.validate vm >>= fun _ =>
      .error (duplicatePort c.name node)) := by
  have whole : c = { c with nodes := before ++ node :: after } := by rw [← split]
  have found : checkNodes c.name vm (before.map (·.port)) (node :: after) =
      .error (duplicatePort c.name node) := checkNodes_taken (refusedBehind_iff.1 refused).2
  rw [← found, ← validate_append, ← whole]

/-- What a cluster is asked beside its nodes. -/
theorem validate_nil_cases (c : ClusterParams) (vm : Option VmParams) :
    { c with nodes := [] }.validate vm = .ok () ∨
      ∃ reason, { c with nodes := [] }.validate vm = .error (.config reason) ∧
        reason.toList.head? = some 'C' := by
  unfold validate
  by_cases unnamed : Text.allBlank c.name = true
  · simp only [unnamed, if_true]
    exact .inr ⟨_, rfl, rfl⟩
  · by_cases servers : c.nodeType = .server
    · simp only [unnamed, servers]
      exact .inl rfl
    · simp only [unnamed, ne_eq, servers, not_false_eq_true, if_true]
      exact .inr ⟨_, rfl, by simp⟩

theorem refused_of_validate {text : String} (refused : c.validate vm =
      .error (.config ("Duplicate port " ++ text ++ " in cluster " ++ c.name))) :
    ∃ before node after, c.nodes = before ++ node :: after ∧ text = node.portText ∧
      { c with nodes := before }.validate vm = .ok () ∧ RefusedBehind c.name before node := by
  have parted (nodes : List NodeParams) : { c with nodes }.validate vm =
      ({ c with nodes := [] }.validate vm >>= fun _ => checkNodes c.name vm [] nodes) :=
    validate_append c vm [] nodes
  have whole := (parted c.nodes).symm.trans refused
  rcases validate_nil_cases c vm with first | ⟨reason, complained, begins⟩
  · rw [first] at whole
    obtain ⟨before, node, after, split, same, mem, earlier⟩ := taken_of_checkNodes whole
    have passed : { c with nodes := before }.validate vm = .ok () := by
      rw [parted, first]
      exact earlier
    exact ⟨before, node, after, split, same, passed,
      refusedBehind_iff.2 ⟨(validate_eq_ok passed).1, mem⟩⟩
  · rw [complained] at whole
    obtain rfl := Error.config.inj (Except.error.inj whole)
    simp at begins

/-- Validation refuses a list of nodes for the port of the node that adding them one by one refuses,
unless it complains about something before, and it refuses no list for its ports that can be added.
-/
structure SameRefusals (vm : Option VmParams) (c : ClusterParams) : Prop where
  adding : (∃ e, c.nodes.foldlM addNode (named c.name) = .error e) ↔
    ∃ before node after, c.nodes = before ++ node :: after ∧ RefusedBehind c.name before node
  reached : ∀ before node after, c.nodes = before ++ node :: after →
    RefusedBehind c.name before node →
    c.validate vm = ({ c with nodes := before }.validate vm >>= fun _ =>
      .error (duplicatePort c.name node))
  complained : ∀ text,
    c.validate vm = .error (.config ("Duplicate port " ++ text ++ " in cluster " ++ c.name)) →
    ∃ before node after, c.nodes = before ++ node :: after ∧ text = node.portText ∧
      { c with nodes := before }.validate vm = .ok () ∧ RefusedBehind c.name before node

theorem sameRefusals (vm : Option VmParams) (c : ClusterParams) : c.SameRefusals vm where
  adding := by
    constructor
    · rintro ⟨e, failed⟩
      obtain ⟨before, node, after, d, split, added, refused⟩ := foldlM_eq_error.1 failed
      exact ⟨before, node, after, split, d, e, added, refused⟩
    · rintro ⟨before, node, after, split, d, e, added, refused⟩
      exact ⟨e, foldlM_eq_error.2 ⟨before, node, after, d, split, added, refused⟩⟩
  reached _ _ _ split refused := validate_of_refused vm split refused
  complained _ refused := refused_of_validate refused

theorem withPorts_eq_ok {name : String} {ports : List UInt16} : withPorts name ports = .ok c ↔
    ports.Nodup ∧ c = { named name with nodes := ports.map .ofPort } := by
  have nodes : withPorts name ports = (ports.map .ofPort).foldlM addNode (named name) :=
    (List.foldlM_map ..).symm
  rw [nodes, foldlM_addNode (nodup_named name)]
  simp [named, NodeParams.ofPort, Function.comp_def]

/-- Ports tell nodes apart however they are compared. Of the nodes offered to a new cluster each is
accepted just if no node accepted before it has its port, and those are the nodes of the cluster,
with their endpoints as its servers, all different; a cluster on given ports exists just if they
differ; and validation finds the same as adding. -/
theorem ports_tell_apart :
    (∀ name offered, Grown (named name) offered ((named name).addEach offered).1
        ((named name).addEach offered).2 ∧
      ((named name).addEach offered).2.servers =
        (accepted ((named name).addEach offered).1).map (·.endpoint) ∧
      ((named name).addEach offered).2.servers.Nodup) ∧
    (∀ name ports, ((∃ c, withPorts name ports = .ok c) ↔ ports.Nodup) ∧
      ∀ c, withPorts name ports = .ok c → c = { named name with nodes := ports.map .ofPort }) ∧
    (∀ vm c, SameRefusals vm c) ∧
    ∀ p q : NodeParams, p.port ≠ q.port → p.name ≠ q.name ∧ p.endpoint ≠ q.endpoint ∧
      ∀ root service stamp, Path.components (p.serverLogDir root service stamp) ≠
        Path.components (q.serverLogDir root service stamp) := by
  refine ⟨fun name offered => ⟨grown_addEach _ _, ?_, ?_⟩,
    fun name ports => ⟨?_, fun c built => (withPorts_eq_ok.1 built).2⟩, sameRefusals,
    fun p q => NodeParams.apart_of_port_ne⟩
  · exact congrArg servers (grown_addEach (named name) offered).grown
  · exact nodup_servers (nodup_addEach (nodup_named name) _)
  · exact ⟨fun ⟨c, built⟩ => (withPorts_eq_ok.1 built).1,
      fun differ => ⟨_, withPorts_eq_ok.2 ⟨differ, rfl⟩⟩⟩

def repeated : ClusterParams :=
  { named "alpha" with nodes := [.ofPort 9000, .ofPort 9001, .onHost (.ofPort 9000) "h1"] }

/-- A port that comes back on another host. -/
theorem ports_tell_apart_repeated :
    repeated.validate none = .error (duplicatePort "alpha" (.onHost (.ofPort 9000) "h1")) ∧
      (NodeParams.ofPort 9000).port ≠ (NodeParams.ofPort 9001).port ∧
      (NodeParams.ofPort 9000).endpoint ≠ (NodeParams.ofPort 9001).endpoint := by
  obtain ⟨-, -, validation, apart⟩ := ports_tell_apart
  have refused : RefusedBehind "alpha" [.ofPort 9000, .ofPort 9001] (.onHost (.ofPort 9000) "h1") :=
    refusedBehind_iff.2 (by decide)
  have passed : { repeated with nodes := [.ofPort 9000, .ofPort 9001] }.validate none = .ok () := by
    rfl
  have reached := (validation none repeated).reached _ _ [] rfl refused
  rw [passed] at reached
  have differ : (NodeParams.ofPort 9000).port ≠ (NodeParams.ofPort 9001).port := by decide
  exact ⟨reached, differ, (apart _ _ differ).2.1⟩

end ClusterParams

end Testbed
