import Testbed.Proofs.Json.Abridging
import Testbed.Proofs.Params.RoundTrip
/-!
# Leaving out what is as by default

Defaults are used twice: by the shapes, for reading, and by the constructors of the parameters. Both
agree, field by field (`UniverseParams.agrees` and what it is made of). So parameters that started
as what a constructor makes are read off their JSON as well when members are missing in it that were
never changed, and whatever order the others stand in (`abridged_read`).
-/

namespace Testbed

open Json

/-- What the constructors make of each kind of record, as JSON. Machines have no constructor: they
start without hosts, with the default customization and the default polling. -/
def Made : (record : String) → Json → Prop
  | "NodeParams", j => ∃ port, j = (NodeParams.ofPort port).toJson
  | "ClusterParams", j => ∃ name, j = (ClusterParams.named name).toJson
  | "UniverseParams", j => j = UniverseParams.default.toJson
  | "VmParams", j => ∃ v : VmParams, v.hosts = ∅ ∧ v.customization = .default ∧
      v.ipPollInterval = VmParams.defaultPollInterval ∧
      v.ipPollAttempts = VmParams.defaultPollAttempts ∧ j = v.toJson
  | _, _ => False

/-- The member is as a constructor of the record makes it. -/
def Unchanged (record : String) (m : String × Json) : Prop :=
  ∃ ms, Made record (.object ms) ∧ m ∈ ms

/-! ## What is written is taken as it is -/

theorem takes_word {α : Type} [DecidableEq α] {words : List (String × α)} (spells : Spells words)
    (a : α) : (oneOf words).Takes (wordOf words a) (wordOf words a) := by
  obtain ⟨w, eq, known, -⟩ := spells a
  rw [eq]
  exact Shape.takes_choice known

theorem takes_texts {expected : String} {l : List String} :
    (Shape.list (.text expected)).Takes (ofTexts l) (ofTexts l) :=
  Shape.takes_list (List.forall₂_map_left_iff.2 (List.forall₂_map_right_iff.2
    (List.forall₂_same.2 fun _ _ => Shape.takes_text)))

theorem ServiceParams.taken (v : ServiceParams) : shape.Takes v.toJson v.toJson :=
  Shape.takes_record (.given Shape.takes_text <| .given Shape.takes_text <|
    .given Shape.takes_text <| .given Shape.takes_text .done) (by decide)

theorem BootstrapParams.taken (b : BootstrapParams) : shape.Takes b.toJson b.toJson :=
  Shape.takes_record (.given takes_texts <| .given Shape.takes_text .done) (by decide)

theorem CustomizationParams.taken (c : CustomizationParams) : shape.Takes c.toJson c.toJson :=
  Shape.takes_record (.given Shape.takes_text <| .given Shape.takes_text <|
    .given takes_texts <| .given takes_texts <| .given takes_texts <|
    .given Shape.takes_text .done) (by decide)

/-! ## What is filled in is what was left out -/

namespace NodeParams

theorem agrees : shape.Agrees Unchanged := by
  refine .record (by decide) ?_ ?_
  · rintro f declared d default j ⟨ms, ⟨port, made⟩, mem⟩
    cases made
    simp only [List.mem_cons, List.not_mem_nil, or_false] at declared
    -- what stays are the fields that have a default and that the constructor writes
    rcases declared with rfl | rfl | rfl | rfl | rfl | rfl <;> simp [ofPort] at default mem <;>
      subst default mem
    · exact takes_word Mode.spells _
    · exact takes_word Persistence.spells _
    · exact takes_word LogLevel.spells _
    · exact Shape.takes_text
  · simp only [List.forall_mem_cons]
    exact ⟨.plain trivial, .plain trivial, .plain trivial, .plain trivial, .plain trivial,
      .maybe (.plain trivial), List.forall_mem_nil _⟩

end NodeParams

namespace ClusterParams

theorem agrees : shape.Agrees Unchanged := by
  refine .record (by decide) ?_ ?_
  · rintro f declared d default j ⟨ms, ⟨name, made⟩, mem⟩
    cases made
    simp only [List.mem_cons, List.not_mem_nil, or_false] at declared
    rcases declared with rfl | rfl | rfl | rfl | rfl <;> simp [named] at default mem <;>
      subst default mem
    · exact takes_word NodeType.spells _
    · exact Shape.takes_list .nil
    · exact Shape.takes_whole (by decide) (by decide) (by decide)
    · exact Shape.takes_whole (by decide) (by decide) (by decide)
  · simp only [List.forall_mem_cons]
    exact ⟨.plain trivial, .plain trivial, .list NodeParams.agrees, .plain trivial, .plain trivial,
      List.forall_mem_nil _⟩

end ClusterParams

/-- Where every field has to be there, no member may be left out. -/
theorem agrees_required {name : String} {fields : List Field} (distinct : (fields.map (·.1)).Nodup)
    (required : ∀ f ∈ fields, f.2.2 = none) (agrees : ∀ f ∈ fields, f.2.1.Agrees Unchanged) :
    (Shape.record name fields).Agrees Unchanged := by
  refine .record distinct (fun f declared d default => ?_) agrees
  rw [required f declared] at default
  cases default

theorem ServiceParams.agrees : shape.Agrees Unchanged := by
  refine agrees_required (by decide) (by simp) ?_
  simp only [List.forall_mem_cons]
  exact ⟨.plain trivial, .plain trivial, .plain trivial, .plain trivial, List.forall_mem_nil _⟩

theorem BootstrapParams.agrees : shape.Agrees Unchanged := by
  refine agrees_required (by decide) (by simp) ?_
  simp only [List.forall_mem_cons]
  exact ⟨.list (.plain trivial), .plain trivial, List.forall_mem_nil _⟩

theorem CustomizationParams.agrees : shape.Agrees Unchanged := by
  refine agrees_required (by decide) (by simp) ?_
  simp only [List.forall_mem_cons]
  exact ⟨.plain trivial, .plain trivial, .list (.plain trivial), .list (.plain trivial),
    .list (.plain trivial), .plain trivial, List.forall_mem_nil _⟩

namespace VmParams

theorem agrees : shape.Agrees Unchanged := by
  refine .record (by decide) ?_ ?_
  · rintro f declared d default j ⟨ms, ⟨v, hosts, customization, interval, attempts, made⟩, mem⟩
    cases made
    simp only [List.mem_cons, List.not_mem_nil, or_false] at declared
    rcases declared with rfl | rfl | rfl | rfl | rfl | rfl | rfl | rfl | rfl | rfl <;>
      simp [hosts, customization, interval, attempts] at default mem <;> subst default mem
    · exact Shape.takes_table .nil
    · exact CustomizationParams.taken _
    · exact Shape.takes_whole (by decide) (by decide) (by decide)
    · exact Shape.takes_whole (by decide) (by decide) (by decide)
  · simp only [List.forall_mem_cons]
    exact ⟨.plain trivial, .plain trivial, .plain trivial, .plain trivial, .plain trivial,
      .plain trivial, .table (.maybe (.plain trivial)), CustomizationParams.agrees, .plain trivial,
      .plain trivial, List.forall_mem_nil _⟩

end VmParams

namespace UniverseParams

theorem agrees : shape.Agrees Unchanged := by
  refine .record (by decide) ?_ ?_
  · rintro f declared d default j ⟨ms, made, mem⟩
    cases made
    simp only [List.mem_cons, List.not_mem_nil, or_false] at declared
    rcases declared with rfl | rfl | rfl | rfl | rfl | rfl | rfl | rfl <;>
      simp [UniverseParams.default] at default mem <;> subst default mem
    · exact Shape.takes_text
    · exact Shape.takes_table .nil
    · exact Shape.takes_whole (by decide) (by decide) (by decide)
    · exact ServiceParams.taken _
    · exact BootstrapParams.taken _
    · exact Shape.takes_text
    · exact Shape.takes_whole (by decide) (by decide) (by decide)
  · simp only [List.forall_mem_cons]
    exact ⟨.plain trivial, .table ClusterParams.agrees, .plain trivial, ServiceParams.agrees,
      BootstrapParams.agrees, .plain trivial, .plain trivial, .maybe VmParams.agrees,
      List.forall_mem_nil _⟩

end UniverseParams

/-! ## Sparse configurations -/

theorem spared_of_made {record : String} {fields : List Field} {ms dropped : List (String × Json)}
    (made : Made record (.object ms)) (subset : ∀ m ∈ dropped, m ∈ ms)
    (optional : ∀ m ∈ dropped, ∃ s d, (m.1, s, some d) ∈ fields) :
    ∀ m ∈ dropped, Unchanged record m ∧ ∃ s d, (m.1, s, some d) ∈ fields :=
  fun m mem => ⟨⟨ms, made, subset m mem⟩, optional m mem⟩

/-- Of a node as it is made, the port is enough. -/
theorem NodeParams.abridges_port (port : UInt16) :
    shape.Abridges Unchanged (ofPort port).toJson (.object [("port", .number port.toNat)]) := by
  have order (a : String × Json) (l) : (a :: l).Perm ([a] ++ l) := .refl _
  refine .of_fields (by decide) (order _ _) (spared_of_made ⟨port, rfl⟩ ?_ ?_)
    (.cons (.plain (.head _) trivial) .nil)
  · exact fun m mem => List.mem_cons_of_mem _ mem
  · simp [ofPort]

/-- Of machines as they are made, how to reach and clone them is enough. -/
theorem VmParams.abridges_access {v : VmParams} (hosts : v.hosts = ∅)
    (customization : v.customization = .default) (interval : v.ipPollInterval = defaultPollInterval)
    (attempts : v.ipPollAttempts = defaultPollAttempts) :
    shape.Abridges Unchanged v.toJson (.object [
      ("vsphere_url", .text v.vsphereUrl),
      ("vsphere_username", .text v.vsphereUsername),
      ("vsphere_password", .text v.vspherePassword),
      ("template_vm", .text v.templateVm),
      ("host_username", .text v.hostUsername),
      ("host_password", .text v.hostPassword)]) := by
  have order (a b c d e f : String × Json) (l) :
      (a :: b :: c :: d :: e :: f :: l).Perm ([a, b, c, d, e, f] ++ l) := .refl _
  refine .of_fields (by decide) (order _ _ _ _ _ _ _)
    (spared_of_made ⟨v, hosts, customization, interval, attempts, rfl⟩ ?_ (by simp)) ?_
  · simp
  · have text {fields : List Field} {k : String} {j : Json} (declared : (k, aText, none) ∈ fields) :
        AbridgesField Unchanged fields (k, j) (k, j) := .plain declared trivial
    exact .cons (text (by simp)) <| .cons (text (by simp)) <| .cons (text (by simp)) <|
      .cons (text (by simp)) <| .cons (text (by simp)) <| .cons (text (by simp)) .nil

/-- A node in memory beside one on disk, and more patience than by default. -/
def sparseCluster : ClusterParams :=
  { ClusterParams.named "corfu" with
    nodes := [.ofPort 9000, { NodeParams.ofPort 9001 with persistence := .memory }]
    retryTimeout := .ofSecs 20 }

def sparseMachines : VmParams where
  vsphereUrl := "https://vc"
  vsphereUsername := "root"
  vspherePassword := "secret"
  templateVm := "template"
  hostUsername := "vmware"
  hostPassword := "secret"
  hosts := ∅
  customization := .default
  ipPollInterval := VmParams.defaultPollInterval
  ipPollAttempts := VmParams.defaultPollAttempts

def sparseUniverse : UniverseParams :=
  { UniverseParams.default.withCluster sparseCluster with vm := some sparseMachines }

def sparseClusterConfig : Json :=
  .object [
    ("retry_timeout", .number 20),
    ("nodes", .list [
      .object [("port", .number 9000)],
      .object [("persistence", .text "MEMORY"), ("port", .number 9001)]]),
    ("name", .text "corfu")]

def sparseMachinesConfig : Json :=
  .object [
    ("vsphere_url", .text "https://vc"),
    ("vsphere_username", .text "root"),
    ("vsphere_password", .text "secret"),
    ("template_vm", .text "template"),
    ("host_username", .text "vmware"),
    ("host_password", .text "secret")]

def sparseConfig : Json :=
  .object [("vm", sparseMachinesConfig), ("clusters", .object [("corfu", sparseClusterConfig)])]

theorem sparseClusterConfig_abridges :
    ClusterParams.shape.Abridges Unchanged sparseCluster.toJson sparseClusterConfig := by
  have memory : NodeParams.shape.Abridges Unchanged
      { NodeParams.ofPort 9001 with persistence := .memory : NodeParams }.toJson
      (.object [("persistence", .text "MEMORY"), ("port", .number 9001)]) := by
    have order (a b c d e : String × Json) : [a, b, c, d, e].Perm ([c, a] ++ [b, d, e]) :=
      @List.perm_middle _ c [a, b] [d, e]
    refine .of_fields (by decide) (order _ _ _ _ _) (spared_of_made ⟨9001, rfl⟩ ?_ (by simp))
      (.cons (.plain (.tail _ (.tail _ (.head _))) trivial) <|
        .cons (.plain (.head _) trivial) .nil)
    simp [NodeParams.ofPort]
  have order (a b c d e : String × Json) : [a, b, c, d, e].Perm ([e, c, a] ++ [b, d]) :=
    (@List.perm_middle _ e [a, b, c, d] []).trans ((@List.perm_middle _ c [a, b] [d]).cons e)
  refine .of_fields (by decide) (order _ _ _ _ _) (spared_of_made ⟨"corfu", rfl⟩ ?_ (by simp))
    (.cons (.plain (.tail _ (.tail _ (.tail _ (.tail _ (.head _))))) trivial) <|
      .cons ⟨rfl, ("nodes", .list NodeParams.shape, some (.list [])), by simp, rfl, .list rfl ?_⟩ <|
      .cons (.plain (.head _) trivial) .nil)
  · simp [ClusterParams.named, sparseCluster]
  · exact List.forall_mem_cons.2
      ⟨NodeParams.abridges_port 9000, List.forall_mem_singleton.2 memory⟩

theorem sparseConfig_abridges :
    UniverseParams.shape.Abridges Unchanged sparseUniverse.toJson sparseConfig := by
  have machines : VmParams.shape.Abridges Unchanged sparseMachines.toJson sparseMachinesConfig :=
    VmParams.abridges_access rfl rfl rfl rfl
  have order (a b c d e f g h : String × Json) :
      [a, b, c, d, e, f, g, h].Perm ([h, b] ++ [a, c, d, e, f, g]) :=
    (@List.perm_middle _ h [a, b, c, d, e, f, g] []).trans ((List.Perm.swap b a _).cons h)
  refine .of_fields (by decide) (order _ _ _ _ _ _ _ _) (spared_of_made rfl ?_ (by simp))
    (.cons ⟨rfl, ("vm", .maybe VmParams.shape, some .null), by simp, rfl, .maybe machines⟩ <|
      .cons ⟨rfl, ("clusters", .table ClusterParams.shape, some (.object [])), by simp, rfl, ?_⟩
        .nil)
  · simp [sparseUniverse, UniverseParams.withCluster, UniverseParams.default]
  · exact .table (by decide) (.refl _) (.cons rfl .nil)
      (List.forall_mem_singleton.2 sparseClusterConfig_abridges)

/-! ## Reading what was abridged -/

/-- Whatever is left out of the JSON of the parameters that is as it was made, and in whatever order
the rest stands, the document is read as the same parameters. -/
def ReadsAbridged {α : Type} (shape : Shape) (toJson : α → Json)
    (parse : String → Except Problem α) (a : α) : Prop :=
  ∀ j document, shape.Abridges Unchanged (toJson a) j → j.Written document →
    parse document = .ok a

theorem ReadsAbridged.of_conveyed {α : Type} {s : Shape} {toJson : α → Json}
    {ofJson? : Json → Option α} {a : α} (agrees : s.Agrees Unchanged)
    (conveyed : s.Conveys (toJson a) ofJson? a) : ReadsAbridged s toJson (decode s ofJson?) a :=
  fun _ _ abridges writes => (abridges.conveys agrees conveyed).decode writes

/-- What is filled in on reading is what the constructors make: parameters of every kind whose
lengths of time are whole seconds are read off any abridged form of what they are written as. -/
theorem abridged_read :
    (∀ p, ReadsAbridged NodeParams.shape NodeParams.toJson NodeParams.parse p) ∧
    (∀ c, c.Fits → c.cut = c →
      ReadsAbridged ClusterParams.shape ClusterParams.toJson ClusterParams.parse c) ∧
    (∀ v, v.Fits → v.cut = v → ReadsAbridged VmParams.shape VmParams.toJson VmParams.parse v) ∧
    (∀ p, p.Fits → p.cut = p →
      ReadsAbridged UniverseParams.shape UniverseParams.toJson UniverseParams.parse p) := by
  refine ⟨fun p => ?_, fun c fits whole => ?_, fun v fits whole => ?_, fun p fits whole => ?_⟩
  · exact ReadsAbridged.of_conveyed NodeParams.agrees p.conveyed
  · have conveyed := ClusterParams.conveyed fits
    rw [whole] at conveyed
    exact ReadsAbridged.of_conveyed ClusterParams.agrees conveyed
  · have conveyed := VmParams.conveyed fits
    rw [whole] at conveyed
    exact ReadsAbridged.of_conveyed VmParams.agrees conveyed
  · have conveyed := UniverseParams.conveyed fits
    rw [whole] at conveyed
    exact ReadsAbridged.of_conveyed UniverseParams.agrees conveyed

theorem sparseConfig_read :
    NodeParams.parse (Json.object [("port", .number 9000)]).pretty = .ok (.ofPort 9000) ∧
    ClusterParams.parse sparseClusterConfig.pretty = .ok sparseCluster ∧
    UniverseParams.parse sparseConfig.pretty = .ok sparseUniverse := by
  have fits : sparseUniverse.Fits := by
    refine ⟨by decide, by decide, ?_⟩
    rintro v ⟨⟩
    decide
  refine ⟨?_, ?_, ?_⟩
  · exact abridged_read.1 _ _ _ (NodeParams.abridges_port 9000) .pretty
  · exact abridged_read.2.1 _ (by decide) (by decide) _ _ sparseClusterConfig_abridges .pretty
  · exact abridged_read.2.2.2 _ fits (by decide) _ _ sparseConfig_abridges .pretty

end Testbed
