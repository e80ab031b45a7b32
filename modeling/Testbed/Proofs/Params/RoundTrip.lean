import Testbed.Proofs.Json.Meaning
/-!
# Writing parameters and reading them again

Parameters are read as they were written, but for what is below a second in their lengths of time.
What was read has nothing below a second, so writing it and reading that changes nothing
(`params_roundTrip`).
-/

namespace Testbed

open Json

/-! ## Whole seconds -/

namespace Duration

/-- The seconds fit into 64 bits. -/
def Fits (d : Duration) : Prop := d.secs < 0x10000000000000000

instance (d : Duration) : Decidable d.Fits := inferInstanceAs (Decidable (_ < _))

/-- The duration without what is below a second. -/
def cut (d : Duration) : Duration := .ofSecs d.secs

theorem cut_ofSecs (n : Nat) : (ofSecs n).cut = ofSecs n := by
  rw [cut, secs_ofSecs]

end Duration

namespace ClusterParams

def Fits (c : ClusterParams) : Prop := c.retryTimeout.Fits

instance (c : ClusterParams) : Decidable c.Fits := inferInstanceAs (Decidable c.retryTimeout.Fits)

def cut (c : ClusterParams) : ClusterParams := { c with retryTimeout := c.retryTimeout.cut }

end ClusterParams

namespace VmParams

def Fits (v : VmParams) : Prop := v.ipPollInterval.Fits

instance (v : VmParams) : Decidable v.Fits := inferInstanceAs (Decidable v.ipPollInterval.Fits)

def cut (v : VmParams) : VmParams := { v with ipPollInterval := v.ipPollInterval.cut }

end VmParams

namespace UniverseParams

structure Fits (p : UniverseParams) : Prop where
  timeout : p.timeout.Fits
  clusters : ∀ e ∈ p.clusters.entries, e.2.Fits
  vm : ∀ v, p.vm = some v → v.Fits

def cut (p : UniverseParams) : UniverseParams :=
  { p with
    timeout := p.timeout.cut
    clusters := p.clusters.map ClusterParams.cut
    vm := p.vm.map VmParams.cut }

end UniverseParams

/-! ## What is written is conveyed -/

theorem Mode.spells : Spells Mode.words := by
  intro a
  cases a <;> exact ⟨_, rfl, by decide, by decide⟩

theorem Persistence.spells : Spells Persistence.words := by
  intro a
  cases a <;> exact ⟨_, rfl, by decide, by decide⟩

theorem LogLevel.spells : Spells LogLevel.words := by
  intro a
  cases a <;> exact ⟨_, rfl, by decide, by decide⟩

theorem NodeType.spells : Spells NodeType.words := by
  intro a
  cases a <;> exact ⟨_, rfl, by decide, by decide⟩

theorem conveys_secs {d : Duration} (fits : d.Fits) :
    (Shape.whole .u64).Conveys (ofSecs d) secs? d.cut := by
  have bound : d.secs < 0x10000000000000000 := fits
  obtain ⟨j, takes, meaning⟩ := Shape.conveys_nat (r := .u64) rfl
    (by simp only [Range.u64]; omega) bound
  exact ⟨j, takes, by simp [secs?, meaning, Duration.cut]⟩

namespace NodeParams

theorem conveyed (p : NodeParams) : shape.Conveys p.toJson ofJson? p := by
  have port_bound := p.port.toNat_lt
  obtain ⟨port, port_takes, port_meaning⟩ := Shape.conveys_nat (r := .u16) (n := p.port.toNat)
    rfl (by simp only [Range.u16]; omega) (by omega)
  obtain ⟨mode, mode_takes, mode_meaning⟩ := Shape.conveys_word Mode.spells p.mode
  obtain ⟨disk, disk_takes, disk_meaning⟩ := Shape.conveys_word Persistence.spells p.persistence
  obtain ⟨level, level_takes, level_meaning⟩ := Shape.conveys_word LogLevel.spells p.logLevel
  obtain ⟨host, fills, host_meaning⟩ : ∃ host,
      Fills [("host", .maybe aText, some .null)]
        (p.host.map fun h => ("host", Json.text h)).toList [("host", host)] ∧
      host.maybe? text? = some p.host := by
    cases p.host with
    | none => exact ⟨.null, .omitted .done, rfl⟩
    | some h => exact ⟨.text h, .given (Shape.takes_maybe Shape.takes_text nofun) .done, rfl⟩
  refine ⟨_, Shape.takes_record (.given port_takes <| .given mode_takes <| .given disk_takes <|
    .given level_takes <| .given Shape.takes_text fills) (by decide), ?_⟩
  simp [ofJson?, values?, port_meaning, mode_meaning, disk_meaning, level_meaning, host_meaning,
    text?]

end NodeParams

namespace ClusterParams

theorem conveyed {c : ClusterParams} (fits : c.Fits) : shape.Conveys c.toJson ofJson? c.cut := by
  have retries_bound := c.bootstrapRetries.toNat_lt
  obtain ⟨kind, kind_takes, kind_meaning⟩ := Shape.conveys_word NodeType.spells c.nodeType
  obtain ⟨nodes, nodes_take, nodes_meaning⟩ := Shape.forall₂_conveys (l := c.nodes) (c := id)
    fun p _ => NodeParams.conveyed p
  obtain ⟨retries, retries_takes, retries_meaning⟩ := Shape.conveys_nat (r := .u32)
    (n := c.bootstrapRetries.toNat) rfl (by simp only [Range.u32]; omega) (by omega)
  obtain ⟨timeout, timeout_takes, timeout_meaning⟩ := conveys_secs fits
  refine ⟨_, Shape.takes_record (.given Shape.takes_text <| .given kind_takes <|
    .given (Shape.takes_list nodes_take) <| .given retries_takes <| .given timeout_takes .done)
    (by decide), ?_⟩
  simp [ofJson?, values?, kind_meaning, nodes_meaning, retries_meaning, timeout_meaning, text?, cut]

end ClusterParams

namespace ServiceParams

theorem conveyed (v : ServiceParams) : shape.Conveys v.toJson ofJson? v :=
  ⟨_, Shape.takes_record (.given Shape.takes_text <| .given Shape.takes_text <|
    .given Shape.takes_text <| .given Shape.takes_text .done) (by decide), rfl⟩

end ServiceParams

namespace BootstrapParams

theorem conveyed (b : BootstrapParams) : shape.Conveys b.toJson ofJson? b := by
  obtain ⟨command, command_takes, command_meaning⟩ := Shape.conveys_texts (l := b.command)
  refine ⟨_, Shape.takes_record (.given command_takes <| .given Shape.takes_text .done)
    (by decide), ?_⟩
  simp [ofJson?, values?, command_meaning, text?]

end BootstrapParams

namespace CustomizationParams

theorem conveyed (c : CustomizationParams) : shape.Conveys c.toJson ofJson? c := by
  obtain ⟨servers, servers_take, servers_meaning⟩ := Shape.conveys_texts (l := c.dnsServers)
  obtain ⟨suffixes, suffixes_take, suffixes_meaning⟩ := Shape.conveys_texts (l := c.dnsSuffixes)
  obtain ⟨gateways, gateways_take, gateways_meaning⟩ := Shape.conveys_texts (l := c.gateways)
  refine ⟨_, Shape.takes_record (.given Shape.takes_text <| .given Shape.takes_text <|
    .given servers_take <| .given suffixes_take <| .given gateways_take <|
    .given Shape.takes_text .done) (by decide), ?_⟩
  simp [ofJson?, values?, servers_meaning, suffixes_meaning, gateways_meaning, text?]

end CustomizationParams

namespace VmParams

theorem conveyed {v : VmParams} (fits : v.Fits) : shape.Conveys v.toJson ofJson? v.cut := by
  have attempts_bound := v.ipPollAttempts.toNat_lt
  obtain ⟨hosts, hosts_take, hosts_meaning⟩ := Shape.conveys_table (s := .maybe aText)
    (f := maybe? text?) (m := v.hosts) (g := hostJson) (c := id) fun e _ => by
      cases e.2 with
      | none => exact Shape.conveys_null
      | some address => exact Shape.conveys_maybe Shape.conveys_text nofun rfl
  obtain ⟨custom, custom_takes, custom_meaning⟩ := v.customization.conveyed
  obtain ⟨interval, interval_takes, interval_meaning⟩ := conveys_secs fits
  obtain ⟨attempts, attempts_takes, attempts_meaning⟩ := Shape.conveys_nat (r := .u32)
    (n := v.ipPollAttempts.toNat) rfl (by simp only [Range.u32]; omega) (by omega)
  refine ⟨_, Shape.takes_record (.given Shape.takes_text <| .given Shape.takes_text <|
    .given Shape.takes_text <| .given Shape.takes_text <| .given Shape.takes_text <|
    .given Shape.takes_text <| .given hosts_take <| .given custom_takes <| .given interval_takes <|
    .given attempts_takes .done) (by decide), ?_⟩
  simp [ofJson?, values?, hosts_meaning, custom_meaning, interval_meaning, attempts_meaning, text?,
    cut]

end VmParams

namespace UniverseParams

theorem conveyed {p : UniverseParams} (fits : p.Fits) : shape.Conveys p.toJson ofJson? p.cut := by
  have workers_bound := p.workers.toNat_lt
  obtain ⟨clusters, clusters_take, clusters_meaning⟩ := Shape.conveys_table (m := p.clusters)
    fun e mem => ClusterParams.conveyed (fits.clusters e mem)
  obtain ⟨timeout, timeout_takes, timeout_meaning⟩ := conveys_secs fits.timeout
  obtain ⟨service, service_takes, service_meaning⟩ := p.service.conveyed
  obtain ⟨bootstrap, bootstrap_takes, bootstrap_meaning⟩ := p.bootstrap.conveyed
  obtain ⟨workers, workers_takes, workers_meaning⟩ := Shape.conveys_nat (r := .usize)
    (n := p.workers.toNat) rfl (by simp only [Range.usize]; omega) (by omega)
  obtain ⟨vm, fills, vm_meaning⟩ : ∃ vm,
      Fills [("vm", .maybe VmParams.shape, some .null)]
        (p.vm.map fun v => ("vm", v.toJson)).toList [("vm", vm)] ∧
      vm.maybe? VmParams.ofJson? = some (p.vm.map VmParams.cut) := by
    cases machines : p.vm with
    | none => exact ⟨.null, .omitted .done, rfl⟩
    | some v =>
      obtain ⟨vm, takes, meaning⟩ := Shape.conveys_maybe (VmParams.conveyed (fits.vm v machines))
        nofun rfl
      exact ⟨vm, .given takes .done, meaning⟩
  refine ⟨_, Shape.takes_record (.given Shape.takes_text <| .given clusters_take <|
    .given timeout_takes <| .given service_takes <| .given bootstrap_takes <|
    .given Shape.takes_text <| .given workers_takes fills) (by decide), ?_⟩
  simp [ofJson?, values?, clusters_meaning, timeout_meaning, service_meaning, bootstrap_meaning,
    workers_meaning, vm_meaning, text?, cut]

end UniverseParams

/-! ## What is read has whole seconds -/

/-- Lengths of time that were read or filled in have nothing below a second. -/
theorem settled_secs {name : String} {n : Nat} {j : Json} {d : Duration}
    (small : n < 0x10000000000000000)
    (holds : Field.Holds (name, .whole .u64, some (ofSecs (.ofSecs n))) j)
    (meaning : j.secs? = some d) : d.Fits ∧ d.cut = d := by
  have bounded : ∃ n : Nat, n < 0x10000000000000000 ∧ j.nat? = some n := by
    rcases holds with reads | filled
    · obtain ⟨i, rfl, low, high⟩ := Shape.reads_whole reads
      simp only [Range.u64] at low high
      exact ⟨i.toNat, by omega, rfl⟩
    · cases filled
      exact ⟨n, small, by simp [ofSecs, nat?, Duration.secs_ofSecs]⟩
  obtain ⟨k, bound, eq⟩ := bounded
  rw [secs?, eq] at meaning
  cases meaning
  exact ⟨by rw [Duration.Fits, Duration.secs_ofSecs]; exact bound, Duration.cut_ofSecs k⟩

/-- The fields of a record that was read, in declared order. -/
theorem holds_values {name : String} {fields : List Field} {j : Json}
    (reads : (Shape.record name fields).Reads j) (distinct : (fields.map (·.1)).Nodup) :
    ∃ js, j.values? = some js ∧ List.Forall₂ Field.Holds fields js := by
  obtain ⟨ms, rfl, holds⟩ := Shape.reads_record reads distinct
  exact ⟨ms.map (·.2), rfl, List.forall₂_map_right_iff.2 (holds.imp fun _ _ => And.right)⟩

namespace ClusterParams

theorem settled {j : Json} {c : ClusterParams} (reads : shape.Reads j)
    (meaning : ofJson? j = some c) : c.Fits ∧ c.cut = c := by
  obtain ⟨js, values, holds⟩ := holds_values reads (by decide)
  unfold ofJson? at meaning
  simp only [values, Option.bind_eq_bind, Option.bind_some] at meaning
  split at meaning
  · simp only [List.forall₂_cons] at holds
    obtain ⟨-, -, -, -, timeout, -⟩ := holds
    simp only [Option.bind_eq_some_iff, Option.pure_def, Option.some.injEq] at meaning
    obtain ⟨_, -, _, -, _, -, _, -, d, seconds, rfl⟩ := meaning
    obtain ⟨fits, whole⟩ := settled_secs (by decide) timeout seconds
    exact ⟨fits, by rw [cut, whole]⟩
  · cases meaning

end ClusterParams

namespace VmParams

theorem settled {j : Json} {v : VmParams} (reads : shape.Reads j)
    (meaning : ofJson? j = some v) : v.Fits ∧ v.cut = v := by
  obtain ⟨js, values, holds⟩ := holds_values reads (by decide)
  unfold ofJson? at meaning
  simp only [values, Option.bind_eq_bind, Option.bind_some] at meaning
  split at meaning
  · simp only [List.forall₂_cons] at holds
    obtain ⟨-, -, -, -, -, -, -, -, interval, -⟩ := holds
    simp only [Option.bind_eq_some_iff, Option.pure_def, Option.some.injEq] at meaning
    obtain ⟨_, -, _, -, _, -, _, -, _, -, _, -, _, -, _, -, d, seconds, _, -, rfl⟩ := meaning
    obtain ⟨fits, whole⟩ := settled_secs (by decide) interval seconds
    exact ⟨fits, by rw [cut, whole]⟩
  · cases meaning

end VmParams

theorem mem_of_mapM {α β : Type} {f : α → Option β} {l : List α} {l' : List β}
    (mapped : l.mapM f = some l') : ∀ b ∈ l', ∃ a ∈ l, f a = some b := by
  induction l generalizing l' with
  | nil =>
    cases mapped
    simp
  | cons a l ih =>
    simp only [List.mapM_cons, Option.bind_eq_bind, Option.bind_eq_some_iff, Option.pure_def,
      Option.some.injEq] at mapped
    obtain ⟨b, first, bs, later, rfl⟩ := mapped
    intro c mem
    rcases List.mem_cons.1 mem with rfl | mem
    · exact ⟨a, List.mem_cons_self, first⟩
    · obtain ⟨a', member, eq⟩ := ih later c mem
      exact ⟨a', List.mem_cons_of_mem _ member, eq⟩

/-- The values of a table that was read were read one by one. -/
theorem settled_table {α : Type} {s : Shape} {f : Json → Option α} {P : α → Prop} {name : String}
    {j : Json} {m : NameMap α} (each : ∀ {j a}, s.Reads j → f j = some a → P a)
    (holds : Field.Holds (name, .table s, some (.object [])) j) (meaning : j.table? f = some m) :
    ∀ e ∈ m.entries, P e.2 := by
  obtain ⟨ms, rfl, reads⟩ : ∃ ms, j = .object ms ∧ ∀ m ∈ ms, s.Reads m.2 := by
    rcases holds with reads | filled
    · obtain ⟨ms, rfl, each⟩ := Shape.reads_table reads
      exact ⟨_, rfl, fun m mem => each m (NameMap.mem_ofList mem)⟩
    · cases filled
      exact ⟨[], rfl, by simp⟩
  obtain ⟨l, members, rfl⟩ := Option.map_eq_some_iff.1 meaning
  intro e mem
  have listed : e ∈ l := NameMap.mem_ofList mem
  obtain ⟨k, member, stands⟩ := mem_of_mapM members e listed
  obtain ⟨a, value, rfl⟩ := Option.map_eq_some_iff.1 stands
  exact each (reads k member) value

/-- What is there was read as if it had to be. -/
theorem settled_maybe {α : Type} {s : Shape} {f : Json → Option α} {P : α → Prop} {name : String}
    {j : Json} {o : Option α} (each : ∀ {j a}, s.Reads j → f j = some a → P a)
    (holds : Field.Holds (name, .maybe s, some .null) j) (meaning : j.maybe? f = some o) :
    ∀ a, o = some a → P a := by
  have reads : j = .null ∨ s.Reads j := by
    rcases holds with reads | filled
    · exact Shape.reads_maybe reads
    · exact .inl (Option.some.inj filled).symm
  rintro a rfl
  by_cases null : j = .null
  · cases null
    cases meaning
  · have meaning : (f j).map some = some (some a) := by
      cases j <;> first | exact meaning | exact absurd rfl null
    obtain ⟨b, value, eq⟩ := Option.map_eq_some_iff.1 meaning
    cases eq
    exact each (reads.resolve_left null) value

namespace UniverseParams

theorem settled {j : Json} {p : UniverseParams} (reads : shape.Reads j)
    (meaning : ofJson? j = some p) : p.Fits ∧ p.cut = p := by
  obtain ⟨js, values, holds⟩ := holds_values reads (by decide)
  unfold ofJson? at meaning
  simp only [values, Option.bind_eq_bind, Option.bind_some] at meaning
  split at meaning
  · simp only [List.forall₂_cons] at holds
    obtain ⟨-, clusters_hold, timeout_holds, -, -, -, -, vm_holds, -⟩ := holds
    simp only [Option.bind_eq_some_iff, Option.pure_def, Option.some.injEq] at meaning
    obtain ⟨_, -, clusters, clusters_meaning, timeout, seconds, _, -, _, -, _, -, _, -, vm,
      vm_meaning, rfl⟩ := meaning
    have clusters_settled := settled_table ClusterParams.settled clusters_hold clusters_meaning
    have vm_settled := settled_maybe VmParams.settled vm_holds vm_meaning
    obtain ⟨fits, whole⟩ := settled_secs (by decide) timeout_holds seconds
    have clusters_whole : clusters.map ClusterParams.cut = clusters :=
      NameMap.map_eq_self fun e mem => (clusters_settled e mem).2
    have vm_whole : vm.map VmParams.cut = vm := by
      cases vm with
      | none => rfl
      | some v => exact congrArg some (vm_settled v rfl).2
    refine ⟨⟨fits, fun e mem => (clusters_settled e mem).1, fun v eq => (vm_settled v eq).1⟩, ?_⟩
    rw [cut, whole, clusters_whole, vm_whole]
  · cases meaning

end UniverseParams

/-! ## Round trips -/

/-- What is written, in either form, is read again but for what is cut; and what was read off any
document is read again as it is. -/
structure RoundTrips {α : Type} (parse : String → Except Problem α) (toJson : α → Json)
    (Fits : α → Prop) (cut : α → α) : Prop where
  written : ∀ {a document}, Fits a → (toJson a).Written document → parse document = .ok (cut a)
  again : ∀ {a source document}, parse source = .ok a → (toJson a).Written document →
    parse document = .ok a

theorem RoundTrips.of_conveyed {α : Type} {s : Shape} {toJson : α → Json}
    {ofJson? : Json → Option α} {Fits : α → Prop} {cut : α → α}
    (conveyed : ∀ {a}, Fits a → s.Conveys (toJson a) ofJson? (cut a))
    (settled : ∀ {j a}, s.Reads j → ofJson? j = some a → Fits a ∧ cut a = a) :
    RoundTrips (decode s ofJson?) toJson Fits cut := by
  refine ⟨fun fits writes => (conveyed fits).decode writes, fun source writes => ?_⟩
  obtain ⟨j, reads, meaning⟩ := reads_of_decode source
  obtain ⟨fits, whole⟩ := settled reads meaning
  rw [(conveyed fits).decode writes, whole]

/-- Parameters of every kind come back as they were written, with lengths of time in whole
seconds. -/
theorem params_roundTrip :
    RoundTrips UniverseParams.parse UniverseParams.toJson UniverseParams.Fits UniverseParams.cut ∧
    RoundTrips ClusterParams.parse ClusterParams.toJson ClusterParams.Fits ClusterParams.cut ∧
    RoundTrips VmParams.parse VmParams.toJson VmParams.Fits VmParams.cut ∧
    RoundTrips NodeParams.parse NodeParams.toJson (fun _ => True) id ∧
    RoundTrips ServiceParams.parse ServiceParams.toJson (fun _ => True) id := by
  refine ⟨.of_conveyed UniverseParams.conveyed UniverseParams.settled,
    .of_conveyed ClusterParams.conveyed ClusterParams.settled,
    .of_conveyed VmParams.conveyed VmParams.settled, .of_conveyed ?_ ?_, .of_conveyed ?_ ?_⟩
  · exact fun _ => NodeParams.conveyed _
  · exact fun _ _ => ⟨trivial, rfl⟩
  · exact fun _ => ServiceParams.conveyed _
  · exact fun _ _ => ⟨trivial, rfl⟩

/-- Parameters with a host of unknown address, names that have to be escaped, and lengths of time
between two seconds. -/
def unevenUniverse : UniverseParams :=
  { UniverseParams.default with
    clusters := .ofList [("a \"b\"", { ClusterParams.named "a \"b\"" with
      nodes := [{ NodeParams.ofPort 9000 with logDir := "C:\\logs\n", host := some "ü" }]
      retryTimeout := .ofMillis 2500 })]
    timeout := .ofMillis 1999
    vm := some {
      vsphereUrl := "https://vc"
      vsphereUsername := "root"
      vspherePassword := "\t"
      templateVm := "template"
      hostUsername := "vmware"
      hostPassword := "secret"
      hosts := .ofList [("ü", none), ("v", some "10.0.0.7")]
      customization := .default
      ipPollInterval := .ofMillis 100
      ipPollAttempts := 3 } }

theorem unevenUniverse_roundTrip :
    UniverseParams.parse unevenUniverse.toJson.pretty = .ok unevenUniverse.cut ∧
      unevenUniverse.cut.timeout = .ofSecs 1 ∧
      unevenUniverse.cut.vm.map (·.ipPollInterval) = some (.ofSecs 0) := by
  refine ⟨params_roundTrip.1.written ⟨?_, ?_, ?_⟩ .pretty, by decide, by decide⟩
  · decide
  · decide
  · intro v is_vm
    cases is_vm
    decide

end Testbed
