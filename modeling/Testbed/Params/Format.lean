import Testbed.Json.Shape
import Testbed.Params.Universe
import Testbed.Text.Utf8
/-!
# Parameters as JSON

For each kind of parameters its shape, its value as JSON, and what the JSON of that shape stands
for. A host or a machine section that is not there is left out when writing. Lengths of time are
whole seconds.
-/

namespace Testbed

open Json

/-! ## Pieces -/

namespace Json

def text? : Json → Option String
  | .text s => some s
  | _ => none

def texts? : Json → Option (List String)
  | .list js => js.mapM text?
  | _ => none

def nat? : Json → Option Nat
  | .number n => some n.toNat
  | _ => none

def secs? (j : Json) : Option Duration := j.nat?.map Duration.ofSecs

/-- Null stands for nothing. -/
def maybe? {α : Type} (f : Json → Option α) : Json → Option (Option α)
  | .null => some none
  | j => (f j).map some

def ofTexts (l : List String) : Json := .list (l.map .text)

def ofSecs (d : Duration) : Json := .number d.secs

/-- The values of an object's members, in order. -/
def values? : Json → Option (List Json)
  | .object members => some (members.map (·.2))
  | _ => none

/-- The value of an object's member of some name. -/
def member? (name : String) : Json → Option Json
  | .object members => (members.find? (·.1 = name)).map (·.2)
  | _ => none

/-- The text of an object's member of some name. -/
def textOf? (name : String) (j : Json) : Option String := (j.member? name).bind text?

def table? {α : Type} (f : Json → Option α) : Json → Option (NameMap α)
  | .object members =>
    (members.mapM fun (m : String × Json) => (f m.2).map (m.1, ·)).map NameMap.ofList
  | _ => none

end Json

def aText : Shape := .text "a string"

def aPath : Shape := .text "path string"

/-! ## Nodes -/

def Mode.words : List (String × Mode) := [("SINGLE", .single), ("CLUSTER", .cluster)]

def Persistence.words : List (String × Persistence) := [("DISK", .disk), ("MEMORY", .memory)]

def LogLevel.words : List (String × LogLevel) :=
  [("ERROR", .error), ("WARN", .warn), ("INFO", .info), ("DEBUG", .debug), ("TRACE", .trace)]

def NodeType.words : List (String × NodeType) := [("SERVER", .server), ("CLIENT", .client)]

/-- The word for a value. -/
def wordOf {α : Type} [DecidableEq α] (words : List (String × α)) (a : α) : Json :=
  .text (((words.find? (·.2 = a)).map (·.1)).getD "")

/-- The value of a word. -/
def ofWord? {α : Type} (words : List (String × α)) (j : Json) : Option α := do
  let w ← j.text?
  (words.find? (·.1 = w)).map (·.2)

def oneOf {α : Type} (words : List (String × α)) : Shape := .choice (words.map (·.1))

namespace NodeParams

def shape : Shape :=
  .record "NodeParams" [
    ("port", .whole .u16, none),
    ("mode", oneOf Mode.words, some (wordOf Mode.words defaultMode)),
    ("persistence", oneOf Persistence.words, some (wordOf Persistence.words defaultPersistence)),
    ("log_level", oneOf LogLevel.words, some (wordOf LogLevel.words defaultLogLevel)),
    ("log_dir", aText, some (.text defaultLogDir)),
    ("host", .maybe aText, some .null)]

def toJson (p : NodeParams) : Json :=
  .object ([
    ("port", .number p.port.toNat),
    ("mode", wordOf Mode.words p.mode),
    ("persistence", wordOf Persistence.words p.persistence),
    ("log_level", wordOf LogLevel.words p.logLevel),
    ("log_dir", .text p.logDir)] ++
    (p.host.map fun h => ("host", Json.text h)).toList)

def ofJson? (j : Json) : Option NodeParams := do
  match ← j.values? with
  | [port, mode, persistence, logLevel, logDir, host] =>
    return {
      port := UInt16.ofNat (← port.nat?)
      mode := ← ofWord? Mode.words mode
      persistence := ← ofWord? Persistence.words persistence
      logLevel := ← ofWord? LogLevel.words logLevel
      logDir := ← logDir.text?
      host := ← host.maybe? Json.text? }
  | _ => none

end NodeParams

/-! ## Clusters -/

namespace ClusterParams

def shape : Shape :=
  .record "ClusterParams" [
    ("name", aText, none),
    ("node_type", oneOf NodeType.words, some (wordOf NodeType.words .server)),
    ("nodes", .list NodeParams.shape, some (.list [])),
    ("bootstrap_retries", .whole .u32, some (.number defaultRetries.toNat)),
    ("retry_timeout", .whole .u64, some (ofSecs defaultRetryTimeout))]

def toJson (c : ClusterParams) : Json :=
  .object [
    ("name", .text c.name),
    ("node_type", wordOf NodeType.words c.nodeType),
    ("nodes", .list (c.nodes.map NodeParams.toJson)),
    ("bootstrap_retries", .number c.bootstrapRetries.toNat),
    ("retry_timeout", ofSecs c.retryTimeout)]

def ofJson? (j : Json) : Option ClusterParams := do
  match ← j.values? with
  | [name, nodeType, .list nodes, retries, timeout] =>
    return {
      name := ← name.text?
      nodeType := ← ofWord? NodeType.words nodeType
      nodes := ← nodes.mapM NodeParams.ofJson?
      bootstrapRetries := UInt32.ofNat (← retries.nat?)
      retryTimeout := ← timeout.secs? }
  | _ => none

end ClusterParams

/-! ## Services and bootstrap tools -/

namespace ServiceParams

def shape : Shape :=
  .record "ServiceParams" [
    ("name", aText, none),
    ("image", aText, none),
    ("main_class", aText, none),
    ("artifact", aPath, none)]

def toJson (s : ServiceParams) : Json :=
  .object [
    ("name", .text s.name),
    ("image", .text s.image),
    ("main_class", .text s.mainClass),
    ("artifact", .text s.artifact)]

def ofJson? (j : Json) : Option ServiceParams := do
  match ← j.values? with
  | [name, image, mainClass, artifact] =>
    return {
      name := ← name.text?
      image := ← image.text?
      mainClass := ← mainClass.text?
      artifact := ← artifact.text? }
  | _ => none

end ServiceParams

namespace BootstrapParams

def shape : Shape :=
  .record "BootstrapParams" [
    ("command", .list aText, none),
    ("work_dir", aPath, none)]

def toJson (b : BootstrapParams) : Json :=
  .object [("command", ofTexts b.command), ("work_dir", .text b.workDir)]

def ofJson? (j : Json) : Option BootstrapParams := do
  match ← j.values? with
  | [command, workDir] => return ⟨← command.texts?, ← workDir.text?⟩
  | _ => none

end BootstrapParams

/-! ## Machines -/

namespace CustomizationParams

def shape : Shape :=
  .record "CustomizationParams" [
    ("domain", aText, none),
    ("time_zone", aText, none),
    ("dns_servers", .list aText, none),
    ("dns_suffixes", .list aText, none),
    ("gateways", .list aText, none),
    ("subnet_mask", aText, none)]

def toJson (c : CustomizationParams) : Json :=
  .object [
    ("domain", .text c.domain),
    ("time_zone", .text c.timeZone),
    ("dns_servers", ofTexts c.dnsServers),
    ("dns_suffixes", ofTexts c.dnsSuffixes),
    ("gateways", ofTexts c.gateways),
    ("subnet_mask", .text c.subnetMask)]

def ofJson? (j : Json) : Option CustomizationParams := do
  match ← j.values? with
  | [domain, timeZone, dnsServers, dnsSuffixes, gateways, subnetMask] =>
    return {
      domain := ← domain.text?
      timeZone := ← timeZone.text?
      dnsServers := ← dnsServers.texts?
      dnsSuffixes := ← dnsSuffixes.texts?
      gateways := ← gateways.texts?
      subnetMask := ← subnetMask.text? }
  | _ => none

end CustomizationParams

namespace VmParams

def shape : Shape :=
  .record "VmParams" [
    ("vsphere_url", aText, none),
    ("vsphere_username", aText, none),
    ("vsphere_password", aText, none),
    ("template_vm", aText, none),
    ("host_username", aText, none),
    ("host_password", aText, none),
    ("hosts", .table (.maybe aText), some (.object [])),
    ("customization", CustomizationParams.shape, some CustomizationParams.default.toJson),
    ("ip_poll_interval", .whole .u64, some (ofSecs defaultPollInterval)),
    ("ip_poll_attempts", .whole .u32, some (.number defaultPollAttempts.toNat))]

def hostJson : Option String → Json
  | some address => .text address
  | none => .null

def toJson (v : VmParams) : Json :=
  .object [
    ("vsphere_url", .text v.vsphereUrl),
    ("vsphere_username", .text v.vsphereUsername),
    ("vsphere_password", .text v.vspherePassword),
    ("template_vm", .text v.templateVm),
    ("host_username", .text v.hostUsername),
    ("host_password", .text v.hostPassword),
    ("hosts", .object (v.hosts.map hostJson).entries),
    ("customization", v.customization.toJson),
    ("ip_poll_interval", ofSecs v.ipPollInterval),
    ("ip_poll_attempts", .number v.ipPollAttempts.toNat)]

def ofJson? (j : Json) : Option VmParams := do
  match ← j.values? with
  | [url, user, password, template, hostUser, hostPassword, hosts, customization, interval,
      attempts] =>
    return {
      vsphereUrl := ← url.text?
      vsphereUsername := ← user.text?
      vspherePassword := ← password.text?
      templateVm := ← template.text?
      hostUsername := ← hostUser.text?
      hostPassword := ← hostPassword.text?
      hosts := ← hosts.table? (Json.maybe? Json.text?)
      customization := ← CustomizationParams.ofJson? customization
      ipPollInterval := ← interval.secs?
      ipPollAttempts := UInt32.ofNat (← attempts.nat?) }
  | _ => none

end VmParams

/-! ## Universes -/

namespace UniverseParams

def shape : Shape :=
  .record "UniverseParams" [
    ("network_name", aText, some (.text defaultNetworkName)),
    ("clusters", .table ClusterParams.shape, some (.object [])),
    ("timeout", .whole .u64, some (ofSecs defaultTimeout)),
    ("service", ServiceParams.shape, some ServiceParams.default.toJson),
    ("bootstrap", BootstrapParams.shape, some BootstrapParams.default.toJson),
    ("log_root", aPath, some (.text defaultLogRoot)),
    ("workers", .whole .usize, some (.number defaultWorkers.toNat)),
    ("vm", .maybe VmParams.shape, some .null)]

def toJson (p : UniverseParams) : Json :=
  .object ([
    ("network_name", .text p.networkName),
    ("clusters", .object (p.clusters.map ClusterParams.toJson).entries),
    ("timeout", ofSecs p.timeout),
    ("service", p.service.toJson),
    ("bootstrap", p.bootstrap.toJson),
    ("log_root", .text p.logRoot),
    ("workers", .number p.workers.toNat)] ++
    (p.vm.map fun v => ("vm", v.toJson)).toList)

def ofJson? (j : Json) : Option UniverseParams := do
  match ← j.values? with
  | [networkName, clusters, timeout, service, bootstrap, logRoot, workers, vm] =>
    return {
      networkName := ← networkName.text?
      clusters := ← clusters.table? ClusterParams.ofJson?
      timeout := ← timeout.secs?
      service := ← ServiceParams.ofJson? service
      bootstrap := ← BootstrapParams.ofJson? bootstrap
      logRoot := ← logRoot.text?
      workers := UInt64.ofNat (← workers.nat?)
      vm := ← vm.maybe? VmParams.ofJson? }
  | _ => none

end UniverseParams

/-! ## Reading a document -/

/-- Reads a document of a shape and takes its meaning. The shape guarantees that there is one. -/
def decodeScanned {α : Type} (shape : Shape) (ofJson? : Json → Option α)
    (document : List (Option Char)) : Except Problem α := do
  match ofJson? (← shape.read document) with
  | some a => .ok a
  | none => .error (.malformed .expectedValue)

def decode {α : Type} (shape : Shape) (ofJson? : Json → Option α) (document : String) :
    Except Problem α :=
  decodeScanned shape ofJson? (document.toList.map some)

namespace NodeParams

def parse (document : String) : Except Problem NodeParams := decode shape ofJson? document

end NodeParams

namespace ClusterParams

def parse (document : String) : Except Problem ClusterParams := decode shape ofJson? document

end ClusterParams

namespace ServiceParams

def parse (document : String) : Except Problem ServiceParams := decode shape ofJson? document

end ServiceParams

namespace VmParams

def parse (document : String) : Except Problem VmParams := decode shape ofJson? document

end VmParams

namespace UniverseParams

def parse (document : String) : Except Problem UniverseParams := decode shape ofJson? document

/-- Reads and validates the parameters in a configuration file. -/
def load (file : Except FileError (List UInt8)) : Except Error UniverseParams := do
  let bytes ← file.mapError Error.file
  let some document := Text.Utf8.strict? bytes | throw (.file .notText)
  let params ← (parse document).mapError Error.json
  params.validate
  return params

end UniverseParams

end Testbed
