import Testbed.Call
import Testbed.Params.Format
/-!
# Answers of the container engine

The shapes of the documents that the engine answers with. An engine may leave out nearly everything,
but what it does say has to have its shape, even where nobody asks for it.
-/

namespace Testbed.Client.Engine

open Json (Shape)

abbrev Field := String × Shape × Option Json

/-! ## Fields -/

/-- Fields of one shape, any of which may be left out or null. -/
def fields (shape : Shape) (names : List String) : List Field :=
  names.map fun name => (name, .maybe shape, none)

def field (name : String) (shape : Shape) : List Field := fields shape [name]

def texts : List String → List Field := fields aText

def flags : List String → List Field := fields .flag

/-- Counts, sizes and the like. -/
def counts : List String → List Field := fields (.whole .i64)

def lists : List String → List Field := fields (.list aText)

def tables : List String → List Field := fields (.table aText)

/-- A word, or an empty text for none. -/
def word (words : List String) : Shape := .choice ("" :: words)

/-- A set of names, written as an object of empty objects; only the empty set is understood. -/
def noNames : Shape := .empty

/-! ## The engine -/

def versionShape : Shape := .record "Version" (
  field "Platform" (.record "SystemVersionPlatform" [("Name", aText, none)]) ++
  field "Components" (.list (.record "VersionComponents" [
    ("Name", aText, none), ("Version", aText, none), ("Details", .maybe (.table aText), none)])) ++
  texts ["Version", "ApiVersion", "MinAPIVersion", "GitCommit", "GoVersion", "Os", "Arch",
    "KernelVersion"] ++
  flags ["Experimental"] ++ texts ["BuildTime"])

/-! ## Resources and mounts -/

def weightShape : Shape := .record "ResourcesBlkioWeightDevice" (
  texts ["Path"] ++ field "Weight" (.whole .usize))

def throttleShape : Shape := .record "ThrottleDevice" (texts ["Path"] ++ counts ["Rate"])

def deviceShape : Shape := .record "DeviceMapping" (
  texts ["PathOnHost", "PathInContainer", "CgroupPermissions"])

def deviceRequestShape : Shape := .record "DeviceRequest" (
  texts ["Driver"] ++ counts ["Count"] ++ lists ["DeviceIDs"] ++
  field "Capabilities" (.list (.list aText)) ++ tables ["Options"])

def limitShape : Shape := .record "ResourcesUlimits" (texts ["Name"] ++ counts ["Soft", "Hard"])

def mountWords : List String := ["bind", "volume", "tmpfs", "npipe", "cluster"]

def bindShape : Shape := .record "MountBindOptions" (
  field "Propagation"
    (word ["private", "rprivate", "shared", "rshared", "slave", "rslave"]) ++
  flags ["NonRecursive", "CreateMountpoint", "ReadOnlyNonRecursive", "ReadOnlyForceRecursive"])

def volumeShape : Shape := .record "MountVolumeOptions" (
  flags ["NoCopy"] ++ tables ["Labels"] ++
  field "DriverConfig"
    (.record "MountVolumeOptionsDriverConfig" (texts ["Name"] ++ tables ["Options"])) ++
  texts ["Subpath"])

def memoryFilesShape : Shape := .record "MountTmpfsOptions" (
  counts ["SizeBytes", "Mode"] ++ field "Options" (.list (.list aText)))

/-- A mount as it was ordered. -/
def mountShape : Shape := .record "Mount" (
  texts ["Target", "Source"] ++ field "Type" (word mountWords) ++ flags ["ReadOnly"] ++
  texts ["Consistency"] ++ field "BindOptions" bindShape ++
  field "VolumeOptions" volumeShape ++ field "TmpfsOptions" memoryFilesShape)

/-- A mount as it is. -/
def mountPointShape : Shape := .record "MountPoint" (
  field "Type" (word mountWords) ++ texts ["Name", "Source", "Destination", "Driver", "Mode"] ++
  flags ["RW"] ++ texts ["Propagation"])

/-! ## Networks -/

def bindingShape : Shape := .record "PortBinding" (texts ["HostIp", "HostPort"])

/-- Where the ports of a container are bound, for each nowhere or at some places. -/
def portsShape : Shape := .table (.maybe (.list bindingShape))

def endpointShape : Shape := .record "EndpointSettings" (
  field "IPAMConfig" (.record "EndpointIpamConfig" (
    texts ["IPv4Address", "IPv6Address"] ++ lists ["LinkLocalIPs"])) ++
  lists ["Links"] ++ texts ["MacAddress"] ++ lists ["Aliases"] ++ tables ["DriverOpts"] ++
  texts ["NetworkID", "EndpointID", "Gateway", "IPAddress"] ++ counts ["IPPrefixLen"] ++
  texts ["IPv6Gateway", "GlobalIPv6Address"] ++ counts ["GlobalIPv6PrefixLen"] ++
  lists ["DNSNames"])

def addressesShape : Shape := .list (.record "Address" (texts ["Addr"] ++ counts ["PrefixLen"]))

def networkSettingsShape : Shape := .record "NetworkSettings" (
  texts ["Bridge", "SandboxID"] ++ flags ["HairpinMode"] ++ texts ["LinkLocalIPv6Address"] ++
  counts ["LinkLocalIPv6PrefixLen"] ++ field "Ports" portsShape ++ texts ["SandboxKey"] ++
  fields addressesShape ["SecondaryIPAddresses", "SecondaryIPv6Addresses"] ++
  texts ["EndpointID", "Gateway", "GlobalIPv6Address"] ++ counts ["GlobalIPv6PrefixLen"] ++
  texts ["IPAddress"] ++ counts ["IPPrefixLen"] ++ texts ["IPv6Gateway", "MacAddress"] ++
  field "Networks" (.table endpointShape))

def subnetShape : Shape := .record "IpamConfig" (
  texts ["Subnet", "IPRange", "Gateway"] ++ tables ["AuxiliaryAddresses"])

def networkShape : Shape := .record "Network" (
  texts ["Name", "Id", "Created", "Scope", "Driver"] ++ flags ["EnableIPv4", "EnableIPv6"] ++
  field "IPAM" (.record "Ipam" (
    texts ["Driver"] ++ field "Config" (.list subnetShape) ++ tables ["Options"])) ++
  flags ["Internal", "Attachable", "Ingress"] ++
  field "ConfigFrom" (.record "ConfigReference" (texts ["Network"])) ++ flags ["ConfigOnly"] ++
  field "Containers" (.table (.record "NetworkContainer" (
    texts ["Name", "EndpointID", "MacAddress", "IPv4Address", "IPv6Address"]))) ++
  tables ["Options", "Labels"] ++
  field "Peers" (.list (.record "PeerInfo" (texts ["Name", "IP"]))))

def createdNetworkShape : Shape := .record "NetworkCreateResponse" [
  ("Id", aText, none), ("Warning", aText, none)]

/-! ## Containers -/

def createdShape : Shape := .record "ContainerCreateResponse" [
  ("Id", aText, none), ("Warnings", .nullable (.list aText), none)]

def healthShape : Shape := .record "Health" (
  field "Status" (word ["none", "starting", "healthy", "unhealthy"]) ++ counts ["FailingStreak"] ++
  field "Log" (.list (.record "HealthcheckResult" (
    texts ["Start", "End"] ++ counts ["ExitCode"] ++ texts ["Output"]))))

def stateShape : Shape := .record "ContainerState" (
  field "Status"
    (word ["created", "running", "paused", "restarting", "removing", "exited", "dead"]) ++
  flags ["Running", "Paused", "Restarting", "OOMKilled", "Dead"] ++ counts ["Pid", "ExitCode"] ++
  texts ["Error", "StartedAt", "FinishedAt"] ++ field "Health" healthShape)

/-- How a container is bound to its host. -/
def hostConfigShape : Shape := .record "HostConfig" (
  counts ["CpuShares", "Memory"] ++ texts ["CgroupParent"] ++
  field "BlkioWeight" (.whole .u16) ++ field "BlkioWeightDevice" (.list weightShape) ++
  fields (.list throttleShape) ["BlkioDeviceReadBps", "BlkioDeviceWriteBps",
    "BlkioDeviceReadIOps", "BlkioDeviceWriteIOps"] ++
  counts ["CpuPeriod", "CpuQuota", "CpuRealtimePeriod", "CpuRealtimeRuntime"] ++
  texts ["CpusetCpus", "CpusetMems"] ++ field "Devices" (.list deviceShape) ++
  lists ["DeviceCgroupRules"] ++ field "DeviceRequests" (.list deviceRequestShape) ++
  counts ["KernelMemoryTCP", "MemoryReservation", "MemorySwap", "MemorySwappiness", "NanoCpus"] ++
  flags ["OomKillDisable", "Init"] ++ counts ["PidsLimit"] ++
  field "Ulimits" (.list limitShape) ++
  counts ["CpuCount", "CpuPercent", "IOMaximumIOps", "IOMaximumBandwidth"] ++
  lists ["Binds"] ++ texts ["ContainerIDFile"] ++
  field "LogConfig" (.record "HostConfigLogConfig" (texts ["Type"] ++ tables ["Config"])) ++
  texts ["NetworkMode"] ++ field "PortBindings" portsShape ++
  field "RestartPolicy" (.record "RestartPolicy" (
    field "Name" (word ["no", "always", "unless-stopped", "on-failure"]) ++
    counts ["MaximumRetryCount"])) ++
  flags ["AutoRemove"] ++ texts ["VolumeDriver"] ++ lists ["VolumesFrom"] ++
  field "Mounts" (.list mountShape) ++ field "ConsoleSize" (.list (.whole .i32)) ++
  tables ["Annotations"] ++ lists ["CapAdd", "CapDrop"] ++
  field "CgroupnsMode" (word ["private", "host"]) ++
  lists ["Dns", "DnsOptions", "DnsSearch", "ExtraHosts", "GroupAdd"] ++
  texts ["IpcMode", "Cgroup"] ++ lists ["Links"] ++ counts ["OomScoreAdj"] ++ texts ["PidMode"] ++
  flags ["Privileged", "PublishAllPorts", "ReadonlyRootfs"] ++ lists ["SecurityOpt"] ++
  tables ["StorageOpt", "Tmpfs"] ++ texts ["UTSMode", "UsernsMode"] ++ counts ["ShmSize"] ++
  tables ["Sysctls"] ++ texts ["Runtime"] ++
  field "Isolation" (word ["default", "process", "hyperv"]) ++
  lists ["MaskedPaths", "ReadonlyPaths"])

/-- What a container was ordered to be. -/
def configShape : Shape := .record "ContainerConfig" (
  texts ["Hostname", "Domainname", "User"] ++
  flags ["AttachStdin", "AttachStdout", "AttachStderr"] ++
  field "ExposedPorts" (.table noNames) ++ flags ["Tty", "OpenStdin", "StdinOnce"] ++
  lists ["Env", "Cmd"] ++
  field "Healthcheck" (.record "HealthConfig" (
    lists ["Test"] ++ counts ["Interval", "Timeout", "Retries", "StartPeriod", "StartInterval"])) ++
  flags ["ArgsEscaped"] ++ texts ["Image"] ++ field "Volumes" (.table noNames) ++
  texts ["WorkingDir"] ++ lists ["Entrypoint"] ++ flags ["NetworkDisabled"] ++
  texts ["MacAddress"] ++ lists ["OnBuild"] ++ tables ["Labels"] ++ texts ["StopSignal"] ++
  counts ["StopTimeout"] ++ lists ["Shell"])

def containerShape : Shape := .record "ContainerInspectResponse" (
  texts ["Id", "Created", "Path"] ++ lists ["Args"] ++ field "State" stateShape ++
  texts ["Image", "ResolvConfPath", "HostnamePath", "HostsPath", "LogPath", "Name"] ++
  counts ["RestartCount"] ++
  texts ["Driver", "Platform", "MountLabel", "ProcessLabel", "AppArmorProfile"] ++
  lists ["ExecIDs"] ++ field "HostConfig" hostConfigShape ++
  field "GraphDriver" (.record "DriverData" [
    ("Name", aText, none), ("Data", .nullable (.table aText), none)]) ++
  counts ["SizeRw", "SizeRootFs"] ++ field "Mounts" (.list mountPointShape) ++
  field "Config" configShape ++ field "NetworkSettings" networkSettingsShape)

/-! ## Commands in containers -/

def execShape : Shape := .record "CreateExecResults" [("Id", aText, none)]

def execResultShape : Shape := .record "ExecInspectResponse" (
  flags ["CanRemove"] ++ texts ["DetachKeys", "ID"] ++ flags ["Running"] ++ counts ["ExitCode"] ++
  field "ProcessConfig" (.record "ProcessConfig" (
    flags ["privileged"] ++ texts ["user"] ++ flags ["tty"] ++ texts ["entrypoint"] ++
    lists ["arguments"])) ++
  flags ["OpenStdin", "OpenStderr", "OpenStdout"] ++ texts ["ContainerID"] ++ counts ["Pid"])

/-! ## Refusals -/

def messageShape : Shape := .record "DockerServerErrorMessage" [("message", aText, none)]

/-! ## What answers mean -/

/-- The flags of a container; what is not said is not so. -/
def containerStatus? (j : Json) : Option ContainerStatus := do
  let state ← j.member? "State"
  let isTrue (name : String) : Bool :=
    match state.member? name with
    | some (.bool b) => b
    | _ => false
  return ⟨isTrue "Running", isTrue "Paused"⟩

/-- The first addresses that are configured for a network, where there are both. -/
def networkInfo? (j : Json) : Option (Option NetworkInfo) := do
  let .list (first :: _) := ((← j.member? "IPAM").member? "Config").getD .null | return none
  match first.member? "Subnet", first.member? "Gateway" with
  | some (.text subnet), some (.text gateway) => return some ⟨subnet, gateway⟩
  | _, _ => return none

/-- The exit code of a command that says none. -/
def unknownExit : Int := -1

def exitCode? (j : Json) : Option Int := do
  match ← j.member? "ExitCode" with
  | .number n => return n
  | _ => return unknownExit

end Testbed.Client.Engine
