import Testbed.Backend
import Testbed.Firewall
/-!
# Nodes in containers

The engine knows how a container does, so that a container is looked at before it is acted upon, and
an operation that has nothing to do succeeds. A container that was created is guarded until it is
removed: when a guarded backend is given up, or deployed once more, its container is left to be
killed.
-/

namespace Testbed

structure Container where
  params : NodeParams
  image : String
  mainClass : String
  network : String
  logDir : String
  /-- Whether the container was ever created. -/
  deployed : Bool
  guarded : Bool
  deriving DecidableEq

namespace Container

def ofNode (params : NodeParams) (service : ServiceParams) (network logDir : String) : Container :=
  ⟨params, service.image, service.mainClass, network, logDir, false, false⟩

def name (c : Container) : String := c.params.name

def spec (c : Container) : Except Error ContainerSpec :=
  c.params.commandLine.map fun arguments => {
    name := c.name
    image := c.image
    hostname := c.name
    cmd := ["sh", "-c", "java -cp *.jar " ++ c.mainClass ++ " " ++ arguments]
    port := c.params.port
    privileged := true }

/-! ## The life of the container -/

/-- Leaves the container to be killed if it is guarded. -/
def release (c : Container) : Work Unit :=
  if c.guarded then .ask (I := outside) (.abandon c.name) else pure ()

def connectAndStart (c : Container) : Attempt Unit := do
  .ofAnswer (askEngine (.connect c.name c.network))
  .ofAnswer (askEngine (.start c.name))

/-- What is left after a container did not start: no container, if it can be removed. -/
def takeBack (c : Container) : Work Container := do
  match ← askEngine (.remove c.name) with
  | .ok () => return { c with guarded := false }
  | .error _ => return c

def deploy (c : Container) : Work (Outcome Container) := do
  match c.spec with
  | .error e => return (.error e, c)
  | .ok spec =>
    match ← askEngine (.create spec) with
    | .error e => return (.error (.deployment c.name e.message), c)
    | .ok _ =>
      c.release
      let c := { c with deployed := true, guarded := true }
      match ← c.connectAndStart.run with
      | .ok () => return (.ok (), c)
      | .error e => return (.error (.deployment c.name e.message), ← c.takeBack)

/-- A container that is missing is down. -/
def status (c : Container) : Attempt ContainerStatus :=
  .ofAnswer ((·.map (·.getD .down)) <$> askEngine (.inspect c.name))

/-- Takes a missing container for success. -/
def forgiveMissing (r : Except Error Unit) : Except Error Unit :=
  match r with
  | .error e => if e.isMissing then .ok () else .error e
  | .ok () => .ok ()

def stop (c : Container) (timeout : Duration) : Attempt Unit := do
  let status ← c.status
  if status.running || status.paused then
    .ofAnswer (forgiveMissing <$> askEngine (.stop c.name timeout))

def kill (c : Container) : Attempt Unit := do
  let status ← c.status
  if status.running || status.paused then
    .ofAnswer (forgiveMissing <$> askEngine (.kill c.name))

def pause (c : Container) : Attempt Unit := do
  let status ← c.status
  if status.running && !status.paused then
    .ofAnswer (askEngine (.pause c.name))

def resume (c : Container) : Attempt Unit := do
  let status ← c.status
  if status.paused then
    .ofAnswer (askEngine (.unpause c.name))

def restart (c : Container) : Attempt Unit := do
  match ← Attempt.ofAnswer (askEngine (.inspect c.name)) with
  | none => throw (.notFound ("container " ++ c.name))
  | some status =>
    if !(status.running || status.paused) then
      .ofAnswer (askEngine (.restart c.name))

def collectLogs (c : Container) : Attempt Unit := do
  let logs ← Attempt.ofAnswer (askEngine (.logs c.name))
  appendLog c.logDir c.name logs

def remove (c : Container) : Work (Outcome Container) :=
  (Attempt.ofAnswer (forgiveMissing <$> askEngine (.remove c.name))).changing c
    { c with guarded := false }

def state (c : Container) : Work (Except Error NodeState) := do
  match ← askEngine (.inspect c.name) with
  | .error e => return .error e
  | .ok (some status) =>
    return .ok (if status.paused then .paused else if status.running then .running else .stopped)
  | .ok none => return .ok (if c.deployed then .destroyed else .undeployed)

/-! ## The packet filter -/

def filter (c : Container) (cmd : List String) : Attempt CommandOutput :=
  (Attempt.ofAnswer (askEngine (.exec c.name cmd))).wrap fun e => .faultInjection c.name e.message

/-- Runs a command of the packet filter that has to succeed. -/
def filterChecked (c : Container) (cmd : List String) : Attempt CommandOutput := do
  let output ← c.filter cmd
  if output.success then return output
  else
    throw (.faultInjection c.name
      ("'" ++ Text.spaced cmd ++ "' exited with " ++ toString output.exitCode))

/-- Puts a rule in place unless it is there already. -/
def ensureRule (c : Container) (rule : FilterRule) : Attempt Unit := do
  if !(← c.filter rule.checkCommand).success then
    discard (c.filterChecked rule.appendCommand)

def disconnect (c : Container) : Attempt Unit := do
  let network ← (Attempt.ofAnswer (askEngine (.networkInfo c.network))).wrap
    fun e => .faultInjection c.name e.message
  (Firewall.partitionRules network.subnet network.gateway).forM c.ensureRule

def reconnect (c : Container) : Attempt Unit :=
  Firewall.flushCommands.forM fun cmd => discard (c.filterChecked cmd)

def faultRules (c : Container) : Attempt (List String) := do
  return Firewall.parseRules (← c.filterChecked Firewall.listCommand).stdout

/-! ## As a backend -/

def perform (c : Container) : Operation → Work (Outcome Container)
  | .deploy => c.deploy
  | .stop timeout => (c.stop timeout).keeping c
  | .kill => c.kill.keeping c
  | .pause => c.pause.keeping c
  | .resume => c.resume.keeping c
  | .disconnect => c.disconnect.keeping c
  | .reconnect => c.reconnect.keeping c
  | .restart => c.restart.keeping c
  | .collectLogs => c.collectLogs.keeping c
  | .remove => c.remove

instance : Backend Container where
  kind _ := "docker"
  supportsPartition _ := true
  perform op c := c.perform op
  state := state
  faultRules c := c.faultRules.run
  release := release

end Container

end Testbed
