import Testbed.Backend
/-!
# Nodes on remote hosts

A node runs as a process on a host that is reached by a shell. Nobody tells how the process does, so
its state is tracked: it is what the last operation that succeeded made of it. Signals go to all
processes with the signature of the node in their command line.
-/

namespace Testbed

structure RemoteProcess where
  params : NodeParams
  address : String
  artifact : String
  artifactFile : String
  mainClass : String
  logDir : String
  state : NodeState
  deriving DecidableEq

namespace RemoteProcess

def ofNode (params : NodeParams) (address : String) (service : ServiceParams) (logDir : String) :
    RemoteProcess :=
  ⟨params, address, service.artifact, service.artifactFile, service.mainClass, logDir, .undeployed⟩

def name (p : RemoteProcess) : String := p.params.name

def kind : String := "remote"

/-! ## Commands -/

/-- Matches the command line of the node, but not that of the shell which sends the signal, because
the brackets match their content only. -/
def signature (p : RemoteProcess) : String := "[n]ode" ++ p.params.portText ++ "/"

def signalCommand (p : RemoteProcess) (flag : String) : String :=
  "pkill " ++ flag ++ "-f '" ++ p.signature ++ "'"

def launchCommand (p : RemoteProcess) : Except Error String :=
  p.params.commandLine.map fun arguments =>
    "sh -c 'nohup java -cp ./" ++ p.name ++ "/*.jar " ++ p.mainClass ++ " " ++ arguments ++
      " > ./" ++ p.name ++ "/server.log 2>&1 &'"

def createDirCommand (p : RemoteProcess) : String := "mkdir -p ./" ++ p.name

def remoteArtifact (p : RemoteProcess) : String := "./" ++ p.name ++ "/" ++ p.artifactFile

def showLogCommand (p : RemoteProcess) : String := "cat ./" ++ p.name ++ "/server.log"

def removeDirCommand (p : RemoteProcess) : String := "rm -rf ./" ++ p.name

/-- The flags of signals. -/
def terminateFlag : String := ""
def killFlag : String := "-9 "
def suspendFlag : String := "-STOP "
def continueFlag : String := "-CONT "

/-- What `pkill` exits with when no process matched. -/
def noMatch : Int := 1

/-! ## Running commands -/

def failure (p : RemoteProcess) (operation : String) (e : Error) : Error :=
  .node p.name operation e.message

def run (p : RemoteProcess) (operation cmd : String) : Attempt CommandOutput :=
  (Attempt.ofAnswer (askShell (.run p.address cmd))).wrap (p.failure operation)

/-- Whether a signal was sent. That there is no process to send it to is no failure. -/
def checkSignal (p : RemoteProcess) (operation flag : String) :
    Except Error CommandOutput → Except Error Unit
  | .error e => .error (p.failure operation e)
  | .ok output =>
    if output.success || output.exitCode = noMatch then .ok ()
    else
      .error (.node p.name operation
        ("'" ++ p.signalCommand flag ++ "' exited with " ++ toString output.exitCode))

def signal (p : RemoteProcess) (operation flag : String) : Attempt Unit :=
  .ofAnswer (p.checkSignal operation flag <$> askShell (.run p.address (p.signalCommand flag)))

/-- Sends signals one after the other until a limit is over. Gives what came of them, or nothing if
the time was not enough. -/
def signalWithin (p : RemoteProcess) (operation : String) :
    (limit : Duration) → (flags : List String) → Work (Option (Except Error Unit))
  | _, [] => pure (some (.ok ()))
  | limit, flag :: flags => do
    match ← Procedure.askWithin (I := outside) limit
      (.shell (.run p.address (p.signalCommand flag))) with
    | none => return none
    | some (answer, left) =>
      match p.checkSignal operation flag answer with
      | .ok () => p.signalWithin operation left flags
      | .error e => return some (.error e)

def launch (p : RemoteProcess) (operation : String) : Attempt Unit := do
  let cmd ← Attempt.ofExcept p.launchCommand
  let output ← p.run operation cmd
  if !output.success then
    throw (.node p.name operation ("launch exited with " ++ toString output.exitCode))

/-! ## The life of the process -/

def place (p : RemoteProcess) : Attempt Unit := do
  discard (p.run "deploy" p.createDirCommand)
  .ofAnswer (askShell (.copy p.address p.artifact p.remoteArtifact))
  p.launch "deploy"

def deploy (p : RemoteProcess) : Work (Outcome RemoteProcess) :=
  (p.place.wrap fun e => .deployment p.name e.message).changing p { p with state := .running }

/-- Kills whatever runs, for the tracked state may be wrong after a failed stop. -/
def kill (p : RemoteProcess) : Work (Outcome RemoteProcess) :=
  if p.state = .undeployed then return (.ok (), p)
  else
    let after := if p.state = .destroyed then .destroyed else .stopped
    (p.signal "kill" killFlag).changing p { p with state := after }

/-- A suspended process ends only when it is continued. -/
def stopFlags (p : RemoteProcess) : Option (List String) :=
  match p.state with
  | .running => some [terminateFlag]
  | .paused => some [terminateFlag, continueFlag]
  | _ => none

/-- A process that does not go when asked to, or not in time, is killed. -/
def stop (p : RemoteProcess) (timeout : Duration) : Work (Outcome RemoteProcess) := do
  match p.stopFlags with
  | none => return (.ok (), p)
  | some flags =>
    match ← p.signalWithin "stop" timeout flags with
    | some (.ok ()) => return (.ok (), { p with state := .stopped })
    | _ => p.kill

def pause (p : RemoteProcess) : Work (Outcome RemoteProcess) :=
  if p.state = .running then (p.signal "pause" suspendFlag).changing p { p with state := .paused }
  else return (.ok (), p)

def resume (p : RemoteProcess) : Work (Outcome RemoteProcess) :=
  if p.state = .paused then (p.signal "resume" continueFlag).changing p { p with state := .running }
  else return (.ok (), p)

def restart (p : RemoteProcess) : Work (Outcome RemoteProcess) :=
  match p.state with
  | .stopped => (p.launch "restart").changing p { p with state := .running }
  | .running | .paused => return (.ok (), p)
  | .undeployed | .destroyed =>
    return (.error (.notFound ("process of " ++ p.name ++ " on " ++ p.address)), p)

def collectLogs (p : RemoteProcess) : Attempt Unit := do
  let output ← p.run "collect logs of" p.showLogCommand
  appendLog p.logDir p.name output.stdout

def remove (p : RemoteProcess) : Work (Outcome RemoteProcess) :=
  (discard (p.run "remove" p.removeDirCommand) : Attempt Unit).changing p
    { p with state := .destroyed }

/-! ## As a backend -/

def perform (p : RemoteProcess) : Operation → Work (Outcome RemoteProcess)
  | .deploy => p.deploy
  | .stop timeout => p.stop timeout
  | .kill => p.kill
  | .pause => p.pause
  | .resume => p.resume
  | .disconnect => return (.error (.unsupported kind "disconnect"), p)
  | .reconnect => return (.error (.unsupported kind "reconnect"), p)
  | .restart => p.restart
  | .collectLogs => p.collectLogs.keeping p
  | .remove => p.remove

instance : Backend RemoteProcess where
  kind _ := kind
  supportsPartition _ := false
  perform op p := p.perform op
  state p := return .ok p.state
  faultRules _ := return .ok []
  release _ := return ()

end RemoteProcess

end Testbed
