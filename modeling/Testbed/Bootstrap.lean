import Testbed.Call
import Testbed.Text.Utf8
/-!
# Bootstrapping a cluster

A bootstrapper hands the first layout to the nodes of a cluster. `CommandBootstrapper` writes the
layout to a file once and runs a tool on it until the tool succeeds, at most one time more than
there are retries, with a pause between any two attempts.
-/

namespace Testbed

abbrev Bootstrapper := BootstrapRequest → Attempt Unit

namespace Bootstrapper

/-- Leaves the request to somebody else. -/
def delegated : Bootstrapper := fun r => .ofAnswer (.ask (I := outside) (.bootstrap r))

end Bootstrapper

def ExitStatus.success : ExitStatus → Bool
  | .code n => n = 0
  | .signal _ => false

/-- The signals that have a name, by number. -/
def signalNames : List (Nat × String) :=
  [(1, "SIGHUP"), (2, "SIGINT"), (3, "SIGQUIT"), (4, "SIGILL"), (5, "SIGTRAP"), (6, "SIGABRT"),
    (7, "SIGBUS"), (8, "SIGFPE"), (9, "SIGKILL"), (10, "SIGUSR1"), (11, "SIGSEGV"),
    (12, "SIGUSR2"), (13, "SIGPIPE"), (14, "SIGALRM"), (15, "SIGTERM"), (16, "SIGSTKFLT"),
    (17, "SIGCHLD"), (18, "SIGCONT"), (19, "SIGSTOP"), (20, "SIGTSTP"), (21, "SIGTTIN"),
    (22, "SIGTTOU"), (23, "SIGURG"), (24, "SIGXCPU"), (25, "SIGXFSZ"), (26, "SIGVTALRM"),
    (27, "SIGPROF"), (28, "SIGWINCH"), (29, "SIGIO"), (30, "SIGPWR"), (31, "SIGSYS")]

def ExitStatus.text : ExitStatus → String
  | .code n => "exit status: " ++ toString n
  | .signal n =>
    "signal: " ++ toString n ++
      match signalNames.find? (·.1 = n) with
      | some (_, name) => " (" ++ name ++ ")"
      | none => ""

structure CommandBootstrapper where
  program : String
  args : List String
  workDir : String
  deriving DecidableEq, Repr

namespace CommandBootstrapper

def ofParams (p : BootstrapParams) : Except Error CommandBootstrapper :=
  match p.command with
  | [] => .error (.config "bootstrap command must not be empty")
  | program :: args => .ok ⟨program, args, p.workDir⟩

def layoutFile (b : CommandBootstrapper) (r : BootstrapRequest) : String :=
  Path.join b.workDir (r.cluster ++ "-" ++ r.layout.clusterId.text ++ ".json")

def writeLayout (b : CommandBootstrapper) (r : BootstrapRequest) : Attempt Unit := do
  askFiles (.createDir b.workDir)
  askFiles (.write (b.layoutFile r) r.layout.render)

/-- The reason why a run of the tool did not succeed, if it did not. -/
def verdict (b : CommandBootstrapper) : Except FileError ProgramOutput → Except String Unit
  | .error e => .error ("failed to run " ++ b.program ++ ": " ++ e.message)
  | .ok output =>
    if output.status.success then .ok ()
    else
      .error (b.program ++ " exited with " ++ output.status.text ++ ": " ++
        Text.trim (Text.Utf8.lossy output.stderr))

def tryOnce (b : CommandBootstrapper) (path : String) : Work (Except String Unit) :=
  b.verdict <$> Procedure.ask (I := outside) (.program b.program (b.args ++ [path]))

/-- Tries once, and again after a pause as often as there are retries. -/
def tryUpTo (b : CommandBootstrapper) (path : String) (pause : Duration) :
    (retries : Nat) → Work (Except String Unit)
  | 0 => b.tryOnce path
  | retries + 1 => do
    match ← b.tryOnce path with
    | .ok () => return .ok ()
    | .error _ =>
      Procedure.sleep pause
      b.tryUpTo path pause retries

/-- The failure after all attempts. -/
def exhausted (r : BootstrapRequest) (reason : String) : Error :=
  .bootstrap r.cluster (r.retries.toNat + 1) reason

def bootstrap (b : CommandBootstrapper) : Bootstrapper := fun r => do
  b.writeLayout r
  .ofAnswer ((·.mapError (exhausted r)) <$>
    b.tryUpTo (b.layoutFile r) r.retryTimeout r.retries.toNat)

end CommandBootstrapper

end Testbed
