import Testbed.Arguments
import Testbed.Client
import Testbed.Error.Detail
import Testbed.FaultLoop
/-!
# The program

The program deploys the universe of a configuration file, leaves it up until it is told to shut
down, possibly under faults, and tears it down. A universe that cannot be deployed is destroyed, and
the program fails with what went wrong first.
-/

namespace Testbed.Program

inductive Ending where
  | misused (u : Usage)
  | failed (e : Error)
  | finished (s : TeardownSummary)

/-- What came of a run. -/
structure Report where
  /-- Whether the universe was ever up. -/
  up : Bool
  ending : Ending

namespace Report

def exitCode (r : Report) : Nat :=
  match r.ending with
  | .misused u => u.exitCode
  | .failed _ => 1
  | .finished _ => 0

/-- The line that a failed run ends with. -/
def errorLine? (r : Report) : Option String :=
  match r.ending with
  | .failed e => some ("Error: " ++ e.detail)
  | _ => none

end Report

/-- Waits for the signal to shut down, under faults if asked to. -/
def stayUp (args : Arguments) (u : Universe) : Work Universe := do
  let u ←
    if args.faultLoop then FaultLoop.run args.faultInterval FaultLoop.manyRounds u else pure u
  discard (Procedure.ask (I := outside) (.awaitShutdown none))
  return u

def tearDown (args : Arguments) (u : Universe) : Work (Except Error TeardownSummary) := do
  if args.destroy then return (← u.destroy).1
  else return (← u.shutDown).1

def endingOf : Except Error TeardownSummary → Ending
  | .ok s => .finished s
  | .error e => .failed e

/-- Deploys a universe and keeps it up. -/
def work (args : Arguments) (u : Universe) : Work Report := do
  match ← u.deploy with
  | (.ok (), u) =>
    let u ← stayUp args u
    return ⟨true, endingOf (← tearDown args u)⟩
  | (.error e, u) =>
    match ← u.destroy with
    | (.ok _, _) => return ⟨false, .failed e⟩
    | (.error second, _) => return ⟨false, .failed second⟩

/-- Reads the configuration file and makes its universe. -/
def prepare (args : Arguments) : Exchange (Universe × Connection) := do
  let file ← Exchange.ask (.read args.config)
  Universe.connect (← Exchange.ofExcept (UniverseParams.load file))

def start (args : Arguments) : Procedure wire Report := do
  match ← (prepare args).run with
  | .error e => return ⟨false, .failed e⟩
  | .ok (u, connection) => connection.carry (work args u)

def run (arguments : List String) : Procedure wire Report :=
  match Arguments.parse arguments with
  | .error u => return ⟨false, .misused u⟩
  | .ok args => start args

end Testbed.Program
