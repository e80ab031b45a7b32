import Testbed.Program
import Testbed.Relay
/-!
# Running the program

Files are read and written here. For all else a relay is asked over the standard streams.
-/

namespace Testbed.Machine

/-- Why the file system refused. -/
def fileErrorOf (e : IO.Error) : FileError :=
  match e with
  | .noFileOrDirectory _ 20 _ | .inappropriateType _ 20 _ => .notDirectory
  | .noFileOrDirectory .. => .missing
  | .inappropriateType .. => .isDirectory
  | .alreadyExists .. => .exists
  | e => .other (toString e)

def attempt {α : Type} (act : IO α) : IO (Except FileError α) := do
  try
    return .ok (← act)
  catch e =>
    return .error (fileErrorOf e)

def doFile : FileCall → IO (Except FileError Unit)
  | .createDir path => attempt (IO.FS.createDirAll path)
  | .append path contents =>
    attempt (IO.FS.withFile path .append fun h => h.putStr contents)
  | .write path contents => attempt (IO.FS.writeFile path contents)

/-- Asks the relay. -/
def askRelay (c : WireCall) : IO String := do
  match Relay.question? c with
  | none => return ""
  | some question =>
    let out ← IO.getStdout
    out.putStrLn (String.ofList question.compact)
    out.flush
    (← IO.getStdin).getLine

def answerDirect : (c : Call) → IO c.Answer
  | .file c => doFile c
  | .program name args => return Relay.output (← askRelay (.direct (.program name args)))
  | .timeStamp => return Relay.timeStamp (← askRelay (.direct .timeStamp))
  | .awaitShutdown limit =>
    return Relay.shutdownCame (← askRelay (.direct (.awaitShutdown limit)))
  | .freshId => return Uuid.ofRandom (← IO.rand 0 (Nat.pow 2 128 - 1))
  | .pick bound => do
    let n ← IO.rand 0 bound
    return ⟨n % (bound + 1), Nat.mod_lt n (Nat.succ_pos bound)⟩
  | .abandon _ => return ()
  | .act _ _ => return none
  | .bootstrap _ => return .error Connection.missing
  | .engine c => return c.refuse Connection.missing
  | .hypervisor c => return c.refuse Connection.missing
  | .shell c => return c.refuse Connection.missing

def answerWire : (c : WireCall) → IO c.Answer
  | .engine r => return Relay.response (← askRelay (.engine r))
  | .web r => return Relay.response (← askRelay (.web r))
  | .command r => return Relay.reply (← askRelay (.command r))
  | .read path => attempt ((·.toList) <$> IO.FS.readBinFile path)
  | .direct c => answerDirect c

/-- Waits until so much time has passed since a start. -/
def waitUntil (start : Nat) (moment : Duration) : IO Unit := do
  let passed := (← IO.monoMsNow) - start
  if passed < moment.millis then IO.sleep (UInt32.ofNat (moment.millis - passed))

/-- Follows a procedure on the clock of the machine. -/
def follow {α : Type} (start : Nat) : (clock : Duration) → Procedure wire α → IO α
  | _, .done a => return a
  | clock, .call c next => do
    let before ← IO.monoMsNow
    let a ← answerWire c
    follow start clock (next a (.ofMillis ((← IO.monoMsNow) - before)))
  | clock, .pause d next => do
    waitUntil start (clock + d)
    follow start (clock + d) next
  | clock, .clock next => follow start clock (next clock)

end Testbed.Machine

open Testbed in
def main (arguments : List String) : IO UInt32 := do
  let report ← Machine.follow (← IO.monoMsNow) .zero (Program.run arguments)
  match report.ending with
  | .misused u => IO.eprintln u.text
  | .finished s => IO.eprintln s.text
  | .failed _ => IO.eprintln (report.errorLine?.getD "")
  return UInt32.ofNat report.exitCode
