import Testbed.Wire
/-!
# The client of remote shells

Every command runs in a session of its own. What it prints comes in pieces, which are read as text
only when they are together, and the code that it exits with may come at any time; a later one
replaces an earlier one. A command that never says how it ended has failed.
-/

namespace Testbed.Client.Shell

/-- The code of a command that said none. -/
def unknownExit : Int := -1

/-- What was written to the standard output. -/
def stdoutBytes (events : List CommandEvent) : List UInt8 :=
  events.flatMap fun e =>
    match e with
    | .stdout bytes => bytes
    | _ => []

/-- The code that was said last. -/
def exitCode (events : List CommandEvent) : Int :=
  events.foldl (fun code e =>
    match e with
    | .exited n => n.toNat
    | _ => code) unknownExit

def outputOf (events : List CommandEvent) : CommandOutput :=
  ⟨Text.Utf8.lossy (stdoutBytes events), exitCode events⟩

def exec (login : Login) (host cmd : String) (input : Option (List UInt8)) :
    Exchange CommandOutput := do
  match ← Exchange.ask (.command ⟨host, login, cmd, input⟩) with
  | .unreachable reason | .channelRefused reason => throw (.ssh reason)
  | .loginRefused =>
    throw (.node host "log into" ("password authentication failed for " ++ login.user))
  | .ran events => return outputOf events

/-- Copies a file by a command that writes what it reads. -/
def copy (login : Login) (host source target : String) : Exchange Unit := do
  let bytes ← Exchange.ofExcept ((← Exchange.ask (.read source)).mapError Error.file)
  let output ← exec login host ("cat > '" ++ target ++ "'") (some bytes)
  if !output.success then
    throw (.node host "copy to"
      ("writing " ++ target ++ " exited with " ++ toString output.exitCode))

def perform (login : Login) : (c : ShellCall) → Procedure wire c.Answer
  | .run host cmd => (exec login host cmd none).run
  | .copy host source target => (copy login host source target).run

end Testbed.Client.Shell
