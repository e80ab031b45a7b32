import Testbed.Lab.Script.Simple
/-!
# Running commands

How each kind of command is run. A command that fails ends the script if the session asks for that,
unless somebody tests whether it fails.
-/

namespace Testbed.Lab.Script

open Text (Octets)
open Process (chars)

/-- How often a loop may go round. -/
def mostRounds : Nat := 100000000

namespace Runner

/-! ## Loops -/

/-- Runs a round of a loop; nothing tells that the loop is over. -/
def roundOf (body : Run (Option Nat)) : Run (Option Nat × Nat) := do
  match ← attempt body with
  | .ok (some status) => return (some status, status)
  | .ok none => return (none, 0)
  | .error (.loop again levels) =>
    if 1 < levels then throw (.loop again (levels - 1))
    else return (if again then some 0 else none, 0)
  | .error e => throw e

/-- Runs something that the commands in it may break off. -/
def inLoop (body : Run Nat) : Run Nat := do
  let loops := (← get).loops
  modify ({ · with loops := loops + 1 })
  let result ← attempt body
  modify ({ · with loops := loops })
  resume result

def loop (r : Runner) (tested whileFails : Bool) (condition body : Command) :
    (rounds : Nat) → (status : Nat) → Run Nat
  | 0, status => return status
  | rounds + 1, status => do
    let round : Run (Option Nat × Nat) := do
      match ← attempt (r.command true false condition) with
      | .ok c =>
        if (c = 0) = whileFails then return (none, status)
        else roundOf (some <$> r.command tested false body)
      | .error e => roundOf (throw e)
    match ← round with
    | (some status, _) => loop r tested whileFails condition body rounds status
    | (none, status) => return status

def forEach (r : Runner) (tested : Bool) (name : String) (body : Command) :
    List Octets → (status : Nat) → Run Nat
  | [], status => return status
  | value :: rest, _ => do
    assign name value
    match ← roundOf (some <$> r.command tested false body) with
    | (some status, _) => forEach r tested name body rest status
    | (none, status) => return status

/-! ## Choices -/

/-- Whether one of some patterns stands for a text. -/
def matchesOne (r : Runner) (cs : Octets) : List Word → Run Bool
  | [] => return false
  | w :: rest => do
    let atoms ← r.word false false (withTildes (← get) false w)
    if Glob.stands (Glob.read (Atom.pattern atoms)) cs then return true
    else matchesOne r cs rest

/-- Runs the first arm that a text fits. -/
def select (r : Runner) (tested final : Bool) (cs : Octets) : List (List Word × Command) → Run Nat
  | [] => return 0
  | (patterns, body) :: rest => do
    if ← r.matchesOne cs patterns then
      match body with
      | .nothing => return 0
      | body => r.command tested final body
    else select r tested final cs rest

/-! ## Processes -/

/-- Runs the parts of a pipe one after the other, each in a process of its own. The first one reads
from a channel, or else from where the session reads. -/
def pipe (r : Runner) (tested : Bool) (input : Option Nat) : List Command → Run Nat
  | [] => return 0
  | c :: rest => do
    let p := (← get).process
    let (id, machine) := p.machine.add (.pipe [] [])
    modify ({ · with process := { p with machine := machine } })
    let differ (p : Process) : Process :=
      let p := match input with
        | some id => p.setStream 0 (some id)
        | none => p
      if rest.isEmpty then p else p.setStream 1 (some id)
    let status ← statusOf (← r.apart differ (r.command tested true c))
    if rest.isEmpty then return status else pipe r tested (some id) rest

/-- Runs a command in a process of its own that nobody waits for. -/
def behind (r : Runner) (c : Command) : Run Nat := do
  let p := (← get).process
  let (id, machine) := p.machine.add .void
  modify ({ · with process := { p with machine := machine } })
  let child := machine.processes + 1
  let ended ← r.apart (·.setStream 0 (some id)) (r.command false true c)
  modify fun s => { s with behind := (child, ended) :: s.behind, latest := some child }
  return 0

/-- Runs a command in a shell of its own. -/
def apartFrom (r : Runner) (tested final : Bool) (body : Command)
    (redirections : List Redirection) : Run Nat := do
  let steps : Run Nat := do
    if ← r.redirect redirections then r.command tested true body
    else
      let _ ← setStatus 2
      throw .failed
  if final && (← get).traps.all (·.2.isEmpty) then
    modify ({ · with loops := 0 })
    steps
  else statusOf (← r.apart id steps)

/-! ## Commands -/

/-- Runs a command; tells its status, and whether that ends a script that must not fail. -/
def result (r : Runner) (tested final : Bool) : Command → Run (Nat × Bool)
  | .nothing => do return ((← get).status, false)
  | .simple line settings words redirections => do
    return (← r.simple tested final line settings words redirections, true)
  | .redirected line body redirections => do
    modify ({ · with line := line })
    let streams := (← get).process.streams
    let result ← attempt (do
      if ← r.redirect redirections then r.command tested false body else return 2)
    putBack streams
    return (← resume result, false)
  | .apart line body redirections => do
    modify ({ · with line := line })
    return (← r.apartFrom tested final body redirections, true)
  | .behind line body => do
    modify ({ · with line := line })
    return (← r.behind body, true)
  | .piped parts => do return (← r.pipe tested none parts, true)
  | .negated body => do
    return (if (← r.command true false body) = 0 then 1 else 0, false)
  | .both first second => do
    let status ← r.command true false first
    return (← if status = 0 then r.command tested final second else pure status, false)
  | .either first second => do
    let status ← r.command true false first
    return (← if status = 0 then pure status else r.command tested final second, false)
  | .inTurn first second => do
    let _ ← r.command tested false first
    return (← r.command tested final second, false)
  | .choice condition yes no => do
    if (← r.command true false condition) = 0 then return (← r.command tested final yes, false)
    else
      match no with
      | .nothing => return (0, false)
      | no => return (← r.command tested final no, false)
  | .loop whileFails condition body => do
    return (← inLoop (r.loop tested whileFails condition body mostRounds 0), false)
  | .forEach line name values body => do
    modify ({ · with line := line })
    let values ← values.flatMapM r.fieldsOf
    return (← inLoop (r.forEach tested name body values 0), false)
  | .select line subject arms => do
    modify ({ · with line := line })
    let cs ← r.textOf (withTildes (← get) false subject)
    return (← r.select tested final cs arms, false)
  | .define name body => do
    modify fun s => { s with functions := s.functions.insert name body }
    return (0, false)

/-- Runs a command and does what it gives cause to. -/
def runCommand (r : Runner) (tested final : Bool) (c : Command) : Run Nat := do
  let s ← get
  if s.hasFlag 'n' then return s.status
  else
    let (status, counts) ← r.result tested final c
    let _ ← setStatus status
    r.answerSignals
    if counts && !tested && status ≠ 0 && (← get).hasFlag 'e' then throw .leave
    return status

end Runner

end Testbed.Lab.Script
