import Testbed.Lab.Script.Expansion
/-!
# Redirections

A redirection leads a stream of the process somewhere else: to a file, to where another stream leads
or to a text of the script itself. Its words are worked out first, and what is done then either
succeeds or tells what is wrong.
-/

namespace Testbed.Lab.Script

open Text (Octets)
open Process (chars)

/-- What is said about a file that could not be opened. -/
def openingFault (creates : Bool) (path : Octets) (e : FileError) : Octets :=
  let text := match e with
    | .missing | .notDirectory => if creates then "Directory nonexistent" else "No such file"
    | e => reason e
  chars (if creates then "cannot create " else "cannot open ") ++ path ++ chars (": " ++ text)

/-- Opens a file for a stream. A file that is there may be kept from being written over. -/
def openFor (stream : Nat) (opening : Opening) (keeps : Bool) (path : Octets) :
    Act (Option Octets) := do
  let p ← get
  let (creates, truncates, appends) := match opening with
    | .read => (false, false, false)
    | .write | .writeOver => (true, true, false)
    | .append => (true, false, true)
    | .readWrite => (true, false, false)
  let taken := match p.find path with
    | .ok (here, some (.file _)) => !Process.isDevice here
    | _ => false
  if keeps && opening = .write && taken then return some (openingFault true path .exists)
  else
    match ← Process.openPath path creates truncates appends with
    | .error e => return some (openingFault creates path e)
    | .ok id =>
      modify (·.setStream stream (some id))
      return none

/-- Leads a stream to where another one leads, or closes it. -/
def joinTo (stream : Nat) (other : Option Nat) : Act (Option Octets) := do
  let p ← get
  match other with
  | none =>
    set (p.setStream stream none)
    return none
  | some n =>
    match p.stream? n with
    | some id =>
      set (p.setStream stream (some id))
      return none
    | none =>
      return if n = stream then none else some (chars (toString n ++ ": Bad file descriptor"))

namespace Runner

/-- What a redirection does, when its words have been worked out. -/
def opened (r : Runner) : Redirection → Run (Act (Option Octets))
  | .file stream opening target => do
    let path ← r.textOf (withTildes (← get) false target)
    return openFor stream opening ((← get).hasFlag 'C') path
  | .join stream other => do
    match ← r.textOf other with
    | ['-'] => return joinTo stream none
    | [d] =>
      if d.isDigit then return joinTo stream (some (d.toNat - '0'.toNat))
      else raise (chars "Syntax error: Bad fd number")
    | _ => raise (chars "Syntax error: Bad fd number")
  | .document stream id => do
    let cs ← r.textOf (((← get).documents.lookup id).getD [])
    return do
      let p ← get
      let (id, machine) := p.machine.add (.pipe cs [])
      set ({ p with machine := machine }.setStream stream (some id))
      return none

/-- Redirects until something is wrong, and complains about that. -/
def redirect (r : Runner) (redirections : List Redirection) : Run Bool := do
  let steps ← redirections.mapM r.opened
  let wrong ← act (steps.foldlM (fun wrong step => do
    match wrong with
    | some text => return some text
    | none => step) none)
  match wrong with
  | some text =>
    complain text
    return false
  | none => return true

end Runner

/-- Leads the streams to where they led before. -/
def putBack (streams : List (Nat × Nat)) : Run Unit :=
  modify fun s => { s with process := { s.process with streams := streams } }

end Testbed.Lab.Script
