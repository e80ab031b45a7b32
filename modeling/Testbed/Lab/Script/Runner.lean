import Testbed.Lab.Script.Field
/-!
# Running inside of a command

A command may ask for other commands to be run: those of a function or of a text, those whose output
stands in a word, or a program of its own. How that is done is a `Runner`, so that each kind of
command can be told apart from how deep commands lie within each other. What is run in a process of
its own starts out with the session that it comes from and leaves nothing but what it did to the
machine.
-/

namespace Testbed.Lab.Script

open Text (Octets)
open Process (chars)

structure Runner where
  /-- Runs a command. Somebody may test whether it fails; and it may be the final one, after which
  the process has nothing left to do. -/
  command : (tested final : Bool) → Command → Run Nat
  /-- The atoms of a word, which may become several fields, and which may stand within another word
  whose text is split. -/
  word : (full within : Bool) → Word → Run (List Atom)
  /-- Becomes the program at a place. -/
  program : (here : List String) → (name : Octets) → (args : List Octets) → Act ExitStatus

namespace Runner

/-- Runs the commands of a text one after the other, as they are read. -/
def goOn (r : Runner) (tested : Bool) : (rounds : Nat) → Cursor → (status : Nat) → Run Nat
  | 0, _, status => return status
  | rounds + 1, cursor, status => do
    match nextCommand { cursor with aliases := (← get).aliases.entries } with
    | .error f =>
      complainAt f.line (chars f.text)
      let _ ← setStatus 2
      throw .failed
    | .ok (c, cursor) =>
      modify fun s => { s with
        documents := cursor.documents ++ s.documents
        count := cursor.count }
      let cursor := { cursor with documents := [] }
      match c with
      | some c => goOn r tested rounds cursor (← r.command tested false c)
      | none => if cursor.atEnd then return status else goOn r tested rounds cursor status

def source (r : Runner) (tested : Bool) (text : Octets) : Run Nat := do
  goOn r tested (text.length + 2) (Cursor.ofOctets text (← get).count) 0

/-! ## Signals -/

/-- Does what was arranged for the signals that came. -/
def answerSignals (r : Runner) : Run Unit := do
  let s ← get
  if s.pending.isEmpty then return
  let signals := (List.range Signal.limit).filter s.pending.contains
  set { s with pending := [], held := some (s.held.getD s.status) }
  signals.forM fun n => do
    match (← get).traps.lookup n with
    | some action =>
      let _ ← r.source false action
      modify ({ · with status := s.status })
    | none => pure ()
  modify ({ · with held := s.held })

/-- Notices the signals that other processes sent. -/
def noticeSignals : Run Unit := do
  let s ← get
  let machine := s.process.machine
  let (mine, others) := machine.struck.partition (·.1 = s.process.id)
  if mine.isEmpty then return
  set { s with process := { s.process with machine := { machine with struck := others } } }
  mine.forM fun (_, n) => receive n

/-! ## Processes -/

/-- The end of a process: what was arranged for it is done, whatever ended it. -/
def conclude (r : Runner) (body : Run Nat) : StateM Session ExitStatus := do
  match ← body with
  | .error (.struck n) => return .signal n
  | .error (.replaced status) => return status
  | _ =>
    let s ← get
    let code (n : Nat) : ExitStatus := .code (n % 256)
    match s.traps.lookup 0 with
    | none => return code s.status
    | some action =>
      set { s with
        traps := s.traps.filter (·.1 ≠ 0), builtin := none, held := some s.status, loops := 0 }
      match ← r.source false action with
      | .error (.struck n) => return .signal n
      | .error (.replaced status) => return status
      | .error .leave | .error .failed => return code (← get).status
      | _ => return code s.status

/-- Runs something in a process of its own, which differs from that of the session in a way. -/
def apart (r : Runner) (differ : Process → Process) (body : Run Nat) : Run ExitStatus := do
  let s ← get
  let conclusion : Act ExitStatus := fun p =>
    let (status, t) := (r.conclude body).run { s with
      process := differ p, traps := s.traps.filter (·.2.isEmpty), pending := [], held := none
      loops := 0, behind := [] }
    (status, t.process)
  let status ← act (Process.fork conclusion)
  noticeSignals
  return status

/-- What a command prints, without the line ends after it. -/
def outputOf (r : Runner) (body : Command) : Run Octets := do
  let p := (← get).process
  let (id, machine) := p.machine.add (.pipe [] [])
  modify ({ · with process := { p with machine := machine } })
  let status ← statusOf (← r.apart (·.setStream 1 (some id)) (r.command false true body))
  let (cs, machine) := (← get).process.machine.read id List.length
  modify fun s => { s with process := { s.process with machine := machine }, output := status }
  return ((cs.filter (· ≠ '\x00')).reverse.dropWhile (· = '\n')).reverse

end Runner

end Testbed.Lab.Script
