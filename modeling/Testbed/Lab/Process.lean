import Testbed.Lab.Files
import Testbed.NameMap
import Testbed.Text.Octets
/-!
# Running programs

A machine holds the files and the open channels. A process is a program that runs on it: it has a
directory that it is in, an environment, and numbered streams, several of which may lead to one
channel. What is written to a channel in memory can be read from it later, and a file is read and
written from an offset on that all who share the channel share.
-/

namespace Testbed.Lab

open Text (Octets)

inductive Channel where
  /-- Keeps nothing and has nothing. -/
  | void
  /-- Keeps what is written until it is read: first what is left of older texts, then new texts,
  the last one first. -/
  | pipe (left : Octets) (fresh : List Octets)
  | file (path : List String) (offset : Nat) (appends : Bool)

structure Machine where
  files : Files
  channels : Array Channel
  /-- Files that may be run, besides the programs of the system. -/
  runnable : List (List String)
  /-- Processes that were hit by a signal that they have not noticed yet. -/
  struck : List (Nat × Nat)
  /-- How many processes there were. -/
  processes : Nat
  /-- For how many nanoseconds somebody slept. -/
  slept : Nat

structure Process where
  /-- Its number. -/
  id : Nat
  machine : Machine
  streams : List (Nat × Nat)
  dir : List String
  environment : NameMap Octets
  /-- Signals that do nothing to it. -/
  ignored : List Nat
  /-- What others may not do with the files that it makes. -/
  mask : Nat

/-- What a process does. -/
abbrev Act (α : Type) := StateM Process α

/-- What the system says about a failure. -/
def reason (e : FileError) : String :=
  match e.known? with
  | some (_, _, text) => text
  | none => match e with
    | .other text => text
    | _ => e.message

namespace Machine

def channel (m : Machine) (id : Nat) : Channel := m.channels[id]?.getD .void

/-- What is in a file, as far as it is there. -/
def fileAt (m : Machine) (path : List String) : Octets :=
  match m.files.find? path with
  | some (.file bytes) => Text.Octets.ofBytes bytes
  | _ => []

def replace (m : Machine) (path : List String) (cs : Octets) : Machine :=
  { m with files := m.files.put path (.file (Text.Octets.toBytes cs)) }

/-- Writes into a file that is still there, where a gap is filled with zeros. -/
def writeAt (m : Machine) (path : List String) (offset : Nat) (cs : Octets) : Machine :=
  match m.files.find? path with
  | some (.file bytes) =>
    let new := Text.Octets.toBytes cs
    let start := bytes.take offset
    let gap := List.replicate (offset - start.length) 0
    { m with files := m.files.put path (.file
        (start ++ gap ++ new ++ bytes.drop (offset + new.length))) }
  | _ => m

def write (m : Machine) (id : Nat) (cs : Octets) : Machine :=
  match m.channel id with
  | .void => m
  | .pipe left fresh =>
    { m with channels := m.channels.setIfInBounds id (.pipe left (cs :: fresh)) }
  | .file path offset appends =>
    let offset := if appends then (m.fileAt path).length else offset
    let m := m.writeAt path offset cs
    { m with channels := m.channels.setIfInBounds id (.file path (offset + cs.length) appends) }

/-- Takes what a channel has, up to a place that depends on it. -/
def read (m : Machine) (id : Nat) (upTo : Octets → Nat) : Octets × Machine :=
  match m.channel id with
  | .void => ([], m)
  | .pipe left fresh =>
    let all := left ++ fresh.reverse.flatten
    let n := upTo all
    (all.take n, { m with channels := m.channels.setIfInBounds id (.pipe (all.drop n) []) })
  | .file path offset appends =>
    let all := (m.fileAt path).drop offset
    let n := upTo all
    (all.take n,
      { m with channels := m.channels.setIfInBounds id (.file path (offset + n) appends) })

def add (m : Machine) (c : Channel) : Nat × Machine :=
  (m.channels.size, { m with channels := m.channels.push c })

end Machine

/-- The length of the first line with its end. -/
def firstLine (cs : Octets) : Nat :=
  let n := (cs.takeWhile (· ≠ '\n')).length
  min (n + 1) cs.length

/-- The lines of a text, each with the character that ends it; the last one may have none. -/
def linesBy (ending : Char) (cs : Octets) : List Octets :=
  let (current, before) := cs.foldl (fun (current, before) c =>
    if c = ending then ([], (c :: current).reverse :: before) else (c :: current, before))
    (([], []) : Octets × List Octets)
  (if current.isEmpty then before else current.reverse :: before).reverse

def linesOf (cs : Octets) : List Octets := linesBy '\n' cs

/-- A line without its end. -/
def chompBy (ending : Char) (line : Octets) : Octets :=
  if line.getLast? = some ending then line.dropLast else line

def chomp (line : Octets) : Octets := chompBy '\n' line

namespace Process

def stream? (p : Process) (n : Nat) : Option Nat := p.streams.lookup n

def setStream (p : Process) (n : Nat) (id : Option Nat) : Process :=
  let others := p.streams.filter (·.1 ≠ n)
  { p with streams := match id with
    | some id => (n, id) :: others
    | none => others }

/-! ## Streams -/

def write (n : Nat) (cs : Octets) : Act Unit := modify fun p =>
  match p.stream? n with
  | some id => { p with machine := p.machine.write id cs }
  | none => p

def say (cs : Octets) : Act Unit := write 1 cs

def sayLine (cs : Octets) : Act Unit := write 1 (cs ++ ['\n'])

/-- Says something about what went wrong. -/
def complain (cs : Octets) : Act Unit := write 2 (cs ++ ['\n'])

/-- Complains and fails. -/
def fail (status : Nat) (cs : Octets) : Act Nat := do
  complain cs
  return status

def readUpTo (n : Nat) (upTo : Octets → Nat) : Act Octets := do
  let p ← get
  match p.stream? n with
  | none => return []
  | some id =>
    let (cs, machine) := p.machine.read id upTo
    set { p with machine := machine }
    return cs

def readAll (n : Nat) : Act Octets := readUpTo n List.length

/-! ## Files -/

def chars (s : String) : Octets := Text.Octets.ofString s

/-- A path from the root on. -/
def full (p : Process) (path : Octets) : String :=
  if path.head? = some '/' then Text.Octets.text path
  else "/" ++ "/".intercalate p.dir ++ "/" ++ Text.Octets.text path

/-- Whether a path only makes sense for a directory. -/
def namesDir (path : Octets) : Bool :=
  path.getLast? = some '/' || ['.', '/'].isPrefixOf path.reverse

/-- Where a path leads, and what is there. -/
def find (p : Process) (path : Octets) : Except FileError (List String × Option Entry) := do
  if path.isEmpty then throw .missing
  let here ← p.machine.files.locate (p.full path)
  match p.machine.files.find? here with
  | some (.file bytes) =>
    if namesDir path then throw .notDirectory else return (here, some (.file bytes))
  | entry => return (here, entry)

/-- What is at a path, if anything is. -/
def entry? (p : Process) (path : Octets) : Option Entry :=
  match p.find path with
  | .ok (_, entry) => entry
  | .error _ => none

def isDir (p : Process) (path : Octets) : Bool := p.entry? path = some .directory

def isFile (p : Process) (path : Octets) : Bool :=
  match p.entry? path with
  | some (.file _) => true
  | _ => false

/-- Whether a place is a device, which is neither a file nor a directory. -/
def isDevice (here : List String) : Bool := here.head? = some "dev" && 1 < here.length

/-- The directories of the system that hold programs. -/
def programDirs : List (List String) := [["usr", "bin"], ["bin"]]

def mayRun (p : Process) (here : List String) : Bool :=
  programDirs.contains here.dropLast || p.machine.runnable.contains here

def denied : FileError := .other "Permission denied"

/-- The number of the stream that a device stands for. -/
def deviceStream? (here : List String) : Option Nat :=
  match here with
  | ["dev", "stdin"] => some 0
  | ["dev", "stdout"] => some 1
  | ["dev", "stderr"] => some 2
  | ["dev", "fd", n] => n.toNat?
  | _ => none

/-- Opens what is at a path. -/
def openPath (path : Octets) (creates truncates appends : Bool) : Act (Except FileError Nat) := do
  let p ← get
  let add (c : Channel) : Act (Except FileError Nat) := do
    let (id, machine) := p.machine.add c
    set { p with machine := machine }
    return .ok id
  match p.find path with
  | .error e => return .error e
  | .ok (here, entry) =>
    match deviceStream? here, entry with
    | some n, _ =>
      match p.stream? n with
      | some id => return .ok id
      | none => return .error .missing
    | none, some .directory => if creates then return .error .isDirectory else add .void
    | none, some (.file _) =>
      if isDevice here then add .void
      else
        if truncates then modify fun p => { p with machine := p.machine.replace here [] }
        let (id, machine) := (← get).machine.add (.file here 0 appends)
        modify ({ · with machine := machine })
        return .ok id
    | none, none =>
      if !creates then return .error .missing
      else if namesDir path then return .error .isDirectory
      else
        let (id, machine) := (p.machine.replace here []).add (.file here 0 appends)
        set { p with machine := machine }
        return .ok id

/-- What is in the file at a path, or what comes in if the path is a hyphen. -/
def contents (path : Octets) : Act (Except FileError Octets) := do
  if path = ['-'] then return .ok (← readAll 0)
  let p ← get
  match p.find path with
  | .error e => return .error e
  | .ok (here, entry) =>
    match deviceStream? here, entry with
    | some n, _ => return .ok (← readAll n)
    | none, some .directory => return .error .isDirectory
    | none, some (.file bytes) =>
      return .ok (if isDevice here then [] else Text.Octets.ofBytes bytes)
    | none, none => return .error .missing

/-- Puts a text into the file at a path. -/
def store (path : Octets) (appends : Bool) (cs : Octets) : Act (Except FileError Unit) := do
  match ← openPath path true (!appends) appends with
  | .error e => return .error e
  | .ok id =>
    modify fun p => { p with machine := p.machine.write id cs }
    return .ok ()

/-- The names in a directory, in order. -/
def names (p : Process) (here : List String) : List String :=
  let all := (p.machine.files.below here).filterMap fun e =>
    match e.1 with
    | [name] => some name
    | _ => none
  all.mergeSort fun a b => !decide (b < a)

/-! ## Programs -/

/-- The program and the argument that the first line of a script names. -/
def interpreter? (cs : Octets) : Option (Octets × List Octets) :=
  match cs with
  | '#' :: '!' :: rest =>
    let isGap (c : Char) : Bool := c = ' ' || c = '\t'
    let line := ((rest.takeWhile (· ≠ '\n')).reverse.dropWhile isGap).reverse.dropWhile isGap
    let path := line.takeWhile fun c => !isGap c
    let arg := (line.drop path.length).dropWhile isGap
    if path.isEmpty then none else some (path, if arg.isEmpty then [] else [arg])
  | _ => none

/-- The file at a path, if it may be run. -/
def runnableAt (p : Process) (path : Octets) : Except FileError (List String) :=
  match p.find path with
  | .ok (here, some (.file _)) => if p.mayRun here then .ok here else .error denied
  | .ok (_, some .directory) => .error denied
  | .ok (_, none) | .error .notDirectory => .error .missing
  | .error e => .error e

/-- The program at a path. A script is none without the program that its first line names. -/
def programAt (p : Process) (path : Octets) : Except FileError (List String) := do
  let here ← p.runnableAt path
  if p.machine.runnable.contains here then
    match interpreter? (p.machine.fileAt here) with
    | some (program, _) =>
      let _ ← p.runnableAt program
      return here
    | none => return here
  else return here

def usualPath : Octets := chars "/usr/local/sbin:/usr/local/bin:/usr/sbin:/usr/bin:/sbin:/bin"

/-- Looks for a program of a name: where the name says, or else in the directories of a list. What
is wrong in one of them matters only if no other one has the program. -/
def programOf (p : Process) (dirs : Octets) (name : Octets) : Except FileError (List String) :=
  if name.isEmpty then .error .missing
  else if name.contains '/' then p.programAt name
  else
    (Text.split ':' dirs).foldl (fun found dir =>
      match found, p.programAt (if dir.isEmpty then name else dir ++ ['/'] ++ name) with
      | .ok here, _ | _, .ok here => .ok here
      | .error e, .error .missing => .error e
      | _, .error e => .error e) (.error .missing)

/-- Lets a process of its own act, which starts out like this one, and keeps what it did to the
machine. -/
def fork {α : Type} (a : Act α) : Act α := do
  let p ← get
  let id := p.machine.processes + 1
  let (x, q) := a.run { p with id := id, machine := { p.machine with processes := id } }
  set { p with machine := q.machine }
  return x

end Process

/-- A program of the system that only acts on its process, given its arguments. -/
abbrev Tool := List Octets → Act Nat

end Testbed.Lab
