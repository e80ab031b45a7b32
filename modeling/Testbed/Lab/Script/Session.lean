import Testbed.Lab.Process
import Testbed.Lab.Script.Reader
import Testbed.Lab.Script.Sum
import Testbed.Lab.Signal
/-!
# Sessions of a shell

A session is what a shell knows while it runs a script: its variables, functions and arguments, and
the process that it is. A step of a session may end more than itself: a loop, a function or the
whole script, which is told by an `Escape`.
-/

namespace Testbed.Lab.Script

open Text (Octets)
open Process (chars)

structure Variable where
  value : Option Octets
  exported : Bool
  readonly : Bool

structure Session where
  process : Process
  /-- What the script is called. -/
  name : Octets
  args : List Octets
  /-- The number of the process that the script was started in. -/
  id : Nat
  bindings : NameMap Variable
  functions : NameMap Command
  /-- Texts that stand for the first word of a command. -/
  aliases : NameMap Octets
  documents : List (Nat × Word)
  /-- How many here-documents there were. -/
  count : Nat
  flags : List Char
  /-- What is done when a signal comes, or at the end under number zero. -/
  traps : List (Nat × Octets)
  /-- Signals that came and are still to be answered. -/
  pending : List Nat
  status : Nat
  /-- The status from before a trap, which is that of the script if the trap leaves it. -/
  held : Option Nat
  /-- The status of the commands whose output was taken into a word last. -/
  output : Nat
  line : Nat
  /-- The builtin command that is at work. -/
  builtin : Option String
  /-- How many loops, and how many functions, are being run. -/
  loops : Nat
  calls : Nat
  /-- Variables to be put back when a function ends, function by function. -/
  locals : List (List (String × Option Variable))
  /-- Commands that nobody waited for, and how they ended. -/
  behind : List (Nat × ExitStatus)
  /-- The last one of them. -/
  latest : Option Nat

/-- What ends more than one step. -/
inductive Escape where
  /-- The script is over, with the status of the session. -/
  | leave
  /-- Something was wrong, which ends the script too. -/
  | failed
  | struck (signal : Nat)
  /-- Another program took the place of the shell, and this is how it ended. -/
  | replaced (status : ExitStatus)
  /-- A number of loops is over, or the outermost of them starts its next round. -/
  | loop (again : Bool) (levels : Nat)
  /-- A function is over. -/
  | back

abbrev Run (α : Type) := ExceptT Escape (StateM Session) α

/-- Lets the process of the session act. -/
def act {α : Type} (a : Act α) : Run α := do
  let s ← get
  let (x, process) := a.run s.process
  set { s with process := process }
  return x

/-- Runs a step and keeps what ended it. -/
def attempt {α : Type} (step : Run α) : Run (Except Escape α) := fun s =>
  let (r, s) := step s
  (.ok r, s)

/-- The step that an outcome stands for. -/
def resume {α : Type} : Except Escape α → Run α
  | .ok a => return a
  | .error e => throw e

def setStatus (n : Nat) : Run Nat := do
  modify ({ · with status := n })
  return n

/-! ## Complaints -/

/-- Complains in the name of the script about a line of it. -/
def complainAt (line : Nat) (text : Octets) : Run Unit := do
  let s ← get
  let builtin := match s.builtin with
    | some name => chars (name ++ ": ")
    | none => []
  act (Process.complain (s.name ++ chars (": " ++ toString line ++ ": ") ++ builtin ++ text))

def complain (text : Octets) : Run Unit := do complainAt (← get).line text

/-- Complains and fails. -/
def raise {α : Type} (text : Octets) : Run α := do
  complain text
  modify ({ · with status := 2 })
  throw .failed

/-! ## Variables -/

/-- The options of a shell, by name and letter. -/
def optionNames : List (String × Char) :=
  [("errexit", 'e'), ("noglob", 'f'), ("ignoreeof", 'I'), ("interactive", 'i'), ("monitor", 'm'),
    ("noexec", 'n'), ("stdin", 's'), ("xtrace", 'x'), ("verbose", 'v'), ("vi", 'V'), ("emacs", 'E'),
    ("noclobber", 'C'), ("allexport", 'a'), ("notify", 'b'), ("nounset", 'u'), ("privileged", 'p')]

/-- Options that have a name but no letter, and no meaning. -/
def idleOptions : List String := ["nolog", "debug"]

/-- The letters of the options. -/
def optionLetters : List Char := optionNames.map (·.2)

namespace Session

def value? (s : Session) (name : String) : Option Octets :=
  (s.bindings.find? name).bind (·.value)

def usualSeparators : Octets := [' ', '\t', '\n']

/-- The characters that separate fields. -/
def separators (s : Session) : Octets := (s.value? "IFS").getD usualSeparators

def hasFlag (s : Session) (c : Char) : Bool := s.flags.contains c

/-- What programs are told. -/
def environment (s : Session) : NameMap Octets :=
  NameMap.ofList (s.bindings.entries.filterMap fun e =>
    if e.2.exported then e.2.value.map (e.1, ·) else none)

def path (s : Session) : Octets := (s.value? "PATH").getD []

end Session

def setVariable (name : String) (change : Variable → Variable) : Run Unit :=
  modify fun s =>
    let old := (s.bindings.find? name).getD ⟨none, s.hasFlag 'a', false⟩
    { s with bindings := s.bindings.insert name (change old) }

def assign (name : String) (value : Octets) : Run Unit := do
  let s ← get
  match s.bindings.find? name with
  | some v =>
    if v.readonly then raise (chars (name ++ ": is read only"))
    else setVariable name ({ · with value := some value, exported := v.exported || s.hasFlag 'a' })
  | none => setVariable name ({ · with value := some value })

/-- Puts variables back to what they were. -/
def restore (saved : List (String × Option Variable)) : Run Unit :=
  saved.forM fun (name, old) => modify fun s =>
    match old with
    | some v => { s with bindings := s.bindings.insert name v }
    | none => { s with bindings := s.bindings.erase name }

/-! ## Signals -/

/-- Takes a signal in: it is kept for a trap, does nothing or ends the process. -/
def receive (signal : Nat) : Run Unit := do
  let s ← get
  match if signal = 9 then none else s.traps.lookup signal with
  | some action =>
    if !action.isEmpty then modify fun s => { s with pending := s.pending ++ [signal] }
  | none => if !Signal.isHarmless signal then throw (.struck signal)

/-- The status that stands for how a process ended. A signal is told of, unless it is a usual
one. -/
def statusOf (e : ExitStatus) : Run Nat := do
  match e with
  | .code n => return n
  | .signal n =>
    if !Signal.isQuiet n then act (Process.complain (chars (Signal.text n)))
    return 128 + n

/-! ## Arguments of builtin commands -/

/-- A number that a builtin command is given. -/
def countOf (cs : Octets) : Run Nat :=
  match count? cs with
  | some n => return n
  | none => raise (chars "Illegal number: " ++ cs)

/-- The options of a builtin command, of which some letters take a value. -/
def optionsOf (letters valued : String) : List Octets → Run (List (Char × Octets) × List Octets)
  | ['-', '-'] :: rest => return ([], rest)
  | ('-' :: c :: cs) :: rest => do
    let (flags, wants) ← go (c :: cs)
    match wants, rest with
    | none, rest =>
      let (more, rest) ← optionsOf letters valued rest
      return (flags ++ more, rest)
    | some c, value :: rest =>
      let (more, rest) ← optionsOf letters valued rest
      return (flags ++ (c, value) :: more, rest)
    | some c, [] => raise (chars "No arg for -" ++ [c] ++ chars " option")
  | args => return ([], args)
where
  go : Octets → Run (List (Char × Octets) × Option Char)
    | [] => return ([], none)
    | c :: rest => do
      if valued.toList.contains c then
        return if rest.isEmpty then ([], some c) else ([(c, rest)], none)
      else if letters.toList.contains c then
        let (flags, wants) ← go rest
        return ((c, []) :: flags, wants)
      else raise (chars "Illegal option -" ++ [c])

/-! ## Text for people -/

/-- A text in quotes that a script can read again. -/
def inQuotes (cs : Octets) : Octets :=
  let pieces := Text.split '\'' cs
  match pieces with
  | [only] => '\'' :: only ++ ['\'']
  | pieces =>
    let quoted := pieces.map fun p => if p.isEmpty then [] else '\'' :: p ++ ['\'']
    (chars "\"'\"").intercalate quoted

end Testbed.Lab.Script
