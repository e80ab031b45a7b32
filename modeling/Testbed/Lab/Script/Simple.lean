import Testbed.Lab.Script.Builtin
import Testbed.Lab.Script.Opened
/-!
# Single commands

A single command sets variables, calls a function, carries out a builtin command or runs a program.
Variables that are set in front of a command are set for that command alone, unless there is none or
it is one of the builtin commands that end a script when they fail.
-/

namespace Testbed.Lab.Script

open Text (Octets)
open Process (chars)

/-- What the name of a command stands for. -/
inductive Callee where
  | builtin (name : String)
  | function (body : Command)
  | program
  /-- There is no name. -/
  | nobody

/-- A command that is to be carried out. -/
structure Invocation where
  callee : Callee
  /-- The first of them is the name. -/
  words : List Octets
  /-- Whether the script ends when the command fails. -/
  special : Bool
  /-- Where programs are looked for, if that was asked for. -/
  path : Option Octets

namespace Invocation

def calleeOf (s : Session) (functions : Bool) (name : Octets) : Callee :=
  let text := Text.Octets.text name
  if specialNames.contains text then .builtin text
  else
    match if functions then s.functions.find? text else none with
    | some body => .function body
    | none => if regularNames.contains text then .builtin text else .program

/-- The words after `command` and the options that leave the rest of them a command. -/
def commandWords (path : Option Octets) : List Octets → Option (Option Octets × List Octets)
  | ['-', '-'] :: rest => if rest.isEmpty then none else some (path, rest)
  | ('-' :: c :: cs) :: rest =>
    if (c :: cs).all (· = 'p') then commandWords (some Process.usualPath) rest else none
  | [] => none
  | words => some (path, words)

/-- What some words ask for; `command` in front of them is left away. -/
def ofWords (s : Session) : (fuel : Nat) → (path : Option Octets) → (isFirst : Bool) →
    List Octets → Invocation
  | _, path, _, [] => ⟨.nobody, [], false, path⟩
  | 0, path, _, words => ⟨.program, words, false, path⟩
  | fuel + 1, path, isFirst, name :: rest =>
    let callee := calleeOf s isFirst name
    let here : Invocation :=
      ⟨callee, name :: rest, isFirst && specialNames.contains (Text.Octets.text name), path⟩
    match callee with
    | .builtin "command" =>
      match commandWords path rest with
      | some (path, words) => ofWords s fuel path false words
      | none => here
    | _ => here

/-- Whether a command is there to set variables, so that its arguments are not split. -/
def sets (words : List Octets) : Bool :=
  match words.dropWhile fun w => w = chars "command" || w.head? = some '-' with
  | name :: _ => ["export", "readonly", "local", "alias"].contains (Text.Octets.text name)
  | [] => false

/-- Whether the redirections of a command stay. -/
def keepsStreams (i : Invocation) : Bool :=
  match i.callee with
  | .builtin "exec" => true
  | _ => false

end Invocation

namespace Runner

/-- The words of a command, worked out. -/
def wordsOf (r : Runner) (ws : List Word) : Run (List Octets) :=
  ws.foldlM (fun words w => do
    if Invocation.sets words && (assigned? w).isSome then
      return words ++ [← r.settingText w]
    else return words ++ (← r.fieldsOf w)) []

/-! ## Programs -/

/-- What is said about a program that cannot be run, and the status that stands for it. -/
def programFault (name : Octets) (e : FileError) : Octets × Nat :=
  match e with
  | .missing => (name ++ chars ": not found", 127)
  | .nameTooLong => (name ++ chars (": " ++ reason e), 127)
  | e => (name ++ chars (": " ++ reason e), if name.contains '/' then 126 else 127)

/-- The place of a program. Without a name it is a directory in which programs are. -/
def programOf (s : Session) (path name : Octets) : Except FileError (List String) :=
  if name.isEmpty then .error Process.denied else s.process.programOf path name

/-- Lets the process be a program, with the variables of the session. -/
def become (r : Runner) (here : List String) (words : List Octets) : Run ExitStatus := do
  let s ← get
  let ignored := (s.traps.filter (·.2.isEmpty)).map (·.1)
  let program : Act ExitStatus := do
    modify fun p => { p with environment := s.environment, ignored := ignored }
    r.program here (words.headD []) words.tail
  act program

/-- Runs a program and waits for it; nobody has to wait if it is the final command. -/
def runProgram (r : Runner) (final : Bool) (path : Octets) (words : List Octets) : Run Nat := do
  let s ← get
  match programOf s path (words.headD []) with
  | .error e =>
    let (text, status) := programFault (words.headD []) e
    complain text
    return status
  | .ok here =>
    if final && s.traps.all (·.2.isEmpty) then throw (.replaced (← r.become here words))
    else
      let ended ← r.apart id do throw (.replaced (← r.become here words))
      statusOf ended

/-- Lets a program take the place of the shell. -/
def exec (r : Runner) (path : Octets) (words : List Octets) : Run Nat := do
  match words with
  | [] => return 0
  | name :: _ =>
    match programOf (← get) path name with
    | .ok here => throw (.replaced (← r.become here words))
    | .error e =>
      let (text, status) := programFault name e
      complain text
      let _ ← setStatus (if e = Process.denied then 126 else status)
      throw .leave

/-! ## Functions and scripts -/

/-- How deep functions may call each other. -/
def deepestCall : Nat := 1000

def call (r : Runner) (tested : Bool) (body : Command) (args : List Octets) : Run Nat := do
  let s ← get
  if deepestCall ≤ s.calls then
    raise (chars ("Maximum function recursion depth (" ++ toString deepestCall ++ ") reached"))
  set { s with args := args, loops := 0, calls := s.calls + 1, locals := [] :: s.locals }
  let result ← attempt (r.command tested false body)
  match result with
  | .error .leave | .error .failed => pure ()
  | _ => restore ((← get).locals.headD [])
  modify fun t => { t with args := s.args, loops := s.loops, calls := s.calls, locals := s.locals }
  match result with
  | .error .back => return (← get).status
  | result => resume result

/-- Runs the commands of a file in the session. -/
def runFile (r : Runner) (tested : Bool) (args : List Octets) : Run Nat := do
  let (_, operands) ← optionsOf "" "" args
  match operands with
  | [] => return 0
  | name :: _ =>
    let s ← get
    let dirs := (Text.split ':' s.path).map fun dir =>
      if dir.isEmpty then name else dir ++ ['/'] ++ name
    let path ← if name.contains '/' then pure name else
      match dirs.find? s.process.isFile with
      | some path => pure path
      | none => raise (name ++ chars ": not found")
    match ← act (Process.contents path) with
    | .error .isDirectory => return 0
    | .error e => raise (openingFault false path e)
    | .ok cs =>
      modify ({ · with builtin := some (Text.Octets.text path) })
      match ← attempt (r.source tested cs) with
      | .error .back => return (← get).status
      | result => resume result

/-! ## Builtin commands -/

/-- Tells what a name stands for, as `command` does if it is asked to. -/
def describe (args : List Octets) : Run Nat := do
  let (flags, operands) ← optionsOf "pvV" "" args
  match operands with
  | name :: _ =>
    if flags.any (·.1 = 'V') then tellCommand true name
    else if flags.any (·.1 = 'v') then tellCommand false name
    else return 0
  | [] => return 0

def builtin (r : Runner) (tested : Bool) (path : Octets) (name : String) (args : List Octets) :
    Run Nat :=
  match name with
  | "eval" => r.source tested ([' '].intercalate args)
  | "." => r.runFile tested args
  | "exec" => r.exec path args
  | "command" => describe args
  | _ => ((plainBuiltin? name).getD fun _ => return 0) args

/-- Carries a builtin command out. Most of them may fail without harm to the script. -/
def runBuiltin (r : Runner) (tested special : Bool) (path : Octets) (name : String)
    (args : List Octets) : Run Nat := do
  let outer := (← get).builtin
  modify ({ · with builtin := some name })
  let result ← attempt (r.builtin tested path name args)
  modify ({ · with builtin := outer })
  match result, special with
  | .error .failed, false => return (← get).status
  | result, _ => resume result

/-! ## Commands -/

/-- Sets the variables in front of a command, and tells what they were. -/
def setInFront (r : Runner) (kept exported : Bool) (settings : List (String × Word)) :
    Run (List (String × Option Variable) × List Octets) :=
  settings.foldlM (fun (saved, told) (name, word) => do
    let value ← r.settingText word
    let old := (← get).bindings.find? name
    assign name value
    if exported then setVariable name ({ · with exported := true })
    let saved := if kept || saved.any (·.1 = name) then saved else (name, old) :: saved
    return (saved, told ++ [chars (name ++ "=") ++ value])) ([], [])

/-- Tells what is about to be done. -/
def trace (streams : List (Nat × Nat)) (told : List Octets) : Run Unit := do
  let s ← get
  if s.hasFlag 'x' then
    putBack streams
    act (Process.complain ((s.value? "PS4").getD [] ++ [' '].intercalate told))
    putBack s.process.streams

def invoke (r : Runner) (tested final : Bool) (i : Invocation) : Run Nat := do
  let path := i.path.getD (← get).path
  match i.callee with
  | .nobody => return (← get).output
  | .builtin name => r.runBuiltin tested i.special path name i.words.tail
  | .function body => r.call tested body i.words.tail
  | .program => r.runProgram final path i.words

def simple (r : Runner) (tested final : Bool) (line : Nat) (settings : List (String × Word))
    (words : List Word) (redirections : List Redirection) : Run Nat := do
  modify ({ · with line := line, output := 0 })
  let given ← r.wordsOf words
  let i := Invocation.ofWords (← get) (given.length + 1) none true given
  let streams := (← get).process.streams
  if !(← r.redirect redirections) then
    putBack streams
    let _ ← setStatus 2
    if i.special then throw .failed else return 2
  else
    let kept := given.isEmpty || i.special
    let exported := !kept || (i.keepsStreams && 1 < i.words.length)
    let (saved, told) ← r.setInFront kept exported settings
    trace streams (told ++ given)
    let result ← attempt (r.invoke tested final i)
    if !i.keepsStreams then putBack streams
    match result with
    | .error .leave | .error .failed => pure ()
    | _ => restore saved
    resume result

end Runner

end Testbed.Lab.Script
