import Testbed.Lab.Script.Run
/-!
# Shells

A shell is a program that runs a script: one that it is given as text, as a file or on its input.
What it is called and what its arguments are follows from how it is started.
-/

namespace Testbed.Lab.Script

open Text (Octets)
open Process (chars)

/-- How a shell is started: with what options, and what follows them. -/
structure Startup where
  flags : List Char
  /-- Whether the script is an argument. -/
  takesText : Bool
  operands : List Octets

namespace Startup

def set (u : Startup) (on : Bool) (c : Char) : Startup :=
  let others := u.flags.filter (· ≠ c)
  { u with flags := if on then others ++ [c] else others }

/-- Letters that share a sign, and how many values they take. -/
def readLetters (sign : Char) : Octets → Startup → Except Octets (Startup × Nat)
  | [], u => .ok (u, 0)
  | c :: rest, u =>
    if c = 'c' then readLetters sign rest { u with takesText := true }
    else if c = 'l' then readLetters sign rest u
    else if c = 'o' then do
      let (u, n) ← readLetters sign rest u
      return (u, n + 1)
    else if optionLetters.contains c then readLetters sign rest (u.set (sign = '-') c)
    else .error (chars "Illegal option " ++ [sign, c])

def readNames (sign : Char) : (count : Nat) → List Octets → Startup →
    Except Octets (Startup × List Octets)
  | 0, args, u => .ok (u, args)
  | _ + 1, [], u => .ok (u, [])
  | n + 1, name :: rest, u =>
    match optionNames.lookup (Text.Octets.text name) with
    | some c => readNames sign n rest (u.set (sign = '-') c)
    | none => .error (chars "Illegal option " ++ [sign] ++ chars "o " ++ name)

def read : (fuel : Nat) → List Octets → Startup → Except Octets Startup
  | 0, args, u => .ok { u with operands := args }
  | fuel + 1, args, u =>
    match args with
    | ['-'] :: rest | ['-', '-'] :: rest => .ok { u with operands := rest }
    | (sign :: cs) :: rest =>
      if sign = '-' || sign = '+' then do
        let (u, n) ← readLetters sign cs u
        let (u, rest) ← readNames sign n rest u
        read fuel rest u
      else .ok { u with operands := args }
    | args => .ok { u with operands := args }

end Startup

/-- A session that starts in a process. -/
def Session.start (p : Process) (name : Octets) (args : List Octets) (flags : List Char) :
    Session :=
  let given := (p.environment.entries.filter fun e => isName e.1.toList).map fun e =>
    (e.1, (⟨some e.2, true, false⟩ : Variable))
  let own : List (String × Variable) :=
    [("IFS", ⟨some Session.usualSeparators, false, false⟩), ("OPTIND", ⟨some ['1'], false, false⟩),
      ("PPID", ⟨some ['1'], false, false⟩), ("PWD", ⟨some (rootPath p.dir), true, false⟩)]
  let usual := [("PS1", "# "), ("PS2", "> "), ("PS4", "+ "),
    ("PATH", Text.Octets.text Process.usualPath)].map fun e =>
      (e.1, (⟨some (chars e.2), false, false⟩ : Variable))
  { process := p, name := name, args := args, id := p.id
    bindings := NameMap.ofList (usual ++ given ++ own), functions := NameMap.ofList []
    aliases := NameMap.ofList [], documents := [], count := 0, flags := flags
    traps := p.ignored.map (·, []), pending := [], status := 0, held := none, output := 0, line := 1, builtin := none, loops := 0, calls := 0
    locals := [], behind := [], latest := none }

/-- Runs a session to its end. -/
def runSession (r : Runner) (s : Session) (body : Run Nat) : Act ExitStatus := fun _ =>
  let ended : Run Nat := do Script.setStatus (← body)
  let (status, t) := (r.conclude ended).run s
  (status, t.process)

/-- Becomes a shell. -/
def shell (r : Runner) (name : Octets) (args : List Octets) : Act ExitStatus := do
  let refuse (text : Octets) : Act ExitStatus :=
    return .code (← Process.fail 2 (name ++ chars ": 0: " ++ text))
  match Startup.read (args.length + 1) args ⟨[], false, []⟩ with
  | .error text => refuse text
  | .ok u =>
    let readsInput := u.flags.contains 's' || (!u.takesText && u.operands.isEmpty)
    let flags := if readsInput && !u.flags.contains 's' then u.flags ++ ['s'] else u.flags
    let fromInput : Run Nat := do
      let cs ← act (Process.readAll 0)
      r.source false cs
    match u.takesText, u.operands with
    | true, [] => refuse (chars "-c requires an argument")
    | true, text :: rest =>
      runSession r (Session.start (← get) (rest.headD name) rest.tail flags) do
        let status ← r.source false text
        if readsInput then
          let _ ← setStatus status
          fromInput
        else return status
    | false, operands =>
      if readsInput then runSession r (Session.start (← get) name operands flags) fromInput
      else
        let path := operands.headD []
        match ← Process.contents path with
        | .ok cs =>
          runSession r (Session.start (← get) path operands.tail flags) (r.source false cs)
        | .error .isDirectory => return .code 0
        | .error e => refuse (openingFault false path e)

end Testbed.Lab.Script
