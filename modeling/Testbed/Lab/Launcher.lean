import Testbed.Lab.Script.Startup
import Testbed.Lab.Tool.Find
import Testbed.Lab.Tool.Gathering
import Testbed.Lab.Tool.System
/-!
# Programs that run programs

Some programs become another program, in a changed environment or without minding a signal, and some
run one again and again. Together with the shell and the tools they are all programs that there are.
-/

namespace Testbed.Lab

open Text (Octets)
open Process (chars)
open Script (Runner)

/-! ## Becoming another program -/

/-- Becomes the program of a name, if there is one. -/
def becomeNamed (r : Runner) (words : List Octets) : Act (Except FileError ExitStatus) := do
  let p ← get
  let name := words.headD []
  let dirs := (p.environment.find? "PATH").getD (chars "/bin:/usr/bin")
  match p.programOf dirs name with
  | .ok here => return .ok (← r.program here name words.tail)
  | .error e => return .error e

/-- Becomes the program of a name; what is said if there is none starts in a way. -/
def becomeOr (r : Runner) (start : Octets → Octets) (words : List Octets) : Act ExitStatus := do
  match ← becomeNamed r words with
  | .ok status => return status
  | .error e =>
    Process.complain (start (words.headD []) ++ chars (": " ++ reason e))
    return .code (if e = .missing || e = .nameTooLong then 127 else 126)

/-- Reads options in front of a program that is to be run. -/
def withLeading (name : String) (status : Nat) (table : OptionTable)
    (run : Options → Act ExitStatus) (args : List Octets) : Act ExitStatus := do
  match Options.readLeading table args with
  | .ok options => run options
  | .error e => return .code (← misused name status (Options.faultText e))

/-! ## Environments -/

/-- The variable that an argument sets, and its value. -/
def settingIn? (a : Octets) : Option (String × Octets) :=
  let name := a.takeWhile (· ≠ '=')
  if name.length < a.length then some (Text.Octets.text name, a.drop (name.length + 1)) else none

def runIn (r : Runner) : List Octets → Act ExitStatus :=
  withLeading "env" 125
      ⟨"i0v", "uCS", [("ignore-environment", 'i'), ("null", '0'), ("unset", 'u'),
        ("chdir", 'C')]⟩ fun o => do
    let settings := o.operands.takeWhile fun a => (settingIn? a).isSome
    let words := o.operands.drop settings.length
    modify fun p =>
      let start := if o.has 'i' then NameMap.ofList [] else p.environment
      let kept := o.flags.foldl (fun e f =>
        if f.1 = 'u' then e.erase (Text.Octets.text f.2) else e) start
      { p with environment := (settings.filterMap settingIn?).foldl (fun e s =>
          e.insert s.1 s.2) kept }
    if words.isEmpty then
      let ending := if o.has '0' then '\x00' else '\n'
      (← get).environment.entries.forM fun e =>
        Process.say (chars (e.1 ++ "=") ++ e.2 ++ [ending])
      return .code 0
    else
      let p ← get
      match (o.value? 'C').map fun dir => (dir, p.find dir) with
      | some (_, .ok (here, some .directory)) =>
        modify ({ · with dir := here })
        becomeOr r (fun name => chars "env: " ++ quoted name) words
      | some (dir, found) =>
        let e := match found with
          | .error e => e
          | .ok (_, some _) => .notDirectory
          | .ok (_, none) => .missing
        return .code (← Process.fail 125
          (chars "env: cannot change directory to " ++ quoted dir ++ chars (": " ++ reason e)))
      | none => becomeOr r (fun name => chars "env: " ++ quoted name) words

/-! ## Other ways to run a program -/

def nice (r : Runner) : List Octets → Act ExitStatus :=
  withLeading "nice" 125 ⟨"0123456789", "n", [("adjustment", 'n')]⟩ fun o => do
    if o.operands.isEmpty then
      Process.sayLine ['0']
      return .code 0
    else becomeOr r (fun name => chars "nice: " ++ quoted name) o.operands

def nohup (r : Runner) : List Octets → Act ExitStatus :=
  withLeading "nohup" 125 ⟨"", "", []⟩ fun o => do
    if o.operands.isEmpty then return .code (← misused "nohup" 125 (chars "missing operand"))
    else
      modify fun p => { p with ignored := 1 :: p.ignored }
      becomeOr r (fun name => chars "nohup: failed to run command " ++ quoted name) o.operands

/-- Runs a program that may only sleep for so long. -/
def timeout (r : Runner) : List Octets → Act ExitStatus :=
  withLeading "timeout" 125
      ⟨"vp", "ks", [("kill-after", 'k'), ("signal", 's'), ("preserve-status", 'p')]⟩ fun o => do
    match o.operands with
    | text :: word :: words =>
      match interval? text, ((o.value? 's').getD (chars "TERM")) |> Signal.find? with
      | none, _ =>
        return .code (← misused "timeout" 125 (chars "invalid time interval " ++ quoted text))
      | _, none =>
        return .code (← misused "timeout" 125
          (quoted ((o.value? 's').getD []) ++ chars ": invalid signal"))
      | some limit, some signal =>
        let before := (← get).machine.slept
        let ended ← Process.fork (becomeOr r
          (fun name => chars "timeout: failed to run command " ++ quoted name) (word :: words))
        if 0 < limit && before + limit < (← get).machine.slept then
          return if signal = 9 then .signal 9
            else .code (if o.has 'p' then 128 + signal else 124)
        else return ended
    | _ => return .code (← Process.fail 125 (chars "Try 'timeout --help' for more information."))

def setsid (r : Runner) : List Octets → Act ExitStatus :=
  withLeading "setsid" 1 ⟨"cfw", "", []⟩ fun o => do
    if o.operands.isEmpty then
      return .code (← misused "setsid" 1 (chars "no command specified"))
    else becomeOr r (chars "setsid: failed to execute " ++ ·) o.operands

/-! ## Running a program on what is read -/

/-- Runs commands until one of them cannot be run or asks to stop. -/
def runAll (r : Runner) (told : Bool) : (worst : Nat) → List (List Octets) → Act Nat
  | worst, [] => return worst
  | worst, words :: rest => do
    if told then Process.complain ([' '].intercalate words)
    let name := words.headD []
    let stop (status : Nat) (text : Octets) : Act Nat :=
      Process.fail status (chars "xargs: " ++ name ++ chars ": " ++ text)
    match ← Process.fork (becomeNamed r words) with
    | .error e => stop (if e = .missing then 127 else 126) (chars (reason e))
    | .ok (.signal n) => stop 125 (chars ("terminated by signal " ++ toString n))
    | .ok (.code 255) => stop 124 (chars "exited with status 255; aborting")
    | .ok (.code n) => runAll r told (if n = 0 then worst else 123) rest

/-- Runs a program on what is read. -/
def runOnInput (r : Runner) : List Octets → Act ExitStatus :=
  withLeading "xargs" 1
      ⟨"0rtx", "nILdPsEa", [("null", '0'), ("no-run-if-empty", 'r'), ("max-args", 'n'),
        ("max-lines", 'L'), ("delimiter", 'd'), ("verbose", 't'), ("replace", 'I'),
        ("max-procs", 'P'), ("arg-file", 'a')]⟩ fun o => do
    match Gathering.countOf o 'n', Gathering.countOf o 'L' with
    | .error text, _ | _, .error text => return .code (← misused "xargs" 1 text)
    | .ok most, .ok lines =>
      let cs ← match o.value? 'a' with
        | some path => Process.contents path
        | none => pure (.ok (← Process.readAll 0))
      match cs with
      | .error e =>
        complainOf "xargs" (o.value? 'a' |>.getD []) e
        return .code 1
      | .ok cs =>
        match Gathering.commands o most lines cs with
        | .error (.openQuote double) =>
          return .code (← Process.fail 1 (chars ("xargs: unmatched " ++
            (if double then "double" else "single") ++
            " quote; by default quotes are special to xargs unless you use the -0 option")))
        | .ok commands => return .code (← runAll r (o.has 't') 0 commands)

/-- Finds files, and may run programs on them. -/
def findAndRun (r : Runner) (args : List Octets) : Act ExitStatus := do
  let run (words : List Octets) : Act Nat := do
    match ← Process.fork (becomeNamed r words) with
    | .ok (.code n) => return n
    | .ok (.signal n) =>
      return ← Process.fail 1 (chars "find: " ++ quoted (words.headD []) ++
        chars (" terminated by signal " ++ toString n))
    | .error e =>
      complainOf "find" (quoted (words.headD [])) e
      return 1
  return .code (← find run args)

/-! ## All programs -/

/-- The programs that run other programs, by name. -/
def launchers : List (String × (Runner → Octets → List Octets → Act ExitStatus)) :=
  [("sh", Script.shell), ("dash", Script.shell), ("env", fun r _ => runIn r),
    ("nice", fun r _ => nice r), ("nohup", fun r _ => nohup r), ("timeout", fun r _ => timeout r),
    ("setsid", fun r _ => setsid r), ("xargs", fun r _ => runOnInput r),
    ("find", fun r _ => findAndRun r)]

def programNames : List String := tools.map (·.1) ++ launchers.map (·.1)

/-- Becomes the program at a place. A file that is no program of the system is a script. -/
def become (r : Runner) (here : List String) (name : Octets) (args : List Octets) :
    Act ExitStatus := do
  let p ← get
  if p.machine.runnable.contains here then
    match Process.interpreter? (p.machine.fileAt here) with
    | some (path, more) =>
      match p.programAt path with
      | .ok there => r.program there path (more ++ name :: args)
      | .error e => return .code (← Process.fail 126 (name ++ chars (": " ++ reason e)))
    | none => Script.shell r name (name :: args)
  else
    let program := here.getLastD ""
    match launchers.lookup program, tool? program with
    | some launch, _ => launch r name args
    | none, some tool => return .code ((← tool args) % 256)
    | none, none => return .code 127

/-- Runs what lies so deep within itself at most; a process that goes deeper breaks down. -/
def runner : (depth : Nat) → Runner
  | 0 =>
    ⟨fun _ _ _ => throw (.struck 11), fun _ _ _ => throw (.struck 11),
      fun _ _ _ => return .signal 11⟩
  | depth + 1 =>
    ⟨fun tested final c => (runner depth).runCommand tested final c,
      fun full within w => (runner depth).wordAtoms full within w,
      fun here name args => become (runner depth) here name args⟩

end Testbed.Lab
