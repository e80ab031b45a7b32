import Testbed.Lab.Script.Pattern
import Testbed.Lab.Script.Session
import Testbed.Lab.Tool.Printing
import Testbed.Lab.Tool.Testing
/-!
# Builtin commands

The commands that a shell carries out by itself because they change the session: they set
variables and options, change the directory, read lines, send signals and arrange for what is done
when one comes.
-/

namespace Testbed.Lab.Script

open Text (Octets)
open Process (chars)

def sayLine (cs : Octets) : Run Unit := act (Process.sayLine cs)

/-! ## Directories -/

/-- A path from the root, as text. -/
def rootPath (dir : List String) : Octets := chars ("/" ++ "/".intercalate dir)

def changeDirectory (args : List Octets) : Run Nat := do
  let (_, operands) ← optionsOf "LP" "" args
  let s ← get
  let target := operands.headD ((s.value? "HOME").getD [])
  let back := target = ['-']
  let target := if back then (s.value? "OLDPWD").getD ['.'] else target
  let target := if back && target.isEmpty then ['.'] else target
  if target.isEmpty then return 0
  let remember (name : String) (dir : List String) : Run Unit := do
    assign name (rootPath dir)
    setVariable name ({ · with exported := true })
  match s.process.find target with
  | .ok (here, some .directory) =>
    remember "OLDPWD" s.process.dir
    modify fun s => { s with process := { s.process with dir := here } }
    remember "PWD" here
    if back then sayLine (rootPath here)
    return 0
  | _ => raise (chars "can't cd to " ++ target)

def printDirectory (args : List Octets) : Run Nat := do
  let _ ← optionsOf "LP" "" args
  sayLine (rootPath (← get).process.dir)
  return 0

/-! ## Variables -/

/-- The name and the value that an argument sets. -/
def settingOf (command : String) (arg : Octets) : Run (String × Option Octets) := do
  let _ := command
  let name := arg.takeWhile (· ≠ '=')
  if !isName name then raise (name ++ chars ": bad variable name")
  let value := if name.length < arg.length then some (arg.drop (name.length + 1)) else none
  return (String.ofList name, value)

/-- Marks variables, and sets them if they are given a value. Without any it lists those marked. -/
def markVariables (command : String) (isMarked : Variable → Bool) (mark : Variable → Variable)
    (args : List Octets) : Run Nat := do
  let (flags, operands) ← optionsOf "p" "" args
  if operands.isEmpty || !flags.isEmpty then
    (← get).bindings.entries.forM fun e => do
      if isMarked e.2 then
        sayLine (chars (command ++ " " ++ e.1) ++ (match e.2.value with
          | some v => '=' :: inQuotes v
          | none => []))
  else
    operands.forM fun arg => do
      let (name, value) ← settingOf command arg
      match value with
      | some v => assign name v
      | none => pure ()
      setVariable name mark
  return 0

def unset (args : List Octets) : Run Nat := do
  let (flags, names) ← optionsOf "vf" "" args
  names.forM fun name => do
    let text := Text.Octets.text name
    if flags.any (·.1 = 'f') then
      modify fun s => { s with functions := s.functions.erase text }
    else
      if !isName name then raise (name ++ chars ": bad variable name")
      match (← get).bindings.find? text with
      | some v =>
        if v.readonly then raise (name ++ chars ": is read only")
        modify fun s => { s with bindings := s.bindings.erase text }
      | none => modify fun s => { s with functions := s.functions.erase text }
  return 0

/-- Keeps what variables are until the function ends. -/
def makeLocal (args : List Octets) : Run Nat := do
  if (← get).calls = 0 then raise (chars "not in a function")
  args.forM fun arg => do
    let (name, value) ← settingOf "local" arg
    let s ← get
    let old := s.bindings.find? name
    match s.locals with
    | saved :: more =>
      if saved.all (·.1 ≠ name) then set { s with locals := ((name, old) :: saved) :: more }
    | [] => pure ()
    match value with
    | some v => assign name v
    | none => pure ()
  return 0

def shift (args : List Octets) : Run Nat := do
  let n ← match args with
    | [] => pure 1
    | a :: _ => countOf a
  let s ← get
  if s.args.length < n then raise (chars "can't shift that many")
  set { s with args := s.args.drop n }
  return 0

/-! ## Options -/

def setFlag (on : Bool) (c : Char) : Run Unit :=
  modify fun s =>
    let others := s.flags.filter (· ≠ c)
    { s with flags := if on then others ++ [c] else others }

/-- Lists all options for people, or else as commands that set them. -/
def listOptions (forPeople : Bool) : Run Unit := do
  let s ← get
  if forPeople then sayLine (chars "Current option settings")
  let all := optionNames.map (fun e => (e.1, s.hasFlag e.2)) ++ idleOptions.map (·, false)
  all.forM fun (name, on) =>
    if forPeople then
      sayLine (chars name ++ List.replicate (16 - name.length) ' ' ++
        chars (if on then "on" else "off"))
    else sayLine (chars (if on then "set -o " else "set +o ") ++ chars name)

/-- Sets the options at the start of some arguments; tells the arguments after them, if there are
any or a mark says that there are none. -/
def setOptions : List Octets → Run (Option (List Octets))
  | [] => return none
  | ['-', '-'] :: rest => return some rest
  | ['-'] :: rest => do
    setFlag false 'x'
    setFlag false 'v'
    return if rest.isEmpty then none else some rest
  | (sign :: cs) :: rest => do
    if sign ≠ '-' && sign ≠ '+' then return some ((sign :: cs) :: rest)
    let named := cs.contains 'o'
    (cs.filter (· ≠ 'o')).forM fun c =>
      if optionNames.any (·.2 = c) then setFlag (sign = '-') c
      else raise (chars "Illegal option " ++ [sign, c])
    if named then
      match rest with
      | [] =>
        listOptions (sign = '-')
        return none
      | name :: rest =>
        match optionNames.lookup (Text.Octets.text name) with
        | some c => setFlag (sign = '-') c
        | none =>
          if !idleOptions.contains (Text.Octets.text name) then
            raise (chars "Illegal option " ++ [sign] ++ chars "o " ++ name)
        setOptions rest
    else setOptions rest
  | rest => return some rest

def setCommand (args : List Octets) : Run Nat := do
  match args with
  | [] =>
    (← get).bindings.entries.forM fun e =>
      match e.2.value with
      | some v => sayLine (chars e.1 ++ ['='] ++ inQuotes v)
      | none => pure ()
  | args =>
    match ← setOptions args with
    | some operands => modify ({ · with args := operands })
    | none => pure ()
  return 0

/-- Takes options one by one from the arguments of a script. -/
def getOption (args : List Octets) : Run Nat := do
  match args with
  | letters :: name :: rest =>
    let s ← get
    let given := if rest.isEmpty then s.args else rest
    let index := ((s.value? "OPTIND").bind count?).getD 1
    let offset := ((s.value? "OPTOFF ").bind count?).getD 1
    let quiet := letters.head? = some ':'
    let into := Text.Octets.text name
    let remember (index offset : Nat) : Run Unit := do
      assign "OPTIND" (digitsOf 10 index)
      assign "OPTOFF " (digitsOf 10 offset)
    let finish (index : Nat) : Run Nat := do
      remember index 1
      assign into ['?']
      modify fun s => { s with bindings := s.bindings.erase "OPTARG" }
      return 1
    match given[index - 1]? with
    | none => finish index
    | some ['-', '-'] => if offset = 1 then finish (index + 1) else finish index
    | some arg =>
      if arg.head? ≠ some '-' || arg.length < 2 then finish index
      else
        let c := arg[offset]?.getD '-'
        let next : Nat × Nat := if offset + 1 < arg.length then (index, offset + 1)
          else (index + 1, 1)
        match letters.dropWhile (fun d => d ≠ c || d = ':') with
        | [] =>
          remember next.1 next.2
          assign into ['?']
          if quiet then assign "OPTARG" [c]
          else
            act (Process.complain (chars "Illegal option -" ++ [c]))
            modify fun s => { s with bindings := s.bindings.erase "OPTARG" }
          return 0
        | _ :: ':' :: _ =>
          let rest := arg.drop (offset + 1)
          match if rest.isEmpty then given[index]? else some rest with
          | some value =>
            remember (if rest.isEmpty then index + 2 else index + 1) 1
            assign into [c]
            assign "OPTARG" value
          | none =>
            remember (index + 1) 1
            if quiet then
              assign into [':']
              assign "OPTARG" [c]
            else
              act (Process.complain (chars "No arg for -" ++ [c] ++ chars " option"))
              assign into ['?']
          return 0
        | _ =>
          remember next.1 next.2
          assign into [c]
          assign "OPTARG" []
          return 0
  | _ => raise (chars "Usage: getopts optstring var [arg...]")

/-! ## Reading -/

/-- Characters of a line, where a backslash keeps the next one from being a separator. A line that
ends in a backslash goes on. -/
def lineAtoms (raw : Bool) : (fuel : Nat) → Run (List Marked × Bool)
  | 0 => return ([], false)
  | fuel + 1 => do
    let line ← act (Process.readUpTo 0 firstLine)
    let ended := line.getLast? = some '\n'
    let body := chomp line
    let marked := if raw then body.map (·, false) else unslash body
    let slashes := (body.reverse.takeWhile (· = '\\')).length
    if !raw && ended && slashes % 2 = 1 then
      let (more, ended) ← lineAtoms raw fuel
      return (marked ++ more, ended)
    else return (marked, ended)
where
  unslash : Octets → List Marked
    | '\\' :: c :: rest => (c, true) :: unslash rest
    | ['\\'] => []
    | c :: rest => (c, false) :: unslash rest
    | [] => []

/-- The values of a number of variables: the last one takes all that is left. -/
def splitLine (separators : Octets) : (names : Nat) → List Marked → List Octets
  | 0, _ => []
  | names + 1, cs =>
    let isSep (m : Marked) : Bool := !m.2 && separators.contains m.1
    let isGap (m : Marked) : Bool := isSep m && isSpace m.1
    let cs := cs.dropWhile isGap
    let trimmed := (cs.reverse.dropWhile isGap).reverse
    if names = 0 then
      /- A single separator at the end is no part of the last value. -/
      let parts := trimmed.filter isSep
      let last := match trimmed.getLast? with
        | some m => if isSep m && parts.length = 1 then trimmed.dropLast else trimmed
        | none => trimmed
      [last.map (·.1)]
    else
      let word := cs.takeWhile (fun m => !isSep m)
      let rest := (cs.drop word.length).dropWhile isGap
      let rest := match rest with
        | m :: more => if isSep m then more else rest
        | [] => []
      word.map (·.1) :: splitLine separators names rest

def readLine (args : List Octets) : Run Nat := do
  let (flags, names) ← optionsOf "r" "p" args
  if names.isEmpty then raise (chars "arg count")
  let (cs, ended) ← lineAtoms (flags.any (·.1 = 'r')) 100000
  let values := splitLine (← get).separators names.length cs
  (names.zip values).forM fun (name, value) => do
    if !isName name then raise (name ++ chars ": bad variable name")
    assign (Text.Octets.text name) value
  return if ended then 0 else 1

/-! ## Signals -/

def killUsage : Octets :=
  chars ("Usage: kill [-s sigspec | -signum | -sigspec] [pid | job]... or\n" ++
    "kill -l [exitstatus]")

/-- Sends a signal to a process; that of the session is struck at once. -/
def send (signal : Nat) (target : Nat) : Run Bool := do
  let s ← get
  if target = s.process.id then
    if signal ≠ 0 then receive signal
    return true
  else if target < 2 || s.process.machine.processes < target then return false
  else
    modify fun s =>
      let machine := { s.process.machine with
        struck := s.process.machine.struck ++ [(target, signal)] }
      { s with
        process := { s.process with machine := machine }
        behind := s.behind.map fun b =>
          if b.1 = target && signal ≠ 0 then (b.1, .signal signal) else b }
    return true

def listSignals (args : List Octets) : Run Nat := do
  match args with
  | [] =>
    sayLine ['0']
    ((List.range Signal.limit).drop 1).forM fun n => sayLine (chars (Signal.name n))
    return 0
  | a :: _ =>
    let n ← countOf a
    let n := if 128 < n then n - 128 else n
    if 0 < n && n < Signal.limit then
      sayLine (chars (Signal.name n))
      return 0
    else raise (chars "invalid signal number or exit status: " ++ a)

def kill (args : List Octets) : Run Nat := do
  let (signal, lists, targets) ← (match args with
    | ('-' :: cs) :: rest => do
      match Signal.find? cs with
      | some n => return (n, false, rest)
      | none =>
        let (flags, rest) ← optionsOf "l" "s" args
        match flags.find? (·.1 = 's') with
        | some (_, name) =>
          match Signal.find? name with
          | some n => return (n, false, rest)
          | none => raise (chars "invalid signal number or name: " ++ name)
        | none => return (15, flags.any (·.1 = 'l'), rest)
    | args => return (15, false, args) : Run (Nat × Bool × List Octets))
  if lists then listSignals targets
  else if targets.isEmpty then raise killUsage
  else
    targets.foldlM (fun status target => do
      if target.head? = some '%' then raise (chars "No such job: " ++ target)
      let n ← countOf (if target.head? = some '-' then target.tail else target)
      if ← send signal n then return status
      else
        complain (chars "No such process\n")
        return 1) 0

/-- The signal that a trap is for. -/
def trapSignal? (cs : Octets) : Option Nat :=
  if cs = chars "EXIT" || cs = chars "exit" then some 0 else Signal.find? cs

def trapName (n : Nat) : String := if n = 0 then "EXIT" else Signal.name n

def setTrap (args : List Octets) : Run Nat := do
  let (_, operands) ← optionsOf "" "" args
  let change (action : Option Octets) (names : List Octets) : Run Nat :=
    names.foldlM (fun status name => do
      match trapSignal? name with
      | none =>
        act (Process.complain (chars "trap: " ++ name ++ chars ": bad trap"))
        return 1
      | some n =>
        if status = 0 then
          modify fun s =>
            let others := s.traps.filter (·.1 ≠ n)
            { s with traps := match action with
              | some a => (n, a) :: others
              | none => others }
        return status) 0
  match operands with
  | [] =>
    let traps := (← get).traps
    ((List.range Signal.limit).filterMap fun n => (traps.lookup n).map (n, ·)).forM
      fun (n, action) =>
        sayLine (chars "trap -- " ++ inQuotes action ++ chars (" " ++ trapName n))
    return 0
  | [only] => change none [only]
  | action :: names => change (if action = ['-'] then none else some action) names

/-! ## Other commands -/

def waitFor (args : List Octets) : Run Nat := do
  match args with
  | [] =>
    modify ({ · with behind := [] })
    return 0
  | args =>
    args.foldlM (fun _ a => do
      let n ← countOf a
      match (← get).behind.lookup n with
      | some status => statusOf status
      | none => return 127) 0

/-! ### What others may do -/

/-- The permissions of a mask, as a text for each kind of user. -/
def permissionText (mask : Nat) : Octets :=
  let part (who : Char) (shift : Nat) : Octets :=
    let left := mask / Nat.pow 8 shift
    let letter (c : Char) (bit : Nat) : Octets := if left / bit % 2 = 0 then [c] else []
    who :: '=' :: letter 'r' 4 ++ letter 'w' 2 ++ letter 'x' 1
  part 'u' 2 ++ [','] ++ part 'g' 1 ++ [','] ++ part 'o' 0

/-- Permissions after one clause of a mode, such as `g-w`. -/
def clause? (allowed : Nat) (cs : Octets) : Option Nat :=
  let who := cs.takeWhile ['u', 'g', 'o', 'a'].contains
  let shifts := if who.isEmpty || who.contains 'a' then [0, 1, 2] else
    who.map fun c => if c = 'u' then 2 else if c = 'g' then 1 else 0
  let change (op : Char) (allowed bits : Nat) : Nat :=
    shifts.foldl (fun n shift =>
      let part := bits * Nat.pow 8 shift
      if op = '+' then n ||| part
      else if op = '-' then n &&& (511 - part)
      else (n &&& (511 - 7 * Nat.pow 8 shift)) ||| part) allowed
  let letterBits (c : Char) : Option Nat :=
    match c with
    | 'r' => some 4
    | 'w' => some 2
    | 'x' | 'X' => some 1
    | 's' | 't' => some 0
    | 'u' => some (allowed / 64 % 8)
    | 'g' => some (allowed / 8 % 8)
    | 'o' => some (allowed % 8)
    | _ => none
  match cs.drop who.length with
  | [] => if cs.isEmpty then none else some allowed
  | op :: letters =>
    if op = '+' || op = '-' || op = '=' then
      (letters.mapM letterBits).map fun bits => change op allowed (bits.foldl (· ||| ·) 0)
    else none

def maskCommand (args : List Octets) : Run Nat := do
  let (flags, operands) ← optionsOf "S" "" args
  let s ← get
  let mask := s.process.mask
  let put (n : Nat) : Run Nat := do
    modify fun s => { s with process := { s.process with mask := n } }
    return 0
  match operands with
  | [] =>
    let ds := digitsOf 8 mask
    sayLine (if flags.isEmpty then List.replicate (4 - ds.length) '0' ++ ds
      else permissionText mask)
    return 0
  | mode :: _ =>
    if (mode.head?.map Char.isDigit).getD false then
      if mode.all isOctal then put (numberOf 8 mode % 512)
      else raise (chars "Illegal number: " ++ mode)
    else
      match (Text.split ',' mode).foldlM clause? (511 - mask) with
      | some allowed => put (511 - allowed)
      | none => raise (chars "Illegal mode: " ++ mode)

/-! ### Names of commands -/

def setAlias (args : List Octets) : Run Nat := do
  let tell (name : String) (text : Octets) : Run Unit :=
    sayLine (chars (name ++ "=") ++ inQuotes text)
  match args with
  | [] =>
    (← get).aliases.entries.forM fun e => tell e.1 e.2
    return 0
  | args =>
    args.foldlM (fun status a => do
      let name := Text.Octets.text (a.take 1 ++ a.tail.takeWhile (· ≠ '='))
      let aliases := (← get).aliases
      match a.drop name.utf8ByteSize with
      | _ :: text =>
        modify ({ · with aliases := aliases.insert name text })
        return status
      | [] =>
        match aliases.find? name with
        | some text =>
          tell name text
          return status
        | none =>
          act (Process.complain (chars "alias: " ++ a ++ chars " not found"))
          return 1) 0

def unsetAlias (args : List Octets) : Run Nat := do
  let (flags, names) ← optionsOf "a" "" args
  if !flags.isEmpty then modify ({ · with aliases := NameMap.ofList [] })
  names.foldlM (fun status a => do
    let aliases := (← get).aliases
    let name := Text.Octets.text a
    if aliases.contains name then
      modify ({ · with aliases := aliases.erase name })
      return status
    else
      act (Process.complain (chars "unalias: " ++ a ++ chars " not found"))
      return 1) 0

/-- The builtin commands that are not special. -/
def regularNames : List String :=
  ["[", "alias", "bg", "cd", "chdir", "command", "echo", "false", "fg", "getopts", "hash", "jobs",
    "kill", "printf", "pwd", "read", "test", "true", "type", "ulimit", "umask", "unalias",
    "wait"]

def isBuiltin (name : String) : Bool := specialNames.contains name || regularNames.contains name

/-- What a name stands for, told in a sentence or in a word. -/
def tellCommand (inSentence : Bool) (name : Octets) : Run Nat := do
  let s ← get
  let text := Text.Octets.text name
  let say (sentence word : Octets) : Run Nat := do
    sayLine (if inSentence then name ++ sentence else word)
    return 0
  if Token.keywords.contains text then say (chars " is a shell keyword") name
  else if specialNames.contains text then say (chars " is a special shell builtin") name
  else if s.functions.contains text then say (chars " is a shell function") name
  else if regularNames.contains text then say (chars " is a shell builtin") name
  else
    let found := if name.contains '/' then
        (if (s.process.entry? name).isSome then some name else none)
      else
        match s.process.programOf s.path name with
        | .ok here => some (rootPath here)
        | .error _ => none
    match found with
    | some path => say (chars " is " ++ path) path
    | none =>
      if inSentence then sayLine (name ++ chars ": not found")
      return 127

def tellAll (inSentence : Bool) (names : List Octets) : Run Nat :=
  names.foldlM (fun status name => do return max status (← tellCommand inSentence name)) 0

/-- Looks for commands, so that they can be found again faster. -/
def lookForAll (args : List Octets) : Run Nat := do
  let (_, names) ← optionsOf "rv" "" args
  names.foldlM (fun status name => do
    let s ← get
    let text := Text.Octets.text name
    match s.functions.contains text || isBuiltin text, s.process.programOf s.path name with
    | true, _ | _, .ok _ => return status
    | false, .error _ =>
      complain (name ++ chars ": not found")
      return 1) 0

/-- A command about jobs, of which there are none. -/
def jobCommand (args : List Octets) : Run Nat := do
  let (_, operands) ← optionsOf "" "" args
  match operands with
  | [] => raise (chars "No current job")
  | name :: _ => raise (chars "No such job: " ++ name)

/-- A command of which only the options matter. -/
def idle (letters valued : String) (said : String) (args : List Octets) : Run Nat := do
  let _ ← optionsOf letters valued args
  act (Process.say (chars said))
  return 0

def printFormatted (args : List Octets) : Run Nat := do
  let (_, operands) ← optionsOf "" "" args
  let s ← get
  let complain (cs : Octets) : Act Unit :=
    Process.complain (s.name ++ chars (": " ++ toString s.line ++ ": printf: ") ++ cs)
  match operands with
  | [] => raise (chars "usage: printf format [arg ...]")
  | format :: rest => act (printf .shell complain format rest)

def runTest (name : String) (args : List Octets) : Run Nat := do
  let s ← get
  let complain (cs : Octets) : Act Unit :=
    Process.complain (s.name ++ chars (": " ++ toString s.line ++ ": " ++ name ++ ": ") ++ cs)
  if name = "[" then
    match bracketed? true args with
    | some args => act (testByShell complain args)
    | none => raise (chars "missing ]")
  else act (testByShell complain args)

/-- The number that a command which ends something is given. -/
def endStatus (args : List Octets) : Run Nat := do
  match args with
  | [] => return (← get).status
  | a :: _ => countOf a

/-- Ends some loops, or goes on with them. -/
def endLoops (again : Bool) (args : List Octets) : Run Nat := do
  let n ← match args with
    | [] => pure 1
    | a :: _ => countOf a
  if n = 0 then raise (chars "Illegal number: " ++ args.headD [])
  let loops := (← get).loops
  if loops = 0 then return 0 else throw (.loop again (min n loops))

/-- The builtin commands that need nothing but the session. -/
def plainBuiltin? (name : String) : Option (List Octets → Run Nat) :=
  match name with
  | ":" | "true" => some fun _ => return 0
  | "false" => some fun _ => return 1
  | "alias" => some setAlias
  | "unalias" => some unsetAlias
  | "fg" | "bg" => some jobCommand
  | "jobs" => some (idle "lp" "" "")
  | "times" => some (idle "" "" "0m0.000000s 0m0.000000s\n0m0.000000s 0m0.000000s\n")
  | "ulimit" => some (idle "HSatfdscmlpnvwr" "" "unlimited\n")
  | "hash" => some lookForAll
  | "cd" | "chdir" => some changeDirectory
  | "pwd" => some printDirectory
  | "export" =>
    some (markVariables name (·.exported) ({ · with exported := true }))
  | "readonly" =>
    some (markVariables name (·.readonly) ({ · with readonly := true }))
  | "unset" => some unset
  | "local" => some makeLocal
  | "shift" => some shift
  | "set" => some setCommand
  | "getopts" => some getOption
  | "read" => some readLine
  | "kill" => some kill
  | "trap" => some setTrap
  | "wait" => some waitFor
  | "umask" => some maskCommand
  | "type" => some (tellAll true)
  | "echo" => some fun args => act (echoOfShell args)
  | "printf" => some printFormatted
  | "test" | "[" => some (runTest name)
  | "break" => some (endLoops false)
  | "continue" => some (endLoops true)
  | "exit" => some fun args => do
    let s ← get
    let _ ← setStatus (← if args.isEmpty then pure (s.held.getD s.status) else endStatus args)
    throw .leave
  | "return" => some fun args => do
    let _ ← setStatus (← endStatus args)
    throw .back
  | _ => none

end Testbed.Lab.Script
