import Testbed.Lab.Tool.Dump
import Testbed.Lab.Tool.Edit
import Testbed.Lab.Tool.Expression
import Testbed.Lab.Tool.Facts
import Testbed.Lab.Tool.Search
import Testbed.Lab.Tool.Testing
/-!
# The tools of a system

Small tools that tell something about the system or compare files, and the table of all tools that
only act on the process they are run in.
-/

namespace Testbed.Lab

open Text (Octets)
open Process (chars)

/-- For how many nanoseconds a text asks to wait: it is a number with at most one unit. -/
def interval? (cs : Octets) : Option Nat :=
  let seconds : Char → Option Nat
    | 's' => some 1
    | 'm' => some 60
    | 'h' => some 3600
    | 'd' => some 86400
    | _ => none
  let unit := cs.getLast?.bind seconds
  match fraction? (if unit.isSome then cs.dropLast else cs) with
  | some f =>
    if f.negative then none
    else some (nearest (f.digits * unit.getD 1 * 1000000000) (Nat.pow 10 f.places))
  | none => none

def sleep : Tool := withOptions "sleep" 1 ⟨"", "", []⟩ fun o => do
  if o.operands.isEmpty then misused "sleep" 1 (chars "missing operand")
  else
    match o.operands.filter fun a => (interval? a).isNone with
    | [] =>
      let total := (o.operands.filterMap interval?).foldl (· + ·) 0
      modify fun p => { p with machine := { p.machine with slept := p.machine.slept + total } }
      return 0
    | wrong =>
      wrong.forM fun a =>
        Process.complain (chars "sleep: invalid time interval '" ++ a ++ ['\''])
      Process.fail 1 (chars "Try 'sleep --help' for more information.")

def printenv : Tool := fun args => do
  let p ← get
  match args with
  | [] =>
    p.environment.entries.forM fun e => Process.sayLine (chars e.1 ++ ['='] ++ e.2)
    return 0
  | names =>
    eachOperand names fun name => do
      match p.environment.find? (Text.Octets.text name) with
      | some value =>
        Process.sayLine value
        return 0
      | none => return 1

/-- The place of the first byte that differs, and its line. -/
def firstDifference : Octets → Octets → (byte line : Nat) → Option (Nat × Nat)
  | a :: as, b :: bs, byte, line =>
    if a = b then firstDifference as bs (byte + 1) (if a = '\n' then line + 1 else line)
    else some (byte, line)
  | _, _, _, _ => none

def cmp : Tool := withOptions "cmp" 2 ⟨"sl", "", [("silent", 's'), ("quiet", 's')]⟩ fun o => do
  match o.operands with
  | [] =>
    Process.complain (chars "cmp: missing operand after 'cmp'")
    Process.fail 2 (chars "cmp: Try 'cmp --help' for more information.")
  | first :: more =>
    let second := more.headD ['-']
    match ← Process.contents first, ← Process.contents second with
    | .error e, _ =>
      if !o.has 's' || e = .isDirectory then complainOf "cmp" first e
      return 2
    | _, .error e =>
      if !o.has 's' || e = .isDirectory then complainOf "cmp" second e
      return 2
    | .ok a, .ok b =>
      match firstDifference a b 1 1 with
      | some (byte, line) =>
        if !o.has 's' then
          Process.sayLine (first ++ [' '] ++ second ++ chars (" differ: char " ++ toString byte ++
            ", line " ++ toString line))
        return 1
      | none =>
        if a.length = b.length then return 0
        else
          let (short, cs) := if a.length < b.length then (first, a) else (second, b)
          let line := cs.count '\n'
          if !o.has 's' then
            Process.complain (chars "cmp: EOF on " ++ short ++
              (if cs.isEmpty then chars " which is empty"
              else if cs.getLast? = some '\n' then
                chars (" after byte " ++ toString cs.length ++ ", line " ++ toString line)
              else
                chars (" after byte " ++ toString cs.length ++ ", in line " ++
                  toString (line + 1))))
          return 1

/-- Whether two files are the same, told by the status. -/
def diff : Tool := withOptions "diff" 2
    ⟨"qsurNwbBiaE", "UC", [("brief", 'q'), ("report-identical-files", 's')]⟩ fun o => do
  match o.operands with
  | [first, second] =>
    match ← Process.contents first, ← Process.contents second with
    | .error e, _ =>
      complainOf "diff" first e
      return 2
    | _, .error e =>
      complainOf "diff" second e
      return 2
    | .ok a, .ok b =>
      if a = b then
        if o.has 's' then
          Process.sayLine (chars "Files " ++ first ++ chars " and " ++ second ++
            chars " are identical")
        return 0
      else
        if o.has 'q' then
          Process.sayLine (chars "Files " ++ first ++ chars " and " ++ second ++ chars " differ")
        return 1
  | operands =>
    let text := match operands with
      | [] => chars "missing operand after 'diff'"
      | [only] => chars "missing operand after '" ++ only ++ ['\'']
      | _ :: _ :: extra :: _ => chars "extra operand '" ++ extra ++ ['\'']
      | _ => []
    Process.complain (chars "diff: " ++ text)
    Process.fail 2 (chars "diff: Try 'diff --help' for more information.")

/-- Tells where programs are. -/
def which : Tool := fun args => do
  let p ← get
  let dirs := (p.environment.find? "PATH").getD Process.usualPath
  eachOperand args fun name => do
    match p.programOf dirs name with
    | .ok here =>
      Process.sayLine (chars ("/" ++ "/".intercalate here))
      return 0
    | .error _ => return 1

/-- Says the same again and again, more often than anybody listens. -/
def yes : Tool := fun args => do
  let line := (if args.isEmpty then ['y'] else [' '].intercalate args) ++ ['\n']
  Process.say (List.replicate 10000 line).flatten
  return 0

def succeed : Tool := fun _ => return 0

/-- The tools that only act on their process, by name. -/
def tools : List (String × Tool) :=
  [("true", succeed), ("yes", yes), ("false", fun _ => return 1), ("sync", succeed),
    ("echo", echoOfProgram),
    ("printf", fun args => do
      match args with
      | [] => misused "printf" 1 (chars "missing operand")
      | format :: rest =>
        printf .program (fun cs => Process.complain (chars "printf: " ++ cs)) format rest),
    ("test", testByProgram "test"), ("[", testByProgram "["),
    ("cat", cat), ("head", head), ("tail", tail), ("tac", tac), ("rev", rev), ("nl", nl),
    ("wc", wc), ("uniq", uniq), ("sort", sort), ("cut", cut), ("paste", paste), ("tr", tr),
    ("tee", tee), ("seq", seq), ("grep", grepAs []), ("egrep", grepAs ['E']),
    ("fgrep", grepAs ['F']), ("sed", sed), ("expr", expr), ("mkdir", mkdir), ("rmdir", rmdir),
    ("rm", rm), ("cp", cp), ("mv", mv), ("touch", touch), ("ls", ls), ("basename", basename),
    ("dirname", dirname), ("chmod", chmod), ("realpath", realpath),
    ("readlink", readlink), ("mktemp", mktemp), ("truncate", truncate), ("ln", ln),
    ("base64", base64), ("od", od), ("stat", stat), ("tty", tty), ("id", identity),
    ("uname", uname), ("date", date), ("hostname", saying "hostname" "localhost"),
    ("nproc", saying "nproc" "1"),
    ("arch", saying "arch" "x86_64"),
    ("groups", saying "groups" "root"), ("sleep", sleep), ("printenv", printenv), ("cmp", cmp),
    ("diff", diff), ("which", which), ("whoami", saying "whoami" "root"), ("pwd", fun _ => do
      Process.sayLine (chars ("/" ++ "/".intercalate (← get).dir))
      return 0)]

def tool? (name : String) : Option Tool := tools.lookup name

end Testbed.Lab
