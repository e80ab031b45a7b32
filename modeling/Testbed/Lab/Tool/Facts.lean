import Testbed.Lab.Tool.Placement
/-!
# Facts about files and the system

Tools that tell what something is: a file, the user, the machine or the time, which stands still.
-/

namespace Testbed.Lab

open Text (Octets)
open Process (chars)

/-- Runs a tool that takes no operands. -/
def withoutOperands (name : String) (status : Nat) (o : Options) (run : Act Nat) : Act Nat := do
  match o.operands with
  | [] => run
  | extra :: _ => misused name status (chars "extra operand '" ++ extra ++ ['\''])

/-- Always says the same. -/
def saying (name line : String) : Tool := withOptions name 1 ⟨"", "", []⟩ fun o =>
  withoutOperands name 1 o do
    Process.sayLine (chars line)
    return 0

/-! ## Files -/

/-- What a format tells of a file, where letters after percent signs stand for facts. -/
def factsOf (p : Process) (path : Octets) (here : List String) (entry : Entry) : Octets → Octets
  | '%' :: c :: rest =>
    let runs := p.mayRun here
    let fact : Octets := match c, entry with
      | 'n', _ => path
      | 's', .file bytes => digitsOf 10 bytes.length
      | 's', .directory => chars "4096"
      | 'F', .directory => chars "directory"
      | 'F', .file bytes =>
        chars (if bytes.isEmpty then "regular empty file" else "regular file")
      | 'a', .directory => chars "755"
      | 'a', .file _ => chars (if runs then "755" else "644")
      | 'A', .directory => chars "drwxr-xr-x"
      | 'A', .file _ => chars (if runs then "-rwxr-xr-x" else "-rw-r--r--")
      | 'U', _ | 'G', _ => chars "root"
      | 'u', _ | 'g', _ => ['0']
      | 'h', _ => ['1']
      | '%', _ => ['%']
      | _, _ => ['?']
    fact ++ factsOf p path here entry rest
  | c :: rest => c :: factsOf p path here entry rest
  | [] => []

def stat : Tool := withOptions "stat" 1 ⟨"Lt", "c", [("format", 'c')]⟩ fun o => do
  if o.operands.isEmpty then misused "stat" 1 (chars "missing operand")
  else
    eachOperand o.operands fun path => do
      let p ← get
      let refuse := cannot "stat" "cannot statx"
      match p.find path with
      | .error e => refuse path e
      | .ok (_, none) => refuse path .missing
      | .ok (here, some entry) =>
        Process.sayLine (factsOf p path here entry ((o.value? 'c').getD (chars "  File: %n")))
        return 0

/-! ## The user and the machine -/

def tty : Tool := withOptions "tty" 2 ⟨"s", "", [("silent", 's'), ("quiet", 's')]⟩ fun o =>
  withoutOperands "tty" 2 o do
    if !o.has 's' then Process.sayLine (chars "not a tty")
    return 1

def identity : Tool := withOptions "id" 1
    ⟨"ugGnr", "", [("user", 'u'), ("group", 'g'), ("groups", 'G'), ("name", 'n')]⟩ fun o => do
  let one := o.has 'u' || o.has 'g' || o.has 'G'
  match o.operands with
  | name :: _ =>
    if name = chars "root" then Process.sayLine (chars (if one then "0" else usual))
    else
      let _ ← Process.fail 1 (chars "id: '" ++ name ++ chars "': no such user")
    return if name = chars "root" then 0 else 1
  | [] =>
    Process.sayLine (chars (if !one then usual else if o.has 'n' then "root" else "0"))
    return 0
where
  usual : String := "uid=0(root) gid=0(root) groups=0(root)"

def uname : Tool := withOptions "uname" 1 ⟨"snrvmpioa", "", [("all", 'a')]⟩ fun o =>
  withoutOperands "uname" 1 o do
  let facts := [('s', "Linux"), ('n', "localhost"), ('r', "6.1.0"), ('v', "#1 SMP"),
    ('m', "x86_64"), ('o', "GNU/Linux")]
  let asked := facts.filter fun f => o.has f.1 || o.has 'a' || (o.flags.isEmpty && f.1 = 's')
  Process.sayLine (chars (" ".intercalate (asked.map (·.2))))
  return 0

/-- The time that a format tells: that of the first moment. -/
def timeText : Octets → Octets
  | '%' :: c :: rest =>
    let text := match c with
      | 'Y' => "1970"
      | 'm' | 'd' => "01"
      | 'H' | 'M' | 'S' => "00"
      | 's' => "0"
      | 'N' => "000000000"
      | 'F' => "1970-01-01"
      | 'T' => "00:00:00"
      | '%' => "%"
      | _ => ""
    chars text ++ timeText rest
  | c :: rest => c :: timeText rest
  | [] => []

def date : Tool := withOptions "date" 1 ⟨"uRI", "ds", [("utc", 'u'), ("date", 'd')]⟩ fun o => do
  match o.operands with
  | [] =>
    Process.sayLine (chars "Thu Jan  1 00:00:00 UTC 1970")
    return 0
  | ('+' :: format) :: _ =>
    Process.sayLine (timeText format)
    return 0
  | text :: _ => Process.fail 1 (chars "date: invalid date '" ++ text ++ ['\''])

end Testbed.Lab
