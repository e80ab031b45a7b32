import Testbed.Lab.Script.Sum
import Testbed.Lab.Tool.Options
/-!
# Tests

A test tells whether something holds of files, texts and numbers. Whether a word is an operator is
decided by what stands beside it. A shell and the program of the system read a test in slightly
different ways and complain in different words.
-/

namespace Testbed.Lab

open Text (Octets)
open Process (chars)

/-- Why a test makes no sense. -/
inductive TestFault where
  | notNumber (text : Octets)
  | said (text : Octets)
  deriving DecidableEq, Repr

abbrev TestAnswer := Except TestFault Bool

/-! ## Single tests -/

/-- The tests of a single text. -/
def unaryTests : List Octets := (["-r", "-w", "-x", "-e", "-f", "-d", "-c", "-b", "-p", "-u", "-g",
  "-k", "-s", "-t", "-z", "-n", "-h", "-L", "-O", "-G", "-S"]).map chars

/-- The tests of two texts. -/
def binaryTests : List Octets := (["=", "!=", "<", ">", "-eq", "-ne", "-ge", "-gt", "-le", "-lt",
  "-nt", "-ot", "-ef"]).map chars

def testOne (p : Process) (op a : Octets) : Bool :=
  let found := p.find a
  let entry := p.entry? a
  let device := match found with
    | .ok (here, _) => Process.isDevice here
    | .error _ => false
  match String.ofList op with
  | "-z" => a.isEmpty
  | "-n" => !a.isEmpty
  | "-e" | "-r" | "-w" | "-O" | "-G" => entry.isSome
  | "-f" => p.isFile a && !device
  | "-d" => p.isDir a
  | "-c" => p.isFile a && device
  | "-s" => entry.isSome && entry ≠ some (.file []) && !device
  | "-x" =>
    match found with
    | .ok (here, some (.file _)) => p.mayRun here
    | .ok (_, some .directory) => true
    | _ => false
  | "-k" => p.isDir a && p.full a = "/tmp"
  | _ => false

def testNumber (a : Octets) : Except TestFault Int :=
  match Script.integer? false a with
  | some n => .ok n
  | none => .error (.notNumber a)

/-- What an operator says about two numbers. -/
def relation? (op : String) : Option (Int → Int → Bool) :=
  match op with
  | "-eq" => some fun x y => x = y
  | "-ne" => some fun x y => x ≠ y
  | "-lt" => some fun x y => x < y
  | "-le" => some fun x y => x ≤ y
  | "-gt" => some fun x y => x > y
  | "-ge" => some fun x y => x ≥ y
  | _ => none

def testTwo (p : Process) (a op b : Octets) : TestAnswer :=
  match String.ofList op, relation? (String.ofList op) with
  | _, some holds => do return holds (← testNumber a) (← testNumber b)
  | "=", none => .ok (a = b)
  | "!=", none => .ok (a ≠ b)
  | "<", none => .ok (a < b)
  | ">", none => .ok (b < a)
  | "-ef", none => .ok ((p.entry? a).isSome && p.full a = p.full b)
  | "-nt", none => .ok ((p.entry? a).isSome && (p.entry? b).isNone)
  | _, none => .ok ((p.entry? a).isNone && (p.entry? b).isSome)

/-! ## Tests of a shell -/

inductive TestToken where
  | nothing
  | operand
  | unary
  | binary
  | bang
  | and
  | or
  | left
  | right
  deriving DecidableEq, Repr

/-- What the first word is, seen with those after it. -/
def TestToken.of : List Octets → TestToken
  | [] => .nothing
  | ['!'] :: _ => .bang
  | ['-', 'a'] :: _ => .and
  | ['-', 'o'] :: _ => .or
  | ['('] :: rest => if rest.isEmpty then .operand else .left
  | [')'] :: _ => .right
  | a :: rest =>
    if binaryTests.contains a then .binary
    else if unaryTests.contains a then
      match rest with
      | [] => .operand
      | [_] => .unary
      | op :: _ => if binaryTests.contains op then .operand else .unary
    else .operand

/-- What came of some words of a test, and the words from the last of them on. -/
abbrev TestStep := Except TestFault (Bool × List Octets)

namespace TestStep

mutual

def disjunction (p : Process) : (fuel : Nat) → List Octets → TestStep
  | 0, _ => .error (.said [])
  | fuel + 1, ws => do
    let (a, ws) ← conjunction p fuel ws
    if TestToken.of ws.tail = .or then
      let (b, ws) ← disjunction p fuel (ws.drop 2)
      return (a || b, ws)
    else return (a, ws)

def conjunction (p : Process) : (fuel : Nat) → List Octets → TestStep
  | 0, _ => .error (.said [])
  | fuel + 1, ws => do
    let (a, ws) ← negation p fuel ws
    if TestToken.of ws.tail = .and then
      let (b, ws) ← conjunction p fuel (ws.drop 2)
      return (a && b, ws)
    else return (a, ws)

def negation (p : Process) : (fuel : Nat) → List Octets → TestStep
  | 0, _ => .error (.said [])
  | fuel + 1, ws => do
    if TestToken.of ws = .bang then
      if ws.tail.isEmpty then return (true, ws)
      let (a, ws) ← negation p fuel ws.tail
      return (!a, ws)
    else primary p fuel ws

def primary (p : Process) : (fuel : Nat) → List Octets → TestStep
  | 0, _ => .error (.said [])
  | fuel + 1, ws => do
    match TestToken.of ws, ws with
    | _, [] => return (false, [])
    | .left, _ :: rest =>
      if TestToken.of rest = .right then return (false, rest)
      let (a, ws) ← disjunction p fuel rest
      if TestToken.of ws.tail = .right then return (a, ws.tail)
      throw (.said (chars "closing paren expected"))
    | .unary, op :: rest =>
      match rest with
      | [] => throw (.said (op ++ chars ": argument expected"))
      | a :: _ => return (testOne p op a, rest)
    | _, a :: rest =>
      match TestToken.of rest, rest with
      | .binary, op :: b :: more => return (← testTwo p a op b, b :: more)
      | .binary, op :: _ => throw (.said (op ++ chars ": argument expected"))
      | _, _ => return (!a.isEmpty, ws)

end

end TestStep

/-- A whole test of a shell. -/
def shellTest (p : Process) : (fuel : Nat) → List Octets → TestAnswer
  | _, [] => .ok false
  | 0, _ => .error (.said [])
  | fuel + 1, ws =>
    let finish : TestStep → TestAnswer
      | .error e => .error e
      | .ok (_, last :: _ :: _) =>
        .error (.said (if last.isEmpty then chars "unexpected operator"
          else last ++ chars ": unexpected operator"))
      | .ok (a, _) => .ok a
    let whole (ws : List Octets) := finish (TestStep.disjunction p (8 * ws.length + 8) ws)
    let inside := ws.tail.dropLast
    match ws with
    | [a, op, b] =>
      if binaryTests.contains op then testTwo p a op b
      else if a = ['('] && b = [')'] then whole inside
      else if a = ['!'] then (shellTest p fuel [op, b]).map (!·)
      else whole ws
    | [a, b, c, d] =>
      if a = ['('] && d = [')'] then whole inside
      else if a = ['!'] then (shellTest p fuel [b, c, d]).map (!·)
      else whole ws
    | ws => whole ws

/-! ## Tests of the program -/

def quoted (a : Octets) : Octets := '\'' :: a ++ ['\'']

/-- What came of some words of a test, and the words after them. -/
abbrev ProgramStep := Except TestFault (Bool × List Octets)

namespace ProgramStep

def expected (a : Octets) (kind : String) : ProgramStep :=
  .error (.said (quoted a ++ chars (": " ++ kind ++ " operator expected")))

/-- Something is missing after the last word. -/
def beyond (last : Octets) : ProgramStep :=
  .error (.said (chars "missing argument after " ++ quoted last))

def isFlag (a : Octets) : Bool := a.head? = some '-' && a.length = 2

def unary (p : Process) (last : Octets) : List Octets → ProgramStep
  | op :: rest =>
    if !unaryTests.contains op then expected op "unary"
    else
      match rest with
      | [] => beyond last
      | a :: rest => .ok (testOne p op a, rest)
  | [] => beyond last

mutual

def disjunction (p : Process) (last : Octets) : (fuel : Nat) → List Octets → ProgramStep
  | 0, _ => beyond last
  | fuel + 1, ws => do
    let (a, ws) ← conjunction p last fuel ws
    match ws with
    | ['-', 'o'] :: ws =>
      let (b, ws) ← disjunction p last fuel ws
      return (a || b, ws)
    | ws => return (a, ws)

def conjunction (p : Process) (last : Octets) : (fuel : Nat) → List Octets → ProgramStep
  | 0, _ => beyond last
  | fuel + 1, ws => do
    let (a, ws) ← term p last fuel ws
    match ws with
    | ['-', 'a'] :: ws =>
      let (b, ws) ← conjunction p last fuel ws
      return (a && b, ws)
    | ws => return (a, ws)

def term (p : Process) (last : Octets) : (fuel : Nat) → List Octets → ProgramStep
  | 0, _ => beyond last
  | fuel + 1, ws => do
    match ws with
    | [] => beyond last
    | ['!'] :: rest =>
      let (a, rest) ← term p last fuel rest
      return (!a, rest)
    | ['('] :: rest =>
      if rest.isEmpty then beyond last
      else
        let inside := rest.tail.takeWhile (· ≠ [')'])
        let n := if inside.length < 3 then inside.length + 1 else rest.length
        let (a, rest) ← counted p last fuel n rest
        match rest with
        | [')'] :: rest => return (a, rest)
        | [] => throw (.said (chars "')' expected"))
        | b :: _ => throw (.said (chars "')' expected, found " ++ quoted b))
    | a :: op :: b :: rest =>
      if binaryTests.contains op then return (← testTwo p a op b, rest)
      else if isFlag a then unary p last ws
      else return (!a.isEmpty, op :: b :: rest)
    | a :: rest => if isFlag a then unary p last ws else return (!a.isEmpty, rest)

/-- A test of a number of words, where few words are read in a way of their own. -/
def counted (p : Process) (last : Octets) : (fuel : Nat) → (n : Nat) → List Octets → ProgramStep
  | 0, _, _ => beyond last
  | fuel + 1, n, ws => do
    match n, ws with
    | 1, a :: rest => return (!a.isEmpty, rest)
    | 2, ['!'] :: a :: rest => return (a.isEmpty, rest)
    | 2, op :: _ => if isFlag op then unary p last ws else beyond last
    | 3, a :: op :: b :: rest =>
      if binaryTests.contains op then return (← testTwo p a op b, rest)
      else if a = ['!'] then
        let (r, rest) ← counted p last fuel 2 (op :: b :: rest)
        return (!r, rest)
      else if a = ['('] && b = [')'] then return (!op.isEmpty, rest)
      else if op = ['-', 'a'] || op = ['-', 'o'] then disjunction p last fuel ws
      else expected op "binary"
    | 4, a :: b :: c :: d :: rest =>
      if a = ['!'] then
        let (r, rest) ← counted p last fuel 3 (b :: c :: d :: rest)
        return (!r, rest)
      else if a = ['('] && d = [')'] then
        let (r, rest) ← counted p last fuel 2 (b :: c :: d :: rest)
        return (r, rest.drop 1)
      else disjunction p last fuel ws
    | _, ws => disjunction p last fuel ws

end

end ProgramStep

/-- A whole test of the program. -/
def programTest (p : Process) (ws : List Octets) : TestAnswer :=
  if ws.isEmpty then .ok false
  else
    match ProgramStep.counted p (ws.getLast?.getD []) (8 * ws.length + 8) ws.length ws with
    | .error e => .error e
    | .ok (a, []) => .ok a
    | .ok (_, b :: _) => .error (.said (chars "extra argument " ++ quoted b))

/-- The status that a test leaves. -/
def testStatus (complain : Octets → Act Unit) (number : Octets → Octets) (r : TestAnswer) :
    Act Nat := do
  match r with
  | .ok true => return 0
  | .ok false => return 1
  | .error (.notNumber a) =>
    complain (number a)
    return 2
  | .error (.said text) =>
    complain text
    return 2

/-- The arguments in front of a closing bracket. A shell looks at the first character of the last
argument only. -/
def bracketed? (byShell : Bool) (args : List Octets) : Option (List Octets) :=
  match args.getLast? with
  | some (']' :: rest) => if byShell || rest.isEmpty then some args.dropLast else none
  | _ => none

def testByShell (complain : Octets → Act Unit) (args : List Octets) : Act Nat := do
  let p ← get
  testStatus complain (chars "Illegal number: " ++ ·) (shellTest p (args.length + 1) args)

def testByProgram (name : String) : Tool := fun args => do
  let p ← get
  let complain (cs : Octets) := Process.complain (chars (name ++ ": ") ++ cs)
  let run (args : List Octets) :=
    testStatus complain (fun a => chars "invalid integer " ++ quoted a) (programTest p args)
  if name = "[" then
    match bracketed? false args with
    | some args => run args
    | none =>
      complain (chars "missing ']'")
      return 2
  else run args

end Testbed.Lab
