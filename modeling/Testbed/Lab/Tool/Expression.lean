import Testbed.Lab.Tool.Lines
import Testbed.Lab.Tool.Regex
/-!
# Expressions in arguments

Works out an expression of which every number, text and operator is an argument of its own. The
status tells whether the value is something else than nothing and zero.
-/

namespace Testbed.Lab

open Text (Octets)
open Process (chars)

namespace Expression

inductive Fault where
  | missing (after : Octets)
  | unexpected (a : Octets)
  | unclosed (after : Octets)
  | nonInteger
  | byZero
  | regex (e : RegexFault)

def Fault.text : Fault → Octets
  | .missing after => chars "syntax error: missing argument after '" ++ after ++ ['\'']
  | .unexpected a => chars "syntax error: unexpected argument '" ++ a ++ ['\'']
  | .unclosed after => chars "syntax error: expecting ')' after '" ++ after ++ ['\'']
  | .nonInteger => chars "non-integer argument"
  | .byZero => chars "division by zero"
  | .regex e => chars e.text

/-- What is left of the arguments, and the one before it. -/
structure Reading where
  rest : List Octets
  before : Octets

abbrev Read (α : Type) := StateT Reading (Except Fault) α

def number? (cs : Octets) : Option Int :=
  let (negative, ds) := match cs with
    | '-' :: ds => (true, ds)
    | ds => (false, ds)
  if ds.isEmpty || !ds.all Char.isDigit then none
  else
    let n : Int := Script.numberOf 10 ds
    some (if negative then -n else n)

def ofInt (n : Int) : Octets := (toString n).toList

/-- Neither nothing nor zero. -/
def isTrue (cs : Octets) : Bool :=
  let ds := match cs with
    | '-' :: ds => ds
    | ds => ds
  !(cs.isEmpty || (!ds.isEmpty && ds.all (· = '0')))

def accept (ops : List String) : Read (Option String) := do
  let r ← get
  match r.rest with
  | a :: rest =>
    match ops.find? fun op => op.toList = a with
    | some op =>
      set (⟨rest, a⟩ : Reading)
      return some op
    | none => return none
  | [] => return none

def takeOne : Read Octets := do
  let r ← get
  match r.rest with
  | a :: rest =>
    set (⟨rest, a⟩ : Reading)
    return a
  | [] => throw (.missing r.before)

/-- What an expression matches at the start of a text: its first group, or how much it is. -/
def matching (cs pattern : Octets) : Except Fault Octets :=
  match Regex.read ⟨false, false⟩ pattern with
  | .error e => .error (.regex e)
  | .ok (r, read) =>
    let groups := read.groups
    let spot := Regex.Spot.ofOctets cs
    match Regex.longest? ⟨false, false⟩ r spot with
    | some last =>
      .ok (if 0 < groups then Regex.groupOf spot last 1 else digitsOf 10 last.pos)
    | none => .ok (if 0 < groups then [] else ['0'])

def compareValues (op : String) (a b : Octets) : Octets :=
  let order := match number? a, number? b with
    | some x, some y => compare x y
    | _, _ => compareTexts a b
  let holds : Bool := match op with
    | "<" => order = .lt
    | "<=" => order ≠ .gt
    | "=" | "==" => order = .eq
    | "!=" => order ≠ .eq
    | ">=" => order ≠ .lt
    | _ => order = .gt
  if holds then ['1'] else ['0']

def arithmetic (op : String) (a b : Octets) : Except Fault Octets :=
  match number? a, number? b with
  | some x, some y =>
    match op with
    | "+" => .ok (ofInt (x + y))
    | "-" => .ok (ofInt (x - y))
    | "*" => .ok (ofInt (x * y))
    | "/" => if y = 0 then .error .byZero else .ok (ofInt (Int.tdiv x y))
    | _ => if y = 0 then .error .byZero else .ok (ofInt (Int.tmod x y))
  | _, _ => .error .nonInteger

def substring (cs : Octets) (start length : Octets) : Octets :=
  match number? start, number? length with
  | some s, some n => if s < 1 || n < 1 then [] else (cs.drop (s.toNat - 1)).take n.toNat
  | _, _ => []

/-- The operators of each rank, from the one that binds least on. -/
def ranks : List (List String) :=
  [["|"], ["&"], ["<", "<=", "=", "==", "!=", ">=", ">"], ["+", "-"], ["*", "/", "%"], [":"]]

def apply (op : String) (a b : Octets) : Except Fault Octets :=
  match op with
  | "|" => .ok (if isTrue a then a else if isTrue b then b else ['0'])
  | "&" => .ok (if isTrue a && isTrue b then a else ['0'])
  | ":" => matching a b
  | "+" | "-" | "*" | "/" | "%" => arithmetic op a b
  | _ => .ok (compareValues op a b)

mutual

/-- An expression with operators from a rank on. -/
def ranked : (fuel : Nat) → (rank : Nat) → Read Octets
  | 0, _ => throw .nonInteger
  | fuel + 1, rank => do
    match ranks[rank]? with
    | none => word fuel
    | some ops => chain fuel ops (rank + 1) (← ranked fuel (rank + 1))

def chain : (fuel : Nat) → (ops : List String) → (rank : Nat) → (before : Octets) → Read Octets
  | 0, _, _, _ => throw .nonInteger
  | fuel + 1, ops, rank, before => do
    match ← accept ops with
    | none => return before
    | some op =>
      let b ← ranked fuel rank
      chain fuel ops rank (← apply op before b)

def word : (fuel : Nat) → Read Octets
  | 0 => throw .nonInteger
  | fuel + 1 => do
    match ← accept ["+", "length", "match", "index", "substr", "("] with
    | some "+" => takeOne
    | some "length" => return digitsOf 10 (← word fuel).length
    | some "match" =>
      let a ← word fuel
      let b ← word fuel
      matching a b
    | some "index" =>
      let a ← word fuel
      let b ← word fuel
      return digitsOf 10 ((a.findIdx? b.contains).map (· + 1) |>.getD 0)
    | some "substr" =>
      let a ← word fuel
      let b ← word fuel
      let c ← word fuel
      return substring a b c
    | some _ =>
      let v ← ranked fuel 0
      match ← accept [")"] with
      | some _ => return v
      | none =>
        match (← get).rest with
        | [] => throw (.unclosed (← get).before)
        | a :: _ => throw (.unexpected a)
    | none =>
      match (← get).rest with
      | [')'] :: _ => throw (.unexpected [')'])
      | _ => takeOne

end

def value (args : List Octets) : Except Fault Octets := do
  let (v, r) ← (ranked (12 * args.length + 12) 0).run ⟨args, []⟩
  match r.rest with
  | a :: _ => throw (.unexpected a)
  | [] => return v

end Expression

def expr : Tool := fun args => do
  let args := match args with
    | ['-', '-'] :: rest => rest
    | args => args
  if args.isEmpty then misused "expr" 2 (chars "missing operand")
  else
    match Expression.value args with
    | .ok v =>
      Process.sayLine v
      return if Expression.isTrue v then 0 else 1
    | .error e => Process.fail 2 (chars "expr: " ++ e.text)

end Testbed.Lab
