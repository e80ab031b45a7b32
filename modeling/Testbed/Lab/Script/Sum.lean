import Testbed.Text.Octets
/-!
# Sums

The arithmetic of scripts: whole numbers of 64 bits, which wrap around, with variables that may be
set on the way. A variable that is not set counts as zero.
-/

namespace Testbed.Lab.Script

open Text (Octets)

/-! ## Numbers -/

/-- A number in 64 bits. -/
def wrap (n : Int) : Int := Int.bmod n 18446744073709551616

def greatest : Int := 9223372036854775807

def isSpace (c : Char) : Bool := c = ' ' || ('\t' ≤ c && c ≤ '\r')

def digitValue (c : Char) : Nat :=
  if c.isDigit then c.toNat - '0'.toNat
  else if 'a' ≤ c && c ≤ 'z' then c.toNat - 'a'.toNat + 10
  else if 'A' ≤ c && c ≤ 'Z' then c.toNat - 'A'.toNat + 10
  else 99

def isDigitOf (base : Nat) (c : Char) : Bool := digitValue c < base

/-- The number that digits of a base stand for. -/
def numberOf (base : Nat) (cs : Octets) : Nat := cs.foldl (fun n c => n * base + digitValue c) 0

/-- The number at the start of a text, in the base that its first digits tell, and what follows. -/
def leading (cs : Octets) : Nat × Octets :=
  let digits (base : Nat) (cs : Octets) :=
    (numberOf base (cs.takeWhile (isDigitOf base)), cs.dropWhile (isDigitOf base))
  match cs with
  | '0' :: 'x' :: d :: rest | '0' :: 'X' :: d :: rest =>
    if isDigitOf 16 d then digits 16 (d :: rest) else (0, cs.drop 1)
  | '0' :: _ => digits 8 cs
  | _ => digits 10 cs

/-- The number that a text is, between blanks. In a sum its base is told by its first digits, and
blanks alone are zero. -/
def integer? (inSum : Bool) (cs : Octets) : Option Int :=
  let body := cs.dropWhile isSpace
  let (negative, ds) := match body with
    | '-' :: ds => (true, ds)
    | '+' :: ds => (false, ds)
    | ds => (false, ds)
  let (n, rest) := if inSum then leading ds
    else (numberOf 10 (ds.takeWhile Char.isDigit), ds.dropWhile Char.isDigit)
  let value : Int := if negative then -(n : Int) else n
  if body.isEmpty && inSum then some 0
  else if (ds.head?.map Char.isDigit).getD false && rest.all isSpace &&
      -greatest - 1 ≤ value && value ≤ greatest then some value
  else none

/-- A number that counts something. -/
def count? (cs : Octets) : Option Nat :=
  match integer? false cs with
  | some (.ofNat n) => if n < 0x80000000 then some n else none
  | _ => none

/-! ## Expressions -/

inductive Sum where
  | number (n : Int)
  | variable (name : String)
  | unary (op : String) (a : Sum)
  | binary (op : String) (a b : Sum)
  | choice (condition yes no : Sum)
  /-- Sets a variable, to a value that may be worked out from the one it has. -/
  | assign (name : String) (op : Option String) (value : Sum)
  deriving Repr

inductive SumFault where
  | illegal (text : Octets)
  | wrong (what : String)
  deriving DecidableEq, Repr

inductive SumToken where
  | number (n : Nat)
  | name (text : String)
  | op (text : String)
  deriving DecidableEq, Repr

/-- Longer operators come before those that they start with. -/
def operators : List String :=
  ["<<=", ">>=", "&&", "||", "<<", ">>", "<=", ">=", "==", "!=", "+=", "-=", "*=", "/=", "%=",
    "&=", "^=", "|=", "+", "-", "*", "/", "%", "<", ">", "=", "!", "~", "&", "^", "|", "?", ":",
    "(", ")"]

/-- The tokens of a sum, up to one that is none. -/
def sumTokens : (fuel : Nat) → Octets → List SumToken
  | 0, _ => []
  | _ + 1, [] => []
  | fuel + 1, c :: rest =>
    if isSpace c then sumTokens fuel rest
    else if c.isDigit then
      let (n, rest) := leading (c :: rest)
      .number n :: sumTokens fuel rest
    else if c.isAlpha || c = '_' then
      let isMore (c : Char) : Bool := c.isAlphanum || c = '_'
      .name (String.ofList (c :: rest.takeWhile isMore)) :: sumTokens fuel (rest.dropWhile isMore)
    else
      match operators.find? fun op => op.toList.isPrefixOf (c :: rest) with
      | some op => .op op :: sumTokens fuel ((c :: rest).drop op.length)
      | none => [.op "end"]

namespace Sum

abbrev Parse := List SumToken → Except SumFault (Sum × List SumToken)

/-- How tightly an operator of two numbers binds: the least binds first. -/
def rank? (op : String) : Option Nat :=
  match op with
  | "*" | "/" | "%" => some 0
  | "+" | "-" => some 1
  | "<<" | ">>" => some 2
  | "<" | ">" | "<=" | ">=" => some 3
  | "==" | "!=" => some 4
  | "&" => some 5
  | "^" => some 6
  | "|" => some 7
  | "&&" => some 8
  | "||" => some 9
  | _ => none

/-- The operator that an assignment applies before it sets. -/
def assigns? (op : String) : Option (Option String) :=
  match op with
  | "=" => some none
  | "==" | "!=" | "<=" | ">=" => none
  | _ =>
    if 2 ≤ op.length && op.toList.getLast? = some '=' then
      some (some (String.ofList op.toList.dropLast))
    else none

mutual

def assignment : (fuel : Nat) → Parse
  | 0, _ => .error (.wrong "too deep")
  | fuel + 1, ts => do
    match ts with
    | .name x :: .op op :: rest =>
      match assigns? op with
      | some change =>
        let (value, rest) ← assignment fuel rest
        return (.assign x change value, rest)
      | none => conditional fuel ts
    | ts => conditional fuel ts

def conditional : (fuel : Nat) → Parse
  | 0, _ => .error (.wrong "too deep")
  | fuel + 1, ts => do
    let (a, ts) ← primary fuel ts
    let (a, ts) ← binaries fuel 9 a ts
    match ts with
    | .op "?" :: ts =>
      let (b, ts) ← assignment fuel ts
      match ts with
      | .op ":" :: ts =>
        let (c, ts) ← conditional fuel ts
        return (.choice a b c, ts)
      | _ => throw (.wrong "expecting ':'")
    | ts => return (a, ts)

/-- Goes on with the operators that bind at least as tightly as a rank. -/
def binaries : (fuel : Nat) → (rank : Nat) → (before : Sum) → Parse
  | 0, _, _, _ => .error (.wrong "too deep")
  | fuel + 1, rank, before, ts => do
    match ts with
    | .op op :: rest =>
      match rank? op with
      | some r =>
        if rank < r then return (before, ts)
        else
          let (b, rest) ← primary fuel rest
          let (b, rest) ← if r = 0 then pure (b, rest) else binaries fuel (r - 1) b rest
          binaries fuel rank (.binary op before b) rest
      | none => return (before, ts)
    | ts => return (before, ts)

def primary : (fuel : Nat) → Parse
  | 0, _ => .error (.wrong "too deep")
  | fuel + 1, ts => do
    match ts with
    | .number n :: ts => return (.number n, ts)
    | .name x :: ts => return (.variable x, ts)
    | .op "(" :: ts =>
      let (a, ts) ← assignment fuel ts
      match ts with
      | .op ")" :: ts => return (a, ts)
      | _ => throw (.wrong "expecting ')'")
    | .op op :: ts =>
      if ["+", "-", "!", "~"].contains op then
        let (a, ts) ← primary fuel ts
        return (.unary op a, ts)
      else throw (.wrong "expecting primary")
    | [] => throw (.wrong "expecting primary")

end

def parse (source : Octets) : Except SumFault Sum := do
  let ts := sumTokens (source.length + 1) source
  let (sum, rest) ← assignment (12 * ts.length + 12) ts
  if rest.isEmpty then return sum else throw (.wrong "expecting EOF")

/-! ## Values -/

def ofBool (b : Bool) : Int := if b then 1 else 0

/-- A number as 64 bits. -/
def bits (n : Int) : Nat := (n % 18446744073709551616).toNat

/-- What an operator makes of two numbers. -/
def apply (op : String) (a b : Int) : Except SumFault Int :=
  match op with
  | "*" => .ok (wrap (a * b))
  | "/" => if b = 0 then .error (.wrong "division by zero") else .ok (wrap (Int.tdiv a b))
  | "%" => if b = 0 then .error (.wrong "division by zero") else .ok (wrap (Int.tmod a b))
  | "+" => .ok (wrap (a + b))
  | "-" => .ok (wrap (a - b))
  | "<<" => .ok (wrap (bits a <<< (bits b % 64) : Nat))
  | ">>" => .ok (a >>> (bits b % 64))
  | "<" => .ok (ofBool (a < b))
  | ">" => .ok (ofBool (a > b))
  | "<=" => .ok (ofBool (a ≤ b))
  | ">=" => .ok (ofBool (a ≥ b))
  | "==" => .ok (ofBool (a = b))
  | "!=" => .ok (ofBool (a ≠ b))
  | "&" => .ok (wrap (bits a &&& bits b : Nat))
  | "^" => .ok (wrap (bits a ^^^ bits b : Nat))
  | _ => .ok (wrap (bits a ||| bits b : Nat))

/-- The variables that were set on the way, the last one first. -/
abbrev Settings := List (String × Int)

/-- The value of a variable. -/
def lookUp (value? : String → Option Octets) (set : Settings) (x : String) : Except SumFault Int :=
  match set.lookup x with
  | some n => .ok n
  | none =>
    let text := (value? x).getD []
    match integer? true text with
    | some n => .ok n
    | none => .error (.illegal text)

/-- What a sum comes to. A choice works out only one of its sides, and so do `&&` and `||`. -/
def value (value? : String → Option Octets) : Sum → Settings → Except SumFault (Int × Settings)
  | .number n, set => .ok (min n greatest, set)
  | .variable x, set => do return (← lookUp value? set x, set)
  | .unary op a, set => do
    let (n, set) ← a.value value? set
    return (match op with
      | "-" => wrap (-n)
      | "!" => ofBool (n = 0)
      | "~" => -n - 1
      | _ => n, set)
  | .binary op a b, set => do
    let (x, set) ← a.value value? set
    if op = "&&" then
      if x = 0 then return (0, set)
      let (y, set) ← b.value value? set
      return (ofBool (y ≠ 0), set)
    else if op = "||" then
      if x ≠ 0 then return (1, set)
      let (y, set) ← b.value value? set
      return (ofBool (y ≠ 0), set)
    else
      let (y, set) ← b.value value? set
      return (← apply op x y, set)
  | .choice c a b, set => do
    let (x, set) ← c.value value? set
    if x ≠ 0 then a.value value? set else b.value value? set
  | .assign x op a, set => do
    let (n, set) ← a.value value? set
    let n ← match op with
      | none => pure n
      | some op => apply op (← lookUp value? set x) n
    return (n, (x, n) :: set)

/-- Works out a text. -/
def work (value? : String → Option Octets) (source : Octets) :
    Except SumFault (Int × Settings) := do
  (← parse source).value value? []

end Sum

end Testbed.Lab.Script
