import Testbed.Lab.Tool.Lines
import Testbed.Text.Base64
/-!
# Bytes as text

Tools that write the bytes of a text down: in base 64, or row by row as numbers or characters.
-/

namespace Testbed.Lab

open Text (Octets)
open Process (chars)

/-! ## Base 64 -/

/-- The bytes that characters of base 64 stand for, up to one that does not belong there, and
whether there was none. -/
def base64Bytes : Octets → Octets × Bool
  | a :: b :: c :: d :: rest =>
    let value? (x : Char) : Option Nat := Text.Base64.alphabet.idxOf? x
    match value? a, value? b, value? c, value? d with
    | some i, some j, some k, some l =>
      let n := ((i * 64 + j) * 64 + k) * 64 + l
      let r := base64Bytes rest
      (byte (n / 65536) :: byte (n / 256) :: byte n :: r.1, r.2)
    | some i, some j, some k, none =>
      let n := (i * 64 + j) * 64 + k
      ([byte (n / 1024), byte (n / 4)], d = '=' && rest.isEmpty)
    | some i, some j, none, none =>
      ([byte ((i * 64 + j) / 16)], c = '=' && d = '=' && rest.isEmpty)
    | _, _, _, _ => ([], false)
  | rest => ([], rest.isEmpty)

/-- Rows of so many characters. -/
def rowsOf (width : Nat) (cs : Octets) : List Octets :=
  (List.range ((cs.length + width - 1) / width)).map fun i => (cs.drop (i * width)).take width

def base64 : Tool := withOptions "base64" 1
    ⟨"di", "w", [("decode", 'd'), ("wrap", 'w'), ("ignore-garbage", 'i')]⟩ fun o => do
  match o.operands with
  | _ :: extra :: _ => misused "base64" 1 (chars "extra operand '" ++ extra ++ ['\''])
  | operands =>
    let path := operands.headD ['-']
    match ← Process.contents path, o.value? 'w' |>.map Script.count? with
    | .error e, _ =>
      complainOf "base64" path e
      return 1
    | _, some none =>
      Process.fail 1 (chars "base64: invalid wrap size: '" ++ (o.value? 'w').getD [] ++ ['\''])
    | .ok cs, width =>
      if o.has 'd' then
        let (out, isGood) := base64Bytes (cs.filter (· ≠ '\n'))
        Process.say out
        if isGood then return 0 else Process.fail 1 (chars "base64: invalid input")
      else
        let text := Text.Base64.encode (Text.Octets.toBytes cs)
        match width with
        | some (some 0) => Process.say text
        | width => (rowsOf ((width.getD none).getD 76) text).forM Process.sayLine
        return 0

/-! ## Rows of bytes -/

/-- How the bytes of a row are written: how many make up a number, and its width. -/
inductive Cell where
  | named
  | number (base bytes width : Nat) (zeros : Bool)
  | signed

namespace Cell

/-- The text of a byte that is written as a character. -/
def nameOf (c : Char) : Octets :=
  match c with
  | '\x00' => ['\\', '0']
  | '\x07' => ['\\', 'a']
  | '\x08' => ['\\', 'b']
  | '\t' => ['\\', 't']
  | '\n' => ['\\', 'n']
  | '\x0b' => ['\\', 'v']
  | '\x0c' => ['\\', 'f']
  | '\r' => ['\\', 'r']
  | c =>
    if ' ' ≤ c && c ≤ '~' then [c]
    else
      let ds := digitsOf 8 c.toNat
      List.replicate (3 - ds.length) '0' ++ ds

def filled (fill : Char) (width : Nat) (cs : Octets) : Octets :=
  List.replicate (width - cs.length) fill ++ cs

def row (cell : Cell) (cs : Octets) : Octets :=
  match cell with
  | .named => cs.flatMap fun c => filled ' ' 4 (nameOf c)
  | .signed => cs.flatMap fun c =>
      let n := c.toNat
      filled ' ' 5 (if n < 128 then digitsOf 10 n else '-' :: digitsOf 10 (256 - n))
  | .number base bytes width zeros =>
    (rowsOf bytes cs).flatMap fun part =>
      let n := part.reverse.foldl (fun n c => n * 256 + c.toNat) 0
      ' ' :: filled (if zeros then '0' else ' ') width (digitsOf base n)

/-- The cells that a type such as `x1` asks for. -/
def ofType? (cs : Octets) : Option Cell :=
  match String.ofList (if cs.getLast? = some 'z' then cs.dropLast else cs) with
  | "c" => some .named
  | "x1" => some (.number 16 1 2 true)
  | "x2" => some (.number 16 2 4 true)
  | "x" | "x4" => some (.number 16 4 8 true)
  | "o1" => some (.number 8 1 3 true)
  | "o2" => some (.number 8 2 6 true)
  | "u1" => some (.number 10 1 3 false)
  | "u2" => some (.number 10 2 5 false)
  | "d1" => some .signed
  | _ => none

end Cell

/-- Writes rows with the place of each; rows that repeat the one before are only hinted at. -/
def dumpRows (cell : Cell) (place : Nat → Octets) (all : Bool) :
    (start : Nat) → (before : Option Octets) → (hinted : Bool) → List Octets → Octets
  | _, _, _, [] => []
  | start, before, hinted, row :: rest =>
    let goOn (hinted : Bool) := dumpRows cell place all (start + row.length) (some row) hinted rest
    if !all && before = some row && !rest.isEmpty then
      (if hinted then [] else ['*', '\n']) ++ goOn true
    else place start ++ cell.row row ++ '\n' :: goOn false

def od : Tool := withOptions "od" 1 ⟨"bcxvo", "AtNj", []⟩ fun o => do
  let cell? := match o.value? 't' with
    | some t => Cell.ofType? t
    | none =>
      if o.has 'c' then some .named
      else if o.has 'b' then some (.number 8 1 3 true)
      else if o.has 'x' then some (.number 16 2 4 true)
      else some (.number 8 2 6 true)
  match cell? with
  | none =>
    let t := (o.value? 't').getD []
    Process.fail 1 (chars "od: invalid character '" ++ t.take 1 ++ chars "' in type string '" ++
      t ++ ['\''])
  | some cell =>
    let (status, cs) ← allText "od" 1 o.operands
    let size (c : Char) : Option Nat := (o.value? c).bind Script.count?
    let skipped := (size 'j').getD 0
    let cs := cs.drop skipped
    let cs := match size 'N' with
      | some n => cs.take n
      | none => cs
    let place (n : Nat) : Octets :=
      match (o.value? 'A').bind List.head? with
      | some 'n' => []
      | some 'x' => Cell.filled '0' 6 (digitsOf 16 n)
      | some 'd' => Cell.filled '0' 7 (digitsOf 10 n)
      | _ => Cell.filled '0' 7 (digitsOf 8 n)
    Process.say (dumpRows cell place (o.has 'v') skipped none false (rowsOf 16 cs))
    if (o.value? 'A').bind List.head? ≠ some 'n' && status = 0 then
      Process.sayLine (place (skipped + cs.length))
    return status

end Testbed.Lab
