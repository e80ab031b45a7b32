import Testbed.Domain.Name
import Testbed.Text.Percent
import Testbed.Text.Utf8
/-!
# Hosts

A host is a name or a number. Numbers of 32 bits are written as up to four decimal, octal or
hexadecimal numbers with dots between them; numbers of 128 bits as pieces of 16 bits in brackets,
where one gap may stand for a run of zeros. `Host.text` is the one form in which a host is sent.
-/

namespace Testbed.Http

/-- What is wrong with an address. -/
inductive AddressFault where
  | noScheme
  | noHost
  | badName
  | badPort
  | badCharacter
  | badFour
  | badSix
  deriving DecidableEq, Repr

inductive Host where
  | named (name : String)
  | four (n : BitVec 32)
  /-- Eight pieces of 16 bits. -/
  | six (pieces : List Nat)
  deriving DecidableEq, Repr

namespace Host

open Text

/-! ## Numbers of 32 bits -/

def isOctal (c : Char) : Bool := '0' ≤ c && c ≤ '7'

/-- Digits in a base, unless one of them is none. -/
def inBase? (base : Nat) (isDigit : Char → Bool) (ds : List Char) : Option Nat :=
  if ds.all isDigit then
    some (ds.foldl (fun n c => n * base + (Uuid.digitValue? c).getD 0) 0)
  else none

/-- A number after `0x` is hexadecimal, one after another zero octal. -/
def number? : List Char → Option Nat
  | [] => none
  | '0' :: 'x' :: ds | '0' :: 'X' :: ds => inBase? 16 isHexDigit ds
  | '0' :: d :: ds => inBase? 8 isOctal (d :: ds)
  | ds => inBase? 10 Char.isDigit ds

/-- The parts of a name; a dot at its end is not counted. -/
def parts (name : List Char) : List (List Char) :=
  let ps := split '.' name
  if 1 < ps.length && ps.getLast? = some [] then ps.dropLast else ps

/-- A name whose last part is a number cannot be looked up. -/
def endsInNumber (name : List Char) : Bool :=
  match (parts name).getLast? with
  | some last => (!last.isEmpty && last.all Char.isDigit) || (number? last).isSome
  | none => false

/-- The last number fills all the bytes that the ones before it leave. -/
def four? (name : List Char) : Option (BitVec 32) := do
  let ns ← (parts name).mapM number?
  let last ← ns.getLast?
  let before := ns.dropLast
  if 4 < ns.length || before.any (255 < ·) || Nat.pow 256 (4 - before.length) ≤ last then none
  else
    let high := before.foldl (fun n byte => n * 256 + byte) 0
    some (BitVec.ofNat 32 (high * Nat.pow 256 (4 - before.length) + last))

def fourText (n : BitVec 32) : String :=
  ".".intercalate ([24, 16, 8, 0].map fun shift => toString ((n.toNat >>> shift) % 256))

/-! ## Numbers of 128 bits -/

/-- A byte in decimal digits, without zeros before it. -/
def byte? (ds : List Char) : Option Nat :=
  if ds.isEmpty || (1 < ds.length && ds.head? = some '0') then none
  else (inBase? 10 Char.isDigit ds).filter (· ≤ 255)

/-- Two pieces that are written as four bytes. -/
def quad? (cs : List Char) : Option (List (Option Nat)) :=
  match (split '.' cs).mapM byte? with
  | some [a, b, c, d] => some [some (a * 256 + b), some (c * 256 + d)]
  | _ => none

/-- The pieces from one on, where `none` is a gap. The fuel bounds how many there are. -/
def piecesFrom : (fuel : Nat) → (count : Nat) → List Char → Option (List (Option Nat))
  | _, _, [] => some []
  | 0, _, _ => none
  | fuel + 1, count, ':' :: rest => do return none :: (← piecesFrom fuel (count + 1) rest)
  | fuel + 1, count, cs => do
    let ds := (cs.takeWhile isHexDigit).take 4
    match cs.drop ds.length with
    | [] => return [some (hexValue ds)]
    | '.' :: _ => if ds.isEmpty || 6 < count then none else quad? cs
    | ':' :: next :: rest =>
      if ds.isEmpty then none
      else return some (hexValue ds) :: (← piecesFrom fuel (count + 1) (next :: rest))
    | _ => none

/-- Fills the gap, if there is one, up to eight pieces. -/
def fill? (pieces : List (Option Nat)) : Option (List Nat) :=
  let before := pieces.takeWhile Option.isSome
  match pieces.dropWhile Option.isSome with
  | [] => if pieces.length = 8 then pieces.mapM id else none
  | _ :: after =>
    if 8 < pieces.length then none
    else (before ++ List.replicate (9 - pieces.length) (some 0) ++ after).mapM id

def six? (cs : List Char) : Option (List Nat) := do
  let pieces ← match cs with
    | [] => none
    | ':' :: ':' :: rest => piecesFrom 8 0 (':' :: rest)
    | ':' :: _ => none
    | cs => piecesFrom 8 0 cs
  fill? pieces

/-- How many zeros the pieces start with. -/
def zeroRun (pieces : List Nat) : Nat := (pieces.takeWhile (· = 0)).length

/-- Where the first of the longest runs of zeros starts, and how long it is. -/
def longestRun : (place : Nat) → List Nat → Nat × Nat
  | place, [] => (place, 0)
  | place, n :: rest =>
    let here := zeroRun (n :: rest)
    let later := longestRun (place + 1) rest
    if later.2 ≤ here then (place, here) else later

/-- Two zeros or more are left out, once. -/
def sixText (pieces : List Nat) : String :=
  let hex (ns : List Nat) : List Char :=
    [':'].intercalate (ns.map (Nat.toDigits 16))
  let (place, length) := longestRun 0 pieces
  String.ofList
    (if length < 2 then hex pieces
    else hex (pieces.take place) ++ [':', ':'] ++ hex (pieces.drop (place + length)))

/-! ## Hosts -/

/-- What is written in brackets is a number. -/
def bracketed? (cs : List Char) : Option (Except AddressFault Host) :=
  if cs.head? ≠ some '[' then none
  else if cs.getLast? ≠ some ']' then some (.error .badSix)
  else
    match six? (cs.drop 1).dropLast with
    | some pieces => some (.ok (.six pieces))
    | none => some (.error .badSix)

/-- The host that is meant where names are looked up. -/
def ofChars (cs : List Char) : Except AddressFault Host :=
  match bracketed? cs with
  | some host => host
  | none =>
    match Domain.ofText? (Utf8.lossy (Percent.decode cs)).toList with
    | none => .error .badName
    | some name =>
      if name.isEmpty then .error .noHost
      else if endsInNumber name then
        match four? name with
        | some n => .ok (.four n)
        | none => .error .badFour
      else .ok (.named (String.ofList name))

/-- What no name may hold, even where nobody looks it up. -/
def isNeverInName (c : Char) : Bool :=
  ['\x00', '\t', '\n', '\r', ' ', '#', '/', ':', '<', '>', '?', '@', '[', '\\', ']', '^',
    '|'].contains c

/-- A control or a character beyond ASCII is written byte by byte. -/
def isWritten (c : Char) : Bool := 0x20 ≤ c.toNat && c.toNat ≤ 0x7E

/-- The host that is meant where names are taken as they are; no name is no host. -/
def ofUnknown (cs : List Char) : Except AddressFault (Option Host) :=
  match bracketed? cs with
  | some host => host.map some
  | none =>
    if cs.any isNeverInName then .error .badCharacter
    else if cs.isEmpty then .ok none
    else .ok (some (.named (String.ofList (Percent.encode isWritten cs))))

def text : Host → String
  | .named name => name
  | .four n => fourText n
  | .six pieces => "[" ++ sixText pieces ++ "]"

end Host

end Testbed.Http
