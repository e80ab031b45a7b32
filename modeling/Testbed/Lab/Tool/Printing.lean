import Testbed.Lab.Script.Sum
import Testbed.Lab.Tool.Options
/-!
# Printing

Texts with backslashes, and formats with a place for each argument. A shell prints by itself, and
the system has programs of the same names: they differ in a few letters and in how they complain.
-/

namespace Testbed.Lab

open Text (Octets)
open Process (chars)

/-- Who prints. -/
inductive Printer where
  | shell
  | program
  deriving DecidableEq, Repr

/-! ## Backslashes -/

def isOctal (c : Char) : Bool := '0' ≤ c && c ≤ '7'

/-- A byte, of which only the last eight bits count. -/
def byte (n : Nat) : Char := Char.ofNat (n % 256)

/-- The character that a letter after a backslash stands for. -/
def escapeLetter? (c : Char) : Option Char :=
  match c with
  | '\\' => some '\\'
  | 'a' => some '\x07'
  | 'b' => some '\x08'
  | 'e' => some '\x1b'
  | 'f' => some '\x0c'
  | 'n' => some '\n'
  | 'r' => some '\r'
  | 't' => some '\t'
  | 'v' => some '\x0b'
  | _ => none

/-- What comes after a backslash in a format: a character and the rest. -/
def escapeOf (who : Printer) (cs : Octets) : Octets × Octets :=
  match cs with
  | [] => (['\\'], [])
  | c :: rest =>
    if isOctal c then
      let ds := (cs.take 3).takeWhile isOctal
      ([byte (Script.numberOf 8 ds)], cs.drop ds.length)
    else if c = 'x' && who = .program then
      let ds := (rest.take 2).takeWhile (Script.isDigitOf 16)
      if ds.isEmpty then (['\\', 'x'], rest)
      else ([byte (Script.numberOf 16 ds)], rest.drop ds.length)
    else if c = '"' && who = .program then (['"'], rest)
    else
      match escapeLetter? c with
      | some e => ([e], rest)
      | none => (['\\'], cs)

/-- A text with its backslashes worked out, and whether one of them ends everything. -/
def unescape (who : Printer) : (fuel : Nat) → Octets → Octets × Bool
  | 0, _ => ([], false)
  | _ + 1, [] => ([], false)
  | _ + 1, '\\' :: 'c' :: _ => ([], true)
  | fuel + 1, '\\' :: '0' :: rest =>
    let ds := (rest.take 3).takeWhile isOctal
    let r := unescape who fuel (rest.drop ds.length)
    (byte (Script.numberOf 8 ds) :: r.1, r.2)
  | fuel + 1, '\\' :: rest =>
    let (cs, rest) := escapeOf who rest
    let r := unescape who fuel rest
    (cs ++ r.1, r.2)
  | fuel + 1, c :: rest =>
    let r := unescape who fuel rest
    (c :: r.1, r.2)

def unescaped (who : Printer) (cs : Octets) : Octets × Bool := unescape who (cs.length + 1) cs

/-! ## Lines of arguments -/

def joined (args : List Octets) : Octets := [' '].intercalate args

/-- Prints arguments in which backslashes count, unless the first one asks for no line end. -/
def echoOfShell (args : List Octets) : Act Nat := do
  let (args, noLine) := match args with
    | ['-', 'n'] :: rest => (rest, true)
    | args => (args, false)
  let (cs, ended) := unescaped .shell (joined args)
  Process.say (if ended || noLine then cs else cs ++ ['\n'])
  return 0

def echoOfProgram (args : List Octets) : Act Nat := do
  let isFlag (a : Octets) : Bool :=
    a.head? = some '-' && 1 < a.length && a.tail.all (['n', 'e', 'E'].contains ·)
  let flags := (args.takeWhile isFlag).flatMap List.tail
  let escapes := (flags.filter (· ≠ 'n')).getLast? = some 'e'
  let cs := joined (args.dropWhile isFlag)
  let (cs, ended) := if escapes then unescaped .program cs else (cs, false)
  Process.say (if ended || flags.contains 'n' then cs else cs ++ ['\n'])
  return 0

/-! ## Formats -/

/-- A place in a format. -/
structure Spec where
  flags : List Char
  width : Nat
  left : Bool
  precision : Option Nat

/-- Fills a text up with blanks, or with zeros after its sign. -/
def Spec.pad (s : Spec) (zeros : Bool) (sign body : Octets) : Octets :=
  let missing := s.width - (sign.length + body.length)
  if s.left then sign ++ body ++ List.replicate missing ' '
  else if zeros then sign ++ List.replicate missing '0' ++ body
  else List.replicate missing ' ' ++ sign ++ body

def Spec.text (s : Spec) (cs : Octets) : Octets :=
  s.pad false [] (match s.precision with
    | some n => cs.take n
    | none => cs)

/-- The digits of a number in a base. -/
def digitsOf (base : Nat) (n : Nat) : Octets := Nat.toDigits base n

def Spec.digits (s : Spec) (sign : Octets) (n : Nat) (ds : Octets) : Octets :=
  let ds := if s.precision = some 0 && n = 0 then [] else ds
  let ds := List.replicate ((s.precision.getD 1) - ds.length) '0' ++ ds
  s.pad (s.flags.contains '0' && s.precision.isNone) sign ds

def Spec.signOf (s : Spec) (negative : Bool) : Octets :=
  if negative then ['-'] else if s.flags.contains '+' then ['+']
  else if s.flags.contains ' ' then [' '] else []

/-- A number in the way that a letter asks for. -/
def Spec.integer (s : Spec) (letter : Char) (n : Int) : Octets :=
  let natural := Script.Sum.bits n
  let alternative := s.flags.contains '#' && natural ≠ 0
  match letter with
  | 'o' =>
    let ds := digitsOf 8 natural
    s.digits [] natural (if alternative then '0' :: ds else ds)
  | 'x' => s.digits (if alternative then ['0', 'x'] else []) natural (digitsOf 16 natural)
  | 'X' =>
    s.digits (if alternative then ['0', 'X'] else []) natural
      ((digitsOf 16 natural).map Char.toUpper)
  | 'u' => s.digits [] natural (digitsOf 10 natural)
  | _ => s.digits (s.signOf (n < 0)) n.natAbs (digitsOf 10 n.natAbs)

/-- A number with a fraction: sign, digits without the point, and how many of them come after it. -/
structure Fraction where
  negative : Bool
  digits : Nat
  places : Nat

/-- The exponent at the start of a text, and what follows. -/
def leadingExponent (cs : Octets) : Int × Octets :=
  match cs with
  | e :: rest =>
    let (negative, ds) := match rest with
      | '-' :: ds => (true, ds)
      | '+' :: ds => (false, ds)
      | ds => (false, ds)
    let digits := ds.takeWhile Char.isDigit
    if (e = 'e' || e = 'E') && !digits.isEmpty then
      let n : Int := Script.numberOf 10 digits
      (if negative then -n else n, ds.drop digits.length)
    else (0, cs)
  | [] => (0, [])

/-- The number at the start of a text, if there is one, and what follows. -/
def leadingFraction (cs : Octets) : Option Fraction × Octets :=
  let (negative, ds) := match cs with
    | '-' :: ds => (true, ds)
    | '+' :: ds => (false, ds)
    | ds => (false, ds)
  let whole := ds.takeWhile Char.isDigit
  let (after, rest) := match ds.drop whole.length with
    | '.' :: rest => (rest.takeWhile Char.isDigit, rest.dropWhile Char.isDigit)
    | rest => ([], rest)
  if (whole ++ after).isEmpty then (none, cs)
  else
    let n := Script.numberOf 10 (whole ++ after)
    match leadingExponent rest with
    | (.ofNat e, rest) => (some ⟨negative, n * Nat.pow 10 e, after.length⟩, rest)
    | (.negSucc e, rest) => (some ⟨negative, n, after.length + e + 1⟩, rest)

def fraction? (cs : Octets) : Option Fraction :=
  match leadingFraction cs with
  | (some f, []) => some f
  | _ => none

/-- A quotient as a whole number, where a half goes to the even neighbour. -/
def nearest (n d : Nat) : Nat :=
  let (q, r) := (n / d, n % d)
  if d < 2 * r || (2 * r = d && q % 2 = 1) then q + 1 else q

/-- The nearest number with so many binary digits, as a quotient. -/
def Fraction.inBits (f : Fraction) (bits : Nat) : Nat × Nat :=
  let d := Nat.pow 10 f.places
  let length := f.digits.log2 + bits + 1
  let up := length - d.log2 - f.digits.log2
  let n := f.digits * Nat.pow 2 length
  let excess := (n / d).log2 + 1 - bits
  if up = 0 && excess = 0 then (f.digits, d)
  else (nearest n (d * Nat.pow 2 excess) * Nat.pow 2 excess, Nat.pow 2 length)

/-- A quotient with one digit before the point and so many after it, without the point, and the
power of ten that it is to be multiplied by. -/
def scientific (n d places : Nat) : Nat × Int :=
  if n = 0 then (0, 0)
  else
    let digits (k : Nat) : Nat := (digitsOf 10 k).length
    let (power, up) :=
      if d ≤ n then (((digits (n / d) - 1 : Nat) : Int), 0)
      else
        let up := digits ((d - 1) / n)
        (-(up : Int), up)
    let scaled := match power with
      | .ofNat k => nearest (n * Nat.pow 10 places) (d * Nat.pow 10 k)
      | .negSucc _ => nearest (n * Nat.pow 10 (places + up)) d
    if digits scaled ≤ places + 1 then (scaled, power)
    else (nearest scaled 10, power + 1)

/-- Digits with a point before the last so many of them. -/
def pointed (places n : Nat) : Octets :=
  let ds := digitsOf 10 n
  let ds := List.replicate (places + 1 - ds.length) '0' ++ ds
  let whole := ds.take (ds.length - places)
  if places = 0 then whole else whole ++ ['.'] ++ ds.drop whole.length

def exponentText (power : Int) : Octets :=
  let ds := digitsOf 10 power.natAbs
  (if power < 0 then '-' else '+') :: (if ds.length < 2 then '0' :: ds else ds)

/-- Digits without the zeros after a point that say nothing. -/
def unpadded (cs : Octets) : Octets :=
  if cs.contains '.' then
    let kept := (cs.reverse.dropWhile (· = '0')).reverse
    if kept.getLast? = some '.' then kept.dropLast else kept
  else cs

/-- A number with a fraction in the way that a letter asks for. -/
def Spec.fraction (s : Spec) (bits : Nat) (letter : Char) (f : Fraction) : Octets :=
  let (n, d) := f.inBits bits
  let places := s.precision.getD 6
  let fixed (places : Nat) : Octets := pointed places (nearest (n * Nat.pow 10 places) d)
  let withPower (places : Nat) (trim : Octets → Octets) : Octets :=
    let (digits, power) := scientific n d places
    trim (pointed places digits) ++ 'e' :: exponentText power
  let body := match letter.toLower with
    | 'f' => fixed places
    | 'e' => withPower places id
    | _ =>
      let places := max 1 places
      let trim := if s.flags.contains '#' then id else unpadded
      let (_, power) := scientific n d (places - 1)
      if -4 ≤ power && power < places then trim (fixed (places - 1 - power).toNat)
      else withPower (places - 1) trim
  s.pad (s.flags.contains '0') (s.signOf f.negative)
    (if letter.isUpper then body.map Char.toUpper else body)

inductive Said where
  | printed
  | complaint
  deriving DecidableEq

/-- How a format goes on. -/
structure Printing where
  /-- What was printed, and what was complained about, the last one first. -/
  done : List (Said × Octets)
  args : List Octets
  status : Nat
  /-- Whether nothing is to be printed any more. -/
  ended : Bool
  /-- What is wrong with the format itself. -/
  fault : Option Octets
  /-- Whether an argument was used. -/
  used : Bool

namespace Printing

def add (p : Printing) (cs : Octets) : Printing := { p with done := (.printed, cs) :: p.done }

/-- The next argument. -/
def take (p : Printing) : Option Octets × Printing :=
  (p.args.head?, { p with args := p.args.tail, used := true })

def complain (p : Printing) (cs : Octets) : Printing :=
  { p with done := (.complaint, cs) :: p.done, status := 1 }

/-- The number that an argument is, and what is wrong with it. -/
def number (who : Printer) (p : Printing) (arg : Octets) : Int × Printing :=
  match arg with
  | [] => (0, p)
  | c :: d :: _ =>
    if c = '"' || c = '\'' then (d.toNat, p) else numeric who p arg
  | _ => numeric who p arg
where
  numeric (who : Printer) (p : Printing) (arg : Octets) : Int × Printing :=
    let body := arg.dropWhile Script.isSpace
    let (negative, ds) := match body with
      | '-' :: ds => (true, ds)
      | '+' :: ds => (false, ds)
      | ds => (false, ds)
    let shown := match who with
      | .shell => arg
      | .program => '\'' :: arg ++ ['\'']
    if (ds.head?.map Char.isDigit).getD false then
      let (n, rest) := Script.leading ds
      let value : Int := if negative then -(n : Int) else n
      if !rest.isEmpty then
        (value, p.complain (shown ++ chars (match who with
          | .shell => ": not completely converted"
          | .program => ": value not completely converted")))
      else if Script.greatest < n then
        (if negative then -Script.greatest - 1 else Script.greatest,
          p.complain (shown ++ chars ": Numerical result out of range"))
      else (value, p)
    else
      (0, p.complain (shown ++ chars (match who with
        | .shell => ": expected numeric value"
        | .program => ": expected a numeric value")))

def fraction (who : Printer) (p : Printing) (arg : Octets) : Fraction × Printing :=
  match leadingFraction (arg.dropWhile Script.isSpace) with
  | (some f, []) => (f, p)
  | (some f, _) => (f, (p.number who arg).2)
  | (none, _) =>
    let (n, p) := p.number who arg
    (⟨n < 0, n.natAbs, 0⟩, p)

def fractionLetters : List Char := ['f', 'F', 'e', 'E', 'g', 'G']

/-- Prints an argument in the way that a letter asks for. -/
def place (who : Printer) (s : Spec) (letter : Char) (p : Printing) : Printing :=
  let (arg, p) := p.take
  match letter with
  | 's' => p.add (s.text (arg.getD []))
  | 'b' =>
    let (cs, ended) := unescaped who (arg.getD [])
    { p.add (s.text cs) with ended := ended }
  | 'c' => p.add (s.pad false [] [(arg.bind (·.head?)).getD '\x00'])
  | letter =>
    if fractionLetters.contains letter then
      let (f, p) := match arg with
        | some arg => p.fraction who arg
        | none => (⟨false, 0, 0⟩, p)
      p.add (s.fraction (if who = .shell then 53 else 64) letter f)
    else
      let (n, p) := match arg with
        | some arg => p.number who arg
        | none => (0, p)
      p.add (s.integer letter n)

/-- The width or precision that a format tells, or an argument. -/
def size (who : Printer) (p : Printing) (cs : Octets) : Option Int × Printing × Octets :=
  match cs with
  | '*' :: rest =>
    let (arg, p) := p.take
    let (n, p) := p.number who (arg.getD [])
    (some n, p, rest)
  | cs =>
    let ds := cs.takeWhile Char.isDigit
    (if ds.isEmpty then none else some (Script.numberOf 10 ds), p, cs.drop ds.length)

def letters : List Char :=
  ['b', 's', 'c', 'd', 'i', 'o', 'u', 'x', 'X'] ++ fractionLetters

/-- Prints what comes after a percent sign. -/
def directive (who : Printer) (p : Printing) (cs : Octets) : Printing × Octets :=
  let flags := cs.takeWhile (['#', '-', '+', ' ', '0'].contains ·)
  let (width, p, rest) := p.size who (cs.drop flags.length)
  let (precision, p, rest) := match rest with
    | '.' :: rest =>
      let (n, p, rest) := p.size who rest
      (some (n.getD 0).toNat, p, rest)
    | rest => (none, p, rest)
  let w := width.getD 0
  let s : Spec := ⟨flags, w.natAbs, flags.contains '-' || w < 0, precision⟩
  let mark := '%' :: cs.take (cs.length - rest.length)
  match rest with
  | [] =>
    ({ p with fault := some (match who with
        | .shell => chars "missing format character"
        | .program => mark ++ chars ": invalid conversion specification") }, [])
  | letter :: rest =>
    if letters.contains letter then (p.place who s letter, rest)
    else
      ({ p with fault := some (mark ++ [letter] ++ chars (match who with
          | .shell => ": invalid directive"
          | .program => ": invalid conversion specification")) }, [])

/-- Goes through a format once. -/
def once (who : Printer) : (fuel : Nat) → Octets → Printing → Printing
  | 0, _, p => p
  | _ + 1, [], p => p
  | fuel + 1, '%' :: '%' :: rest, p => once who fuel rest (p.add ['%'])
  | fuel + 1, '%' :: rest, p =>
    let (p, rest) := p.directive who rest
    if p.ended || p.fault.isSome then p else once who fuel rest p
  | fuel + 1, '\\' :: rest, p =>
    if rest.head? = some 'c' && who = .program then { p with ended := true }
    else
      let (cs, rest) := escapeOf who rest
      once who fuel rest (p.add cs)
  | fuel + 1, c :: rest, p => once who fuel rest (p.add [c])

/-- Goes through a format again as long as arguments are left that it uses. -/
def rounds (who : Printer) (format : Octets) : (fuel : Nat) → Printing → Printing
  | 0, p => p
  | fuel + 1, p =>
    let left := p.args.length
    let p := once who (format.length + 1) format p
    if p.ended || p.fault.isSome || p.args.isEmpty || p.args.length = left then p
    else rounds who format fuel p

end Printing

/-- Prints arguments in a format; complaints are made by whoever prints. A shell keeps what it
prints until it is through. -/
def printf (who : Printer) (complain : Octets → Act Unit) (format : Octets) (args : List Octets) :
    Act Nat := do
  let p := Printing.rounds who format (args.length + 1) ⟨[], args, 0, false, none, false⟩
  let excess := match who, p.ended || p.fault.isSome, p.args with
    | .program, false, a :: _ =>
      some (chars "warning: ignoring excess arguments, starting with '" ++ a ++ ['\''])
    | _, _, _ => none
  let last := (p.fault <|> excess).toList.map (Said.complaint, ·)
  let all := p.done.reverse ++ last
  let (complaints, prints) := all.partition (·.1 = .complaint)
  (if who = .shell then complaints ++ prints else all).forM fun (said, cs) =>
    match said with
    | .printed => Process.say cs
    | .complaint => complain cs
  return if p.fault.isNone then p.status else if who = .shell then 2 else 1

end Testbed.Lab
