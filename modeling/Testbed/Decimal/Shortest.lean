/-!
# The shortest decimal that reads back

A positive binary floating point number is `m * 2 ^ q`. Every real between its lower and its upper
neighbour's midpoint reads back as it (the midpoints too, if `m` is even). `shortest` is the decimal
with the fewest digits in that interval, and of several the one nearest to the number.

`text` writes a number in positional form where its leading digit stands between the fifth decimal
and the sixteenth place, and with an exponent elsewhere.
-/

namespace Testbed.Decimal

/-- A positive number `mantissa * 2 ^ exponent`. A `ragged` one is the least of its binade, so that
its lower neighbour is only half as far away as its upper one. -/
structure Binary where
  mantissa : Nat
  exponent : Int
  ragged : Bool

/-- A decimal `digits * 10 ^ power`. -/
structure Scaled where
  digits : Nat
  power : Int
  deriving DecidableEq, Repr

def pow2 (n : Int) : Nat := Nat.pow 2 n.toNat

def pow10 (n : Int) : Nat := Nat.pow 10 n.toNat

namespace Binary

/-- The numerator of a number in quarters of its last place. -/
def num (b : Binary) : Nat := 4 * b.mantissa * pow2 b.exponent

def den (b : Binary) : Nat := 4 * pow2 (-b.exponent)

/-- How far below and above the number the midpoints are, over `den`. -/
def below (b : Binary) : Nat := (if b.ragged then 1 else 2) * pow2 b.exponent

def above (b : Binary) : Nat := 2 * pow2 b.exponent

/-- Whether a decimal reads back as the number. -/
def holds (b : Binary) (d : Scaled) : Bool :=
  let x := d.digits * pow10 d.power * b.den
  let scale := pow10 (-d.power)
  let low := (b.num - b.below) * scale
  let high := (b.num + b.above) * scale
  if b.mantissa % 2 = 0 then low ≤ x && x ≤ high else low < x && x < high

/-- The power of ten of the leading digit. -/
def magnitude (b : Binary) : Int :=
  let e : Int := (Nat.toDigits 10 b.num).length - (Nat.toDigits 10 b.den).length
  if pow10 e * b.den ≤ b.num * pow10 (-e) then e else e - 1

/-- The decimal with at most `places` digits that is nearest among the two next to the number, if
any of these reads back. -/
def nearest? (b : Binary) (places : Nat) : Option Scaled :=
  let power := b.magnitude - (places - 1 : Int)
  let n := b.num * pow10 (-power)
  let d := b.den * pow10 power
  let down : Scaled := ⟨n / d, power⟩
  let up : Scaled := ⟨n / d + 1, power⟩
  match b.holds down, b.holds up with
  | true, true => some (if 2 * (n % d) ≤ d then down else up)
  | true, false => some down
  | false, true => some up
  | false, false => none

/-- Seventeen digits always suffice. -/
def shortest (b : Binary) : Scaled :=
  ((List.range 17).findSome? fun i => b.nearest? (i + 1)).getD ⟨b.mantissa, 0⟩

end Binary

/-- The digits without the zeros at the end, and the power of ten of the leading one. -/
def Scaled.canonical (d : Scaled) : List Char × Int :=
  let ds := Nat.toDigits 10 d.digits
  ((ds.reverse.dropWhile (· = '0')).reverse, d.power + (ds.length - 1 : Int))

def zeros (n : Int) : List Char := List.replicate n.toNat '0'

/-- An exponent always has a sign. -/
def exponentText (e : Int) : List Char :=
  'e' :: (if e < 0 then '-' else '+') :: Nat.toDigits 10 e.natAbs

def Scaled.chars (d : Scaled) : List Char :=
  let (ds, e) := d.canonical
  if 0 ≤ e ∧ e ≤ 15 then
    let whole := ds.take (e.toNat + 1) ++ zeros (e + 1 - ds.length)
    let fraction := ds.drop (e.toNat + 1)
    whole ++ '.' :: (if fraction.isEmpty then ['0'] else fraction)
  else if -5 ≤ e ∧ e < 0 then
    '0' :: '.' :: (zeros (-e - 1) ++ ds)
  else
    match ds with
    | [] => ['0']
    | [x] => x :: exponentText e
    | x :: rest => x :: '.' :: (rest ++ exponentText e)

/-- The number with the given 64 bits, if it is neither zero, infinite nor undefined. -/
def Binary.ofBits? (bits : Nat) : Option Binary :=
  let fraction : Nat := bits % pow2 52
  let biased : Nat := bits / pow2 52 % 2048
  if biased = 2047 ∨ (biased = 0 ∧ fraction = 0) then none
  else if biased = 0 then some ⟨fraction, -1074, false⟩
  else some ⟨pow2 52 + fraction, (biased : Int) - 1075, fraction == 0 && biased != 1⟩

/-- Finite floating point numbers as text. -/
def text (x : Float) : String :=
  let bits := x.toBits.toNat
  let sign := if bits < pow2 63 then [] else ['-']
  match Binary.ofBits? bits with
  | some b => String.ofList (sign ++ b.shortest.chars)
  | none => String.ofList (sign ++ ['0', '.', '0'])

end Testbed.Decimal
