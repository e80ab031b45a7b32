import Testbed.Text.Split
/-!
# Punycode

Text of any characters in letters, digits and hyphens. The plain characters come first, then, after
a hyphen, where the others have to be put in, in ascending order of their numbers. Each of these
places is a number of digits in base 36 whose last digit lies below a threshold; the thresholds
adapt to how far apart the places are.
-/

namespace Testbed.Domain.Punycode

def digitChar (d : Nat) : Char :=
  if d < 26 then Char.ofNat ('a'.toNat + d) else Char.ofNat ('0'.toNat + (d - 26))

def digitValue? (c : Char) : Option Nat :=
  if 'a' ≤ c ∧ c ≤ 'z' then some (c.toNat - 'a'.toNat)
  else if 'A' ≤ c ∧ c ≤ 'Z' then some (c.toNat - 'A'.toNat)
  else if '0' ≤ c ∧ c ≤ '9' then some (c.toNat - '0'.toNat + 26)
  else none

def isPlain (c : Char) : Bool := c.toNat < 0x80

/-- Below which value a digit is the last one of its number, given 36 times its position. -/
def threshold (position bias : Nat) : Nat :=
  if position ≤ bias then 1 else if bias + 26 ≤ position then 26 else position - bias

theorem threshold_pos (position bias : Nat) : 0 < threshold position bias := by
  unfold threshold
  split
  · decide
  · split <;> omega

theorem threshold_le (position bias : Nat) : threshold position bias ≤ 26 := by
  unfold threshold
  split
  · decide
  · split <;> omega

/-- Divides by 35 as long as a number is large, and counts 36 for each time. -/
def shrink (delta position : Nat) : Nat × Nat :=
  if 455 < delta then shrink (delta / 35) (position + 36) else (delta, position)
termination_by delta

/-- The next bias, after a number that put in the last of so many characters. -/
def adapt (delta count : Nat) (first : Bool) : Nat :=
  let delta := if first then delta / 700 else delta / 2
  let (delta, position) := shrink (delta + delta / count) 0
  position + 36 * delta / (delta + 38)

/-! ## Writing -/

/-- The digits of a number. -/
def digits (bias position n : Nat) : List Char :=
  let t := threshold position bias
  if n < t then [digitChar n]
  else digitChar (t + (n - t) % (36 - t)) :: digits bias (position + 36) ((n - t) / (36 - t))
termination_by n
decreasing_by
  have := threshold_pos position bias
  have := Nat.div_le_self (n - threshold position bias) (36 - threshold position bias)
  omega

/-- A writer: what it wrote, how many places it passed since, how many characters it put in, and
the bias. -/
structure Writer where
  written : List Char
  passed : Nat
  count : Nat
  bias : Nat

/-- Goes over a character of the text while the places of one number are written. -/
def Writer.step (plain n : Nat) (w : Writer) (c : Char) : Writer :=
  if c.toNat < n then { w with passed := w.passed + 1 }
  else if c.toNat = n then
    { written := w.written ++ digits w.bias 36 w.passed
      passed := 0
      count := w.count + 1
      bias := adapt w.passed (w.count + 1) (w.count = plain) }
  else w

/-- Writes the places of all numbers, which are ascending, from a number on. -/
def writeFrom (text : List Char) (plain : Nat) : (from_ : Nat) → List Nat → Writer → Writer
  | _, [], w => w
  | from_, n :: rest, w =>
    let w := { w with passed := w.passed + (n - from_) * (w.count + 1) }
    let w := text.foldl (Writer.step plain n) w
    writeFrom text plain (n + 1) rest { w with passed := w.passed + 1 }

/-- The numbers of the characters that are not plain, each once. -/
def foreignNumbers (text : List Char) : List Nat :=
  (((text.filter fun c => !isPlain c).map Char.toNat).mergeSort fun a b => decide (a ≤ b)).eraseDups

def encode (text : List Char) : List Char :=
  let plain := text.filter isPlain
  let w := writeFrom text plain.length 0x80 (foreignNumbers text) ⟨[], 0, plain.length, 72⟩
  plain ++ (if plain.isEmpty then [] else ['-']) ++ w.written

/-! ## Reading -/

/-- The number that digits start with, and what follows it. -/
def readNumber (bias : Nat) : (position weight : Nat) → List Char → Option (Nat × List Char)
  | _, _, [] => none
  | position, weight, c :: rest => do
    let d ← digitValue? c
    let t := threshold position bias
    if d < t then return (d * weight, rest)
    else
      let (n, rest) ← readNumber bias (position + 36) (weight * (36 - t)) rest
      return (d * weight + n, rest)

/-- The character of a number, if there is one. -/
def char? (n : Nat) : Option Char := if n.isValidChar then some (Char.ofNat n) else none

/-- Puts characters in, from a place and a number on. Each takes at least one of the digits, so
there are no more of them than the fuel. -/
def readFrom : (fuel bias n place : Nat) → (text : List Char) → List Char → Option (List Char)
  | _, _, _, _, text, [] => some text
  | 0, _, _, _, _, _ => none
  | fuel + 1, bias, n, place, text, cs => do
    let (passed, rest) ← readNumber bias 36 1 cs
    let count := text.length + 1
    let place' := place + passed
    let n := n + place' / count
    let c ← char? n
    readFrom fuel (adapt passed count (place = 0)) n (place' % count + 1)
      (text.insertIdx (place' % count) c) rest

/-- What stands before the last hyphen and after it. Without a hyphen, or if the only one stands
first, all is after it. -/
def cutLast (cs : List Char) : List Char × List Char :=
  let after := (cs.reverse.takeWhile (· ≠ '-')).reverse
  let before := cs.take (cs.length - after.length - 1)
  if before.isEmpty then ([], cs) else (before, after)

def decode? (cs : List Char) : Option (List Char) :=
  let (plain, places) := cutLast cs
  if plain.all isPlain then readFrom places.length 72 0x80 0 plain places else none

end Testbed.Domain.Punycode
