/-!
# Lengths of time

A duration is a whole number of nanoseconds. `Duration.text` writes it in the largest unit of
seconds, milliseconds, microseconds and nanoseconds that it fills, with as many decimals as needed.
-/

namespace Testbed

structure Duration where
  nanos : Nat
  deriving DecidableEq, Repr, Inhabited

namespace Duration

def zero : Duration := ⟨0⟩

def ofSecs (n : Nat) : Duration := ⟨n * 1000000000⟩

def ofMillis (n : Nat) : Duration := ⟨n * 1000000⟩

/-- The whole seconds of a duration; the rest is cut off. -/
def secs (d : Duration) : Nat := d.nanos / 1000000000

/-- The whole milliseconds of a duration; the rest is cut off. -/
def millis (d : Duration) : Nat := d.nanos / 1000000

instance : Add Duration := ⟨fun a b => ⟨a.nanos + b.nanos⟩⟩

theorem secs_ofSecs (n : Nat) : (ofSecs n).secs = n := by
  simp [ofSecs, secs]

/-- The `places` decimals of `n / 10 ^ places`, without the zeros at the end. -/
def decimals (n places : Nat) : List Char :=
  let digits := Nat.toDigits 10 n
  (List.replicate (places - digits.length) '0' ++ digits).reverse.dropWhile (· = '0') |>.reverse

/-- A number with `10 ^ places` parts to the unit. -/
def amount (n places : Nat) : String :=
  let whole := n / Nat.pow 10 places
  match decimals (n % Nat.pow 10 places) places with
  | [] => toString whole
  | ds => toString whole ++ "." ++ String.ofList ds

def text (d : Duration) : String :=
  if 1000000000 ≤ d.nanos then amount d.nanos 9 ++ "s"
  else if 1000000 ≤ d.nanos then amount d.nanos 6 ++ "ms"
  else if 1000 ≤ d.nanos then amount d.nanos 3 ++ "µs"
  else amount d.nanos 0 ++ "ns"

end Duration

end Testbed
