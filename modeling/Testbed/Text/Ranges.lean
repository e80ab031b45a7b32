import Testbed.Text.Split
import Testbed.Uuid
/-!
# Tables of code points

Properties of characters are kept as lines of text: runs of code points in ascending order,
separated by blanks. A run is its first code point, a hyphen and its last one, both hexadecimal, or
only the one code point that it consists of. A note may follow, which starts with a mark.
-/

namespace Testbed.Text

/-- Code points from the first to the last, and what is noted about them. -/
structure Run where
  first : Nat
  last : Nat
  note : List Char

def isHexDigit (c : Char) : Bool := (Uuid.digitValue? c).isSome

/-- The number that hexadecimal digits stand for. -/
def hexValue (ds : List Char) : Nat :=
  ds.foldl (fun n c => n * 16 + (Uuid.digitValue? c).getD 0) 0

def Run.ofChars (cs : List Char) : Run :=
  let first := hexValue (cs.takeWhile isHexDigit)
  match cs.dropWhile isHexDigit with
  | '-' :: rest => ⟨first, hexValue (rest.takeWhile isHexDigit), rest.dropWhile isHexDigit⟩
  | note => ⟨first, first, note⟩

structure Ranges where
  runs : Array Run

namespace Ranges

def ofLines (lines : List String) : Ranges :=
  ⟨(lines.flatMap fun line => (split ' ' line.toList).map Run.ofChars).toArray⟩

/-- How many of the runs from `lo` on and before `hi` start at or before a code point, with those
before `lo` counted in. Each round halves the part that is left. -/
def countUpTo (r : Ranges) (n : Nat) : (rounds lo hi : Nat) → Nat
  | 0, lo, _ => lo
  | rounds + 1, lo, hi =>
    if lo < hi then
      let mid := (lo + hi) / 2
      match r.runs[mid]? with
      | some run =>
        if run.first ≤ n then r.countUpTo n rounds (mid + 1) hi else r.countUpTo n rounds lo mid
      | none => lo
    else lo

/-- More rounds than any table needs. -/
def rounds : Nat := 21

/-- The run that a code point lies in. -/
def find? (r : Ranges) (n : Nat) : Option Run :=
  match r.countUpTo n rounds 0 r.runs.size with
  | 0 => none
  | k + 1 => r.runs[k]?.filter (n ≤ ·.last)

def contains (r : Ranges) (n : Nat) : Bool := (r.find? n).isSome

end Ranges

end Testbed.Text
