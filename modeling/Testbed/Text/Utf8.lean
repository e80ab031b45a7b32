/-!
# Bytes read as UTF-8

`scan` reads a byte string from left to right and keeps at most one unfinished character. Where the
bytes read so far cannot go on to a character it reports one fault for all of them and looks at the
offending byte afresh. `lossy` writes the replacement character for every fault, `strict?` refuses
text that has any.
-/

namespace Testbed.Text.Utf8

/-- A character of which some bytes are still to come: the bits read so far, how many bytes are
missing, and the range in which the next one has to lie. -/
structure Pending where
  bits : Nat
  missing : Nat
  low : UInt8
  high : UInt8

/-- What a byte does when no character is unfinished: it is a character, it starts one, or it is a
fault (`none`). -/
def start (b : UInt8) : List (Option Char) × Option Pending :=
  if b < 0x80 then ([some (Char.ofNat b.toNat)], none)
  else if 0xC2 ≤ b && b ≤ 0xDF then ([], some ⟨(b &&& 0x1F).toNat, 1, 0x80, 0xBF⟩)
  else if b == 0xE0 then ([], some ⟨(b &&& 0x0F).toNat, 2, 0xA0, 0xBF⟩)
  else if b == 0xED then ([], some ⟨(b &&& 0x0F).toNat, 2, 0x80, 0x9F⟩)
  else if 0xE1 ≤ b && b ≤ 0xEF then ([], some ⟨(b &&& 0x0F).toNat, 2, 0x80, 0xBF⟩)
  else if b == 0xF0 then ([], some ⟨(b &&& 0x07).toNat, 3, 0x90, 0xBF⟩)
  else if 0xF1 ≤ b && b ≤ 0xF3 then ([], some ⟨(b &&& 0x07).toNat, 3, 0x80, 0xBF⟩)
  else if b == 0xF4 then ([], some ⟨(b &&& 0x07).toNat, 3, 0x80, 0x8F⟩)
  else ([none], none)

/-- One byte more. -/
def step (p : Option Pending) (b : UInt8) : List (Option Char) × Option Pending :=
  match p with
  | none => start b
  | some p =>
    if p.low ≤ b && b ≤ p.high then
      let bits := p.bits * 64 + (b &&& 0x3F).toNat
      if p.missing ≤ 1 then ([some (Char.ofNat bits)], none)
      else ([], some ⟨bits, p.missing - 1, 0x80, 0xBF⟩)
    else
      let (out, next) := start b
      (none :: out, next)

/-- The characters of a byte string; `none` stands for a fault. -/
def scanFrom : Option Pending → List UInt8 → List (Option Char)
  | none, [] => []
  | some _, [] => [none]
  | p, b :: rest => (step p b).1 ++ scanFrom (step p b).2 rest

def scan (bytes : List UInt8) : List (Option Char) := scanFrom none bytes

def replacement : Char := Char.ofNat 0xFFFD

/-- Every fault becomes one replacement character. -/
def lossy (bytes : List UInt8) : String :=
  String.ofList ((scan bytes).map fun c => c.getD replacement)

/-- The text, if the bytes have no fault. -/
def strict? (bytes : List UInt8) : Option String :=
  ((scan bytes).mapM id).map String.ofList

end Testbed.Text.Utf8
