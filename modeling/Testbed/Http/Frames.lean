/-!
# Streams of frames

An engine sends what a container writes to several streams as one. A frame is a byte for the stream,
three zeros, the number of bytes in four bytes, the highest first, and then those bytes. Where a
frame should start with a byte that is no stream the engine sends plain lines instead.

Main statement: frames that were written read back, whatever follows them (`decode_encode`).
-/

namespace Testbed.Http

inductive Stream where
  | stdin
  | stdout
  | stderr
  /-- A line without a header. -/
  | terminal
  deriving DecidableEq, Repr

structure Frame where
  stream : Stream
  bytes : List UInt8
  deriving DecidableEq, Repr

namespace Frame

/-- The byte for a stream; for the terminal there is none. -/
def code? : Stream → Option UInt8
  | .stdin => some 0
  | .stdout => some 1
  | .stderr => some 2
  | .terminal => none

def ofCode? (b : UInt8) : Option Stream :=
  if b = 0 then some .stdin
  else if b = 1 then some .stdout
  else if b = 2 then some .stderr
  else none

/-- A number below `2 ^ 32` in four bytes. -/
def sizeBytes (n : Nat) : List UInt8 :=
  [UInt8.ofNat (n / 0x1000000), UInt8.ofNat (n / 0x10000), UInt8.ofNat (n / 0x100), UInt8.ofNat n]

def size (a b c d : UInt8) : Nat :=
  ((a.toNat * 0x100 + b.toNat) * 0x100 + c.toNat) * 0x100 + d.toNat

def encode (f : Frame) : List UInt8 :=
  match code? f.stream with
  | some code => code :: 0 :: 0 :: 0 :: (sizeBytes f.bytes.length ++ f.bytes)
  | none => f.bytes

/-- Takes so many bytes off, if there are as many. -/
def takeExactly (n : Nat) (bytes : List UInt8) : Option (List UInt8 × List UInt8) :=
  if n ≤ bytes.length then some (bytes.take n, bytes.drop n) else none

/-- Takes a line off, with its end. -/
def takeLine : List UInt8 → Option (List UInt8 × List UInt8)
  | [] => none
  | b :: rest =>
    if b = 10 then some ([b], rest)
    else (takeLine rest).map fun r => (b :: r.1, r.2)

/-- Takes the first frame off, if all of it is there. -/
def take : List UInt8 → Option (Frame × List UInt8)
  | [] => none
  | b :: rest =>
    match ofCode? b with
    | none => (takeLine (b :: rest)).map fun r => (⟨.terminal, r.1⟩, r.2)
    | some stream =>
      match rest with
      | _ :: _ :: _ :: s :: t :: u :: v :: payload =>
        (takeExactly (size s t u v) payload).map fun r => (⟨stream, r.1⟩, r.2)
      | _ => none

/-- Whether bytes are a header and nothing else. -/
def isHeader (bytes : List UInt8) : Bool :=
  bytes.length = 8 && (bytes.head?.bind ofCode?).isSome

theorem length_of_takeLine {bytes : List UInt8} {line rest : List UInt8}
    (h : takeLine bytes = some (line, rest)) : rest.length < bytes.length := by
  induction bytes generalizing line rest with
  | nil => simp [takeLine] at h
  | cons b bytes ih =>
    simp only [takeLine] at h
    split at h
    · obtain ⟨_, rfl⟩ := Prod.mk.injEq .. ▸ Option.some.inj h
      simp
    · cases hl : takeLine bytes with
      | none => simp [hl] at h
      | some r =>
        obtain ⟨line', rest'⟩ := r
        simp only [hl, Option.map_some, Option.some.injEq, Prod.mk.injEq] at h
        obtain ⟨_, rfl⟩ := h
        have := ih hl
        simp only [List.length_cons]
        omega

theorem length_of_take {bytes : List UInt8} {f : Frame} {rest : List UInt8}
    (h : take bytes = some (f, rest)) : rest.length < bytes.length := by
  unfold take at h
  split at h
  · simp at h
  · split at h
    · simp only [Option.map_eq_some_iff, Prod.mk.injEq] at h
      obtain ⟨⟨line, rest'⟩, hl, _, rfl⟩ := h
      exact length_of_takeLine hl
    · split at h
      · simp only [Option.map_eq_some_iff, Prod.mk.injEq, takeExactly] at h
        obtain ⟨⟨a, b⟩, hl, _, rfl⟩ := h
        split at hl
        · obtain ⟨_, rfl⟩ := Prod.mk.injEq .. ▸ Option.some.inj hl
          simp only [List.length_cons, List.length_drop]
          omega
        · simp at hl
      · simp at h

/-- The frames of a stream, and what is left of one that is cut off. -/
def decode (bytes : List UInt8) : List Frame × List UInt8 :=
  match _h : take bytes with
  | none => ([], bytes)
  | some (f, rest) =>
    let r := decode rest
    (f :: r.1, r.2)
termination_by bytes.length
decreasing_by exact length_of_take _h

/-! ## Reading back -/

/-- A frame with a header that can be written. -/
def IsFramed (f : Frame) : Prop := f.stream ≠ .terminal ∧ f.bytes.length < 0x100000000

theorem size_sizeBytes {n : Nat} (h : n < 0x100000000) :
    size (.ofNat (n / 0x1000000)) (.ofNat (n / 0x10000)) (.ofNat (n / 0x100)) (.ofNat n) = n := by
  simp only [size, UInt8.toNat_ofNat']
  omega

theorem takeExactly_append (bytes rest : List UInt8) :
    takeExactly bytes.length (bytes ++ rest) = some (bytes, rest) := by
  simp [takeExactly]

theorem take_encode {f : Frame} (h : f.IsFramed) (rest : List UInt8) :
    take (f.encode ++ rest) = some (f, rest) := by
  obtain ⟨stream, bytes⟩ := f
  have taken := takeExactly_append bytes rest
  cases stream with
  | terminal => exact absurd rfl h.1
  | stdin | stdout | stderr =>
    have whole := size_sizeBytes h.2
    simp only [take, encode, code?, sizeBytes, List.cons_append, List.nil_append, whole, taken,
      Option.map_some]
    rfl

theorem decode_append {f : Frame} (h : f.IsFramed) (rest : List UInt8) :
    decode (f.encode ++ rest) = (f :: (decode rest).1, (decode rest).2) := by
  rw [decode]
  split
  · rename_i taken
    simp [take_encode h] at taken
  · rename_i taken
    rw [take_encode h] at taken
    obtain ⟨rfl, rfl⟩ := Prod.mk.injEq .. ▸ Option.some.inj taken
    rfl

theorem decode_encode (fs : List Frame) (h : ∀ f ∈ fs, f.IsFramed) :
    decode (fs.flatMap encode) = (fs, []) := by
  induction fs with
  | nil => simp [decode, take]
  | cons f fs ih =>
    rw [List.flatMap_cons, decode_append (h f List.mem_cons_self),
      ih fun g hg => h g (List.mem_cons_of_mem _ hg)]

end Frame

end Testbed.Http
