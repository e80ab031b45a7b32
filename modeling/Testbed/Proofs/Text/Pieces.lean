import Mathlib.Data.List.Induction
import Testbed.Text.Utf8
/-!
# Text that arrives in pieces

Bytes that arrive in pieces can be read when they are together, or each piece as it comes. The texts
are the same just if no cut between two pieces is inside a character, where the first bytes of a
character count as one even if the rest is missing (`join_lossy_iff`). Otherwise the pieces give
more characters than the bytes have (`length_lossy_of_not_whole`).
-/

namespace Testbed.Text.Utf8

/-- What is read of some bytes if more may follow: the characters that are settled, and the one that
is unfinished. -/
def advance (p : Option Pending) : List UInt8 → List (Option Char) × Option Pending
  | [] => ([], p)
  | b :: rest =>
    let next := advance (step p b).2 rest
    ((step p b).1 ++ next.1, next.2)

theorem scanFrom_append (p : Option Pending) (as bs : List UInt8) :
    scanFrom p (as ++ bs) = (advance p as).1 ++ scanFrom (advance p as).2 bs := by
  induction as generalizing p with
  | nil => rfl
  | cons b as ih =>
    rw [List.cons_append, scanFrom, ih, advance, List.append_assoc]

/-! ## Bytes that go on a character -/

namespace Pending

variable {p q : Pending} {b : UInt8}

/-- The byte goes on the unfinished character. -/
def Takes (p : Pending) (b : UInt8) : Prop := p.low ≤ b ∧ b ≤ p.high

/-- No byte that goes on the character starts one. -/
def Sound (p : Pending) : Prop := 0x80 ≤ p.low ∧ p.high ≤ 0xBF

theorem Sound.start (sound : p.Sound) (takes : p.Takes b) : start b = ([none], none) := by
  have low : 0x80 ≤ b := UInt8.le_trans sound.1 takes.1
  have high : b ≤ 0xBF := UInt8.le_trans takes.2 sound.2
  have ascii : ¬b < 0x80 := UInt8.not_lt.2 low
  have below {c : UInt8} (lead : 0xBF < c) : ¬c ≤ b :=
    UInt8.not_le.2 (UInt8.lt_of_le_of_lt high lead)
  have apart {c : UInt8} (lead : 0xBF < c) : ¬b = c :=
    fun same => below lead (same ▸ UInt8.le_refl b)
  simp [Utf8.start, ascii, below, apart]

theorem start_sound (begun : (Utf8.start b).2 = some p) : p.Sound := by
  unfold Utf8.start at begun
  repeat' split at begun
  all_goals cases begun <;> exact ⟨by simp, by simp⟩

theorem step_of_takes (takes : p.Takes b) : (∃ ch, step (some p) b = ([some ch], none)) ∨
    ∃ q : Pending, q.Sound ∧ step (some p) b = ([], some q) := by
  have inside : (p.low ≤ b && b ≤ p.high) = true := by simpa [Takes] using takes
  unfold step
  simp only [inside, if_true]
  split
  · exact .inl ⟨_, rfl⟩
  · exact .inr ⟨_, ⟨by simp, by simp⟩, rfl⟩

theorem step_of_not_takes (refused : ¬p.Takes b) :
    step (some p) b = (none :: (Utf8.start b).1, (Utf8.start b).2) := by
  have outside : (p.low ≤ b && b ≤ p.high) = false := by simpa [Takes] using refused
  unfold step
  simp [outside]

theorem step_sound {before : Option Pending} (sound : ∀ q, before = some q → q.Sound)
    (after : (step before b).2 = some p) : p.Sound := by
  cases before with
  | none => exact start_sound after
  | some q =>
    by_cases takes : q.Takes b
    · rcases step_of_takes takes with ⟨ch, eq⟩ | ⟨r, sound_r, eq⟩
      · rw [eq] at after
        cases after
      · rw [eq] at after
        cases after
        exact sound_r
    · rw [step_of_not_takes takes] at after
      exact start_sound after

/-- What is unfinished after some bytes is sound. -/
theorem advance_sound {bytes : List UInt8} {before : Option Pending}
    (sound : ∀ q, before = some q → q.Sound) (after : (advance before bytes).2 = some p) :
    p.Sound := by
  induction bytes generalizing before with
  | nil => exact sound p after
  | cons b rest ih => exact ih (fun q stepped => step_sound sound stepped) after

end Pending

/-! ## One cut -/

variable {p : Pending} {b : UInt8} {rest as bs : List UInt8}

theorem scan_of_takes (sound : p.Sound) (takes : p.Takes b) :
    scan (b :: rest) = none :: scan rest := by
  rw [scan, scanFrom, step, sound.start takes]
  rfl

/-- What refuses to go on a character is read as if it came alone. -/
theorem scanFrom_of_not_takes (refused : ¬p.Takes b) :
    scanFrom (some p) (b :: rest) = none :: scan (b :: rest) := by
  rw [scanFrom, Pending.step_of_not_takes refused]
  rfl

theorem length_scanFrom_of_takes (takes : p.Takes b)
    (bound : ∀ q : Pending, q.Sound → (scanFrom (some q) rest).length ≤ (scan rest).length + 1) :
    (scanFrom (some p) (b :: rest)).length ≤ (scan rest).length + 1 := by
  rw [scanFrom]
  rcases Pending.step_of_takes takes with ⟨ch, eq⟩ | ⟨q, sound, eq⟩
  · rw [eq]
    exact Nat.le_refl _
  · rw [eq]
    exact bound q sound

/-- Bytes behind an unfinished character make at most one character more than alone. -/
theorem length_scanFrom (sound : p.Sound) :
    (scanFrom (some p) bs).length ≤ (scan bs).length + 1 := by
  induction bs generalizing p with
  | nil => exact Nat.le_refl _
  | cons b rest ih =>
    by_cases takes : p.Takes b
    · rw [scan_of_takes sound takes]
      exact Nat.le_succ_of_le (length_scanFrom_of_takes takes fun q sound => ih sound)
    · rw [scanFrom_of_not_takes takes]
      exact Nat.le_refl _

/-- The cut between the bytes is inside a character. -/
def Splits (as bs : List UInt8) : Prop :=
  ∃ p b rest, (advance none as).2 = some p ∧ bs = b :: rest ∧ p.Takes b

theorem scan_eq_advance (as : List UInt8) :
    scan as = (advance none as).1 ++ scanFrom (advance none as).2 [] := by
  rw [← scanFrom_append, List.append_nil]
  rfl

theorem scan_append (uncut : ¬Splits as bs) : scan (as ++ bs) = scan as ++ scan bs := by
  rw [scan, scanFrom_append, scan_eq_advance as, List.append_assoc]
  congr 1
  cases unfinished : (advance none as).2 with
  | none => rfl
  | some p =>
    cases bs with
    | nil => rfl
    | cons b rest =>
      exact scanFrom_of_not_takes fun takes => uncut ⟨p, b, rest, unfinished, rfl, takes⟩

/-- A character that is cut is read as more than one. -/
theorem length_scan_append (splits : Splits as bs) :
    (scan (as ++ bs)).length < (scan as).length + (scan bs).length := by
  obtain ⟨p, b, rest, unfinished, rfl, takes⟩ := splits
  have sound : p.Sound := Pending.advance_sound (fun q none => by cases none) unfinished
  have fewer : (scanFrom (some p) (b :: rest)).length ≤ (scan rest).length + 1 :=
    length_scanFrom_of_takes takes fun q sound => length_scanFrom sound
  rw [scan, scanFrom_append, scan_eq_advance as, unfinished, scan_of_takes sound takes]
  have cut : (scanFrom (some p) []).length = 1 := rfl
  simp only [List.length_append, List.length_cons, cut]
  omega

theorem scan_append_le (as bs : List UInt8) :
    (scan (as ++ bs)).length ≤ (scan as).length + (scan bs).length := by
  by_cases splits : Splits as bs
  · exact Nat.le_of_lt (length_scan_append splits)
  · rw [scan_append splits]
    exact Nat.le_of_eq List.length_append

/-! ## Many cuts -/

/-- No cut between two pieces is inside a character. -/
def Whole (pieces : List (List UInt8)) : Prop :=
  ∀ before after, pieces = before ++ after → ¬Splits before.flatten after.flatten

theorem Splits.append {cs : List UInt8} (splits : Splits as bs) : Splits as (bs ++ cs) := by
  obtain ⟨p, b, rest, unfinished, rfl, takes⟩ := splits
  exact ⟨p, b, rest ++ cs, unfinished, rfl, takes⟩

theorem length_lossy (bytes : List UInt8) : (lossy bytes).length = (scan bytes).length := by
  simp [lossy]

theorem lossy_append (uncut : ¬Splits as bs) : lossy (as ++ bs) = lossy as ++ lossy bs := by
  simp [lossy, scan_append uncut]

/-- The pieces never make fewer characters than the bytes have. -/
theorem length_lossy_flatten (pieces : List (List UInt8)) :
    (lossy pieces.flatten).length ≤ (String.join (pieces.map lossy)).length := by
  induction pieces with
  | nil => exact Nat.le_refl _
  | cons piece rest ih =>
    have fewer := scan_append_le piece rest.flatten
    rw [List.flatten_cons, List.map_cons, String.join_cons, String.length_append]
    rw [length_lossy] at ih ⊢
    rw [length_lossy]
    exact Nat.le_trans fewer (Nat.add_le_add_left ih _)

/-- If a character is cut, they make more. -/
theorem length_lossy_of_not_whole {pieces : List (List UInt8)} (cut : ¬Whole pieces) :
    (lossy pieces.flatten).length < (String.join (pieces.map lossy)).length := by
  simp only [Whole, not_forall, not_not] at cut
  obtain ⟨before, after, rfl, splits⟩ := cut
  have first := length_lossy_flatten before
  have second := length_lossy_flatten after
  have fewer := length_scan_append splits
  rw [List.map_append, String.join_append, String.length_append, List.flatten_append, length_lossy]
  rw [length_lossy] at first second
  omega

theorem Whole.init {init : List (List UInt8)} {last : List UInt8}
    (whole : Whole (init ++ [last])) : Whole init := by
  rintro before after rfl splits
  refine whole before (after ++ [last]) (List.append_assoc ..) ?_
  rw [List.flatten_append]
  exact splits.append

theorem Whole.join_lossy {pieces : List (List UInt8)} (whole : Whole pieces) :
    String.join (pieces.map lossy) = lossy pieces.flatten := by
  induction pieces using List.reverseRecOn with
  | nil => rfl
  | append_singleton init last ih =>
    have uncut : ¬Splits init.flatten last := by simpa using whole init [last] rfl
    rw [List.map_append, String.join_append, ih whole.init, List.flatten_append]
    simp [lossy_append uncut]

/-- Pieces that are read as they come make the text of all bytes together just if no character is
cut. -/
theorem join_lossy_iff (pieces : List (List UInt8)) :
    String.join (pieces.map lossy) = lossy pieces.flatten ↔ Whole pieces := by
  refine ⟨fun same => ?_, Whole.join_lossy⟩
  by_contra cut
  have more := length_lossy_of_not_whole cut
  rw [same] at more
  exact Nat.lt_irrefl _ more

end Testbed.Text.Utf8
