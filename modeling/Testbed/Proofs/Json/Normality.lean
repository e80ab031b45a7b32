import Mathlib.Data.List.Nodup
import Testbed.Proofs.Json.Reading
/-!
# What a shape gives

`Shape.Reads` are the values that a shape gives off any document, well written or not. Whole numbers
keep to their range (`reads_whole`), and what a value is made of was read as well or filled in:
the items of a list, the members of a table, the fields of a record in declared order.
-/

namespace Testbed.Json

variable {s : Shape} {j : Json} {rest ts : List Token}

/-- The shape gives the value, whatever it was written as. -/
def Shape.Reads (s : Shape) (j : Json) : Prop := ∃ ts rest, s.reader ts = .ok (j, rest)

/-- What follows a success is what the whole comes to. -/
theorem of_bind_ok {ε α β : Type} {x : Except ε α} {f : α → Except ε β} {b : β}
    (h : (x >>= f) = .ok b) : ∃ a, x = .ok a ∧ f a = .ok b := by
  cases x with
  | error e => cases h
  | ok a => exact ⟨a, rfl, h⟩

namespace Shape

theorem reads_whole {range : Range} (reads : (whole range).Reads j) :
    ∃ n, j = .number n ∧ range.low ≤ n ∧ n ≤ range.high := by
  obtain ⟨ts, rest, read⟩ := reads
  rw [reader] at read
  unfold readWhole at read
  split at read
  · split at read
    · rename_i i _
      split at read
      · rename_i bounds
        cases read
        exact ⟨i, rfl, bounds⟩
      · cases read
    · cases read
  · cases read

theorem reads_maybe (reads : (maybe s).Reads j) : j = .null ∨ s.Reads j := by
  obtain ⟨ts, rest, read⟩ := reads
  rw [reader] at read
  unfold readNullOr at read
  split at read
  · cases read
    exact .inl rfl
  · exact .inr ⟨_, _, read⟩

end Shape

/-! ## Lists and tables -/

theorem mem_readItems {fuel : Nat} {first : Bool} {js : List Json}
    (read : readItems s.reader fuel first ts = .ok (js, rest)) : ∀ j ∈ js, s.Reads j := by
  induction fuel generalizing first ts js with
  | zero => cases read
  | succ fuel ih =>
    rw [readItems] at read
    obtain ⟨next, -, read⟩ := of_bind_ok read
    cases next with
    | none =>
      cases read
      simp
    | some ts =>
      obtain ⟨⟨j, ts'⟩, item, read⟩ := of_bind_ok read
      obtain ⟨⟨js', ts''⟩, later, read⟩ := of_bind_ok read
      cases read
      intro k mem
      rcases List.mem_cons.1 mem with rfl | mem
      · exact ⟨_, _, item⟩
      · exact ih later k mem

theorem mem_readEntries {fuel : Nat} {first : Bool} {ms : List (String × Json)}
    (read : readEntries s.reader fuel first ts = .ok (ms, rest)) : ∀ m ∈ ms, s.Reads m.2 := by
  induction fuel generalizing first ts ms with
  | zero => cases read
  | succ fuel ih =>
    rw [readEntries] at read
    obtain ⟨next, -, read⟩ := of_bind_ok read
    cases next with
    | none =>
      cases read
      simp
    | some named =>
      obtain ⟨ts', -, read⟩ := of_bind_ok read
      obtain ⟨⟨j, ts''⟩, item, read⟩ := of_bind_ok read
      obtain ⟨⟨ms', ts'''⟩, later, read⟩ := of_bind_ok read
      cases read
      intro m mem
      rcases List.mem_cons.1 mem with rfl | mem
      · exact ⟨_, _, item⟩
      · exact ih later m mem

namespace Shape

theorem reads_list (reads : (list s).Reads j) : ∃ js, j = .list js ∧ ∀ j ∈ js, s.Reads j := by
  obtain ⟨ts, rest, read⟩ := reads
  simp only [reader] at read
  split at read
  · obtain ⟨⟨js, rest'⟩, items, read⟩ := of_bind_ok read
    cases read
    exact ⟨js, rfl, mem_readItems items⟩
  · cases read

theorem reads_table (reads : (table s).Reads j) :
    ∃ ms, j = .object (NameMap.ofList ms).entries ∧ ∀ m ∈ ms, s.Reads m.2 := by
  obtain ⟨ts, rest, read⟩ := reads
  simp only [reader] at read
  split at read
  · obtain ⟨⟨ms, rest'⟩, members, read⟩ := of_bind_ok read
    cases read
    exact ⟨ms, rfl, mem_readEntries members⟩
  · cases read

end Shape

/-! ## Records -/

/-- A field has been read or filled in. -/
def Field.Holds (f : Field) (j : Json) : Prop := f.2.1.Reads j ∨ f.2.2 = some j

theorem mem_readMembers {readers : List FieldReader} {fuel : Nat} {first : Bool}
    {seen ms : List (String × Json)} (read : readMembers readers fuel first seen ts = .ok (ms, rest)) :
    ∀ m ∈ ms, m ∈ seen ∨ ∃ r ts rest, readers.find? (·.name = m.1) = some r ∧
      r.read ts = .ok (m.2, rest) := by
  induction fuel generalizing first ts seen with
  | zero => cases read
  | succ fuel ih =>
    rw [readMembers] at read
    obtain ⟨next, -, read⟩ := of_bind_ok read
    cases next with
    | none =>
      cases read
      exact fun m mem => .inl mem
    | some named =>
      obtain ⟨name, ts'⟩ := named
      dsimp only at read
      split at read
      · obtain ⟨ts', -, read⟩ := of_bind_ok read
        obtain ⟨ts', -, read⟩ := of_bind_ok read
        exact ih read
      · rename_i r found
        split at read
        · cases read
        · obtain ⟨ts', -, read⟩ := of_bind_ok read
          obtain ⟨⟨j, ts''⟩, value, read⟩ := of_bind_ok read
          intro m mem
          rcases ih read m mem with mem | later
          · rcases List.mem_append.1 mem with mem | mem
            · exact .inl mem
            · cases List.mem_singleton.1 mem
              exact .inr ⟨r, _, _, found, value⟩
          · exact .inr later

/-- The reader gives the member of its name, or fills it in. -/
def FieldReader.Gives (r : FieldReader) (m : String × Json) : Prop :=
  r.name = m.1 ∧ ((∃ ts rest, r.read ts = .ok (m.2, rest)) ∨ r.default = some m.2 ∨
    r.omitted = some m.2)

theorem completeMembers_gives {seen ms : List (String × Json)} {readers : List FieldReader}
    (complete : completeMembers seen readers = .ok ms)
    (known : ∀ r ∈ readers, ∀ m ∈ seen, m.1 = r.name → ∃ ts rest, r.read ts = .ok (m.2, rest)) :
    List.Forall₂ FieldReader.Gives readers ms := by
  induction readers generalizing ms with
  | nil =>
    cases complete
    exact .nil
  | cons r readers ih =>
    have later {ms} (complete : completeMembers seen readers = .ok ms) :
        List.Forall₂ FieldReader.Gives readers ms :=
      ih complete fun r mem => known r (List.mem_cons_of_mem _ mem)
    rw [completeMembers] at complete
    split at complete
    · rename_i j _ found
      obtain ⟨rest, remaining, complete⟩ := of_bind_ok complete
      cases complete
      obtain ⟨m, member, rfl⟩ := Option.map_eq_some_iff.1 found
      have named : m.1 = r.name := by simpa using List.find?_some member
      have value := known r List.mem_cons_self m (List.mem_of_find?_eq_some member) named
      exact .cons ⟨rfl, .inl value⟩ (later remaining)
    · rename_i j _ default
      obtain ⟨rest, remaining, complete⟩ := of_bind_ok complete
      cases complete
      exact .cons ⟨rfl, .inr (.inr default)⟩ (later remaining)
    · cases complete

theorem readPositional_gives {expected : String} {index : Nat} {readers : List FieldReader}
    {ms : List (String × Json)} (read : readPositional expected index readers ts = .ok (ms, rest)) :
    List.Forall₂ FieldReader.Gives readers ms := by
  induction readers generalizing index ts ms with
  | nil =>
    cases read
    exact .nil
  | cons r readers ih =>
    rw [readPositional] at read
    obtain ⟨next, -, read⟩ := of_bind_ok read
    cases next with
    | some ts =>
      obtain ⟨⟨j, ts'⟩, value, read⟩ := of_bind_ok read
      obtain ⟨⟨ms', ts''⟩, later, read⟩ := of_bind_ok read
      cases read
      exact .cons ⟨rfl, .inl ⟨_, _, value⟩⟩ (ih later)
    | none =>
      dsimp only at read
      split at read
      · rename_i j default
        obtain ⟨⟨ms', ts''⟩, later, read⟩ := of_bind_ok read
        cases read
        exact .cons ⟨rfl, .inr (.inl default)⟩ (ih later)
      · cases read

/-- Written as an object or as a list, a record has all its members in declared order. -/
theorem readRecord_gives {name : String} {readers : List FieldReader}
    (read : readRecord name readers ts = .ok (j, rest)) (distinct : (readers.map (·.name)).Nodup) :
    ∃ ms, j = .object ms ∧ List.Forall₂ FieldReader.Gives readers ms := by
  unfold readRecord at read
  split at read
  · obtain ⟨⟨seen, ts'⟩, members, read⟩ := of_bind_ok read
    obtain ⟨ms, complete, read⟩ := of_bind_ok read
    cases read
    refine ⟨ms, rfl, completeMembers_gives complete fun r listed m mem named => ?_⟩
    obtain ⟨r', ts, rest, found, value⟩ := (mem_readMembers members m mem).resolve_left (by simp)
    have named' : r'.name = m.1 := by simpa using List.find?_some found
    have same : r' = r := List.inj_on_of_nodup_map distinct (List.mem_of_find?_eq_some found) listed
      (named'.trans named)
    exact ⟨ts, rest, same ▸ value⟩
  · obtain ⟨⟨ms, ts'⟩, members, read⟩ := of_bind_ok read
    obtain ⟨ts'', -, read⟩ := of_bind_ok read
    cases read
    exact ⟨ms, rfl, readPositional_gives members⟩
  · cases read

theorem holds_of_gives {fields : List Field} {ms : List (String × Json)}
    (gives : List.Forall₂ FieldReader.Gives (fieldReaders fields) ms) :
    List.Forall₂ (fun f m => f.1 = m.1 ∧ Field.Holds f m.2) fields ms := by
  induction fields generalizing ms with
  | nil =>
    cases gives
    exact .nil
  | cons f fields ih =>
    obtain ⟨r, eq, at_name, reads, default, omitted⟩ := fieldReaders_cons f fields
    rw [eq] at gives
    obtain ⟨m, ms, ⟨named, given⟩, later, rfl⟩ := List.forall₂_cons_left_iff.1 gives
    refine .cons ⟨at_name.symm.trans named, ?_⟩ (ih later)
    rcases given with ⟨ts, rest, read⟩ | filled | filled
    · exact .inl ⟨ts, rest, reads ▸ read⟩
    · exact .inr (default ▸ filled)
    · rcases omitted with declared | ⟨-, ⟨s, optional⟩, null⟩
      · exact .inr (declared ▸ filled)
      · have given : Json.null = m.2 := Option.some.inj (null.symm.trans filled)
        exact .inl ⟨[.null], [], by rw [optional, Shape.reader, ← given]; rfl⟩

theorem Shape.reads_record {name : String} {fields : List Field}
    (reads : (record name fields).Reads j) (distinct : (fields.map (·.1)).Nodup) :
    ∃ ms, j = .object ms ∧ List.Forall₂ (fun f m => f.1 = m.1 ∧ Field.Holds f m.2) fields ms := by
  obtain ⟨ts, rest, read⟩ := reads
  rw [reader] at read
  obtain ⟨ms, rfl, gives⟩ := readRecord_gives read (names_fieldReaders fields ▸ distinct)
  exact ⟨ms, rfl, holds_of_gives gives⟩

end Testbed.Json
