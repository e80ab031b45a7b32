import Mathlib.Data.List.Forall2
import Testbed.Json.Shape
import Testbed.Proofs.Json.Writing
import Testbed.Proofs.NameMap
/-!
# Reading what was written

A shape takes a value in one form and gives it in another, normal one (`Shape.Takes`): members that
were left out are filled in, and tables are put into order. Each kind of shape takes what it is made
of: lists item by item (`takes_list`), tables member by member (`takes_table`), records field by
field, where a field with a default may be left out (`takes_record`).
-/

namespace Testbed.Json

variable {rest ts : List Token} {j j' : Json}

/-! ## Numerals -/

theorem le_ofDigitChars {ds : List Char} {n : Nat} : n ≤ Nat.ofDigitChars 10 ds n := by
  unfold Nat.ofDigitChars
  induction ds generalizing n with
  | nil => exact Nat.le_refl n
  | cons d ds ih =>
    rw [List.foldl_cons]
    exact Nat.le_trans (by omega) ih

/-- The digits of a number that fits into 64 bits are read to their end. -/
theorem significand_eq {ds : List Char} {n : Nat}
    (fits : Nat.ofDigitChars 10 ds n < 0x10000000000000000) :
    significand n ds = (Nat.ofDigitChars 10 ds n, []) := by
  induction ds generalizing n with
  | nil => rfl
  | cons d ds ih =>
    have next : Nat.ofDigitChars 10 (d :: ds) n = Nat.ofDigitChars 10 ds (n * 10 + digitValue d) := by
      simp only [Nat.ofDigitChars, List.foldl_cons, digitValue, Nat.mul_comm]
    rw [next] at fits ⊢
    have small : n * 10 + digitValue d < 0x10000000000000000 :=
      Nat.lt_of_le_of_lt le_ofDigitChars fits
    rw [significand]
    simp only [small, if_true, ih fits]

/-- Whole numbers that fit into 64 bits, with a sign or without one, are read as they are. -/
theorem value_numeral {n : Int} (low : -0x8000000000000000 ≤ n) (high : n < 0x10000000000000000) :
    (numeral n).value = .whole n := by
  have digits : significand 0 (Nat.toDigits 10 n.natAbs) = (n.natAbs, []) := by
    rw [significand_eq] <;> rw [Nat.ofDigitChars_ten_toDigits]
    omega
  unfold Numeral.value numeral
  simp only [digits, List.isEmpty_nil, Option.isNone_none, Bool.and_self, if_true]
  by_cases negative : n < 0
  · have moderate : ¬(n.natAbs = 0 ∨ 0x8000000000000000 < n.natAbs) := by omega
    simp only [negative, decide_true, not_true, if_false, moderate]
    congr 1
    omega
  · simp only [negative, decide_false, not_false_eq_true, if_true, Bool.false_eq_true]
    congr 1
    omega

/-! ## What a shape takes -/

/-- Whatever stands behind it, a value is read to its end and given in normal form. -/
def Shape.Takes (s : Shape) (j j' : Json) : Prop :=
  ∀ rest, s.reader (lexemes j ++ rest) = .ok (j', rest)

attribute [local simp] Shape.reader

namespace Shape

variable {s : Shape}

theorem takes_text {expected t : String} : (text expected).Takes (.text t) (.text t) := by
  intro rest
  simp [lexemes, readText]

theorem takes_uuid {u : Uuid} {t : String} (known : Uuid.ofText? t = some u) :
    uuid.Takes (.text t) (.text u.text) := by
  intro rest
  simp [lexemes, readUuid, known]

theorem takes_whole {range : Range} {n : Int} (bounds : range.low ≤ n ∧ n ≤ range.high)
    (low : -0x8000000000000000 ≤ n) (high : n < 0x10000000000000000) :
    (whole range).Takes (.number n) (.number n) := by
  intro rest
  simp [lexemes, readWhole, value_numeral low high, bounds]

theorem takes_choice {words : List String} {w : String} (known : w ∈ words) :
    (choice words).Takes (.text w) (.text w) := by
  intro rest
  simp [lexemes, readChoice, checkWord, known, bind, Except.bind]

theorem takes_null : (maybe s).Takes .null .null := by
  intro rest
  simp [lexemes, readNullOr]

end Shape

/-- The token is the first one of a value. -/
def Token.Starts : Token → Prop
  | .rightBrace | .rightBracket | .colon | .comma => False
  | _ => True

theorem lexemes_starts (j : Json) :
    ∃ t ts, lexemes j = t :: ts ∧ t.Starts ∧ (t = .null → j = .null) := by
  cases j with
  | null => exact ⟨.null, [], rfl, trivial, fun _ => rfl⟩
  | bool b => exact ⟨.bool b, [], rfl, trivial, by intro h; cases h⟩
  | number n => exact ⟨.number (numeral n), [], rfl, trivial, by intro h; cases h⟩
  | text s => exact ⟨.text (.ok s), [], rfl, trivial, by intro h; cases h⟩
  | list js =>
    cases js with
    | nil => exact ⟨.leftBracket, _, by rw [lexemes], trivial, by intro h; cases h⟩
    | cons _ _ => exact ⟨.leftBracket, _, by rw [lexemes], trivial, by intro h; cases h⟩
  | object ms =>
    cases ms with
    | nil => exact ⟨.leftBrace, _, by rw [lexemes], trivial, by intro h; cases h⟩
    | cons _ _ => exact ⟨.leftBrace, _, by rw [lexemes], trivial, by intro h; cases h⟩

theorem Shape.takes_maybe {s : Shape} (takes : s.Takes j j') (some : j ≠ .null) :
    (maybe s).Takes j j' := by
  intro rest
  obtain ⟨t, ts, eq, -, null⟩ := lexemes_starts j
  have other : t ≠ .null := fun h => some (null h)
  have read := takes rest
  rw [eq, List.cons_append] at read ⊢
  rw [reader]
  cases t <;> first | exact absurd rfl other | exact read

/-! ## Lists -/

theorem nextItem_first (j : Json) :
    nextItem true (lexemes j ++ ts) = .ok (some (lexemes j ++ ts)) := by
  obtain ⟨t, us, eq, starts, -⟩ := lexemes_starts j
  rw [eq, List.cons_append]
  cases t <;> first | exact starts.elim | rfl

theorem nextItem_later (j : Json) :
    nextItem false (.comma :: (lexemes j ++ ts)) = .ok (some (lexemes j ++ ts)) := by
  obtain ⟨t, us, eq, starts, -⟩ := lexemes_starts j
  rw [eq, List.cons_append]
  cases t <;> first | exact starts.elim | rfl

theorem length_itemLexemes (js : List Json) : js.length ≤ (itemLexemes js).length := by
  induction js with
  | nil => simp
  | cons j js ih =>
    simp only [itemLexemes, List.length_cons, List.length_append]
    omega

theorem readItems_later {s : Shape} {js js' : List Json} (takes : List.Forall₂ s.Takes js js')
    {fuel : Nat} (enough : js.length < fuel) :
    readItems s.reader fuel false (itemLexemes js ++ .rightBracket :: rest) = .ok (js', rest) := by
  induction takes generalizing fuel with
  | nil =>
    obtain ⟨fuel, rfl⟩ : ∃ n, fuel = n + 1 := ⟨fuel - 1, by simp at enough; omega⟩
    simp [readItems, itemLexemes, nextItem, bind, Except.bind]
  | @cons j j' js js' first _ ih =>
    obtain ⟨fuel, rfl⟩ : ∃ n, fuel = n + 1 := ⟨fuel - 1, by omega⟩
    have later : readItems s.reader fuel false (itemLexemes js ++ .rightBracket :: rest) =
        .ok (js', rest) := ih (by simpa using enough)
    rw [itemLexemes, List.cons_append, List.append_assoc]
    simp only [readItems, nextItem_later, first _, later, bind, Except.bind]

theorem Shape.takes_list {s : Shape} {js js' : List Json} (takes : List.Forall₂ s.Takes js js') :
    (list s).Takes (.list js) (.list js') := by
  intro rest
  cases takes with
  | nil => simp [lexemes, readItems, nextItem, bind, Except.bind]
  | @cons j j' js js' first later =>
    have counted := length_itemLexemes js
    have read : readItems s.reader (lexemes j ++ (itemLexemes js ++ .rightBracket :: rest)).length
        false (itemLexemes js ++ .rightBracket :: rest) = .ok (js', rest) := by
      apply readItems_later later
      simp only [List.length_append, List.length_cons]
      omega
    rw [lexemes, List.cons_append]
    simp only [List.append_assoc, List.cons_append, List.nil_append, reader, readItems,
      nextItem_first, first _, read, bind, Except.bind]

/-! ## Names -/

theorem length_memberLexemes (ms : List (String × Json)) :
    ms.length ≤ (memberLexemes ms).length := by
  induction ms with
  | nil => simp
  | cons m ms ih =>
    obtain ⟨k, j⟩ := m
    simp only [memberLexemes, List.length_cons, List.length_append]
    omega

/-- The shape takes a member of an object. -/
def Shape.TakesMember (s : Shape) (m m' : String × Json) : Prop := m.1 = m'.1 ∧ s.Takes m.2 m'.2

theorem readEntries_later {s : Shape} {ms ms' : List (String × Json)}
    (takes : List.Forall₂ s.TakesMember ms ms') {fuel : Nat} (enough : ms.length < fuel) :
    readEntries s.reader fuel false (memberLexemes ms ++ .rightBrace :: rest) = .ok (ms', rest) := by
  induction takes generalizing fuel with
  | nil =>
    obtain ⟨fuel, rfl⟩ : ∃ n, fuel = n + 1 := ⟨fuel - 1, by simp at enough; omega⟩
    simp [readEntries, memberLexemes, nextName, bind, Except.bind]
  | @cons m m' ms ms' first _ ih =>
    obtain ⟨fuel, rfl⟩ : ∃ n, fuel = n + 1 := ⟨fuel - 1, by omega⟩
    have later : readEntries s.reader fuel false (memberLexemes ms ++ .rightBrace :: rest) =
        .ok (ms', rest) := ih (by simpa using enough)
    obtain ⟨k, j⟩ := m
    obtain ⟨k', j'⟩ := m'
    obtain ⟨rfl, first⟩ := first
    simp only [memberLexemes, List.cons_append, List.append_assoc]
    simp [readEntries, nextName, readName, expectColon, first _, later, bind, Except.bind]

theorem Shape.takes_table {s : Shape} {ms ms' : List (String × Json)}
    (takes : List.Forall₂ s.TakesMember ms ms') :
    (table s).Takes (.object ms) (.object (NameMap.ofList ms').entries) := by
  intro rest
  cases takes with
  | nil => simp [lexemes, readEntries, nextName, bind, Except.bind]
  | @cons m m' ms ms' first later =>
    have counted := length_memberLexemes ms
    obtain ⟨k, j⟩ := m
    obtain ⟨k', j'⟩ := m'
    obtain ⟨rfl, first⟩ := first
    have read : readEntries s.reader (Token.text (.ok k) :: .colon ::
        (lexemes j ++ (memberLexemes ms ++ .rightBrace :: rest))).length false
        (memberLexemes ms ++ .rightBrace :: rest) = .ok (ms', rest) := by
      apply readEntries_later later
      simp only [List.length_append, List.length_cons]
      omega
    rw [lexemes]
    simp only [List.append_assoc, List.cons_append, List.nil_append, reader, readEntries, nextName,
      readName, expectColon, first _, read, bind, Except.bind, if_true]

/-! ## Records -/

/-- A field as it is declared: its name, its shape and what it is where it is left out. -/
abbrev Field := String × Shape × Option Json

theorem fieldReaders_cons (f : Field) (fields : List Field) :
    ∃ r, fieldReaders (f :: fields) = r :: fieldReaders fields ∧ r.name = f.1 ∧
      r.read = f.2.1.reader ∧ r.default = f.2.2 ∧
      (r.omitted = f.2.2 ∨ f.2.2 = none ∧ (∃ s, f.2.1 = .maybe s) ∧ r.omitted = some .null) := by
  obtain ⟨name, shape, default⟩ := f
  by_cases optional : ∃ s, shape = .maybe s ∧ default = none
  · obtain ⟨s, rfl, rfl⟩ := optional
    exact ⟨_, by rw [fieldReaders], rfl, rfl, rfl, .inr ⟨rfl, ⟨s, rfl⟩, rfl⟩⟩
  · have ordinary : ∀ s, shape = .maybe s → default = none → False :=
      fun s is_maybe is_none => optional ⟨s, is_maybe, is_none⟩
    exact ⟨⟨name, shape.reader, default, default⟩, by rw [fieldReaders]; exact ordinary,
      rfl, rfl, rfl, .inl rfl⟩

/-- The members of an object give the fields of a record: those that it has, and the defaults of
those that it leaves out. -/
inductive Fills : List Field → List (String × Json) → List (String × Json) → Prop
  | done : Fills [] [] []
  | given {name shape default fields j j' ms ms'} : shape.Takes j j' → Fills fields ms ms' →
      Fills ((name, shape, default) :: fields) ((name, j) :: ms) ((name, j') :: ms')
  | omitted {name shape fields j ms ms'} : Fills fields ms ms' →
      Fills ((name, shape, some j) :: fields) ms ((name, j) :: ms')

/-- One of the fields takes a member. -/
def TakesField (readers : List FieldReader) (m m' : String × Json) : Prop :=
  m.1 = m'.1 ∧ ∃ r, readers.find? (·.name = m.1) = some r ∧
    ∀ rest, r.read (lexemes m.2 ++ rest) = .ok (m'.2, rest)

theorem takesFields_cons {r : FieldReader} {readers : List FieldReader}
    {ms ms' : List (String × Json)} (takes : List.Forall₂ (TakesField readers) ms ms')
    (other : ∀ m ∈ ms', r.name ≠ m.1) : List.Forall₂ (TakesField (r :: readers)) ms ms' := by
  induction takes with
  | nil => exact .nil
  | @cons m m' ms ms' first _ ih =>
    obtain ⟨same, found, at_name, reads⟩ := first
    have here : r.name ≠ m.1 := same ▸ other m' List.mem_cons_self
    exact .cons ⟨same, found, by simpa [here] using at_name, reads⟩
      (ih fun m mem => other m (List.mem_cons_of_mem _ mem))

theorem readMembers_later {readers : List FieldReader} {ms ms' seen : List (String × Json)}
    (takes : List.Forall₂ (TakesField readers) ms ms')
    (distinct : ((seen ++ ms').map (·.1)).Nodup) {fuel : Nat} (enough : ms.length < fuel) :
    readMembers readers fuel false seen (memberLexemes ms ++ .rightBrace :: rest) =
      .ok (seen ++ ms', rest) := by
  induction takes generalizing fuel seen with
  | nil =>
    obtain ⟨fuel, rfl⟩ : ∃ n, fuel = n + 1 := ⟨fuel - 1, by simp at enough; omega⟩
    simp [readMembers, memberLexemes, nextName, bind, Except.bind]
  | @cons m m' ms ms' first _ ih =>
    obtain ⟨fuel, rfl⟩ : ∃ n, fuel = n + 1 := ⟨fuel - 1, by omega⟩
    obtain ⟨k, j⟩ := m
    obtain ⟨k', j'⟩ := m'
    obtain ⟨rfl, r, found, reads⟩ := first
    have again : seen ++ (k, j') :: ms' = seen ++ [(k, j')] ++ ms' := by simp
    rw [again] at distinct ⊢
    have later : readMembers readers fuel false (seen ++ [(k, j')])
        (memberLexemes ms ++ .rightBrace :: rest) = .ok (seen ++ [(k, j')] ++ ms', rest) :=
      ih distinct (by simpa using enough)
    have fresh : seen.any (·.1 = k) = false := by
      rw [List.map_append, List.map_append] at distinct
      have apart := (List.nodup_append.1 (List.nodup_append.1 distinct).1).2.2
      simp only [List.any_eq_false, decide_eq_true_eq]
      intro m mem same
      exact apart m.1 (List.mem_map_of_mem mem) k (by simp) same
    simp only [memberLexemes, List.cons_append, List.append_assoc]
    simp [readMembers, nextName, readName, expectColon, found, fresh, reads, later, bind,
      Except.bind]

/-- A record that is complete stays so when a member of another name is put before. -/
theorem completeMembers_cons {readers : List FieldReader} {seen : List (String × Json)}
    (other : ∀ r ∈ readers, r.name ≠ m.1) :
    completeMembers (m :: seen) readers = completeMembers seen readers := by
  induction readers with
  | nil => rfl
  | cons r readers ih =>
    have here : m.1 ≠ r.name := (other r List.mem_cons_self).symm
    have later := ih fun r mem => other r (List.mem_cons_of_mem _ mem)
    simp only [completeMembers, List.find?_cons, here, decide_false, later]

theorem names_fieldReaders (fields : List Field) :
    (fieldReaders fields).map (·.name) = fields.map (·.1) := by
  induction fields with
  | nil => rfl
  | cons f fields ih =>
    obtain ⟨r, eq, name, -⟩ := fieldReaders_cons f fields
    rw [eq, List.map_cons, List.map_cons, ih, name]

/-- A field of another name than the listed ones has none of the members seen for these. -/
theorem ne_of_sublist {fields : List Field} {seen : List (String × Json)} {name : String}
    (names : (seen.map (·.1)).Sublist (fields.map (·.1))) (fresh : name ∉ fields.map (·.1)) :
    ∀ m ∈ seen, name ≠ m.1 :=
  fun _ mem same => fresh (same ▸ names.subset (List.mem_map_of_mem mem))

/-- The members are taken by fields of their names, and with what these give the record is
complete. -/
theorem Fills.reads {fields : List Field} {ms ms' : List (String × Json)}
    (fills : Fills fields ms ms') (distinct : (fields.map (·.1)).Nodup) :
    ∃ seen, List.Forall₂ (TakesField (fieldReaders fields)) ms seen ∧
      (seen.map (·.1)).Sublist (fields.map (·.1)) ∧
      completeMembers seen (fieldReaders fields) = .ok ms' := by
  induction fills with
  | done => exact ⟨[], .nil, .slnil, rfl⟩
  | @given name shape default fields j j' ms ms' takes _ ih =>
    obtain ⟨fresh, distinct⟩ := List.nodup_cons.1 distinct
    obtain ⟨seen, taken, names, complete⟩ := ih distinct
    obtain ⟨r, eq, at_name, reads, -, -⟩ := fieldReaders_cons (name, shape, default) fields
    have other : ∀ m ∈ seen, r.name ≠ m.1 := at_name ▸ ne_of_sublist names fresh
    have apart : ∀ r ∈ fieldReaders fields, r.name ≠ name := fun r mem same =>
      fresh (same ▸ names_fieldReaders fields ▸ List.mem_map_of_mem mem)
    rw [eq]
    refine ⟨(name, j') :: seen, .cons ⟨rfl, r, by simp [at_name], ?_⟩ (takesFields_cons taken other),
      names.cons_cons _, ?_⟩
    · rw [reads]
      exact takes
    · have later : completeMembers ((name, j') :: seen) (fieldReaders fields) = .ok ms' :=
        (completeMembers_cons apart).trans complete
      simp [completeMembers, at_name, later, bind, Except.bind, pure, Except.pure]
  | @omitted name shape fields j ms ms' _ ih =>
    obtain ⟨fresh, distinct⟩ := List.nodup_cons.1 distinct
    obtain ⟨seen, taken, names, complete⟩ := ih distinct
    obtain ⟨r, eq, at_name, -, -, absent⟩ := fieldReaders_cons (name, shape, some j) fields
    have other : ∀ m ∈ seen, r.name ≠ m.1 := at_name ▸ ne_of_sublist names fresh
    have absent : r.omitted = some j := absent.resolve_right nofun
    have vacant : seen.find? (·.1 = name) = none := by
      simp only [List.find?_eq_none, decide_eq_true_eq]
      exact fun m mem same => other m mem (at_name.trans same.symm)
    rw [eq]
    refine ⟨seen, takesFields_cons taken other, names.cons _, ?_⟩
    simp [completeMembers, at_name, vacant, absent, complete, bind, Except.bind, pure, Except.pure]

/-- A record takes members that its fields take, in whatever order they stand. -/
theorem Shape.takes_members {name : String} {fields : List Field} {ms vs all : List (String × Json)}
    (taken : List.Forall₂ (TakesField (fieldReaders fields)) ms vs)
    (distinct : (vs.map (·.1)).Nodup)
    (complete : completeMembers vs (fieldReaders fields) = .ok all) :
    (record name fields).Takes (.object ms) (.object all) := by
  intro rest
  cases taken with
  | nil => simp [lexemes, readRecord, readMembers, nextName, complete, bind, Except.bind]
  | @cons m m' ms vs first later =>
    have counted := length_memberLexemes ms
    obtain ⟨k, j⟩ := m
    obtain ⟨k', j'⟩ := m'
    obtain ⟨rfl, r, found, reads⟩ := first
    have read : readMembers (fieldReaders fields) (Token.text (.ok k) :: .colon ::
        (lexemes j ++ (memberLexemes ms ++ .rightBrace :: rest))).length false [(k, j')]
        (memberLexemes ms ++ .rightBrace :: rest) = .ok ((k, j') :: vs, rest) := by
      apply readMembers_later later distinct
      simp only [List.length_append, List.length_cons]
      omega
    rw [lexemes]
    simp only [List.append_assoc, List.cons_append, List.nil_append, reader, readRecord, readMembers,
      nextName, readName, expectColon, found, reads, read, complete, List.any_nil,
      Bool.false_eq_true, if_false, if_true, bind, Except.bind]

theorem Shape.takes_record {name : String} {fields : List Field} {ms ms' : List (String × Json)}
    (fills : Fills fields ms ms') (distinct : (fields.map (·.1)).Nodup) :
    (record name fields).Takes (.object ms) (.object ms') := by
  obtain ⟨seen, taken, names, complete⟩ := fills.reads distinct
  exact takes_members taken (names.nodup distinct) complete

end Testbed.Json
