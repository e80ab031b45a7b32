import Mathlib.Data.List.Forall2
import Testbed.Proofs.Json.Normality
/-!
# What was read, part by part

What stands behind a value has no say in how it is read (`Shape.Settles`). So what a shape gives for
a list, a table or a record is made of what it takes the parts for: the items of a list
(`list_parts`), the members of a table (`table_parts`), and for a record what its fields take of the
members, completed by what is filled in (`record_parts`).
-/

namespace Testbed.Json

variable {s : Shape} {j v : Json} {ts rest : List Token}

/-- What the value is read as once, it is read as whatever stands behind it. -/
def Shape.Settles (s : Shape) (j : Json) : Prop :=
  ∀ {ts v rest}, s.reader (lexemes j ++ ts) = .ok (v, rest) → s.Takes j v

/-- Values of these shapes have no parts with a shape of their own. -/
def Shape.Plain : Shape → Prop
  | .text _ | .uuid | .flag | .whole _ | .empty | .choice _ => True
  | .maybe _ | .nullable _ | .list _ | .table _ | .record _ _ => False

theorem Shape.Takes.settles (takes : s.Takes j v) : s.Settles j := by
  intro ts w rest read
  cases (takes ts).symm.trans read
  exact takes

/-! ## Plain values

A value of another kind than the shape expects is refused at its first token. -/

namespace Shape

theorem settles_text {expected : String} : (text expected).Settles j := by
  intro ts v rest read more
  rcases j with _ | b | n | t | (_ | ⟨j, js⟩) | (_ | ⟨⟨k, j⟩, ms⟩) <;>
    simp_all [reader, lexemes, readText]

theorem settles_uuid : uuid.Settles j := by
  intro ts v rest read more
  rcases j with _ | b | n | t | (_ | ⟨j, js⟩) | (_ | ⟨⟨k, j⟩, ms⟩) <;>
    simp_all [reader, lexemes, readUuid]
  split at read <;> simp_all

theorem settles_flag : flag.Settles j := by
  intro ts v rest read more
  rcases j with _ | b | n | t | (_ | ⟨j, js⟩) | (_ | ⟨⟨k, j⟩, ms⟩) <;>
    simp_all [reader, lexemes, readFlag]

theorem settles_whole {range : Range} : (whole range).Settles j := by
  intro ts v rest read more
  rcases j with _ | b | n | t | (_ | ⟨j, js⟩) | (_ | ⟨⟨k, j⟩, ms⟩) <;>
    simp_all [reader, lexemes, readWhole]
  cases value : (numeral n).value with
  | whole i => by_cases bounds : range.low ≤ i ∧ i ≤ range.high <;> simp_all
  | _ => simp_all

theorem settles_empty : empty.Settles j := by
  intro ts v rest read more
  rcases j with _ | b | n | t | (_ | ⟨j, js⟩) | (_ | ⟨⟨k, j⟩, ms⟩) <;>
    simp_all [reader, lexemes, readEmpty, nextName, readName, bind, Except.bind]

theorem settles_choice {words : List String} : (choice words).Settles j := by
  intro ts v rest read more
  rcases j with _ | b | n | t | (_ | ⟨j, js⟩) | (_ | ⟨⟨k, j⟩, ms⟩) <;>
    simp_all [reader, lexemes, readChoice, bind, Except.bind]
  · cases word : checkWord words t <;> simp_all
  · cases word : checkWord words k with
    | error p => simp_all
    | ok w =>
      by_cases nothing : j = .null
      · rcases ms with _ | ⟨⟨k', j'⟩, ms⟩ <;> simp_all [expectColon, lexemes, memberLexemes]
      · obtain ⟨t, us, eq, -, null⟩ := lexemes_starts j
        cases t <;> simp_all [expectColon]

theorem settles_plain (plain : s.Plain) : s.Settles j := by
  cases s with
  | text expected => exact settles_text
  | uuid => exact settles_uuid
  | flag => exact settles_flag
  | whole range => exact settles_whole
  | empty => exact settles_empty
  | choice words => exact settles_choice
  | maybe s | nullable s | list s | table s | record name fields => exact plain.elim

end Shape

/-! ## Lists -/

theorem readItems_cons {first : Bool} {fuel : Nat} {us : List Token} {vs : List Json}
    (next : nextItem first us = .ok (some (lexemes j ++ ts))) (settles : s.Settles j)
    (read : readItems s.reader (fuel + 1) first us = .ok (vs, rest)) :
    ∃ v vs', vs = v :: vs' ∧ s.Takes j v ∧ readItems s.reader fuel false ts = .ok (vs', rest) := by
  rw [readItems] at read
  obtain ⟨_, here, read⟩ := of_bind_ok read
  cases next.symm.trans here
  obtain ⟨⟨v, after⟩, item, read⟩ := of_bind_ok read
  have takes : s.Takes j v := settles item
  cases (takes ts).symm.trans item
  obtain ⟨⟨vs', last⟩, later, read⟩ := of_bind_ok read
  cases read
  exact ⟨v, vs', rfl, takes, later⟩

theorem readItems_parts {js vs : List Json} {fuel : Nat} (settles : ∀ j ∈ js, s.Settles j)
    (read : readItems s.reader fuel false (itemLexemes js ++ .rightBracket :: ts) =
      .ok (vs, rest)) : List.Forall₂ s.Takes js vs := by
  induction js generalizing fuel vs with
  | nil =>
    cases fuel with
    | zero => cases read
    | succ fuel =>
      cases read
      exact .nil
  | cons j js ih =>
    cases fuel with
    | zero => cases read
    | succ fuel =>
      obtain ⟨first, others⟩ := List.forall_mem_cons.1 settles
      rw [itemLexemes, List.cons_append, List.append_assoc] at read
      obtain ⟨v, vs, rfl, takes, later⟩ := readItems_cons (nextItem_later j) first read
      exact .cons takes (ih others later)

theorem Shape.list_parts {js : List Json} (settles : ∀ j ∈ js, s.Settles j)
    (read : (list s).reader (lexemes (.list js) ++ ts) = .ok (v, rest)) :
    ∃ vs, v = .list vs ∧ List.Forall₂ s.Takes js vs := by
  rw [reader] at read
  cases js with
  | nil =>
    cases read
    exact ⟨[], rfl, .nil⟩
  | cons j js =>
    obtain ⟨first, others⟩ := List.forall_mem_cons.1 settles
    simp only [lexemes, List.cons_append, List.append_assoc, List.nil_append] at read
    obtain ⟨⟨vs, last⟩, items, read⟩ := of_bind_ok read
    cases read
    obtain ⟨v, vs, rfl, takes, later⟩ := readItems_cons (nextItem_first j) first items
    exact ⟨_, rfl, .cons takes (readItems_parts others later)⟩

/-! ## Tables -/

theorem readEntries_cons {first : Bool} {fuel : Nat} {us : List Token} {k : String}
    {vs : List (String × Json)}
    (next : nextName first us = .ok (some (k, .colon :: (lexemes j ++ ts))))
    (settles : s.Settles j) (read : readEntries s.reader (fuel + 1) first us = .ok (vs, rest)) :
    ∃ v vs', vs = (k, v) :: vs' ∧ s.Takes j v ∧
      readEntries s.reader fuel false ts = .ok (vs', rest) := by
  rw [readEntries] at read
  obtain ⟨_, here, read⟩ := of_bind_ok read
  cases next.symm.trans here
  obtain ⟨_, colon, read⟩ := of_bind_ok read
  cases colon
  obtain ⟨⟨v, after⟩, value, read⟩ := of_bind_ok read
  have takes : s.Takes j v := settles value
  cases (takes ts).symm.trans value
  obtain ⟨⟨vs', last⟩, later, read⟩ := of_bind_ok read
  cases read
  exact ⟨v, vs', rfl, takes, later⟩

theorem readEntries_parts {ms vs : List (String × Json)} {fuel : Nat}
    (settles : ∀ m ∈ ms, s.Settles m.2)
    (read : readEntries s.reader fuel false (memberLexemes ms ++ .rightBrace :: ts) =
      .ok (vs, rest)) : List.Forall₂ s.TakesMember ms vs := by
  induction ms generalizing fuel vs with
  | nil =>
    cases fuel with
    | zero => cases read
    | succ fuel =>
      cases read
      exact .nil
  | cons m ms ih =>
    obtain ⟨k, j⟩ := m
    cases fuel with
    | zero => cases read
    | succ fuel =>
      obtain ⟨first, others⟩ := List.forall_mem_cons.1 settles
      simp only [memberLexemes, List.cons_append, List.append_assoc] at read
      obtain ⟨v, vs, rfl, takes, later⟩ := readEntries_cons (k := k) rfl first read
      exact .cons ⟨rfl, takes⟩ (ih others later)

theorem Shape.table_parts {ms : List (String × Json)} (settles : ∀ m ∈ ms, s.Settles m.2)
    (read : (table s).reader (lexemes (.object ms) ++ ts) = .ok (v, rest)) :
    ∃ vs, v = .object (NameMap.ofList vs).entries ∧ List.Forall₂ s.TakesMember ms vs := by
  rw [reader] at read
  cases ms with
  | nil =>
    cases read
    exact ⟨[], rfl, .nil⟩
  | cons m ms =>
    obtain ⟨k, j⟩ := m
    obtain ⟨first, others⟩ := List.forall_mem_cons.1 settles
    simp only [lexemes, List.cons_append, List.append_assoc, List.nil_append] at read
    obtain ⟨⟨vs, last⟩, entries, read⟩ := of_bind_ok read
    cases read
    obtain ⟨v, vs, rfl, takes, later⟩ := readEntries_cons (k := k) rfl first entries
    exact ⟨_, rfl, .cons ⟨rfl, takes⟩ (readEntries_parts others later)⟩

/-! ## Records -/

/-- The reader of one of the fields settles the member of its name. -/
def SettlesField (readers : List FieldReader) (m : String × Json) : Prop :=
  ∃ (r : FieldReader) (s : Shape), readers.find? (·.name = m.1) = some r ∧ r.read = s.reader ∧
    s.Settles m.2

theorem readMembers_cons {readers : List FieldReader} {first : Bool} {fuel : Nat}
    {us : List Token} {k : String} {seen all : List (String × Json)}
    (next : nextName first us = .ok (some (k, .colon :: (lexemes j ++ ts))))
    (settles : SettlesField readers (k, j))
    (read : readMembers readers (fuel + 1) first seen us = .ok (all, rest)) :
    ∃ v, (∀ m ∈ seen, m.1 ≠ k) ∧ TakesField readers (k, j) (k, v) ∧
      readMembers readers fuel false (seen ++ [(k, v)]) ts = .ok (all, rest) := by
  obtain ⟨r, s, found, reads, settles⟩ := settles
  rw [readMembers] at read
  obtain ⟨_, here, read⟩ := of_bind_ok read
  cases next.symm.trans here
  simp only [found] at read
  split at read
  · cases read
  · rename_i fresh
    obtain ⟨_, colon, read⟩ := of_bind_ok read
    cases colon
    obtain ⟨⟨v, after⟩, value, read⟩ := of_bind_ok read
    rw [reads] at value
    have takes : s.Takes j v := settles value
    cases (takes ts).symm.trans value
    have other : ∀ m ∈ seen, m.1 ≠ k := fun m mem same =>
      fresh (List.any_eq_true.2 ⟨m, mem, decide_eq_true same⟩)
    exact ⟨v, other, ⟨rfl, r, found, reads ▸ takes⟩, read⟩

theorem readMembers_parts {readers : List FieldReader} {ms seen all : List (String × Json)}
    {fuel : Nat} (settles : ∀ m ∈ ms, SettlesField readers m) (distinct : (seen.map (·.1)).Nodup)
    (read : readMembers readers fuel false seen (memberLexemes ms ++ .rightBrace :: ts) =
      .ok (all, rest)) :
    ∃ vs, all = seen ++ vs ∧ List.Forall₂ (TakesField readers) ms vs ∧ (all.map (·.1)).Nodup := by
  induction ms generalizing fuel seen with
  | nil =>
    cases fuel with
    | zero => cases read
    | succ fuel =>
      cases read
      exact ⟨[], by simp, .nil, distinct⟩
  | cons m ms ih =>
    obtain ⟨k, j⟩ := m
    cases fuel with
    | zero => cases read
    | succ fuel =>
      obtain ⟨first, others⟩ := List.forall_mem_cons.1 settles
      simp only [memberLexemes, List.cons_append, List.append_assoc] at read
      obtain ⟨v, fresh, takes, later⟩ := readMembers_cons (k := k) rfl first read
      have distinct : ((seen ++ [(k, v)]).map (·.1)).Nodup := by
        rw [List.map_append, List.nodup_append]
        refine ⟨distinct, by simp, ?_⟩
        simpa using fun a b mem => fresh (a, b) mem
      obtain ⟨vs, rfl, later, distinct⟩ := ih others distinct later
      exact ⟨(k, v) :: vs, by simp, .cons takes later, distinct⟩

/-- What the record gives is made of what its fields took of the members. -/
theorem Shape.record_parts {name : String} {fields : List Field} {ms : List (String × Json)}
    (settles : ∀ m ∈ ms, SettlesField (fieldReaders fields) m)
    (read : (record name fields).reader (lexemes (.object ms) ++ ts) = .ok (v, rest)) :
    ∃ vs all, v = .object all ∧ List.Forall₂ (TakesField (fieldReaders fields)) ms vs ∧
      (vs.map (·.1)).Nodup ∧ completeMembers vs (fieldReaders fields) = .ok all := by
  rw [reader] at read
  cases ms with
  | nil =>
    obtain ⟨⟨seen, last⟩, members, read⟩ := of_bind_ok read
    cases members
    obtain ⟨all, complete, read⟩ := of_bind_ok read
    cases read
    exact ⟨[], all, rfl, .nil, .nil, complete⟩
  | cons m ms =>
    obtain ⟨k, j⟩ := m
    obtain ⟨first, others⟩ := List.forall_mem_cons.1 settles
    simp only [lexemes, List.cons_append, List.append_assoc, List.nil_append] at read
    obtain ⟨⟨seen, last⟩, members, read⟩ := of_bind_ok read
    obtain ⟨all, complete, read⟩ := of_bind_ok read
    cases read
    obtain ⟨v, -, takes, later⟩ := readMembers_cons (k := k) rfl first members
    obtain ⟨vs, rfl, later, distinct⟩ := readMembers_parts others (by simp) later
    exact ⟨_, all, rfl, .cons takes later, distinct, complete⟩

end Testbed.Json
