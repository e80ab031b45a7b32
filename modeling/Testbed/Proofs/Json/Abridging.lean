import Mathlib.Data.List.Perm.Basic
import Testbed.Proofs.Json.Meaning
import Testbed.Proofs.Json.Parts
/-!
# Leaving members out

Whoever writes a document by hand leaves out what has a default and puts members into any order
(`Shape.Abridges`). As long as a shape fills in what is left out (`Shape.Agrees`), the document
stands for the same as before (`Shape.Abridges.conveys`).

A record looks its fields up among the members by name, so neither order nor absence of a member
shows once the defaults are in (`FieldReader.value`, `value_spared`). A table puts its members into
order itself (`NameMap.ofList_perm`).
-/

namespace Testbed.Json

/-- The second value is the first one, abridged at any depth: objects have their members in any
order, and records leave some out that have a default. `spare` says of a record's name which of its
members may be left out. -/
inductive Shape.Abridges (spare : String → String × Json → Prop) : Shape → Json → Json → Prop
  | plain {s j} : s.Plain → Abridges spare s j j
  | null {s} : Abridges spare s .null .null
  | maybe {s j j'} : Abridges spare s j j' → Abridges spare (.maybe s) j j'
  | nullable {s j j'} : Abridges spare s j j' → Abridges spare (.nullable s) j j'
  | list {s js js'} : js.length = js'.length →
      (∀ p ∈ js.zip js', Abridges spare s p.1 p.2) → Abridges spare (.list s) (.list js) (.list js')
  | table {s ms kept ms'} : (ms.map (·.1)).Nodup → ms.Perm kept →
      List.Forall₂ (·.1 = ·.1) kept ms' →
      (∀ p ∈ kept.zip ms', Abridges spare s p.1.2 p.2.2) →
      Abridges spare (.table s) (.object ms) (.object ms')
  | record {name fields ms kept dropped ms'} : ms.Perm (kept ++ dropped) →
      (∀ m ∈ dropped, spare name m ∧ ∃ s d, (m.1, s, some d) ∈ fields) →
      (∀ m ∈ kept, m.1 ∈ fields.map (·.1)) →
      List.Forall₂ (·.1 = ·.1) kept ms' →
      (∀ p ∈ kept.zip ms', ∀ f ∈ fields, f.1 = p.1.1 → Abridges spare f.2.1 p.1.2 p.2.2) →
      Abridges spare (.record name fields) (.object ms) (.object ms')

/-- Where a member may be spared, its field takes it for the default. -/
inductive Shape.Agrees (spare : String → String × Json → Prop) : Shape → Prop
  | plain {s} : s.Plain → Agrees spare s
  | maybe {s} : Agrees spare s → Agrees spare (.maybe s)
  | nullable {s} : Agrees spare s → Agrees spare (.nullable s)
  | list {s} : Agrees spare s → Agrees spare (.list s)
  | table {s} : Agrees spare s → Agrees spare (.table s)
  | record {name fields} : (fields.map (·.1)).Nodup →
      (∀ f ∈ fields, ∀ d, f.2.2 = some d → ∀ j, spare name (f.1, j) → f.2.1.Takes j d) →
      (∀ f ∈ fields, Agrees spare f.2.1) → Agrees spare (.record name fields)

variable {spare : String → String × Json → Prop} {s : Shape} {j j' v : Json}

/-- Whatever the shape takes the first value for, it takes the second one for. -/
structure Shape.Follows (s : Shape) (j j' : Json) : Prop where
  settles : s.Settles j
  takes : ∀ {v}, s.Takes j v → s.Takes j' v

/-- The shape follows a member that keeps its name. -/
def Shape.FollowsMember (s : Shape) (m m' : String × Json) : Prop :=
  m.1 = m'.1 ∧ s.Follows m.2 m'.2

/-! ## Pairs of lists -/

section Pairs

variable {α β γ : Type} {R : α → β → Prop} {l : List α} {l' : List β}

/-- What every pair makes sure of the left one holds in the left list. -/
theorem forall_of_forall₂ {P : α → Prop} (left : ∀ {a b}, R a b → P a)
    (pairs : List.Forall₂ R l l') : ∀ a ∈ l, P a :=
  ((List.forall₂_and_left l l').1 (pairs.imp fun _ _ related => ⟨left related, related⟩)).1

theorem map_eq_of_forall₂ {f : α → γ} {g : β → γ} (same : ∀ {a b}, R a b → f a = g b)
    (pairs : List.Forall₂ R l l') : l.map f = l'.map g := by
  rw [← List.forall₂_eq_eq_eq, List.forall₂_map_left_iff, List.forall₂_map_right_iff]
  exact pairs.imp fun _ _ => same

theorem forall₂_follow {S : α → γ → Prop} {T : γ → β → Prop} {l'' : List γ}
    (each : ∀ {a b c}, R a b → S a c → T c b) (values : List.Forall₂ R l l')
    (follows : List.Forall₂ S l l'') : List.Forall₂ T l'' l' := by
  induction values generalizing l'' with
  | nil =>
    cases follows
    exact .nil
  | cons first _ ih =>
    obtain _ | ⟨here, later⟩ := follows
    exact .cons (each first here) (ih later)

/-- Pairs of a concatenation and a list are pairs of its parts. -/
theorem forall₂_append_left {k : List α} (pairs : List.Forall₂ R (l ++ k) l') :
    ∃ before after, l' = before ++ after ∧ List.Forall₂ R l before ∧ List.Forall₂ R k after :=
  ⟨l'.take l.length, l'.drop l.length, (List.take_append_drop _ _).symm,
    (List.forall₂_take_append _ _ _ pairs.flip).flip,
    (List.forall₂_drop_append _ _ _ pairs.flip).flip⟩

end Pairs

/-! ## Members of an object -/

section Members

variable {ms ms' : List (String × Json)} {k : String} {m : String × Json}

theorem find?_eq_some_iff (distinct : (ms.map (·.1)).Nodup) :
    ms.find? (·.1 = k) = some m ↔ m ∈ ms ∧ m.1 = k := by
  constructor
  · intro found
    exact ⟨List.mem_of_find?_eq_some found, by simpa using List.find?_some found⟩
  · rintro ⟨mem, rfl⟩
    cases found : ms.find? (·.1 = m.1) with
    | none =>
      have other := List.find?_eq_none.1 found m mem
      simp at other
    | some m' =>
      have same : m'.1 = m.1 := by simpa using List.find?_some found
      rw [List.inj_on_of_nodup_map distinct (List.mem_of_find?_eq_some found) mem same]

/-- Members under distinct names are found in whatever order they stand. -/
theorem find?_perm (order : ms.Perm ms') (distinct : (ms.map (·.1)).Nodup) :
    ms.find? (·.1 = k) = ms'.find? (·.1 = k) := by
  have distinct' : (ms'.map (·.1)).Nodup := (order.map _).nodup_iff.1 distinct
  ext m
  rw [find?_eq_some_iff distinct, find?_eq_some_iff distinct', order.mem_iff]

end Members

/-! ## Scalars and what is optional -/

theorem settles_null : s.Settles .null := by
  intro ts v rest read
  cases s with
  | maybe s | nullable s =>
    cases read
    exact Shape.takes_null
  | list s | table s | record name fields => cases read
  | text expected => exact Shape.settles_text read
  | uuid => exact Shape.settles_uuid read
  | flag => exact Shape.settles_flag read
  | whole range => exact Shape.settles_whole read
  | empty => exact Shape.settles_empty read
  | choice words => exact Shape.settles_choice read

theorem Shape.Abridges.null_iff (abridges : s.Abridges spare j j') : j = .null ↔ j' = .null := by
  induction abridges with
  | plain | null => rfl
  | maybe _ ih | nullable _ ih => exact ih
  | list | table | record => exact ⟨nofun, nofun⟩

/-- Where something is there, an optional value is read as if it had to be. -/
theorem readNullOr_there {read : Reader} {ts : List Token} (there : j ≠ .null) :
    readNullOr read (lexemes j ++ ts) = read (lexemes j ++ ts) := by
  obtain ⟨t, us, eq, -, null⟩ := lexemes_starts j
  have other : t ≠ .null := fun same => there (null same)
  rw [eq, List.cons_append]
  cases t <;> first | exact absurd rfl other | rfl

namespace Shape.Follows

theorem same (settles : s.Settles j) : s.Follows j j := ⟨settles, id⟩

theorem optional {t : Shape} (reads : t.reader = readNullOr s.reader) (follows : s.Follows j j')
    (null_iff : j = .null ↔ j' = .null) : t.Follows j j' := by
  by_cases null : j = .null
  · rw [null, null_iff.1 null]
    exact same settles_null
  · have null' : j' ≠ .null := fun eq => null (null_iff.2 eq)
    constructor
    · intro ts v rest read more
      rw [reads, readNullOr_there null] at read ⊢
      exact follows.settles read more
    · intro v takes more
      have taken : s.Takes j v := by
        intro rest
        have taken := takes rest
        rwa [reads, readNullOr_there null] at taken
      rw [reads, readNullOr_there null']
      exact follows.takes taken more

/-! ## Lists and tables -/

theorem list {js js' : List Json} (follows : List.Forall₂ s.Follows js js') :
    (Shape.list s).Follows (.list js) (.list js') := by
  have settled : ∀ j ∈ js, s.Settles j := forall_of_forall₂ settles follows
  constructor
  · intro ts v rest read
    obtain ⟨vs, rfl, taken⟩ := list_parts settled read
    exact takes_list taken
  · intro v takes
    obtain ⟨vs, rfl, taken⟩ := list_parts settled (takes [])
    exact takes_list (forall₂_follow (fun taken follows => follows.takes taken) taken follows)

theorem table {ms kept ms' : List (String × Json)} (distinct : (ms.map (·.1)).Nodup)
    (order : ms.Perm kept) (follows : List.Forall₂ s.FollowsMember kept ms') :
    (Shape.table s).Follows (.object ms) (.object ms') := by
  have settled : ∀ m ∈ ms, s.Settles m.2 := by
    intro m mem
    exact forall_of_forall₂ (fun follows => follows.2.settles) follows m (order.subset mem)
  constructor
  · intro ts v rest read
    obtain ⟨vs, rfl, taken⟩ := table_parts settled read
    exact takes_table taken
  · intro v takes
    obtain ⟨vs, rfl, taken⟩ := table_parts settled (takes [])
    have names : ms.map (·.1) = vs.map (·.1) := map_eq_of_forall₂ And.left taken
    obtain ⟨ws, taken, reordered⟩ := List.perm_comp_forall₂ order.symm taken
    have followed : List.Forall₂ s.TakesMember ms' ws :=
      forall₂_follow (fun taken follows =>
        ⟨follows.1.symm.trans taken.1, follows.2.takes taken.2⟩) taken follows
    rw [NameMap.ofList_perm reordered.symm (names ▸ distinct)]
    exact takes_table followed

end Shape.Follows

/-! ## Records -/

/-- One of the fields follows a member that keeps its name. -/
def FollowsField (readers : List FieldReader) (m m' : String × Json) : Prop :=
  m.1 = m'.1 ∧ ∃ (r : FieldReader) (s : Shape), readers.find? (·.name = m.1) = some r ∧
    r.read = s.reader ∧ s.Follows m.2 m'.2

/-- One of the fields takes the member for what it is where it is left out. -/
def SparesField (readers : List FieldReader) (m : String × Json) : Prop :=
  ∃ (r : FieldReader) (s : Shape) (j : Json), readers.find? (·.name = m.1) = some r ∧
    r.read = s.reader ∧ s.Takes m.2 j ∧ r.omitted = some j

section Records

variable {readers : List FieldReader} {m m' : String × Json}

theorem FollowsField.settles (follows : FollowsField readers m m') : SettlesField readers m := by
  obtain ⟨-, r, s, found, reads, follows⟩ := follows
  exact ⟨r, s, found, reads, follows.settles⟩

theorem FollowsField.takes {w : String × Json} (follows : FollowsField readers m m')
    (takes : TakesField readers m w) : TakesField readers m' w := by
  obtain ⟨named, r, s, found, reads, follows⟩ := follows
  obtain ⟨named', r', found', takes⟩ := takes
  cases found.symm.trans found'
  rw [reads] at takes
  exact ⟨named.symm.trans named', r, named ▸ found, reads ▸ follows.takes takes⟩

theorem SparesField.settles (spares : SparesField readers m) : SettlesField readers m := by
  obtain ⟨r, s, j, found, reads, takes, -⟩ := spares
  exact ⟨r, s, found, reads, takes.settles⟩

theorem SparesField.omitted {w : String × Json} (spares : SparesField readers m)
    (takes : TakesField readers m w) :
    ∃ r, readers.find? (·.name = w.1) = some r ∧ r.omitted = some w.2 := by
  obtain ⟨r, s, j, found, reads, takes', omitted⟩ := spares
  obtain ⟨named, r', found', takes⟩ := takes
  cases found.symm.trans found'
  rw [reads] at takes
  cases (takes []).symm.trans (takes' [])
  exact ⟨r, named ▸ found, omitted⟩

/-- What a record has for a field: what was read, or else what is filled in. -/
def FieldReader.value (r : FieldReader) (seen : List (String × Json)) : Option Json :=
  ((seen.find? (·.1 = r.name)).map (·.2)).or r.omitted

theorem completeMembers_eq {r : FieldReader} {seen : List (String × Json)} :
    completeMembers seen (r :: readers) =
      match r.value seen with
      | some j => (completeMembers seen readers).map ((r.name, j) :: ·)
      | none => .error (.mismatch ("missing field `" ++ r.name ++ "`")) := by
  rw [completeMembers, FieldReader.value]
  cases (seen.find? (·.1 = r.name)).map (·.2) with
  | none => cases r.omitted <;> rfl
  | some j => rfl

theorem completeMembers_congr {seen seen' : List (String × Json)}
    (same : ∀ r ∈ readers, r.value seen = r.value seen') :
    completeMembers seen readers = completeMembers seen' readers := by
  induction readers with
  | nil => rfl
  | cons r readers ih =>
    obtain ⟨here, later⟩ := List.forall_mem_cons.1 same
    rw [completeMembers_eq, completeMembers_eq, here, ih later]

/-- Members that are what is filled in for them can be left out. -/
theorem value_spared {kept dropped : List (String × Json)} {r : FieldReader} (mem : r ∈ readers)
    (distinct : (readers.map (·.name)).Nodup)
    (omitted : ∀ m ∈ dropped, ∃ r, readers.find? (·.name = m.1) = some r ∧ r.omitted = some m.2) :
    r.value (kept ++ dropped) = r.value kept := by
  unfold FieldReader.value
  rw [List.find?_append]
  cases kept.find? (·.1 = r.name) with
  | some m => rfl
  | none =>
    cases found : dropped.find? (·.1 = r.name) with
    | none => rfl
    | some m =>
      have named : m.1 = r.name := by simpa using List.find?_some found
      obtain ⟨r', found', omitted⟩ := omitted m (List.mem_of_find?_eq_some found)
      have named' : r'.name = m.1 := by simpa using List.find?_some found'
      have same : r' = r := List.inj_on_of_nodup_map distinct (List.mem_of_find?_eq_some found') mem
        (named'.trans named)
      simp [← same, omitted]

theorem Shape.Follows.record {name : String} {fields : List Field}
    {ms kept dropped ms' : List (String × Json)} (distinct : (fields.map (·.1)).Nodup)
    (order : ms.Perm (kept ++ dropped))
    (spares : ∀ m ∈ dropped, SparesField (fieldReaders fields) m)
    (follows : List.Forall₂ (FollowsField (fieldReaders fields)) kept ms') :
    (Shape.record name fields).Follows (.object ms) (.object ms') := by
  have settled : ∀ m ∈ ms, SettlesField (fieldReaders fields) m := by
    intro m mem
    rcases List.mem_append.1 (order.subset mem) with mem | mem
    · exact forall_of_forall₂ (fun follows => follows.settles) follows m mem
    · exact (spares m mem).settles
  constructor
  · intro ts v rest read
    obtain ⟨vs, all, rfl, taken, apart, complete⟩ := record_parts settled read
    exact takes_members taken apart complete
  · intro v takes
    obtain ⟨vs, all, rfl, taken, apart, complete⟩ := record_parts settled (takes [])
    obtain ⟨ws, taken, reordered⟩ := List.perm_comp_forall₂ order.symm taken
    obtain ⟨ks, ds, rfl, kept_taken, dropped_taken⟩ := forall₂_append_left taken
    have omitted : ∀ w ∈ ds, ∃ r, (fieldReaders fields).find? (·.name = w.1) = some r ∧
        r.omitted = some w.2 := by
      have pairs := (List.forall₂_and_left dropped ds).2 ⟨spares, dropped_taken⟩
      exact forall_of_forall₂ (fun pair => pair.1.omitted pair.2) pairs.flip
    have same :
        completeMembers ks (fieldReaders fields) = completeMembers vs (fieldReaders fields) := by
      refine completeMembers_congr fun r mem => ?_
      rw [← value_spared mem (names_fieldReaders fields ▸ distinct) omitted]
      unfold FieldReader.value
      rw [find?_perm reordered.symm apart]
    have apart : (ks.map (·.1)).Nodup := by
      have whole : ((ks ++ ds).map (·.1)).Nodup := (reordered.map _).nodup_iff.2 apart
      rw [List.map_append] at whole
      exact (List.nodup_append.1 whole).1
    have followed : List.Forall₂ (TakesField (fieldReaders fields)) ms' ks :=
      forall₂_follow (fun taken follows => follows.takes taken) kept_taken follows
    exact takes_members followed apart (same.trans complete)

end Records

theorem find?_fieldReaders {fields : List Field} {f : Field} (distinct : (fields.map (·.1)).Nodup)
    (mem : f ∈ fields) : ∃ r, (fieldReaders fields).find? (·.name = f.1) = some r ∧
      r.read = f.2.1.reader ∧ ∀ d, f.2.2 = some d → r.omitted = some d := by
  induction fields with
  | nil => cases mem
  | cons g fields ih =>
    obtain ⟨fresh, distinct⟩ := List.nodup_cons.1 distinct
    obtain ⟨r, eq, named, reads, -, omitted⟩ := fieldReaders_cons g fields
    rw [eq]
    rcases List.mem_cons.1 mem with rfl | mem
    · refine ⟨r, by simp [named], reads, fun d default => ?_⟩
      rcases omitted with declared | ⟨none, -⟩
      · rw [declared, default]
      · cases none.symm.trans default
    · have other : r.name ≠ f.1 := by
        intro same
        exact fresh (List.mem_map.2 ⟨f, mem, same.symm.trans named⟩)
      obtain ⟨r', found, given⟩ := ih distinct mem
      exact ⟨r', by simpa [other] using found, given⟩

/-! ## Shapes -/

/-- An abridged value is taken for what the whole one is taken for. The induction is on how it was
abridged; what the shape agrees with goes along. -/
theorem Shape.Abridges.follows (abridges : s.Abridges spare j j') (agrees : s.Agrees spare) :
    s.Follows j j' := by
  induction abridges with
  | plain plain => exact .same (settles_plain plain)
  | null => exact .same settles_null
  | maybe inner ih =>
    cases agrees with
    | plain none => exact none.elim
    | maybe agrees => exact .optional (by rw [reader]) (ih agrees) inner.null_iff
  | nullable inner ih =>
    cases agrees with
    | plain none => exact none.elim
    | nullable agrees => exact .optional (by rw [reader]) (ih agrees) inner.null_iff
  | list count items ih =>
    cases agrees with
    | plain none => exact none.elim
    | list agrees => exact .list (List.forall₂_iff_zip.2 ⟨count, fun mem => ih _ mem agrees⟩)
  | table distinct order names values ih =>
    cases agrees with
    | plain none => exact none.elim
    | table agrees =>
      obtain ⟨count, named⟩ := List.forall₂_iff_zip.1 names
      exact .table distinct order
        (List.forall₂_iff_zip.2 ⟨count, fun mem => ⟨named mem, ih _ mem agrees⟩⟩)
  | record order spared known names values ih =>
    cases agrees with
    | plain none => exact none.elim
    | record distinct defaults agrees =>
      refine .record distinct order (fun m mem => ?_) ?_
      · obtain ⟨spared, s, d, declared⟩ := spared m mem
        obtain ⟨r, found, reads, omitted⟩ := find?_fieldReaders distinct declared
        exact ⟨r, s, d, found, reads, defaults _ declared d rfl m.2 spared, omitted d rfl⟩
      · obtain ⟨count, named⟩ := List.forall₂_iff_zip.1 names
        refine List.forall₂_iff_zip.2 ⟨count, fun {m m'} mem => ⟨named mem, ?_⟩⟩
        obtain ⟨f, declared, field⟩ := List.mem_map.1 (known m (List.of_mem_zip mem).1)
        obtain ⟨r, found, reads, -⟩ := find?_fieldReaders distinct declared
        exact ⟨r, f.2.1, field ▸ found, reads, ih _ mem f declared field (agrees f declared)⟩

theorem Shape.Abridges.conveys {β : Type} {f : Json → Option β} {b : β}
    (abridges : s.Abridges spare j j') (agrees : s.Agrees spare) (conveys : s.Conveys j f b) :
    s.Conveys j' f b := by
  obtain ⟨v, takes, meaning⟩ := conveys
  exact ⟨v, (abridges.follows agrees).takes takes, meaning⟩

/-- One of the fields has the member abridged. -/
def AbridgesField (spare : String → String × Json → Prop) (fields : List Field)
    (m m' : String × Json) : Prop :=
  m.1 = m'.1 ∧ ∃ f ∈ fields, f.1 = m.1 ∧ f.2.1.Abridges spare m.2 m'.2

theorem AbridgesField.plain {fields : List Field} {k : String} {d : Option Json}
    (declared : (k, s, d) ∈ fields) (plain : s.Plain) : AbridgesField spare fields (k, j) (k, j) :=
  ⟨rfl, _, declared, rfl, .plain plain⟩

theorem Shape.Abridges.of_fields {name : String} {fields : List Field}
    {ms kept dropped ms' : List (String × Json)} (distinct : (fields.map (·.1)).Nodup)
    (order : ms.Perm (kept ++ dropped))
    (spared : ∀ m ∈ dropped, spare name m ∧ ∃ s d, (m.1, s, some d) ∈ fields)
    (values : List.Forall₂ (AbridgesField spare fields) kept ms') :
    (Shape.record name fields).Abridges spare (.object ms) (.object ms') := by
  refine .record order spared ?_ (values.imp fun _ _ => And.left) ?_
  · refine forall_of_forall₂ (fun field => ?_) values
    obtain ⟨-, f, declared, named, -⟩ := field
    exact List.mem_map.2 ⟨f, declared, named⟩
  · intro p mem g declared named
    obtain ⟨-, f, declared', named', abridges⟩ := (List.forall₂_iff_zip.1 values).2 mem
    have same : f = g :=
      List.inj_on_of_nodup_map distinct declared' declared (named'.trans named.symm)
    exact same ▸ abridges

end Testbed.Json
