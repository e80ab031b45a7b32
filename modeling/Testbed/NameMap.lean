/-!
# Values kept under names

A `NameMap` lists its values in ascending order of their names, so that everything which walks over
one (teardown, validation, printing) meets the names in the same order, whatever order they came in.
Inserting under a name that is already present replaces the value.
-/

namespace Testbed

/-- Names strictly ascend along the list; in particular no name occurs twice. -/
def Ascending {α : Type} (entries : List (String × α)) : Prop :=
  entries.Pairwise fun a b => a.1 < b.1

namespace Ascending

variable {α : Type}

/-- Puts a value at the place of its name. -/
def insert (name : String) (value : α) : List (String × α) → List (String × α)
  | [] => [(name, value)]
  | e :: rest =>
    if name < e.1 then (name, value) :: e :: rest
    else if name = e.1 then (name, value) :: rest
    else e :: insert name value rest

theorem mem_insert {name : String} {value : α} {entries : List (String × α)} {e : String × α}
    (h : e ∈ insert name value entries) : e = (name, value) ∨ e ∈ entries := by
  induction entries with
  | nil => simp_all [insert]
  | cons d rest ih =>
    simp only [insert] at h
    split at h
    · simpa using h
    · split at h
      · simp only [List.mem_cons] at h ⊢
        exact h.imp_right Or.inr
      · simp only [List.mem_cons] at h ⊢
        rcases h with h | h
        · exact .inr (.inl h)
        · exact (ih h).imp_right Or.inr

theorem insert_ascending {name : String} {value : α} {entries : List (String × α)}
    (h : Ascending entries) : Ascending (insert name value entries) := by
  induction entries with
  | nil => simp [insert, Ascending]
  | cons d rest ih =>
    have hd := List.pairwise_cons.1 h
    simp only [insert]
    split
    · rename_i lt
      refine List.pairwise_cons.2 ⟨?_, h⟩
      intro e he
      rcases List.mem_cons.1 he with rfl | he
      · exact lt
      · exact String.lt_trans lt (hd.1 e he)
    · rename_i notLt
      split
      · rename_i eq
        exact List.pairwise_cons.2 ⟨fun e he => eq ▸ hd.1 e he, hd.2⟩
      · rename_i ne
        refine List.pairwise_cons.2 ⟨?_, ih hd.2⟩
        intro e he
        rcases mem_insert he with rfl | he
        · exact Std.lt_of_le_of_ne (String.not_lt.1 notLt) (Ne.symm ne)
        · exact hd.1 e he

end Ascending

/-- Values under distinct names, in ascending order of the names. -/
structure NameMap (α : Type) where
  entries : List (String × α)
  ascending : Ascending entries

namespace NameMap

variable {α β : Type}

instance [DecidableEq α] : DecidableEq (NameMap α) := fun a b =>
  if h : a.entries = b.entries then
    isTrue (by cases a; cases b; simp_all)
  else
    isFalse (by intro eq; exact h (eq ▸ rfl))

def empty : NameMap α := ⟨[], .nil⟩

instance : EmptyCollection (NameMap α) := ⟨empty⟩

instance : Inhabited (NameMap α) := ⟨empty⟩

def insert (m : NameMap α) (name : String) (value : α) : NameMap α :=
  ⟨Ascending.insert name value m.entries, Ascending.insert_ascending m.ascending⟩

def erase (m : NameMap α) (name : String) : NameMap α :=
  ⟨m.entries.filter (·.1 ≠ name), m.ascending.filter _⟩

def find? (m : NameMap α) (name : String) : Option α :=
  (m.entries.find? (·.1 = name)).map (·.2)

def contains (m : NameMap α) (name : String) : Bool :=
  m.entries.any (·.1 = name)

def keys (m : NameMap α) : List String := m.entries.map (·.1)

def values (m : NameMap α) : List α := m.entries.map (·.2)

/-- Of several values under one name the last one stays. -/
def ofList (l : List (String × α)) : NameMap α :=
  l.foldl (fun m e => m.insert e.1 e.2) empty

def map (f : α → β) (m : NameMap α) : NameMap β :=
  ⟨m.entries.map fun e => (e.1, f e.2), by simpa [Ascending, List.pairwise_map] using m.ascending⟩

end NameMap

end Testbed
