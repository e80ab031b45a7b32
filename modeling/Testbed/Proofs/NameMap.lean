import Testbed.NameMap
/-!
# Looking up, inserting and erasing

The view of a map is `find?`: inserting changes it at one name, erasing takes one name out of it, and
the entries are exactly what it finds (`mem_entries`).
-/

namespace Testbed

namespace Ascending

variable {α β : Type}

theorem find?_insert (name : String) (value : α) (entries : List (String × α)) (key : String) :
    (insert name value entries).find? (·.1 = key) =
      if key = name then some (name, value) else entries.find? (·.1 = key) := by
  induction entries with
  | nil => by_cases h : key = name <;> simp [insert, h, eq_comm]
  | cons e rest ih =>
    simp only [insert]
    split
    · by_cases h : key = name <;> simp [h, eq_comm]
    · split
      · rename_i same
        by_cases h : key = name
        · simp [h]
        · have other : e.1 ≠ key := fun eq => h (eq.symm.trans same.symm)
          simp [h, Ne.symm h, other]
      · rename_i notSame
        by_cases here : e.1 = key
        · have other : key ≠ name := fun eq => notSame (eq.symm.trans here.symm)
          simp [here, other]
        · simp [here, ih]

theorem keys_insert {name : String} {value : α} {entries : List (String × α)}
    (ascending : Ascending entries) (present : name ∈ entries.map (·.1)) :
    (insert name value entries).map (·.1) = entries.map (·.1) := by
  induction entries with
  | nil => simp at present
  | cons e rest ih =>
    obtain ⟨least, rest_ascending⟩ := List.pairwise_cons.1 ascending
    simp only [insert]
    split
    · rename_i lt
      obtain ⟨d, hd, rfl⟩ := List.mem_map.1 present
      rcases List.mem_cons.1 hd with rfl | hd
      · exact absurd lt (String.lt_irrefl _)
      · exact absurd (String.lt_trans lt (least d hd)) (String.lt_irrefl _)
    · split
      · rename_i same
        simp [same]
      · rename_i notSame
        have later : name ∈ rest.map (·.1) := by
          simpa [notSame] using present
        simp [ih rest_ascending later]

/-- Replacing a value replaces what it counts for. -/
theorem length_flatMap_insert {name : String} {v w : α} {entries : List (String × α)}
    (f : α → List β) (ascending : Ascending entries) (present : (name, v) ∈ entries) :
    ((insert name w entries).flatMap (f ·.2)).length + (f v).length =
      (entries.flatMap (f ·.2)).length + (f w).length := by
  induction entries with
  | nil => cases present
  | cons e rest ih =>
    obtain ⟨least, rest_ascending⟩ := List.pairwise_cons.1 ascending
    rcases List.mem_cons.1 present with rfl | later
    · simp only [insert, String.lt_irrefl, if_false, if_true, List.flatMap_cons,
        List.length_append]
      omega
    · have lt : e.1 < name := least _ later
      have notLt : ¬name < e.1 := fun gt => String.lt_irrefl _ (String.lt_trans lt gt)
      have notSame : name ≠ e.1 := fun same => String.lt_irrefl _ (same ▸ lt)
      have counted := ih rest_ascending later
      simp only [insert, if_neg notLt, if_neg notSame, List.flatMap_cons, List.length_append]
      omega

/-- A value that is replaced stays in its place. -/
theorem insert_middle {name : String} {v w : α} {before after : List (String × α)}
    (ascending : Ascending (before ++ (name, v) :: after)) :
    insert name w (before ++ (name, v) :: after) = before ++ (name, w) :: after := by
  induction before with
  | nil => simp [insert]
  | cons e before ih =>
    obtain ⟨least, rest_ascending⟩ := List.pairwise_cons.1 ascending
    have lt : e.1 < name := least (name, v) (by simp)
    have notLt : ¬name < e.1 := fun gt => String.lt_irrefl _ (String.lt_trans lt gt)
    have notSame : name ≠ e.1 := fun same => String.lt_irrefl _ (same ▸ lt)
    simp only [List.cons_append, insert, if_neg notLt, if_neg notSame, ih rest_ascending]

theorem erase_middle {name : String} {v : α} {before after : List (String × α)}
    (ascending : Ascending (before ++ (name, v) :: after)) :
    (before ++ (name, v) :: after).filter (·.1 ≠ name) = before ++ after := by
  obtain ⟨-, tail, apart⟩ := List.pairwise_append.1 ascending
  have before_other : ∀ e ∈ before, e.1 ≠ name := fun e mem =>
    Std.ne_of_lt (apart e mem (name, v) List.mem_cons_self)
  have after_other : ∀ e ∈ after, e.1 ≠ name := fun e mem =>
    Ne.symm (Std.ne_of_lt ((List.pairwise_cons.1 tail).1 e mem))
  rw [List.filter_append, List.filter_cons_of_neg (by simp),
    List.filter_eq_self.2 (by simpa using before_other),
    List.filter_eq_self.2 (by simpa using after_other)]

/-- Two entries of one name are the same entry. -/
theorem entry_unique {entries : List (String × α)} (ascending : Ascending entries)
    {e f : String × α} (he : e ∈ entries) (hf : f ∈ entries) (same : e.1 = f.1) : e = f := by
  induction entries with
  | nil => cases he
  | cons d rest ih =>
    obtain ⟨least, rest_ascending⟩ := List.pairwise_cons.1 ascending
    rcases List.mem_cons.1 he with rfl | he' <;> rcases List.mem_cons.1 hf with rfl | hf'
    · rfl
    · exact absurd (same ▸ least f hf') (String.lt_irrefl _)
    · exact absurd (same ▸ least e he') (String.lt_irrefl _)
    · exact ih rest_ascending he' hf'

end Ascending

namespace NameMap

variable {α β : Type} {m : NameMap α} {name key : String} {value : α}

@[simp]
theorem find?_empty : (∅ : NameMap α).find? key = none := rfl

theorem find?_insert : (m.insert name value).find? key =
    if key = name then some value else m.find? key := by
  unfold find? insert
  rw [Ascending.find?_insert]
  split <;> rfl

@[simp]
theorem find?_insert_self : (m.insert name value).find? name = some value := by
  simp [find?_insert]

theorem find?_insert_of_ne (h : key ≠ name) :
    (m.insert name value).find? key = m.find? key := by
  simp [find?_insert, h]

/-- Inserting under a new name takes nothing away. -/
theorem find?_insert_vacant (vacant : m.find? name = none) {v : α} :
    (m.insert name value).find? key = some v ↔
      m.find? key = some v ∨ key = name ∧ v = value := by
  rw [find?_insert]
  by_cases h : key = name
  · subst h
    simp [vacant, eq_comm]
  · simp [h]

theorem find?_erase : (m.erase name).find? key = if key = name then none else m.find? key := by
  unfold find? erase
  rw [List.find?_filter]
  by_cases h : key = name
  · subst h
    simp
  · rw [if_neg h]
    congr 2
    funext e
    by_cases same : e.1 = key <;> simp [same, h]

@[simp]
theorem find?_erase_self : (m.erase name).find? name = none := by
  simp [find?_erase]

theorem find?_erase_of_ne (h : key ≠ name) : (m.erase name).find? key = m.find? key := by
  simp [find?_erase, h]

theorem contains_iff : m.contains name = true ↔ ∃ value, m.find? name = some value := by
  unfold contains find?
  rw [List.any_eq_true]
  constructor
  · rintro ⟨e, he, same⟩
    have found : (m.entries.find? (·.1 = name)).isSome := by
      rw [List.find?_isSome]
      exact ⟨e, he, same⟩
    obtain ⟨d, hd⟩ := Option.isSome_iff_exists.1 found
    exact ⟨d.2, by simp [hd]⟩
  · rintro ⟨value, found⟩
    obtain ⟨e, he, -⟩ := Option.map_eq_some_iff.1 found
    exact ⟨e, List.mem_of_find?_eq_some he, by simpa using List.find?_some he⟩

theorem contains_eq_false_iff : m.contains name = false ↔ m.find? name = none := by
  rw [← Bool.not_eq_true, contains_iff, not_exists, Option.eq_none_iff_forall_ne_some]

theorem mem_entries : (name, value) ∈ m.entries ↔ m.find? name = some value := by
  unfold find?
  constructor
  · intro h
    have found : (m.entries.find? (·.1 = name)).isSome :=
      List.find?_isSome.2 ⟨(name, value), h, by simp⟩
    obtain ⟨e, he⟩ := Option.isSome_iff_exists.1 found
    have eq := m.ascending.entry_unique (List.mem_of_find?_eq_some he) h
      (by simpa using List.find?_some he)
    simp [he, eq]
  · intro h
    obtain ⟨e, he, rfl⟩ := Option.map_eq_some_iff.1 h
    have same : e.1 = name := by simpa using List.find?_some he
    exact same ▸ List.mem_of_find?_eq_some he

theorem keys_nodup : m.keys.Nodup := by
  unfold keys List.Nodup
  rw [List.pairwise_map]
  exact m.ascending.imp fun lt => (Std.ne_of_lt lt)

theorem mem_keys : name ∈ m.keys ↔ ∃ value, m.find? name = some value := by
  unfold keys
  simp only [List.mem_map]
  constructor
  · rintro ⟨e, he, rfl⟩
    exact ⟨e.2, mem_entries.1 he⟩
  · rintro ⟨value, found⟩
    exact ⟨(name, value), mem_entries.2 found, rfl⟩

theorem keys_insert_of_mem (present : name ∈ m.keys) : (m.insert name value).keys = m.keys :=
  Ascending.keys_insert m.ascending present

theorem keys_erase : (m.erase name).keys = m.keys.filter (· ≠ name) := by
  unfold keys erase
  rw [List.filter_map]
  rfl

theorem length_keys : m.keys.length = m.entries.length := List.length_map _

theorem length_insert_of_mem (present : name ∈ m.keys) :
    (m.insert name value).entries.length = m.entries.length := by
  rw [← length_keys, keys_insert_of_mem present, length_keys]

theorem length_flatMap_insert {v w : α} (f : α → List β) (found : m.find? name = some v) :
    ((m.insert name w).values.flatMap f).length + (f v).length =
      (m.values.flatMap f).length + (f w).length := by
  have counted := Ascending.length_flatMap_insert (w := w) f m.ascending (mem_entries.2 found)
  simpa only [values, insert, List.flatMap_map] using counted

theorem length_erase_of_mem (present : name ∈ m.keys) :
    (m.erase name).entries.length + 1 = m.entries.length := by
  have erased : m.keys.filter (· ≠ name) = m.keys.erase name := by
    rw [m.keys_nodup.erase_eq_filter]
    congr 1
    funext key
    by_cases same : key = name <;> simp [same]
  rw [← length_keys, keys_erase, erased, List.length_erase_of_mem present, length_keys]
  have some := List.length_pos_of_mem present
  rw [length_keys] at some
  omega

/-- Puts a value in the place of another, or takes that out. -/
def update (m : NameMap α) (name : String) : Option α → NameMap α
  | some value => m.insert name value
  | none => m.erase name

/-- Of entries that are updated one after the other, those stay in their places that are replaced. -/
theorem entries_foldl_update {γ : Type} {key : γ → String} {new : γ → Option α} {l : List γ}
    {before after : List (String × α)} (entries : m.entries = before ++ after)
    (same : l.map key = after.map (·.1)) :
    (l.foldl (fun m g => m.update (key g) (new g)) m).entries =
      before ++ l.filterMap fun g => (new g).map fun value => (key g, value) := by
  induction l generalizing m before after with
  | nil =>
    have nothing : after = [] := List.map_eq_nil_iff.1 same.symm
    simpa [nothing] using entries
  | cons g l ih =>
    obtain _ | ⟨⟨name, v⟩, after⟩ := after
    · cases same
    obtain ⟨here, same⟩ := List.cons.inj same
    have ascending := m.ascending
    rw [entries] at ascending
    rw [List.foldl_cons, List.filterMap_cons]
    cases updated : new g with
    | none =>
      have erased : (m.erase (key g)).entries = before ++ after := by
        change m.entries.filter _ = _
        rw [entries, here]
        exact Ascending.erase_middle ascending
      exact ih erased same
    | some value =>
      have inserted : (m.insert (key g) value).entries = (before ++ [(key g, value)]) ++ after := by
        change Ascending.insert _ _ m.entries = _
        rw [entries, here, Ascending.insert_middle ascending, List.append_assoc]
        rfl
      exact (ih inserted same).trans (List.append_assoc _ _ _)

/-- A map is what it finds. -/
theorem ext_find? {m' : NameMap α} (same : ∀ name value,
    m.find? name = some value ↔ m'.find? name = some value) : m = m' := by
  have apart {entries : List (String × α)} (ascending : Ascending entries) : entries.Nodup :=
    ascending.imp fun lt eq => Std.ne_of_lt lt (congrArg Prod.fst eq)
  have perm : m.entries.Perm m'.entries := by
    refine (List.perm_ext_iff_of_nodup (apart m.ascending) (apart m'.ascending)).2 ?_
    rintro ⟨name, value⟩
    rw [mem_entries, mem_entries, same]
  have entries : m.entries = m'.entries :=
    perm.eq_of_pairwise (fun a b _ _ lt gt => absurd (String.lt_trans lt gt) (String.lt_irrefl _))
      m.ascending m'.ascending
  obtain ⟨entries, ascending⟩ := m
  obtain ⟨entries', ascending'⟩ := m'
  cases entries
  rfl

theorem insert_insert {w : α} : (m.insert name value).insert name w = m.insert name w := by
  refine ext_find? fun key v => ?_
  simp only [find?_insert]
  split <;> rfl

theorem insert_found (found : m.find? name = some value) : m.insert name value = m := by
  refine ext_find? fun key v => ?_
  rw [find?_insert]
  split
  · rename_i same
    rw [same, found]
  · rfl

theorem keys_ascending : m.keys.Pairwise (· < ·) := List.pairwise_map.2 m.ascending

/-- The keys are the names under which there is something, in ascending order. -/
theorem keys_eq_of_ascending {names : List String} (ascending : names.Pairwise (· < ·))
    (same : ∀ name, name ∈ m.keys ↔ name ∈ names) : m.keys = names := by
  have distinct : names.Nodup := ascending.imp Std.ne_of_lt
  have perm := (List.perm_ext_iff_of_nodup m.keys_nodup distinct).2 same
  exact perm.eq_of_pairwise
    (fun a b _ _ lt gt => absurd (String.lt_trans lt gt) (String.lt_irrefl _))
    keys_ascending ascending

/-- Maps that have something under the same names have the same keys. -/
theorem keys_eq {m : NameMap α} {m' : NameMap β} (same : ∀ name,
    (∃ value, m.find? name = some value) ↔ ∃ value, m'.find? name = some value) :
    m.keys = m'.keys :=
  keys_eq_of_ascending keys_ascending fun name => by rw [mem_keys, mem_keys, same]

/-- Values that are inserted under new names are found beside those that were there. -/
theorem find?_foldl_insert {l : List (String × α)} (distinct : (l.map Prod.fst).Nodup)
    (free : ∀ e ∈ l, m.find? e.1 = none) :
    (l.foldl (fun m e => m.insert e.1 e.2) m).find? name = some value ↔
      m.find? name = some value ∨ (name, value) ∈ l := by
  induction l generalizing m with
  | nil => simp
  | cons e rest ih =>
    obtain ⟨fresh, distinct⟩ := List.nodup_cons.1 distinct
    have free_rest : ∀ f ∈ rest, (m.insert e.1 e.2).find? f.1 = none := by
      intro f mem
      have ne : f.1 ≠ e.1 := fun same => fresh (same ▸ List.mem_map_of_mem mem)
      rw [find?_insert_of_ne ne]
      exact free f (List.mem_cons_of_mem _ mem)
    rw [List.foldl_cons, ih distinct free_rest,
      find?_insert_vacant (free e List.mem_cons_self), List.mem_cons, or_assoc, Prod.ext_iff]

theorem find?_ofList {l : List (String × α)} (distinct : (l.map Prod.fst).Nodup) :
    (ofList l).find? name = some value ↔ (name, value) ∈ l := by
  refine (find?_foldl_insert distinct fun _ _ => rfl).trans ?_
  simp [show (empty : NameMap α).find? name = none from rfl]

/-- Values under distinct names make the same map in whatever order they come. -/
theorem ofList_perm {l l' : List (String × α)} (order : l.Perm l')
    (distinct : (l.map Prod.fst).Nodup) : ofList l = ofList l' := by
  have distinct' : (l'.map Prod.fst).Nodup := (order.map _).nodup_iff.1 distinct
  refine ext_find? fun name value => ?_
  rw [find?_ofList distinct, find?_ofList distinct', order.mem_iff]

theorem map_eq_self {f : α → α} (same : ∀ e ∈ m.entries, f e.2 = e.2) : m.map f = m := by
  obtain ⟨entries, ascending⟩ := m
  unfold map
  congr 1
  refine (List.map_congr_left fun e mem => ?_).trans (List.map_id entries)
  rw [same e mem, id]

@[simp]
theorem map_id : m.map id = m := map_eq_self fun _ _ => rfl

theorem mem_foldl_insert {l : List (String × α)} {e : String × α}
    (mem : e ∈ (l.foldl (fun m e => m.insert e.1 e.2) m).entries) : e ∈ m.entries ∨ e ∈ l := by
  induction l generalizing m with
  | nil => exact .inl mem
  | cons d l ih =>
    rcases ih mem with inserted | later
    · rcases Ascending.mem_insert inserted with rfl | before
      · exact .inr List.mem_cons_self
      · exact .inl before
    · exact .inr (List.mem_cons_of_mem _ later)

/-- Nothing but what is listed gets into a map, however often a name occurs. -/
theorem mem_ofList {l : List (String × α)} {e : String × α} (mem : e ∈ (ofList l).entries) :
    e ∈ l :=
  (mem_foldl_insert mem).resolve_left nofun

/-- A list that is in order already is the list of a map. -/
theorem ofList_ascending {l : List (String × α)} (ascending : Ascending l) :
    ofList l = ⟨l, ascending⟩ := by
  refine ext_find? fun name value => ?_
  rw [find?_ofList (NameMap.mk l ascending).keys_nodup]
  exact mem_entries

end NameMap

end Testbed
