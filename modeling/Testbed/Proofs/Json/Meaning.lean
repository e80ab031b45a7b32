import Testbed.Params.Format
import Testbed.Proofs.Json.Normality
import Testbed.Proofs.Json.Scanning
/-!
# What written values stand for

A shape conveys a meaning when it takes what was written and gives something that has this meaning.
Lists, tables and optional values convey what their parts convey, and a document that a value was
written to, in either form, decodes to what its shape conveys (`Shape.Conveys.decode`).
-/

namespace Testbed.Json

variable {α β : Type} {s : Shape} {j : Json} {f : Json → Option β} {b : β}

/-- The shape takes the value, and what it gives stands for `b`. -/
def Shape.Conveys (s : Shape) (j : Json) (f : Json → Option β) (b : β) : Prop :=
  ∃ j', s.Takes j j' ∧ f j' = some b

/-- Whoever reads a document gets what was written to it. -/
theorem Shape.Conveys.decode (conveys : s.Conveys j f b) {document : String}
    (writes : j.Written document) : decode s f document = .ok b := by
  obtain ⟨j', takes, meaning⟩ := conveys
  have read := takes []
  rw [List.append_nil] at read
  simp [Testbed.decode, decodeScanned, Shape.read, writes.tokens, read, meaning, bind, Except.bind]

/-- What a document decodes to is what some value that the shape gives stands for. -/
theorem reads_of_decode {document : String} (decodes : decode s f document = .ok b) :
    ∃ j, s.Reads j ∧ f j = some b := by
  obtain ⟨j, read, decodes⟩ := of_bind_ok decodes
  obtain ⟨⟨j', rest⟩, read, ends⟩ := of_bind_ok read
  have same : j' = j := by
    split at ends
    · rename_i eq
      exact (Prod.mk.inj eq).1.trans (Except.ok.inj ends)
    · cases ends
  cases meaning : f j with
  | none =>
    rw [meaning] at decodes
    cases decodes
  | some a =>
    rw [meaning] at decodes
    cases decodes
    exact ⟨j, ⟨_, rest, same ▸ read⟩, meaning⟩

/-! ## Scalars -/

/-- Every value has a word of its own. -/
def Spells [DecidableEq α] (words : List (String × α)) : Prop :=
  ∀ a, ∃ w, wordOf words a = .text w ∧ w ∈ words.map (·.1) ∧ ofWord? words (.text w) = some a

namespace Shape

theorem conveys_text {expected t : String} :
    (text expected).Conveys (.text t) text? t := ⟨_, takes_text, rfl⟩

theorem conveys_word [DecidableEq α] {words : List (String × α)} (spells : Spells words) (a : α) :
    (oneOf words).Conveys (wordOf words a) (ofWord? words) a := by
  obtain ⟨w, eq, known, meaning⟩ := spells a
  rw [eq]
  exact ⟨.text w, takes_choice known, meaning⟩

theorem conveys_nat {r : Range} {n : Nat} (low : r.low = 0) (high : n ≤ r.high)
    (fits : n < 0x10000000000000000) : (whole r).Conveys (.number n) nat? n :=
  ⟨_, takes_whole ⟨by omega, high⟩ (by omega) (by omega), rfl⟩

/-! ## Lists -/

theorem forall₂_conveys {l : List α} {g : α → Json} {c : α → β}
    (each : ∀ a ∈ l, s.Conveys (g a) f (c a)) :
    ∃ js, List.Forall₂ s.Takes (l.map g) js ∧ js.mapM f = some (l.map c) := by
  induction l with
  | nil => exact ⟨[], .nil, rfl⟩
  | cons a l ih =>
    obtain ⟨j, takes, meaning⟩ := each a List.mem_cons_self
    obtain ⟨js, later, meanings⟩ := ih fun b mem => each b (List.mem_cons_of_mem _ mem)
    exact ⟨j :: js, .cons takes later, by simp [meaning, meanings]⟩

theorem conveys_texts {expected : String} {l : List String} :
    (list (text expected)).Conveys (ofTexts l) texts? l := by
  obtain ⟨js, takes, meaning⟩ := forall₂_conveys (l := l) (g := .text) (c := id)
    fun t _ => conveys_text
  exact ⟨.list js, takes_list takes, by simpa [texts?] using meaning⟩

/-! ## Tables and what is optional -/

theorem members_conveys {l : List (String × α)} {g : α → Json} {c : α → β}
    (each : ∀ e ∈ l, s.Conveys (g e.2) f (c e.2)) :
    ∃ ms, List.Forall₂ s.TakesMember (l.map fun e => (e.1, g e.2)) ms ∧
      ms.map (·.1) = l.map (·.1) ∧
      (ms.mapM fun m => (f m.2).map (m.1, ·)) = some (l.map fun e => (e.1, c e.2)) := by
  induction l with
  | nil => exact ⟨[], .nil, rfl, rfl⟩
  | cons e l ih =>
    obtain ⟨j, takes, meaning⟩ := each e List.mem_cons_self
    obtain ⟨ms, later, names, meanings⟩ := ih fun e mem => each e (List.mem_cons_of_mem _ mem)
    exact ⟨(e.1, j) :: ms, .cons ⟨rfl, takes⟩ later, by simp [names], by simp [meaning, meanings]⟩

theorem conveys_table {m : NameMap α} {g : α → Json} {c : α → β}
    (each : ∀ e ∈ m.entries, s.Conveys (g e.2) f (c e.2)) :
    (table s).Conveys (.object (m.map g).entries) (table? f) (m.map c) := by
  obtain ⟨ms, takes, names, meaning⟩ := members_conveys each
  have ascending : Ascending ms := by
    have ordered : (ms.map (·.1)).Pairwise (· < ·) := names ▸ List.pairwise_map.2 m.ascending
    exact List.pairwise_map.1 ordered
  refine ⟨.object ms, ?_, ?_⟩
  · have taken := takes_table takes
    rw [NameMap.ofList_ascending ascending] at taken
    exact taken
  · rw [table?, meaning]
    exact congrArg some (NameMap.ofList_ascending (m.map c).ascending)

theorem conveys_null : (maybe s).Conveys .null (maybe? f) none := ⟨_, takes_null, rfl⟩

/-- What is there is read as if it had to be. -/
theorem conveys_maybe (conveys : s.Conveys j f b) (there : j ≠ .null) (proper : f .null = none) :
    (maybe s).Conveys j (maybe? f) (some b) := by
  obtain ⟨j', takes, meaning⟩ := conveys
  refine ⟨j', takes_maybe takes there, ?_⟩
  cases j' with
  | null => simp [proper] at meaning
  | _ => simp [maybe?, meaning]

end Shape

end Testbed.Json
