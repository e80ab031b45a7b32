import Testbed.Firewall
import Testbed.Lab.Engine
/-!
# Rules as text

Every rule is listed by its own chain only, in a line that says nothing else. What the packet filter
lists therefore gives back the rules that it has (`parseRules_rules`).
-/

namespace Testbed

namespace Text

theorem split_append {sep : Char} {a b : List Char} :
    split sep (a ++ sep :: b) = split sep a ++ split sep b := by
  induction a with
  | nil => simp [split]
  | cons c a ih =>
    simp only [List.cons_append, split, ih]
    split
    · rfl
    · cases h : split sep a with
      | nil => exact absurd h (split_ne_nil sep a)
      | cons piece pieces => rfl

/-- What has no separator goes before the first piece of what follows. -/
theorem split_append_of_not_mem {sep : Char} {as bs piece : List Char} {pieces : List (List Char)}
    (whole : sep ∉ as) (rest : split sep bs = piece :: pieces) :
    split sep (as ++ bs) = (as ++ piece) :: pieces := by
  induction as with
  | nil => exact rest
  | cons c as ih =>
    have ne : c ≠ sep := (List.ne_of_not_mem_cons whole).symm
    simp [split, ne, ih (List.not_mem_of_not_mem_cons whole)]

theorem split_of_not_mem {sep : Char} {line : List Char} (whole : sep ∉ line) :
    split sep line = [line] := by
  induction line with
  | nil => rfl
  | cons c line ih =>
    have ne : c ≠ sep := fun eq => whole (eq ▸ List.mem_cons_self)
    simp [split, ne, ih fun mem => whole (List.mem_cons_of_mem _ mem)]

/-- Neither end is blank. -/
structure Trimmed (cs : List Char) : Prop where
  head : ∀ c ∈ cs.head?, isBlank c = false
  last : ∀ c ∈ cs.getLast?, isBlank c = false

theorem Trimmed.nil : Trimmed [] := ⟨by simp, by simp⟩

theorem dropWhile_of_head {p : Char → Bool} {cs : List Char}
    (h : ∀ c ∈ cs.head?, p c = false) : cs.dropWhile p = cs := by
  cases cs with
  | nil => rfl
  | cons c rest =>
    have stays : p c = false := h c rfl
    exact List.dropWhile_cons_of_neg (by simp [stays])

/-- Trimming takes all blank characters from both ends. -/
theorem trimChars_between {before core after : List Char} (hb : ∀ c ∈ before, isBlank c = true)
    (ha : ∀ c ∈ after, isBlank c = true) (h : Trimmed core) :
    trimChars (before ++ core ++ after) = core := by
  unfold trimChars
  rw [List.append_assoc, List.dropWhile_append_of_pos hb]
  cases core with
  | nil =>
    have gone : (after ++ []).dropWhile isBlank = [] := List.dropWhile_append_of_pos ha
    rw [List.append_nil] at gone
    rw [List.nil_append, gone]
    rfl
  | cons c rest =>
    have front : (c :: rest ++ after).dropWhile isBlank = c :: rest ++ after :=
      dropWhile_of_head h.head
    have back : (c :: rest).reverse.dropWhile isBlank = (c :: rest).reverse := by
      refine dropWhile_of_head ?_
      rw [List.head?_reverse]
      exact h.last
    have blank : ∀ d ∈ after.reverse, isBlank d = true := fun d mem => ha d (List.mem_reverse.1 mem)
    rw [front, List.reverse_append, List.dropWhile_append_of_pos blank, back,
      List.reverse_reverse]

theorem Trimmed.trimChars_eq {cs : List Char} (h : Trimmed cs) : trimChars cs = cs := by
  have kept := trimChars_between (List.forall_mem_nil _) (List.forall_mem_nil _) h
  rwa [List.nil_append, List.append_nil] at kept

end Text

namespace Chain

/-- What the lines of a chain begin with. -/
def lead (chain : Chain) : List Char := ("-A " ++ chain.text ++ " ").toList

/-- Whether a line is a rule of the chain. -/
def lists (chain : Chain) (line : String) : Bool := chain.lead.isPrefixOf line.toList

/-- No line is a rule of both chains. -/
theorem lists_unique {chain other : Chain} {line : String} (h : chain.lists line)
    (h' : other.lists line) : chain = other := by
  unfold lists at h h'
  rw [List.isPrefixOf_iff_prefix] at h h'
  obtain ⟨rest, eq⟩ := h
  rw [← eq] at h'
  cases chain <;> cases other
  · rfl
  · simp [lead, text] at h'
  · simp [lead, text] at h'
  · rfl

end Chain

theorem Firewall.isRuleLine_iff {line : String} :
    isRuleLine line.toList ↔ ∃ chain : Chain, chain.lists line := by
  constructor
  · intro h
    rcases Bool.or_eq_true_iff.1 h with h | h
    · exact ⟨.input, h⟩
    · exact ⟨.output, h⟩
  · rintro ⟨chain, h⟩
    cases chain
    · exact Bool.or_eq_true_iff.2 (.inl h)
    · exact Bool.or_eq_true_iff.2 (.inr h)

namespace FilterRule

theorem toList_text (r : FilterRule) : r.text.toList =
    r.chain.lead ++ (r.chain.addressFlag.toList ++ ' ' :: r.address.toList ++ " -j ".toList ++
      r.target.text.toList) := by
  simp [text, Text.spaced, words, Chain.lead]

theorem getLast?_text (r : FilterRule) :
    r.text.toList.getLast? = r.target.text.toList.getLast? := by
  rw [toList_text, ← List.append_assoc, List.getLast?_append]
  cases r.target <;> rfl

theorem lists_text (r : FilterRule) : r.chain.lists r.text := by
  unfold Chain.lists
  rw [List.isPrefixOf_iff_prefix, toList_text]
  exact List.prefix_append _ _

theorem newline_not_mem_text {r : FilterRule} (plain : '\n' ∉ r.address.toList) :
    '\n' ∉ r.text.toList := by
  rw [toList_text]
  obtain ⟨chain, address, target⟩ := r
  cases chain <;> cases target <;>
    simpa [Chain.lead, Chain.text, Chain.addressFlag, Target.text] using plain

theorem trimmed_text (r : FilterRule) : Text.Trimmed r.text.toList where
  head := by
    obtain ⟨front, first⟩ : ∃ front, r.chain.lead = '-' :: front := by
      cases r.chain <;> exact ⟨_, rfl⟩
    rw [toList_text, first]
    rintro c ⟨⟩
    rfl
  last := by
    obtain ⟨b, ends, full⟩ : ∃ b, r.target.text.toList.getLast? = some b ∧
        Text.isBlank b = false := by
      cases r.target
      · exact ⟨'T', rfl, rfl⟩
      · exact ⟨'P', rfl, rfl⟩
    rw [getLast?_text, ends]
    rintro c ⟨⟩
    exact full

end FilterRule

/-! ## What the packet filter lists -/

namespace Firewall

theorem parseRules_append (a b : String) :
    parseRules (a ++ "\n" ++ b) = parseRules a ++ parseRules b := by
  unfold parseRules
  have chars : (a ++ "\n" ++ b).toList = a.toList ++ '\n' :: b.toList := by simp
  rw [chars, Text.split_append]
  simp

/-- A listing says what each of its lines says. -/
theorem parseRules_lines (lines : List String) :
    parseRules (String.join (lines.map (· ++ "\n"))) = lines.flatMap parseRules := by
  induction lines with
  | nil => rfl
  | cons l lines ih =>
    rw [List.map_cons, String.join_cons, parseRules_append, ih, List.flatMap_cons]

/-- What the filter lists before any rule is none. -/
theorem parseRules_listing (table : List String) :
    parseRules (Lab.SimulatedContainer.policies ++ String.join (table.map (· ++ "\n"))) =
      table.flatMap parseRules := by
  have policies : Lab.SimulatedContainer.policies = String.join
      (["-P INPUT ACCEPT", "-P FORWARD ACCEPT", "-P OUTPUT ACCEPT"].map (· ++ "\n")) := rfl
  have none :
      ["-P INPUT ACCEPT", "-P FORWARD ACCEPT", "-P OUTPUT ACCEPT"].flatMap parseRules = [] := by
    decide
  rw [policies, ← String.join_append, ← List.map_append, parseRules_lines, List.flatMap_append,
    none, List.nil_append]

theorem parseRules_text {r : FilterRule} (plain : '\n' ∉ r.address.toList) :
    parseRules r.text = [r.text] := by
  have listed : isRuleLine r.text.toList = true := isRuleLine_iff.2 ⟨r.chain, r.lists_text⟩
  unfold parseRules
  rw [Text.split_of_not_mem (FilterRule.newline_not_mem_text plain)]
  simp [r.trimmed_text.trimChars_eq, listed]

/-- The listing of such rules gives them back. -/
theorem parseRules_rules {table : List String}
    (rules : ∀ l ∈ table, ∃ r : FilterRule, l = r.text ∧ '\n' ∉ r.address.toList) :
    parseRules (Lab.SimulatedContainer.policies ++ String.join (table.map (· ++ "\n"))) =
      table := by
  rw [parseRules_listing]
  induction table with
  | nil => rfl
  | cons l table ih =>
    obtain ⟨r, rfl, plain⟩ := rules l List.mem_cons_self
    rw [List.flatMap_cons, parseRules_text plain,
      ih fun k hk => rules k (List.mem_cons_of_mem _ hk)]
    rfl

/-! ## Tables of rules -/

/-- The rules of one chain that isolate a node. -/
def isolation (info : NetworkInfo) (chain : Chain) : List String :=
  [FilterRule.text ⟨chain, info.gateway, .accept⟩, FilterRule.text ⟨chain, info.subnet, .drop⟩]

/-- Each chain has the first rules of those that isolate a node, and there are no other rules. -/
structure Ordered (info : NetworkInfo) (table : List String) : Prop where
  chains : ∀ chain : Chain, table.filter chain.lists <+: isolation info chain
  only : ∀ line ∈ table, ∃ chain : Chain, chain.lists line

/-- Each chain has all rules that isolate a node. -/
def Isolated (info : NetworkInfo) (table : List String) : Prop :=
  ∀ chain : Chain, table.filter chain.lists = isolation info chain

section

variable {info : NetworkInfo} {table : List String} {line : String} {chain : Chain}

theorem Ordered.nil : Ordered info [] := ⟨fun _ => List.nil_prefix, by simp⟩

/-- Every rule is one of those that isolate a node. -/
theorem Ordered.mem_isolation (h : Ordered info table) (mem : line ∈ table) :
    ∃ chain, line ∈ isolation info chain := by
  obtain ⟨chain, own⟩ := h.only line mem
  exact ⟨chain, (h.chains chain).subset (List.mem_filter.2 ⟨mem, own⟩)⟩

theorem Ordered.append (h : Ordered info table) (own : chain.lists line)
    (next : table.filter chain.lists ++ [line] <+: isolation info chain) :
    Ordered info (table ++ [line]) where
  chains other := by
    rw [List.filter_append]
    by_cases same : chain = other
    · subst same
      simpa [own] using next
    · have stranger : other.lists line = false := by
        rw [← Bool.not_eq_true]
        exact fun h' => same (Chain.lists_unique own h')
      simpa [stranger] using h.chains other
  only l hl := by
    rcases List.mem_append.1 hl with hl | hl
    · exact h.only l hl
    · exact ⟨chain, by rw [List.mem_singleton.1 hl]; exact own⟩

/-- Flushing a chain leaves no rule of it, and all of the other. -/
theorem filter_flush {other : Chain} :
    (table.filter fun l => !chain.lists l).filter other.lists =
      if other = chain then [] else table.filter other.lists := by
  rw [List.filter_filter]
  split
  · rename_i same
    rw [same, List.filter_eq_nil_iff]
    simp
  · rename_i different
    refine List.filter_congr fun l _ => ?_
    cases h : other.lists l with
    | false => rfl
    | true =>
      have stranger : chain.lists l = false := by
        rw [← Bool.not_eq_true]
        exact fun h' => different (Chain.lists_unique h h')
      simp [stranger]

theorem Ordered.flush (h : Ordered info table) (chain : Chain) :
    Ordered info (table.filter fun l => !chain.lists l) where
  chains other := by
    rw [filter_flush]
    split
    · exact List.nil_prefix
    · exact h.chains other
  only l hl := h.only l (List.mem_filter.1 hl).1

/-- A table of no rules of either chain is empty. -/
theorem Ordered.eq_nil (h : Ordered info table)
    (none : ∀ chain : Chain, table.filter chain.lists = []) : table = [] := by
  rw [List.eq_nil_iff_forall_not_mem]
  intro l hl
  obtain ⟨chain, own⟩ := h.only l hl
  have mem : l ∈ table.filter chain.lists := List.mem_filter.2 ⟨hl, own⟩
  simp [none chain] at mem

/-- A chain without the exception for the gateway has no rule. -/
theorem Ordered.append_accept (h : Ordered info table)
    (missing : FilterRule.text ⟨chain, info.gateway, .accept⟩ ∉ table) :
    Ordered info (table ++ [FilterRule.text ⟨chain, info.gateway, .accept⟩]) := by
  have own := FilterRule.lists_text ⟨chain, info.gateway, .accept⟩
  refine h.append own ?_
  cases eq : table.filter chain.lists with
  | nil => exact ⟨_, rfl⟩
  | cons a rest =>
    have first := h.chains chain
    rw [eq] at first
    obtain ⟨rfl, -⟩ := List.cons_prefix_cons.1 first
    have mem : FilterRule.text ⟨chain, info.gateway, .accept⟩ ∈ table.filter chain.lists := by
      rw [eq]
      exact List.mem_cons_self
    exact absurd (List.mem_filter.1 mem).1 missing

/-- A chain with the exception for the gateway can only lack the rule that drops. -/
theorem Ordered.append_drop (h : Ordered info table)
    (first : FilterRule.text ⟨chain, info.gateway, .accept⟩ ∈ table)
    (missing : FilterRule.text ⟨chain, info.subnet, .drop⟩ ∉ table) :
    Ordered info (table ++ [FilterRule.text ⟨chain, info.subnet, .drop⟩]) := by
  have own := FilterRule.lists_text ⟨chain, info.subnet, .drop⟩
  have mem : FilterRule.text ⟨chain, info.gateway, .accept⟩ ∈ table.filter chain.lists :=
    List.mem_filter.2 ⟨first, FilterRule.lists_text ⟨chain, info.gateway, .accept⟩⟩
  refine h.append own ?_
  match eq : table.filter chain.lists, h.chains chain with
  | [], _ => simp [eq] at mem
  | [a], front =>
    obtain ⟨rfl, -⟩ := List.cons_prefix_cons.1 front
    exact List.prefix_refl _
  | a :: b :: rest, front =>
    obtain ⟨-, front⟩ := List.cons_prefix_cons.1 front
    obtain ⟨rfl, -⟩ := List.cons_prefix_cons.1 front
    have there : FilterRule.text ⟨chain, info.subnet, .drop⟩ ∈ table.filter chain.lists := by
      rw [eq]
      simp
    exact absurd (List.mem_filter.1 there).1 missing

theorem accept_ne_drop (chain : Chain) (a b : String) :
    FilterRule.text ⟨chain, a, .accept⟩ ≠ FilterRule.text ⟨chain, b, .drop⟩ := by
  intro eq
  have last := congrArg (fun l => l.toList.getLast?) eq
  simp only [FilterRule.getLast?_text] at last
  exact absurd last (by decide)

/-- A node is isolated when both chains drop what comes from the subnet. -/
theorem Ordered.isolated (h : Ordered info table)
    (drops : ∀ chain : Chain, FilterRule.text ⟨chain, info.subnet, .drop⟩ ∈ table) :
    Isolated info table := by
  intro chain
  have mem : FilterRule.text ⟨chain, info.subnet, .drop⟩ ∈ table.filter chain.lists :=
    List.mem_filter.2 ⟨drops chain, FilterRule.lists_text ⟨chain, info.subnet, .drop⟩⟩
  match eq : table.filter chain.lists, h.chains chain with
  | [], _ => simp [eq] at mem
  | [a], front =>
    obtain ⟨rfl, -⟩ := List.cons_prefix_cons.1 front
    rw [eq, List.mem_singleton] at mem
    exact absurd mem.symm (accept_ne_drop chain _ _)
  | a :: b :: rest, front =>
    obtain ⟨rfl, drop⟩ := List.cons_prefix_cons.1 front
    obtain ⟨rfl, others⟩ := List.cons_prefix_cons.1 drop
    rw [List.prefix_nil.1 others]
    rfl

theorem Isolated.mem (h : Isolated info table) (mem : line ∈ isolation info chain) :
    line ∈ table := by
  rw [← h chain] at mem
  exact (List.mem_filter.1 mem).1

end

end Firewall

end Testbed
