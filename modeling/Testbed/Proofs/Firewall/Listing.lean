import Mathlib.Data.List.TakeWhile
import Testbed.Proofs.Firewall
/-!
# Listings of rules

A listing is made of lines, each of which shows a rule or something else between blank characters
(`Shows`), and which end as lines do on one system or another (`Listing`). Every text lists some
rules and no others, and these are what `parseRules` finds (`parseRules_eq_iff`). So nothing but the
rules counts, and a listing made of nothing else says the same.
-/

namespace Testbed

namespace Text

/-- Every text is trimmed text between blank characters. -/
theorem exists_trimmed (cs : List Char) : ∃ before core after,
    cs = before ++ core ++ after ∧ (∀ c ∈ before, isBlank c = true) ∧
      (∀ c ∈ after, isBlank c = true) ∧ Trimmed core := by
  -- what is left of the text backwards when its front and then its back are dropped
  let rest := cs.dropWhile isBlank
  let turned := rest.reverse.dropWhile isBlank
  let after := rest.reverse.takeWhile isBlank
  have parts : rest = turned.reverse ++ after.reverse := by
    rw [← List.reverse_append, List.takeWhile_append_dropWhile, List.reverse_reverse]
  refine ⟨cs.takeWhile isBlank, turned.reverse, after.reverse, ?_, ?_, ?_, ?_, ?_⟩
  · rw [List.append_assoc, ← parts, List.takeWhile_append_dropWhile]
  · exact fun c mem => List.mem_takeWhile_imp mem
  · exact fun c mem => List.mem_takeWhile_imp (List.mem_reverse.1 mem)
  · intro c head
    have first : c ∈ rest.head? := by
      rw [parts, List.head?_append, head]
      rfl
    have kept := List.head?_dropWhile_not isBlank cs
    rw [Option.mem_def.1 first] at kept
    simpa using kept
  · intro c last
    rw [List.getLast?_reverse] at last
    have kept := List.head?_dropWhile_not isBlank rest.reverse
    rw [Option.mem_def.1 last] at kept
    simpa using kept

end Text

namespace Firewall

open Text (Trimmed allBlank)

/-! ## Lines -/

/-- A rule of one of the two chains, as it is listed. -/
structure IsRule (rule : String) : Prop where
  lead : ∃ chain : Chain, chain.lists rule
  whole : '\n' ∉ rule.toList
  trimmed : Trimmed rule.toList

/-- What a line shows: a rule, or none if what stands between its blank characters does not begin
like one. -/
inductive Shows : String → Option String → Prop
  | rule {before rule after : String} : allBlank before → allBlank after → '\n' ∉ before.toList →
      '\n' ∉ after.toList → IsRule rule → Shows (before ++ rule ++ after) (some rule)
  | other {before text after : String} : allBlank before → allBlank after →
      '\n' ∉ (before ++ text ++ after).toList → Trimmed text.toList →
      (∀ chain : Chain, ¬chain.lists text) → Shows (before ++ text ++ after) none

/-- A text of lines, and the rules that these show in order. Lines end with a line feed, or with a
carriage return before it; the last one need not. -/
inductive Listing : List String → String → Prop
  | last {line : String} {shown : Option String} : Shows line shown → Listing shown.toList line
  | line {line ending rest : String} {shown : Option String} {rules : List String} :
      Shows line shown → ending = "\n" ∨ ending = "\r\n" → Listing rules rest →
      Listing (shown.toList ++ rules) (line ++ ending ++ rest)

variable {line text : String} {shown : Option String} {rules : List String}

theorem isRuleLine_eq_false (h : ∀ chain : Chain, ¬chain.lists line) :
    isRuleLine line.toList = false := by
  rw [← Bool.not_eq_true, isRuleLine_iff]
  rintro ⟨chain, lists⟩
  exact h chain lists

theorem trimChars_of_blank {before core after : String} (hb : allBlank before)
    (ha : allBlank after) (h : Trimmed core.toList) :
    Text.trimChars (before ++ core ++ after).toList = core.toList := by
  rw [String.toList_append, String.toList_append]
  exact Text.trimChars_between (List.all_eq_true.1 hb) (List.all_eq_true.1 ha) h

/-- A single line gives the rule that it shows. -/
theorem Shows.parseRules (shows : Shows line shown) : parseRules line = shown.toList := by
  unfold Firewall.parseRules
  cases shows with
  | rule hb ha wholeBefore wholeAfter rule =>
    have whole := rule.whole
    have listed := isRuleLine_iff.2 rule.lead
    rw [Text.split_of_not_mem (by simp [wholeBefore, wholeAfter, whole]), List.map_singleton,
      trimChars_of_blank hb ha rule.trimmed, List.filter_cons_of_pos listed, List.filter_nil,
      List.map_singleton, String.ofList_toList]
    rfl
  | other hb ha whole trimmed other =>
    have skipped := isRuleLine_eq_false other
    rw [Text.split_of_not_mem whole, List.map_singleton, trimChars_of_blank hb ha trimmed,
      List.filter_cons_of_neg (by simp [skipped])]
    rfl

/-- A carriage return at the end of a line is blank. -/
theorem Shows.returned (shows : Shows line shown) : Shows (line ++ "\r") shown := by
  have blank {after : String} (ha : allBlank after) : allBlank (after ++ "\r") := by
    unfold allBlank at ha ⊢
    rw [String.toList_append, List.all_append, ha]
    rfl
  cases shows with
  | rule hb ha wholeBefore wholeAfter rule =>
    rw [String.append_assoc]
    exact .rule hb (blank ha) wholeBefore (by simpa using wholeAfter) rule
  | other hb ha whole trimmed other =>
    rw [String.append_assoc]
    exact .other hb (blank ha) (by simpa using whole) trimmed other

/-- Every line shows something. -/
theorem exists_shows (whole : '\n' ∉ line.toList) : ∃ shown, Shows line shown := by
  obtain ⟨before, core, after, eq, hb, ha, trimmed⟩ := Text.exists_trimmed line.toList
  have cut : line = String.ofList before ++ String.ofList core ++ String.ofList after := by
    rw [← String.ofList_append, ← String.ofList_append, ← eq, String.ofList_toList]
  rw [cut] at whole ⊢
  have blankBefore : allBlank (String.ofList before) := by simpa [allBlank] using hb
  have blankAfter : allBlank (String.ofList after) := by simpa [allBlank] using ha
  have trimmed : Trimmed (String.ofList core).toList := by rwa [String.toList_ofList]
  by_cases lead : ∃ chain : Chain, chain.lists (String.ofList core)
  · simp only [String.toList_append, List.mem_append, not_or] at whole
    exact ⟨_, .rule blankBefore blankAfter whole.1.1 whole.2 ⟨lead, whole.1.2, trimmed⟩⟩
  · exact ⟨none, .other blankBefore blankAfter whole trimmed (not_exists.1 lead)⟩

/-! ## Listings -/

theorem Listing.parseRules (listing : Listing rules text) : parseRules text = rules := by
  induction listing with
  | last shows => exact shows.parseRules
  | @line line ending rest shown rules shows ends _ ih =>
    rcases ends with rfl | rfl
    · rw [parseRules_append, shows.parseRules, ih]
    · have cut : line ++ "\r\n" ++ rest = line ++ "\r" ++ "\n" ++ rest :=
        String.toList_injective (by simp)
      rw [cut, parseRules_append, shows.returned.parseRules, ih]

/-- Every text lists some rules. -/
theorem exists_listing (text : String) : ∃ rules, Listing rules text := by
  by_cases ended : '\n' ∈ text.toList
  · obtain ⟨front, back, cut, whole⟩ := List.eq_append_cons_of_mem ended
    have whole : '\n' ∉ (String.ofList front).toList := by rwa [String.toList_ofList]
    obtain ⟨shown, shows⟩ := exists_shows whole
    obtain ⟨rules, listing⟩ := exists_listing (String.ofList back)
    have lines : text = String.ofList front ++ "\n" ++ String.ofList back := by
      refine String.toList_injective ?_
      simp [cut]
    rw [lines]
    exact ⟨_, .line shows (.inl rfl) listing⟩
  · obtain ⟨shown, shows⟩ := exists_shows ended
    exact ⟨_, .last shows⟩
termination_by text.toList.length
decreasing_by
  rw [cut]
  simp
  omega

/-- The rules that are found in a text are those that it lists. -/
theorem parseRules_eq_iff : parseRules text = rules ↔ Listing rules text := by
  constructor
  · rintro rfl
    obtain ⟨rules, listing⟩ := exists_listing text
    rwa [listing.parseRules]
  · exact Listing.parseRules

/-- Nothing but rules is listed. -/
theorem Listing.isRule (listing : Listing rules text) : ∀ rule ∈ rules, IsRule rule := by
  have shows_isRule {line : String} {shown : Option String} (shows : Shows line shown) :
      ∀ rule ∈ shown.toList, IsRule rule := by
    cases shows with
    | rule _ _ _ _ rule => simpa using rule
    | other => simp
  induction listing with
  | last shows => exact shows_isRule shows
  | line shows _ _ ih =>
    intro rule mem
    rcases List.mem_append.1 mem with here | later
    · exact shows_isRule shows rule here
    · exact ih rule later

/-- A rule by itself is a line that shows it. -/
theorem IsRule.shows {rule : String} (h : IsRule rule) : Shows rule (some rule) := by
  have alone : "" ++ rule ++ "" = rule := by simp
  have shows : Shows ("" ++ rule ++ "") (some rule) :=
    .rule rfl rfl (by simp) (by simp) h
  rwa [alone] at shows

/-- Rules line by line list themselves. -/
theorem listing_joined (isRule : ∀ rule ∈ rules, IsRule rule) :
    Listing rules ("\n".intercalate rules) := by
  induction rules with
  | nil =>
    have noRule : ∀ chain : Chain, ¬chain.lists "" := by
      intro chain
      cases chain <;> decide
    have shows : Shows ("" ++ "" ++ "") none := .other rfl rfl (by simp) .nil noRule
    exact .last shows
  | cons rule rest ih =>
    have here := (isRule rule List.mem_cons_self).shows
    cases rest with
    | nil => exact .last here
    | cons next rest =>
      have later := ih fun r mem => isRule r (List.mem_cons_of_mem rule mem)
      have joined : "\n".intercalate (rule :: next :: rest) =
          rule ++ "\n" ++ "\n".intercalate (next :: rest) := String.intercalate_cons_cons
      rw [joined]
      exact .line here (.inl rfl) later

theorem isRule_text {r : FilterRule} (plain : '\n' ∉ r.address.toList) : IsRule r.text where
  lead := ⟨r.chain, r.lists_text⟩
  whole := FilterRule.newline_not_mem_text plain
  trimmed := r.trimmed_text

/-- The rules found in a text are those that it lists, whatever else it says. Texts one below the
other list the rules of both, and rules one below the other list themselves: those found in a text
and those that isolate a node. -/
theorem listed_rules_found :
    (∀ text rules, parseRules text = rules ↔ Listing rules text) ∧
    (∀ a b, parseRules (a ++ "\n" ++ b) = parseRules a ++ parseRules b) ∧
    (∀ text, parseRules ("\n".intercalate (parseRules text)) = parseRules text) ∧
    ∀ subnet gateway : String, '\n' ∉ subnet.toList → '\n' ∉ gateway.toList →
      let rules := (partitionRules subnet gateway).map FilterRule.text
      parseRules ("\n".intercalate rules) = rules := by
  refine ⟨fun _ _ => parseRules_eq_iff, parseRules_append, fun text => ?_, ?_⟩
  · obtain ⟨rules, listing⟩ := exists_listing text
    rw [listing.parseRules]
    exact (listing_joined listing.isRule).parseRules
  · intro subnet gateway plainSubnet plainGateway
    refine (listing_joined fun rule mem => ?_).parseRules
    obtain ⟨r, isolates, rfl⟩ := List.mem_map.1 mem
    simp only [partitionRules, List.mem_cons, List.not_mem_nil, or_false] at isolates
    rcases isolates with rfl | rfl | rfl | rfl
    · exact isRule_text plainGateway
    · exact isRule_text plainSubnet
    · exact isRule_text plainGateway
    · exact isRule_text plainSubnet

/-- A rule behind an ideographic space on a line that ends with a carriage return, a line that only
begins like a rule as long as it is not trimmed, and a line that a carriage return does not end. -/
theorem listed_rules_found_oddlyBlank :
    Listing ["-A INPUT -s 10.0.0.1 -j ACCEPT", "-A OUTPUT a\r-A INPUT b"]
        "\u3000-A INPUT -s 10.0.0.1 -j ACCEPT\r\n-A INPUT \n-A OUTPUT a\r-A INPUT b" ∧
      parseRules ("\n".intercalate ((partitionRules "172.20.0.0/16" "172.20.0.1").map
        FilterRule.text)) = ["-A INPUT -s 172.20.0.1 -j ACCEPT",
          "-A INPUT -s 172.20.0.0/16 -j DROP", "-A OUTPUT -d 172.20.0.1 -j ACCEPT",
          "-A OUTPUT -d 172.20.0.0/16 -j DROP"] := by
  obtain ⟨found, -, -, isolation⟩ := listed_rules_found
  exact ⟨(found _ _).1 (by decide +kernel),
    isolation "172.20.0.0/16" "172.20.0.1" (by decide) (by decide)⟩

end Firewall

end Testbed
