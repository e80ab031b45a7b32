import Testbed.Layout
import Testbed.Proofs.Json.Meaning
/-!
# Layouts as the bootstrap tool takes them

A layout that was rendered is read again as it was, whatever its endpoints, its numbers and its
cluster are (`layout_roundTrip`). So a layout has one rendered form, and reading a document and
rendering what was read leads to it.
-/

namespace Testbed

/-! ## Identifiers -/

namespace Uuid

theorem digitValue?_hexDigit (n : Nat) : digitValue? (hexDigit n) = some (n % 16) := by
  have each : ∀ d < 16, digitValue? (hexDigit d) = some d := by decide
  have here := each (n % 16) (Nat.mod_lt _ (by decide))
  rwa [hexDigit, Nat.mod_mod, ← hexDigit] at here

/-- Digits are read from the left, and the last one is what is below 16. -/
theorem foldl_digits (k n : Nat) :
    ((List.range k).map fun i => n / Nat.pow 16 (k - 1 - i) % 16).foldl (fun n d => n * 16 + d) 0 =
      n % Nat.pow 16 k := by
  induction k generalizing n with
  | zero => exact (Nat.mod_one n).symm
  | succ k ih =>
    have power (i : Nat) : Nat.pow 16 (i + 1) = 16 * Nat.pow 16 i := Nat.pow_succ'
    have upper : (List.range k).map (fun i => n / Nat.pow 16 (k + 1 - 1 - i) % 16) =
        (List.range k).map fun i => n / 16 / Nat.pow 16 (k - 1 - i) % 16 := by
      refine List.map_congr_left fun i mem => ?_
      have below : i < k := List.mem_range.1 mem
      rw [show k + 1 - 1 - i = k - 1 - i + 1 by omega, power, Nat.div_div_eq_div_mul]
    have last : n / Nat.pow 16 (k + 1 - 1 - k) = n := by
      rw [show k + 1 - 1 - k = 0 by omega]
      exact Nat.div_one n
    rw [List.range_succ, List.map_append, upper, List.foldl_append, ih]
    simp only [List.map_cons, List.map_nil, List.foldl_cons, List.foldl_nil, last]
    rw [power, Nat.mod_mul]
    omega

theorem ofDigits?_digits (u : Uuid) : ofDigits? u.digits = some u := by
  have count : u.digits.length = 32 := by simp [digits]
  have values : u.digits.mapM digitValue? =
      some ((List.range 32).map fun i => u.bits.toNat / Nat.pow 16 (32 - 1 - i) % 16) := by
    unfold digits
    rw [List.mapM_map]
    simp only [Function.comp_def, digitValue?_hexDigit]
    exact List.mapM_pure
  have small : u.bits.toNat < Nat.pow 16 32 := u.bits.isLt
  rw [ofDigits?, if_pos count, values, Option.map_some, foldl_digits, Nat.mod_eq_of_lt small,
    BitVec.ofNat_toNat, BitVec.setWidth_eq]

/-- The hyphens stand where they are expected. -/
theorem ofHyphenated?_groups {a b c d e : List Char} (first : a.length = 8) (second : b.length = 4)
    (third : c.length = 4) (fourth : d.length = 4) (fifth : e.length = 12) :
    ofHyphenated? (a ++ '-' :: b ++ '-' :: c ++ '-' :: d ++ '-' :: e) =
      ofDigits? (a ++ b ++ c ++ d ++ e) := by
  simp [ofHyphenated?, List.drop_append, first, second, third, fourth, fifth,
    List.drop_of_length_le]

theorem ofHyphenated?_chars (u : Uuid) : ofHyphenated? u.chars = ofDigits? u.digits := by
  have count : u.digits.length = 32 := by simp [digits]
  have group (i : Nat) :
      (u.digits.drop i).take 4 ++ u.digits.drop (i + 4) = u.digits.drop i := by
    rw [← List.drop_drop]
    exact List.take_append_drop 4 _
  rw [chars, ofHyphenated?_groups (by simp [count]) (by simp [count]) (by simp [count])
    (by simp [count]) (by simp [count])]
  simp only [List.append_assoc]
  rw [group 16, group 12, group 8, List.take_append_drop]

/-- A digit starts neither a scheme nor braces. -/
theorem hexDigit_plain (n : Nat) : (hexDigit n).toLower ≠ 'u' ∧ hexDigit n ≠ '\x7b' := by
  have each : ∀ d < 16, (hexDigit d).toLower ≠ 'u' ∧ hexDigit d ≠ '\x7b' := by decide
  have here := each (n % 16) (Nat.mod_lt _ (by decide))
  rwa [hexDigit, Nat.mod_mod, ← hexDigit] at here

theorem ofText?_text (u : Uuid) : ofText? u.text = some u := by
  obtain ⟨plain, unbraced⟩ := hexDigit_plain (u.bits.toNat / Nat.pow 16 (31 - 0))
  have scheme_absent : ¬(u.chars.take scheme.length).map Char.toLower = scheme :=
    fun same => plain (List.cons.inj same).1
  have braces_absent : ∀ rest, u.chars = '\x7b' :: rest → False :=
    fun _ same => unbraced (List.cons.inj same).1
  have count : ¬u.chars.length = 32 := by simp [chars, digits]
  rw [ofText?, text, String.toList_ofList, ofChars?, if_neg scheme_absent, if_neg count,
    ofHyphenated?_chars, ofDigits?_digits]
  exact braces_absent

end Uuid

/-! ## Pieces -/

open Json

theorem conveys_int64 (n : Int64) : (Shape.whole .i64).Conveys (ofInt64 n) int64? n := by
  have low := n.le_toInt
  have high := n.toInt_lt
  refine ⟨_, Shape.takes_whole ?_ (by omega) (by omega), ?_⟩
  · simp only [Range.i64]
    omega
  · simp [int64?]

theorem ReplicationMode.spells : Spells ReplicationMode.words := by
  intro a
  cases a
  exact ⟨_, rfl, by decide, by decide⟩

theorem LayoutStripe.conveyed (s : LayoutStripe) : shape.Conveys s.toJson ofJson? s := by
  obtain ⟨servers, servers_take, servers_meaning⟩ := Shape.conveys_texts (l := s.logServers)
  refine ⟨_, Shape.takes_record (.given servers_take .done) (by decide), ?_⟩
  simp [ofJson?, values?, servers_meaning]

theorem LayoutSegment.conveyed (s : LayoutSegment) : shape.Conveys s.toJson ofJson? s := by
  obtain ⟨mode, mode_takes, mode_meaning⟩ :=
    Shape.conveys_word ReplicationMode.spells s.replicationMode
  obtain ⟨start, start_takes, start_meaning⟩ := conveys_int64 s.start
  obtain ⟨stop, stop_takes, stop_meaning⟩ := conveys_int64 s.stop
  obtain ⟨stripes, stripes_take, stripes_meaning⟩ := Shape.forall₂_conveys (l := s.stripes)
    (c := id) fun stripe _ => stripe.conveyed
  refine ⟨_, Shape.takes_record (.given mode_takes <| .given start_takes <| .given stop_takes <|
    .given (Shape.takes_list stripes_take) .done) (by decide), ?_⟩
  simp [ofJson?, values?, mode_meaning, start_meaning, stop_meaning, stripes_meaning]

/-! ## Layouts -/

namespace Layout

theorem conveyed (l : Layout) : shape.Conveys l.toJson ofJson? l := by
  obtain ⟨servers, servers_take, servers_meaning⟩ := Shape.conveys_texts (l := l.layoutServers)
  obtain ⟨sequencers, sequencers_take, sequencers_meaning⟩ :=
    Shape.conveys_texts (l := l.sequencers)
  obtain ⟨segments, segments_take, segments_meaning⟩ := Shape.forall₂_conveys (l := l.segments)
    (c := id) fun segment _ => segment.conveyed
  obtain ⟨silent, silent_takes, silent_meaning⟩ :=
    Shape.conveys_texts (l := l.unresponsiveServers)
  obtain ⟨epoch, epoch_takes, epoch_meaning⟩ := conveys_int64 l.epoch
  refine ⟨_, Shape.takes_record (.given servers_take <| .given sequencers_take <|
    .given (Shape.takes_list segments_take) <| .given silent_takes <| .given epoch_takes <|
    .given (Shape.takes_uuid l.clusterId.ofText?_text) .done) (by decide), ?_⟩
  simp [ofJson?, values?, servers_meaning, sequencers_meaning, segments_meaning, silent_meaning,
    epoch_meaning, text?, Uuid.ofText?_text]

/-- A rendered layout is read as it was, and rendering what was read off any document is final. -/
theorem layout_roundTrip :
    (∀ l : Layout, parse l.render = .ok l) ∧
      ∀ document l, parse document = .ok l → (parse l.render).map render = .ok l.render := by
  have as_it_was (l : Layout) : parse l.render = .ok l := l.conveyed.decode .pretty
  exact ⟨as_it_was, fun _ l _ => by rw [as_it_was l]; rfl⟩

/-- Every number at a limit, an endpoint that has to be escaped, and a segment without stripes. -/
def extreme : Layout where
  layoutServers := ["a\"b\\c\n", "ü"]
  sequencers := []
  segments := [⟨.chainReplication, Int64.minValue, Int64.maxValue, []⟩,
    ⟨.chainReplication, 0, -1, [⟨[]⟩]⟩]
  unresponsiveServers := [""]
  epoch := Int64.minValue
  clusterId := ⟨BitVec.allOnes 128⟩

theorem extreme_roundTrip : parse extreme.render = .ok extreme ∧
    (parse extreme.render).map render = .ok extreme.render := by
  have read : parse extreme.render = .ok extreme := layout_roundTrip.1 extreme
  exact ⟨read, layout_roundTrip.2 extreme.render extreme read⟩

end Layout

end Testbed
