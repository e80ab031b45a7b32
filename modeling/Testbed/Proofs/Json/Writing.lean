import Testbed.Json.Token
import Testbed.Json.Value
/-!
# How values are spaced out

`Json.lexemes` are the tokens of a value. The two written forms of a value have these tokens and
differ in the blanks between them: both are `written` with a `Spacing` (`compact_eq`,
`prettyAt_eq`).
-/

namespace Testbed.Json

/-! ## The tokens of a value -/

/-- The numeral that a whole number is written as. -/
def numeral (n : Int) : Numeral := ⟨decide (n < 0), Nat.toDigits 10 n.natAbs, [], none⟩

mutual

def lexemes : Json → List Token
  | .null => [.null]
  | .bool b => [.bool b]
  | .number n => [.number (numeral n)]
  | .text s => [.text (.ok s)]
  | .list [] => [.leftBracket, .rightBracket]
  | .list (j :: rest) => .leftBracket :: (lexemes j ++ itemLexemes rest ++ [.rightBracket])
  | .object [] => [.leftBrace, .rightBrace]
  | .object ((k, j) :: rest) =>
    .leftBrace :: .text (.ok k) :: .colon :: (lexemes j ++ memberLexemes rest ++ [.rightBrace])

def itemLexemes : List Json → List Token
  | [] => []
  | j :: rest => .comma :: (lexemes j ++ itemLexemes rest)

def memberLexemes : List (String × Json) → List Token
  | [] => []
  | (k, j) :: rest => .comma :: .text (.ok k) :: .colon :: (lexemes j ++ memberLexemes rest)

end

/-! ## Spacing -/

/-- The blanks between tokens: before what starts or ends a level, and after a colon. -/
structure Spacing where
  line : Nat → List Char
  gap : List Char
  line_blank : ∀ indent, ∀ c ∈ line indent, isSpace c = true
  gap_blank : ∀ c ∈ gap, isSpace c = true

namespace Spacing

def none : Spacing := ⟨fun _ => [], [], by simp, by simp⟩

def lines : Spacing where
  line := newline
  gap := [' ']
  line_blank indent c mem := by
    rcases List.mem_cons.1 mem with rfl | mem
    · decide
    · rw [List.eq_of_mem_replicate mem]
      decide
  gap_blank c mem := by
    rw [List.mem_singleton.1 mem]
    decide

end Spacing

mutual

def written (sp : Spacing) (indent : Nat) : Json → List Char
  | .null => ['n', 'u', 'l', 'l']
  | .bool true => ['t', 'r', 'u', 'e']
  | .bool false => ['f', 'a', 'l', 's', 'e']
  | .number n => integer n
  | .text s => literal s
  | .list [] => ['[', ']']
  | .list (j :: rest) =>
    '[' :: (sp.line (indent + 2) ++ written sp (indent + 2) j ++ writtenItems sp (indent + 2) rest ++
      sp.line indent ++ [']'])
  | .object [] => ['\x7b', '\x7d']
  | .object ((k, j) :: rest) =>
    '\x7b' :: (sp.line (indent + 2) ++ literal k ++ ':' :: (sp.gap ++ written sp (indent + 2) j ++
      writtenMembers sp (indent + 2) rest ++ sp.line indent ++ ['\x7d']))

def writtenItems (sp : Spacing) (indent : Nat) : List Json → List Char
  | [] => []
  | j :: rest =>
    ',' :: (sp.line indent ++ written sp indent j ++ writtenItems sp indent rest)

def writtenMembers (sp : Spacing) (indent : Nat) : List (String × Json) → List Char
  | [] => []
  | (k, j) :: rest =>
    ',' :: (sp.line indent ++ literal k ++ ':' :: (sp.gap ++ written sp indent j ++
      writtenMembers sp indent rest))

end

mutual

theorem compact_eq (indent : Nat) : ∀ j, compact j = written .none indent j
  | .null | .bool true | .bool false | .number _ | .text _ | .list [] | .object [] => by
    simp only [compact, written]
  | .list (j :: rest) => by
    simp [compact, written, Spacing.none, compact_eq (indent + 2) j,
      compactItems_eq (indent + 2) rest]
  | .object ((k, j) :: rest) => by
    simp [compact, written, Spacing.none, compact_eq (indent + 2) j,
      compactMembers_eq (indent + 2) rest]

theorem compactItems_eq (indent : Nat) : ∀ js, compactItems js = writtenItems .none indent js
  | [] => by simp only [compactItems, writtenItems]
  | j :: rest => by
    simp [compactItems, writtenItems, Spacing.none, compact_eq indent j, compactItems_eq indent rest]

theorem compactMembers_eq (indent : Nat) :
    ∀ ms, compactMembers ms = writtenMembers .none indent ms
  | [] => by simp only [compactMembers, writtenMembers]
  | (k, j) :: rest => by
    simp [compactMembers, writtenMembers, Spacing.none, compact_eq indent j,
      compactMembers_eq indent rest]

end

mutual

theorem prettyAt_eq (indent : Nat) : ∀ j, prettyAt indent j = written .lines indent j
  | .null | .bool true | .bool false | .number _ | .text _ | .list [] | .object [] => by
    simp only [prettyAt, written]
  | .list (j :: rest) => by
    simp [prettyAt, written, Spacing.lines, prettyAt_eq (indent + 2) j,
      prettyItems_eq (indent + 2) rest]
  | .object ((k, j) :: rest) => by
    simp [prettyAt, written, Spacing.lines, prettyAt_eq (indent + 2) j,
      prettyMembers_eq (indent + 2) rest]

theorem prettyItems_eq (indent : Nat) :
    ∀ js, prettyItems indent js = writtenItems .lines indent js
  | [] => by simp only [prettyItems, writtenItems]
  | j :: rest => by
    simp [prettyItems, writtenItems, Spacing.lines, prettyAt_eq indent j,
      prettyItems_eq indent rest]

theorem prettyMembers_eq (indent : Nat) :
    ∀ ms, prettyMembers indent ms = writtenMembers .lines indent ms
  | [] => by simp only [prettyMembers, writtenMembers]
  | (k, j) :: rest => by
    simp [prettyMembers, writtenMembers, Spacing.lines, prettyAt_eq indent j,
      prettyMembers_eq indent rest]

end

/-- A document that a value was written to, in either form. -/
inductive Written (j : Json) : String → Prop
  | compact : Written j (String.ofList j.compact)
  | pretty : Written j j.pretty

end Testbed.Json
