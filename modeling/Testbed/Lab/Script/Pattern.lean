import Testbed.Text.Octets
/-!
# Patterns of names

A pattern is a text in which a star stands for any text, a question mark for any character and
brackets for one of several characters, unless they are quoted.
-/

namespace Testbed.Lab.Script

open Text (Octets)

inductive Glob where
  | char (c : Char)
  | any
  | many
  /-- One character of some ranges, or one of none of them. -/
  | set (negated : Bool) (ranges : List (Char × Char))
  deriving DecidableEq, Repr

/-- A character of a pattern, and whether it is quoted. -/
abbrev Marked := Char × Bool

/-- The ranges of the characters that have a name together. -/
def classRanges? (name : Octets) : Option (List (Char × Char)) :=
  match String.ofList name with
  | "alpha" => some [('a', 'z'), ('A', 'Z')]
  | "digit" => some [('0', '9')]
  | "alnum" => some [('a', 'z'), ('A', 'Z'), ('0', '9')]
  | "upper" => some [('A', 'Z')]
  | "lower" => some [('a', 'z')]
  | "space" => some [('\t', '\r'), (' ', ' ')]
  | "blank" => some [('\t', '\t'), (' ', ' ')]
  | "punct" => some [('!', '/'), (':', '@'), ('[', '\x60'), ('\x7b', '~')]
  | "xdigit" => some [('0', '9'), ('a', 'f'), ('A', 'F')]
  | "cntrl" => some [('\x00', '\x1f'), ('\x7f', '\x7f')]
  | "print" => some [(' ', '~')]
  | "graph" => some [('!', '~')]
  | _ => none

/-- The ranges of a named class, after its first bracket, and what follows the last one. -/
def namedClass? (cs : List Char) : Option (List (Char × Char) × Nat) :=
  match cs with
  | ':' :: rest =>
    let name := rest.takeWhile Char.isAlpha
    match rest.drop name.length with
    | ':' :: ']' :: _ => (classRanges? name).map (·, name.length + 3)
    | _ => none
  | _ => none

namespace Glob

/-- The ranges inside of brackets and what follows the last one, if there is one. -/
def rangesFrom : (fuel : Nat) → (isFirst : Bool) → List Marked →
    Option (List (Char × Char) × List Marked)
  | 0, _, _ => none
  | _ + 1, _, [] => none
  | fuel + 1, isFirst, (c, quoted) :: rest =>
    let more (range : List (Char × Char)) (rest : List Marked) :=
      (rangesFrom fuel false rest).map fun r => (range ++ r.1, r.2)
    if c = ']' && !quoted && !isFirst then some ([], rest)
    else
      match if c = '[' && !quoted then namedClass? (rest.map (·.1)) else none with
      | some (ranges, length) => more ranges (rest.drop length)
      | none =>
        match rest with
        | ('-', false) :: (d, q) :: after =>
          if d = ']' && !q then more [(c, c)] rest else more [(c, d)] after
        | _ => more [(c, c)] rest

def ofMarked : (fuel : Nat) → List Marked → List Glob
  | 0, _ => []
  | _ + 1, [] => []
  | fuel + 1, (c, quoted) :: rest =>
    if quoted then .char c :: ofMarked fuel rest
    else if c = '*' then .many :: ofMarked fuel rest
    else if c = '?' then .any :: ofMarked fuel rest
    else if c = '[' then
      let (negated, inside) := match rest with
        | ('!', false) :: inside => (true, inside)
        | inside => (false, inside)
      match rangesFrom (rest.length + 1) true inside with
      | some (ranges, after) => .set negated ranges :: ofMarked fuel after
      | none => .char c :: ofMarked fuel rest
    else .char c :: ofMarked fuel rest

/-- The pattern that a text is. -/
def read (cs : List Marked) : List Glob := ofMarked (cs.length + 1) cs

def accepts (p : Glob) (c : Char) : Bool :=
  match p with
  | .char d => c = d
  | .any | .many => true
  | .set negated ranges => (ranges.any fun r => r.1 ≤ c && c ≤ r.2) != negated

/-- Whether a pattern stands for a text. -/
def stands : List Glob → Octets → Bool
  | [], cs => cs.isEmpty
  | .many :: ps, [] => stands ps []
  | .many :: ps, c :: cs => stands ps (c :: cs) || stands (.many :: ps) cs
  | _ :: _, [] => false
  | p :: ps, c :: cs => p.accepts c && stands ps cs
termination_by ps cs => ps.length + cs.length

/-- A text without what a pattern stands for at one of its ends. -/
def trim (atEnd longest : Bool) (ps : List Glob) (cs : Octets) : Octets :=
  let cut (n : Nat) : Octets × Octets :=
    if atEnd then ((cs.drop (cs.length - n)), cs.take (cs.length - n)) else (cs.take n, cs.drop n)
  let sizes := List.range (cs.length + 1)
  match (if longest then sizes.reverse else sizes).find? fun n => stands ps (cut n).1 with
  | some n => (cut n).2
  | none => cs

end Glob

end Testbed.Lab.Script
