import Testbed.Lab.Script.Pattern
/-!
# Regular expressions

Expressions come in two styles: in the basic one braces, parentheses and some marks need a
backslash to mean something, in the extended one they need one to mean nothing. Of all matches the
one that starts first is taken, and of those the longest.
-/

namespace Testbed.Lab

open Text (Octets)

inductive Regex where
  | empty
  | char (c : Char)
  | any
  | set (negated : Bool) (ranges : List (Char × Char))
  | start
  | finish
  /-- A place at the edge of a word, of which it tells whether the word is before and after it. -/
  | edge (before after : Bool)
  /-- A place that is at the edge of a word, or one that is not. -/
  | boundary (holds : Bool)
  | group (n : Nat) (body : Regex)
  /-- What a group matched, again. -/
  | back (n : Nat)
  | seq (a b : Regex)
  | alt (a b : Regex)
  | repeated (body : Regex) (low : Nat) (high : Option Nat)
  deriving Repr

inductive RegexFault where
  | pattern
  | bracket
  | className
  | rangeEnd
  | left
  | right
  | brace
  | content
  | preceding
  | backslash
  | reference
  | size
  deriving DecidableEq, Repr

def RegexFault.text : RegexFault → String
  | .pattern => "Invalid regular expression"
  | .bracket => "Unmatched [, [^, [:, [., or [="
  | .className => "Invalid character class name"
  | .rangeEnd => "Invalid range end"
  | .left => "Unmatched ( or \\("
  | .right => "Unmatched ) or \\)"
  | .brace => "Unmatched \\\x7b"
  | .content => "Invalid content of \\\x7b\\\x7d"
  | .preceding => "Invalid preceding regular expression"
  | .backslash => "Trailing backslash"
  | .reference => "Invalid back reference"
  | .size => "Regular expression too big"

namespace Regex

/-! ## Matching -/

/-- A place in a text: what is before it, the last character first, what is after it, and where
the groups so far start and end. -/
structure Spot where
  before : Octets
  after : Octets
  pos : Nat
  groups : List (Nat × Nat × Nat)
  deriving DecidableEq

def Spot.ofOctets (cs : Octets) : Spot := ⟨[], cs, 0, []⟩

def Spot.advance? (s : Spot) : Option Spot :=
  match s.after with
  | [] => none
  | c :: rest => some { s with before := c :: s.before, after := rest, pos := s.pos + 1 }

/-- How an expression is matched. -/
structure Mode where
  ignoresCase : Bool
  /-- Whether lines inside of a text have ends of their own. -/
  multiline : Bool

def isWordChar (c : Char) : Bool := c.isAlphanum || c = '_'

def Spot.wordBefore (s : Spot) : Bool := (s.before.head?.map isWordChar).getD false

def Spot.wordAfter (s : Spot) : Bool := (s.after.head?.map isWordChar).getD false

def inRanges (ranges : List (Char × Char)) (c : Char) : Bool :=
  ranges.any fun r => r.1 ≤ c && c ≤ r.2

/-- Goes on as often as it may and keeps all places on the way, the farthest first. -/
def iterate (step : Spot → List Spot) (low : Nat) (high : Option Nat) :
    (fuel : Nat) → (count : Nat) → Spot → List Spot
  | 0, _, s => [s]
  | fuel + 1, count, s =>
    let mayGo : Bool := match high with
      | some h => count < h
      | none => true
    let farther := if mayGo then
        ((step s).filter fun t => s.pos < t.pos || count < low).flatMap
          (iterate step low high fuel (count + 1))
      else []
    if low ≤ count then farther ++ [s] else farther

/-- The part of the whole text between two places. -/
def Spot.between (s : Spot) (first last : Nat) : Octets :=
  let whole := s.before.reverse
  (whole.take last).drop first

/-- Takes a text that comes next. -/
def Spot.skip? (m : Mode) : Octets → Spot → Option Spot
  | [], s => some s
  | c :: rest, s =>
    match s.after with
    | d :: _ =>
      if c = d || (m.ignoresCase && c.toLower = d.toLower) then
        s.advance?.bind (Spot.skip? m rest)
      else none
    | [] => none

/-- The places that an expression leads to from a place. -/
def ends (m : Mode) : Regex → Spot → List Spot
  | .empty, s => [s]
  | .char c, s => (s.skip? m [c]).toList
  | .any, s => s.advance?.toList
  | .set negated ranges, s =>
    match s.after with
    | c :: _ =>
      let hit := inRanges ranges c ||
        (m.ignoresCase && (inRanges ranges c.toLower || inRanges ranges c.toUpper))
      if hit != negated then s.advance?.toList else []
    | [] => []
  | .start, s =>
    if s.before.isEmpty || (m.multiline && s.before.head? = some '\n') then [s] else []
  | .finish, s =>
    if s.after.isEmpty || (m.multiline && s.after.head? = some '\n') then [s] else []
  | .edge before after, s => if s.wordBefore = before && s.wordAfter = after then [s] else []
  | .boundary holds, s => if (s.wordBefore != s.wordAfter) = holds then [s] else []
  | .group n body, s =>
    (ends m body s).map fun t => { t with groups := (n, s.pos, t.pos) :: t.groups }
  | .back n, s =>
    match s.groups.lookup n with
    | some (first, last) => (s.skip? m (s.between first last)).toList
    | none => []
  | .seq a b, s => (ends m a s).flatMap (ends m b)
  | .alt a b, s => ends m a s ++ ends m b s
  | .repeated body low high, s =>
    iterate (ends m body) low high (s.after.length + low + 1) 0 s

/-- The longest way to go from a place. -/
def longest? (m : Mode) (r : Regex) (s : Spot) : Option Spot :=
  (ends m r s).foldl (fun best t =>
    match best with
    | none => some t
    | some b => if b.pos < t.pos then some t else some b) none

/-- The first match from a place on: where it starts and where it ends. -/
def findFrom (m : Mode) (r : Regex) : (fuel : Nat) → Spot → Option (Spot × Spot)
  | 0, _ => none
  | fuel + 1, s =>
    match longest? m r { s with groups := [] } with
    | some t => some (s, t)
    | none => s.advance?.bind (findFrom m r fuel)

def find? (m : Mode) (r : Regex) (s : Spot) : Option (Spot × Spot) :=
  findFrom m r (s.after.length + 1) s

def occursIn (m : Mode) (r : Regex) (cs : Octets) : Bool := (find? m r (.ofOctets cs)).isSome

/-- What a group of a match holds; number zero is all of it. -/
def groupOf (first last : Spot) (n : Nat) : Octets :=
  if n = 0 then last.between first.pos last.pos
  else
    match last.groups.lookup n with
    | some (a, b) => last.between a b
    | none => []

/-! ## Reading -/

structure Style where
  extended : Bool
  /-- Whether it is read for editing: a letter after a backslash may stand for a blank character
  then, and nothing can be repeated where nothing is. -/
  editing : Bool

/-- The ranges in brackets, after the first one. -/
def rangesFrom (isFirst : Bool) : (fuel : Nat) → Octets →
    Except RegexFault (List (Char × Char) × Octets)
  | 0, _ => .error .bracket
  | _ + 1, [] => .error .bracket
  | fuel + 1, c :: rest => do
    let more (range : List (Char × Char)) (rest : Octets) := do
      let (ranges, after) ← rangesFrom false fuel rest
      return (range ++ ranges, after)
    if c = ']' && !isFirst then return ([], rest)
    else if c = '[' && rest.head? = some ':' then
      match Script.namedClass? rest with
      | some (ranges, length) => more ranges (rest.drop length)
      | none =>
        let name := rest.tail.takeWhile Char.isAlpha
        if [':', ']'].isPrefixOf (rest.drop (name.length + 1)) then throw .className
        else throw .bracket
    else
      match rest with
      | '-' :: d :: after =>
        if d = ']' then more [(c, c)] rest
        else if d < c then throw .rangeEnd
        else more [(c, d)] after
      | _ => more [(c, c)] rest

def setFrom (style : Style) (cs : Octets) : Except RegexFault (Regex × Octets) := do
  let (negated, inside) := match cs with
    | '^' :: rest => (true, rest)
    | rest => (false, rest)
  if inside.isEmpty then throw .pattern
  let (ranges, rest) ← rangesFrom true (inside.length + 1) inside
  let hasSlash := ranges.contains ('\\', '\\')
  let extra := if style.editing && hasSlash then
      (if ranges.contains ('n', 'n') then [('\n', '\n')] else []) ++
        (if ranges.contains ('t', 't') then [('\t', '\t')] else [])
    else []
  return (.set negated (ranges ++ extra), rest)

/-- The bounds of a repetition after its brace, and what follows the closing one. -/
def boundsFrom (style : Style) (cs : Octets) :
    Except RegexFault (Nat × Option Nat × Octets) :=
  let number (ds : Octets) : Nat := ds.foldl (fun n c => n * 10 + (c.toNat - '0'.toNat)) 0
  let low := cs.takeWhile Char.isDigit
  let (high, rest) := match cs.drop low.length with
    | ',' :: rest =>
      let ds := rest.takeWhile Char.isDigit
      (if ds.isEmpty then none else some (number ds), rest.drop ds.length)
    | rest => (some (number low), rest)
  let least := number low
  match style.extended, rest with
  | true, '\x7d' :: rest | false, '\\' :: '\x7d' :: rest =>
    if (high.map fun h => decide (h < least)).getD false then .error .content
    else if 32767 < max least (high.getD 0) then .error .size
    else .ok (least, high, rest)
  | _, [] => .error .brace
  | _, _ => .error .content

/-- Whether a brace is closed again after nothing but bounds. -/
def isBounded (cs : Octets) : Bool :=
  let rest := cs.dropWhile fun c => c.isDigit || c = ','
  rest.head? = some '\x7d' && rest.length < cs.length &&
    (cs.take (cs.length - rest.length)).count ',' ≤ 1

/-- The classes and places that a letter after a backslash stands for. -/
def letter? (c : Char) : Option Regex :=
  let word := [('a', 'z'), ('A', 'Z'), ('0', '9'), ('_', '_')]
  let space := [('\t', '\r'), (' ', ' ')]
  match c with
  | 'w' => some (.set false word)
  | 'W' => some (.set true word)
  | 's' => some (.set false space)
  | 'S' => some (.set true space)
  | '<' => some (.edge false true)
  | '>' => some (.edge true false)
  | 'b' => some (.boundary true)
  | 'B' => some (.boundary false)
  | '\x60' => some .start
  | '\'' => some .finish
  | _ => none

def blankLetter? (c : Char) : Option Char :=
  match c with
  | 'n' => some '\n'
  | 't' => some '\t'
  | 'r' => some '\r'
  | 'f' => some '\x0c'
  | 'v' => some '\x0b'
  | 'a' => some '\x07'
  | _ => none

/-- How far an expression has been read: what is left, how many groups have been opened, and which
marks stood where there is nothing to repeat. -/
structure Reading where
  rest : Octets
  groups : Nat
  idle : List String

abbrev Read (α : Type) := StateT Reading (Except RegexFault) α

/-- What a mark at the start of some text means, whichever way it is written. -/
inductive Sign where
  | openGroup
  | closeGroup
  | bar
  | star
  | plus
  | optional
  | openBrace
  deriving DecidableEq

/-- The mark at the start of a text and its length. -/
def sign? (extended : Bool) (cs : Octets) : Option (Sign × Nat) :=
  let plain (c : Char) : Option Sign :=
    match c with
    | '(' => some .openGroup
    | ')' => some .closeGroup
    | '|' => some .bar
    | '+' => some .plus
    | '?' => some .optional
    | '\x7b' => some .openBrace
    | _ => none
  match cs with
  | '*' :: _ => some (.star, 1)
  | '\\' :: c :: _ => if extended then none else (plain c).map (·, 2)
  | c :: _ => if extended then (plain c).map (·, 1) else none
  | [] => none

def isSign (extended : Bool) (s : Sign) (cs : Octets) : Bool :=
  match sign? extended cs with
  | some (t, _) => t = s
  | none => false

def drop (n : Nat) : Read Unit := modify fun r => { r with rest := r.rest.drop n }

mutual

def alternatives (style : Style) : (fuel : Nat) → (depth : Nat) → Read Regex
  | 0, _ => throw .content
  | fuel + 1, depth => do
    let a ← sequence style fuel depth true .empty
    match sign? style.extended (← get).rest with
    | some (.bar, n) =>
      drop n
      return .alt a (← alternatives style fuel depth)
    | _ => return a

/-- The parts of an alternative; at its start some marks mean nothing. -/
def sequence (style : Style) : (fuel : Nat) → (depth : Nat) → (atStart : Bool) →
    (before : Regex) → Read Regex
  | 0, _, _, _ => throw .content
  | fuel + 1, depth, atStart, before => do
    let rest := (← get).rest
    match rest, sign? style.extended rest with
    | [], _ => return before
    | _, some (.bar, _) => return before
    | _, some (.closeGroup, _) =>
      if 0 < depth then return before
      else if style.extended then
        drop 1
        let r ← repetitions style fuel (.char ')')
        sequence style fuel depth false (.seq before r)
      else throw .right
    | _, some (.openGroup, n) =>
      drop n
      let number := (← get).groups + 1
      modify ({ · with groups := number })
      let body ← alternatives style fuel (depth + 1)
      match sign? style.extended (← get).rest with
      | some (.closeGroup, n) =>
        drop n
        let r ← repetitions style fuel (.group number body)
        sequence style fuel depth false (.seq before r)
      | _ => throw .left
    | c :: more, some (_, n) =>
      if atStart then
        if style.extended && style.editing then throw .preceding
        else if style.extended && (c ≠ '\x7b' || isBounded more) then
          let bounds := if c = '\x7b' then (more.takeWhile (· ≠ '\x7d')).length + 1 else 0
          let mark := if c = '\x7b' then "\x7b...\x7d" else String.singleton c
          modify fun r => { r with rest := r.rest.drop (n + bounds), idle := r.idle ++ [mark] }
          sequence style fuel depth true before
        else if c = '\\' && style.editing && isSign style.extended .openBrace rest then
          throw .preceding
        else
          drop n
          let r ← repetitions style fuel (.char (if n = 2 then more.head?.getD c else c))
          sequence style fuel depth false (.seq before r)
      else
        drop 1
        let r ← repetitions style fuel (.char c)
        sequence style fuel depth false (.seq before r)
    | '^' :: more, none =>
      drop 1
      if style.extended || atStart then sequence style fuel depth true (.seq before .start)
      else
        let _ := more
        let r ← repetitions style fuel (.char '^')
        sequence style fuel depth false (.seq before r)
    | '$' :: more, none =>
      drop 1
      let closes := isSign style.extended .closeGroup more || isSign style.extended .bar more
      if style.extended || more.isEmpty || closes then
        sequence style fuel depth false (.seq before .finish)
      else
        let r ← repetitions style fuel (.char '$')
        sequence style fuel depth false (.seq before r)
    | '.' :: _, none =>
      drop 1
      let r ← repetitions style fuel .any
      sequence style fuel depth false (.seq before r)
    | '[' :: more, none =>
      let (brackets, rest) ← setFrom style more
      modify ({ · with rest := rest })
      let r ← repetitions style fuel brackets
      sequence style fuel depth false (.seq before r)
    | ['\\'], none => throw .backslash
    | '\\' :: c :: _, none =>
      drop 2
      let groups := (← get).groups
      let one ← (match letter? c, if style.editing then blankLetter? c else none with
        | some r, _ => pure r
        | none, some d => pure (.char d)
        | none, none =>
          if '1' ≤ c && c ≤ '9' then
            let n := c.toNat - '0'.toNat
            if groups < n then throw .reference else pure (.back n)
          else pure (.char c) : Read Regex)
      let r ← repetitions style fuel one
      sequence style fuel depth false (.seq before r)
    | c :: _, none =>
      drop 1
      let r ← repetitions style fuel (.char c)
      sequence style fuel depth false (.seq before r)

/-- The marks after a part that tell how often it may come. -/
def repetitions (style : Style) : (fuel : Nat) → (body : Regex) → Read Regex
  | 0, _ => throw .content
  | fuel + 1, body => do
    match sign? style.extended (← get).rest with
    | some (.star, n) =>
      drop n
      repetitions style fuel (.repeated body 0 none)
    | some (.plus, n) =>
      drop n
      repetitions style fuel (.repeated body 1 none)
    | some (.optional, n) =>
      drop n
      repetitions style fuel (.repeated body 0 (some 1))
    | some (.openBrace, n) =>
      let inside := (← get).rest.drop n
      if style.extended && !style.editing && !isBounded inside then return body
      else
        let (low, high, rest) ← boundsFrom style inside
        modify ({ · with rest := rest })
        repetitions style fuel (.repeated body low high)
    | _ => return body

end

/-- The expression that a text is, and what was seen on the way. -/
def read (style : Style) (cs : Octets) : Except RegexFault (Regex × Reading) :=
  (alternatives style (4 * cs.length + 4) 0).run ⟨cs, 0, []⟩

/-- The expression that stands for a text alone. -/
def ofText (cs : Octets) : Regex := cs.foldr (fun c r => .seq (.char c) r) .empty

end Regex

end Testbed.Lab
