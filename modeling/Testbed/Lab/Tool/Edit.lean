import Testbed.Lab.Tool.Lines
import Testbed.Lab.Tool.Regex
/-!
# Editing lines

An editor goes through lines by a script of instructions. Each instruction may be for some lines
only; the line at hand is changed step by step, and shown at the end of its turn.
-/

namespace Testbed.Lab

open Text (Octets)
open Process (chars)

namespace Edit

/-! ## Instructions -/

/-- What a line is picked by. -/
inductive Pick where
  | line (n : Nat)
  | last
  | every (first step : Nat)
  /-- An expression; without one, the one that was used last. -/
  | shaped (r : Option Regex) (ignoresCase : Bool)

/-- Where a range of lines ends. -/
inductive Finish where
  | pick (p : Pick)
  | after (n : Nat)
  | multiple (n : Nat)

/-- The way letters are changed in a replacement. -/
inductive Fold where
  | upper
  | lower
  | upperOne
  | lowerOne
  | stop
  deriving DecidableEq

inductive Part where
  | text (cs : Octets)
  | group (n : Nat)
  | fold (f : Fold)

structure Substitution where
  regex : Option Regex
  parts : List Part
  ignoresCase : Bool
  multiline : Bool
  all : Bool
  number : Nat
  prints : Bool
  target : Option Octets

inductive Verb where
  /-- Goes on only for picked lines; the others skip so many instructions. -/
  | block (size : Nat)
  | close
  | label (name : Octets)
  | jump (name : Octets)
  | jumpIf (changed : Bool) (name : Octets)
  | delete
  | deleteFirst
  | print
  | printFirst
  | next
  | join
  | quit (silent : Bool) (status : Nat)
  | hold (appends : Bool)
  | fetch (appends : Bool)
  | exchange
  | number
  | append (cs : Octets)
  | insert (cs : Octets)
  | change (cs : Octets)
  | map (pairs : List (Char × Char))
  | substitute (s : Substitution)
  | readFile (path : Octets)
  | writeFile (path : Octets)
  | show

structure Instruction where
  first : Option Pick
  last : Option Finish
  negated : Bool
  verb : Verb

/-! ## Reading -/

structure Reading where
  rest : Octets
  count : Nat
  extended : Bool

abbrev Read (α : Type) := StateT Reading (Except (Option Nat × String)) α

def fail {α : Type} (text : String) : Read α := do throw (some (← get).count, text)

def peek : Read (Option Char) := do return (← get).rest.head?

def take : Read (Option Char) := do
  let r ← get
  match r.rest with
  | [] => return none
  | c :: rest =>
    set { r with rest := rest, count := r.count + 1 }
    return some c

def takeWhile (ok : Char → Bool) : Read Octets := do
  let r ← get
  let cs := r.rest.takeWhile ok
  set { r with rest := r.rest.drop cs.length, count := r.count + cs.length }
  return cs

def skipBlanks : Read Unit := do
  let _ ← takeWhile fun c => Script.isSpace c && c ≠ '\n'

/-- The text up to a mark, in which a backslash keeps the mark from ending it. Inside of brackets
nothing ends it, if it is an expression. -/
def delimited (mark : Char) (isRegex : Bool) : (fuel : Nat) → (inside : Bool) → Read (Option Octets)
  | 0, _ => return none
  | fuel + 1, inside => do
    let more (cs : Octets) (inside : Bool) : Read (Option Octets) := do
      return (← delimited mark isRegex fuel inside).map (cs ++ ·)
    match ← take with
    | none => return none
    | some c =>
      if inside then
        if c = '\n' && isRegex then return none else more [c] (c ≠ ']')
      else if c = mark then return some []
      else if c = '\\' then
        match ← take with
        | none => return none
        | some d =>
          if d = mark && mark ≠ '&' then more (if isRegex && d = '|' then ['|'] else [d]) false
          else if d = 'n' && isRegex then more ['\n'] false
          else more ['\\', d] false
      else if c = '\n' && isRegex then return none
      else if c = '[' && isRegex then
        let negated ← takeWhile (· = '^')
        let first ← if (← peek) = some ']' then (do let _ ← take; return [']']) else pure []
        more ('[' :: negated ++ first) true
      else more [c] false

def regexOf (cs : Octets) (multiline : Bool) : Read (Option (Regex × Nat)) := do
  let _ := multiline
  if cs.isEmpty then return none
  match Regex.read ⟨(← get).extended, true⟩ cs with
  | .ok (r, read) => return some (r, read.groups)
  | .error e => fail e.text

def number : Read Nat := do return Script.numberOf 10 (← takeWhile Char.isDigit)

def pick? : Read (Option Pick) := do
  match ← peek with
  | some '$' =>
    let _ ← take
    return some .last
  | some c =>
    if c.isDigit then
      let n ← number
      if (← peek) = some '~' then
        let _ ← take
        return some (.every n (← number))
      else return some (.line n)
    else if c = '/' || c = '\\' then
      let _ ← take
      let mark ← if c = '/' then pure '/' else (do return (← take).getD '/')
      match ← delimited mark true ((← get).rest.length + 1) false with
      | none => fail "unterminated address regex"
      | some cs =>
        let flags ← takeWhile fun c => c = 'I' || c = 'M'
        return some (.shaped ((← regexOf cs (flags.contains 'M')).map (·.1)) (flags.contains 'I'))
    else return none
  | none => return none

def finish? : Read (Option Finish) := do
  match ← peek with
  | some '+' =>
    let _ ← take
    return some (.after (← number))
  | some '~' =>
    let _ ← take
    return some (.multiple (← number))
  | _ => return (← pick?).map .pick

/-- The parts of a replacement. -/
def partsOf : (fuel : Nat) → Octets → List Part
  | 0, _ => []
  | _ + 1, [] => []
  | fuel + 1, '&' :: rest => .group 0 :: partsOf fuel rest
  | fuel + 1, '\\' :: c :: rest =>
    let part : Part :=
      if c.isDigit then .group (c.toNat - '0'.toNat)
      else
        match c with
        | 'n' => .text ['\n']
        | 't' => .text ['\t']
        | 'r' => .text ['\r']
        | 'f' => .text ['\x0c']
        | 'v' => .text ['\x0b']
        | 'a' => .text ['\x07']
        | 'U' => .fold .upper
        | 'L' => .fold .lower
        | 'u' => .fold .upperOne
        | 'l' => .fold .lowerOne
        | 'E' => .fold .stop
        | c => .text [c]
    part :: partsOf fuel rest
  | fuel + 1, c :: rest => .text [c] :: partsOf fuel rest

/-- What follows a command that takes nothing more. -/
def endCommand : Read Unit := do
  skipBlanks
  match ← peek with
  | none | some '\x7d' | some '#' => return
  | some ';' | some '\n' =>
    let _ ← take
    return
  | some _ =>
    let _ ← take
    fail "extra characters after command"

/-- The flags of a substitution. -/
def flagsOf (s : Substitution) : (fuel : Nat) → Read Substitution
  | 0 => return s
  | fuel + 1 => do
    match ← peek with
    | none => return s
    | some '\x7d' | some '#' => return s
    | some c =>
      if c.isDigit then
        let n ← number
        if n = 0 then fail "number option to \x60s' command may not be zero"
        flagsOf { s with number := n } fuel
      else
        let _ ← take
        match c with
        | 'g' => flagsOf { s with all := true } fuel
        | 'p' => flagsOf { s with prints := true } fuel
        | 'i' | 'I' => flagsOf { s with ignoresCase := true } fuel
        | 'm' | 'M' => flagsOf { s with multiline := true } fuel
        | 'w' =>
          skipBlanks
          let path ← takeWhile (· ≠ '\n')
          if path.isEmpty then fail "missing filename in r/R/w/W commands"
          return { s with target := some path }
        | ';' | '\n' => return s
        | ' ' | '\t' => flagsOf s fuel
        | _ => fail "unknown option to \x60s'"

def substitution : Read Verb := do
  let unterminated {α : Type} : Read α := fail "unterminated \x60s' command"
  match ← take with
  | none => unterminated
  | some mark =>
    let fuel := (← get).rest.length + 1
    match ← delimited mark true fuel false with
    | none => unterminated
    | some pattern =>
      match ← delimited mark false fuel false with
      | none => unterminated
      | some text =>
        let parts := partsOf (text.length + 1) text
        let s ← flagsOf ⟨none, parts, false, false, false, 1, false, none⟩ fuel
        let r ← regexOf pattern s.multiline
        let most := parts.foldl (fun n part =>
          match part with
          | .group k => max n k
          | _ => n) 0
        match r with
        | some (_, groups) =>
          if groups < most then
            fail ("invalid reference \\" ++ toString most ++ " on \x60s' command's RHS")
        | none => pure ()
        return .substitute { s with regex := r.map (·.1) }

/-- The characters of one side of a map. -/
def plainSide : Octets → Octets
  | '\\' :: 'n' :: rest => '\n' :: plainSide rest
  | '\\' :: '\\' :: rest => '\\' :: plainSide rest
  | c :: rest => c :: plainSide rest
  | [] => []

def mapping : Read Verb := do
  let unterminated {α : Type} : Read α := fail "unterminated \x60y' command"
  match ← take with
  | none => unterminated
  | some mark =>
    let fuel := (← get).rest.length + 1
    match ← delimited mark false fuel false with
    | none => unterminated
    | some a =>
      match ← delimited mark false fuel false with
      | none => unterminated
      | some b =>
        let (a, b) := (plainSide a, plainSide b)
        if a.length ≠ b.length then fail "strings for \x60y' command are different lengths"
        endCommand
        return .map (a.zip b)

/-- The text of a command that takes lines of text. -/
def textOf : Read Octets := do
  skipBlanks
  let rec lines : (fuel : Nat) → Octets → Octets × Octets
    | 0, cs => ([], cs)
    | _ + 1, [] => ([], [])
    | fuel + 1, '\\' :: c :: rest =>
      let r := lines fuel rest
      (c :: r.1, r.2)
    | _ + 1, '\n' :: rest => ([], rest)
    | fuel + 1, c :: rest =>
      let r := lines fuel rest
      (c :: r.1, r.2)
  match ← peek with
  | none => fail "expected \\ after \x60a', \x60c' or \x60i'"
  | some '\\' =>
    let _ ← take
    skipBlanks
    if (← peek) = some '\n' then
      let _ ← take
  | some _ => pure ()
  let r ← get
  let (text, rest) := lines (r.rest.length + 1) r.rest
  set { r with rest := rest, count := r.count + (r.rest.length - rest.length) }
  return if text.isEmpty then [] else text ++ ['\n']

def labelOf : Read Octets := do
  skipBlanks
  let cs ← takeWhile fun c => c ≠ '\n' && c ≠ ';'
  let _ ← take
  return (cs.reverse.dropWhile Script.isSpace).reverse

def pathOf : Read Octets := do
  skipBlanks
  let path ← takeWhile (· ≠ '\n')
  let _ ← take
  if path.isEmpty then fail "missing filename in r/R/w/W commands"
  return path

/-- The verb after a letter, with how many picks it may have. -/
def verbOf (c : Char) (picks : Nat) : Read Verb := do
  let plain (v : Verb) : Read Verb := do
    endCommand
    return v
  let single : Read Unit := do
    if 1 < picks then fail "command only uses one address"
  match c with
  | 'd' => plain .delete
  | 'D' => plain .deleteFirst
  | 'p' => plain .print
  | 'P' => plain .printFirst
  | 'n' => plain .next
  | 'N' => plain .join
  | 'h' => plain (.hold false)
  | 'H' => plain (.hold true)
  | 'g' => plain (.fetch false)
  | 'G' => plain (.fetch true)
  | 'x' => plain .exchange
  | '=' => plain .number
  | 'l' => plain .show
  | 'q' | 'Q' =>
    single
    skipBlanks
    let status ← number
    plain (.quit (c = 'Q') (status % 256))
  | 'a' => return .append (← textOf)
  | 'i' => return .insert (← textOf)
  | 'c' => return .change (← textOf)
  | 's' => substitution
  | 'y' => mapping
  | 'b' => return .jump (← labelOf)
  | 't' => return .jumpIf true (← labelOf)
  | 'T' => return .jumpIf false (← labelOf)
  | 'r' => return .readFile (← pathOf)
  | 'w' => return .writeFile (← pathOf)
  | ':' =>
    if picks ≠ 0 then fail ": doesn't want any addresses"
    skipBlanks
    let name ← takeWhile fun c => !Script.isSpace c && c ≠ ';'
    if name.isEmpty then fail "\":\" lacks a label"
    return .label name
  | c =>
    fail ("unknown command: \x60" ++ String.singleton c ++ "'")

/-- The instructions of a script; those of a block come before what follows it. -/
def instructions : (fuel : Nat) → (depth : Nat) → Read (List Instruction)
  | 0, _ => return []
  | fuel + 1, depth => do
    let _ ← takeWhile fun c => Script.isSpace c || c = ';'
    match ← peek with
    | none =>
      if 0 < depth then throw (some 0, "unmatched \x60\x7b'") else return []
    | some '#' =>
      let _ ← takeWhile (· ≠ '\n')
      instructions fuel depth
    | some '\x7d' =>
      let _ ← take
      if depth = 0 then fail "unexpected \x60\x7d'"
      endCommand
      return [⟨none, none, false, .close⟩]
    | some _ =>
      let first ← pick?
      skipBlanks
      let last ← (if first.isSome && (← get).rest.head? = some ',' then do
          let _ ← take
          skipBlanks
          match ← finish? with
          | some f => return some f
          | none => fail "unexpected \x60,'"
        else return none : Read (Option Finish))
      skipBlanks
      let bangs ← takeWhile fun c => c = '!' || c = ' '
      let picks := (if first.isSome then 1 else 0) + (if last.isSome then 1 else 0)
      match ← take with
      | none => fail "missing command"
      | some '\x7b' =>
        let body ← instructions fuel (depth + 1)
        return ⟨first, last, bangs.contains '!', .block body.length⟩ :: body ++
          (← instructions fuel depth)
      | some c =>
        let verb ← verbOf c picks
        return ⟨first, last, bangs.contains '!', verb⟩ :: (← instructions fuel depth)

def parse (extended : Bool) (cs : Octets) : Except (Option Nat × String) (List Instruction) :=
  ((instructions (2 * cs.length + 4) 0).run ⟨cs, 0, extended⟩).map (·.1)

/-- The labels that a script jumps to but does not have. -/
def missingLabel? (program : List Instruction) : Option Octets :=
  let labels := program.filterMap fun i =>
    match i.verb with
    | .label name => some name
    | _ => none
  (program.filterMap fun i =>
    match i.verb with
    | .jump name | .jumpIf _ name => if name.isEmpty then none else some name
    | _ => none).find? fun name => !labels.contains name

/-! ## Running -/

/-- An editor at work. -/
structure Editor where
  space : Octets
  held : Octets
  /-- The number of the line at hand. -/
  line : Nat
  /-- Whether the line at hand has an end. -/
  ended : Bool
  /-- The lines to come. -/
  lines : List Octets
  /-- What was put out, the last part first. -/
  out : List Octets
  /-- Whether what was put out last still lacks its end. -/
  open? : Bool
  /-- What is put out at the end of the turn. -/
  queue : List Octets
  /-- The last line of the ranges that are open, by instruction; none if an expression ends it. -/
  ranges : List (Nat × Option Nat)
  changed : Bool
  used : Option Regex
  files : List (Octets × Octets)
  quiet : Bool
  fault : Option String
  /-- The character that ends a line. -/
  ending : Char

namespace Editor

/-- Puts something out after what is there, which gets its end first. -/
def put (e : Editor) (cs : Octets) : Editor :=
  { e with out := cs :: (if e.open? then [e.ending] :: e.out else e.out), open? := false }

def putLine (e : Editor) (cs : Octets) : Editor :=
  let e := e.put (if e.ended then cs ++ [e.ending] else cs)
  { e with open? := !e.ended }

def putEnded (e : Editor) (cs : Octets) : Editor := e.put (cs ++ ['\n'])

def save (e : Editor) (path cs : Octets) : Editor :=
  if path = chars "/dev/stdout" then e.put cs
  else
    { e with files :=
        if e.files.any (·.1 = path) then
          e.files.map fun f => if f.1 = path then (path, f.2 ++ cs) else f
        else e.files ++ [(path, cs)] }

def flush (e : Editor) : Editor := { e.queue.foldl put e with queue := [] }

/-- Takes the next line, if there is one. -/
def advance? (e : Editor) : Option Editor :=
  match e.lines with
  | [] => none
  | line :: rest =>
    some { e with
      space := chompBy e.ending line, ended := line.getLast? = some e.ending, lines := rest
      line := e.line + 1 }

def matched (e : Editor) (r : Option Regex) (ignoresCase : Bool) : Bool × Editor :=
  match r.orElse fun _ => e.used with
  | some r => (Regex.occursIn ⟨ignoresCase, false⟩ r e.space, { e with used := some r })
  | none => (false, { e with fault := some "no previous regular expression" })

def picks (e : Editor) (p : Pick) : Bool × Editor :=
  match p with
  | .line n => (e.line = n, e)
  | .last => (e.lines.isEmpty, e)
  | .every first step =>
    (if step = 0 then e.line = first else first ≤ e.line && (e.line - first) % step = 0, e)
  | .shaped r ignoresCase => e.matched r ignoresCase

def openRange (e : Editor) (at? : Nat) (last : Option Nat) : Editor :=
  { e with ranges := (at?, last) :: e.ranges.filter (·.1 ≠ at?) }

def closeRange (e : Editor) (index : Nat) : Editor :=
  { e with ranges := e.ranges.filter (·.1 ≠ index) }

/-- Whether an instruction is for the line at hand. -/
def applies (e : Editor) (index : Nat) (i : Instruction) : Bool × Editor :=
  match i.first, i.last with
  | none, _ => (true, e)
  | some p, none => e.picks p
  | some p, some f =>
    match e.ranges.lookup index with
    | some (some n) =>
      if e.line < n then (true, e)
      else if e.line = n then (true, e.closeRange index)
      else ((e.picks p).1, e.closeRange index)
    | some none =>
      match f with
      | .pick q =>
        let (hit, e) := e.picks q
        (true, if hit then e.closeRange index else e)
      | _ => (true, e)
    | none =>
      let fromStart : Bool := match p with
        | .line 0 => e.line = 1
        | _ => false
      let (hit, e) := if fromStart then (true, e) else e.picks p
      if !hit then (false, e)
      else
        match f with
        | .pick (.line n) => (true, if n ≤ e.line then e else e.openRange index (some n))
        | .pick .last => (true, if e.lines.isEmpty then e else e.openRange index none)
        | .pick q =>
          let (hit, e) := if fromStart then e.picks q else (false, e)
          (true, if hit then e else e.openRange index none)
        | .after n => (true, if n = 0 then e else e.openRange index (some (e.line + n)))
        | .multiple n =>
          (true, if n = 0 || e.line % n = 0 then e
            else e.openRange index (some (e.line + (n - e.line % n))))

/-- A text with its letters changed. -/
def folded (fold : Option Fold) (one : Option Fold) (cs : Octets) : Octets :=
  let all := match fold with
    | some .upper => cs.map Char.toUpper
    | some .lower => cs.map Char.toLower
    | _ => cs
  match one, all with
  | some .upperOne, c :: rest => c.toUpper :: rest
  | some .lowerOne, c :: rest => c.toLower :: rest
  | _, all => all

/-- What stands in for a match. -/
def replacement (parts : List Part) (first last : Regex.Spot) : Octets :=
  let (out, _, _) := parts.foldl (fun (out, fold, one) part =>
    let add (cs : Octets) :=
      (out ++ folded fold one cs, fold, if cs.isEmpty then one else none)
    match part with
    | .text cs => add cs
    | .group n => add (Regex.groupOf first last n)
    | .fold .stop => (out, none, none)
    | .fold f =>
      if f = .upperOne || f = .lowerOne then (out, fold, some f) else (out, some f, none))
    (([], none, none) : Octets × Option Fold × Option Fold)
  out

/-- Replaces matches from a place on; the count tells how many came before. -/
def replaceFrom (s : Substitution) (r : Regex) : (fuel : Nat) → (count : Nat) →
    (afterMatch : Bool) → Regex.Spot → Octets × Bool
  | 0, _, _, spot => (spot.after, false)
  | fuel + 1, count, afterMatch, spot =>
    match Regex.find? ⟨s.ignoresCase, s.multiline⟩ r spot with
    | none => (spot.after, false)
    | some (a, b) =>
      let before := spot.after.take (a.pos - spot.pos)
      let isEmpty := a.pos = b.pos
      /- An empty match right after another match is none. -/
      let counts := !(isEmpty && afterMatch && a.pos = spot.pos)
      let hit := counts && (if s.all then s.number ≤ count + 1 else s.number = count + 1)
      let text := if hit then replacement s.parts a b else b.between a.pos b.pos
      let count := if counts then count + 1 else count
      if hit && !s.all then (before ++ text ++ b.after, true)
      else if isEmpty then
        match b.after, b.advance? with
        | c :: _, some next =>
          let (rest, more) := replaceFrom s r fuel count false next
          (before ++ text ++ c :: rest, hit || more)
        | _, _ => (before ++ text, hit)
      else
        let (rest, more) := replaceFrom s r fuel count true b
        (before ++ text ++ rest, hit || more)

def substitute (e : Editor) (s : Substitution) : Editor :=
  match s.regex.orElse fun _ => e.used with
  | none => { e with fault := some "no previous regular expression" }
  | some r =>
    let (space, hit) := replaceFrom s r (e.space.length + 2) 0 false (.ofOctets e.space)
    let e := { e with used := some r }
    if !hit then e
    else
      let e := { e with space := space, changed := true }
      let e := if s.prints then e.putLine space else e
      match s.target with
      | some path => e.save path (space ++ [e.ending])
      | none => e

/-- A line with everything in it made visible. -/
def visible (cs : Octets) : Octets :=
  cs.flatMap fun c =>
    match c with
    | '\\' => ['\\', '\\']
    | '\n' => ['\\', 'n']
    | '\t' => ['\\', 't']
    | '\r' => ['\\', 'r']
    | c =>
      if ' ' ≤ c && c ≤ '~' then [c]
      else
        let ds := digitsOf 8 c.toNat
        '\\' :: List.replicate (3 - ds.length) '0' ++ ds

/-- How a turn ends. -/
inductive Turn where
  /-- With the line shown, unless the editor is quiet. -/
  | over
  | dropped
  /-- Once more with what is left of the line. -/
  | again
  | quit (silent : Bool) (status : Nat)

/-- The place of a label; the end of the script has none. -/
def place (program : Array Instruction) (name : Octets) : Nat :=
  (program.toList.findIdx? fun i =>
    match i.verb with
    | .label l => l = name && !name.isEmpty
    | _ => false).getD program.size

/-- The end of the line at hand is shown before another one is taken. -/
def endTurn (e : Editor) : Editor :=
  (if e.quiet then e else e.putLine e.space).flush

/-- Runs the instructions from a place on. -/
def run (program : Array Instruction) (fileText : Octets → Option Octets) :
    (fuel : Nat) → (index : Nat) → Editor → Turn × Editor
  | 0, _, e => (.dropped, { e with fault := some "too long" })
  | fuel + 1, index, e =>
    match program[index]? with
    | none => (.over, e)
    | some i =>
      let (hit, e) := e.applies index i
      let on := hit != i.negated
      let go (e : Editor) := run program fileText fuel (index + 1) e
      if e.fault.isSome then (.dropped, e)
      else if !on then
        match i.verb with
        | .block size => run program fileText fuel (index + 1 + size) e
        | _ => go e
      else
        match i.verb with
        | .block _ | .close | .label _ => go e
        | .jump name => run program fileText fuel (place program name) e
        | .jumpIf changed name =>
          if e.changed = changed then
            run program fileText fuel (place program name) { e with changed := false }
          else go { e with changed := false }
        | .delete => (.dropped, e)
        | .deleteFirst =>
          if e.space.contains e.ending then
            (.again, { e with space := (e.space.dropWhile (· ≠ e.ending)).drop 1 })
          else (.dropped, e)
        | .print => go (e.putLine e.space)
        | .printFirst => go (e.put (e.space.takeWhile (· ≠ e.ending) ++ [e.ending]))
        | .next =>
          if e.lines.isEmpty then (.quit false 0, e)
          else
            match e.endTurn.advance? with
            | some e => go e
            | none => (.quit false 0, e)
        | .join =>
          let e := e.flush
          match e.advance? with
          | some f => go { f with space := e.space ++ [e.ending] ++ f.space }
          | none => (.quit false 0, e)
        | .quit silent status => (.quit silent status, e)
        | .hold appends =>
          go { e with held := if appends then e.held ++ [e.ending] ++ e.space else e.space }
        | .fetch appends =>
          go { e with space := if appends then e.space ++ [e.ending] ++ e.held else e.held }
        | .exchange => go { e with space := e.held, held := e.space }
        | .number => go (e.putEnded (digitsOf 10 e.line))
        | .append cs => go { e with queue := e.queue ++ [cs] }
        | .insert cs => go (e.put cs)
        | .change cs =>
          let inRange := i.last.isSome && !i.negated && (e.ranges.lookup index).isSome
          (.dropped, if inRange then e else e.put cs)
        | .map pairs =>
          go { e with space := e.space.map fun c => (pairs.lookup c).getD c }
        | .substitute s =>
          let e := e.substitute s
          if e.fault.isSome then (.dropped, e) else go e
        | .readFile path =>
          match fileText path with
          | some cs => go { e with queue := e.queue ++ [cs] }
          | none => go e
        | .writeFile path => go (e.save path (e.space ++ [e.ending]))
        | .show => go (e.putEnded (visible e.space ++ ['$']))

/-- Goes through all lines, and tells the status. -/
def all (program : Array Instruction) (fileText : Octets → Option Octets) :
    (fuel : Nat) → (again : Bool) → Editor → Nat × Editor
  | 0, _, e => (1, e)
  | fuel + 1, again, e =>
    match if again then some e else e.advance? with
    | none => (0, e)
    | some e =>
      let (turn, e) := run program fileText 200000 0 { e with changed := false }
      if e.fault.isSome then (1, e)
      else
        match turn with
        | .over => all program fileText fuel false e.endTurn
        | .dropped => all program fileText fuel false e.flush
        | .again => all program fileText fuel true e.flush
        | .quit silent status => (status, if silent then e else e.endTurn)

end Editor

end Edit

def sedTable : OptionTable :=
  ⟨"nErsuz", "efl", [("quiet", 'n'), ("silent", 'n'), ("regexp-extended", 'E'),
    ("expression", 'e'), ("file", 'f'), ("separate", 's'), ("in-place", 'i')]⟩

/-- Whether files are changed in place, and the other arguments. -/
def inPlace (args : List Octets) : Bool × List Octets :=
  let isFlag (a : Octets) : Bool :=
    a.take 2 = ['-', 'i'] || (a.take 3 = ['-', 'n', 'i'] && a.length = 3) || a = chars "--in-place"
  (args.any isFlag, args.filterMap fun a =>
    if isFlag a then (if a = chars "-ni" then some ['-', 'n'] else none) else some a)

/-- The files that are edited, in lines, up to one that cannot be read at all; and the status of
what was wrong with some of them. -/
def readForEditing (changes : Bool) (ending : Char) :
    List Octets → Act (List (Octets × List Octets) × Nat)
  | [] => return ([], 0)
  | path :: rest => do
    match ← Process.contents path with
    | .ok cs =>
      let (more, status) ← readForEditing changes ending rest
      return ((path, linesBy ending cs) :: more, status)
    | .error .isDirectory =>
      if changes then
        Process.complain (chars "sed: couldn't edit " ++ path ++ chars ": not a regular file")
        let (more, status) ← readForEditing changes ending rest
        return (more, max 4 status)
      else
        Process.complain (chars "sed: read error on " ++ path ++
          chars (": " ++ reason .isDirectory))
        return ([], 4)
    | .error e =>
      Process.complain (chars "sed: can't read " ++ path ++ chars (": " ++ reason e))
      let (more, status) ← readForEditing changes ending rest
      return (more, max 2 status)

/-- Edits files: each for itself, in place or not, or all of them as one. -/
def edit (changes separate quiet : Bool) (ending : Char) (program : List Edit.Instruction)
    (paths : List Octets) : Act Nat := do
  let p ← get
  let (read, worst) ← readForEditing changes ending paths
  let fileText (path : Octets) : Option Octets :=
    match p.find path with
    | .ok (_, some (.file bytes)) => some (Text.Octets.ofBytes bytes)
    | _ => none
  let start (lines : List Octets) : Edit.Editor :=
    ⟨[], [], 0, true, lines, [], false, [], [], false, none, [], quiet, none, ending⟩
  let go (lines : List Octets) : Nat × Edit.Editor :=
    Edit.Editor.all program.toArray fileText (200 * lines.length + 2000) false (start lines)
  let finish (status : Nat) (e : Edit.Editor) : Act Nat := do
    e.files.forM fun f => do
      let _ ← Process.store f.1 false f.2
    match e.fault with
    | some text => Process.fail 1 (chars ("sed: -e expression #1, char 0: " ++ text))
    | none => return status
  if changes || separate then
    read.foldlM (fun status (path, lines) => do
      let (s, e) := go lines
      let out := e.out.reverse.flatten
      if changes then
        let _ ← Process.store path false (out ++ e.lines.flatten)
      else Process.say out
      return max status (← finish s e)) worst
  else
    let (status, e) := go (read.flatMap (·.2))
    Process.say e.out.reverse.flatten
    finish (max worst status) e

def sed : Tool := fun args => do
  let (changes, args) := inPlace args
  match Options.read sedTable args with
  | .error e =>
    Process.fail 1 (chars "sed: " ++ Options.faultText e)
  | .ok o =>
    let p ← get
    let texts ← (o.flags.filter fun f => f.1 = 'e' || f.1 = 'f').mapM fun f => do
      if f.1 = 'e' then return (f.2, some f.2)
      else
        match ← Process.contents f.2 with
        | .ok cs => return (f.2, some (if cs.getLast? = some '\n' then cs.dropLast else cs))
        | .error _ => return (f.2, none)
    let (scripts, paths) := if texts.isEmpty
      then (o.operands.take 1, o.operands.drop 1)
      else (texts.filterMap (·.2), o.operands)
    match texts.find? (·.2.isNone), scripts with
    | some (path, _), _ =>
      let why := match p.find path with
        | .error e => reason e
        | .ok _ => reason .missing
      Process.fail 4 (chars "sed: couldn't open file " ++ path ++ chars (": " ++ why))
    | none, [] =>
      Process.fail 1
        (chars "Usage: sed [OPTION]... \x7bscript-only-if-no-other-script\x7d [input-file]...")
    | none, scripts =>
      let extended := o.has 'E' || o.has 'r'
      match Edit.parse extended (['\n'].intercalate scripts) with
      | .error (count, text) =>
        Process.fail 1 (chars ("sed: -e expression #1, char " ++
          toString (count.getD 0) ++ ": " ++ text))
      | .ok program =>
        match Edit.missingLabel? program with
        | some name =>
          Process.fail 4 (chars "sed: can't find label for jump to \x60" ++ name ++ ['\''])
        | none =>
          let quiet := o.has 'n' || (scripts.headD []).take 3 = ['#', 'n', '\n'] ||
            scripts.headD [] = ['#', 'n']
          let ending := if o.has 'z' then '\x00' else '\n'
          edit changes (o.has 's') quiet ending program
            (if paths.isEmpty then [['-']] else paths)

end Testbed.Lab
