import Testbed.Lab.Tool.Lines
import Testbed.Lab.Tool.Regex
/-!
# Searching

Finds the lines of files that some patterns match, and tells by its status whether there are any.
-/

namespace Testbed.Lab

open Text (Octets)
open Process (chars)

namespace Search

def table : OptionTable :=
  ⟨"EFGPivclLnoqsxwhHrRayzU", "emABCf", [("extended-regexp", 'E'), ("fixed-strings", 'F'),
    ("ignore-case", 'i'), ("invert-match", 'v'), ("count", 'c'), ("files-with-matches", 'l'),
    ("line-number", 'n'), ("only-matching", 'o'), ("quiet", 'q'), ("silent", 'q'),
    ("no-messages", 's'), ("line-regexp", 'x'), ("word-regexp", 'w'), ("no-filename", 'h'),
    ("with-filename", 'H'), ("recursive", 'r'), ("regexp", 'e'), ("max-count", 'm')]⟩

def usage : Act Nat := do
  Process.complain (chars "Usage: grep [OPTION]... PATTERNS [FILE]...")
  Process.fail 2 (chars "Try 'grep --help' for more information.")

/-- The expression of one pattern. -/
def regexOf (o : Options) (cs : Octets) : Except RegexFault (Regex × List String) :=
  if o.has 'F' then .ok (.ofText cs, [])
  else (Regex.read ⟨o.has 'E' || o.has 'P', false⟩ cs).map fun r => (r.1, r.2.idle)

/-- Where a pattern matches in a line from a place on. Whole words and whole lines are looked for
if they are asked for. -/
def matchFrom (o : Options) (rs : List Regex) (s : Regex.Spot) :
    Option (Regex.Spot × Regex.Spot) :=
  let mode : Regex.Mode := ⟨o.has 'i' || o.has 'y', false⟩
  let whole (r : Regex) : Regex :=
    if o.has 'x' then .seq .start (.seq r .finish)
    else if o.has 'w' then .seq (.edge false true) (.seq r (.edge true false))
    else r
  rs.foldl (fun best r =>
    match best, Regex.find? mode (whole r) s with
    | none, found => found
    | best, none => best
    | some (a, b), some (c, d) =>
      if c.pos < a.pos || (c.pos = a.pos && b.pos < d.pos) then some (c, d) else some (a, b)) none

/-- All matches in a line that are not empty. -/
def allMatches (o : Options) (rs : List Regex) : (fuel : Nat) → Regex.Spot → List Octets
  | 0, _ => []
  | fuel + 1, s =>
    match matchFrom o rs s with
    | none => []
    | some (a, b) =>
      if a.pos < b.pos then b.between a.pos b.pos :: allMatches o rs fuel b
      else
        match a.advance? with
        | some next => allMatches o rs fuel next
        | none => []

/-- What is shown of a file: its lines by number, each with the mark that tells a match from a
line beside one. -/
def shownLines (before after : Nat) (hits : List Nat) (lines : Nat) : List (Nat × Char) :=
  (List.range lines).filterMap fun i =>
    if hits.contains i then some (i, ':')
    else if hits.any fun h => (i < h && h ≤ i + before) || (h < i && i ≤ h + after) then
      some (i, '-')
    else none

structure Settings where
  options : Options
  patterns : List Regex
  titled : Bool
  before : Nat
  after : Nat
  limit : Option Nat

/-- Shows what is to be shown of one file, and tells how many lines there were to show. -/
def searchText (s : Settings) (name : Octets) (cs : Octets) : Act Nat := do
  let o := s.options
  let lines := (linesOf cs).map chomp
  let hit (line : Octets) : Bool :=
    (matchFrom o s.patterns (.ofOctets line)).isSome != o.has 'v'
  let all := (lines.zipIdx.filter fun e => hit e.1).map (·.2)
  let hits := match s.limit with
    | some n => all.take n
    | none => all
  let label (mark : Char) : Octets := if s.titled then name ++ [mark] else []
  if o.has 'q' then return hits.length
  else if o.has 'l' then
    if !hits.isEmpty then Process.sayLine name
    return hits.length
  else if o.has 'L' then
    if hits.isEmpty then Process.sayLine name
    return if hits.isEmpty then 1 else 0
  else if o.has 'c' then
    Process.sayLine (label ':' ++ digitsOf 10 hits.length)
    return hits.length
  else if cs.contains '\x00' && !o.has 'a' then
    if !hits.isEmpty then
      Process.complain (chars "grep: " ++ name ++ chars ": binary file matches")
    return hits.length
  else
    let number (i : Nat) (mark : Char) : Octets :=
      if o.has 'n' then digitsOf 10 (i + 1) ++ [mark] else []
    let line (i : Nat) : Octets := lines[i]?.getD []
    if o.has 'o' then
      if !o.has 'v' then
        hits.forM fun i =>
          (allMatches o s.patterns ((line i).length + 2) (.ofOctets (line i))).forM fun part =>
            Process.sayLine (label ':' ++ number i ':' ++ part)
      return hits.length
    else
      let shown := shownLines s.before s.after hits lines.length
      let gaps := 0 < s.before || 0 < s.after || o.has 'A' || o.has 'B' || o.has 'C'
      let _ ← shown.foldlM (fun (last : Option Nat) (i, mark) => do
        if gaps && (last.map fun l => decide (l + 1 < i)).getD false then Process.sayLine ['-', '-']
        Process.sayLine (label mark ++ number i mark ++ line i)
        return some i) none
      return hits.length

/-- The files below a directory. -/
def filesBelow (p : Process) (path : Octets) : List Octets :=
  match p.find path with
  | .ok (here, some .directory) =>
    let below := (p.machine.files.below here).filterMap fun e =>
      match e.2 with
      | .file _ => some ("/".intercalate e.1)
      | .directory => none
    (below.mergeSort fun a b => !decide (b < a)).map fun name =>
      (if path.getLast? = some '/' then path else path ++ ['/']) ++ chars name
  | _ => [path]

end Search

def grepAs (extra : List Char) : Tool := fun args => do
  match Options.read Search.table args with
  | .error e =>
    Process.complain (chars "grep: " ++ Options.faultText e)
    Search.usage
  | .ok o =>
    let o := { o with flags := extra.map (·, []) ++ o.flags }
    let given := (o.flags.filter (·.1 = 'e')).map (·.2)
    let files := (o.flags.filter (·.1 = 'f')).map (·.2)
    let read ← files.mapM fun path => do return (path, ← Process.contents path)
    let fromFiles := read.flatMap fun r =>
      match r.2 with
      | .ok cs => (linesOf cs).map chomp
      | .error _ => []
    match read.find? fun r => r.2 matches .error _ with
    | some (path, .error e) =>
      complainOf "grep" path e
      return 2
    | _ =>
      let (texts, paths) := if given.isEmpty && files.isEmpty
        then (o.operands.take 1, o.operands.drop 1)
        else (given ++ fromFiles, o.operands)
      if texts.isEmpty && given.isEmpty && files.isEmpty then Search.usage
      else
        match (texts.flatMap (Text.split '\n')).mapM (Search.regexOf o) with
        | .error e => Process.fail 2 (chars ("grep: " ++ e.text))
        | .ok read =>
          let patterns := read.map (·.1)
          (read.flatMap (·.2)).forM fun mark =>
            Process.complain (chars ("grep: warning: " ++ mark ++ " at start of expression"))
          let size (c : Char) : Option Nat := (o.value? c).bind Script.count?
          if o.has 'm' && (size 'm').isNone then Process.fail 2 (chars "grep: invalid max count")
          else
            let around := (size 'C').getD 0
            let recursive := o.has 'r' || o.has 'R'
            let p ← get
            let paths := if paths.isEmpty then (if recursive then [['.']] else [['-']]) else paths
            let all := if recursive then paths.flatMap (Search.filesBelow p) else paths
            let settings : Search.Settings :=
              ⟨o, patterns, (o.has 'H' || 1 < paths.length || recursive) && !o.has 'h',
                (size 'B').getD around, (size 'A').getD around, size 'm'⟩
            let (found, failed) ← all.foldlM (fun (found, failed) path => do
              if found && o.has 'q' then return (found, failed)
              match ← Process.contents path with
              | .ok cs =>
                let name := if path = ['-'] then chars "(standard input)" else path
                let n ← Search.searchText settings name cs
                return (found || 0 < n, failed)
              | .error e =>
                if !o.has 's' then complainOf "grep" path e
                return (found, true)) (false, false)
            return if found && o.has 'q' then 0 else if failed then 2 else if found then 0 else 1

end Testbed.Lab
