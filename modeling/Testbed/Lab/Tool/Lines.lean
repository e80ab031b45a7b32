import Testbed.Lab.Script.Pattern
import Testbed.Lab.Tool.Printing
/-!
# Tools for lines

Tools that show, count, choose, order and change lines of text.
-/

namespace Testbed.Lab

open Text (Octets)
open Process (chars)

/-- A number, moved to the right. -/
def aligned (width : Nat) (n : Nat) : Octets :=
  let ds := digitsOf 10 n
  List.replicate (width - ds.length) ' ' ++ ds

/-! ## Showing -/

/-- Shows lines with their numbers, which go on over files. -/
def numbered (nonBlank ends : Bool) (first : Nat) (lines : List Octets) : Nat × Octets :=
  let r := lines.foldl (fun (n, out) line =>
    let isBlank := chomp line = []
    let shown := if ends && line.getLast? = some '\n' then line.dropLast ++ ['$', '\n'] else line
    if nonBlank && isBlank then (n, shown :: out)
    else (n + 1, (aligned 6 n ++ ['\t'] ++ shown) :: out)) (first, [])
  (r.1, r.2.reverse.flatten)

/-- Of several blank lines one after the other only the first one stays. -/
def squeezed (lines : List Octets) : List Octets :=
  (lines.foldl (fun (kept : List Octets) line =>
    if line = ['\n'] && kept.head? = some ['\n'] then kept else line :: kept) []).reverse

/-- A line with the bytes in it made visible that are no letters, and its tabs or not. -/
def visibleLine (bytes tabs : Bool) (line : Octets) : Octets :=
  line.flatMap fun c =>
    if c = '\n' then ['\n']
    else if c = '\t' then (if tabs then ['^', 'I'] else ['\t'])
    else if !bytes then [c]
    else
      let low := c.toNat % 128
      let shown : Octets := if low < 32 then ['^', Char.ofNat (low + 64)]
        else if low = 127 then ['^', '?'] else [Char.ofNat low]
      if c.toNat < 128 then shown else 'M' :: '-' :: shown

def cat : Tool := withOptions "cat" 1
    ⟨"nbsEAuetTv", "", [("number", 'n'), ("number-nonblank", 'b'), ("squeeze-blank", 's'),
      ("show-ends", 'E'), ("show-all", 'A')]⟩ fun o => do
  let marks := o.has 'E' || o.has 'A' || o.has 'e'
  let change (n : Nat) (cs : Octets) : Nat × Octets :=
    let ls := if o.has 's' then squeezed (linesOf cs) else linesOf cs
    let ls := ls.map (visibleLine (['v', 'A', 'e', 't'].any o.has) (['T', 'A', 't'].any o.has))
    if o.has 'n' || o.has 'b' then numbered (o.has 'b') marks n ls
    else
      (n, if marks then (ls.map fun line =>
        if line.getLast? = some '\n' then line.dropLast ++ ['$', '\n'] else line).flatten
      else ls.flatten)
  let (status, _) ← (if o.operands.isEmpty then [['-']] else o.operands).foldlM
    (fun (status, n) path => do
      match ← Process.contents path with
      | .ok cs =>
        let (n, out) := change n cs
        Process.say out
        return (status, n)
      | .error e =>
        complainOf "cat" path e
        return (1, n)) (0, 1)
  return status

/-- How many pieces of one end are taken, or how many are left out. -/
inductive Portion where
  | take (n : Nat)
  | skip (n : Nat)

def Portion.ofHead (p : Portion) {α : Type} (all : List α) : List α :=
  match p with
  | .take n => all.take n
  | .skip n => all.take (all.length - n)

def Portion.ofTail (p : Portion) {α : Type} (all : List α) : List α :=
  match p with
  | .take n => all.drop (all.length - n)
  | .skip n => all.drop (n - 1)

/-- A count of pieces: after a mark it tells how many are left out. -/
def portion? (mark : Char) (cs : Octets) : Option Portion :=
  let (skips, ds) := match cs with
    | c :: ds => if c = mark then (true, ds) else if c = '-' then (false, ds) else (false, cs)
    | [] => (false, [])
  if ds.isEmpty || !ds.all Char.isDigit then none
  else
    let n := Script.numberOf 10 ds
    some (if skips then .skip n else .take n)

/-- An old way to write a count: a hyphen and digits. -/
def modernCount : List Octets → List Octets
  | ('-' :: d :: ds) :: rest =>
    if d.isDigit then ['-', 'n'] :: (d :: ds) :: rest else ('-' :: d :: ds) :: rest
  | ('+' :: d :: ds) :: rest =>
    if d.isDigit then ['-', 'n'] :: ('+' :: d :: ds) :: rest else ('+' :: d :: ds) :: rest
  | args => args

/-- Shows one end of each file, under its name if there are several. -/
def oneEnd (tool : String) (mark : Char) (usual : Portion)
    (lines bytes : Portion → List Octets → List Octets) : Tool := fun args =>
  withOptions tool 1 ⟨"qvz", "nc", [("lines", 'n'), ("bytes", 'c'), ("quiet", 'q'),
    ("verbose", 'v')]⟩ (fun o => do
    let last := (o.flags.reverse.find? fun f => f.1 = 'n' || f.1 = 'c')
    let isBytes := (last.map (·.1)) = some 'c'
    match last.map fun f => (f.2, portion? mark f.2) with
    | some (value, none) =>
      Process.fail 1 (chars (tool ++ ": invalid number of " ++
        (if isBytes then "bytes" else "lines") ++ ": '") ++ value ++ ['\''])
    | given =>
      let portion := (given.bind (·.2)).getD usual
      let paths := if o.operands.isEmpty then [['-']] else o.operands
      let titled := (1 < paths.length || o.has 'v') && !o.has 'q'
      let (status, _) ← paths.foldlM (fun (status, isFirst) path => do
        match ← Process.contents path with
        | .ok cs =>
          if titled then
            let name := if path = ['-'] then chars "standard input" else path
            Process.say ((if isFirst then [] else ['\n']) ++ chars "==> " ++ name ++
              chars " <==\n")
          Process.say (if isBytes then bytes portion (cs.map fun c => [c])
            else lines portion (linesOf cs)).flatten
          return (status, false)
        | .error e =>
          Process.complain (chars (tool ++ ": ") ++
            (if e = .isDirectory then chars "error reading '" ++ path ++ ['\'']
            else chars "cannot open '" ++ path ++ chars "' for reading") ++
            chars (": " ++ reason e))
          return (1, isFirst)) (0, true)
      return status) (modernCount args)

def head : Tool :=
  oneEnd "head" '-' (.take 10) (fun p all => p.ofHead all) (fun p all => p.ofHead all)

def tail : Tool :=
  oneEnd "tail" '+' (.take 10) (fun p all => p.ofTail all) (fun p all => p.ofTail all)

/-- Lines from the last to the first. -/
def tac : Tool := withOptions "tac" 1 ⟨"", "", []⟩ fun o =>
  eachOperand (if o.operands.isEmpty then [['-']] else o.operands) fun path => do
    match ← Process.contents path with
    | .ok cs =>
      Process.say (linesOf cs).reverse.flatten
      return 0
    | .error e =>
      Process.fail 1 (chars "tac: failed to open '" ++ path ++
        chars ("' for reading: " ++ reason e))

def rev : Tool := fun args =>
  eachText "rev" 1 args fun _ cs => do
    Process.say ((linesOf cs).map fun line =>
      (chomp line).reverse ++ (if line.getLast? = some '\n' then ['\n'] else [])).flatten
    return 0

def nl : Tool := withOptions "nl" 1 ⟨"", "bwsv", []⟩ fun o => do
  let (status, cs) ← allText "nl" 1 o.operands
  let all := o.value? 'b' = some ['a']
  let separator := (o.value? 's').getD ['\t']
  let width := ((o.value? 'w').bind Script.count?).getD 6
  let (_, out) := (linesOf cs).foldl (fun (n, out) line =>
    let line := chomp line
    if line.isEmpty && !all then (n, (List.replicate (width + 1) ' ' ++ ['\n']) :: out)
    else (n + 1, (aligned width n ++ separator ++ line ++ ['\n']) :: out))
    (1, ([] : List Octets))
  Process.say out.reverse.flatten
  return status

/-! ## Counting -/

/-- How many words there are between blanks. -/
def wordCount (cs : Octets) : Nat :=
  (cs.foldl (fun (inside, n) c =>
    if Script.isSpace c then (false, n) else (true, if inside then n else n + 1))
    ((false, 0) : Bool × Nat)).2

structure Counts where
  lines : Nat
  words : Nat
  bytes : Nat
  longest : Nat

def Counts.ofText (cs : Octets) : Counts :=
  ⟨cs.count '\n', wordCount cs, cs.length,
    (linesOf cs).foldl (fun n line => max n (chomp line).length) 0⟩

def Counts.add (a b : Counts) : Counts :=
  ⟨a.lines + b.lines, a.words + b.words, a.bytes + b.bytes, max a.longest b.longest⟩

def wc : Tool := withOptions "wc" 1
    ⟨"lwcmL", "", [("lines", 'l'), ("words", 'w'), ("bytes", 'c'), ("chars", 'm')]⟩ fun o => do
  let usual := o.flags.isEmpty
  let columns (c : Counts) : List Nat :=
    (if o.has 'l' || usual then [c.lines] else []) ++
      (if o.has 'w' || usual then [c.words] else []) ++
      (if o.has 'm' then [c.bytes] else []) ++
      (if o.has 'c' || usual then [c.bytes] else []) ++
      (if o.has 'L' then [c.longest] else [])
  let paths := if o.operands.isEmpty then [['-']] else o.operands
  let p ← get
  let isPlain (path : Octets) : Bool :=
    if path = ['-'] then
      match (p.stream? 0).map p.machine.channel with
      | some (.file ..) => true
      | _ => false
    else p.isFile path || (p.entry? path).isNone
  let results ← paths.mapM fun path => do return (path, ← Process.contents path)
  let total := results.foldl (fun n r =>
    match r.2 with
    | .ok cs => n + cs.length
    | .error _ => n) 0
  let single := (columns ⟨0, 0, 0, 0⟩).length = 1 && paths.length = 1
  let width := if single then 1
    else if paths.all isPlain then (digitsOf 10 total).length else 7
  let row (c : Counts) (name : Octets) : Octets :=
    [' '].intercalate ((columns c).map (aligned width)) ++ name ++ ['\n']
  let (status, sum) ← results.foldlM (fun (status, sum) (path, r) => do
    match r with
    | .ok cs =>
      Process.say (row (.ofText cs) (if o.operands.isEmpty then [] else ' ' :: path))
      return (status, sum.add (.ofText cs))
    | .error e =>
      complainOf "wc" path e
      if e = .isDirectory then Process.say (row ⟨0, 0, 0, 0⟩ (' ' :: path))
      return (1, sum)) (0, (⟨0, 0, 0, 0⟩ : Counts))
  if 1 < paths.length then Process.say (row sum (chars " total"))
  return status

def uniq : Tool := withOptions "uniq" 1
    ⟨"cdui", "", [("count", 'c'), ("repeated", 'd'), ("unique", 'u'), ("ignore-case", 'i')]⟩
    fun o => do
  let path := o.operands.head?.getD ['-']
  match ← Process.contents path with
  | .error e =>
    Process.fail 1 (chars "uniq: " ++
      (if e = .isDirectory then chars "error reading '" ++ path ++ ['\''] else path) ++
      chars (": " ++ reason e))
  | .ok cs =>
    let key (line : Octets) := if o.has 'i' then line.map Char.toLower else line
    let runs := ((linesOf cs).map chomp).foldl (fun (runs : List (Octets × Nat)) line =>
      match runs with
      | (l, n) :: rest => if key l = key line then (l, n + 1) :: rest else (line, 1) :: runs
      | [] => [(line, 1)]) []
    let kept := runs.reverse.filter fun r => (!o.has 'd' || 1 < r.2) && (!o.has 'u' || r.2 = 1)
    let out := (kept.map fun r =>
      (if o.has 'c' then aligned 7 r.2 ++ [' '] else []) ++ r.1 ++ ['\n']).flatten
    match o.operands.drop 1 with
    | target :: _ =>
      let _ ← Process.store target false out
      return 0
    | [] =>
      Process.say out
      return 0

/-! ## Sorting -/

/-- A part of a line that is compared: from a character of a field up to one of another field. -/
structure SortKey where
  field : Nat
  char : Nat
  last : Option (Nat × Nat)
  flags : List Char

/-- The first number in a text, and how many of its digits are after the point. -/
def leadingNumber (cs : Octets) : Int × Nat :=
  let cs := cs.dropWhile fun c => c = ' ' || c = '\t'
  let (negative, ds) := match cs with
    | '-' :: ds => (true, ds)
    | ds => (false, ds)
  let whole := ds.takeWhile Char.isDigit
  let places := match ds.drop whole.length with
    | '.' :: rest => rest.takeWhile Char.isDigit
    | _ => []
  let n : Int := Script.numberOf 10 (whole ++ places)
  (if negative then -n else n, places.length)

def compareNumbers (a b : Octets) : Ordering :=
  let (x, p) := leadingNumber a
  let (y, q) := leadingNumber b
  compare (x * (Nat.pow 10 q : Nat)) (y * (Nat.pow 10 p : Nat))

def compareTexts (a b : Octets) : Ordering :=
  if a < b then .lt else if b < a then .gt else .eq

/-- What is left of a line after a number of fields. -/
def afterFields (separator : Option Char) : (n : Nat) → Octets → Octets
  | 0, cs => cs
  | n + 1, cs =>
    match separator with
    | some sep => afterFields separator n ((cs.dropWhile (· ≠ sep)).drop 1)
    | none =>
      let isBlank (c : Char) : Bool := c = ' ' || c = '\t'
      afterFields separator n ((cs.dropWhile isBlank).dropWhile fun c => !isBlank c)

def SortKey.part (k : SortKey) (separator : Option Char) (line : Octets) : Octets :=
  let isBlank (c : Char) : Bool := c = ' ' || c = '\t'
  let skip (cs : Octets) := if k.flags.contains 'b' then cs.dropWhile isBlank else cs
  let start := (skip (afterFields separator (k.field - 1) line)).drop (k.char - 1)
  match k.last with
  | none => start
  | some (field, 0) =>
    let after := (afterFields separator field line).length
    let mark := if separator.isSome && after < line.length &&
      (line.count (separator.getD ' ')) ≥ field then 1 else 0
    start.take (start.length - (after + mark))
  | some (field, char) =>
    let rest := ((skip (afterFields separator (field - 1) line)).drop char).length
    start.take (start.length - rest)

/-- A position in a key: field, character, flags. -/
def keyPosition (cs : Octets) : Nat × Nat × List Char × Octets :=
  let field := cs.takeWhile Char.isDigit
  let (char, rest) := match cs.drop field.length with
    | '.' :: rest => (rest.takeWhile Char.isDigit, rest.dropWhile Char.isDigit)
    | rest => ([], rest)
  let flags := rest.takeWhile Char.isAlpha
  (Script.numberOf 10 field, Script.numberOf 10 char, flags, rest.drop flags.length)

def SortKey.ofOctets (cs : Octets) : SortKey :=
  let (field, char, flags, rest) := keyPosition cs
  match rest with
  | ',' :: rest =>
    let (field2, char2, flags2, _) := keyPosition rest
    ⟨field, char, some (field2, char2), flags ++ flags2⟩
  | _ => ⟨field, char, none, flags⟩

/-- How two texts compare under some flags. -/
def compareUnder (flags : List Char) (a b : Octets) : Ordering :=
  let fold (cs : Octets) := if flags.contains 'f' then cs.map Char.toUpper else cs
  let r := if flags.contains 'n' || flags.contains 'g' then compareNumbers a b
    else compareTexts (fold a) (fold b)
  if flags.contains 'r' then r.swap else r

def sort : Tool := withOptions "sort" 2
    ⟨"urnfbscCghVdimMz", "ktoST", [("unique", 'u'), ("reverse", 'r'), ("numeric-sort", 'n'),
      ("ignore-case", 'f'), ("stable", 's'), ("check", 'c'), ("key", 'k'),
      ("field-separator", 't'), ("output", 'o')]⟩ fun o => do
  let paths := if o.operands.isEmpty then [['-']] else o.operands
  let read ← paths.mapM fun path => do return (path, ← Process.contents path)
  match read.find? fun r => r.2 matches .error _ with
  | some (path, .error e) =>
    Process.fail 2 (chars (if e = .isDirectory then "sort: read failed: "
      else "sort: cannot read: ") ++ path ++ chars (": " ++ reason e))
  | _ =>
    let lines := read.flatMap fun r =>
      match r.2 with
      | .ok cs => (linesOf cs).map chomp
      | .error _ => []
    let global := (o.flags.map (·.1)).filter fun c => ['n', 'r', 'f', 'b', 'g'].contains c
    let separator := (o.value? 't').bind (·.head?)
    let keys := (o.flags.filter (·.1 = 'k')).map fun f => SortKey.ofOctets f.2
    let byKeys (a b : Octets) : Ordering :=
      if keys.isEmpty then compareUnder global a b
      else
        keys.foldl (fun r k =>
          let flags := if k.flags.isEmpty then global else k.flags
          let k := { k with flags := flags }
          r.then (compareUnder flags (k.part separator a) (k.part separator b))) .eq
    let lastResort (a b : Octets) : Ordering :=
      if o.has 'u' || o.has 's' then .eq
      else if global.contains 'r' then compareTexts b a else compareTexts a b
    let order (a b : Octets) : Ordering := (byKeys a b).then (lastResort a b)
    if o.has 'c' || o.has 'C' then
      let pairs := (lines.zip (lines.drop 1)).zipIdx
      match pairs.find? fun e => order e.1.1 e.1.2 = .gt with
      | some ((_, b), i) =>
        if o.has 'c' then
          Process.complain (chars "sort: " ++ paths.headD [] ++
            chars (":" ++ toString (i + 2) ++ ": disorder: ") ++ b)
        return 1
      | none => return 0
    else
      let sorted := lines.mergeSort fun a b => order a b ≠ .gt
      let kept := if o.has 'u' then
          (sorted.foldl (fun (kept : List Octets) line =>
            match kept with
            | last :: _ => if byKeys last line = .eq then kept else line :: kept
            | [] => [line]) []).reverse
        else sorted
      let out := (kept.map (· ++ ['\n'])).flatten
      match o.value? 'o' with
      | some target =>
        match ← Process.store target false out with
        | .ok () => return 0
        | .error e =>
          Process.fail 2 (chars "sort: open failed: " ++ target ++ chars (": " ++ reason e))
      | none =>
        Process.say out
        return 0

/-! ## Columns -/

/-- The places that a list of numbers and ranges names, or what is wrong with it. -/
def ranges? (isField : Bool) (cs : Octets) : Except Octets (List (Nat × Option Nat)) :=
  (Text.split ',' cs).mapM fun item => do
    let first := item.takeWhile Char.isDigit
    let invalid : Octets :=
      chars (if isField then "invalid field value '" else "invalid byte/character position '") ++
        item ++ ['\'']
    let positive (n : Nat) : Except Octets Nat :=
      if n = 0 then
        .error (chars (if isField then "fields are numbered from 1"
          else "byte/character positions are numbered from 1"))
      else .ok n
    let low := Script.numberOf 10 first
    match item.drop first.length with
    | [] =>
      if first.isEmpty then .error (chars (if isField then "fields are numbered from 1"
        else "byte/character positions are numbered from 1"))
      else return (← positive low, some low)
    | '-' :: rest =>
      if !rest.all Char.isDigit then .error invalid
      else if first.isEmpty && rest.isEmpty then .error (chars "invalid range with no endpoint: -")
      else
        let low ← if first.isEmpty then pure 1 else positive low
        if rest.isEmpty then return (low, none)
        else
          let high := Script.numberOf 10 rest
          if high < low then .error (chars "invalid decreasing range") else return (low, some high)
    | _ => .error invalid

def inside (ranges : List (Nat × Option Nat)) (n : Nat) : Bool :=
  ranges.any fun r => r.1 ≤ n && (match r.2 with
    | some last => n ≤ last
    | none => true)

def cut : Tool := withOptions "cut" 1
    ⟨"sn", "fcbd", [("fields", 'f'), ("characters", 'c'), ("bytes", 'b'), ("delimiter", 'd'),
      ("only-delimited", 's'), ("complement", 'C')]⟩ fun o => do
  let lists := o.flags.filter fun f => ['f', 'c', 'b'].contains f.1
  match lists with
  | [] => misused "cut" 1 (chars "you must specify a list of bytes, characters, or fields")
  | _ :: _ :: _ => misused "cut" 1 (chars "only one list may be specified")
  | [(kind, list)] =>
    if 1 < ((o.value? 'd').getD []).length then
      misused "cut" 1 (chars "the delimiter must be a single character")
    else
      match ranges? (kind = 'f') list with
      | .error text => misused "cut" 1 text
      | .ok ranges =>
        let delimiter := ((o.value? 'd').bind (·.head?)).getD '\t'
        let wanted (n : Nat) : Bool := inside ranges (n + 1) != o.has 'C'
        let pick {α : Type} (all : List α) : List α :=
          (all.zipIdx.filter fun e => wanted e.2).map (·.1)
        eachText "cut" 1 o.operands fun _ cs => do
          Process.say ((linesOf cs).map fun line =>
            let line := chomp line
            if kind ≠ 'f' then pick line ++ ['\n']
            else if !line.contains delimiter then
              if o.has 's' then [] else line ++ ['\n']
            else [delimiter].intercalate (pick (Text.split delimiter line)) ++ ['\n']).flatten
          return 0

/-- Lines of several texts side by side, or those of one text in a row. -/
def paste : Tool := withOptions "paste" 1 ⟨"s", "d", [("serial", 's'), ("delimiters", 'd')]⟩
    fun o => do
  let delimiters := (unescaped .program ((o.value? 'd').getD ['\t'])).1
  let mark (i : Nat) : Octets :=
    if delimiters.isEmpty then [] else (delimiters[i % delimiters.length]?).toList
  let joinRow (cells : List Octets) : Octets :=
    (cells.zipIdx.map fun e => if e.2 = 0 then e.1 else mark (e.2 - 1) ++ e.1).flatten ++ ['\n']
  let paths := if o.operands.isEmpty then [['-']] else o.operands
  let read ← paths.eraseDups.mapM fun path => do return (path, ← Process.contents path)
  match read.find? fun r => r.2 matches .error _ with
  | some (path, .error e) =>
    complainOf "paste" path e
    return 1
  | _ =>
    let linesAt (path : Octets) : List Octets :=
      match read.lookup path with
      | some (.ok cs) => (linesOf cs).map chomp
      | _ => []
    if o.has 's' then
      Process.say (paths.map fun path => joinRow (linesAt path)).flatten
      return 0
    else
      let hyphens := (paths.filter (· = ['-'])).length
      let columns := (paths.foldl (fun (k, columns) path =>
        if path = ['-'] && 1 < hyphens then
          let own := (linesAt path).zipIdx.filterMap fun e =>
            if e.2 % hyphens = k then some e.1 else none
          (k + 1, own :: columns)
        else (k, linesAt path :: columns)) (0, ([] : List (List Octets)))).2.reverse
      let height := columns.foldl (fun n c => max n c.length) 0
      Process.say ((List.range height).map fun i =>
        joinRow (columns.map fun column => column[i]?.getD [])).flatten
      return 0

/-! ## Characters -/

/-- The characters that a set of characters names, in order. -/
def characterSet : (fuel : Nat) → Octets → Except Octets Octets
  | 0, _ => .ok []
  | _ + 1, [] => .ok []
  | fuel + 1, cs => do
    let one (cs : Octets) : Char × Octets :=
      match cs with
      | '\\' :: rest =>
        let (e, after) := escapeOf .shell rest
        if e = ['\\'] && !rest.isEmpty && rest.head? ≠ some '\\' then
          (rest.head?.getD '\\', rest.drop 1)
        else (e.head?.getD '\\', after)
      | c :: rest => (c, rest)
      | [] => ('\\', [])
    match cs with
    | '[' :: rest =>
      match Script.namedClass? rest with
      | some (ranges, length) =>
        let all := (List.range 256).map Char.ofNat
        let named := all.filter fun c => ranges.any fun r => r.1 ≤ c && c ≤ r.2
        return named ++ (← characterSet fuel (rest.drop length))
      | none => return '[' :: (← characterSet fuel rest)
    | cs =>
      let (first, rest) := one cs
      match rest with
      | '-' :: d :: more =>
        let (last, after) := one (d :: more)
        if last < first then
          throw (chars "range-endpoints of '" ++ [first, '-', last] ++
            chars "' are in reverse collating sequence order")
        let count := last.toNat - first.toNat + 1
        return (List.range count).map (fun i => Char.ofNat (first.toNat + i)) ++
          (← characterSet fuel after)
      | rest => return first :: (← characterSet fuel rest)

/-- Of equal characters of a set one after the other only the first one stays. -/
def squeeze (isIn : Char → Bool) (cs : Octets) : Octets :=
  (cs.foldl (fun (kept : Octets) c =>
    if isIn c && kept.head? = some c then kept else c :: kept) []).reverse

def tr : Tool := withOptions "tr" 1
    ⟨"dscCt", "", [("delete", 'd'), ("squeeze-repeats", 's'), ("complement", 'c')]⟩ fun o => do
  let (deletes, squeezes) := (o.has 'd', o.has 's')
  let wanted := if deletes != squeezes then 1 else 2
  let most := if deletes && !squeezes then 1 else 2
  match o.operands with
  | [] => misused "tr" 1 (chars "missing operand")
  | first :: more =>
    if more.length + 1 < wanted then
      Process.complain (chars "tr: missing operand after '" ++ first ++ ['\''])
      Process.complain (chars (if deletes
        then "Two strings must be given when both deleting and squeezing repeats."
        else "Two strings must be given when translating."))
      Process.fail 1 (chars "Try 'tr --help' for more information.")
    else if most < more.length + 1 then
      Process.complain (chars "tr: extra operand '" ++ (more[most - 1]?).getD [] ++ ['\''])
      if most = 1 then
        Process.complain
          (chars "Only one string may be given when deleting without squeezing repeats.")
      Process.fail 1 (chars "Try 'tr --help' for more information.")
    else
      let second := more.headD []
      match characterSet (first.length + 1) first, characterSet (second.length + 1) second with
      | .error text, _ | _, .error text => Process.fail 1 (chars "tr: " ++ text)
      | .ok a, .ok b =>
        let all := (List.range 256).map Char.ofNat
        let a := if o.has 'c' || o.has 'C' then all.filter fun c => !a.contains c else a
        if !deletes && !more.isEmpty && b.isEmpty then
          Process.fail 1 (chars "tr: when not truncating set1, string2 must be non-empty")
        else
          let cs ← Process.readAll 0
          let last := b.getLast?.getD ' '
          let change (c : Char) : Char :=
            match (a.zipIdx.reverse).find? (·.1 = c) with
            | some (_, i) => (b[i]?).getD last
            | none => c
          let changed := if deletes then cs.filter fun c => !a.contains c
            else if more.isEmpty then cs else cs.map change
          let repeats := if more.isEmpty then a else b
          Process.say (if squeezes then squeeze repeats.contains changed else changed)
          return 0

/-! ## Copies and sequences -/

/-- Passes on what comes in, and keeps it in files too. -/
def tee : Tool := withOptions "tee" 1 ⟨"aip", "", [("append", 'a')]⟩ fun o => do
  let cs ← Process.readAll 0
  let status ← eachOperand o.operands fun path => do
    match ← Process.store path (o.has 'a') cs with
    | .ok () => return 0
    | .error e =>
      complainOf "tee" path e
      return 1
  Process.say cs
  return status

/-- The numbers of a sequence, scaled to whole ones. -/
def sequence (first step last : Int) : List Int :=
  if step = 0 then []
  else
    let count := if 0 < step then Int.tdiv (last - first) step else Int.tdiv (first - last) (-step)
    if (0 < step && last < first) || (step < 0 && first < last) then []
    else (List.range (count.toNat + 1)).map fun (i : Nat) => first + step * (i : Int)

/-- The arguments of a sequence start where one is no option, as a negative number. -/
def sequenceOptions : List Octets → List Octets
  | ('-' :: d :: ds) :: rest =>
    if d.isDigit || d = '.' then ['-', '-'] :: ('-' :: d :: ds) :: rest
    else if ['s', 'f'].contains d && ds.isEmpty then
      match rest with
      | [] => [['-', d]]
      | value :: more => ['-', d] :: value :: sequenceOptions more
    else ('-' :: d :: ds) :: sequenceOptions rest
  | args => if args.contains ['-', '-'] then args else ['-', '-'] :: args

def seq : Tool := fun args =>
  withOptions "seq" 1 ⟨"w", "sf", [("equal-width", 'w'), ("separator", 's')]⟩ (fun o => do
    match o.operands.find? fun a => (fraction? a).isNone with
    | some a => misused "seq" 1 (chars "invalid floating point argument: '" ++ a ++ ['\''])
    | none =>
      match o.operands with
      | [] => misused "seq" 1 (chars "missing operand")
      | _ :: _ :: _ :: extra :: _ =>
        misused "seq" 1 (chars "extra operand '" ++ extra ++ ['\''])
      | operands =>
        let numbers := operands.filterMap fraction?
        let places := numbers.foldl (fun n f => max n f.places) 0
        let scaled (f : Fraction) : Int :=
          let n : Int := nearest (f.digits * Nat.pow 10 places) (Nat.pow 10 f.places)
          if f.negative then -n else n
        let one : Int := (Nat.pow 10 places : Nat)
        let (first, step, last) := match numbers.map scaled with
          | [a] => (one, one, a)
          | [a, b] => (a, one, b)
          | [a, b, c] => (a, b, c)
          | _ => (0, one, 0)
        if step = 0 then
          misused "seq" 1 (chars "invalid Zero increment value: '" ++
            (operands[1]?).getD [] ++ ['\''])
        else
          let all := sequence first step last
          let sign (n : Int) : Octets := if n < 0 then ['-'] else []
          let plain (n : Int) : Octets := sign n ++ pointed places n.natAbs
          let width := if o.has 'w' then
              (all.map fun n => (plain n).length).foldl max 0
            else 0
          let shown (n : Int) : Octets :=
            match o.value? 'f' with
            | some format =>
              let p := Printing.once .program (format.length + 1) format
                ⟨[], [plain n], 0, false, none, false⟩
              p.done.reverse.flatMap (·.2)
            | none => (⟨[], width, false, none⟩ : Spec).pad true (sign n) (pointed places n.natAbs)
          let separator := (o.value? 's').getD ['\n']
          if !all.isEmpty then
            Process.say (separator.intercalate (all.map shown) ++ ['\n'])
          return 0) (sequenceOptions args)

end Testbed.Lab
