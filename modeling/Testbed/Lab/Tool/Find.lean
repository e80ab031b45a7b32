import Testbed.Lab.Script.Pattern
import Testbed.Lab.Tool.Placement
/-!
# Finding files

A search goes through directories and asks a question about each place on the way. Questions are
joined as in a sentence, and some of them act on the place: they print it, remove it or run a
program on it.
-/

namespace Testbed.Lab

open Text (Octets)
open Process (chars)

namespace Search

inductive Question where
  | yes
  | no
  | name (glob : List Script.Glob) (anyCase : Bool)
  | path (glob : List Script.Glob)
  | isDirectory (b : Bool)
  | isEmpty
  /-- The size compared with a number of blocks of so many bytes. -/
  | size (order : Ordering) (n block : Nat)
  | print (ending : Octets)
  | delete
  | prune
  | stop
  /-- Runs a program on the place, or on all places together at the end. -/
  | run (together : Bool) (words : List Octets)
  | not (q : Question)
  | and (a b : Question)
  | or (a b : Question)

/-- What a search goes by. -/
structure Plan where
  question : Question
  least : Nat
  most : Option Nat
  /-- Whether what is in a directory comes before it. -/
  deep : Bool

namespace Question

/-- Whether a question acts on its place, so that nothing else has to. -/
def acts : Question → Bool
  | .print _ | .delete | .run _ _ => true
  | .not q => q.acts
  | .and a b | .or a b => a.acts || b.acts
  | _ => false

end Question

/-! ## Reading questions -/

/-- What has been read: the words that are left, and the settings on the way. -/
structure Reading where
  rest : List Octets
  least : Nat
  most : Option Nat
  deep : Bool

abbrev Reader (α : Type) := StateT Reading (Except Octets) α

def globOf (cs : Octets) : List Script.Glob :=
  let marked : Octets → List Script.Marked := fun cs => cs.map (·, false)
  Script.Glob.read (unslash (marked cs))
where
  unslash : List Script.Marked → List Script.Marked
    | ('\\', _) :: (c, _) :: rest => (c, true) :: unslash rest
    | m :: rest => m :: unslash rest
    | [] => []

def valueOf (name : Octets) : Reader Octets := do
  match (← get).rest with
  | [] => throw (chars "missing argument to '" ++ name ++ ['\''])
  | v :: rest =>
    modify ({ · with rest := rest })
    return v

/-- The number that a text is, after a sign that tells how it is compared. -/
def numberOf (name cs : Octets) : Reader (Ordering × Nat) := do
  let (order, ds) := match cs with
    | '+' :: ds => (Ordering.gt, ds)
    | '-' :: ds => (Ordering.lt, ds)
    | ds => (Ordering.eq, ds)
  match (String.ofList ds).toNat? with
  | some n => return (order, n)
  | none => throw (chars "invalid argument '" ++ cs ++ chars "' to '" ++ name ++ ['\''])

/-- The words of a program, up to their end. -/
def programWords (name : Octets) : List Octets → (words : List Octets) →
    Except Octets (Bool × List Octets × List Octets)
  | [], _ => .error (chars "missing argument to '" ++ name ++ ['\''])
  | w :: rest, words =>
    if w = [';'] then .ok (false, words.reverse, rest)
    else if w = ['+'] && words.head? = some (chars "\x7b\x7d") then
      .ok (true, words.tail.reverse, rest)
    else programWords name rest (w :: words)

def sizeOf (name cs : Octets) : Reader Question := do
  let (body, block) := match cs.getLast? with
    | some 'c' => (cs.dropLast, 1)
    | some 'k' => (cs.dropLast, 1024)
    | some 'M' => (cs.dropLast, 1048576)
    | some 'b' => (cs.dropLast, 512)
    | _ => (cs, 512)
  let (order, n) ← numberOf name body
  return .size order n block

def primary (name : Octets) : Reader Question := do
  match String.ofList name with
  | "-true" => return .yes
  | "-false" => return .no
  | "-name" => return .name (globOf (← valueOf name)) false
  | "-iname" => return .name (globOf ((← valueOf name).map Char.toLower)) true
  | "-path" | "-wholename" => return .path (globOf (← valueOf name))
  | "-type" =>
    match ← valueOf name with
    | ['f'] => return .isDirectory false
    | ['d'] => return .isDirectory true
    | [c] =>
      if "bcplsD".toList.contains c then return .no
      else throw (chars "Unknown argument to -type: " ++ [c])
    | _ => throw (chars "Arguments to -type should contain only one letter")
  | "-empty" => return .isEmpty
  | "-size" => sizeOf name (← valueOf name)
  | "-print" => return .print ['\n']
  | "-print0" => return .print ['\x00']
  | "-delete" =>
    modify ({ · with deep := true })
    return .delete
  | "-prune" => return .prune
  | "-quit" => return .stop
  | "-depth" =>
    modify ({ · with deep := true })
    return .yes
  | "-maxdepth" =>
    let (_, n) ← numberOf name (← valueOf name)
    modify ({ · with most := some n })
    return .yes
  | "-mindepth" =>
    let (_, n) ← numberOf name (← valueOf name)
    modify ({ · with least := n })
    return .yes
  | "-exec" =>
    let (together, words, rest) ← programWords name (← get).rest []
    modify ({ · with rest := rest })
    return .run together words
  | _ =>
    if name.head? = some '-' then throw (chars "unknown predicate '" ++ name ++ ['\''])
    else throw (chars "paths must precede expression: '" ++ name ++ ['\''])

mutual

def alternatives : (fuel : Nat) → Reader Question
  | 0 => throw (chars "invalid expression")
  | fuel + 1 => do
    let a ← conjunction fuel
    match (← get).rest with
    | w :: rest =>
      if w = chars "-o" || w = chars "-or" then
        modify ({ · with rest := rest })
        return .or a (← alternatives fuel)
      else return a
    | [] => return a

def conjunction : (fuel : Nat) → Reader Question
  | 0 => throw (chars "invalid expression")
  | fuel + 1 => do
    let a ← negation fuel
    match (← get).rest with
    | w :: rest =>
      if w = chars "-a" || w = chars "-and" then
        modify ({ · with rest := rest })
        return .and a (← conjunction fuel)
      else if w = chars "-o" || w = chars "-or" || w = [')'] then return a
      else return .and a (← conjunction fuel)
    | [] => return a

def negation : (fuel : Nat) → Reader Question
  | 0 => throw (chars "invalid expression")
  | fuel + 1 => do
    match (← get).rest with
    | [] => throw (chars "invalid expression")
    | w :: rest =>
      modify ({ · with rest := rest })
      if w = ['!'] || w = chars "-not" then return .not (← negation fuel)
      else if w = ['('] then
        let q ← alternatives fuel
        match (← get).rest with
        | [')'] :: rest =>
          modify ({ · with rest := rest })
          return q
        | _ => throw (chars ("invalid expression; I was expecting to find a ')' somewhere but " ++
            "did not see one."))
      else primary w

end

def Plan.read (words : List Octets) : Except Octets Plan := do
  if words.isEmpty then return ⟨.print ['\n'], 0, none, false⟩
  else
    let (q, r) ← (alternatives (4 * words.length + 4)).run ⟨words, 0, none, false⟩
    match r.rest with
    | [')'] :: _ => throw (chars "invalid expression; you have too many ')'")
    | _ => return ⟨if q.acts then q else .and q (.print ['\n']), r.least, r.most, r.deep⟩

/-! ## Searching -/

/-- How far a search is. -/
structure Progress where
  status : Nat
  stopped : Bool
  /-- Whether the directory at hand is not gone into. -/
  pruned : Bool
  /-- Places for a program that runs on all of them, the last one first. -/
  together : List (List Octets × Octets)

/-- What a search does. Programs are run by a function that tells their status. -/
abbrev Step (α : Type) := ReaderT (List Octets → Act Nat) (StateT Progress Act) α

/-- Puts a path where the braces are. -/
def fill (path : Octets) : Octets → Octets
  | '\x7b' :: '\x7d' :: rest => path ++ fill path rest
  | c :: rest => c :: fill path rest
  | [] => []

def holds (path : Octets) (entry : Entry) : Question → Step Bool
  | .yes => return true
  | .no => return false
  | .name glob anyCase => do
    let name := lastName path
    return Script.Glob.stands glob (if anyCase then name.map Char.toLower else name)
  | .path glob => return Script.Glob.stands glob path
  | .isDirectory b => return (entry = .directory) = b
  | .isEmpty => do
    match entry with
    | .file bytes => return bytes.isEmpty
    | .directory =>
      let p ← getThe Process
      match p.find path with
      | .ok (here, _) => return isEmptyDir p here
      | .error _ => return false
  | .size order n block => do
    match entry with
    | .file bytes => return compare ((bytes.length + block - 1) / block) n = order
    | .directory => return compare 8 n = order
  | .print ending => do
    liftM (Process.say (path ++ ending) : Act Unit)
    return true
  | .delete => do
    let status ← liftM (if entry = .directory then rmdir [path] else rm [['-', 'f'], path])
    modify fun p => { p with status := max p.status status }
    return status = 0
  | .prune => do
    modify ({ · with pruned := true })
    return true
  | .stop => do
    modify ({ · with stopped := true })
    return true
  | .run together words => do
    if together then
      modify fun p => { p with together := (words, path) :: p.together }
      return true
    else
      let run ← read
      return (← liftM (run (words.map (fill path)))) = 0
  | .not q => do return !(← holds path entry q)
  | .and a b => do
    if ← holds path entry a then
      if (← get).stopped then return true else holds path entry b
    else return false
  | .or a b => do
    if ← holds path entry a then return true
    else if (← get).stopped then return true else holds path entry b

/-- Goes through a place and all that is below it. -/
def visit (plan : Plan) : (fuel : Nat) → (depth : Nat) → (path : Octets) → Step Unit
  | 0, _, _ => return
  | fuel + 1, depth, path => do
    let refuse (e : FileError) : Step Unit := do
      liftM (complainOf "find" ('\'' :: path ++ ['\'']) e)
      modify ({ · with status := 1 })
    let p ← getThe Process
    if (← get).stopped then return
    match p.find path with
    | .error e => refuse e
    | .ok (_, none) => refuse .missing
    | .ok (here, some entry) =>
      modify ({ · with pruned := false })
      let ask : Step Unit := do
        if plan.least ≤ depth then
          let _ ← holds path entry plan.question
      let goIn : Step Unit := do
        if entry = .directory && plan.most.all (depth < ·) then
          (p.names here).forM fun name => visit plan fuel (depth + 1) (within path (chars name))
      if plan.deep then
        goIn
        ask
      else
        ask
        if !(← get).pruned then goIn

/-- Runs the programs that wait for all places: each of them once. -/
def runTogether : Step Unit := do
  let run ← read
  let waiting := (← get).together.reverse
  (waiting.map (·.1)).eraseDups.forM fun words => do
    let paths := (waiting.filter (·.1 = words)).map (·.2)
    let status ← liftM (run (words ++ paths))
    if status ≠ 0 then modify ({ · with status := 1 })

end Search

/-- Searches places for files, and runs programs by a function that tells their status. -/
def find (run : List Octets → Act Nat) : Tool := fun args => do
  let args := args.dropWhile fun a => [['-', 'H'], ['-', 'L'], ['-', 'P']].contains a
  let isPath (a : Octets) : Bool :=
    a.head? ≠ some '-' && a ≠ ['!'] && a ≠ ['(']
  let paths := args.takeWhile isPath
  match Search.Plan.read (args.drop paths.length) with
  | .error text => Process.fail 1 (chars "find: " ++ text)
  | .ok plan =>
    let all : Search.Step Unit := do
      (if paths.isEmpty then [['.']] else paths).forM fun path =>
        Search.visit plan Files.longestPath 0 path
      Search.runTogether
    let (_, progress) ← (all.run run).run ⟨0, false, false, []⟩
    return progress.status

end Testbed.Lab
