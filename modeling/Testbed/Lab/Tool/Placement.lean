import Testbed.Lab.Tool.Lines
/-!
# Tools for files

Tools that make, copy, move, remove and list files and directories.
-/

namespace Testbed.Lab

open Text (Octets)
open Process (chars)

/-- The last name of a path; the root has none but its slash. -/
def lastName (path : Octets) : Octets :=
  let cut := (path.reverse.dropWhile (· = '/')).reverse
  if cut.isEmpty then (if path.isEmpty then [] else ['/'])
  else (cut.reverse.takeWhile (· ≠ '/')).reverse

/-- The directory that a path names something in. -/
def parentName (path : Octets) : Octets :=
  let cut := path.reverse.dropWhile (· = '/')
  let above := (cut.dropWhile (· ≠ '/')).dropWhile (· = '/')
  if !above.isEmpty then above.reverse
  else if path.head? = some '/' then ['/'] else ['.']

def within (dir name : Octets) : Octets :=
  if dir.getLast? = some '/' then dir ++ name else dir ++ ['/'] ++ name

/-- What a tool says about an operand that it could do nothing about. -/
def cannot (tool act : String) (path : Octets) (e : FileError) : Act Nat :=
  Process.fail 1 (chars (tool ++ ": " ++ act ++ " '") ++ path ++ chars ("': " ++ reason e))

namespace Process

def changeFiles (f : Files → Files) : Act Unit :=
  modify fun p => { p with machine := { p.machine with files := f p.machine.files } }

/-- Removes a place with all that is below it. -/
def removeAll (here : List String) : Act Unit :=
  changeFiles fun f => ⟨f.entries.filter fun e => !here.isPrefixOf e.1⟩

/-- Puts a copy of a place, with all that is below it, somewhere else. -/
def copyAll (source target : List String) : Act Unit :=
  changeFiles fun f => (f.below source).foldl (fun f e => f.put (target ++ e.1) e.2)
    (match f.find? source with
    | some entry => f.put target entry
    | none => f)

end Process

/-! ## Directories -/

def mkdir : Tool := withOptions "mkdir" 1 ⟨"pv", "m", [("parents", 'p'), ("verbose", 'v')]⟩
    fun o => do
  if o.operands.isEmpty then misused "mkdir" 1 (chars "missing operand")
  else
    eachOperand o.operands fun path => do
      let p ← get
      let refuse := cannot "mkdir" "cannot create directory"
      let tell : Act Unit := do
        if o.has 'v' then Process.sayLine (chars "mkdir: created directory '" ++ path ++ ['\''])
      if path.isEmpty then refuse path .missing
      else if o.has 'p' then
        match p.machine.files.createDir (p.full path) with
        | (.ok (), files) =>
          Process.changeFiles fun _ => files
          return 0
        | (.error .notDirectory, files) =>
          Process.changeFiles fun _ => files
          /- The first part of the path that is a file is what is in the way. -/
          let cuts := (List.range path.length).map fun n => path.take (n + 1)
          let inTheWay := cuts.find? fun cut => cut.getLast? ≠ some '/' && p.isFile cut
          refuse (inTheWay.getD path) .notDirectory
        | (.error e, files) =>
          Process.changeFiles fun _ => files
          refuse path e
      else
        match p.find (path.take (max 1 ((path.reverse.dropWhile (· = '/')).length))) with
        | .error e => refuse path e
        | .ok (_, some _) => refuse path .exists
        | .ok (here, none) =>
          Process.changeFiles (·.put here .directory)
          tell
          return 0

def isEmptyDir (p : Process) (here : List String) : Bool := (p.machine.files.below here).isEmpty

def notEmpty : FileError := .other "Directory not empty"

def rmdir : Tool := withOptions "rmdir" 1 ⟨"pv", "", [("parents", 'p')]⟩ fun o => do
  if o.operands.isEmpty then misused "rmdir" 1 (chars "missing operand")
  else
    let one (path : Octets) : Act Nat := do
      let p ← get
      let refuse := cannot "rmdir" "failed to remove"
      match p.find path with
      | .error e => refuse path e
      | .ok (_, none) => refuse path .missing
      | .ok (_, some (.file _)) => refuse path .notDirectory
      | .ok (here, some .directory) =>
        if isEmptyDir p here then
          Process.changeFiles (·.erase here)
          return 0
        else refuse path notEmpty
    let rec upwards : (fuel : Nat) → Octets → Act Nat
      | 0, _ => return 0
      | fuel + 1, path => do
        let status ← one path
        let above := parentName path
        if status ≠ 0 || above = ['.'] || above = ['/'] then return status
        else upwards fuel above
    eachOperand o.operands fun path => if o.has 'p' then upwards path.length path else one path

/-! ## Removing -/

def rm : Tool := withOptions "rm" 1
    ⟨"rRfdviI", "", [("recursive", 'r'), ("force", 'f'), ("dir", 'd'), ("verbose", 'v')]⟩
    fun o => do
  let everything := o.has 'r' || o.has 'R'
  let force := o.has 'f'
  if o.operands.isEmpty then
    if force then return 0 else misused "rm" 1 (chars "missing operand")
  else
    eachOperand o.operands fun path => do
      let p ← get
      let refuse (e : FileError) : Act Nat :=
        if force && (e = .missing || e = .notDirectory) then return 0
        else cannot "rm" "cannot remove" path e
      let tell (cs : Octets) : Act Unit := do if o.has 'v' then Process.sayLine cs
      match p.find path with
      | .error e => refuse e
      | .ok (_, none) => refuse .missing
      | .ok (here, some (.file _)) =>
        if Process.isDevice here then return 0
        Process.changeFiles (·.erase here)
        tell (chars "removed '" ++ path ++ ['\''])
        return 0
      | .ok (here, some .directory) =>
        let name := lastName path
        if everything && (name = ['.'] || name = ['.', '.']) then
          Process.fail 1 (chars "rm: refusing to remove '.' or '..' directory: skipping '" ++
            path ++ ['\''])
        else if everything && here = [] then
          Process.complain (chars "rm: it is dangerous to operate recursively on '/'")
          Process.fail 1 (chars "rm: use --no-preserve-root to override this failsafe")
        else if everything then
          let below := (p.machine.files.below here).map (·.1)
          (below.mergeSort fun a b => !decide (b < a)).reverse.forM fun names =>
            let isDir := p.machine.files.find? (here ++ names) = some .directory
            tell (chars (if isDir then "removed directory '" else "removed '") ++
              within path (chars ("/".intercalate names)) ++ ['\''])
          tell (chars "removed directory '" ++ path ++ ['\''])
          Process.removeAll here
          return 0
        else if o.has 'd' then
          if isEmptyDir p here then
            Process.changeFiles (·.erase here)
            return 0
          else cannot "rm" "cannot remove" path notEmpty
        else cannot "rm" "cannot remove" path .isDirectory

/-! ## Copying and moving -/

/-- Copies one operand to a place. -/
def copyOne (o : Options) (source target : Octets) : Act Nat := do
  let p ← get
  let deep := o.has 'r' || o.has 'R' || o.has 'a'
  match p.find source, p.find target with
  | .error e, _ => cannot "cp" "cannot stat" source e
  | .ok (_, none), _ => cannot "cp" "cannot stat" source .missing
  | .ok (here, some .directory), found =>
    if !deep then
      Process.fail 1 (chars "cp: -r not specified; omitting directory '" ++ source ++ ['\''])
    else
      match found with
      | .error e => cannot "cp" "cannot create directory" target e
      | .ok (_, some (.file _)) =>
        Process.fail 1 (chars "cp: cannot overwrite non-directory '" ++ target ++
          chars "' with directory '" ++ source ++ ['\''])
      | .ok (there, _) =>
        if here.isPrefixOf there then
          Process.fail 1 (chars "cp: cannot copy a directory, '" ++ source ++
            chars "', into itself, '" ++ target ++ ['\''])
        else
          Process.copyAll here there
          return 0
  | .ok (here, some (.file bytes)), found =>
    match found with
    | .error e => cannot "cp" "cannot create regular file" target e
    | .ok (there, entry) =>
      if here = there then
        Process.fail 1 (chars "cp: '" ++ source ++ chars "' and '" ++ target ++
          chars "' are the same file")
      else if entry = some .directory then
        Process.fail 1 (chars "cp: cannot overwrite directory '" ++ target ++
          chars "' with non-directory '" ++ source ++ ['\''])
      else if entry.isNone && Process.namesDir target then
        cannot "cp" "cannot create regular file" target .notDirectory
      else if o.has 'n' && entry.isSome then return 0
      else
        if !Process.isDevice there then
          Process.changeFiles (·.put there (.file (if Process.isDevice here then [] else bytes)))
        if p.machine.runnable.contains here then
          modify fun p =>
            { p with machine := { p.machine with runnable := there :: p.machine.runnable } }
        if o.has 'v' then
          Process.sayLine (['\''] ++ source ++ chars "' -> '" ++ target ++ ['\''])
        return 0

/-- Moves one operand to a place. -/
def moveOne (o : Options) (source target : Octets) : Act Nat := do
  let p ← get
  match p.find source, p.find target with
  | .error e, _ => cannot "mv" "cannot stat" source e
  | .ok (_, none), _ => cannot "mv" "cannot stat" source .missing
  | .ok (_, some _), .error e =>
    Process.fail 1 (chars "mv: cannot move '" ++ source ++ chars "' to '" ++ target ++
      chars ("': " ++ reason e))
  | .ok (here, some entry), .ok (there, found) =>
    let isDir := decide (entry = .directory)
    if here = there then
      Process.fail 1 (chars "mv: '" ++ source ++ chars "' and '" ++ target ++
        chars "' are the same file")
    else if isDir && here.isPrefixOf there then
      Process.fail 1 (chars "mv: cannot move '" ++ source ++
        chars "' to a subdirectory of itself, '" ++ target ++ ['\''])
    else
      match found, isDir with
      | some (.file _), true =>
        Process.fail 1 (chars "mv: cannot overwrite non-directory '" ++ target ++
          chars "' with directory '" ++ source ++ ['\''])
      | some .directory, false =>
        Process.fail 1 (chars "mv: cannot overwrite directory '" ++ target ++
          chars "' with non-directory '" ++ source ++ ['\''])
      | _, _ =>
        if o.has 'n' && found.isSome then return 0
        else if !isDir && found.isNone && Process.namesDir target then
          Process.fail 1 (chars "mv: cannot move '" ++ source ++ chars "' to '" ++ target ++
            chars ("': " ++ reason .notDirectory))
        else
          Process.copyAll here there
          Process.removeAll here
          if p.machine.runnable.contains here then
            modify fun p =>
              { p with machine := { p.machine with runnable := there :: p.machine.runnable } }
          if o.has 'v' then
            Process.sayLine (chars "renamed '" ++ source ++ chars "' -> '" ++ target ++ ['\''])
          return 0

/-- Takes operands to the last one, or into it if it is a directory. -/
def taking (tool : String) (one : Options → Octets → Octets → Act Nat) : Tool :=
  withOptions tool 1 ⟨"rRafpvnuiLPTdx", "tS", [("recursive", 'r'), ("force", 'f'),
    ("target-directory", 't'), ("verbose", 'v'), ("archive", 'a'), ("no-clobber", 'n')]⟩ fun o => do
  let p ← get
  let into (dir : Octets) (source : Octets) : Act Nat := one o source (within dir (lastName source))
  match o.value? 't', o.operands.getLast?, o.operands.dropLast with
  | some dir, some _, _ =>
    if p.isDir dir then eachOperand o.operands (into dir)
    else Process.fail 1 (chars (tool ++ ": target directory '") ++ dir ++
      chars "': No such file or directory")
  | _, none, _ => misused tool 1 (chars "missing file operand")
  | none, some only, [] =>
    misused tool 1 (chars "missing destination file operand after '" ++ only ++ ['\''])
  | none, some last, [source] =>
    if p.isDir last && !o.has 'T' then into last source else one o source last
  | none, some last, sources =>
    if p.isDir last then eachOperand sources (into last)
    else
      let why := match p.find last with
        | .error e => e
        | .ok (_, none) => .missing
        | .ok _ => .notDirectory
      Process.fail 1 (chars (tool ++ ": target '") ++ last ++ chars ("': " ++ reason why))

def cp : Tool := taking "cp" copyOne

def mv : Tool := taking "mv" moveOne

def touch : Tool := withOptions "touch" 1 ⟨"camh", "drt", [("no-create", 'c')]⟩ fun o => do
  if o.operands.isEmpty then misused "touch" 1 (chars "missing file operand")
  else
    eachOperand o.operands fun path => do
      let p ← get
      match p.find path with
      | .error e => cannot "touch" "cannot touch" path e
      | .ok (_, some _) => return 0
      | .ok (here, none) =>
        if o.has 'c' then return 0
        else if Process.namesDir path then
          cannot "touch" "setting times of" path .missing
        else
          Process.changeFiles (·.put here (.file []))
          return 0

/-! ## Listing -/

/-- The names in a directory that are shown. -/
def shownNames (o : Options) (p : Process) (here : List String) : List Octets :=
  let names := (p.names here).map chars
  let names := if o.has 'a' || o.has 'A' then names
    else names.filter fun n => n.head? ≠ some '.'
  let names := if o.has 'a' then ['.'] :: ['.', '.'] :: names else names
  if o.has 'r' then names.reverse else names

/-- A name with a mark that tells a directory. -/
def marked (o : Options) (p : Process) (path name : Octets) : Octets :=
  if (o.has 'F' || o.has 'p') && p.isDir path then name ++ ['/'] else name

def ls : Tool := withOptions "ls" 2
    ⟨"aA1drRFptSmlnhicUkgogG", "Iw", [("all", 'a'), ("almost-all", 'A'), ("directory", 'd'),
      ("reverse", 'r'), ("recursive", 'R')]⟩ fun o => do
  let p ← get
  let paths := if o.operands.isEmpty then [['.']] else o.operands
  let paths := paths.mergeSort fun a b => compareTexts a b ≠ .gt
  let found := paths.map fun path => (path, p.find path)
  let broken := found.filterMap fun (path, r) =>
    match r with
    | .error e => some (path, e)
    | .ok (_, none) => some (path, FileError.missing)
    | .ok _ => none
  broken.forM fun (path, e) =>
    Process.complain (chars "ls: cannot access '" ++ path ++ chars ("': " ++ reason e))
  let files := found.filterMap fun (path, r) =>
    match r with
    | .ok (_, some (.file _)) => some path
    | .ok (_, some .directory) => if o.has 'd' then some path else none
    | _ => none
  let dirs := found.filterMap fun (path, r) =>
    match r with
    | .ok (here, some .directory) => if o.has 'd' then none else some (path, here)
    | _ => none
  let files := if o.has 'r' then files.reverse else files
  let dirs := if o.has 'r' then dirs.reverse else dirs
  let all := if o.has 'R' then dirs.flatMap fun (path, here) =>
      let below := (p.machine.files.below here).filter fun e => e.2 = .directory
      let inner := (below.map (·.1)).mergeSort fun a b => !decide (b < a)
      (path, here) :: inner.map fun names =>
        (within path (chars ("/".intercalate names)), here ++ names)
    else dirs
  let lines (path : Octets) (names : List Octets) : Octets :=
    if o.has 'm' then
      if names.isEmpty then [] else (chars ", ").intercalate names ++ ['\n']
    else (names.map fun name => marked o p (within path name) name ++ ['\n']).flatten
  if !files.isEmpty then
    Process.say (if o.has 'm' then (chars ", ").intercalate files ++ ['\n']
      else (files.map fun path => marked o p path path ++ ['\n']).flatten)
  let titled := 1 < paths.length || o.has 'R'
  let _ ← all.foldlM (fun isFirst (path, here) => do
    if titled then
      Process.say ((if isFirst && files.isEmpty then [] else ['\n']) ++ path ++ [':', '\n'])
    Process.say (lines path (shownNames o p here))
    return false) true
  return if broken.isEmpty then 0 else 2

/-! ## Names -/

/-- A name without an ending, unless it is nothing else. -/
def without (suffix name : Octets) : Octets :=
  if suffix.length < name.length && suffix.reverse.isPrefixOf name.reverse then
    name.take (name.length - suffix.length)
  else name

def basename : Tool := withOptions "basename" 1 ⟨"az", "s", [("multiple", 'a'), ("suffix", 's')]⟩
    fun o => do
  let suffix := (o.value? 's').getD []
  if o.operands.isEmpty then misused "basename" 1 (chars "missing operand")
  else if o.has 'a' || o.has 's' then
    o.operands.forM fun path => Process.sayLine (without suffix (lastName path))
    return 0
  else
    match o.operands with
    | _ :: _ :: extra :: _ => misused "basename" 1 (chars "extra operand '" ++ extra ++ ['\''])
    | path :: rest =>
      Process.sayLine (without (rest.headD []) (lastName path))
      return 0
    | [] => return 1

def dirname : Tool := withOptions "dirname" 1 ⟨"z", "", []⟩ fun o => do
  if o.operands.isEmpty then misused "dirname" 1 (chars "missing operand")
  else
    o.operands.forM fun path => Process.sayLine (parentName path)
    return 0

/-- Whether a text says how the rights to a file change. -/
def isFileMode (cs : Octets) : Bool :=
  if cs.all isOctal then !cs.isEmpty && cs.length ≤ 4
  else
    (Text.split ',' cs).all fun clause =>
      let rest := clause.dropWhile (['u', 'g', 'o', 'a'].contains ·)
      match rest with
      | op :: rights =>
        ['+', '-', '='].contains op && rights.all (['r', 'w', 'x', 'X', 's', 't'].contains ·)
      | [] => false

/-- Whether the rights allow to run a file; they may leave that as it is. -/
def allowsRun? (cs : Octets) : Option Bool :=
  if cs.all isOctal then some ((cs.reverse.take 3).any fun c => digitsOf 10 c.toNat ≠ [] &&
    (c.toNat - '0'.toNat) % 2 = 1)
  else if cs.contains 'x' then some (!cs.contains '-')
  else if cs.contains '=' then some false
  else none

def chmod : Tool := fun args => do
  let flags := args.takeWhile fun a => a = ['-', 'R'] || a = ['-', 'v'] || a = ['-', 'f']
  match args.drop flags.length with
  | [] => misused "chmod" 1 (chars "missing operand")
  | mode :: paths =>
    if paths.isEmpty then misused "chmod" 1 (chars "missing operand after '" ++ mode ++ ['\''])
    else if !isFileMode mode then misused "chmod" 1 (chars "invalid mode: '" ++ mode ++ ['\''])
    else
      eachOperand paths fun path => do
        let p ← get
        match p.find path with
        | .error e => cannot "chmod" "cannot access" path e
        | .ok (_, none) => cannot "chmod" "cannot access" path .missing
        | .ok (here, some _) =>
          match allowsRun? mode with
          | none => return 0
          | some allowed =>
            let others := p.machine.runnable.filter (· ≠ here)
            modify fun p => { p with machine :=
              { p.machine with runnable := if allowed then here :: others else others } }
            return 0

/-! ## New files -/

/-- The path that a template stands for, where the last marks become the digits of a number. -/
def madePath? (n : Nat) (template : Octets) : Option Octets :=
  let marks := (template.reverse.takeWhile (· = 'X')).length
  let ds := digitsOf 10 n
  if marks < 3 then none
  else some (template.take (template.length - marks) ++
    ((List.replicate (marks - ds.length) '0' ++ ds).reverse.take marks).reverse)

/-- Makes a file or a directory with a name that nothing has yet. -/
def mktemp : Tool := withOptions "mktemp" 1
    ⟨"dqtu", "p", [("directory", 'd'), ("quiet", 'q'), ("dry-run", 'u'), ("tmpdir", 'p')]⟩
    fun o => do
  let usual := o.operands.isEmpty
  let template := o.operands.headD (chars "tmp.XXXXXXXXXX")
  if 1 < o.operands.length then misused "mktemp" 1 (chars "too many templates")
  else
    let dir := (o.value? 'p').getD (chars "/tmp")
    let template := if usual || o.has 't' || o.has 'p' then within dir template else template
    let p ← get
    let free := (List.range 1000).find? fun n =>
      ((madePath? n template).map fun path => (p.entry? path).isNone).getD false
    match madePath? (free.getD 0) template with
    | none =>
      Process.fail 1 (chars "mktemp: too few X's in template '" ++ template ++ ['\''])
    | some path =>
      let refuse (e : FileError) : Act Nat :=
        cannot "mktemp" (if o.has 'd' then "failed to create directory via template"
          else "failed to create file via template") template e
      match p.find path with
      | .error e => refuse e
      | .ok (here, _) =>
        if !o.has 'u' then
          Process.changeFiles (·.put here (if o.has 'd' then .directory else .file []))
        Process.sayLine path
        return 0

/-- Cuts files off, or fills them up with zeros. -/
def truncate : Tool := withOptions "truncate" 1
    ⟨"c", "s", [("no-create", 'c'), ("size", 's')]⟩ fun o => do
  match o.value? 's' with
  | none => misused "truncate" 1 (chars "you must specify either '--size' or '--reference'")
  | some text =>
    let (sign, ds) := match text with
      | '+' :: ds => (some '+', ds)
      | '-' :: ds => (some '-', ds)
      | ds => (none, ds)
    match (String.ofList ds).toNat? with
    | none => Process.fail 1 (chars "truncate: Invalid number: '" ++ text ++ ['\''])
    | some n =>
      if o.operands.isEmpty then misused "truncate" 1 (chars "missing file operand")
      else
        eachOperand o.operands fun path => do
          let old ← Process.contents path
          match old, o.has 'c' with
          | .error _, true => return 0
          | old, _ =>
            let cs := match old with
              | .ok cs => cs
              | .error _ => []
            let size := match sign with
              | some '+' => cs.length + n
              | some _ => cs.length - n
              | none => n
            let cs := cs.take size ++ List.replicate (size - cs.length) '\x00'
            match ← Process.store path false cs with
            | .ok () => return 0
            | .error e =>
              Process.fail 1 (chars "truncate: cannot open '" ++ path ++
                chars ("' for writing: " ++ reason e))

/-- Gives a file one more name. The two names hold the same only until one of them is changed. -/
def ln : Tool := withOptions "ln" 1
    ⟨"sfnv", "", [("symbolic", 's'), ("force", 'f')]⟩ fun o => do
  let one (source target : Octets) : Act Nat := do
    let p ← get
    let kind := if o.has 's' then "symbolic" else "hard"
    match p.find source, p.find target with
    | .ok (from_, some entry), .ok (there, taken) =>
      if entry = .directory && !o.has 's' then
        Process.fail 1 (chars "ln: " ++ source ++ chars ": hard link not allowed for directory")
      else if taken.isSome && !o.has 'f' then
        cannot "ln" ("failed to create " ++ kind ++ " link") target .exists
      else
        Process.copyAll from_ there
        return 0
    | .ok (_, some _), .error e =>
      Process.fail 1 (chars ("ln: failed to create " ++ kind ++ " link '") ++ target ++
        (if o.has 's' then ['\''] else chars "' => '" ++ source ++ ['\'']) ++
        chars (": " ++ reason e))
    | .ok (_, none), _ => cannot "ln" "failed to access" source .missing
    | .error e, _ => cannot "ln" "failed to access" source e
  match o.operands with
  | [] => misused "ln" 1 (chars "missing file operand")
  | [source] => one source (within ['.'] (lastName source))
  | [source, target] =>
    if (← get).isDir target then one source (within target (lastName source))
    else one source target
  | operands =>
    let dir := operands.getLastD []
    let p ← get
    if p.isDir dir then
      eachOperand operands.dropLast fun source => one source (within dir (lastName source))
    else
      Process.fail 1 (chars "ln: target '" ++ dir ++ chars ("': " ++
        reason (if (p.entry? dir).isSome then .notDirectory else .missing)))

/-! ## Whole paths -/

/-- The path from the root, with every step taken. -/
def realpath : Tool := fun args => do
  let paths := args.filter fun a => a.head? ≠ some '-'
  eachOperand paths fun path => do
    let p ← get
    match p.find path with
    | .ok (here, _) =>
      Process.sayLine (chars ("/" ++ "/".intercalate here))
      return 0
    | .error e =>
      complainOf "realpath" path e
      return 1

/-- The path that another name stands for; without an option there are no such names. -/
def readlink : Tool := withOptions "readlink" 1
    ⟨"fenmqsv", "", [("canonicalize", 'f')]⟩ fun o => do
  if o.operands.isEmpty then misused "readlink" 1 (chars "missing operand")
  else
    eachOperand o.operands fun path => do
      match o.has 'f' || o.has 'e' || o.has 'm', (← get).find path with
      | true, .ok (here, entry) =>
        if o.has 'e' && entry.isNone then return 1
        let cs := chars ("/" ++ "/".intercalate here)
        Process.say (if o.has 'n' then cs else cs ++ ['\n'])
        return 0
      | _, _ => return 1

end Testbed.Lab
