import Testbed.Call
/-!
# A file system in memory

Files and directories are kept by path. What is done to them fails for the same reasons as on a
disk: a directory is missing or is none, a name is taken, too long or no name at all.
-/

namespace Testbed.Lab

inductive Entry where
  | directory
  | file (contents : List UInt8)
  deriving DecidableEq, Repr

/-- The entries by path, where a path is its components. The root is always there. -/
structure Files where
  entries : List (List String × Entry)
  deriving Repr

namespace Files

def empty : Files := ⟨[]⟩

def find? (f : Files) (path : List String) : Option Entry :=
  if path.isEmpty then some .directory else (f.entries.find? (·.1 = path)).map (·.2)

def put (f : Files) (path : List String) (entry : Entry) : Files :=
  ⟨f.entries.filter (·.1 ≠ path) ++ [(path, entry)]⟩

def erase (f : Files) (path : List String) : Files := ⟨f.entries.filter (·.1 ≠ path)⟩

def longestName : Nat := 255

/-- How many bytes a path may have, whatever it leads through. -/
def longestPath : Nat := 4095

/-- What is wrong with a path before anything is looked up along it. -/
def refused? (path : String) : Option FileError :=
  if path.toList.contains '\x00' then some .nulInName
  else if longestPath < path.utf8ByteSize then some .nameTooLong
  else none

/-- Goes from a directory to what a name stands for. -/
def descend (path : List String) (name : String) : List String :=
  if name = ".." then path.dropLast else path ++ [name]

/-- Goes down from a directory along names, all of which have to be directories. -/
def walk (f : Files) : (here : List String) → (names : List String) → Except FileError (List String)
  | here, [] => .ok here
  | here, name :: rest =>
    if longestName < name.utf8ByteSize then .error .nameTooLong
    else
      match f.find? (descend here name) with
      | none => .error .missing
      | some (.file _) => .error .notDirectory
      | some .directory => f.walk (descend here name) rest

/-- The directory that a path leads through, and the name at its end. -/
def locate (f : Files) (path : String) : Except FileError (List String) :=
  match refused? path, (Path.components path).getLast? with
  | some e, _ => .error e
  | none, none => .ok []
  | none, some name => do
    let here ← f.walk [] (Path.components path).dropLast
    if longestName < name.utf8ByteSize then .error .nameTooLong
    else .ok (descend here name)

/-- Creates the directories along names, from a directory on. -/
def createFrom (f : Files) :
    (here : List String) → (names : List String) → Except FileError Unit × Files
  | _, [] => (.ok (), f)
  | here, name :: rest =>
    if longestName < name.utf8ByteSize then (.error .nameTooLong, f)
    else
      match f.find? (descend here name) with
      | some .directory => f.createFrom (descend here name) rest
      | some (.file _) => (.error (if rest.isEmpty then .exists else .notDirectory), f)
      | none =>
        (f.put (descend here name) .directory).createFrom (descend here name) rest

def createDir (f : Files) (path : String) : Except FileError Unit × Files :=
  match refused? path with
  | some e => (.error e, f)
  | none => f.createFrom [] (Path.components path)

/-- The contents of the file at a path, or nothing if there is none yet. -/
def contents? (f : Files) (path : String) :
    Except FileError (List String × Option (List UInt8)) := do
  let here ← f.locate path
  match f.find? here with
  | none => return (here, none)
  | some (.file bytes) => return (here, some bytes)
  | some .directory => throw .isDirectory

/-- Replaces what is in a file by a function of it. -/
def edit (f : Files) (path : String) (change : List UInt8 → List UInt8) :
    Except FileError Unit × Files :=
  match f.contents? path with
  | .error e => (.error e, f)
  | .ok (here, old) => (.ok (), f.put here (.file (change (old.getD []))))

def append (f : Files) (path : String) (bytes : List UInt8) : Except FileError Unit × Files :=
  f.edit path (· ++ bytes)

def write (f : Files) (path : String) (bytes : List UInt8) : Except FileError Unit × Files :=
  f.edit path fun _ => bytes

def read (f : Files) (path : String) : Except FileError (List UInt8) := do
  match ← f.contents? path with
  | (_, some bytes) => return bytes
  | (_, none) => throw .missing

def utf8 (text : String) : List UInt8 := text.toUTF8.toList

def answer (f : Files) : FileCall → Except FileError Unit × Files
  | .createDir path => f.createDir path
  | .append path contents => f.append path (utf8 contents)
  | .write path contents => f.write path (utf8 contents)

/-- Everything below a directory, by its path from there. -/
def below (f : Files) (dir : List String) : List (List String × Entry) :=
  f.entries.filterMap fun e =>
    if dir.isPrefixOf e.1 && dir.length < e.1.length then some (e.1.drop dir.length, e.2) else none

end Files

end Testbed.Lab
