import Testbed.Lab.Launcher
/-!
# Local programs

The local machine has the usual directories, devices and programs, which a program that runs on it
finds beside the files in memory. What a program prints is dropped, except for what it says about
what went wrong.

The testbed knows nothing of a program but how it ended and what it complained of, and every result
holds whatever programs do. That they can be run here at all serves to try configurations out: the
command that submits layouts is free to be any program, a shell with a script as well, and what
comes of a deployment depends on its status. So there are no results about programs.
-/

namespace Testbed.Lab

open Text (Octets)
open Process (chars)

namespace Files

/-! ## The system -/

def systemDirs : List (List String) :=
  [["bin"], ["dev"], ["dev", "fd"], ["etc"], ["home"], ["lib"], ["opt"], ["proc"], ["root"],
    ["sbin"], ["tmp"], ["usr"], ["usr", "bin"], ["usr", "lib"], ["usr", "local"],
    ["usr", "local", "bin"], ["usr", "sbin"], ["var"], ["var", "tmp"]]

def systemFiles : List (List String × String) :=
  [(["dev", "null"], ""), (["dev", "stdin"], ""), (["dev", "stdout"], ""), (["dev", "stderr"], ""),
    (["dev", "fd", "0"], ""), (["dev", "fd", "1"], ""), (["dev", "fd", "2"], ""),
    (["etc", "passwd"], "root:x:0:0:root:/root:/bin/bash\n"), (["etc", "group"], "root:x:0:\n"),
    (["etc", "hosts"], "127.0.0.1\tlocalhost\n")]

/-- What every machine has. -/
def system : List (List String × Entry) :=
  systemDirs.map (·, .directory) ++
    systemFiles.map (fun e => (e.1, .file (utf8 e.2))) ++
    Process.programDirs.flatMap fun dir =>
      programNames.map fun name => (dir ++ [name], .file [0x7f, 0x45, 0x4c, 0x46])

/-- The files of a machine, with those that every machine has. -/
def withSystem (f : Files) : Files :=
  ⟨f.entries ++ system.filter fun e => (f.find? e.1).isNone⟩

/-- The files of a machine without those that were added to some before. -/
def withoutSystem (before f : Files) : Files :=
  ⟨f.entries.filter fun e => (before.find? e.1).isSome || !system.any (·.1 = e.1)⟩

/-! ## Running a program -/

/-- The process that a program is run in, before it starts. Nothing comes in. -/
def firstProcess (f : Files) : Process where
  id := 2
  machine :=
    { files := f.withSystem, channels := #[.void, .pipe [] [], .pipe [] []], runnable := []
      struck := [], processes := 2, slept := 0 }
  streams := [(0, 0), (1, 1), (2, 2)]
  dir := []
  environment := NameMap.ofList [("HOME", chars "/root"), ("PATH", Process.usualPath)]
  ignored := []
  mask := 18

/-- How long an argument of a program may be. -/
def longestArgument : Nat := 131071

/-- The place of a program, or why there is none. -/
def programPlace (p : Process) (name : String) : Except FileError (List String) :=
  match p.programOf Process.usualPath (chars name) with
  | .ok here => .ok here
  | .error e =>
    match name.toList.contains '/', p.find (chars name) with
    | true, .error e => .error e
    | _, _ => .error (if e = .missing || e = .nameTooLong then e
        else .other "Permission denied (os error 13)")

/-- How deep what runs may lie within itself. -/
def deepestRun : Nat := 20000

/-- Runs a program on the files. -/
def runProgram (f : Files) (name : String) (args : List String) :
    Except FileError ProgramOutput × Files :=
  let start := f.firstProcess
  if (name :: args).any fun a => a.toList.contains '\x00' then
    (.error (.other "nul byte found in provided data"), f)
  else if (name :: args).any fun a => longestArgument < a.utf8ByteSize then
    (.error (.other "Argument list too long (os error 7)"), f)
  else
    match programPlace start name with
    | .error e => (.error e, f)
    | .ok here =>
      let (status, p) :=
        (become (runner deepestRun) here (chars name) (args.map chars)).run start
      let (said, machine) := p.machine.read 2 List.length
      (.ok ⟨status, Text.Octets.toBytes said⟩, withoutSystem f machine.files)

end Files

end Testbed.Lab
