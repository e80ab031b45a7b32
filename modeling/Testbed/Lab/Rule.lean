import Testbed.Call
/-!
# Rules that make peers deviate

A rule names an operation and a piece of text. The first rule with uses left whose operation is that
of a call, and whose text occurs in what the call is about, decides how the call deviates.
-/

namespace Testbed.Lab

/-- The kinds of failure that can be injected. -/
inductive Injection where
  | internal
  | notFound
  | engine (status : Nat)
  | file
  deriving DecidableEq, Repr

/-- The failure of a kind about something. -/
def Injection.error (what : String) : Injection → Error
  | .internal => .internal ("injected: " ++ what)
  | .notFound => .notFound what
  | .engine status => .docker (.status status what)
  | .file => .file (.other what)

def Injection.names : List (String × Injection) := [
  ("internal", .internal), ("not_found", .notFound), ("docker404", .engine 404),
  ("docker409", .engine 409), ("docker500", .engine 500), ("docker304", .engine 304), ("io", .file)]

def Injection.named? (name : String) : Option Injection :=
  (names.find? (·.1 = name)).map (·.2)

/-- How a call deviates. What is not given stays as it would be. -/
structure Deviation where
  injection : Option Injection
  exitCode : Option Int
  stdout : Option String
  status : Option ContainerStatus
  address : Option String
  delay : Duration
  deriving DecidableEq, Repr

/-- The replaced output of a command, if it is replaced. -/
def Deviation.output? (d : Deviation) : Option CommandOutput :=
  if d.exitCode.isSome || d.stdout.isSome then some ⟨d.stdout.getD "", d.exitCode.getD 0⟩ else none

structure Rule where
  operation : String
  on : String
  /-- How often the rule can be used; without limit if nothing is given. -/
  uses : Option Nat
  deviation : Deviation
  deriving DecidableEq, Repr

/-- Whether a text occurs in another. -/
def occursIn (part : List Char) : List Char → Bool
  | [] => part.isEmpty
  | c :: rest => part.isPrefixOf (c :: rest) || occursIn part rest

namespace Rule

def applies (r : Rule) (operation text : String) : Bool :=
  r.uses != some 0 && r.operation == operation && occursIn r.on.toList text.toList

/-- The rule after it was used. -/
def used (r : Rule) : Rule := { r with uses := r.uses.map (· - 1) }

end Rule

/-- The deviation of the first rule that applies, and the rules after its use. -/
def deviate (operation text : String) : List Rule → Option (Deviation × List Rule)
  | [] => none
  | r :: rest =>
    if r.applies operation text then some (r.deviation, r.used :: rest)
    else (deviate operation text rest).map fun d => (d.1, r :: d.2)

end Testbed.Lab
