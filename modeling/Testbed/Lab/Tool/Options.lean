import Testbed.Lab.Process
/-!
# Options of tools

Options may stand anywhere before a double hyphen. Letters may share a hyphen, and a letter that
takes a value takes the rest of its argument or the next one.

Tools are what a command that submits layouts finds on a local machine, by itself or in a script.
They are run by `Testbed.Lab.Program` alone, and no result rests on them.
-/

namespace Testbed.Lab

open Text (Octets)
open Process (chars)

/-- The options and operands among the arguments of a tool. -/
structure Options where
  flags : List (Char × Octets)
  operands : List Octets

inductive OptionFault where
  | unknown (c : Char)
  | unknownLong (name : Octets)
  | valueless (c : Char)
  deriving DecidableEq, Repr

/-- The options that a tool knows: letters, those of them that take a value, and long names. -/
structure OptionTable where
  letters : String
  valued : String
  long : List (String × Char)

namespace Options

def has (o : Options) (c : Char) : Bool := o.flags.any (·.1 = c)

/-- The value of an option that was given last. -/
def value? (o : Options) (c : Char) : Option Octets := (o.flags.reverse.find? (·.1 = c)).map (·.2)

def addFlag (c : Char) (value : Octets) (o : Options) : Options :=
  { o with flags := (c, value) :: o.flags }

def addOperand (a : Octets) (o : Options) : Options := { o with operands := a :: o.operands }

/-- The letters of one argument. What is left to do with a value is told by the second part: a
letter that still needs one. -/
def letters (table : OptionTable) : Octets → Except OptionFault (List (Char × Octets) × Option Char)
  | [] => .ok ([], none)
  | c :: rest =>
    if table.valued.toList.contains c then
      if rest.isEmpty then .ok ([], some c) else .ok ([(c, rest)], none)
    else if table.letters.toList.contains c then do
      let (flags, open?) ← letters table rest
      return ((c, []) :: flags, open?)
    else .error (.unknown c)

/-- The option that a long name stands for; a start of it is enough. -/
def longName (table : OptionTable) (cs : Octets) : Except OptionFault (Char × Octets) :=
  let name := cs.takeWhile (· ≠ '=')
  match table.long.find? fun e => name.isPrefixOf e.1.toList with
  | some (_, c) => .ok (c, cs.drop (name.length + 1))
  | none => .error (.unknownLong name)

def read (table : OptionTable) : List Octets → Except OptionFault Options
  | [] => .ok ⟨[], []⟩
  | ['-', '-'] :: rest => .ok ⟨[], rest⟩
  | ('-' :: '-' :: name) :: rest => do
    let (c, value) ← longName table name
    return (← read table rest).addFlag c value
  | ('-' :: c :: cs) :: rest => do
    match ← letters table (c :: cs) with
    | (flags, none) => return flags.foldr (fun f o => o.addFlag f.1 f.2) (← read table rest)
    | (flags, some c) =>
      match rest with
      | [] => throw (.valueless c)
      | value :: rest =>
        return flags.foldr (fun f o => o.addFlag f.1 f.2) ((← read table rest).addFlag c value)
  | a :: rest => do return (← read table rest).addOperand a

/-- The options in front of the first operand, after which everything is an operand. -/
def readLeading (table : OptionTable) (args : List Octets) : Except OptionFault Options :=
  let isFlag (a : Octets) : Bool := a.head? = some '-' && 1 < a.length
  let takesNext (a : Octets) : Bool :=
    match letters table a.tail with
    | .ok (_, some _) => true
    | _ => false
  let rec leading : List Octets → Nat
    | [] => 0
    | a :: rest =>
      if !isFlag a then 0
      else if a = ['-', '-'] then 1
      else if takesNext a then
        match rest with
        | [] => 1
        | _ :: rest => leading rest + 2
      else leading rest + 1
  let n := leading args
  (read table (args.take n)).map fun o => { o with operands := args.drop n }

def faultText : OptionFault → Octets
  | .unknown c => chars "invalid option -- '" ++ [c, '\'']
  | .unknownLong name => chars "unrecognized option '--" ++ name ++ ['\'']
  | .valueless c => chars "option requires an argument -- '" ++ [c, '\'']

end Options

/-- A complaint about how a tool is used. -/
def misused (tool : String) (status : Nat) (text : Octets) : Act Nat := do
  Process.complain (chars (tool ++ ": ") ++ text)
  Process.fail status (chars ("Try '" ++ tool ++ " --help' for more information."))

/-- A tool that reads its options first, and complains in its name about those it does not know. -/
def withOptions (name : String) (status : Nat) (table : OptionTable) (run : Options → Act Nat) :
    Tool := fun args => do
  match Options.read table args with
  | .ok options => run options
  | .error e =>
    misused name status (Options.faultText e)

/-- Goes through operands and keeps the greatest status. -/
def eachOperand (operands : List Octets) (run : Octets → Act Nat) : Act Nat :=
  operands.foldlM (fun worst a => do return max worst (← run a)) 0

/-- Complains about a path in the name of a tool. -/
def complainOf (tool : String) (path : Octets) (e : FileError) : Act Unit :=
  Process.complain (chars (tool ++ ": ") ++ path ++ chars (": " ++ reason e))

/-- Reads operands one after the other, or what comes in if there are none. -/
def eachText (tool : String) (status : Nat) (operands : List Octets)
    (run : Octets → Octets → Act Nat) : Act Nat :=
  eachOperand (if operands.isEmpty then [['-']] else operands) fun path => do
    match ← Process.contents path with
    | .ok cs => run path cs
    | .error e =>
      complainOf tool path e
      return status

/-- All that the operands hold, one after the other. -/
def allText (tool : String) (status : Nat) (operands : List Octets) : Act (Nat × Octets) :=
  (if operands.isEmpty then [['-']] else operands).foldlM (fun (worst, all) path => do
    match ← Process.contents path with
    | .ok cs => return (worst, all ++ cs)
    | .error e =>
      complainOf tool path e
      return (max worst status, all)) (0, [])

end Testbed.Lab
