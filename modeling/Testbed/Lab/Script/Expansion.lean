import Testbed.Lab.Script.Runner
import Testbed.Lab.Tool.Printing
/-!
# Working words out

A word is worked out piece by piece: a parameter gives its value, or what stands in for it, commands
give what they print and a sum gives a number. What comes of a word is a single text, or the fields
that it is cut into.
-/

namespace Testbed.Lab.Script

open Text (Octets)
open Process (chars)

namespace Session

/-- The letters of the options that are set. -/
def flagText (s : Session) : Octets := (optionLetters.filter s.flags.contains).reverse

/-- The value of a parameter, if it has one. -/
def parameter? (s : Session) (name : String) : Option Octets :=
  match name with
  | "$" => some (digitsOf 10 s.id)
  | "?" => some (digitsOf 10 s.status)
  | "#" => some (digitsOf 10 s.args.length)
  | "-" => some s.flagText
  | "!" => s.latest.map (digitsOf 10)
  | "0" => some s.name
  | "@" | "*" =>
    if s.args.isEmpty then none else some ((s.separators.take 1).intercalate s.args)
  | _ =>
    match name.toNat? with
    | some n => if n = 0 then some s.name else s.args[n - 1]?
    | none => s.value? name

/-- The directory of a user, who is the one at work if no name is given. -/
def homeOf (s : Session) (user : Octets) : Option Octets :=
  if user.isEmpty then s.value? "HOME"
  else if user = chars "root" then some (chars "/root") else none

end Session

/-! ## Tildes -/

/-- A text that may start with a tilde, in pieces; it may go on after its last character. -/
def tildePieces (s : Session) (goesOn : Bool) (cs : Octets) : Word :=
  match cs with
  | '~' :: rest =>
    let user := rest.takeWhile (· ≠ '/')
    match if goesOn && user.length = rest.length then none else s.homeOf user with
    | some home => [.text true home, .text false (rest.drop user.length)]
    | none => [.text false cs]
  | cs => [.text false cs]

/-- A word where tildes are directories: at its start, and after colons where a list may stand. -/
def withTildes (s : Session) (isList : Bool) : Word → Word
  | .text false cs :: rest =>
    let goesOn := !rest.isEmpty
    let parts := if isList then Text.split ':' cs else [cs]
    let last := parts.length - 1
    let pieces := parts.mapIdx fun i part => tildePieces s (goesOn && i = last) part
    [.text false [':']].intercalate pieces ++ rest
  | w => w

/-! ## Parameters -/

/-- The arguments as fields that stay apart. -/
def argumentAtoms (quoted : Bool) (args : List Octets) : List Atom :=
  [.cut].intercalate (args.map fun a =>
    if quoted then Atom.quotedText a else Atom.plainText true a)

def valueAtoms (quoted : Bool) (cs : Octets) : List Atom :=
  cs.map fun c => .char c quoted (!quoted)

namespace Runner

/-- The text of a word that is not cut. -/
def textOf (r : Runner) (w : Word) : Run Octets := do return Atom.text (← r.word false false w)

/-- Complains about a parameter that has no value. -/
def unsetParameter {α : Type} (name : String) (orEmpty : Bool) : Run α :=
  raise (chars (name ++ ": parameter not set" ++ if orEmpty then " or null" else ""))

/-- The value of a parameter, which has to have one if the session minds. -/
def valueOf (name : String) : Run Octets := do
  let s ← get
  match s.parameter? name with
  | some cs => return cs
  | none =>
    if s.hasFlag 'u' && name ≠ "@" && name ≠ "*" then unsetParameter name false else return []

/-- What stands in for the value of a parameter that has none. -/
def fallback (r : Runner) (full quoted : Bool) (name : String) (orEmpty : Bool) (way : Fallback)
    (word : Word) : Run (List Atom) := do
  let s ← get
  match way with
  | .instead => return []
  | .value => r.word full (!quoted) (withTildes s false word)
  | .assign =>
    let cs ← r.textOf (withTildes s false word)
    if !isName name.toList then raise (chars (name ++ ": bad variable name"))
    assign name cs
    return valueAtoms quoted cs
  | .complain =>
    let cs ← r.textOf (withTildes s false word)
    if word.isEmpty then unsetParameter name orEmpty
    else raise (chars (name ++ ": ") ++ cs)

def parameterAtoms (r : Runner) (full quoted : Bool) (name : String) (use : Use) :
    Run (List Atom) := do
  let s ← get
  let apart := full && (name = "@" || (name = "*" && !quoted))
  let atoms (cs : Octets) : List Atom :=
    if apart then argumentAtoms quoted s.args else valueAtoms quoted cs
  match use with
  | .value => return atoms (← valueOf name)
  | .size => return valueAtoms quoted (digitsOf 10 (← valueOf name).length)
  | .trim atEnd longest pattern =>
    let cs ← valueOf name
    let glob := Glob.read (Atom.pattern (← r.word false false pattern))
    return valueAtoms quoted (Glob.trim atEnd longest glob cs)
  | .nonsense => raise (chars "Bad substitution")
  | .fallback whenEmpty way word =>
    match s.parameter? name with
    | some cs =>
      if whenEmpty && cs.isEmpty then r.fallback full quoted name true way word
      else if way = .instead then r.word full (!quoted) (withTildes s false word)
      else return atoms cs
    | none => r.fallback full quoted name whenEmpty way word

/-! ## Words -/

/-- Works a sum out, and sets the variables that it sets. -/
def sumOf (source : Octets) : Run Octets := do
  match Sum.work (← get).value? source with
  | .ok (n, settings) =>
    settings.reverse.forM fun (name, value) => assign name (chars (toString value))
    return chars (toString n)
  | .error (.illegal text) => raise (chars "Illegal number: " ++ text)
  | .error (.wrong what) =>
    raise (chars ("arithmetic expression: " ++ what ++ ": \"") ++ source ++ ['"'])

def pieceAtoms (r : Runner) (full within : Bool) (piece : Piece) : Run (List Atom) := do
  match piece with
  | .text true cs => return Atom.quotedText cs
  | .text false cs => return Atom.plainText within cs
  | .parameter quoted name use => r.parameterAtoms full quoted name use
  | .output quoted body => return valueAtoms quoted (← r.outputOf body)
  | .number quoted source => return valueAtoms quoted (← sumOf (← r.textOf source))

def wordAtoms (r : Runner) (full within : Bool) (w : Word) : Run (List Atom) :=
  w.foldlM (fun atoms piece => do return atoms ++ (← r.pieceAtoms full within piece)) []

/-- The fields of a word. -/
def fieldsOf (r : Runner) (w : Word) : Run (List Octets) := do
  let atoms ← r.word true false (withTildes (← get) false w)
  let s ← get
  return (Atom.fields s.separators atoms).flatMap (filesOf s)

/-- The value that a word gives to a variable. -/
def settingText (r : Runner) (w : Word) : Run Octets := do
  r.textOf (withTildes (← get) true w)

end Runner

end Testbed.Lab.Script
