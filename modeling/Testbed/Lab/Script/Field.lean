import Testbed.Lab.Script.Pattern
import Testbed.Lab.Script.Session
/-!
# Fields

A word that has been worked out is a row of atoms, which still tell what was quoted. It is cut into
fields where separators stand that were not written but worked out, and a field that is a pattern
stands for the files that it matches.
-/

namespace Testbed.Lab.Script

open Text (Octets)
open Process (chars)

inductive Atom where
  /-- A character that may be quoted, or that may separate fields. -/
  | char (c : Char) (quoted splits : Bool)
  /-- Here is something, even if it is empty. -/
  | mark
  /-- Here a field ends. -/
  | cut
  deriving DecidableEq

namespace Atom

/-- A text of which all is quoted. -/
def quotedText (cs : Octets) : List Atom := .mark :: cs.map fun c => .char c true false

def plainText (splits : Bool) (cs : Octets) : List Atom := cs.map fun c => .char c false splits

/-- A word as a pattern. -/
def pattern (as : List Atom) : List Marked := as.filterMap fun
  | .char c quoted _ => some (c, quoted)
  | .mark | .cut => none

/-- The text of a word that is not cut. -/
def text (as : List Atom) : Octets := (pattern as).map (·.1)

/-- How far a word has been cut: the fields before, the last one first, the field at hand, if there
is one, and whether blanks ended the field before it. -/
structure Cutting where
  before : List (List Marked)
  current : Option (List Marked)
  afterBlank : Bool

namespace Cutting

def close (c : Cutting) (afterBlank : Bool) : Cutting :=
  ⟨match c.current with
    | some cs => cs.reverse :: c.before
    | none => c.before, none, afterBlank⟩

/-- One atom more. Blanks around a separator that is none belong to it. -/
def step (separators : Octets) (c : Cutting) : Atom → Cutting
  | .mark => { c with current := some (c.current.getD []), afterBlank := false }
  | .cut => c.close false
  | .char x quoted splits =>
    if splits && separators.contains x then
      if isSpace x then
        if c.current.isSome then c.close true else c
      else if c.current.isSome then c.close false
      else if c.afterBlank then { c with afterBlank := false }
      else { c with before := [] :: c.before }
    else { c with current := some ((x, quoted) :: c.current.getD []), afterBlank := false }

end Cutting

/-- The fields of a word. -/
def fields (separators : Octets) (as : List Atom) : List (List Marked) :=
  ((as.foldl (Cutting.step separators) ⟨[], none, false⟩).close false).before.reverse

end Atom

/-! ## Files that a pattern matches -/

def isPattern (cs : List Marked) : Bool :=
  cs.any fun c => !c.2 && (c.1 = '*' || c.1 = '?' || c.1 = '[')

/-- The parts of a path between slashes. -/
def pathParts (cs : List Marked) : List (List Marked) :=
  cs.foldr (fun c rest =>
    match c.1, rest with
    | '/', _ => [] :: rest
    | _, part :: more => (c :: part) :: more
    | _, [] => [[c]]) [[]]

/-- The paths that begin with one of some texts and go on as parts tell. -/
def matchParts (p : Process) : (start : Octets) → List (List Marked) → List Octets
  | start, [] => [start]
  | start, part :: rest =>
    let last := rest.isEmpty
    let goOn (name : Octets) : List Octets :=
      let path := start ++ name
      if last then (if (p.entry? path).isSome then [path] else [])
      else matchParts p (path ++ ['/']) rest
    if !isPattern part then goOn (part.map (·.1))
    else
      match p.find (if start.isEmpty then ['.'] else start) with
      | .ok (here, some .directory) =>
        let glob := Glob.read part
        let names := ['.'] :: ['.', '.'] :: (p.names here).map chars
        (names.filter fun name =>
          Glob.stands glob name &&
            (name.head? ≠ some '.' || (part.head?.map (·.1)) = some '.')).flatMap goOn
      | _ => []

/-- What a field stands for. -/
def filesOf (s : Session) (field : List Marked) : List Octets :=
  let plain := field.map (·.1)
  if s.hasFlag 'f' || !isPattern field then [plain]
  else
    let found := match pathParts field with
      | [] :: rest => matchParts s.process ['/'] rest
      | parts => matchParts s.process [] parts
    if found.isEmpty then [plain] else found.mergeSort fun a b => !decide (b < a)

end Testbed.Lab.Script
