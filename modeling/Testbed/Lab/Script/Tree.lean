import Testbed.Text.Octets
/-!
# Scripts

A script is made of commands, a command of words and redirections, and a word of pieces, some of
which stand for the value of a parameter, for what other commands print or for a number. Every
command keeps the line that it starts in, for complaints.

Scripts are here to try out the commands that submit layouts, many of which are shells with a
script. They are run by `Testbed.Lab.Program` alone, and no result rests on them.
-/

namespace Testbed.Lab.Script

open Text (Octets)

/-- What stands in for a value that is missing. -/
inductive Fallback where
  /-- The word, for this once. -/
  | value
  /-- The word, from now on. -/
  | assign
  /-- A complaint. -/
  | complain
  /-- Nothing, while the word takes the place of a value that is there. -/
  | instead
  deriving DecidableEq, Repr

/-- How a redirection opens a file. -/
inductive Opening where
  | read
  | write
  /-- Writes over a file even where that is not done by chance. -/
  | writeOver
  | append
  | readWrite
  deriving DecidableEq, Repr

mutual

/-- A piece of a word. What is quoted is neither split nor taken for a pattern. -/
inductive Piece where
  | text (quoted : Bool) (cs : Octets)
  | parameter (quoted : Bool) (name : String) (use : Use)
  /-- What commands print. -/
  | output (quoted : Bool) (body : Command)
  /-- What a sum comes to. -/
  | number (quoted : Bool) (source : List Piece)

/-- What becomes of the value of a parameter. -/
inductive Use where
  | value
  /-- How long it is. -/
  | size
  /-- Something else if there is no value, or only an empty one where that counts too. -/
  | fallback (whenEmpty : Bool) (way : Fallback) (word : List Piece)
  /-- The value without what a pattern matches at one of its ends. -/
  | trim (atEnd longest : Bool) (pattern : List Piece)
  /-- Nothing that makes sense. -/
  | nonsense

inductive Redirection where
  | file (stream : Nat) (opening : Opening) (target : List Piece)
  /-- Makes a stream the same as another one, or closes it. -/
  | join (stream : Nat) (other : List Piece)
  /-- Reads from the script itself: the here-document of a number. -/
  | document (stream : Nat) (id : Nat)

inductive Command where
  | nothing
  | simple (line : Nat) (settings : List (String × List Piece)) (words : List (List Piece))
    (redirections : List Redirection)
  | redirected (line : Nat) (body : Command) (redirections : List Redirection)
  /-- A command that is run by a shell of its own. -/
  | apart (line : Nat) (body : Command) (redirections : List Redirection)
  /-- A command that nobody waits for. -/
  | behind (line : Nat) (body : Command)
  /-- Commands each of which reads what the one before prints. -/
  | piped (parts : List Command)
  | negated (body : Command)
  | both (first second : Command)
  | either (first second : Command)
  | inTurn (first second : Command)
  | choice (condition yes no : Command)
  /-- Goes on as long as the condition holds, or as long as it fails. -/
  | loop (whileFails : Bool) (condition body : Command)
  | forEach (line : Nat) (name : String) (values : List (List Piece)) (body : Command)
  | select (line : Nat) (subject : List Piece) (arms : List (List (List Piece) × Command))
  | define (name : String) (body : Command)

end

abbrev Word := List Piece

instance : Inhabited Command := ⟨.nothing⟩

/-! ## Names -/

def isNameStart (c : Char) : Bool := c.isAlpha || c = '_'

def isNameChar (c : Char) : Bool := c.isAlphanum || c = '_'

def isName (cs : Octets) : Bool := (cs.head?.map isNameStart).getD false && cs.all isNameChar

/-- The builtin commands that end a script when they fail. -/
def specialNames : List String :=
  [".", ":", "break", "continue", "eval", "exec", "exit", "export", "local", "readonly", "return",
    "set", "shift", "times", "trap", "unset"]

/-- The name that a word sets, and the piece that is left of the first one. -/
def assigned? : Word → Option (String × Word)
  | .text false cs :: rest =>
    let name := cs.takeWhile (· ≠ '=')
    if isName name && name.length < cs.length then
      some (String.ofList name, .text false (cs.drop (name.length + 1)) :: rest)
    else none
  | _ => none

/-- A word of plain characters. -/
def plain? : Word → Option Octets
  | [] => some []
  | .text false cs :: rest => (plain? rest).map (cs ++ ·)
  | _ => none

end Testbed.Lab.Script
