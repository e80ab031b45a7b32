import Testbed.Lab.Tool.Options
/-!
# Commands from what is read

A text that is read gives arguments, separated by blanks and lines or by a single character. They
are handed out to commands: all to one, so many to each, or one in the place of a mark.
-/

namespace Testbed.Lab

open Text (Octets)
open Process (chars)

namespace Gathering

/-- What is wrong with words that are read. -/
inductive Fault where
  | openQuote (double : Bool)

/-- The words of a text, line by line, where quotes and backslashes keep blanks from separating. -/
def wordsOf : (current : Option Octets) → (quote : Option Char) → (line : List Octets) →
    Octets → Except Fault (List (List Octets))
  | current, quote, line, cs => go current quote line cs
where
  /-- Words and lines are kept with the last one first. -/
  go (current : Option Octets) (quote : Option Char) (line : List Octets) :
      Octets → Except Fault (List (List Octets))
    | [] =>
      match quote with
      | some q => .error (.openQuote (q = '"'))
      | none =>
        let line := close current line
        .ok (if line.isEmpty then [] else [line.reverse])
    | c :: rest =>
      match quote with
      | some q =>
        if c = q then go current none line rest
        else if c = '\n' then .error (.openQuote (q = '"'))
        else go (some (c :: current.getD [])) quote line rest
      | none =>
        if c = '\'' || c = '"' then go (some (current.getD [])) (some c) line rest
        else if c = '\\' then
          match rest with
          | d :: rest => go (some (d :: current.getD [])) none line rest
          | [] => go current none line []
        else if c = '\n' then do
          let line := close current line
          let more ← go none none [] rest
          return if line.isEmpty then more else line.reverse :: more
        else if c = ' ' || c = '\t' then go none none (close current line) rest
        else go (some (c :: current.getD [])) none line rest
  close (current : Option Octets) (line : List Octets) : List Octets :=
    match current with
    | some w => w.reverse :: line
    | none => line

/-- Pieces of a text before separators; the last one may have none after it. -/
def pieces (separator : Char) (cs : Octets) : List Octets :=
  let all := Text.split separator cs
  if all.getLast? = some [] then all.dropLast else all

/-- Rows of so many things at most. -/
def rows {α : Type} (n : Nat) : (fuel : Nat) → List α → List (List α)
  | 0, _ | _, [] => []
  | fuel + 1, x :: xs => (x :: xs).take n :: rows n fuel ((x :: xs).drop n)

/-- A text with another one in place of a mark. -/
def replaced (mark text : Octets) : (skip : Nat) → Octets → Octets
  | _, [] => []
  | skip + 1, _ :: rest => replaced mark text skip rest
  | 0, c :: rest =>
    if !mark.isEmpty && mark.isPrefixOf (c :: rest) then
      text ++ replaced mark text (mark.length - 1) rest
    else c :: replaced mark text 0 rest

/-- The value of an option that counts something, if it is given. -/
def countOf (o : Options) (c : Char) : Except Octets (Option Nat) :=
  match o.value? c with
  | none => .ok none
  | some cs =>
    let told := chars " for -" ++ [c] ++ chars " option"
    match (String.ofList cs).toNat? with
    | none => .error (chars "invalid number \"" ++ cs ++ ['"'] ++ told)
    | some 0 => .error (chars "value 0" ++ told ++ chars " should be >= 1")
    | some n => .ok (some n)

/-- The command lines that a text gives cause to. -/
def commands (o : Options) (most lines : Option Nat) (cs : Octets) :
    Except Fault (List (List Octets)) := do
  let words := if o.operands.isEmpty then [chars "echo"] else o.operands
  let separator := if o.has '0' then some '\x00' else
    (o.value? 'd').map fun d => if d = chars "\\n" then '\n' else if d = chars "\\0" then '\x00'
      else d.headD '\n'
  match o.value? 'I' with
  | some mark =>
    let items := match separator with
      | some c => pieces c cs
      | none => (pieces '\n' cs).filterMap fun (line : Octets) =>
          let line := line.dropWhile fun c => c = ' ' || c = '\t'
          if line.isEmpty then none else some line
    return items.map fun item => words.map (replaced mark item 0)
  | none =>
    let items ← match separator with
      | some c => pure ((pieces c cs).map ([·]))
      | none => wordsOf none none [] cs
    let groups := match most, lines with
      | some n, _ => rows n (cs.length + 1) items.flatten
      | none, some n => (rows n (cs.length + 1) items).map List.flatten
      | none, none => if items.isEmpty then [] else [items.flatten]
    let groups := if groups.isEmpty && !o.has 'r' then [[]] else groups
    return groups.map (words ++ ·)

end Gathering

end Testbed.Lab
