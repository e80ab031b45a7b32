import Testbed.Lab.Script.Tree
/-!
# Reading scripts

A script is read line by line: `nextCommand` gives the commands up to the end of a line, or of as
many lines as the commands need. A here-document is read at the end of the line that it belongs to,
so a command only holds its number and the documents are kept apart. What cannot be read is a
`Fault`, which tells the line and the first token that does not fit.
-/

namespace Testbed.Lab.Script

open Text (Octets)

structure Fault where
  line : Nat
  text : String

inductive Token where
  | ended
  | newline
  | mark (text : String)
  | keyword (text : String)
  | word (w : Word)
  | redirection (stream : Nat) (mark : String)

/-- A here-document that is still to be read. -/
structure Announced where
  id : Nat
  /-- The line that ends it. -/
  mark : Octets
  /-- Whether tabs at the start of its lines are dropped. -/
  stripsTabs : Bool
  /-- Whether it is expanded like a text in double quotes. -/
  expands : Bool

/-- How far a script has been read. -/
structure Cursor where
  rest : Octets
  line : Nat
  /-- A token that was read too early. -/
  pushed : Option Token
  announced : List Announced
  documents : List (Nat × Word)
  /-- How many here-documents were announced. -/
  count : Nat
  /-- Texts that stand for the first word of a command. -/
  aliases : List (String × Octets)
  /-- Those that are being read, and how much follows each of them. -/
  within : List (String × Nat)

abbrev Reader (α : Type) := StateT Cursor (Except Fault) α

namespace Cursor

def ofOctets (source : Octets) (count : Nat) : Cursor := ⟨source, 1, none, [], [], count, [], []⟩

/-- Whether the end of the script has been seen. -/
def atEnd (c : Cursor) : Bool :=
  match c.pushed with
  | some .ended => true
  | _ => false

end Cursor

/-! ## Characters -/

def fault {α : Type} (text : String) : Reader α := do
  throw ⟨(← get).line, "Syntax error: " ++ text⟩

/-- The text after line ends that are hidden by backslashes, and the number of those. -/
def unhide : Octets → Octets × Nat
  | '\\' :: '\n' :: rest =>
    let r := unhide rest
    (r.1, r.2 + 1)
  | cs => (cs, 0)

/-- The next character, which stays where it is. -/
def peek : Reader (Option Char) := do
  let c ← get
  let (rest, hidden) := unhide c.rest
  set { c with rest := rest, line := c.line + hidden }
  return rest.head?

/-- Takes a character, whatever it is. -/
def takeRaw : Reader (Option Char) := do
  let c ← get
  match c.rest with
  | [] => return none
  | x :: rest =>
    set { c with rest := rest, line := if x = '\n' then c.line + 1 else c.line }
    return some x

def takeNext : Reader (Option Char) := do
  let _ ← peek
  takeRaw

/-- Takes a number of characters at once. -/
def skip (n : Nat) : Reader Unit := modify fun c =>
  { c with rest := c.rest.drop n, line := c.line + (c.rest.take n).count '\n' }

def push (t : Token) : Reader Unit := modify ({ · with pushed := some t })

/-- Takes the characters of a name or a number. -/
def takeWhile (ok : Char → Bool) : (fuel : Nat) → Reader Octets
  | 0 => return []
  | fuel + 1 => do
    match ← peek with
    | some c =>
      if ok c then
        let _ ← takeRaw
        return c :: (← takeWhile ok fuel)
      else return []
    | none => return []

/-- The text up to the quote that ends it. -/
def singleQuoted : Reader Octets := do
  let cs := (← get).rest.takeWhile (· ≠ '\'')
  skip cs.length
  match ← takeRaw with
  | some _ => return cs
  | none => fault "Unterminated quoted string"

/-- The text up to the backquote that ends it, without the backslashes that hide a character. -/
def backquoted (quoted : Bool) : (fuel : Nat) → Reader Octets
  | 0 => return []
  | fuel + 1 => do
    match ← takeNext with
    | none => fault "EOF in backquote substitution"
    | some '\x60' => return []
    | some '\\' =>
      match ← takeRaw with
      | none => fault "EOF in backquote substitution"
      | some c =>
        let hidden := c = '\\' || c = '\x60' || c = '$' || (quoted && c = '"')
        return (if hidden then [c] else ['\\', c]) ++ (← backquoted quoted fuel)
    | some c => return c :: (← backquoted quoted fuel)

/-! ## Tokens -/

namespace Token

def label : Token → String
  | .ended => "end of file"
  | .newline => "newline"
  | .mark text | .keyword text => "\"" ++ text ++ "\""
  | .word _ => "word"
  | .redirection _ _ => "redirection"

def keywords : List String :=
  ["!", "case", "do", "done", "elif", "else", "esac", "fi", "for", "if", "in", "then", "until",
    "while", "\x7b", "\x7d"]

/-- The marks and words that a list of commands ends at. -/
def enders : List String :=
  [")", ";;", "do", "done", "elif", "else", "esac", "fi", "then", "\x7d"]

def endsList : Token → Bool
  | .ended => true
  | .mark text | .keyword text => enders.contains text
  | _ => false

def isMark (t : Token) (text : String) : Bool :=
  match t with
  | .mark m => m = text
  | _ => false

def isKeyword (t : Token) (text : String) : Bool :=
  match t with
  | .keyword k => k = text
  | _ => false

/-- A word without quotes that is a keyword. -/
def promote : Token → Token
  | .word w =>
    match plain? w with
    | some cs =>
      let text := String.ofList cs
      if keywords.contains text then .keyword text else .word w
    | none => .word w
  | t => t

/-- The word that a token is, a keyword too. -/
def word? : Token → Option Word
  | .word w => some w
  | .keyword text => some [.text false text.toList]
  | _ => none

end Token

/-- Nothing that may follow has come. -/
def unexpected {α : Type} (t : Token) (wanted : Option String) : Reader α :=
  fault (t.label ++ " unexpected" ++
    match wanted with
    | some text => " (expecting " ++ text ++ ")"
    | none => "")

/-- Where a reader of words stands. -/
inductive Place where
  | word
  /-- The line that ends a here-document, in which nothing is expanded. -/
  | mark
  | double
  /-- Inside of a parameter's braces. -/
  | brace (quoted : Bool)
  | document
  | sum
  deriving DecidableEq

namespace Place

def quoted : Place → Bool
  | .word | .mark | .brace false => false
  | _ => true

/-- What is wrong if the script ends here. -/
def unfinished? : Place → Option String
  | .word | .mark | .document => none
  | .double | .brace true => some "Unterminated quoted string"
  | .brace false => some "Missing '\x7d'"
  | .sum => some "Missing '))'"

def isBrace : Place → Bool
  | .brace _ => true
  | _ => false

/-- Whether a backslash before a character stays, since the character means nothing here. -/
def keepsBackslash (p : Place) (c : Char) : Bool :=
  p.quoted && c ≠ '\\' && c ≠ '\x60' && c ≠ '$' && (c ≠ '"' || p = .document) &&
    (c ≠ '\x7d' || !p.isBrace)

end Place

/-- The characters that end a word. -/
def isSeparator (c : Char) : Bool :=
  [' ', '\t', '\n', ';', '&', '|', '<', '>', '(', ')'].contains c

/-- The parameters whose name is one character. -/
def isSpecial (c : Char) : Bool :=
  c.isDigit || ['$', '?', '#', '@', '*', '!', '-'].contains c

/-- A word read in pieces, the last one first. -/
def wordOf (read : List Piece) : Word :=
  read.foldl (fun rest piece =>
    match piece, rest with
    | .text q cs, .text r ds :: more =>
      if q == r then .text q (cs ++ ds) :: more else piece :: rest
    | _, _ => piece :: rest) []

/-- A word in double quotes, which is a field even if it is empty. All arguments are as many fields
as there are, or none. -/
def doubleQuoted : Word → Word
  | [.parameter true "@" use] => [.parameter true "@" use]
  | w => .text true [] :: w

def isQuoted (w : Word) : Bool := w.any fun
  | .text q _ => q
  | _ => false

/-- The text of a word in which nothing is expanded. -/
def literal (w : Word) : Octets := w.flatMap fun
  | .text _ cs => cs
  | _ => []

/-- The lines of a here-document, and those after it. A line that goes on is not looked at. -/
def documentLines (d : Announced) : (goesOn : Bool) → List Octets → Octets × List Octets
  | _, [] => ([], [])
  | goesOn, line :: rest =>
    let line := if d.stripsTabs && !goesOn then line.dropWhile (· = '\t') else line
    let (text, mark) := (line.takeWhile (· ≠ '\n'), line)
    if !goesOn && text = d.mark then ([], rest)
    else
      let slashes := (text.reverse.takeWhile (· = '\\')).length
      let r := documentLines d (d.expands && slashes % 2 = 1) rest
      (mark ++ r.1, r.2)

/-- The lines of a text, each with its end. -/
def lines (cs : Octets) : List Octets :=
  cs.foldr (fun c rest =>
    match c, rest with
    | '\n', _ => ['\n'] :: rest
    | c, line :: rest => (c :: line) :: rest
    | c, [] => [[c]]) []

/-- The mark of a redirection, at its first character. -/
def redirectionMark : Reader String := do
  match ← takeNext, ← peek with
  | some '>', some '>' => skip 1; return ">>"
  | some '>', some '|' => skip 1; return ">|"
  | some '>', some '&' => skip 1; return ">&"
  | some '>', _ => return ">"
  | _, some '&' => skip 1; return "<&"
  | _, some '>' => skip 1; return "<>"
  | _, some '<' =>
    skip 1
    if (← peek) = some '-' then
      skip 1
      return "<<-"
    else return "<<"
  | _, _ => return "<"

/-- The token that starts with a character that is no part of a word. -/
def separator (c : Char) : Reader Token := do
  skip 1
  let second ← if c = '\n' then pure none else peek
  if c = '\n' then return .newline
  else if second = some c && [';', '&', '|'].contains c then
    skip 1
    return .mark (String.ofList [c, c])
  else return .mark (String.singleton c)

/-- What follows the name of a parameter up to the word, where the word has to be read in quotes or
not: the use is that of the word. -/
def useMark (quoted : Bool) : Reader (Option (Bool × (Word → Use))) := do
  let first ← takeNext
  let whenEmpty := first = some ':'
  let c ← if whenEmpty then takeNext else pure first
  match c with
  | some '\x7d' => return none
  | some '-' => return some (quoted, .fallback whenEmpty .value)
  | some '=' => return some (quoted, .fallback whenEmpty .assign)
  | some '?' => return some (quoted, .fallback whenEmpty .complain)
  | some '+' => return some (quoted, .fallback whenEmpty .instead)
  | c =>
    if whenEmpty then return some (quoted, fun _ => .nonsense)
    else if c = some '#' || c = some '%' then
      let longest ← if (← peek) = c then (do skip 1; return true) else pure false
      return some (false, .trim (c = some '%') longest)
    else return some (quoted, fun _ => .nonsense)

/-- The name in braces, whether its size is asked for, and whether it is one. -/
def bracedName (fuel : Nat) : Reader (String × Bool × Bool) := do
  let name (start : Char → Bool) (size : Bool) : Reader (String × Bool × Bool) := do
    let ok (c : Char) : Bool := if start '0' then c.isDigit else isNameChar c
    let cs ← takeWhile ok fuel
    return (String.ofList cs, size, true)
  let word (size : Bool) (c : Char) : Reader (String × Bool × Bool) :=
    name (if isNameStart c then isNameStart else Char.isDigit) size
  match ← peek with
  | none => return ("", false, false)
  | some c =>
    if isNameStart c || c.isDigit then word false c
    else if c = '\x7d' then return ("", false, false)
    else
      skip 1
      if c ≠ '#' then return (String.singleton c, false, isSpecial c)
      else
        match ← peek with
        | none => return ("#", false, true)
        | some d =>
          if isNameStart d || d.isDigit then word true d
          else if d = '\x7d' then return ("#", false, true)
          else
            let here ← get
            skip 1
            if (← peek) = some '\x7d' then return (String.singleton d, true, isSpecial d)
            else
              set here
              return ("#", false, true)

/-- Puts the text in the place of a word that it stands for, unless the word is part of it. -/
def expandAlias (w : Word) : Reader Bool := do
  let c ← get
  match (plain? w).map String.ofList with
  | none => return false
  | some name =>
    match c.aliases.lookup name with
    | none => return false
    | some text =>
      let after := c.rest.length
      let within := c.within.filter (·.2 ≤ after)
      if within.any (·.1 = name) then return false
      set { c with rest := text ++ c.rest, within := (name, after) :: within }
      return true

/-! ## Commands -/

def nested {α : Type} : Reader α := fault "too deep"

mutual

/-- The pieces of a word up to where it ends. -/
def pieces : (fuel : Nat) → Place → (depth : Nat) → (inner : Bool) → (read : List Piece) →
    Reader Word
  | 0, _, _, _, _ => nested
  | fuel + 1, place, depth, inner, read => do
    let more (ps : List Piece) : Reader Word :=
      pieces fuel place depth inner (ps.reverse ++ read)
    let plain (c : Char) : Reader Word := do
      skip 1
      more [.text place.quoted [c]]
    let isWord := place = .word || place = .mark
    match ← peek with
    | none =>
      match place.unfinished? with
      | some text => fault text
      | none => return wordOf read
    | some '\\' =>
      skip 1
      match ← takeRaw with
      | none => more [.text true ['\\']]
      | some c => more [.text true (if place.keepsBackslash c then ['\\', c] else [c])]
    | some '$' =>
      if place = .mark then plain '$'
      else
        skip 1
        more [← dollar fuel place.quoted]
    | some '\x60' =>
      skip 1
      if place = .mark then more [.text true ['\x60']]
      else
        let source ← backquoted place.quoted fuel
        let here ← get
        set { Cursor.ofOctets source here.count with aliases := here.aliases }
        let body ← listOf fuel false true none
        documentsOf fuel
        modify fun c => { here with documents := c.documents ++ here.documents, count := c.count }
        more [.output place.quoted (body.getD .nothing)]
    | some '"' =>
      skip 1
      match place with
      | .double => return wordOf read
      | .document => more [.text true ['"']]
      | .sum => more []
      | .brace true => pieces fuel place depth (!inner) read
      | _ => more (doubleQuoted (← pieces fuel .double 0 false []))
    | some '\'' =>
      if isWord || place = .brace false then
        skip 1
        more [.text true (← singleQuoted)]
      else plain '\''
    | some '\x7d' =>
      if place.isBrace && !inner then
        skip 1
        return wordOf read
      else plain '\x7d'
    | some '(' =>
      if isWord then return wordOf read
      else if place = .sum then
        skip 1
        pieces fuel place (depth + 1) inner (.text true ['('] :: read)
      else plain '('
    | some ')' =>
      if isWord then return wordOf read
      else if place = .sum then
        skip 1
        if 0 < depth then pieces fuel place (depth - 1) inner (.text true [')'] :: read)
        else if (← peek) = some ')' then
          skip 1
          return wordOf read
        else more [.text true [')']]
      else plain ')'
    | some c => if isWord && isSeparator c then return wordOf read else plain c

/-- The piece after a dollar sign. -/
def dollar : (fuel : Nat) → (quoted : Bool) → Reader Piece
  | 0, _ => nested
  | fuel + 1, quoted => do
    match ← peek with
    | some '(' =>
      skip 1
      if (← peek) = some '(' then
        skip 1
        return .number quoted (← pieces fuel .sum 0 false [])
      else
        let here ← get
        set { here with announced := [] }
        let body ← listOf fuel false true none
        let t ← next fuel false false
        if !t.isMark ")" then unexpected t (some (Token.mark ")").label)
        documentsOf fuel
        modify ({ · with announced := here.announced })
        return .output quoted (body.getD .nothing)
    | some '\x7b' =>
      skip 1
      let (name, size, isGood) ← bracedName fuel
      if !isGood then
        let _ ← pieces fuel (.brace quoted) 0 false []
        return .parameter quoted name .nonsense
      else if size then
        if (← peek) = some '\x7d' then
          skip 1
          return .parameter quoted name .size
        else
          let _ ← pieces fuel (.brace quoted) 0 false []
          return .parameter quoted name .nonsense
      else
        match ← useMark quoted with
        | none => return .parameter quoted name .value
        | some (q, use) => return .parameter quoted name (use (← pieces fuel (.brace q) 0 false []))
    | some c =>
      if isNameStart c then
        return .parameter quoted (String.ofList (← takeWhile isNameChar fuel)) .value
      else if isSpecial c then
        skip 1
        return .parameter quoted (String.singleton c) .value
      else return .text quoted ['$']
    | none => return .text quoted ['$']

/-- Reads the here-documents that were announced. -/
def documentsOf : (fuel : Nat) → Reader Unit
  | 0 => nested
  | fuel + 1 => do
    let here ← get
    match here.announced with
    | [] => return
    | d :: more =>
      let (body, rest) := documentLines d false (lines here.rest)
      let w ← (if d.expands then do
          set { here with rest := body, announced := [] }
          pieces fuel .document 0 false []
        else pure [.text true body] : Reader Word)
      let taken := (here.rest.count '\n') - (rest.flatten.count '\n')
      modify fun c => { c with
        rest := rest.flatten, line := here.line + taken, announced := more
        documents := (d.id, w) :: c.documents }
      documentsOf fuel

/-- The next token, as it is written. -/
def rawToken : (fuel : Nat) → Place → Reader Token
  | 0, _ => nested
  | fuel + 1, place => do
    match (← get).pushed with
    | some t =>
      modify ({ · with pushed := none })
      return t
    | none =>
      match ← peek with
      | none => return .ended
      | some ' ' | some '\t' =>
        skip 1
        rawToken fuel place
      | some '#' =>
        skip ((← get).rest.takeWhile (· ≠ '\n')).length
        rawToken fuel place
      | some c =>
        if isSeparator c && c ≠ '<' && c ≠ '>' then separator c
        else
          let w ← pieces fuel place 0 false []
          let next ← peek
          let isNumber := match w with
            | [] => true
            | [.text false [d]] => d.isDigit
            | _ => false
          if (next = some '<' || next = some '>') && isNumber then
            let m ← redirectionMark
            let usual := if m.toList.head? = some '>' then 1 else 0
            return .redirection
              (((literal w).head?.map fun d => d.toNat - '0'.toNat).getD usual) m
          else return .word w

/-- The next token; line ends may be skipped, and keywords may be told from words. -/
def next : (fuel : Nat) → (skipsLines keywords : Bool) → Reader Token
  | 0, _, _ => nested
  | fuel + 1, skipsLines, keywords => do
    match ← rawToken fuel .word, skipsLines with
    | .newline, true =>
      documentsOf fuel
      next fuel skipsLines keywords
    | t, _ =>
      if keywords then
        match t.promote with
        | .word w => if ← expandAlias w then next fuel skipsLines keywords else return .word w
        | t => return t
      else return t

/-- Takes a token that has to come. -/
def expect : (fuel : Nat) → Token → (skipsLines : Bool) → Reader Unit
  | 0, _, _ => nested
  | fuel + 1, wanted, skipsLines => do
    let t ← next fuel skipsLines true
    if t.label ≠ wanted.label then unexpected t (some wanted.label)

/-- Commands one after the other: those of a line of the script, or those inside of a command. -/
def listOf : (fuel : Nat) → (isLine mayEnd : Bool) → (before : Option Command) →
    Reader (Option Command)
  | 0, _, _, _ => nested
  | fuel + 1, isLine, mayEnd, before => do
    match ← next fuel (!isLine) true with
    | .newline =>
      documentsOf fuel
      return before
    | .ended =>
      documentsOf fuel
      push .ended
      return before
    | t =>
      push t
      if mayEnd && t.endsList then return before
      let line := (← get).line
      let c ← chainOf fuel (← pipeOf fuel false false)
      let t ← next fuel false false
      let c := if t.isMark "&" then .behind line c else c
      let all := match before with
        | none => c
        | some b => .inTurn b c
      match t with
      | .ended =>
        documentsOf fuel
        push .ended
        return some all
      | .newline =>
        push t
        listOf fuel isLine (!isLine) (some all)
      | t =>
        if t.isMark ";" || t.isMark "&" then listOf fuel isLine (!isLine) (some all)
        else if isLine then unexpected t none
        else
          push t
          return some all

/-- Commands joined by what came of the one before. -/
def chainOf : (fuel : Nat) → (before : Command) → Reader Command
  | 0, _ => nested
  | fuel + 1, before => do
    let t ← next fuel false false
    if t.isMark "&&" then chainOf fuel (.both before (← pipeOf fuel true true))
    else if t.isMark "||" then chainOf fuel (.either before (← pipeOf fuel true true))
    else
      push t
      return before

/-- Commands each of which reads what the one before prints. -/
def pipeOf : (fuel : Nat) → (skipsLines keywords : Bool) → Reader Command
  | 0, _, _ => nested
  | fuel + 1, skipsLines, keywords => do
    let t ← next fuel skipsLines keywords
    let negated := t.isKeyword "!"
    if !negated then push t
    let c ← partsOf fuel [← commandOf fuel false negated]
    return if negated then .negated c else c

def partsOf : (fuel : Nat) → (before : List Command) → Reader Command
  | 0, _ => nested
  | fuel + 1, before => do
    let t ← next fuel false false
    if t.isMark "|" then partsOf fuel (before ++ [← commandOf fuel true true])
    else
      push t
      match before with
      | [c] => return c
      | cs => return .piped cs

def commandOf : (fuel : Nat) → (skipsLines keywords : Bool) → Reader Command
  | 0, _, _ => nested
  | fuel + 1, skipsLines, keywords => do
    let line := (← get).line
    let t ← next fuel skipsLines keywords
    let body : Reader Command := do return (← listOf fuel false false none).getD .nothing
    let closed (c : Command) : Reader Command := do
      match ← redirectionsOf fuel with
      | [] => return c
      | rs => return .redirected line c rs
    match t with
    | .word _ | .redirection _ _ =>
      push t
      simpleOf fuel (← get).line [] [] []
    | .mark "(" =>
      let c ← body
      expect fuel (.mark ")") false
      return .apart line c (← redirectionsOf fuel)
    | .keyword "\x7b" =>
      let c ← body
      expect fuel (.keyword "\x7d") false
      closed c
    | .keyword "if" => closed (← branchOf fuel)
    | .keyword "while" | .keyword "until" =>
      let condition ← body
      expect fuel (.keyword "do") false
      let c ← body
      expect fuel (.keyword "done") false
      closed (.loop (t.isKeyword "until") condition c)
    | .keyword "for" =>
      let name ← match ← next fuel false false with
        | .word w =>
          match plain? w with
          | some cs => if isName cs then pure (String.ofList cs) else fault "Bad for loop variable"
          | none => fault "Bad for loop variable"
        | _ => fault "Bad for loop variable"
      let t ← next fuel true true
      let values ← (do
        if t.isKeyword "in" then wordsOf fuel
        else
          if !t.isMark ";" then push t
          return [[.parameter true "@" .value]] : Reader (List Word))
      expect fuel (.keyword "do") true
      let c ← body
      expect fuel (.keyword "done") false
      closed (.forEach line name values c)
    | .keyword "case" =>
      match ← next fuel false false with
      | .word subject =>
        expect fuel (.keyword "in") true
        closed (.select line subject (← armsOf fuel))
      | t => unexpected t (some "word")
    | t => unexpected t none

/-- What follows an `if`, up to the end of it. -/
def branchOf : (fuel : Nat) → Reader Command
  | 0 => nested
  | fuel + 1 => do
    let body : Reader Command := do return (← listOf fuel false false none).getD .nothing
    let condition ← body
    expect fuel (.keyword "then") false
    let yes ← body
    let t ← next fuel false true
    if t.isKeyword "elif" then return .choice condition yes (← branchOf fuel)
    else if t.isKeyword "else" then
      let no ← body
      expect fuel (.keyword "fi") false
      return .choice condition yes no
    else
      push t
      expect fuel (.keyword "fi") false
      return .choice condition yes .nothing

/-- The words that a loop goes over, up to the end of the line. -/
def wordsOf : (fuel : Nat) → Reader (List Word)
  | 0 => nested
  | fuel + 1 => do
    match ← next fuel false false with
    | .word w => return w :: (← wordsOf fuel)
    | .newline => return []
    | t => if t.isMark ";" then return [] else unexpected t none

/-- The arms of a selection. -/
def armsOf : (fuel : Nat) → Reader (List (List Word × Command))
  | 0 => nested
  | fuel + 1 => do
    let t ← next fuel true true
    if t.isKeyword "esac" then return []
    else
      let first ← if t.isMark "(" then next fuel false false else pure t
      let patterns ← patternsOf fuel first
      let body := (← listOf fuel false true none).getD .nothing
      let t ← next fuel true true
      if t.isKeyword "esac" then return [(patterns, body)]
      else if t.isMark ";;" then return (patterns, body) :: (← armsOf fuel)
      else unexpected t (some (Token.mark ";;").label)

def patternsOf : (fuel : Nat) → (first : Token) → Reader (List Word)
  | 0, _ => nested
  | fuel + 1, first => do
    let t ← next fuel false false
    if t.isMark "|" then
      return first.word?.getD [] :: (← patternsOf fuel (← next fuel false false))
    else if t.isMark ")" then return [first.word?.getD []]
    else unexpected t (some (Token.mark ")").label)

/-- The redirections that follow a closed command. -/
def redirectionsOf : (fuel : Nat) → Reader (List Redirection)
  | 0 => nested
  | fuel + 1 => do
    match ← next fuel false true with
    | .redirection stream m =>
      let r ← targetOf fuel stream m
      return r :: (← redirectionsOf fuel)
    | t =>
      push t
      return []

/-- The word after the mark of a redirection. -/
def targetOf : (fuel : Nat) → (stream : Nat) → (mark : String) → Reader Redirection
  | 0, _, _ => nested
  | fuel + 1, stream, m => do
    let isDocument := m = "<<" || m = "<<-"
    match ← rawToken fuel (if isDocument then .mark else .word) with
    | .word w =>
      match m with
      | "<" => return .file stream .read w
      | "<>" => return .file stream .readWrite w
      | ">" => return .file stream .write w
      | ">|" => return .file stream .writeOver w
      | ">>" => return .file stream .append w
      | "<&" | ">&" => return .join stream w
      | _ =>
        let c ← get
        let d : Announced := ⟨c.count, literal w, m = "<<-", !isQuoted w⟩
        set { c with announced := c.announced ++ [d], count := c.count + 1 }
        return .document stream d.id
    | t => unexpected t none

/-- The settings, words and redirections of a single command, or the definition of a function. -/
def simpleOf : (fuel : Nat) → (line : Nat) → (settings : List (String × Word)) →
    (words : List Word) → (redirections : List Redirection) → Reader Command
  | 0, _, _, _, _ => nested
  | fuel + 1, line, settings, words, redirections => do
    match ← next fuel false false with
    | .word w =>
      match if words.isEmpty then assigned? w else none with
      | some s => simpleOf fuel line (settings ++ [s]) words redirections
      | none =>
        if ← (if words.isEmpty && !settings.isEmpty then expandAlias w else pure false) then
          simpleOf fuel line settings words redirections
        else simpleOf fuel line settings (words ++ [w]) redirections
    | .redirection stream m =>
      let r ← targetOf fuel stream m
      simpleOf fuel line settings words (redirections ++ [r])
    | t =>
      match t.isMark "(", settings, words, redirections with
      | true, [], [w], [] =>
        let t ← next fuel false false
        if !t.isMark ")" then unexpected t (some (Token.mark ")").label)
        match plain? w with
        | some cs =>
          if isName cs && !specialNames.contains (String.ofList cs) then
            return .define (String.ofList cs) (← commandOf fuel true true)
          else fault "Bad function name"
        | none => fault "Bad function name"
      | _, _, _, _ =>
        push t
        return .simple line settings words redirections

end

/-- The commands of the next lines, or nothing at the end of the script. Each step takes part of
the text or goes one level down, of which there are fewer than twenty to a character. -/
def nextCommand (c : Cursor) : Except Fault (Option Command × Cursor) :=
  (listOf (20 * (c.rest.length + 2)) true false none).run c

end Testbed.Lab.Script
