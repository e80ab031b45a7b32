import Testbed.Decimal.Shortest
/-!
# JSON tokens

`tokens` cuts a document into tokens from left to right. A lexical fault becomes a token of its own
and ends the list, so that whoever reads the tokens in order meets the faults of the document in
order. Text that is skipped is held to weaker rules than text that is used: a skipped string may
hold lone surrogates, a skipped number may be too large, and a skipped number that breaks off is
malformed where a used one is unfinished. Tokens carry both verdicts. A document may hold bytes that
are no text: these are faults (`none`), which matter in a string that is used and nowhere else.
-/

namespace Testbed.Json

/-- What a document ends in the middle of. -/
inductive Unfinished where
  | value
  | list
  | object
  | text
  deriving DecidableEq, Repr

/-- What is wrong with a document that is no JSON. -/
inductive Fault where
  | expectedValue
  | expectedWord
  | expectedColon
  | expectedItem
  | expectedMember
  | nameNotText
  | invalidNumber
  | numberTooLarge
  | invalidEscape
  | control
  | notUnicode
  | loneSurrogate
  | halfPair
  | trailingComma
  | trailingText
  deriving DecidableEq, Repr

/-- Why a document cannot be read: it ends too early, it is no JSON, or it does not have the
expected shape. -/
inductive Problem where
  | unfinished (place : Unfinished)
  | malformed (fault : Fault)
  | mismatch (reason : String)
  deriving DecidableEq, Repr

def Unfinished.message : Unfinished → String
  | .value => "EOF while parsing a value"
  | .list => "EOF while parsing a list"
  | .object => "EOF while parsing an object"
  | .text => "EOF while parsing a string"

/-- An opening quote of code in a message. -/
def tick : String := "\x60"

def Fault.message : Fault → String
  | .expectedValue => "expected value"
  | .expectedWord => "expected ident"
  | .expectedColon => "expected " ++ tick ++ ":" ++ tick
  | .expectedItem => "expected " ++ tick ++ "," ++ tick ++ " or " ++ tick ++ "]" ++ tick
  | .expectedMember => "expected " ++ tick ++ "," ++ tick ++ " or " ++ tick ++ "\x7d" ++ tick
  | .nameNotText => "key must be a string"
  | .invalidNumber => "invalid number"
  | .numberTooLarge => "number out of range"
  | .invalidEscape => "invalid escape"
  | .control => "control character (\\u0000-\\u001F) found while parsing a string"
  | .notUnicode => "invalid unicode code point"
  | .loneSurrogate => "lone leading surrogate in hex escape"
  | .halfPair => "unexpected end of hex escape"
  | .trailingComma => "trailing comma"
  | .trailingText => "trailing characters"

def Problem.message : Problem → String
  | .unfinished place => place.message
  | .malformed fault => fault.message
  | .mismatch reason => reason

/-- A number as written. -/
structure Numeral where
  negative : Bool
  whole : List Char
  fraction : List Char
  /-- Whether the exponent is negative, and its digits. -/
  exponent : Option (Bool × List Char)

inductive Token where
  | leftBrace | rightBrace | leftBracket | rightBracket | colon | comma
  | null
  | bool (b : Bool)
  | number (n : Numeral)
  | text (value : Except Problem String)
  /-- A fault: the verdict on it if it is used, and if it is skipped. -/
  | broken (isText : Bool) (used skipped : Problem)

/-! ## Numbers -/

/-- What a numeral stands for. Whole numbers beyond 64 bits and minus zero are read as floating
point numbers. -/
inductive Number where
  | whole (n : Int)
  | float (x : Float)
  | tooLarge

def digitValue (c : Char) : Nat := c.toNat - '0'.toNat

def digitsValue (ds : List Char) : Nat := ds.foldl (fun n c => n * 10 + digitValue c) 0

/-- The digits that fit into 64 bits, and the digits from the first one that does not. -/
def significand : Nat → List Char → Nat × List Char
  | n, [] => (n, [])
  | n, d :: ds =>
    let m := n * 10 + digitValue d
    if m < 0x10000000000000000 then significand m ds else (n, d :: ds)

/-- Scales by a power of ten in steps of at most 308. -/
def scale (f : Float) (exponent : Int) : Nat → Option Float
  | 0 => some f
  | rounds + 1 =>
    if exponent.natAbs ≤ 308 then
      let power := Float.ofScientific 1 false exponent.natAbs
      if 0 ≤ exponent then
        if (f * power).isInf then none else some (f * power)
      else some (f / power)
    else if f == 0.0 then some f
    else if 0 ≤ exponent then none
    else scale (f / 1e308) (exponent + 308) rounds

namespace Numeral

def signed (n : Numeral) (x : Float) : Number := .float (if n.negative then -x else x)

def floatValue (n : Numeral) (sig : Nat) (exponent : Int) : Number :=
  match scale (UInt64.ofNat sig).toFloat exponent 4 with
  | some x => n.signed x
  | none => .tooLarge

/-- The exponent written after the digits moves the one they imply. -/
def withExponent (n : Numeral) (sig : Nat) (implied : Int) : Number :=
  match n.exponent with
  | none => n.floatValue sig implied
  | some (negative, ds) =>
    let e := digitsValue ds
    if 0x80000000 ≤ e then
      if sig ≠ 0 ∧ ¬ negative then .tooLarge else n.signed 0.0
    else n.floatValue sig (if negative then implied - e else implied + e)

def value (n : Numeral) : Number :=
  let (sig, dropped) := significand 0 n.whole
  if dropped.isEmpty && n.fraction.isEmpty && n.exponent.isNone then
    if ¬ n.negative then .whole sig
    else if sig = 0 ∨ 0x8000000000000000 < sig then .float (-(UInt64.ofNat sig).toFloat)
    else .whole (-sig)
  else
    let (sig', cut) := significand sig n.fraction
    n.withExponent sig' (dropped.length - (n.fraction.length - cut.length : Nat))

end Numeral

/-! ## Strings -/

/-- A piece of a string literal: a character, a UTF-16 unit given by number, or bytes that are no
text. -/
inductive Piece where
  | plain (c : Char)
  | unit (n : Nat)
  | fault

def isHigh (n : Nat) : Bool := 0xD800 ≤ n && n ≤ 0xDBFF

def isLow (n : Nat) : Bool := 0xDC00 ≤ n && n ≤ 0xDFFF

/-- Joins surrogates in pairs. The given problem is that the pieces break off after the first half
of a pair. -/
def assemble (cut : Problem) : List Piece → Except Problem (List Char)
  | [] => .ok []
  | .plain c :: rest => return c :: (← assemble cut rest)
  | .fault :: rest => assemble cut rest
  | .unit n :: rest =>
    if isLow n then .error (.malformed .loneSurrogate)
    else if isHigh n then
      match rest with
      | [] => .error cut
      | .unit m :: rest' =>
        if isLow m then
          return Char.ofNat (0x10000 + (n - 0xD800) * 0x400 + (m - 0xDC00)) ::
            (← assemble cut rest')
        else .error (.malformed .loneSurrogate)
      | _ => .error (.malformed .halfPair)
    else return Char.ofNat n :: (← assemble cut rest)

def Piece.isFault : Piece → Bool
  | .fault => true
  | _ => false

/-- A literal whose closing quote was reached. -/
def closeText (pieces : List Piece) : Token :=
  .text (do
    let cs ← assemble (.malformed .halfPair) pieces.reverse
    if pieces.any Piece.isFault then .error (.malformed .notUnicode) else .ok (String.ofList cs))

/-- A literal that breaks off. -/
def breakText (pieces : List Piece) (cut p : Problem) : Token :=
  match assemble cut pieces.reverse with
  | .error q => .broken true q p
  | .ok _ => .broken true p p

/-! ## The lexer -/

inductive Mode where
  | between
  /-- Inside a word of which these characters are to come. -/
  | word (rest : List Char) (token : Token)
  | minus
  | zero (n : Numeral)
  | digits (n : Numeral)
  | point (n : Numeral)
  | fraction (n : Numeral)
  | exponentSign (n : Numeral)
  | exponentStart (n : Numeral) (negative : Bool)
  | exponent (n : Numeral) (negative : Bool)
  | text (pieces : List Piece)
  | escape (pieces : List Piece)
  /-- After so many hexadecimal digits of a unit. -/
  | unit (pieces : List Piece) (count value : Nat)

def isSpace (c : Char) : Bool := c = ' ' || c = '\n' || c = '\t' || c = '\r'

/-- A fault outside of strings. -/
def bad (fault : Fault) : List Token × Option Mode :=
  ([.broken false (.malformed fault) (.malformed fault)], none)

def badNumber : List Token × Option Mode := bad .invalidNumber

/-- A fault inside a string; the flag tells whether it also breaks up a pair. -/
def badText (pieces : List Piece) (breaksPair : Bool) (fault : Fault) : List Token × Option Mode :=
  ([breakText pieces (.malformed (if breaksPair then .halfPair else fault)) (.malformed fault)],
    none)

/-- The first character of a token. -/
def beginToken (c : Char) : List Token × Option Mode :=
  if isSpace c then ([], some .between)
  else if c = '\x7b' then ([.leftBrace], some .between)
  else if c = '\x7d' then ([.rightBrace], some .between)
  else if c = '[' then ([.leftBracket], some .between)
  else if c = ']' then ([.rightBracket], some .between)
  else if c = ':' then ([.colon], some .between)
  else if c = ',' then ([.comma], some .between)
  else if c = '"' then ([], some (.text []))
  else if c = '-' then ([], some .minus)
  else if c = '0' then ([], some (.zero ⟨false, ['0'], [], none⟩))
  else if c.isDigit then ([], some (.digits ⟨false, [c], [], none⟩))
  else if c = 'n' then ([], some (.word ['u', 'l', 'l'] .null))
  else if c = 't' then ([], some (.word ['r', 'u', 'e'] (.bool true)))
  else if c = 'f' then ([], some (.word ['a', 'l', 's', 'e'] (.bool false)))
  else bad .expectedValue

/-- A numeral ends at the first character that cannot belong to it. -/
def endNumber (n : Numeral) (c : Char) : List Token × Option Mode :=
  let (ts, mode) := beginToken c
  (.number n :: ts, mode)

/-- What may follow the digits before the point. -/
def afterWhole (n : Numeral) (c : Char) : List Token × Option Mode :=
  if c = '.' then ([], some (.point n))
  else if c = 'e' ∨ c = 'E' then ([], some (.exponentSign n))
  else endNumber n c

def hexValue? (c : Char) : Option Nat :=
  if c.isDigit then some (digitValue c)
  else if 'a' ≤ c ∧ c ≤ 'f' then some (c.toNat - 'a'.toNat + 10)
  else if 'A' ≤ c ∧ c ≤ 'F' then some (c.toNat - 'A'.toNat + 10)
  else none

/-- How many bytes there are in characters and faults, a fault counted as one. -/
def byteCount (cs : List (Option Char)) : Nat :=
  cs.foldl (fun n c => n + (c.map Char.utf8Size).getD 1) 0

def escapedChar? (c : Char) : Option Char :=
  if c = '"' ∨ c = '\\' ∨ c = '/' then some c
  else if c = 'b' then some (Char.ofNat 8)
  else if c = 'f' then some (Char.ofNat 12)
  else if c = 'n' then some '\n'
  else if c = 'r' then some '\r'
  else if c = 't' then some '\t'
  else none

/-- The tokens that a character completes, and the mode after it; no mode after a fault. -/
def Mode.step (mode : Mode) (c : Char) (rest : List (Option Char)) : List Token × Option Mode :=
  match mode with
  | .between => beginToken c
  | .word [] t =>
    let (ts, next) := beginToken c
    (t :: ts, next)
  | .word (x :: more) t =>
    if c = x then ([], some (.word more t)) else bad .expectedWord
  | .minus =>
    if c = '0' then ([], some (.zero ⟨true, ['0'], [], none⟩))
    else if c.isDigit then ([], some (.digits ⟨true, [c], [], none⟩))
    else badNumber
  | .zero n => if c.isDigit then badNumber else afterWhole n c
  | .digits n =>
    if c.isDigit then ([], some (.digits { n with whole := n.whole ++ [c] })) else afterWhole n c
  | .point n =>
    if c.isDigit then ([], some (.fraction { n with fraction := [c] })) else badNumber
  | .fraction n =>
    if c.isDigit then ([], some (.fraction { n with fraction := n.fraction ++ [c] }))
    else if c = 'e' ∨ c = 'E' then ([], some (.exponentSign n))
    else endNumber n c
  | .exponentSign n =>
    if c = '+' then ([], some (.exponentStart n false))
    else if c = '-' then ([], some (.exponentStart n true))
    else if c.isDigit then ([], some (.exponent { n with exponent := some (false, [c]) } false))
    else badNumber
  | .exponentStart n negative =>
    if c.isDigit then
      ([], some (.exponent { n with exponent := some (negative, [c]) } negative))
    else badNumber
  | .exponent n negative =>
    if c.isDigit then
      let ds := (n.exponent.map (·.2)).getD []
      ([], some (.exponent { n with exponent := some (negative, ds ++ [c]) } negative))
    else endNumber n c
  | .text pieces =>
    if c = '"' then ([closeText pieces], some .between)
    else if c = '\\' then ([], some (.escape pieces))
    else if c.toNat < 0x20 then badText pieces true .control
    else ([], some (.text (.plain c :: pieces)))
  | .escape pieces =>
    if c = 'u' then
      if byteCount (rest.take 4) < 4 then
        ([breakText pieces (.unfinished .text) (.unfinished .text)], none)
      else ([], some (.unit pieces 0 0))
    else
      match escapedChar? c with
      | some d => ([], some (.text (.plain d :: pieces)))
      | none => badText pieces true .invalidEscape
  | .unit pieces count value =>
    match hexValue? c with
    | none => badText pieces false .invalidEscape
    | some d =>
      if count = 3 then ([], some (.text (.unit (value * 16 + d) :: pieces)))
      else ([], some (.unit pieces (count + 1) (value * 16 + d)))

/-- What a fault of the document does: it goes into a string, and ends all else. -/
def Mode.stepFault : Mode → List Token × Option Mode
  | .text pieces => ([], some (.text (.fault :: pieces)))
  | .escape pieces => badText pieces true .invalidEscape
  | .unit pieces _ _ => badText pieces false .invalidEscape
  | .between => bad .expectedValue
  | .word [] t => ([t, .broken false (.malformed .expectedValue) (.malformed .expectedValue)], none)
  | .word _ _ => bad .expectedWord
  | .zero n | .digits n | .fraction n | .exponent n _ =>
    ([.number n, .broken false (.malformed .expectedValue) (.malformed .expectedValue)], none)
  | .minus | .point _ | .exponentSign _ | .exponentStart _ _ => badNumber

/-- What is left at the end of the document. -/
def Mode.finish : Mode → List Token
  | .between => []
  | .word [] t => [t]
  | .word _ _ => [.broken false (.unfinished .value) (.unfinished .value)]
  | .zero n | .digits n | .fraction n | .exponent n _ => [.number n]
  | .minus | .point _ | .exponentSign _ | .exponentStart _ _ =>
    [.broken false (.unfinished .value) (.malformed .invalidNumber)]
  | .text pieces | .escape pieces | .unit pieces _ _ =>
    [breakText pieces (.unfinished .text) (.unfinished .text)]

def scan : Mode → List (Option Char) → List Token
  | mode, [] => mode.finish
  | mode, c :: rest =>
    match c.elim mode.stepFault (mode.step · rest) with
    | (ts, some next) => ts ++ scan next rest
    | (ts, none) => ts

/-- The tokens of a document; `none` stands for bytes that are no text. -/
def tokens (document : List (Option Char)) : List Token := scan .between document

end Testbed.Json
