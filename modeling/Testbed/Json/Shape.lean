import Testbed.Json.Token
import Testbed.Json.Value
import Testbed.NameMap
import Testbed.Text.Quoted
import Testbed.Uuid
/-!
# Reading JSON of an expected shape

A `Shape` says what a document has to look like. Its `reader` goes through the tokens once and stops
at the first problem in document order, be it lexical, grammatical or one of shape. A value that is
read is normal: records have all their fields in declared order with defaults filled in, tables list
their names in ascending order.

Records may be written as objects, with fields in any order and unknown ones skipped, or as lists of
their fields in declared order.
-/

namespace Testbed.Json

/-- A range of whole numbers and its name. -/
structure Range where
  name : String
  low : Int
  high : Int

def Range.u16 : Range := ⟨"u16", 0, 0xFFFF⟩
def Range.u32 : Range := ⟨"u32", 0, 0xFFFFFFFF⟩
def Range.i32 : Range := ⟨"i32", -0x80000000, 0x7FFFFFFF⟩
def Range.u64 : Range := ⟨"u64", 0, 0xFFFFFFFFFFFFFFFF⟩
def Range.usize : Range := ⟨"usize", 0, 0xFFFFFFFFFFFFFFFF⟩
def Range.i64 : Range := ⟨"i64", -0x8000000000000000, 0x7FFFFFFFFFFFFFFF⟩

inductive Shape where
  /-- Any text; the string names what is expected. -/
  | text (expected : String)
  | uuid
  | flag
  | whole (range : Range)
  /-- Null or the given shape. A field of this shape may be left out of an object. -/
  | maybe (s : Shape)
  /-- Null or the given shape. A field of this shape has to be there. -/
  | nullable (s : Shape)
  | list (s : Shape)
  /-- An object with any names. -/
  | table (s : Shape)
  /-- An object without members. -/
  | empty
  /-- One of some words. -/
  | choice (words : List String)
  /-- Named fields, some with a default. -/
  | record (name : String) (fields : List (String × Shape × Option Json))

abbrev Reader := List Token → Except Problem (Json × List Token)

/-! ## Refusals -/

/-- The refusal of a value of another kind than expected. Nothing but the start of a list or an
object is looked at; a scalar has to be sound before it is refused. -/
def refuse (expected : String) : List Token → Problem
  | [] => .unfinished .value
  | .null :: _ => .mismatch ("invalid type: null, expected " ++ expected)
  | .bool b :: _ =>
    .mismatch ("invalid type: boolean `" ++ toString b ++ "`, expected " ++ expected)
  | .number n :: _ =>
    match n.value with
    | .whole i => .mismatch ("invalid type: integer `" ++ toString i ++ "`, expected " ++ expected)
    | .float x =>
      .mismatch ("invalid type: floating point `" ++ Decimal.text x ++ "`, expected " ++ expected)
    | .tooLarge => .malformed .numberTooLarge
  | .text (.ok s) :: _ =>
    .mismatch ("invalid type: string " ++ Text.quoted s ++ ", expected " ++ expected)
  | .text (.error p) :: _ => p
  | .leftBracket :: _ => .mismatch ("invalid type: sequence, expected " ++ expected)
  | .leftBrace :: _ => .mismatch ("invalid type: map, expected " ++ expected)
  | .broken _ p _ :: _ => p
  | .rightBrace :: _ | .rightBracket :: _ | .colon :: _ | .comma :: _ => .malformed .expectedValue

/-- The expected words as a message lists them. -/
def wordList : List String → String
  | [] => "there are no variants"
  | [a] => "expected `" ++ a ++ "`"
  | [a, b] => "expected `" ++ a ++ "` or `" ++ b ++ "`"
  | a :: rest => "expected one of `" ++ String.intercalate "`, `" (a :: rest) ++ "`"

/-! ## Skipping -/

/-- What surrounds a skipped value. -/
inductive Enclosure where
  | bracket
  | brace

/-- What is missing where a document ends inside. -/
def Enclosure.unfinished : Enclosure → Problem
  | .bracket => .unfinished .list
  | .brace => .unfinished .object

/-- Where a skipping reader stands: before a value, after one, or inside an object before a name or
a colon. `opened` means that nothing was read yet since the enclosure was opened. -/
inductive SkipState where
  | value (opened : Bool)
  | after
  | name
  | colon

/-- What is missing where a skipping reader meets the end. -/
def SkipState.unfinished : SkipState → List Enclosure → Problem
  | .value true, e :: _ | .after, e :: _ => e.unfinished
  | .value _, _ | .after, _ => .unfinished .value
  | .name, _ | .colon, _ => .unfinished .object

/-- Skips one value of any kind. The stack holds what surrounds the place that is reached. -/
def skip : SkipState → List Enclosure → List Token → Except Problem (List Token)
  | .after, [], ts => .ok ts
  | state, stack, [] => .error (state.unfinished stack)
  | .value opened, stack, t :: ts =>
    match t, opened, stack with
    | .rightBracket, true, .bracket :: outer => skip .after outer ts
    | .leftBracket, _, _ => skip (.value true) (.bracket :: stack) ts
    | .leftBrace, _, _ =>
      match ts with
      | .rightBrace :: rest => skip .after stack rest
      | ts => skip .name (.brace :: stack) ts
    | .null, _, _ | .bool _, _, _ | .number _, _, _ | .text _, _, _ => skip .after stack ts
    | .broken _ _ p, _, _ => .error p
    | _, _, _ => .error (.malformed .expectedValue)
  | .after, .bracket :: outer, t :: ts =>
    match t with
    | .comma => skip (.value false) (.bracket :: outer) ts
    | .rightBracket => skip .after outer ts
    | _ => .error (.malformed .expectedItem)
  | .after, .brace :: outer, t :: ts =>
    match t with
    | .comma => skip .name (.brace :: outer) ts
    | .rightBrace => skip .after outer ts
    | _ => .error (.malformed .expectedMember)
  | .name, stack, t :: ts =>
    match t with
    | .text _ => skip .colon stack ts
    | .broken true _ p => .error p
    | _ => .error (.malformed .nameNotText)
  | .colon, stack, t :: ts =>
    match t with
    | .colon => skip (.value false) stack ts
    | _ => .error (.malformed .expectedColon)

def skipValue (ts : List Token) : Except Problem (List Token) := skip (.value false) [] ts

/-! ## Lists and objects -/

/-- Goes to the next item of a list: `none` at its end. -/
def nextItem (first : Bool) : List Token → Except Problem (Option (List Token))
  | [] => .error (.unfinished .list)
  | .rightBracket :: _ => .ok none
  | .comma :: ts =>
    if first then .ok (some (.comma :: ts))
    else
      match ts with
      | [] => .error (.unfinished .value)
      | .rightBracket :: _ => .error (.malformed .trailingComma)
      | ts => .ok (some ts)
  | ts => if first then .ok (some ts) else .error (.malformed .expectedItem)

/-- The name of a member, and what follows its literal. -/
def readName : List Token → Except Problem (Option (String × List Token))
  | .text (.ok s) :: rest => .ok (some (s, rest))
  | .text (.error p) :: _ => .error p
  | .broken true p _ :: _ => .error p
  | _ => .error (.malformed .nameNotText)

/-- Goes to the next name of an object and over its literal: `none` at the end of the object. -/
def nextName (first : Bool) : List Token → Except Problem (Option (String × List Token))
  | [] => .error (.unfinished .object)
  | .rightBrace :: _ => .ok none
  | .comma :: ts =>
    if first then .error (.malformed .nameNotText)
    else
      match ts with
      | [] => .error (.unfinished .value)
      | .rightBrace :: _ => .error (.malformed .trailingComma)
      | ts => readName ts
  | ts => if first then readName ts else .error (.malformed .expectedMember)

def expectColon : List Token → Except Problem (List Token)
  | [] => .error (.unfinished .object)
  | .colon :: ts => .ok ts
  | _ => .error (.malformed .expectedColon)

/-- Reads the items of a list up to and over its end. The fuel bounds the number of items. -/
def readItems (item : Reader) :
    (fuel : Nat) → (first : Bool) → List Token → Except Problem (List Json × List Token)
  | 0, _, _ => .error (.unfinished .value)
  | fuel + 1, first, ts => do
    match ← nextItem first ts with
    | none => .ok ([], ts.tail)
    | some ts =>
      let (j, ts) ← item ts
      let (js, ts) ← readItems item fuel false ts
      .ok (j :: js, ts)

/-- Reads the members of a table up to and over its end. -/
def readEntries (item : Reader) :
    (fuel : Nat) → (first : Bool) → List Token →
      Except Problem (List (String × Json) × List Token)
  | 0, _, _ => .error (.unfinished .value)
  | fuel + 1, first, ts => do
    match ← nextName first ts with
    | none => .ok ([], ts.tail)
    | some (name, ts) =>
      let (j, ts) ← item (← expectColon ts)
      let (js, ts) ← readEntries item fuel false ts
      .ok ((name, j) :: js, ts)

/-! ## Records -/

/-- A field with the reader of its shape. -/
structure FieldReader where
  name : String
  read : Reader
  /-- What the field is where a list ends before it. -/
  default : Option Json
  /-- What it is where an object leaves it out. -/
  omitted : Option Json

/-- Reads the members of a record up to and over its end, on top of those already read. -/
def readMembers (fields : List FieldReader) :
    (fuel : Nat) → (first : Bool) → (seen : List (String × Json)) → List Token →
      Except Problem (List (String × Json) × List Token)
  | 0, _, _, _ => .error (.unfinished .value)
  | fuel + 1, first, seen, ts => do
    match ← nextName first ts with
    | none => .ok (seen, ts.tail)
    | some (name, ts) =>
      match fields.find? (·.name = name) with
      | none =>
        let ts ← skipValue (← expectColon ts)
        readMembers fields fuel false seen ts
      | some field =>
        if seen.any (·.1 = name) then .error (.mismatch ("duplicate field `" ++ name ++ "`"))
        else
          let (j, ts) ← field.read (← expectColon ts)
          readMembers fields fuel false (seen ++ [(name, j)]) ts

/-- Puts the members that were read into declared order and fills in defaults. -/
def completeMembers (seen : List (String × Json)) :
    List FieldReader → Except Problem (List (String × Json))
  | [] => .ok []
  | field :: rest => do
    match (seen.find? (·.1 = field.name)).map (·.2), field.omitted with
    | some j, _ | none, some j => return (field.name, j) :: (← completeMembers seen rest)
    | none, none => .error (.mismatch ("missing field `" ++ field.name ++ "`"))

/-- Reads a record written as a list; `index` counts the fields already read. -/
def readPositional (expected : String) :
    (index : Nat) → List FieldReader → List Token →
      Except Problem (List (String × Json) × List Token)
  | _, [], ts => .ok ([], ts)
  | index, field :: rest, ts => do
    match ← nextItem (index = 0) ts with
    | some ts =>
      let (j, ts) ← field.read ts
      let (js, ts) ← readPositional expected (index + 1) rest ts
      .ok ((field.name, j) :: js, ts)
    | none =>
      match field.default with
      | some j =>
        let (js, ts) ← readPositional expected (index + 1) rest ts
        .ok ((field.name, j) :: js, ts)
      | none =>
        .error (.mismatch ("invalid length " ++ toString index ++ ", expected " ++ expected))

/-- A record of so many fields, as a message names it. -/
def recordText (name : String) (count : Nat) : String :=
  "struct " ++ name ++ " with " ++ toString count ++ (if count = 1 then " element" else " elements")

def closeList : List Token → Except Problem (List Token)
  | [] => .error (.unfinished .list)
  | .rightBracket :: ts => .ok ts
  | .comma :: .rightBracket :: _ => .error (.malformed .trailingComma)
  | _ => .error (.malformed .trailingText)

def readRecord (name : String) (fields : List FieldReader) : Reader
  | .leftBrace :: ts => do
    let (seen, ts) ← readMembers fields (ts.length + 1) true [] ts
    .ok (.object (← completeMembers seen fields), ts)
  | .leftBracket :: ts => do
    let (members, ts) ← readPositional (recordText name fields.length) 0 fields ts
    .ok (.object members, ← closeList ts)
  | ts => .error (refuse ("struct " ++ name) ts)

/-! ## Scalars -/

def readText (expected : String) : Reader
  | .text (.ok s) :: ts => .ok (.text s, ts)
  | ts => .error (refuse expected ts)

def readUuid : Reader
  | .text (.ok s) :: ts =>
    match Uuid.ofText? s with
    | some u => .ok (.text u.text, ts)
    | none => .error (.mismatch "UUID parsing failed")
  | ts => .error (refuse "a formatted UUID string" ts)

def readNullOr (read : Reader) : Reader
  | .null :: ts => .ok (.null, ts)
  | ts => read ts

def readFlag : Reader
  | .bool b :: ts => .ok (.bool b, ts)
  | ts => .error (refuse "a boolean" ts)

def readWhole (range : Range) : Reader
  | .number n :: ts =>
    match n.value with
    | .whole i =>
      if range.low ≤ i ∧ i ≤ range.high then .ok (.number i, ts)
      else
        .error (.mismatch
          ("invalid value: integer `" ++ toString i ++ "`, expected " ++ range.name))
    | _ => .error (refuse range.name (.number n :: ts))
  | ts => .error (refuse range.name ts)

def checkWord (words : List String) (w : String) : Except Problem Json :=
  if words.contains w then .ok (.text w)
  else .error (.mismatch ("unknown variant `" ++ w ++ "`, " ++ wordList words))

/-- A word stands alone, or is the name of a null member. -/
def readChoice (words : List String) : Reader
  | [] => .error (.unfinished .value)
  | .text (.ok w) :: ts => do .ok (← checkWord words w, ts)
  | .text (.error p) :: _ => .error p
  | .broken true p _ :: _ => .error p
  | .leftBrace :: .text (.ok w) :: ts => do
    let j ← checkWord words w
    match ← expectColon ts with
    | .null :: .rightBrace :: rest => .ok (j, rest)
    | [.null] => .error (.unfinished .object)
    | .null :: _ => .error (.malformed .expectedValue)
    | ts => .error (refuse "unit" ts)
  | .leftBrace :: ts => .error (refuse "variant identifier" ts)
  | _ => .error (.malformed .expectedValue)

/-- No name of a member is as expected, so the first one is refused. -/
def readEmpty : Reader
  | .leftBrace :: ts => do
    match ← nextName true ts with
    | none => .ok (.object [], ts.tail)
    | some (name, _) =>
      .error (.mismatch ("invalid type: string " ++ Text.quoted name ++ ", expected unit"))
  | ts => .error (refuse "a map" ts)

/-! ## Shapes -/

mutual

def Shape.reader : Shape → Reader
  | .text expected => readText expected
  | .uuid => readUuid
  | .flag => readFlag
  | .whole range => readWhole range
  | .maybe s | .nullable s => readNullOr s.reader
  | .list s => fun ts =>
    match ts with
    | .leftBracket :: rest => do
      let (js, rest) ← readItems s.reader (rest.length + 1) true rest
      .ok (.list js, rest)
    | ts => .error (refuse "a sequence" ts)
  | .table s => fun ts =>
    match ts with
    | .leftBrace :: rest => do
      let (js, rest) ← readEntries s.reader (rest.length + 1) true rest
      .ok (.object (NameMap.ofList js).entries, rest)
    | ts => .error (refuse "a map" ts)
  | .empty => readEmpty
  | .choice words => readChoice words
  | .record name fields => readRecord name (fieldReaders fields)

def fieldReaders : List (String × Shape × Option Json) → List FieldReader
  | [] => []
  | (name, .maybe s, none) :: rest =>
    ⟨name, (Shape.maybe s).reader, none, some .null⟩ :: fieldReaders rest
  | (name, shape, default) :: rest => ⟨name, shape.reader, default, default⟩ :: fieldReaders rest

end

/-- Reads a whole document; `none` stands for bytes that are no text. -/
def Shape.read (s : Shape) (document : List (Option Char)) : Except Problem Json := do
  match ← s.reader (tokens document) with
  | (j, []) => .ok j
  | _ => .error (.malformed .trailingText)

end Testbed.Json
