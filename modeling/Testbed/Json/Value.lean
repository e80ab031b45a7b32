/-!
# JSON values and their written form

Numbers are whole: the testbed writes no others. Members of an object stand in the order they were
given in. `compact` writes a value without any blank, `pretty` with one item a line and two blanks
for each level.
-/

namespace Testbed

inductive Json where
  | null
  | bool (b : Bool)
  | number (n : Int)
  | text (s : String)
  | list (items : List Json)
  | object (members : List (String × Json))
  deriving Inhabited

namespace Json

/-- Four hexadecimal digits. -/
def hex4 (n : Nat) : List Char :=
  let ds := Nat.toDigits 16 n
  List.replicate (4 - ds.length) '0' ++ ds

/-- One character of a string literal. Only quotes, backslashes and controls are escaped. -/
def escapeChar (c : Char) : List Char :=
  if c = '"' then ['\\', '"']
  else if c = '\\' then ['\\', '\\']
  else if c = '\n' then ['\\', 'n']
  else if c = '\r' then ['\\', 'r']
  else if c = '\t' then ['\\', 't']
  else if c.toNat = 8 then ['\\', 'b']
  else if c.toNat = 12 then ['\\', 'f']
  else if c.toNat < 0x20 then '\\' :: 'u' :: hex4 c.toNat
  else [c]

def literal (s : String) : List Char := '"' :: (s.toList.flatMap escapeChar ++ ['"'])

def integer (n : Int) : List Char :=
  if n < 0 then '-' :: Nat.toDigits 10 n.natAbs else Nat.toDigits 10 n.natAbs

mutual

def compact : Json → List Char
  | .null => ['n', 'u', 'l', 'l']
  | .bool true => ['t', 'r', 'u', 'e']
  | .bool false => ['f', 'a', 'l', 's', 'e']
  | .number n => integer n
  | .text s => literal s
  | .list [] => ['[', ']']
  | .list (j :: rest) => '[' :: (compact j ++ compactItems rest ++ [']'])
  | .object [] => ['\x7b', '\x7d']
  | .object ((k, j) :: rest) =>
    '\x7b' :: (literal k ++ ':' :: (compact j ++ compactMembers rest ++ ['\x7d']))

def compactItems : List Json → List Char
  | [] => []
  | j :: rest => ',' :: (compact j ++ compactItems rest)

def compactMembers : List (String × Json) → List Char
  | [] => []
  | (k, j) :: rest => ',' :: (literal k ++ ':' :: (compact j ++ compactMembers rest))

end

/-- A new line that starts with so many blanks. -/
def newline (indent : Nat) : List Char := '\n' :: List.replicate indent ' '

mutual

def prettyAt (indent : Nat) : Json → List Char
  | .null => ['n', 'u', 'l', 'l']
  | .bool true => ['t', 'r', 'u', 'e']
  | .bool false => ['f', 'a', 'l', 's', 'e']
  | .number n => integer n
  | .text s => literal s
  | .list [] => ['[', ']']
  | .list (j :: rest) =>
    '[' :: (newline (indent + 2) ++ prettyAt (indent + 2) j ++ prettyItems (indent + 2) rest ++
      newline indent ++ [']'])
  | .object [] => ['\x7b', '\x7d']
  | .object ((k, j) :: rest) =>
    '\x7b' :: (newline (indent + 2) ++ literal k ++ ':' :: ' ' :: prettyAt (indent + 2) j ++
      prettyMembers (indent + 2) rest ++ newline indent ++ ['\x7d'])

def prettyItems (indent : Nat) : List Json → List Char
  | [] => []
  | j :: rest => ',' :: (newline indent ++ prettyAt indent j ++ prettyItems indent rest)

def prettyMembers (indent : Nat) : List (String × Json) → List Char
  | [] => []
  | (k, j) :: rest =>
    ',' :: (newline indent ++ literal k ++ ':' :: ' ' :: prettyAt indent j ++
      prettyMembers indent rest)

end

def pretty (j : Json) : String := String.ofList (prettyAt 0 j)

end Json

end Testbed
