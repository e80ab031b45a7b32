/-!
# Universally unique identifiers

128 bits, written as 32 lower-case hexadecimal digits in groups of 8, 4, 4, 4 and 12. Four spellings
are read: with hyphens, without, in braces, and after `urn:uuid:` in any case.
-/

namespace Testbed

structure Uuid where
  bits : BitVec 128
  deriving DecidableEq

namespace Uuid

def hexDigit (n : Nat) : Char := (Nat.toDigits 16 (n % 16)).headD '0'

/-- The 32 digits. -/
def digits (u : Uuid) : List Char :=
  (List.range 32).map fun i => hexDigit (u.bits.toNat / Nat.pow 16 (31 - i))

/-- Hyphens follow the 8th, 12th, 16th and 20th digit. -/
def chars (u : Uuid) : List Char :=
  let ds := u.digits
  ds.take 8 ++ '-' :: (ds.drop 8).take 4 ++ '-' :: (ds.drop 12).take 4 ++
    '-' :: (ds.drop 16).take 4 ++ '-' :: ds.drop 20

def text (u : Uuid) : String := String.ofList u.chars

def digitValue? (c : Char) : Option Nat :=
  if '0' ≤ c ∧ c ≤ '9' then some (c.toNat - '0'.toNat)
  else if 'a' ≤ c ∧ c ≤ 'f' then some (c.toNat - 'a'.toNat + 10)
  else if 'A' ≤ c ∧ c ≤ 'F' then some (c.toNat - 'A'.toNat + 10)
  else none

def ofDigits? (cs : List Char) : Option Uuid :=
  if cs.length = 32 then
    (cs.mapM digitValue?).map fun ds => ⟨BitVec.ofNat 128 (ds.foldl (fun n d => n * 16 + d) 0)⟩
  else none

def ofHyphenated? (cs : List Char) : Option Uuid :=
  if cs.length = 36 ∧ cs[8]? = some '-' ∧ cs[13]? = some '-' ∧ cs[18]? = some '-' ∧
      cs[23]? = some '-' then
    ofDigits? (cs.take 8 ++ (cs.drop 9).take 4 ++ (cs.drop 14).take 4 ++ (cs.drop 19).take 4 ++
      cs.drop 24)
  else none

def scheme : List Char := "urn:uuid:".toList

def ofChars? (cs : List Char) : Option Uuid :=
  if (cs.take scheme.length).map Char.toLower = scheme then ofHyphenated? (cs.drop scheme.length)
  else
    match cs with
    | '\x7b' :: rest =>
      if rest.getLast? = some '\x7d' then ofHyphenated? rest.dropLast else none
    | cs => if cs.length = 32 then ofDigits? cs else ofHyphenated? cs

def ofText? (s : String) : Option Uuid := ofChars? s.toList

/-- Random bits with the marks of a random identifier: version 4, variant 1. -/
def ofRandom (n : Nat) : Uuid :=
  let b := BitVec.ofNat 128 n
  let cleared := b &&& ~~~((0xF000 : BitVec 128) <<< 64) &&& ~~~((0xC000 : BitVec 128) <<< 48)
  ⟨cleared ||| ((0x4000 : BitVec 128) <<< 64) ||| ((0x8000 : BitVec 128) <<< 48)⟩

def isNil (u : Uuid) : Bool := u.bits == 0

/-- The digit that says how the identifier was made. -/
def version (u : Uuid) : Nat := u.bits.toNat / Nat.pow 16 19 % 16

end Uuid

end Testbed
