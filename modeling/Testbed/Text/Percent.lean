import Testbed.Uuid
/-!
# Percent-encoding

A byte that must not stand for itself is written as a percent sign and two hexadecimal digits.
Decoding leaves a percent sign alone that no two digits follow.
-/

namespace Testbed.Text.Percent

def upperDigit (n : Nat) : Char := (Uuid.hexDigit n).toUpper

def byte (b : UInt8) : List Char := ['%', upperDigit (b.toNat / 16), upperDigit (b.toNat % 16)]

def charBytes (c : Char) : List UInt8 := (String.singleton c).toUTF8.toList

/-- A character as itself if it may stand so, and else byte by byte. -/
def char (plain : Char → Bool) (c : Char) : List Char :=
  if plain c then [c] else (charBytes c).flatMap byte

def encode (plain : Char → Bool) (cs : List Char) : List Char := cs.flatMap (char plain)

/-- The bytes that a text stands for. -/
def decode : List Char → List UInt8
  | [] => []
  | '%' :: a :: b :: rest =>
    match Uuid.digitValue? a, Uuid.digitValue? b with
    | some x, some y => UInt8.ofNat (x * 16 + y) :: decode rest
    | _, _ => 0x25 :: decode (a :: b :: rest)
  | c :: rest => charBytes c ++ decode rest

end Testbed.Text.Percent
