/-!
# Base 64

Three bytes are four characters of six bits each. Equals signs fill the last group up.
-/

namespace Testbed.Text.Base64

def alphabet : List Char :=
  "ABCDEFGHIJKLMNOPQRSTUVWXYZabcdefghijklmnopqrstuvwxyz0123456789+/".toList

def digit (n : Nat) : Char := alphabet.getD (n % 64) 'A'

/-- The four digits of 24 bits. -/
def digits (n : Nat) : List Char :=
  [digit (n / 262144), digit (n / 4096), digit (n / 64), digit n]

def encode : List UInt8 → List Char
  | [] => []
  | [a] => (digits (a.toNat * 65536)).take 2 ++ ['=', '=']
  | [a, b] => (digits (a.toNat * 65536 + b.toNat * 256)).take 3 ++ ['=']
  | a :: b :: c :: rest =>
    digits (a.toNat * 65536 + b.toNat * 256 + c.toNat) ++ encode rest

end Testbed.Text.Base64
