import Testbed.Uuid
/-!
# Bytes as hexadecimal digits
-/

namespace Testbed.Text.Hex

def encodeByte (b : UInt8) : List Char := [Uuid.hexDigit (b.toNat / 16), Uuid.hexDigit b.toNat]

def encode (bytes : List UInt8) : String := String.ofList (bytes.flatMap encodeByte)

def decodeChars : List Char → Option (List UInt8)
  | [] => some []
  | [_] => none
  | a :: b :: rest => do
    let high ← Uuid.digitValue? a
    let low ← Uuid.digitValue? b
    return UInt8.ofNat (high * 16 + low) :: (← decodeChars rest)

/-- The bytes that pairs of digits stand for. -/
def decode? (s : String) : Option (List UInt8) := decodeChars s.toList

end Testbed.Text.Hex
