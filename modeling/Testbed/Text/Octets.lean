import Testbed.Text.Utf8
/-!
# Bytes written as characters

Text of which only the bytes matter, because it may be cut anywhere, is kept as a list of
characters below 256: each stands for the byte of its number. So ASCII text is written as usual.
-/

namespace Testbed.Text

abbrev Octets := List Char

namespace Octets

def ofBytes (bytes : List UInt8) : Octets := bytes.map fun b => Char.ofNat b.toNat

def toBytes (cs : Octets) : List UInt8 := cs.map fun c => UInt8.ofNat c.toNat

/-- The bytes of a text in UTF-8. -/
def ofString (s : String) : Octets := ofBytes s.toUTF8.toList

/-- The text that the bytes are in UTF-8, where every fault becomes a replacement character. -/
def text (cs : Octets) : String := Utf8.lossy (toBytes cs)

end Octets

end Testbed.Text
