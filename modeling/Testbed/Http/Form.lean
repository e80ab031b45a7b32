import Testbed.Text.Percent
import Testbed.Text.Split
import Testbed.Text.Utf8
/-!
# Forms

Names with values as they stand in the query of an address: joined by equals signs and ampersands,
with blanks as plus signs and nearly all else percent-encoded.
-/

namespace Testbed.Http.Form

open Text

/-- The characters that stand for themselves. -/
def isPlain (c : Char) : Bool :=
  c.isAlphanum || c = '*' || c = '-' || c = '.' || c = '_'

def encodeText (s : String) : List Char :=
  s.toList.flatMap fun c => if c = ' ' then ['+'] else Percent.char isPlain c

def encodePair (p : String × String) : List Char := encodeText p.1 ++ '=' :: encodeText p.2

def encode (pairs : List (String × String)) : String :=
  String.ofList (['&'].intercalate (pairs.map encodePair))

def decodeText (cs : List Char) : String :=
  Utf8.lossy (Percent.decode (cs.map fun c => if c = '+' then ' ' else c))

def decodePair (cs : List Char) : String × String :=
  (decodeText (cs.takeWhile (· ≠ '=')), decodeText ((cs.dropWhile (· ≠ '=')).drop 1))

def decode (query : String) : List (String × String) :=
  ((split '&' query.toList).filter fun piece => !piece.isEmpty).map decodePair

end Testbed.Http.Form
