import Testbed.Domain.Composition
import Testbed.Domain.Direction
import Testbed.Domain.Joiner
import Testbed.Domain.Mapping
import Testbed.Domain.Punycode
/-!
# Domain names

A name is labels with dots between them. It is looked up in ASCII: a label with other characters is
encoded and marked. Capital letters and other forms of a character make no difference, an encoded
label stands for what it encodes, and what cannot be read in one way only is no name.

Names are looked at where the client of the hypervisor is given an address (`Http.Host`), and decide
only which host is asked, or that the address is refused. Results are about what is asked and
answered, whatever host that is; there are none about names.
-/

namespace Testbed.Domain

/-- How an encoded label starts. -/
def marker : List Char := ['x', 'n', '-', '-']

/-- Whether a label may stand in a name as it is. -/
def isSound (label : List Char) : Bool :=
  label.all isSettled && compose label = label && !(label.head?.map isMark).getD false &&
    joinersFit label

/-- The label that is meant: what an encoded one stands for, and else itself. An encoded label has
to need the encoding. -/
def meaning? (label : List Char) : Option (List Char) :=
  if marker.isPrefixOf label then do
    let meant ← Punycode.decode? (label.drop marker.length)
    let needed := label.all Punycode.isPlain && !meant.all Punycode.isPlain
    if needed && isSound meant && !marker.isPrefixOf meant then some meant else none
  else if label.all Punycode.isPlain || isSound label then some label
  else none

/-- A label in ASCII. -/
def written (label : List Char) : List Char :=
  if label.all Punycode.isPlain then label else marker ++ Punycode.encode label

/-- What no name holds, for it means something else where names are used. -/
def isForbidden (c : Char) : Bool :=
  c.toNat ≤ 0x20 || c.toNat = 0x7F || "%#/:<>?@[\\]^|".toList.contains c

/-- A name as it is looked up. -/
def ofText? (cs : List Char) : Option (List Char) := do
  let labels ← (Text.split '.' (compose (← mapChars? cs))).mapM meaning?
  if !areReadable labels then none
  else
    let name := ['.'].intercalate (labels.map written)
    if name.any isForbidden then none else some name

end Testbed.Domain
