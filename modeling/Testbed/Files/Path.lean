import Testbed.Text.Split
/-!
# Paths

Paths are text with slashes. Joining an absolute path replaces what stood before it.
-/

namespace Testbed.Path

def isAbsolute (p : String) : Bool := p.toList.head? = some '/'

def join (base part : String) : String :=
  if isAbsolute part || base.isEmpty then part
  else if base.toList.getLast? = some '/' then base ++ part
  else base ++ "/" ++ part

/-- The pieces that name something: neither empty nor a single dot. -/
def components (p : String) : List String :=
  ((Text.split '/' p.toList).map String.ofList).filter fun c => c ≠ "" ∧ c ≠ "."

/-- The last component, unless it leads upwards. -/
def fileName? (p : String) : Option String :=
  match (components p).getLast? with
  | some ".." => none
  | other => other

end Testbed.Path
